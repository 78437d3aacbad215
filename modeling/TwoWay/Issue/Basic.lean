import TwoWay.Issue.Code
import TwoWay.Value.Equality

/-!
# Issues

An issue is one reason why a value was refused: a code, a message, the path from the
root of the input to the refused part, and details that depend on the code. The issues
of failed alternatives are details of the issue that sums them up.
-/

namespace TwoWay

/-- Keys and positions from the root, outermost first. -/
abbrev Path (κ : Type) := List (Value κ)

/-- What an issue says beyond its message. -/
inductive Detail (κ ι : Type) where
  | value (v : Value κ)
  | issues (list : List ι)
  | branches (lists : List (List ι))

structure Issue (κ : Type) where
  code : IssueCode
  message : String
  path : Path κ
  details : List (String × Detail κ (Issue κ))

namespace Issue

variable {κ : Type}

/-- Issues are compared without their details. -/
def equal [Handle κ] (a b : Issue κ) : Bool :=
  decide (a.code = b.code) && a.message == b.message && Value.equalItems a.path b.path

/-- Writes under a name, in place of an earlier detail of that name. -/
def putDetail {α : Type} : List (String × α) → String → α → List (String × α)
  | [], name, detail => [(name, detail)]
  | (n, d) :: rest, name, detail =>
    if n = name then (n, detail) :: rest else (n, d) :: putDetail rest name detail

/-- The issue as named fields. A detail takes the place of a field of its name. -/
def fields (issue : Issue κ) : List (String × Detail κ (Issue κ)) :=
  issue.details.foldl (fun fs d => putDetail fs d.1 d.2) [
    ("code", .value (.str issue.code.text)),
    ("message", .value (.str issue.message)),
    ("path", .value (.list .free issue.path))]

end Issue
end TwoWay
