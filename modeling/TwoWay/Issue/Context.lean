import TwoWay.Issue.Basic
import TwoWay.Vocabulary

/-!
# Issue contexts

Issues are collected in contexts. A context stands at a path and writes to a list of
issues. Its children stand further down and write to the same list; a fork stands where
it does and writes to a list of its own. A step that is refused changes nothing.
-/

namespace TwoWay

variable {κ : Type}

/-- A place to report issues from. `sink` is the number of the list it writes to. -/
structure Context (κ : Type) where
  path : Path κ := []
  sink : Nat := 0

/-- Contexts in the order they were opened, and the lists they write to. -/
structure Contexts (κ : Type) where
  opened : List (Context κ) := [{}]
  sinks : List (List (Issue κ)) := [[]]

namespace Contexts

/-- The context of a number; unknown numbers stand for the root. -/
def context (cs : Contexts κ) (i : Nat) : Context κ := cs.opened[i]?.getD {}

/-- The issues that a context can see. -/
def issues (cs : Contexts κ) (c : Context κ) : List (Issue κ) := cs.sinks[c.sink]?.getD []

/-- Opens a child one segment further down. -/
def child (cs : Contexts κ) (i : Nat) (segment : Value κ) : Contexts κ :=
  let c := cs.context i
  { cs with opened := cs.opened ++ [{ c with path := c.path ++ [segment] }] }

/-- Opens a fork. -/
def fork (cs : Contexts κ) (i : Nat) : Contexts κ :=
  { opened := cs.opened ++ [⟨(cs.context i).path, cs.sinks.length⟩], sinks := cs.sinks ++ [[]] }

/-- Reports an issue below the path of a context. -/
def report (cs : Contexts κ) (i : Nat) (code : IssueCode) (message : String) (below : Path κ)
    (details : List (String × Detail κ (Issue κ))) : Contexts κ :=
  let c := cs.context i
  { cs with sinks := cs.sinks.modify c.sink (· ++ [⟨code, message, c.path ++ below, details⟩]) }

end Contexts

/-- What can be done with the context of a number. -/
inductive ContextStep (κ : Type) where
  | child (on : Nat) (segment : Value κ)
  | fork (on : Nat)
  /-- Reports an issue; the code is given as a value. -/
  | report (on : Nat) (code : Value κ) (message : String) (below : Path κ)
      (details : List (String × Value κ))

namespace ContextStep

/-- The number of the context that a step works on. -/
def on : ContextStep κ → Nat
  | .child i _ | .fork i | .report i .. => i

end ContextStep

/-- The issue code that a value names. -/
def IssueCode.ofValue [Handle κ] (v : Value κ) : Except Malformed IssueCode := do
  let term ← Vocabulary.issueCode.find v
  return (IssueCode.ofText? term.word).getD .custom

namespace Contexts

variable [Handle κ]

def step (cs : Contexts κ) : ContextStep κ → Except Malformed (Contexts κ)
  | .child i segment => .ok (cs.child i segment)
  | .fork i => .ok (cs.fork i)
  | .report i code message below details => do
    let code ← IssueCode.ofValue code
    return cs.report i code message below (details.map fun d => (d.1, .value d.2))

/-- The outcomes of steps made in order. -/
def run : Contexts κ → List (ContextStep κ) → List (Except Malformed (Contexts κ))
  | _, [] => []
  | cs, s :: rest =>
    match cs.step s with
    | .ok next => .ok next :: run next rest
    | .error m => .error m :: run cs rest

end Contexts
end TwoWay
