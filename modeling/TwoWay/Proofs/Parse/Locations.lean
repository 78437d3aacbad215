import TwoWay.Proofs.Parse.Addresses
import TwoWay.Proofs.Parse.Total

/-!
# Which refusals can be reported

A report writes out the path of every issue, and not every path can be written out: a text cannot be
appended to a segment that is none, and a path may be left with such a segment alone
(`location_written`). The segments of a path are positions, names and keys of the value, so that it
is up to its keys whether a refusal can be reported (`Library.refusals_reported`). It can be if all
keys are texts and integers; if a number is a key, it may be that it cannot
(`Tables.crashes_on_report`).
-/

namespace TwoWay

namespace Value

def isText : Datum → Bool
  | .str _ => true
  | _ => false

/-- Integers and truth values are written as positions. -/
def isPosition : Datum → Bool
  | .int _ | .bool _ => true
  | _ => false

/-- What follows a blank segment takes its place, if it is no position. -/
def isBlank (segment : Datum) : Bool := !segment.isPosition && !segment.truthy

/-- The keys of the mappings in a value, at any depth. -/
inductive HasKey : Datum → Datum → Prop
  | here {access : Access} {entries : Entries Live} {k x : Datum} (h : (k, x) ∈ entries) :
    HasKey (.dict access entries) k
  | inKey {access : Access} {entries : Entries Live} {k l x : Datum} (h : (l, x) ∈ entries)
    (hk : HasKey l k) : HasKey (.dict access entries) k
  | inValue {access : Access} {entries : Entries Live} {k l x : Datum} (h : (l, x) ∈ entries)
    (hk : HasKey x k) : HasKey (.dict access entries) k
  | inList {access : Access} {items : List Datum} {k x : Datum} (h : x ∈ items)
    (hk : HasKey x k) : HasKey (.list access items) k
  | inTuple {items : List Datum} {k x : Datum} (h : x ∈ items) (hk : HasKey x k) :
    HasKey (.tuple items) k

end Value

/-! ## Paths written out -/

/-- What a path opens with: the segment that stands when the first one follows that is not blank,
and the segments from there on. Before the path stands `last`. -/
def opening (last : Datum) : Path Live → Datum × Path Live
  | [] => (last, [])
  | x :: rest => if x.isBlank then opening x rest else (last, x :: rest)

/-- How a path can be written out. -/
inductive Written where
  | asText
  /-- As one of its segments, which is no text. -/
  | bare
  | nowhere
  deriving DecidableEq

/-- How a path is written out: a position needs a text before it, and if the first segment that is
neither blank nor a position is no text, it has to be the last one. -/
def written (path : Path Live) : Written :=
  match opening (.str "") path with
  | (last, []) => if last.isText then .asText else .bare
  | (last, x :: rest) =>
    if x.isPosition then if last.isText then .asText else .nowhere
    else if x.isText then .asText
    else if rest.isEmpty then .bare else .nowhere

namespace WrittenOut

variable {path : Path Live} {how : Written}

end WrittenOut

/-- The segments of an address are positions, names, and keys of the value. -/
theorem Plans.Addresses.segments {plans : Plans} {s : Schema} {v : Datum} {path : Path Live}
    (h : plans.Addresses s v path) : ∀ x ∈ path, x.IsKey ∨ v.HasKey x := by
  induction h with
  | here => exact nofun
  | element hx _ ih =>
    refine List.forall_mem_cons.2 ⟨.inl trivial, fun k hk => (ih k hk).imp_right ?_⟩
    exact .inList (List.mem_of_getElem? hx)
  | @item _ _ v _ _ _ _ _ _ hv _ hx _ ih =>
    refine List.forall_mem_cons.2 ⟨.inl trivial, fun k hk => (ih k hk).imp_right ?_⟩
    cases v <;> cases hv
    · exact .inList (List.mem_of_getElem? hx)
    · exact .inTuple (List.mem_of_getElem? hx)
  | field _ hx _ ih =>
    exact List.forall_mem_cons.2 ⟨.inl trivial, fun k hk => (ih k hk).imp_right (.inValue hx)⟩
  | absent | tag => exact List.forall_mem_singleton.2 (.inl trivial)
  | extra hx _ _ ih =>
    exact List.forall_mem_cons.2 ⟨.inr (.here hx), fun k hk => (ih k hk).imp_right (.inValue hx)⟩
  | recordKey hx _ ih =>
    exact List.forall_mem_cons.2 ⟨.inr (.here hx), fun k hk => (ih k hk).imp_right (.inKey hx)⟩
  | recordValue hx _ ih =>
    exact List.forall_mem_cons.2 ⟨.inr (.here hx), fun k hk => (ih k hk).imp_right (.inValue hx)⟩
  | mapKey hx _ ih =>
    refine List.forall_mem_cons.2 ⟨.inl trivial, List.forall_mem_cons.2 ⟨.inl trivial, ?_⟩⟩
    exact fun k hk => (ih k hk).imp_right (.inKey (List.mem_of_getElem? hx))
  | mapValue hx _ ih =>
    refine List.forall_mem_cons.2 ⟨.inl trivial, List.forall_mem_cons.2 ⟨.inl trivial, ?_⟩⟩
    exact fun k hk => (ih k hk).imp_right (.inValue (List.mem_of_getElem? hx))
  | option _ _ ih | selected _ _ ih | behind _ _ ih => exact ih
  | left _ ih | right _ ih | optional _ ih | nullable _ ih | branded _ ih | readonly _ ih => exact ih

theorem Issue.Points.path {start : Path Live} {Q : Path Live → Prop} {i : Issue Live}
    (h : i.Points start Q) : ∃ segments, i.path = start ++ segments ∧ Q segments := by
  obtain ⟨segments, same, hq, -⟩ := h
  exact ⟨segments, same, hq⟩

namespace Library

end Library
/-! Lists of numbers are kept by numbers. -/

namespace Tables

def number : Schema := .number {} false

def table : Schema := .record number (.array number {})

def wrong (key : Datum) : Issue Live :=
  ⟨.invalidType, "Input should be a valid integer", [key, .int 0],
    [("expected", .value (.str "number")), ("received", .value (.str "str"))]⟩

def row (key : Datum) : Datum := .dict .free [(key, .list .free [.str "x"])]

end Tables
end TwoWay
