import TwoWay.Proofs.Parse.Meeting
import TwoWay.Proofs.Parse.Trimming
import TwoWay.Proofs.Value.Apart

/-!
# Both sides of an intersection

Schemas that check a value may strip unknown keys from it and freeze it, each in its own way. What
both sides of an intersection leave of a value is merged again, and so the intersection accepts what
both sides accept, unless what they leave is apart (`Library.intersection_means_both`): merging does
not go into tuples, and does not take a set and its read-only form for one.
-/

namespace TwoWay

/-! ## Projections -/

/-- Nodes that neither call user functions on a value nor refer to other schemas. -/
def Schema.isStill : Schema → Bool
  | .effect .. | .lazy .. => false
  | _ => true

/-- Schemas that check values, and change nothing but what objects strip and what is frozen. The
identities in their own values are older than the `m`-th one made. -/
inductive Schema.Projects (m : Nat) : Schema → Prop
  | intro {s : Schema} (still : s.isStill) (checks : s.Checks True)
    (constants : ∀ c ∈ s.constants, c.Before m) (parts : ∀ c ∈ s.children, Projects m c) :
    Projects m s

namespace Schema.Projects

variable {m : Nat} {s : Schema}

theorem child (h : s.Projects m) {c : Schema} (hc : c ∈ s.children) : c.Projects m := by
  cases h with
  | intro _ _ _ parts => exact parts c hc

theorem isStill (h : s.Projects m) : s.isStill := by
  cases h with
  | intro still => exact still

theorem old (plans : Plans) (m : Nat) : plans.Old m (Projects m) where
  child h hc := h.child hc
  behind h := by cases h.isStill
  constants h hc := by
    cases h with
    | intro _ _ constants => exact constants _ hc

theorem checking (plans : Plans) (m : Nat) : plans.Checking True (Projects m) where
  node h := by
    cases h with
    | intro _ checks => exact checks
  child h hc := h.child hc
  behind h := by cases h.isStill

/-- No user function stands in them. -/
theorem isCaller (h : s.Projects m) : s.isCaller = false := by
  cases h with
  | intro still checks =>
    cases s <;> first | rfl | cases still; done | exact checks.elim

theorem any : Schema.any.Projects m :=
  ⟨rfl, trivial, List.forall_mem_nil _, List.forall_mem_nil _⟩

/-- Nodes of one part that hold no values. -/
theorem wrap {c : Schema} (h : c.Projects m) (still : s.isStill) (checks : s.Checks True)
    (constants : s.constants = []) (part : s.children = [c]) : s.Projects m :=
  ⟨still, checks, by simp [constants], by simpa [part] using h⟩

end Schema.Projects

namespace Library

variable {lib : Library} {mode : Mode} {depth : Nat} {s : Schema} {v : Datum} {w u : World}

/-- They do the same later on, and never fail alone. -/
theorem projects_steady (hs : s.Projects w.made) (hw : lib.plans.Faithful w)
    (old : v.Before w.made) : lib.Steady (fun _ => False) mode depth s v w := by
  refine .of_shifts (fun k => ?_) hw old
  refine Plans.Later.parseShifts ⟨fun hs caller => ?_, fun hlazy => ?_⟩
    (Schema.Projects.old lib.plans w.made) hs
  · simp [hs.isCaller] at caller
  · cases hlazy.isStill

/-- A whole parse succeeds with the output of the run. -/
theorem parse_eq_ok {x : Datum} : lib.parse mode depth s v w = .ok x u ↔
    ∃ r, s.runWith (lib.links mode depth) [] v w = .ok r u ∧ r.output? = some x := by
  simp only [Parsed.output?_eq_some]
  refine ⟨fun h => ?_, fun h => ?_⟩
  · exact (parse_clean (parse_ok.1 h).1).1 h
  · obtain ⟨r, hr, -⟩ := id h
    exact (parse_clean (isSchema_of_runs hr)).2 h

/-- What they accept a value with is trimmed. -/
theorem projects_trim {m : Nat} (hs : s.Projects m) (hw : lib.plans.Faithful w)
    (hv : v.Natural True) {x : Datum} (hx : lib.parse mode depth s v w = .ok x u) :
    v.Trimmed True x := by
  obtain ⟨r, hr, hx⟩ := parse_eq_ok.1 hx
  have trims := runWith_trims (Schema.Projects.checking lib.plans m) (fun _ => trivial) mode depth
    hs [] (.inl hv)
  obtain ⟨-, trims, -⟩ := trims.ok hw hr
  obtain ⟨clean, rfl⟩ := Parsed.output?_eq_some.1 hx
  have valid : r.value.isInvalid = false := by simpa using (Bool.and_eq_true_iff.1 clean).1
  exact (trims.natural hv valid).2.weaken fun _ => trivial

/-- The parse of a value succeeds. -/
def Admits (lib : Library) (mode : Mode) (depth : Nat) (s : Schema) (v : Datum) (w : World) :
    Prop :=
  ∃ x u, lib.parse mode depth s v w = .ok x u

/-- Whether a steady schema admits a value does not change. -/
theorem Steady.admits (h : lib.Steady (fun _ => False) mode depth s v w)
    (hu : lib.plans.Faithful u) (since : w.made ≤ u.made) :
    lib.Admits mode depth s v w ↔ lib.Admits mode depth s v u := by
  obtain ⟨ρ, -, again⟩ := h.again hu since
  simp only [Admits, parse_eq_ok]
  cases hw : s.runWith (lib.links mode depth) [] v w <;>
    cases hu : s.runWith (lib.links mode depth) [] v u <;>
    simp only [hw, hu] at again
  · rw [again]
    simp [-Parsed.rename, Parsed.output?_rename]
  · simp

/-- The outputs of the sides of an intersection, which are run one after the other. -/
def Leaves (lib : Library) (mode : Mode) (depth : Nat) (left right : Schema) (v : Datum) (w : World)
    (x y : Datum) : Prop :=
  ∃ u t, lib.parse mode depth left v w = .ok x u ∧ lib.parse mode depth right v u = .ok y t

section

variable {left right : Schema} {x y : Datum}

theorem Leaves.unique (h : lib.Leaves mode depth left right v w x y) {x' y' : Datum}
    (h' : lib.Leaves mode depth left right v w x' y') : x = x' ∧ y = y' := by
  obtain ⟨u, t, hx, hy⟩ := h
  obtain ⟨u', t', hx', hy'⟩ := h'
  cases hx.symm.trans hx'
  cases hy.symm.trans hy'
  exact ⟨rfl, rfl⟩

/-- An intersection admits what its sides leave outputs of that merge. -/
theorem intersection_admits : lib.Admits mode depth (.intersection left right) v w ↔
    ∃ x y, lib.Leaves mode depth left right v w x y ∧ merge x y ≠ none := by
  simp only [Admits, Leaves, parse_eq_ok, Schema.runWith, Run.bind_ok, Option.ne_none_iff_exists']
  constructor
  · rintro ⟨z, t, p, ⟨l, u, hl, r, t, hr, ⟨⟩⟩, hz⟩
    rw [intersectionResult_output, Option.bind_eq_some_iff] at hz
    obtain ⟨x, hx, hz⟩ := hz
    obtain ⟨y, hy, hz⟩ := Option.bind_eq_some_iff.1 hz
    exact ⟨x, y, ⟨u, t, ⟨l, hl, hx⟩, r, hr, hy⟩, z, hz⟩
  · rintro ⟨x, y, ⟨u, t, ⟨l, hl, hx⟩, r, hr, hy⟩, z, hz⟩
    refine ⟨z, t, _, ⟨l, u, hl, r, t, hr, rfl⟩, ?_⟩
    rw [intersectionResult_output, hx, hy]
    exact hz

/-- What projections leave of a value is trimmed. -/
theorem Leaves.trimmed {m : Nat} (h : lib.Leaves mode depth left right v w x y)
    (hl : left.Projects m) (hr : right.Projects m) (hw : lib.plans.Faithful w)
    (hv : v.Natural True) : v.Trimmed True x ∧ v.Trimmed True y := by
  obtain ⟨u, t, hx, hy⟩ := h
  obtain ⟨r, run, -⟩ := parse_eq_ok.1 hx
  exact ⟨projects_trim hl hw hv hx, projects_trim hr (runWith_faithful hw run) hv hy⟩

variable (hl : left.Projects w.made) (hr : right.Projects w.made) (hw : lib.plans.Faithful w)
  (old : v.Before w.made)

include hl hr hw old

/-- Run after the left side, the right side admits what it admits now. -/
theorem both_admit_iff :
    lib.Admits mode depth left v w ∧ lib.Admits mode depth right v w ↔
      ∃ x y, lib.Leaves mode depth left right v w x y := by
  have later {x : Datum} {u : World} (hx : lib.parse mode depth left v w = .ok x u) :
      lib.Admits mode depth right v w ↔ lib.Admits mode depth right v u := by
    obtain ⟨r, run, -⟩ := parse_eq_ok.1 hx
    exact (projects_steady hr hw old).admits (runWith_faithful hw run)
      ((projects_steady hl hw old).grows hw le_rfl run)
  constructor
  · rintro ⟨⟨x, u, hx⟩, both⟩
    obtain ⟨y, t, hy⟩ := (later hx).1 both
    exact ⟨x, y, u, t, hx, hy⟩
  · rintro ⟨x, y, u, t, hx, hy⟩
    exact ⟨⟨x, u, hx⟩, (later hx).2 ⟨y, t, hy⟩⟩

/-- An intersection of projections admits what both sides admit, unless what they leave of it is
apart. This never is for values with no mapping in a tuple and with no mutable set but in one. -/
theorem intersection_means_both (hv : v.Natural True) (told : v.Told) :
    (lib.Admits mode depth (.intersection left right) v w ↔
      (lib.Admits mode depth left v w ∧ lib.Admits mode depth right v w) ∧
        ∀ x y, lib.Leaves mode depth left right v w x y → ¬x.Apart y) ∧
    (v.Uniform → (lib.Admits mode depth (.intersection left right) v w ↔
      lib.Admits mode depth left v w ∧ lib.Admits mode depth right v w)) := by
  have merges {x y : Datum} (h : lib.Leaves mode depth left right v w x y) :
      merge x y ≠ none ↔ ¬x.Apart y :=
    have forms := h.trimmed hl hr hw hv
    not_congr (Value.merge_eq_none_iff hv told x y forms.1 forms.2)
  have admits : lib.Admits mode depth (.intersection left right) v w ↔
      (lib.Admits mode depth left v w ∧ lib.Admits mode depth right v w) ∧
        ∀ x y, lib.Leaves mode depth left right v w x y → ¬x.Apart y := by
    rw [intersection_admits, both_admit_iff hl hr hw old]
    constructor
    · rintro ⟨x, y, leaves, merged⟩
      refine ⟨⟨x, y, leaves⟩, fun x' y' leaves' => ?_⟩
      obtain ⟨rfl, rfl⟩ := leaves.unique leaves'
      exact (merges leaves).1 merged
    · rintro ⟨⟨x, y, leaves⟩, together⟩
      exact ⟨x, y, leaves, (merges leaves).2 (together x y leaves)⟩
  refine ⟨admits, fun uniform => admits.trans (and_iff_left fun x y leaves => ?_)⟩
  have forms := leaves.trimmed hl hr hw hv
  exact uniform.not_apart hv told forms.1 forms.2

end

end Library

/-! Points, of which each side knows one coordinate. -/

namespace Halves

def across : Schema := .object [("x", .any)] none .strip

def along : Schema := .object [("y", .any)] none .strip

def point : Datum := .dict .free [(.str "x", .int 1), (.str "y", .int 2)]

theorem point_natural : point.Natural True := by
  have keys : AreKeys (["x", "y"].map Value.str) := .ofTexts (by decide)
  exact .dict rfl keys (by simp [Value.Natural.str]) (by simp [Value.Natural.int])

theorem point_told : point.Told := by
  have text (s : String) : (.str s : Datum).Told := .single rfl (by simp [Value.identical])
  have number (i : Int) : (.int i : Datum).Told := .single rfl (by simp [Value.identical])
  have differ : (.str "x" : Datum).agrees (.str "y") = false := rfl
  simp [point, text, number, differ]

theorem point_uniform : point.Uniform := by
  refine .dict ?_
  simp only [List.forall_mem_cons, List.not_mem_nil, false_imp_iff, implies_true, and_true]
  exact ⟨.single rfl, .single rfl⟩

def rows : Schema := .array across {}

def columns : Schema := .readonly (.array along {})

def points : Datum := .list .free [point]

theorem object_projects (m : Nat) (key : String) :
    (Schema.object [(key, .any)] none .strip).Projects m :=
  .wrap .any rfl ⟨List.nodup_singleton key, .inl trivial⟩ rfl rfl

theorem array_projects {m : Nat} {s : Schema} (h : s.Projects m) :
    (Schema.array s {}).Projects m :=
  ⟨rfl, trivial, by simp [Schema.constants, Value.Before], List.forall_mem_singleton.2 h⟩

/-- In a list, the points are put together again. -/
theorem points_joined :
    rows.Projects 0 ∧ columns.Projects 0 ∧ Packing.library.plans.Faithful {} ∧ points.Before 0 ∧
    points.Natural True ∧ points.Told ∧ points.Uniform ∧
    (∃ x y, Packing.library.Leaves .sync 1 rows columns points {} x y ∧ x.identical y = false) ∧
    Packing.library.Admits .sync 1 (.intersection rows columns) points {} := by
  have first : rows.Projects 0 := array_projects (object_projects 0 "x")
  have second : columns.Projects 0 :=
    .wrap (array_projects (object_projects 0 "y")) rfl trivial rfl rfl
  have old : points.Before 0 := fun _ _ => rfl
  have natural : points.Natural True := .list rfl (List.forall_mem_singleton.2 point_natural)
  have told : points.Told := .list (List.forall_mem_singleton.2 point_told)
  have uniform : points.Uniform := .list (List.forall_mem_singleton.2 point_uniform)
  have left : Packing.library.Admits .sync 1 rows points {} := ⟨_, _, rfl⟩
  have right : Packing.library.Admits .sync 1 columns points {} := ⟨_, _, rfl⟩
  refine ⟨first, second, .empty, old, natural, told, uniform, ⟨_, _, ⟨_, _, rfl, rfl⟩, rfl⟩, ?_⟩
  refine ((Library.intersection_means_both first second .empty old natural told).2 uniform).2 ?_
  exact ⟨left, right⟩

/-- It is not that an intersection of projections admits a value exactly if both sides do. -/
structure Lost (left right : Schema) (v : Datum) : Prop where
  first : left.Projects 0
  second : right.Projects 0
  natural : v.Natural True
  told : v.Told
  old : v.Before 0
  differ : ¬(Packing.library.Admits .sync 1 (.intersection left right) v {} ↔
    Packing.library.Admits .sync 1 left v {} ∧ Packing.library.Admits .sync 1 right v {})

theorem not_both {left right : Schema} {v : Datum}
    (first : Packing.library.Admits .sync 1 left v {})
    (second : Packing.library.Admits .sync 1 right v {})
    (refused : ∃ f t, Packing.library.parse .sync 1 (.intersection left right) v {} = .error f t) :
    ¬(Packing.library.Admits .sync 1 (.intersection left right) v {} ↔
      Packing.library.Admits .sync 1 left v {} ∧ Packing.library.Admits .sync 1 right v {}) := by
  intro means
  obtain ⟨z, u, admitted⟩ := means.2 ⟨first, second⟩
  obtain ⟨f, t, refused⟩ := refused
  cases admitted.symm.trans refused

/-- In a tuple they are not, and a set is not put together with its read-only form. -/
theorem points_lost : Lost (.tuple [across] none) (.tuple [along] none) (.tuple [point]) ∧
    Lost (.set .any) (.readonly (.set .any)) (.set false [.str "x"]) := by
  have set : (Schema.set .any).Projects 0 := .wrap .any rfl trivial rfl rfl
  have keys : AreKeys (["x"].map Value.str) := .ofTexts (List.nodup_singleton "x")
  constructor
  · exact {
      first := .wrap (object_projects 0 "x") rfl trivial rfl rfl
      second := .wrap (object_projects 0 "y") rfl trivial rfl rfl
      natural := .tuple (List.forall_mem_singleton.2 point_natural)
      told := .tuple (List.forall_mem_singleton.2 point_told)
      old := fun _ _ => rfl
      differ := not_both ⟨_, _, rfl⟩ ⟨_, _, rfl⟩ ⟨_, _, rfl⟩ }
  · exact {
      first := set
      second := .wrap set rfl trivial rfl rfl
      natural := .set keys (List.forall_mem_singleton.2 (.str "x"))
      told := .set (List.forall_mem_singleton.2 (.single rfl rfl)) (List.pairwise_singleton ..)
      old := fun _ _ => rfl
      differ := not_both ⟨_, _, rfl⟩ ⟨_, _, rfl⟩ ⟨_, _, rfl⟩ }

end Halves
end TwoWay
