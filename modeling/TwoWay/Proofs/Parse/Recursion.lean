import Mathlib.Data.Fintype.Card
import Mathlib.Logic.Relation
import TwoWay.Proofs.Inversion.Backward
import TwoWay.Proofs.Inversion.Outcome
import TwoWay.Proofs.Parse.Ending

/-!
# Recursive schemas

Schemas may refer to each other by lazy nodes and so be endless trees. If no lazy node leads back
to itself before parsing has gone on in the value, parsing comes to an end, and so does inversion,
which does not look behind the lazy nodes at all or only as far as was looked when the schemas
were made (`Library.recursion_ends`). The inverse is recursive in the same way: its lazy nodes
stand for the inverses of the schemas that those of the schema itself stand for, and they expose
each other as these do.
-/

namespace TwoWay

namespace Schema

theorem IsStraight.forward {s : Schema} (h : s.IsStraight) : s.IsForward := by
  cases s <;> first | exact h | cases h

theorem LazyFree.leaf {s : Schema} (h : s.isLeaf) : s.LazyFree := by
  refine .intro (by cases s <;> first | rfl | cases h) fun c hc => ?_
  rw [(leaf_alone h).2.1] at hc
  cases hc

end Schema

namespace Plans

variable {plans : Plans} {settings : InversionSettings} {s t u : Schema}

theorem Within.trans (hs : plans.Within s t) (ht : plans.Within t u) : plans.Within s u := by
  induction ht with
  | self => exact hs
  | child _ hc ih => exact .child ih hc
  | behind _ hg ih => exact .behind ih hg

/-- What an inverse hands the value itself to are inverses of what the schema hands it to, and
what checks it. -/
theorem Inverts.unguarded (h : plans.Inverts settings s t) {c : Schema} (hc : c ∈ t.unguarded) :
    (∃ b ∈ s.unguarded, plans.Inverts settings b c ∨ plans.Inverts settings b t) ∨
      ∃ action, c = .effect .refinement action false .any := by
  cases h
  case leaf leaf =>
    have part := s.unguarded_subset hc
    rw [(Schema.leaf_alone leaf).2.1] at part
    cases part
  case refinement inner =>
    simp only [Schema.unguarded, List.mem_cons, List.not_mem_nil, or_false] at hc
    rcases hc with rfl | rfl
    · exact .inr ⟨_, rfl⟩
    · exact .inl ⟨_, List.mem_singleton_self _, .inl inner⟩
  case elided inner | default inner | «catch» inner | branded inner =>
    exact .inl ⟨_, List.mem_singleton_self _, .inr inner⟩
  case optional inner | nullable inner | readonly inner =>
    exact .inl ⟨_, List.mem_singleton_self _, .inl (List.mem_singleton.1 hc ▸ inner)⟩
  case union options | tagged options _ =>
    obtain ⟨b, hb, related⟩ := forall₂_right options hc
    exact .inl ⟨b, hb, .inl related⟩
  case intersection left right =>
    simp only [Schema.unguarded, List.mem_cons, List.not_mem_nil, or_false] at hc
    rcases hc with rfl | rfl
    · exact .inl ⟨_, by simp [Schema.unguarded], .inl left⟩
    · exact .inl ⟨_, by simp [Schema.unguarded], .inl right⟩
  case pipeline input output | invertible input output =>
    simp only [Schema.unguarded, List.mem_cons, List.not_mem_nil, or_false] at hc
    rcases hc with rfl | rfl
    · exact .inl ⟨_, by simp [Schema.unguarded], .inl output⟩
    · exact .inl ⟨_, by simp [Schema.unguarded], .inl input⟩
  all_goals cases hc

/-- A lazy node of an inverse stands for the inverse of what a lazy node of the schema stands
for. -/
theorem Reversal.lazy {id : LazyId} {origin : Origin}
    (h : plans.Reversal settings s (.lazy id origin)) :
    ∃ base of, plans.Within s (.lazy base of) ∧ origin = .inverse settings base of := by
  cases h with
  | inverse hu h =>
    obtain ⟨b, hb, h, node⟩ := h.source hu
    have node := node.resolve_right nofun
    cases h
    case lazy => exact ⟨_, _, hb, rfl⟩
    case leaf leaf => cases leaf
    all_goals cases node

/-- The member of a family for whose inverse a lazy node of an inverse stands. -/
def inverted {ι : Type} (member : LazyId → Origin → ι) : LazyId → Origin → ι
  | _, .inverse _ base of => member base of
  | id, origin => member id origin

end Plans

/-! ## Families -/

/-- A schema and what it refers to by lazy nodes: each of these stands for one of finitely many
members of a family, and none leads back to itself by exposed nodes alone. Discriminated unions
were made with their tables, and the user functions come to an end. -/
structure Library.Recursion (lib : Library) (mode : Mode) (s : Schema) {ι : Type}
    (member : LazyId → Origin → ι) : Prop where
  gives : ∀ id origin, lib.plans.Within s (.lazy id origin) → ∃ t, lib.plans.Gives id origin t
  tables : ∀ key options table, lib.plans.Within s (.tagged key options table) →
    lib.plans.Tabulates key options table
  straight : ∀ u, lib.plans.Within s u → u.IsStraight
  calls : ∀ u, lib.plans.Within s u → lib.Calls mode u
  finite : Finite ι
  acyclic : ∀ i, ¬Relation.TransGen (lib.plans.Passes (lib.plans.Within s) member) i i

/-- Lists of what a lazy node with some id leads to: its parts are listed with it, and what its
lazy nodes stand for is listed under their own ids. -/
structure Plans.Lists (plans : Plans) (parts : LazyId → List Schema) : Prop where
  child : ∀ id, ∀ u ∈ parts id, ∀ c ∈ u.children, c ∈ parts id
  behind : ∀ id base of, .lazy base of ∈ parts id → ∃ t ∈ parts base, plans.Gives base of t

theorem Plans.Lists.within {plans : Plans} {parts : LazyId → List Schema} {s u : Schema}
    (h : plans.Lists parts) (id : LazyId) (hs : s ∈ parts id) (hu : plans.Within s u) :
    ∃ id, u ∈ parts id := by
  induction hu with
  | self => exact ⟨id, hs⟩
  | child _ hc ih =>
    obtain ⟨id, hu⟩ := ih
    exact ⟨id, h.child id _ hu _ hc⟩
  | @behind base of u _ hg ih =>
    obtain ⟨id, hu⟩ := ih
    obtain ⟨t, listed, given⟩ := h.behind id base of hu
    exact ⟨base, hg.unique given ▸ listed⟩

namespace Library.Recursion

variable {lib : Library} {mode : Mode} {s : Schema} {ι : Type} {member : LazyId → Origin → ι}
  {settings : InversionSettings}

theorem descends (h : lib.Recursion mode s member) :
    WellFounded fun j i => lib.plans.Passes (lib.plans.Within s) member i j := by
  have := h.finite
  let back (j i : ι) := lib.plans.Passes (lib.plans.Within s) member i j
  have acyclic : Std.Irrefl (Relation.TransGen back) :=
    ⟨fun i cycle => h.acyclic i (Relation.transGen_swap.1 cycle)⟩
  have further : Subrelation back (Relation.TransGen back) := .single
  exact further.wf (Finite.wellFounded_of_trans_of_irrefl (Relation.TransGen back))

end Library.Recursion

namespace Remarks

def remark : FunctionRef := ⟨0, "remark"⟩

def post : FunctionRef := ⟨1, "post"⟩

def short : FunctionRef := ⟨2, "short"⟩

def read : FunctionRef := ⟨3, "read"⟩

def write : FunctionRef := ⟨4, "write"⟩

def library : Library where
  host := {
    effect := fun fn _ _ => ⟨[], .ok (if fn = read then .int 0 else .str "0")⟩
    check := fun _ _ => ⟨[], .ok (.bool true)⟩
    supply := fun _ => ⟨[], .ok .none⟩
    rescue := fun _ _ => ⟨[], .ok .none⟩
    call := fun _ _ => ⟨[], .ok .none⟩
    isAsync := fun _ => false }
  plans := {
    getter := fun fn => {
      schema :=
        if fn = post then .tagged "kind" [
          .object [("kind", .literal (.str "post")),
            ("votes", .invertible .string (some read) (.number {}) (some write)),
            ("answers", .array (.lazy remark))] none none,
          .object [("kind", .literal (.str "gone"))] none none]
        else .union [.call .string (.refine short "long" []), .lazy post] }
    definition := fun _ => .any }

def text : Schema := .string {} none

def line : Schema := .effect .refinement (.check short "long" []) false text

/-- What the getters give for a lazy node. -/
def remarkOf (id : LazyId) : Schema := .union [line, .lazy (.within id 0) (.getter post)]

def votes : Schema := .invertible text read (.number {} false) write

def answers (id : LazyId) : Schema := .array (.lazy (.within id 0) (.getter remark)) {}

def full (id : LazyId) : Schema :=
  .object [("kind", .literal (.str "post")), ("votes", votes), ("answers", answers id)] none .strip

def gone : Schema := .object [("kind", .literal (.str "gone"))] none .strip

def postOf (id : LazyId) : Schema :=
  .tagged "kind" [full id, gone] [(.str "post", 0), (.str "gone", 1)]

def parts (id : LazyId) : List Schema := [remarkOf id, line, text,
  .lazy (.within id 0) (.getter post), postOf id, full id, gone, .literal (.str "post"),
  .literal (.str "gone"), votes, .number {} false, answers id,
  .lazy (.within id 0) (.getter remark)]

theorem gives_remark (id : LazyId) : library.plans.Gives id (.getter remark) (remarkOf id) :=
  ⟨1, rfl⟩

theorem gives_post (id : LazyId) : library.plans.Gives id (.getter post) (postOf id) := ⟨1, rfl⟩

def root : Schema := remarkOf (.step 0)

theorem lazy_parts {id base : LazyId} {of : Origin} (h : .lazy base of ∈ parts id) :
    of = .getter post ∨ of = .getter remark := by
  simp [parts, remarkOf, line, text, postOf, full, gone, votes, answers] at h
  exact h.imp (·.2) (·.2)

theorem lists : library.plans.Lists parts where
  child id := by
    simp [parts, remarkOf, line, text, postOf, full, gone, votes, answers, Schema.children]
  behind id base of h := by
    rcases lazy_parts h with rfl | rfl
    · exact ⟨_, by simp [parts], gives_post base⟩
    · exact ⟨_, by simp [parts], gives_remark base⟩

theorem root_listed : root ∈ parts (.step 0) := List.mem_cons_self ..

/-- The member of the family that a lazy node stands for: remarks, or not. -/
def isRemark : LazyId → Origin → Bool
  | _, .getter fn => fn = remark
  | _, .inverse .. => false

/-- Remarks pass on to posts, and posts to nothing: what answers them is in them. -/
theorem passes {i j : Bool}
    (h : library.plans.Passes (library.plans.Within root) isRemark i j) : i = true ∧ j = false := by
  obtain ⟨base, of, u, base', of', within, given, exposed, rfl, rfl⟩ := h
  obtain ⟨id, listed⟩ := lists.within _ root_listed within
  rcases lazy_parts listed with rfl | rfl
  · obtain rfl := given.unique (gives_post base)
    cases exposed with
    | part hc exposed =>
      simp only [postOf, Schema.unguarded, List.mem_cons, List.not_mem_nil, or_false] at hc
      rcases hc with rfl | rfl <;> cases exposed with | part hc => cases hc
  · obtain rfl := given.unique (gives_remark base)
    cases exposed with
    | part hc exposed =>
      simp only [remarkOf, Schema.unguarded, List.mem_cons, List.not_mem_nil, or_false] at hc
      rcases hc with rfl | rfl
      · cases exposed with
        | part hc exposed =>
          cases List.mem_singleton.1 hc
          cases exposed with | part hc => cases hc
      · cases exposed with
        | self => exact ⟨rfl, rfl⟩
        | part hc => cases hc

end Remarks

/-! Two letters that are read apart and written alike, each of which another may follow. -/

namespace Letters

def letter : FunctionRef := ⟨0, "letter"⟩

def read : FunctionRef := ⟨1, "read"⟩

def write : FunctionRef := ⟨2, "write"⟩

def twoWay (name : String) : Blueprint :=
  .invertible (.literal (.str name)) (some read) (.literal (.str "x")) (some write)

def library : Library where
  host := {
    effect := fun _ _ _ => ⟨[], .ok (.str "x")⟩
    check := fun _ _ => ⟨[], .ok (.bool true)⟩
    supply := fun _ => ⟨[], .ok .none⟩
    rescue := fun _ _ => ⟨[], .ok .none⟩
    call := fun _ _ => ⟨[], .ok .none⟩
    isAsync := fun _ => false }
  plans := {
    getter := fun _ => { schema := .shared "letters" }
    definition := fun _ => .tagged "t" [
      .object [("t", twoWay "a"), ("next", .call (.lazy letter) .optional)] none none,
      .object [("t", twoWay "b")] none none] }

def field (name : String) : Schema :=
  .invertible (.literal (.str name)) read (.literal (.str "x")) write

def following : Schema := .lazy (.within (.shared "letters") 0) (.getter letter)

def first : Schema := .object [("t", field "a"), ("next", .optional following)] none .strip

def last : Schema := .object [("t", field "b")] none .strip

def letters : Schema := .tagged "t" [first, last] [(.str "a", 0), (.str "b", 1)]

theorem gives (id : LazyId) : library.plans.Gives id (.getter letter) letters := ⟨2, rfl⟩

def parts : List Schema := [letters, first, last, field "a", field "b", .optional following,
  following, .literal (.str "a"), .literal (.str "b"), .literal (.str "x")]

theorem lazy_parts {base : LazyId} {of : Origin} (h : .lazy base of ∈ parts) :
    of = .getter letter := by
  simp [parts, letters, first, last, field, following] at h
  exact h.2

theorem lists : library.plans.Lists fun _ => parts where
  child _ := by simp [parts, letters, first, last, field, following, Schema.children]
  behind _ base of h := by
    obtain rfl := lazy_parts h
    exact ⟨_, List.mem_cons_self .., gives base⟩

end Letters
end TwoWay
