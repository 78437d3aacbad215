import TwoWay.Proofs.Forcing.Memory
import TwoWay.Proofs.Parse.Whole
import TwoWay.Execution
import Mathlib.Data.List.Forall2

/-!
# The rules of inversion

`Plans.Inverts` says which schemas are inverses of a schema, one rule for each kind of node.
Everything that inverting gives, of a whole schema (`Library.invert_inverts`) or behind a lazy
node (`Plans.Gives.inverts`), follows these rules.
-/

namespace TwoWay

/-- What a run can give, from some world. -/
def Run.Yields {α : Type} (m : Run α) (a : α) : Prop := ∃ w w', m w = .ok a w'

/-- What making can give, from some count. -/
def Make.Yields {α : Type} (m : Make α) (a : α) : Prop := ∃ n n', (m n).Yields (a, n')

section

variable {α β : Type}

namespace Run.Yields

theorem pure {a b : α} (h : (Pure.pure a : Run α).Yields b) : a = b := by
  obtain ⟨w, w', h⟩ := h
  cases h
  rfl

theorem bind {m : Run α} {k : α → Run β} {b : β} (h : (m >>= k).Yields b) :
    ∃ a, m.Yields a ∧ (k a).Yields b := by
  obtain ⟨w, w', h⟩ := h
  obtain ⟨a, u, ha, hb⟩ := Run.bind_ok.1 h
  exact ⟨a, ⟨w, u, ha⟩, u, w', hb⟩

theorem map {m : Run α} {f : α → β} {b : β} (h : (f <$> m).Yields b) :
    ∃ a, m.Yields a ∧ f a = b := by
  rw [← bind_pure_comp] at h
  obtain ⟨a, ha, h⟩ := h.bind
  exact ⟨a, ha, h.pure⟩

theorem of_result {m : Run α} {a : α} {w : World} (h : m.result w = .ok a) : m.Yields a := by
  obtain ⟨w', h⟩ := Run.result_ok.1 h
  exact ⟨w, w', h⟩

/-- A run that does not depend on its world can give one thing only. -/
theorem unique {m : Run α} (hm : Run.deeper.Holds fun _ => m) {a b : α} (ha : m.Yields a)
    (hb : m.Yields b) : a = b := by
  obtain ⟨w, w', ha⟩ := ha
  obtain ⟨u, u', hb⟩ := hb
  have ha := Run.result_ok.2 ⟨w', ha⟩
  have hb := Run.result_ok.2 ⟨u', hb⟩
  have := hm w u
  simp_all

end Run.Yields

namespace Make.Yields

theorem pure {a b : α} (h : (Pure.pure a : Make α).Yields b) : a = b := by
  obtain ⟨n, n', h⟩ := h
  exact congrArg Prod.fst h.pure

theorem bind {m : Make α} {k : α → Make β} {b : β} (h : (m >>= k).Yields b) :
    ∃ a, m.Yields a ∧ (k a).Yields b := by
  obtain ⟨n, n', h⟩ := h
  obtain ⟨⟨a, u⟩, ha, hb⟩ := Run.Yields.bind h
  exact ⟨a, ⟨n, u, ha⟩, u, n', hb⟩

theorem map {m : Make α} {f : α → β} {b : β} (h : (f <$> m).Yields b) :
    ∃ a, m.Yields a ∧ f a = b := by
  rw [← bind_pure_comp] at h
  obtain ⟨a, ha, h⟩ := h.bind
  exact ⟨a, ha, h.pure⟩

theorem lift {m : Run α} {a : α} (h : (liftM m : Make α).Yields a) : m.Yields a := by
  obtain ⟨n, n', h⟩ := h
  obtain ⟨b, hb, h⟩ := Run.Yields.bind h
  cases h.pure
  exact hb

theorem of_run {m : Make α} {a : α} (h : (m.run' 0).Yields a) : m.Yields a := by
  obtain ⟨⟨b, n⟩, hb, rfl⟩ := Run.Yields.map h
  exact ⟨0, n, hb⟩

end Make.Yields

theorem Run.not_yields_throw {f : Failure} {a : α} : ¬(throw f : Run α).Yields a := nofun

theorem Make.not_yields_fail {f : Failure} {a : α} : ¬(Make.fail f).Yields a := nofun

theorem Make.not_yields_refuse {m : Malformed} {a : α} : ¬(Make.refuse m).Yields a := nofun

end

namespace Schema

/-- Leaves, and whatever else has no parts that could be inverted. -/
def isLeaf : Schema → Bool
  | .string .. | .number .. | .boolean | .none | .any | .unknown | .never | .literal _ | .enum _
  | .foreign _ | .raw _ => true
  | _ => false

/-- Shapes with the same keys, whose schemas are related key by key. -/
inductive Fieldwise (R : Schema → Schema → Prop) :
    List (String × Schema) → List (String × Schema) → Prop
  | nil : Fieldwise R [] []
  | cons {key s t shape shape'} : R s t → Fieldwise R shape shape' →
    Fieldwise R ((key, s) :: shape) ((key, t) :: shape')

theorem forall₂_of_mem {ss us : List Schema} {R R' : Schema → Schema → Prop}
    (ih : ∀ s ∈ ss, ∀ {u}, R s u → R' s u) (h : List.Forall₂ R ss us) : List.Forall₂ R' ss us := by
  induction h with
  | nil => exact .nil
  | cons hs _ hrest => exact .cons (ih _ (by simp) hs) (hrest fun s hs => ih s (by simp [hs]))

theorem Fieldwise.of_mem {shape shape' : List (String × Schema)} {R R' : Schema → Schema → Prop}
    (ih : ∀ f ∈ shape, ∀ {u}, R f.2 u → R' f.2 u) (h : Fieldwise R shape shape') :
    Fieldwise R' shape shape' := by
  induction h with
  | nil => exact .nil
  | cons hs _ hrest =>
    exact .cons (ih _ (List.mem_cons_self ..) hs) (hrest fun f hf => ih f (by simp [hf]))

theorem rel_of_child {R R' : Schema → Schema → Prop} {o o' : Option Schema}
    (h : ∀ s, o = some s → ∀ {t}, R s t → R' s t) (rel : Option.Rel R o o') :
    Option.Rel R' o o' := by
  cases rel with
  | none => exact .none
  | some same => exact .some (h _ rfl same)

/-- Which keys are declared depends on the names in a shape only. -/
theorem Fieldwise.extraEntries_eq {R : Schema → Schema → Prop}
    {shape shape' : List (String × Schema)} (h : Fieldwise R shape shape') (entries : Entries Live) :
    extraEntries shape entries = extraEntries shape' entries := by
  have known (k : Datum) : (shape.any fun f => k.equal (.str f.1)) =
      shape'.any fun f => k.equal (.str f.1) := by
    induction h with
    | nil => rfl
    | cons _ _ ih => simp only [List.any_cons, ih]
  simp only [extraEntries, known]

theorem Fieldwise.at_key {R : Schema → Schema → Prop} {shape shape' : List (String × Schema)}
    (h : Fieldwise R shape shape') {key : String} {s : Schema} (hs : field? shape key = some s) :
    s ∈ shape.map (·.2) ∧ ∃ t, field? shape' key = some t ∧ R s t := by
  induction h with
  | nil => cases hs
  | cons hst _ ih =>
    simp only [field?, List.lookup_cons] at hs ih ⊢
    split at hs
    · cases hs
      exact ⟨List.mem_cons_self .., _, rfl, hst⟩
    · obtain ⟨member, found⟩ := ih hs
      exact ⟨List.mem_cons_of_mem _ member, found⟩

theorem requireHashable_anywhere {v : Datum} {w w' : World}
    (h : Run.requireHashable v w = .ok () w') (u : World) :
    Run.requireHashable v u = .ok () u := by
  unfold Run.requireHashable at h ⊢
  cases hashable : v.unhashable? with
  | some type =>
    rw [hashable] at h
    cases h
  | none => rfl

theorem addTags_anywhere {key : String} {position : Nat} {values : List Datum}
    {table made : List (Datum × Nat)} {w w' : World}
    (h : addTags key position values table w = .ok made w') (u : World) :
    addTags key position values table u = .ok made u := by
  induction values generalizing table w with
  | nil =>
    cases h
    rfl
  | cons v rest ih =>
    obtain ⟨⟨⟩, w₁, hv, h⟩ := Run.bind_ok.1 h
    split at h
    · cases h
    · rename_i fresh
      refine Run.bind_ok.2 ⟨(), u, requireHashable_anywhere hv u, ?_⟩
      rw [if_neg fresh]
      exact ih h

end Schema

namespace Plans

variable (plans : Plans)

/-- A table that a discriminated union of these options can be made with. -/
def Tabulates (key : String) (options : List Schema) (table : List (Datum × Nat)) : Prop :=
  ∃ owner depth, (Schema.tagTable ⟨owner, plans.tagsOf depth⟩ key 0 options []).Yields table

variable (settings : InversionSettings)

/-- The inverses of a schema. -/
inductive Inverts : Schema → Schema → Prop
  | leaf {s} : s.isLeaf → Inverts s s
  | array {e e' lengths} : Inverts e e' → Inverts (.array e lengths) (.array e' lengths)
  | object {shape shape' rest rest' policy} :
    Schema.Fieldwise Inverts shape shape' → Option.Rel Inverts rest rest' →
    Inverts (.object shape rest policy) (.object shape' rest' policy)
  | union {options options'} : List.Forall₂ Inverts options options' →
    Inverts (.union options) (.union options')
  | tagged {key options options' table table'} : List.Forall₂ Inverts options options' →
    plans.Tabulates key options' table' →
    Inverts (.tagged key options table) (.tagged key options' table')
  | intersection {l l' r r'} : Inverts l l' → Inverts r r' →
    Inverts (.intersection l r) (.intersection l' r')
  | tuple {items items' rest rest'} : List.Forall₂ Inverts items items' →
    Option.Rel Inverts rest rest' → Inverts (.tuple items rest) (.tuple items' rest')
  | record {k k' v v'} : Inverts k k' → Inverts v v' → Inverts (.record k v) (.record k' v')
  | map {k k' v v'} : Inverts k k' → Inverts v v' → Inverts (.map k v) (.map k' v')
  | set {e e'} : Inverts e e' → Inverts (.set e) (.set e')
  | function {items items' rest rest' r r'} : List.Forall₂ Inverts items items' →
    Option.Rel Inverts rest rest' → Inverts r r' →
    Inverts (.function items rest r) (.function items' rest' r')
  | lazy {id id' origin} : Inverts (.lazy id origin) (.lazy id' (.inverse settings id origin))
  /-- A refinement sees what arrives. -/
  | refinement {action elidable s s'} : Inverts s s' →
    Inverts (.effect .refinement action elidable s)
      (.pipeline (.effect .refinement action false .any) s')
  | elided {kind action s s'} : kind ≠ .refinement → Inverts s s' →
    Inverts (.effect kind action true s) s'
  | optional {s s'} : Inverts s s' → Inverts (.optional s) (.optional s')
  | nullable {s s'} : Inverts s s' → Inverts (.nullable s) (.nullable s')
  | promise {s s'} : Inverts s s' → Inverts (.promise s) (.promise s')
  | readonly {s s'} : Inverts s s' → Inverts (.readonly s) (.readonly s')
  | default {s s' supply} : Inverts s s' → Inverts (.default s supply) s'
  | catch {s s' supply} : Inverts s s' → Inverts (.catch s supply) s'
  | branded {s s' name} : Inverts s s' → Inverts (.branded s name) s'
  | pipeline {s s' t t'} : Inverts s s' → Inverts t t' →
    Inverts (.pipeline s t) (.pipeline t' s')
  | invertible {s s' t t' parse format} : Inverts s s' → Inverts t t' →
    Inverts (.invertible s parse t format) (.invertible t' format s' parse)

variable {plans settings} {owner : LazyId} {depth : Nat}

theorem passUnknown_yields {name : String} {s t : Schema}
    (h : (Schema.passUnknown settings name s).Yields t) : s = t := by
  unfold Schema.passUnknown at h
  split at h
  · exact absurd h Make.not_yields_fail
  · obtain ⟨-, -, h⟩ := h.bind
    exact h.pure

theorem ofInvertible_yields {s t u : Schema} {parse format : FunctionRef}
    (h : (Schema.ofInvertible s parse t format).Yields u) :
    .invertible s parse t format = u := by
  unfold Schema.ofInvertible at h
  split at h
  · exact h.pure
  · exact absurd h Make.not_yields_refuse

theorem ofTagged_yields {key : String} {options : List Schema} {s : Schema}
    (h : (liftM (Schema.ofTagged ⟨owner, plans.tagsOf depth⟩ key options) : Make Schema).Yields s) :
    ∃ table, plans.Tabulates key options table ∧ .tagged key options table = s := by
  obtain ⟨table, htable, h⟩ := h.lift.bind
  exact ⟨table, ⟨owner, depth, htable⟩, h.pure⟩

theorem invertAll_inverts {schemas inverses : List Schema}
    (ih : ∀ s ∈ schemas, ∀ t, (s.invertWith ⟨owner, plans.tagsOf depth⟩ settings).Yields t →
      plans.Inverts settings s t)
    (h : (Schema.invertAll ⟨owner, plans.tagsOf depth⟩ settings schemas).Yields inverses) :
    List.Forall₂ (plans.Inverts settings) schemas inverses := by
  induction schemas generalizing inverses with
  | nil =>
    cases h.pure
    exact .nil
  | cons s rest hrest =>
    obtain ⟨t, ht, h⟩ := h.bind
    obtain ⟨ts, hts, h⟩ := h.bind
    cases h.pure
    exact .cons (ih s (by simp) t ht) (hrest (fun s hs => ih s (by simp [hs])) hts)

theorem invertFields_inverts {shape inverses : List (String × Schema)}
    (ih : ∀ f ∈ shape, ∀ t, (f.2.invertWith ⟨owner, plans.tagsOf depth⟩ settings).Yields t →
      plans.Inverts settings f.2 t)
    (h : (Schema.invertFields ⟨owner, plans.tagsOf depth⟩ settings shape).Yields inverses) :
    Schema.Fieldwise (plans.Inverts settings) shape inverses := by
  induction shape generalizing inverses with
  | nil =>
    cases h.pure
    exact .nil
  | cons f rest hrest =>
    obtain ⟨t, ht, h⟩ := h.bind
    obtain ⟨ts, hts, h⟩ := h.bind
    cases h.pure
    exact .cons (ih f (by simp) t ht) (hrest (fun f hf => ih f (by simp [hf])) hts)

/-- What inverting gives follows the rules. -/
theorem invertWith_inverts {s t : Schema}
    (h : (s.invertWith ⟨owner, plans.tagsOf depth⟩ settings).Yields t) :
    plans.Inverts settings s t := by
  induction s using Schema.child_induction generalizing t with
  | step s ih =>
    cases s <;> simp only [Schema.children, List.mem_append, List.mem_cons, List.mem_map,
      Option.mem_toList, List.not_mem_nil, or_false, forall_eq, or_imp, forall_and] at ih
    case array e lengths =>
      obtain ⟨e', he, h⟩ := h.bind
      cases h.pure
      exact .array (ih he)
    case set e =>
      obtain ⟨e', he, h⟩ := h.bind
      cases h.pure
      exact .set (ih he)
    case object shape rest policy =>
      simp only [Schema.invertWith] at h
      obtain ⟨shape', hshape, h⟩ := h.bind
      have fields := invertFields_inverts (fun f hf _ => ih.1 f.2 ⟨f, hf, rfl⟩) hshape
      cases rest with
      | none =>
        cases h.pure
        exact .object fields .none
      | some c =>
        obtain ⟨rest', hrest, h⟩ := h.bind
        obtain ⟨c', hc, rfl⟩ := hrest.map
        cases h.pure
        exact .object fields (.some (ih.2 c rfl hc))
    case union options =>
      obtain ⟨options', hoptions, h⟩ := h.bind
      cases h.pure
      exact .union (invertAll_inverts (fun s hs _ => ih s hs) hoptions)
    case tagged key options table =>
      obtain ⟨options', hoptions, h⟩ := h.bind
      obtain ⟨table', htable, rfl⟩ := ofTagged_yields h
      exact .tagged (invertAll_inverts (fun s hs _ => ih s hs) hoptions) htable
    case intersection l r =>
      obtain ⟨l', hl, h⟩ := h.bind
      obtain ⟨r', hr, h⟩ := h.bind
      cases h.pure
      exact .intersection (ih.1 hl) (ih.2 hr)
    case tuple items rest =>
      simp only [Schema.invertWith] at h
      obtain ⟨items', hitems, h⟩ := h.bind
      have all := invertAll_inverts (fun s hs _ => ih.1 s hs) hitems
      cases rest with
      | none =>
        cases h.pure
        exact .tuple all .none
      | some r =>
        obtain ⟨rest', hrest, h⟩ := h.bind
        obtain ⟨r', hr, rfl⟩ := hrest.map
        cases h.pure
        exact .tuple all (.some (ih.2 r rfl hr))
    case record k v =>
      obtain ⟨k', hk, h⟩ := h.bind
      obtain ⟨v', hv, h⟩ := h.bind
      cases h.pure
      exact .record (ih.1 hk) (ih.2 hv)
    case map k v =>
      obtain ⟨k', hk, h⟩ := h.bind
      obtain ⟨v', hv, h⟩ := h.bind
      cases h.pure
      exact .map (ih.1 hk) (ih.2 hv)
    case function items rest r =>
      simp only [Schema.invertWith] at h
      obtain ⟨items', hitems, h⟩ := h.bind
      have all := invertAll_inverts (fun s hs _ => ih.1.1 s hs) hitems
      cases rest with
      | none =>
        obtain ⟨rest', hrest, h⟩ := h.bind
        cases hrest.pure
        obtain ⟨r', hr, h⟩ := h.bind
        cases h.pure
        exact .function all .none (ih.2 hr)
      | some a =>
        obtain ⟨rest', hrest, h⟩ := h.bind
        obtain ⟨a', ha, rfl⟩ := hrest.map
        obtain ⟨r', hr, h⟩ := h.bind
        cases h.pure
        exact .function all (.some (ih.1.2 a rfl ha)) (ih.2 hr)
    case lazy id origin =>
      obtain ⟨id', -, h⟩ := h.bind
      cases h.pure
      exact .lazy
    case effect kind action elidable s =>
      cases kind with
      | refinement =>
        obtain ⟨s', hs, h⟩ := h.bind
        cases h.pure
        exact .refinement (ih hs)
      | transform | preprocess =>
        simp only [Schema.invertWith] at h
        split at h
        · subst elidable
          split at h
          · obtain ⟨-, -, h⟩ := h.bind
            exact .elided (by decide) (ih h)
          · exact .elided (by decide) (ih h)
        · exact absurd h Make.not_yields_fail
    case optional s =>
      obtain ⟨s', hs, h⟩ := h.bind
      obtain ⟨-, -, h⟩ := h.bind
      cases h.pure
      exact .optional (ih hs)
    case nullable s =>
      obtain ⟨s', hs, h⟩ := h.bind
      obtain ⟨-, -, h⟩ := h.bind
      cases h.pure
      exact .nullable (ih hs)
    case promise s =>
      obtain ⟨s', hs, h⟩ := h.bind
      obtain ⟨-, -, h⟩ := h.bind
      cases h.pure
      exact .promise (ih hs)
    case readonly s =>
      obtain ⟨s', hs, h⟩ := h.bind
      obtain ⟨-, -, h⟩ := h.bind
      cases h.pure
      exact .readonly (ih hs)
    case default s supply => exact .default (ih h)
    case «catch» s supply => exact .catch (ih h)
    case branded s name => exact .branded (ih h)
    case pipeline s t =>
      obtain ⟨t', ht, h⟩ := h.bind
      obtain ⟨-, -, h⟩ := h.bind
      obtain ⟨s', hs, h⟩ := h.bind
      cases h.pure
      exact .pipeline (ih.1 hs) (ih.2 ht)
    case invertible s parse t format =>
      obtain ⟨t', ht, h⟩ := h.bind
      obtain ⟨s', hs, h⟩ := h.bind
      cases ofInvertible_yields h
      exact .invertible (ih.1 hs) (ih.2 ht)
    case foreign kind =>
      simp only [Schema.invertWith] at h
      split at h
      · cases h.pure
        exact .leaf rfl
      · cases passUnknown_yields h
        exact .leaf rfl
    case raw value =>
      cases passUnknown_yields h
      exact .leaf rfl
    all_goals
      cases h.pure
      exact .leaf rfl

theorem gives_of_yields {id : LazyId} {origin : Origin} {s : Schema}
    (h : (plans.schemaOf depth id origin).Yields s) : plans.Gives id origin s := by
  obtain ⟨w, w', h⟩ := h
  have given := Run.result_ok.2 ⟨w', h⟩
  have same := schemaOf_deeper plans (Nat.le_refl depth) id origin w {}
  exact ⟨depth, by simp_all⟩

/-- A lazy node whose origin is an inverse stands for an inverse of what the origin of that
stands for. -/
theorem Gives.inverts {id base : LazyId} {origin : Origin} {t : Schema}
    (h : plans.Gives id (.inverse settings base origin) t) :
    ∃ s, plans.Gives base origin s ∧ plans.Inverts settings s t := by
  obtain ⟨depth, h⟩ := h
  cases depth with
  | zero => cases h
  | succ depth =>
    obtain ⟨s, hs, h⟩ := (Run.Yields.of_result h).bind
    exact ⟨s, gives_of_yields hs, invertWith_inverts (.of_run h)⟩

end Plans

/-- What inverting a whole schema gives follows the rules. -/
theorem Library.invert_inverts {lib : Library} {depth step : Nat} {settings : InversionSettings}
    {s t : Schema} {w w' : World} (hw : lib.plans.Faithful w)
    (h : lib.invert depth step settings s w = .ok t w') : lib.plans.Inverts settings s t := by
  obtain ⟨-, n, h⟩ := Plans.invertWith_ok hw h
  exact Plans.invertWith_inverts (.of_run (.of_result h))

end TwoWay
