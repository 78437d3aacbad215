import TwoWay.Proofs.Value.Keys
import TwoWay.Proofs.Value.Renaming
import Mathlib.Data.Option.Basic

/-!
# Fitting

A value fits into another if that one has at least its entries: lists fit item by item, mappings
entry by entry, and other values only into equal ones of their type. Among data this is a preorder
(`Value.IsData.fits_trans`), and data that fit into each other agree
(`Value.IsData.agrees_of_fits`).
-/

namespace TwoWay

/-- Who stands in the first of two lists is related to somebody in the second. -/
theorem forall₂_partner {α β : Type} {R : α → β → Prop} {xs : List α} {ys : List β}
    (h : List.Forall₂ R xs ys) {x : α} (hx : x ∈ xs) : ∃ y ∈ ys, R x y := by
  induction h with
  | nil => cases hx
  | cons first _ ih =>
    rcases List.mem_cons.1 hx with rfl | hx
    · exact ⟨_, List.mem_cons_self, first⟩
    · obtain ⟨y, hy, related⟩ := ih hx
      exact ⟨y, List.mem_cons_of_mem _ hy, related⟩

namespace Value

/-- Neither a `nan` nor a function or awaitable. -/
def isPlain : Datum → Bool
  | .float (.nan _) | .live _ => false
  | _ => true

/-- Proper values in which there are no `nan`, functions or awaitables. -/
abbrev IsData : Datum → Prop := Proper (·.isPlain)

/-- The entries of mappings: the keys and values are data, and the keys differ. -/
structure IsEntries (es : Entries Live) : Prop where
  keys : ∀ e ∈ es, e.1.IsData
  values : ∀ e ∈ es, e.2.IsData
  differ : es.Pairwise fun e e' => e.1.agrees e'.1 = false

theorem isData_dict {access : Access} {es : Entries Live} :
    (Value.dict access es).IsData ↔ IsEntries es :=
  proper_dict.trans ⟨fun ⟨keys, values, differ⟩ => ⟨keys, values, differ⟩,
    fun h => ⟨h.keys, h.values, h.differ⟩⟩

mutual

/-- Whether a value has at least the entries of another. -/
def fits : Datum → Datum → Bool
  | .list _ xs, b =>
    match b with
    | .list _ ys => fitItems xs ys
    | _ => false
  | .dict _ xs, b =>
    match b with
    | .dict _ ys => fitEntries xs ys
    | _ => false
  | a, b => a.isExactly b
  termination_by structural a => a

def fitItems : List Datum → List Datum → Bool
  | [], [] => true
  | x :: xs, y :: ys => fits x y && fitItems xs ys
  | _, _ => false
  termination_by structural xs => xs

def fitEntries : List (Datum × Datum) → List (Datum × Datum) → Bool
  | [], _ => true
  | (k, v) :: xs, ys => ys.any (fun e => k.agrees e.1 && fits v e.2) && fitEntries xs ys
  termination_by structural es => es

end

/-! ## Identical values -/

mutual

/-- What cannot be told apart agrees. -/
theorem agrees_of_identical : ∀ {a b : Datum}, a.identical b → a.agrees b
  | .list r xs, b, h => by
    cases b <;> simp only [identical, Bool.and_eq_true, Bool.false_eq_true] at h
    exact agrees_list.2 ⟨_, _, rfl, agree_of_identical h.2⟩
  | .tuple xs, b, h => by
    cases b <;> simp only [identical, Bool.false_eq_true] at h
    exact agrees_tuple.2 ⟨_, rfl, agree_of_identical h⟩
  | .dict r xs, b, h => by
    cases b <;> simp only [identical, Bool.and_eq_true, Bool.false_eq_true] at h
    have related := entries_agree_of_identical h.2
    refine agrees_dict.2 ⟨_, _, rfl, related.length_eq, fun e he => ?_⟩
    exact forall₂_partner related he
  | .set r xs, b, h => by
    cases b <;> simp only [identical, Bool.and_eq_true, Bool.false_eq_true] at h
    have related := agree_of_identical h.2
    refine agrees_set.2 ⟨_, _, rfl, related.length_eq, fun x hx => ?_⟩
    exact forall₂_partner related hx
  | .float d, b, h => by
    cases b <;> simp only [identical, Bool.or_eq_true, Bool.and_eq_true, Bool.false_eq_true,
      decide_eq_true_eq] at h
    rcases h with h | ⟨rfl, place⟩
    · simp [agrees, sameNan, h]
    · obtain ⟨p, hp⟩ := Option.isSome_iff_exists.1 place
      exact agrees_of_samePlace rfl (samePlace_iff.2 ⟨p, hp, hp⟩)
  | .none, b, h | .missing, b, h | .invalid, b, h => by
    cases b <;> first | rfl | cases h
  | .bool x, b, h => by
    cases b <;> simp only [identical, beq_iff_eq, Bool.false_eq_true] at h
    cases h
    exact agrees_of_samePlace rfl (samePlace_iff.2 ⟨_, rfl, rfl⟩)
  | .int x, b, h => by
    cases b <;> simp only [identical, beq_iff_eq, Bool.false_eq_true] at h
    cases h
    exact agrees_of_samePlace rfl (samePlace_iff.2 ⟨_, rfl, rfl⟩)
  | .str x, b, h | .bytes x, b, h => by
    cases b <;> simp only [identical, Bool.false_eq_true] at h
    simp [agrees, equal, beq_iff_eq.1 h]
  | .live x, b, h => by
    cases b <;> simp only [identical, Bool.false_eq_true] at h
    simp [agrees, equal, h]

theorem agree_of_identical : ∀ {xs ys : List Datum}, identicalItems xs ys →
    List.Forall₂ (fun x y => x.agrees y) xs ys
  | [], ys, h => by
    cases ys with
    | nil => exact .nil
    | cons => cases h
  | x :: xs, ys, h => by
    cases ys with
    | nil => cases h
    | cons y ys =>
      obtain ⟨first, rest⟩ := Bool.and_eq_true_iff.1 h
      exact .cons (agrees_of_identical first) (agree_of_identical rest)

theorem entries_agree_of_identical : ∀ {xs ys : Entries Live}, identicalEntries xs ys →
    List.Forall₂ EntriesAgree xs ys
  | [], ys, h => by
    cases ys with
    | nil => exact .nil
    | cons => cases h
  | (k, v) :: xs, ys, h => by
    cases ys with
    | nil => cases h
    | cons y ys =>
      simp only [identicalEntries, Bool.and_eq_true] at h
      exact .cons ⟨agrees_of_identical h.1.1, agrees_of_identical h.1.2⟩
        (entries_agree_of_identical h.2)

end

/-! ## Data -/

theorem identical_self {v : Datum} (h : v.isContainer = false) (plain : v.isPlain) :
    v.identical v := by
  rcases v with _ | _ | _ | (_ | _ | _) | _ | _ | _ | _ | _ | _ | _ | _ | _
  case list | tuple | dict | set => cases h
  case float.nan | live => cases plain
  all_goals simp [identical, Double.place?]

theorem IsData.agrees_self {v : Datum} (h : v.IsData) : v.agrees v := by
  induction h with
  | list _ ih => exact agrees_list.2 ⟨_, _, rfl, List.forall₂_same.2 ih⟩
  | tuple _ ih => exact agrees_tuple.2 ⟨_, rfl, List.forall₂_same.2 ih⟩
  | dict _ _ _ ihk ihv =>
    exact agrees_dict.2 ⟨_, _, rfl, rfl, fun e he => ⟨e, he, ihk e he, ihv e he⟩⟩
  | set _ _ ih => exact agrees_set.2 ⟨_, _, rfl, rfl, fun x hx => ⟨x, hx, ih x hx⟩⟩
  | single h plain => exact agrees_of_identical (identical_self h plain)

/-- Data agree if they are equal. -/
theorem IsData.agrees_eq_equal {a : Datum} (h : a.IsData) (b : Datum) :
    a.agrees b = a.equal b := by
  have differ : a.sameNan b = false := by
    cases h with
    | list | tuple | dict | set => rfl
    | single h plain =>
      rcases a with _ | _ | _ | (_ | _ | _) | _
      case float.nan => cases plain
      all_goals cases b <;> rfl
  rw [agrees, differ, Bool.false_or]

theorem IsData.isExactly_iff {a : Datum} (h : a.IsData) {b : Datum} :
    a.isExactly b ↔ a.sameType b ∧ a.agrees b := by
  rw [isExactly, Bool.and_eq_true, h.agrees_eq_equal]

theorem IsData.isExactly_self {a : Datum} (h : a.IsData) : a.isExactly a :=
  h.isExactly_iff.2 ⟨beq_self_eq_true _, h.agrees_self⟩

theorem isExactly_symm {a b : Datum} (ha : a.IsData) (hb : b.IsData) (h : a.isExactly b) :
    b.isExactly a := by
  obtain ⟨type, agree⟩ := ha.isExactly_iff.1 h
  exact hb.isExactly_iff.2 ⟨BEq.symm type, ha.equivalent.symm hb.proper agree⟩

theorem isExactly_trans {a b c : Datum} (ha : a.IsData) (hb : b.IsData) (hc : c.IsData)
    (h : a.isExactly b) (h' : b.isExactly c) : a.isExactly c := by
  obtain ⟨type, agree⟩ := ha.isExactly_iff.1 h
  obtain ⟨type', agree'⟩ := hb.isExactly_iff.1 h'
  exact ha.isExactly_iff.2
    ⟨BEq.trans type type', ha.equivalent.trans hb.proper hc.proper agree agree'⟩

/-- Lists and mappings, which are merged part by part. -/
def isCompound : Datum → Bool
  | .list .. | .dict .. => true
  | _ => false

/-- Induction along the way that merging takes: into the items of lists and the values of
mappings, and no further. -/
theorem IsData.induction {motive : (a : Datum) → a.IsData → Prop}
    (list : ∀ {access items} (h : ∀ x ∈ items, x.IsData),
      (∀ x (hx : x ∈ items), motive x (h x hx)) → motive (.list access items) (.list h))
    (dict : ∀ {access entries} (h : IsEntries entries),
      (∀ e (he : e ∈ entries), motive e.2 (h.values e he)) →
        motive (.dict access entries) (isData_dict.2 h))
    (simple : ∀ {a} (h : a.IsData), a.isCompound = false → motive a h) {a : Datum}
    (h : a.IsData) : motive a h := by
  induction h with
  | list h ih => exact list h ih
  | dict hk hv differ _ ihv => exact dict ⟨hk, hv, differ⟩ ihv
  | tuple h => exact simple (.tuple h) rfl
  | set h differ => exact simple (.set h differ) rfl
  | @single a h plain =>
    have compound : a.isCompound = false := by cases a <;> first | rfl | cases h
    exact simple (.single h plain) compound

theorem isCompound_of_isExactly {a b : Datum} (ha : a.isCompound = false) (h : a.isExactly b) :
    b.isCompound = false := by
  have equal := (Bool.and_eq_true_iff.1 h).2
  cases b
  case list | dict =>
    rcases a with _ | _ | _ | (_ | _ | _) | _ | _ | _ | _ | _ | _ | _ | _ | _ <;>
      first | cases ha; done | cases equal
  all_goals rfl

/-- What cannot be told apart is equal and of one type, for data that are no compounds. -/
theorem isExactly_of_identical {a b : Datum} (ha : a.IsData) (compound : a.isCompound = false)
    (h : a.identical b) : a.isExactly b := by
  refine ha.isExactly_iff.2 ⟨?_, agrees_of_identical h⟩
  cases a
  case list | dict => cases compound
  case live =>
    cases ha with
    | single _ plain => cases plain
  case set =>
    cases b <;> simp only [identical, Bool.and_eq_true, beq_iff_eq, Bool.false_eq_true] at h
    simp [sameType, typeName, h.1]
  all_goals cases b <;> first | rfl | cases h

/-! ## Fitting -/

theorem fitItems_iff {xs ys : List Datum} :
    fitItems xs ys ↔ List.Forall₂ (fun x y => x.fits y) xs ys := by
  induction xs generalizing ys with
  | nil => cases ys <;> simp [fitItems]
  | cons x xs ih => cases ys <;> simp [fitItems, ih]

/-- An entry fits into one with the same key into whose value its value fits. -/
def EntryFits (e e' : Datum × Datum) : Prop := e.1.agrees e'.1 ∧ e.2.fits e'.2

/-- Every entry fits into one of the others. -/
def EntriesFit (xs ys : Entries Live) : Prop := ∀ e ∈ xs, ∃ f ∈ ys, EntryFits e f

theorem fitEntries_iff {xs ys : Entries Live} : fitEntries xs ys ↔ EntriesFit xs ys := by
  induction xs with
  | nil => simp [fitEntries, EntriesFit]
  | cons x xs ih => simp [fitEntries, EntriesFit, EntryFits, ih]

theorem fits_list {access : Access} {xs : List Datum} {b : Datum} :
    (Value.list access xs).fits b ↔
      ∃ access' ys, b = .list access' ys ∧ List.Forall₂ (fun x y => x.fits y) xs ys := by
  cases b <;> simp [fits, fitItems_iff]

theorem fits_dict {access : Access} {xs : Entries Live} {b : Datum} :
    (Value.dict access xs).fits b ↔
      ∃ access' ys, b = .dict access' ys ∧ EntriesFit xs ys := by
  cases b <;> simp [fits, fitEntries_iff]

theorem fits_simple {a : Datum} (ha : a.isCompound = false) (b : Datum) :
    a.fits b = a.isExactly b := by
  cases a <;> first | rfl | cases ha

theorem IsData.fits_self {a : Datum} (h : a.IsData) : a.fits a := by
  induction h using IsData.induction with
  | list _ ih => exact fits_list.2 ⟨_, _, rfl, List.forall₂_same.2 ih⟩
  | dict hx ih =>
    exact fits_dict.2 ⟨_, _, rfl, fun e he => ⟨e, he, (hx.keys e he).agrees_self, ih e he⟩⟩
  | simple h compound =>
    rw [fits_simple compound]
    exact h.isExactly_self

theorem IsData.fits_trans {a b c : Datum} (ha : a.IsData) (hb : b.IsData) (hc : c.IsData)
    (h : a.fits b) (h' : b.fits c) : a.fits c := by
  induction ha using IsData.induction generalizing b c with
  | list hx ih =>
    obtain ⟨_, ys, rfl, first⟩ := fits_list.1 h
    obtain ⟨access, zs, rfl, second⟩ := fits_list.1 h'
    refine fits_list.2 ⟨access, zs, rfl, ?_⟩
    replace hb := proper_list.1 hb
    replace hc := proper_list.1 hc
    clear h h' hx
    induction first generalizing zs with
    | nil => exact second
    | cons fit _ rest =>
      cases second with
      | cons fit' second =>
        simp only [List.forall_mem_cons] at ih hb hc
        exact .cons (ih.1 hb.1 hc.1 fit fit') (rest ih.2 _ second hb.2 hc.2)
  | dict hx ih =>
    obtain ⟨_, ys, rfl, first⟩ := fits_dict.1 h
    obtain ⟨access, zs, rfl, second⟩ := fits_dict.1 h'
    have hy := isData_dict.1 hb
    have hz := isData_dict.1 hc
    refine fits_dict.2 ⟨access, zs, rfl, fun e he => ?_⟩
    obtain ⟨f, hf, key, value⟩ := first e he
    obtain ⟨g, hg, key', value'⟩ := second f hf
    have agree := (hx.keys e he).equivalent.trans (hy.keys f hf).proper (hz.keys g hg).proper key
      key'
    exact ⟨g, hg, agree, ih e he (hy.values f hf) (hz.values g hg) value value'⟩
  | simple ha compound =>
    rw [fits_simple compound] at h ⊢
    rw [fits_simple (isCompound_of_isExactly compound h)] at h'
    exact isExactly_trans ha hb hc h h'

/-- In a mapping only one entry stands under a key. -/
theorem IsEntries.unique {ys : Entries Live} (hy : IsEntries ys) {k : Datum} (hk : k.IsData)
    {e f : Datum × Datum} (he : e ∈ ys) (hf : f ∈ ys) (agree : k.agrees e.1)
    (agree' : k.agrees f.1) : e = f := by
  have same {e f : Datum × Datum} (he : e ∈ ys) (hf : f ∈ ys) (agree : k.agrees e.1)
      (agree' : k.agrees f.1) : e.1.agrees f.1 :=
    (hy.keys e he).equivalent.trans hk.proper (hy.keys f hf).proper
      (hk.equivalent.symm (hy.keys e he).proper agree) agree'
  obtain ⟨i, hi, rfl⟩ := List.getElem_of_mem he
  obtain ⟨j, hj, rfl⟩ := List.getElem_of_mem hf
  rcases lt_trichotomy i j with before | rfl | before
  · have apart := List.pairwise_iff_getElem.1 hy.differ i j hi hj before
    simp [same he hf agree agree'] at apart
  · rfl
  · have apart := List.pairwise_iff_getElem.1 hy.differ j i hj hi before
    simp [same hf he agree' agree] at apart

/-- A mapping that fits into another has no more entries. -/
theorem IsEntries.length_le {xs ys : Entries Live} (hx : IsEntries xs) (hy : IsEntries ys)
    (fit : EntriesFit xs ys) : xs.length ≤ ys.length := by
  refine length_le_of_partners fit
    (hx.differ.imp_of_mem fun {e e'} he he' different f hf there there' => ?_)
  have back := (hx.keys e' he').equivalent.symm (hy.keys f hf).proper there'.1
  have same := (hx.keys e he).equivalent.trans (hy.keys f hf).proper (hx.keys e' he').proper
    there.1 back
  simp [different] at same

/-- Values that fit into each other agree. -/
theorem IsData.agrees_of_fits {a b : Datum} (ha : a.IsData) (hb : b.IsData) (h : a.fits b)
    (h' : b.fits a) : a.agrees b := by
  induction ha using IsData.induction generalizing b with
  | list hx ih =>
    obtain ⟨access, ys, rfl, fit⟩ := fits_list.1 h
    obtain ⟨_, _, ⟨⟩, fit'⟩ := fits_list.1 h'
    refine agrees_list.2 ⟨access, ys, rfl, ?_⟩
    replace hb := proper_list.1 hb
    clear h h' hx
    induction fit with
    | nil => exact .nil
    | cons first _ rest =>
      cases fit' with
      | cons first' fit' =>
        simp only [List.forall_mem_cons] at ih hb
        exact .cons (ih.1 hb.1 first first') (rest ih.2 fit' hb.2)
  | dict hx ih =>
    obtain ⟨access, ys, rfl, fit⟩ := fits_dict.1 h
    obtain ⟨_, _, ⟨⟩, fit'⟩ := fits_dict.1 h'
    have hy := isData_dict.1 hb
    refine agrees_dict.2
      ⟨access, ys, rfl, (hx.length_le hy fit).antisymm (hy.length_le hx fit'), fun e he => ?_⟩
    obtain ⟨f, hf, there⟩ := fit e he
    obtain ⟨g, hg, back⟩ := fit' f hf
    -- The way there and back leads to the entry it started from.
    have he' := hx.keys e he
    have agree := he'.equivalent.trans (hy.keys f hf).proper (hx.keys g hg).proper there.1 back.1
    cases hx.unique he' he hg he'.agrees_self agree
    exact ⟨f, hf, there.1, ih e he (hy.values f hf) there.2 back.2⟩
  | simple ha compound =>
    rw [fits_simple compound] at h
    exact (ha.isExactly_iff.1 h).2

theorem identicalItems_iff {xs ys : List Datum} :
    identicalItems xs ys ↔ List.Forall₂ (fun x y => x.identical y) xs ys := by
  induction xs generalizing ys with
  | nil => cases ys <;> simp [identicalItems]
  | cons x xs ih => cases ys <;> simp [identicalItems, ih]

/-- Keys and values that cannot be told apart. -/
def EntryIdentical (e e' : Datum × Datum) : Prop := e.1.identical e'.1 ∧ e.2.identical e'.2

theorem identicalEntries_iff {xs ys : Entries Live} :
    identicalEntries xs ys ↔ List.Forall₂ EntryIdentical xs ys := by
  induction xs generalizing ys with
  | nil => cases ys <;> simp [identicalEntries]
  | cons x xs ih => cases ys <;> simp [identicalEntries, EntryIdentical, ih]

/-- Data that cannot be told apart fit into each other. -/
theorem IsData.fits_of_identical {a b : Datum} (ha : a.IsData) (hb : b.IsData)
    (h : a.identical b) : a.fits b ∧ b.fits a := by
  induction ha using IsData.induction generalizing b with
  | @list _ xs hx ih =>
    cases b <;> simp only [identical, Bool.and_eq_true, Bool.false_eq_true] at h
    case list access ys =>
    replace hb := proper_list.1 hb
    have same := identicalItems_iff.1 h.2
    clear h hx
    suffices each : List.Forall₂ (fun x y => x.fits y ∧ y.fits x) xs ys from
      ⟨fits_list.2 ⟨_, _, rfl, each.imp fun _ _ => And.left⟩,
        fits_list.2 ⟨_, _, rfl, (each.imp fun _ _ => And.right).flip⟩⟩
    induction same with
    | nil => exact .nil
    | cons first _ rest =>
      simp only [List.forall_mem_cons] at ih hb
      exact .cons (ih.1 hb.1 first) (rest ih.2 hb.2)
  | dict hx ih =>
    cases b <;> simp only [identical, Bool.and_eq_true, Bool.false_eq_true] at h
    case dict access ys =>
    have hy := isData_dict.1 hb
    have same := identicalEntries_iff.1 h.2
    refine ⟨fits_dict.2 ⟨_, _, rfl, fun e he => ?_⟩, fits_dict.2 ⟨_, _, rfl, fun f hf => ?_⟩⟩
    · obtain ⟨f, hf, key, value⟩ := forall₂_partner same he
      exact ⟨f, hf, agrees_of_identical key, (ih e he (hy.values f hf) value).1⟩
    · obtain ⟨e, he, key, value⟩ := forall₂_partner same.flip hf
      have agree := (hx.keys e he).equivalent.symm (hy.keys f hf).proper (agrees_of_identical key)
      exact ⟨e, he, agree, (ih e he (hy.values f hf) value).2⟩
  | simple ha compound =>
    have exact := isExactly_of_identical ha compound h
    rw [fits_simple compound, fits_simple (isCompound_of_isExactly compound exact)]
    exact ⟨exact, isExactly_symm ha hb exact⟩

/-- Lists and mappings fit into lists and mappings, other values into others. -/
theorem isCompound_eq_of_fits {a b : Datum} (h : a.fits b) : a.isCompound = b.isCompound := by
  cases compound : a.isCompound with
  | true =>
    cases a <;> first | cases compound; done | skip
    case list => obtain ⟨_, _, rfl, -⟩ := fits_list.1 h; rfl
    case dict => obtain ⟨_, _, rfl, -⟩ := fits_dict.1 h; rfl
  | false =>
    rw [fits_simple compound] at h
    exact (isCompound_of_isExactly compound h).symm

theorem fits_into_list {b : Datum} {access : Access} {us : List Datum}
    (h : b.fits (.list access us)) : ∃ access' ys, b = .list access' ys := by
  have compound : b.isCompound := isCompound_eq_of_fits h
  cases b <;> first | cases compound; done | skip
  case list access' ys => exact ⟨access', ys, rfl⟩
  case dict => cases h

theorem fits_into_dict {b : Datum} {access : Access} {us : Entries Live}
    (h : b.fits (.dict access us)) : ∃ access' ys, b = .dict access' ys := by
  have compound : b.isCompound := isCompound_eq_of_fits h
  cases b <;> first | cases compound; done | skip
  case list => cases h
  case dict access' ys => exact ⟨access', ys, rfl⟩

/-! ## Renaming -/

section

variable {ρ : Nat → Nat}

theorem rename_of_isPlain {a : Datum} (h : a.isContainer = false) (plain : a.isPlain) :
    a.rename ρ = a := by
  rcases a with _ | _ | _ | (_ | _ | _) | _ | _ | _ | _ | _ | _ | _ | _ | _
  case list | tuple | dict | set => cases h
  case float.nan | live => cases plain
  all_goals rfl

/-- The identities in data do not tell them from others. -/
theorem IsData.agrees_rename {a : Datum} (h : a.IsData) : a.agrees (a.rename ρ) := by
  induction h with
  | list _ ih =>
    refine agrees_list.2 ⟨_, _, rfl, ?_⟩
    rw [renameItems_eq, List.forall₂_map_right_iff]
    exact List.forall₂_same.2 ih
  | tuple _ ih =>
    refine agrees_tuple.2 ⟨_, rfl, ?_⟩
    rw [renameItems_eq, List.forall₂_map_right_iff]
    exact List.forall₂_same.2 ih
  | dict _ _ _ ihk ihv =>
    refine agrees_dict.2 ⟨_, _, rfl, by simp, fun e he => ?_⟩
    rw [renameEntries_eq]
    exact ⟨_, List.mem_map_of_mem he, ihk e he, ihv e he⟩
  | set _ _ ih =>
    refine agrees_set.2 ⟨_, _, rfl, by simp, fun x hx => ?_⟩
    rw [renameItems_eq]
    exact ⟨_, List.mem_map_of_mem hx, ih x hx⟩
  | @single a h plain =>
    rw [rename_of_isPlain h plain]
    exact IsData.agrees_self (.single h plain)

theorem IsData.rename (hρ : Function.Injective ρ) {a : Datum} (h : a.IsData) :
    (a.rename ρ).IsData := by
  induction h with
  | list _ ih => exact proper_list.2 (by simpa using ih)
  | tuple _ ih => exact proper_tuple.2 (by simpa using ih)
  | dict _ _ differ ihk ihv =>
    refine isData_dict.2 ?_
    rw [renameEntries_eq]
    refine ⟨List.forall_mem_map.2 ihk, List.forall_mem_map.2 ihv, List.pairwise_map.2 ?_⟩
    exact differ.imp fun apart => (Value.agrees_rename hρ _ _).trans apart
  | set _ differ ih =>
    rw [Value.rename, renameItems_eq]
    refine .set (List.forall_mem_map.2 ih) (List.pairwise_map.2 ?_)
    exact differ.imp fun apart => (Value.agrees_rename hρ _ _).trans apart
  | @single a h plain =>
    rw [rename_of_isPlain h plain]
    exact .single h plain

/-- Data fit into what they are renamed to, and that fits into them. -/
theorem IsData.fits_rename (hρ : Function.Injective ρ) {a : Datum} (h : a.IsData) :
    a.fits (a.rename ρ) ∧ (a.rename ρ).fits a := by
  induction h using IsData.induction with
  | @list access xs hx ih =>
    have each : List.Forall₂ (fun x y => x.fits y ∧ y.fits x) xs (xs.map (Value.rename ρ)) := by
      rw [List.forall₂_map_right_iff]
      exact List.forall₂_same.2 ih
    rw [Value.rename, renameItems_eq]
    exact ⟨fits_list.2 ⟨_, _, rfl, each.imp fun _ _ => And.left⟩,
      fits_list.2 ⟨_, _, rfl, (each.imp fun _ _ => And.right).flip⟩⟩
  | dict hx ih =>
    rw [Value.rename, renameEntries_eq]
    refine ⟨fits_dict.2 ⟨_, _, rfl, fun e he => ?_⟩,
      fits_dict.2 ⟨_, _, rfl, List.forall_mem_map.2 fun e he => ?_⟩⟩
    · exact ⟨_, List.mem_map_of_mem he, (hx.keys e he).agrees_rename, (ih e he).1⟩
    · have key := (hx.keys e he).equivalent.symm ((hx.keys e he).rename hρ).proper
        (hx.keys e he).agrees_rename
      exact ⟨e, he, key, (ih e he).2⟩
  | @simple a ha compound =>
    have exact : a.isExactly (a.rename ρ) :=
      ha.isExactly_iff.2 ⟨by simp [sameType], ha.agrees_rename⟩
    rw [fits_simple compound, fits_simple (isCompound_of_isExactly compound exact)]
    exact ⟨exact, isExactly_symm ha (ha.rename hρ) exact⟩

end

end Value
end TwoWay
