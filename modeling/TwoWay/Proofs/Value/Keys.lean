import TwoWay.Proofs.Value.Regular
import Mathlib.Data.Fintype.EquivFin

/-!
# Agreement of keys

Keys agree if they hold the same single values: numbers at one place, the same `nan`, equal
texts. Among proper values, whose mappings have keys and whose sets have members that differ,
agreement can be read in both directions and passed on (`Value.Proper.equivalent`). For mappings
and sets this is a matter of counting: members that differ find different partners, and so none
is left over on the other side.
-/

namespace TwoWay

/-- Members that find partners, and different ones, can be sent to these. -/
theorem partners_injective {α β : Type} {R : α → β → Prop} {xs : List α} {ys : List β}
    (found : ∀ x ∈ xs, ∃ y ∈ ys, R x y)
    (differ : xs.Pairwise fun x x' => ∀ y ∈ ys, R x y → ¬R x' y) :
    ∃ f : Fin xs.length → Fin ys.length, Function.Injective f ∧ ∀ i, R xs[i] ys[f i] := by
  have partner (i : Fin xs.length) : ∃ j : Fin ys.length, R xs[i] ys[j] := by
    obtain ⟨y, hy, related⟩ := found _ (List.getElem_mem i.2)
    obtain ⟨j, hj, rfl⟩ := List.getElem_of_mem hy
    exact ⟨⟨j, hj⟩, related⟩
  choose f hf using partner
  refine ⟨f, fun i j same => ?_, hf⟩
  by_contra different
  have apart (i j : Fin xs.length) (before : i < j) (same : f i = f j) : False :=
    List.pairwise_iff_getElem.1 differ i j i.2 j.2 before _ (List.getElem_mem (f i).2) (hf i)
      (same ▸ hf j)
  rcases lt_or_gt_of_ne different with before | before
  · exact apart i j before same
  · exact apart j i before same.symm

theorem length_le_of_partners {α β : Type} {R : α → β → Prop} {xs : List α} {ys : List β}
    (found : ∀ x ∈ xs, ∃ y ∈ ys, R x y)
    (differ : xs.Pairwise fun x x' => ∀ y ∈ ys, R x y → ¬R x' y) : xs.length ≤ ys.length := by
  obtain ⟨f, injective, -⟩ := partners_injective found differ
  simpa using Fintype.card_le_of_injective f injective

/-- A list whose members find partners in a list of the same length, and different ones, leaves
no partner over. -/
theorem exists_partner {α β : Type} {R : α → β → Prop} {xs : List α} {ys : List β}
    (length : xs.length = ys.length) (found : ∀ x ∈ xs, ∃ y ∈ ys, R x y)
    (differ : xs.Pairwise fun x x' => ∀ y ∈ ys, R x y → ¬R x' y) {y : β} (hy : y ∈ ys) :
    ∃ x ∈ xs, R x y := by
  obtain ⟨f, injective, hf⟩ := partners_injective found differ
  have surjective : Function.Surjective f :=
    ((Fintype.bijective_iff_injective_and_card f).2 ⟨injective, by simp [length]⟩).2
  obtain ⟨j, hj, rfl⟩ := List.getElem_of_mem hy
  obtain ⟨i, hi⟩ := surjective ⟨j, hj⟩
  exact ⟨xs[i], List.getElem_mem i.2, by simpa [hi] using hf i⟩

/-- An identity, once it can be told from others. -/
def Identity.told? : Identity → Option Identity
  | .new => none
  | id => some id

@[simp, grind =] theorem Identity.told?_new : Identity.new.told? = none := rfl

theorem Identity.same_iff {i j : Identity} :
    i.same j ↔ ∃ id, i.told? = some id ∧ j.told? = some id := by
  cases i <;> cases j <;> simp only [same, told?] <;> grind

/-- What tells a handle apart: the function, the promise, or what has an identity. -/
inductive Live.Told where
  | function (id : Nat)
  | promise (id : Nat)
  | other (id : Identity)

def Live.told? : Live → Option Live.Told
  | .function f => some (.function f.id)
  | .promise id _ _ => some (.promise id)
  | x => x.identity.told?.map .other

namespace Value

/-- What tells a value apart that is no container. -/
inductive Single where
  | none
  | str (s : String)
  | bytes (bytes : List UInt8)
  | missing
  | invalid
  | number (place : Place)
  | nan (id : Identity)
  | live (x : Live.Told)

/-- What tells a value apart. What was just made is not told apart yet. -/
def single? : Datum → Option Single
  | .none => some .none
  | .str s => some (.str s)
  | .bytes bs => some (.bytes bs)
  | .missing => some .missing
  | .invalid => some .invalid
  | .float (.nan id) => id.told?.map .nan
  | .live x => x.told?.map .live
  | v => v.place?.map .number

/-- Two values share what tells them apart. -/
def SameSingle (k l : Option Single) : Prop := ∃ s, k = some s ∧ l = some s

theorem exists_map_iff {α β : Type} {f : α → β} (hf : ∀ a b, f a = f b → a = b)
    (k l : Option α) :
    (∃ b, k.map f = some b ∧ l.map f = some b) ↔ ∃ a, k = some a ∧ l = some a := by
  cases k with
  | none => simp
  | some a =>
    cases l with
    | none => simp
    | some b =>
      simp only [Option.map_some, Option.some.injEq, exists_eq_left']
      exact ⟨hf b a, congrArg f⟩

theorem same_live (x y : Live) : x.same y ↔ ∃ k, x.told? = some k ∧ y.told? = some k := by
  have others : x.identity.same y.identity ↔
      ∃ k, x.identity.told?.map Live.Told.other = some k ∧
        y.identity.told?.map Live.Told.other = some k :=
    Identity.same_iff.trans (exists_map_iff (fun _ _ => Live.Told.other.inj) _ _).symm
  cases x <;> cases y <;>
    first
    | exact others
    | simp [Live.same, Live.told?, Live.identity, Identity.same]; done
    | simp only [Live.same, Live.told?, decide_eq_true_eq, beq_iff_eq, Option.some.injEq]; grind

theorem samePlace_iff {a b : Datum} :
    a.samePlace b ↔ ∃ p, a.place? = some p ∧ b.place? = some p := by
  unfold samePlace
  cases a.place? <;> cases b.place? <;> grind

theorem agrees_of_samePlace {a b : Datum} (hequal : a.equal b = a.samePlace b)
    (h : a.samePlace b) : a.agrees b := by
  rw [agrees, hequal, h, Bool.or_true]

/-- Numbers that are no `nan` agree at the same place. -/
theorem agrees_number {a b : Datum} (hnan : sameNan a b = false)
    (hequal : a.equal b = a.samePlace b) (ha : a.single? = a.place?.map .number)
    (hb : b.single? = b.place?.map .number) : a.agrees b ↔ SameSingle a.single? b.single? := by
  rw [agrees, hnan, hequal, Bool.false_or, samePlace_iff, ha, hb]
  exact (exists_map_iff (fun _ _ => Single.number.inj) _ _).symm

theorem agrees_nan (i j : Identity) : (Value.float (.nan i) : Datum).agrees (.float (.nan j)) ↔
    SameSingle (i.told?.map .nan) (j.told?.map .nan) := by
  simp only [agrees, sameNan, Double.sameNan, equal, samePlace, place?, Double.place?,
    Bool.or_false]
  exact Identity.same_iff.trans (exists_map_iff (fun _ _ => Single.nan.inj) _ _).symm

theorem agrees_live (x y : Live) : (Value.live x : Datum).agrees (.live y) ↔
    SameSingle (x.told?.map .live) (y.told?.map .live) := by
  simp only [agrees, sameNan, equal, Bool.false_or]
  exact (same_live x y).trans (exists_map_iff (fun _ _ => Single.live.inj) _ _).symm

/-- Values that do not agree, if nothing tells them apart in the same way. -/
theorem not_agrees_single {a b : Datum} (h : a.agrees b = false)
    (apart : ∀ s, a.single? = some s → b.single? = some s → False) :
    a.agrees b ↔ SameSingle a.single? b.single? :=
  ⟨fun same => absurd same (by simp [h]), fun ⟨s, ha, hb⟩ => (apart s ha hb).elim⟩

/-- Values that are no containers agree if the same tells them apart from others. -/
theorem agrees_single {a b : Datum} (ha : a.isContainer = false) (hb : b.isContainer = false) :
    a.agrees b ↔ SameSingle a.single? b.single? := by
  rcases a with _ | _ | _ | (_ | _ | _) | _ | _ | _ | _ | _ | _ | _ | _ | _
  case list | tuple | dict | set => cases ha
  all_goals
    rcases b with _ | _ | _ | (_ | _ | _) | _ | _ | _ | _ | _ | _ | _ | _ | _
    case list | tuple | dict | set => cases hb
    all_goals
      first
      | exact agrees_number rfl rfl rfl rfl
      | exact agrees_nan _ _
      | exact agrees_live _ _
      | exact not_agrees_single rfl fun s hs hs' => by
          first
          | (cases hs; cases hs')
          | (obtain ⟨_, -, rfl⟩ := Option.map_eq_some_iff.1 hs; cases hs')
          | (obtain ⟨_, -, rfl⟩ := Option.map_eq_some_iff.1 hs'; cases hs)
          | (obtain ⟨_, -, rfl⟩ := Option.map_eq_some_iff.1 hs
             obtain ⟨_, -, hs'⟩ := Option.map_eq_some_iff.1 hs'
             cases hs')
      | simp [agrees, sameNan, equal, single?, SameSingle]; done
      | simp [agrees, sameNan, equal, single?, SameSingle]; exact eq_comm

/-- Values whose mappings have keys and whose sets have members that differ. What is in them and
no container has `p`. -/
inductive Proper (p : Datum → Prop) : Datum → Prop
  | list {access : Access} {items : List Datum} (h : ∀ x ∈ items, Proper p x) :
    Proper p (.list access items)
  | tuple {items : List Datum} (h : ∀ x ∈ items, Proper p x) : Proper p (.tuple items)
  | dict {access : Access} {entries : Entries Live} (hk : ∀ e ∈ entries, Proper p e.1)
    (hv : ∀ e ∈ entries, Proper p e.2)
    (differ : entries.Pairwise fun e e' => e.1.agrees e'.1 = false) :
    Proper p (.dict access entries)
  | set {readOnly : Bool} {items : List Datum} (h : ∀ x ∈ items, Proper p x)
    (differ : items.Pairwise fun x y => x.agrees y = false) : Proper p (.set readOnly items)
  | single {v : Datum} (h : v.isContainer = false) (hp : p v) : Proper p v

abbrev IsProper : Datum → Prop := Proper fun _ => True

section

variable {p q : Datum → Prop}

theorem Proper.mono {v : Datum} (h : v.Proper p) (hpq : ∀ x, p x → q x) : v.Proper q := by
  induction h with
  | list _ ih => exact .list ih
  | tuple _ ih => exact .tuple ih
  | dict _ _ differ ihk ihv => exact .dict ihk ihv differ
  | set _ differ ih => exact .set ih differ
  | single h hp => exact .single h (hpq _ hp)

theorem Proper.proper {v : Datum} (h : v.Proper p) : v.IsProper := h.mono fun _ _ => trivial

@[simp] theorem proper_list {access : Access} {items : List Datum} :
    (Value.list access items).Proper p ↔ ∀ x ∈ items, x.Proper p := by
  refine ⟨fun h => ?_, .list⟩
  cases h with
  | list h => exact h
  | single h => cases h

@[simp] theorem proper_tuple {items : List Datum} :
    (Value.tuple items).Proper p ↔ ∀ x ∈ items, x.Proper p := by
  refine ⟨fun h => ?_, .tuple⟩
  cases h with
  | tuple h => exact h
  | single h => cases h

@[simp] theorem proper_dict {access : Access} {entries : Entries Live} :
    (Value.dict access entries).Proper p ↔ (∀ e ∈ entries, e.1.Proper p) ∧
      (∀ e ∈ entries, e.2.Proper p) ∧
      entries.Pairwise fun e e' => e.1.agrees e'.1 = false := by
  refine ⟨fun h => ?_, fun h => .dict h.1 h.2.1 h.2.2⟩
  cases h with
  | dict hk hv differ => exact ⟨hk, hv, differ⟩
  | single h => cases h

@[simp] theorem proper_set {readOnly : Bool} {items : List Datum} :
    (Value.set readOnly items).Proper p ↔
      (∀ x ∈ items, x.Proper p) ∧ items.Pairwise fun x y => x.agrees y = false := by
  refine ⟨fun h => ?_, fun h => .set h.1 h.2⟩
  cases h with
  | set h differ => exact ⟨h, differ⟩
  | single h => cases h

end

/-- Values that can be keys. The members of a set differ. -/
inductive IsProperKey : Datum → Prop
  | tuple {items : List Datum} (h : ∀ x ∈ items, IsProperKey x) : IsProperKey (.tuple items)
  | set {items : List Datum} (h : ∀ x ∈ items, IsProperKey x)
    (differ : items.Pairwise fun x y => x.agrees y = false) : IsProperKey (.set true items)
  | single {v : Datum} (h : v.isContainer = false) : IsProperKey v

theorem IsProperKey.hashable {v : Datum} (h : v.IsProperKey) : v.unhashable? = Option.none := by
  induction h with
  | tuple _ ih => exact unhashableItem?_eq_none.2 ih
  | set => rfl
  | @single v h => cases v <;> first | rfl | cases h

theorem IsProperKey.proper {v : Datum} (h : v.IsProperKey) : v.IsProper := by
  induction h with
  | tuple _ ih => exact .tuple ih
  | set _ differ ih => exact .set ih differ
  | single h => exact .single h trivial

theorem equalItems_iff {xs ys : List Datum} :
    equalItems xs ys ↔ List.Forall₂ (fun x y => x.agrees y) xs ys := by
  induction xs generalizing ys with
  | nil => cases ys <;> simp [equalItems]
  | cons x xs ih => cases ys <;> simp [equalItems, agrees, ih]

theorem itemsIn_iff {xs ys : List Datum} :
    itemsIn xs ys ↔ ∀ x ∈ xs, ∃ y ∈ ys, x.agrees y := by
  induction xs with
  | nil => simp [itemsIn]
  | cons x xs ih => simp [itemsIn, agrees, ih]

/-- Entries agree if their keys and their values do. -/
def EntriesAgree (e e' : Datum × Datum) : Prop := e.1.agrees e'.1 ∧ e.2.agrees e'.2

theorem entriesIn_iff {xs ys : Entries Live} :
    entriesIn xs ys ↔ ∀ e ∈ xs, ∃ e' ∈ ys, EntriesAgree e e' := by
  induction xs with
  | nil => simp [entriesIn]
  | cons x xs ih => simp [entriesIn, EntriesAgree, agrees, ih]

theorem agrees_list {access : Access} {xs : List Datum} {b : Datum} :
    (Value.list access xs).agrees b ↔
      ∃ access' ys, b = .list access' ys ∧ List.Forall₂ (fun x y => x.agrees y) xs ys := by
  cases b
  case list => simp [agrees, sameNan, equal, equalItems_iff]
  all_goals
    constructor
    · intro h
      cases h
    · rintro ⟨access', ys, same, -⟩
      cases same

theorem agrees_tuple {xs : List Datum} {b : Datum} : (Value.tuple xs).agrees b ↔
    ∃ ys, b = .tuple ys ∧ List.Forall₂ (fun x y => x.agrees y) xs ys := by
  cases b
  case tuple => simp [agrees, sameNan, equal, equalItems_iff]
  all_goals
    constructor
    · intro h
      cases h
    · rintro ⟨ys, same, -⟩
      cases same

theorem agrees_dict {access : Access} {xs : Entries Live} {b : Datum} :
    (Value.dict access xs).agrees b ↔ ∃ access' ys, b = .dict access' ys ∧
      xs.length = ys.length ∧ ∀ e ∈ xs, ∃ e' ∈ ys, EntriesAgree e e' := by
  cases b
  case dict => simp [agrees, sameNan, equal, entriesIn_iff]
  all_goals
    constructor
    · intro h
      cases h
    · rintro ⟨access', ys, same, -⟩
      cases same

theorem agrees_set {readOnly : Bool} {xs : List Datum} {b : Datum} :
    (Value.set readOnly xs).agrees b ↔ ∃ readOnly' ys, b = .set readOnly' ys ∧
      xs.length = ys.length ∧ ∀ x ∈ xs, ∃ y ∈ ys, x.agrees y := by
  cases b
  case set => simp [agrees, sameNan, equal, itemsIn_iff]
  all_goals
    constructor
    · intro h
      cases h
    · rintro ⟨readOnly', ys, same, -⟩
      cases same

/-- A container and another value do not agree. -/
theorem not_agrees_container {a b : Datum} (h : a.isContainer ≠ b.isContainer) :
    a.agrees b = false := by
  rcases a with _ | _ | _ | (_ | _ | _) | _ | _ | _ | _ | _ | _ | _ | _ | _ <;>
    cases b <;> first | exact absurd rfl h | rfl

/-- What agrees can be read in both directions and passed on. -/
structure IsEquivalent (a : Datum) : Prop where
  symm : ∀ {b : Datum}, b.IsProper → a.agrees b → b.agrees a
  trans : ∀ {b c : Datum}, b.IsProper → c.IsProper → a.agrees b → b.agrees c → a.agrees c

theorem forall₂_symm {xs ys : List Datum} (ih : ∀ x ∈ xs, x.IsEquivalent)
    (hy : ∀ y ∈ ys, y.IsProper) (h : List.Forall₂ (fun x y => x.agrees y) xs ys) :
    List.Forall₂ (fun x y => x.agrees y) ys xs := by
  induction h with
  | nil => exact .nil
  | cons first _ rest =>
    obtain ⟨hx, hxs⟩ := List.forall_mem_cons.1 ih
    obtain ⟨hy, hys⟩ := List.forall_mem_cons.1 hy
    exact .cons (hx.symm hy first) (rest hxs hys)

theorem forall₂_trans {xs ys zs : List Datum} (ih : ∀ x ∈ xs, x.IsEquivalent)
    (hy : ∀ y ∈ ys, y.IsProper) (hz : ∀ z ∈ zs, z.IsProper)
    (h : List.Forall₂ (fun x y => x.agrees y) xs ys)
    (h' : List.Forall₂ (fun x y => x.agrees y) ys zs) :
    List.Forall₂ (fun x y => x.agrees y) xs zs := by
  induction h generalizing zs with
  | nil => exact h'
  | cons first _ rest =>
    cases h' with
    | cons second h' =>
      obtain ⟨hx, hxs⟩ := List.forall_mem_cons.1 ih
      obtain ⟨hy, hys⟩ := List.forall_mem_cons.1 hy
      obtain ⟨hz, hzs⟩ := List.forall_mem_cons.1 hz
      exact .cons (hx.trans hy hz first second) (rest hxs hys hzs h')

/-- Members that differ and find partners among as many others are found by these. `R` is what
partners share, and `same` what members do that share a partner. -/
theorem found_by_partners {α : Type} {R : α → α → Prop} (same : α → α → Prop) {xs ys : List α}
    (length : xs.length = ys.length) (found : ∀ x ∈ xs, ∃ y ∈ ys, R x y)
    (symm : ∀ x ∈ xs, ∀ y ∈ ys, R x y → R y x)
    (shared : ∀ x ∈ xs, ∀ x' ∈ xs, ∀ y ∈ ys, R x y → R x' y → same x x')
    (differ : xs.Pairwise fun x x' => ¬same x x') : ∀ y ∈ ys, ∃ x ∈ xs, R y x := by
  intro y hy
  have apart : xs.Pairwise fun x x' => ∀ y ∈ ys, R x y → ¬R x' y :=
    differ.imp_of_mem fun {x x'} hx hx' different y hy first second =>
      different (shared x hx x' hx' y hy first second)
  obtain ⟨x, hx, related⟩ := exists_partner length found apart hy
  exact ⟨x, hx, symm x hx y hy related⟩

theorem equivalent_list {access : Access} {xs : List Datum} (ih : ∀ x ∈ xs, x.IsEquivalent) :
    (Value.list access xs).IsEquivalent := by
  constructor
  · intro b hb hab
    obtain ⟨_, ys, rfl, related⟩ := agrees_list.1 hab
    exact agrees_list.2 ⟨access, xs, rfl, forall₂_symm ih (proper_list.1 hb) related⟩
  · intro b c hb hc hab hbc
    obtain ⟨_, ys, rfl, related⟩ := agrees_list.1 hab
    obtain ⟨access', zs, rfl, related'⟩ := agrees_list.1 hbc
    exact agrees_list.2 ⟨access', zs, rfl,
      forall₂_trans ih (proper_list.1 hb) (proper_list.1 hc) related related'⟩

theorem equivalent_tuple {xs : List Datum} (ih : ∀ x ∈ xs, x.IsEquivalent) :
    (Value.tuple xs).IsEquivalent := by
  constructor
  · intro b hb hab
    obtain ⟨ys, rfl, related⟩ := agrees_tuple.1 hab
    exact agrees_tuple.2 ⟨xs, rfl, forall₂_symm ih (proper_tuple.1 hb) related⟩
  · intro b c hb hc hab hbc
    obtain ⟨ys, rfl, related⟩ := agrees_tuple.1 hab
    obtain ⟨zs, rfl, related'⟩ := agrees_tuple.1 hbc
    exact agrees_tuple.2 ⟨zs, rfl,
      forall₂_trans ih (proper_tuple.1 hb) (proper_tuple.1 hc) related related'⟩

theorem equivalent_dict {access : Access} {xs : Entries Live} (hk : ∀ e ∈ xs, e.1.IsProper)
    (differ : xs.Pairwise fun e e' => e.1.agrees e'.1 = false)
    (ihk : ∀ e ∈ xs, e.1.IsEquivalent) (ihv : ∀ e ∈ xs, e.2.IsEquivalent) :
    (Value.dict access xs).IsEquivalent := by
  constructor
  · intro b hb hab
    obtain ⟨_, ys, rfl, length, found⟩ := agrees_dict.1 hab
    obtain ⟨keys, values, -⟩ := proper_dict.1 hb
    refine agrees_dict.2 ⟨access, xs, rfl, length.symm,
      found_by_partners (fun e e' => e.1.agrees e'.1) length found
        (fun e he e' he' h => ⟨(ihk e he).symm (keys e' he') h.1,
          (ihv e he).symm (values e' he') h.2⟩)
        (fun e he e' he' f hf h h' => ?_) (differ.imp fun different => by simp [different])⟩
    exact (ihk e he).trans (keys f hf) (hk e' he') h.1 ((ihk e' he').symm (keys f hf) h'.1)
  · intro b c hb hc hab hbc
    obtain ⟨_, ys, rfl, length, found⟩ := agrees_dict.1 hab
    obtain ⟨access', zs, rfl, length', found'⟩ := agrees_dict.1 hbc
    obtain ⟨keys, values, -⟩ := proper_dict.1 hb
    obtain ⟨keys', values', -⟩ := proper_dict.1 hc
    refine agrees_dict.2 ⟨access', zs, rfl, length.trans length', fun e he => ?_⟩
    obtain ⟨e', he', first⟩ := found e he
    obtain ⟨f, hf, second⟩ := found' e' he'
    exact ⟨f, hf, (ihk e he).trans (keys e' he') (keys' f hf) first.1 second.1,
      (ihv e he).trans (values e' he') (values' f hf) first.2 second.2⟩

theorem equivalent_set {readOnly : Bool} {xs : List Datum} (hx : ∀ x ∈ xs, x.IsProper)
    (differ : xs.Pairwise fun x y => x.agrees y = false) (ih : ∀ x ∈ xs, x.IsEquivalent) :
    (Value.set readOnly xs).IsEquivalent := by
  constructor
  · intro b hb hab
    obtain ⟨_, ys, rfl, length, found⟩ := agrees_set.1 hab
    obtain ⟨hy, -⟩ := proper_set.1 hb
    refine agrees_set.2 ⟨readOnly, xs, rfl, length.symm,
      found_by_partners (fun x y => x.agrees y) length found
        (fun x hx y hmem => (ih x hx).symm (hy y hmem))
        (fun x hmem x' hmem' y hmem'' h h' => ?_) (differ.imp fun different => by simp [different])⟩
    exact (ih x hmem).trans (hy y hmem'') (hx x' hmem') h ((ih x' hmem').symm (hy y hmem'') h')
  · intro b c hb hc hab hbc
    obtain ⟨_, ys, rfl, length, found⟩ := agrees_set.1 hab
    obtain ⟨readOnly', zs, rfl, length', found'⟩ := agrees_set.1 hbc
    obtain ⟨hy, -⟩ := proper_set.1 hb
    obtain ⟨hz, -⟩ := proper_set.1 hc
    refine agrees_set.2 ⟨readOnly', zs, rfl, length.trans length', fun x hx => ?_⟩
    obtain ⟨y, hmem, first⟩ := found x hx
    obtain ⟨z, hmem', second⟩ := found' y hmem
    exact ⟨z, hmem', (ih x hx).trans (hy y hmem) (hz z hmem') first second⟩

theorem equivalent_single {a : Datum} (ha : a.isContainer = false) : a.IsEquivalent := by
  have alike {a b : Datum} (ha : a.isContainer = false) (hab : a.agrees b) :
      b.isContainer = false := by
    by_contra hb
    rw [not_agrees_container (by simp [ha, hb])] at hab
    cases hab
  constructor
  · intro b hb hab
    have hb := alike ha hab
    obtain ⟨k, hak, hbk⟩ := (agrees_single ha hb).1 hab
    exact (agrees_single hb ha).2 ⟨k, hbk, hak⟩
  · intro b c hb hc hab hbc
    have hb := alike ha hab
    have hc := alike hb hbc
    obtain ⟨k, hak, hbk⟩ := (agrees_single ha hb).1 hab
    obtain ⟨l, hbl, hcl⟩ := (agrees_single hb hc).1 hbc
    cases hbk.symm.trans hbl
    exact (agrees_single ha hc).2 ⟨k, hak, hcl⟩

/-- Among proper values agreement is an equivalence. -/
theorem Proper.equivalent {p : Datum → Prop} {a : Datum} (h : a.Proper p) : a.IsEquivalent := by
  induction h with
  | list _ ih => exact equivalent_list ih
  | tuple _ ih => exact equivalent_tuple ih
  | dict hk _ differ ihk ihv => exact equivalent_dict (fun e he => (hk e he).proper) differ ihk ihv
  | set h differ ih => exact equivalent_set (fun x hx => (h x hx).proper) differ ih
  | single h => exact equivalent_single h

/-- What is exactly a proper key can be a key itself, unless it is a tuple. -/
theorem hashable_of_isExactly {v t : Datum} (h : v.isExactly t) (ht : t.IsProperKey)
    (htuple : ∀ items, v ≠ .tuple items) : v.unhashable? = Option.none := by
  obtain ⟨type, equal⟩ := Bool.and_eq_true_iff.1 h
  cases v
  case list | dict =>
    cases t <;> first | cases equal | (cases ht with | single h => cases h)
  case set readOnly items =>
    cases t
    case set =>
      cases ht with
      | single h => cases h
      | set =>
        cases readOnly with
        | true => rfl
        | false => cases type
    all_goals cases equal
  case tuple items => exact absurd rfl (htuple items)
  all_goals rfl

end Value
end TwoWay
