import TwoWay.Proofs.Value.Merging
import TwoWay.Proofs.Value.Trimming

/-!
# Trimmed forms that do not merge

Merging goes into lists and mappings, and takes all other values as a whole. So two trimmed forms of
one value merge unless they differ in a tuple, or a set may be changed in one of them and not in the
other (`Value.merge_eq_none_iff`). Values without such places have trimmed forms that always merge
(`Value.Uniform.not_apart`).
-/

namespace TwoWay.Value

/-- Values that are different where merging does not go into them. -/
inductive Apart : Datum → Datum → Prop
  | tuple {xs ys : List Datum} (h : (Value.tuple xs).equal (.tuple ys) = false) :
    Apart (.tuple xs) (.tuple ys)
  | set {readOnly readOnly' : Bool} {xs ys : List Datum} (h : readOnly ≠ readOnly') :
    Apart (.set readOnly xs) (.set readOnly' ys)
  | list {access access' : Access} {xs ys : List Datum} {p : Datum × Datum} (hp : p ∈ xs.zip ys)
    (h : Apart p.1 p.2) : Apart (.list access xs) (.list access' ys)
  | dict {access access' : Access} {xs ys : Entries Live} {k x y : Datum} (hx : (k, x) ∈ xs)
    (hy : (k, y) ∈ ys) (h : Apart x y) : Apart (.dict access xs) (.dict access' ys)

/-- Proper values in which everything but containers is the same as itself, also a `nan`. -/
abbrev Told : Datum → Prop := Proper fun x => x.identical x

variable {lax strips : Prop}

/-! ## Forms of one value -/

theorem Trimmed.of_list {access : Access} {vs : List Datum} {x : Datum}
    (h : (Value.list access vs).Trimmed strips x) :
    ∃ access' xs, x = .list access' xs ∧ List.Forall₂ (Trimmed strips) vs xs := by
  cases h with
  | same => exact ⟨_, _, rfl, forall₂_same vs⟩
  | list length h => exact ⟨_, _, rfl, forall₂_trimmed.2 ⟨length, h⟩⟩

theorem Trimmed.of_tuple {vs : List Datum} {x : Datum}
    (h : (Value.tuple vs).Trimmed strips x) :
    ∃ xs, x = .tuple xs ∧ List.Forall₂ (Trimmed strips) vs xs := by
  cases h with
  | same => exact ⟨_, rfl, forall₂_same vs⟩
  | tuple length h => exact ⟨_, rfl, forall₂_trimmed.2 ⟨length, h⟩⟩

theorem Trimmed.of_set {readOnly : Bool} {items : List Datum} {x : Datum}
    (h : (Value.set readOnly items).Trimmed strips x) :
    ∃ readOnly', x = .set readOnly' items ∧ (readOnly → readOnly') := by
  cases h with
  | same => exact ⟨_, rfl, id⟩
  | set h => exact ⟨_, rfl, h⟩

theorem Trimmed.of_dict {access : Access} {entries : Entries Live} {x : Datum}
    (h : (Value.dict access entries).Trimmed strips x) (hg : entries.Natural lax) :
    ∃ access' entries', x = .dict access' entries' ∧ TrimmedEntries strips entries entries' := by
  cases h with
  | same => exact ⟨_, _, rfl, .same hg.keys.nodup⟩
  | dict old nodup kept h all =>
    exact ⟨_, _, rfl, nodup, fun e he => ⟨old e.1, kept e he, h e he⟩, all⟩

/-- What is no container stays. -/
theorem Trimmed.eq_of_single {v x : Datum} (h : v.Trimmed strips x)
    (single : v.isContainer = false) : x = v := by
  cases h with
  | same => rfl
  | list | tuple | dict | set => cases single

/-- Items side by side are forms of one item. -/
theorem common_item {R : Datum → Datum → Prop} {vs xs ys : List Datum}
    (left : List.Forall₂ R vs xs) (right : List.Forall₂ R vs ys) {p : Datum × Datum}
    (hp : p ∈ xs.zip ys) : ∃ v ∈ vs, R v p.1 ∧ R v p.2 := by
  induction left generalizing ys with
  | nil => cases hp
  | cons first _ ih =>
    cases right with
    | cons second right =>
      rcases List.mem_cons.1 hp with rfl | hp
      · exact ⟨_, List.mem_cons_self, first, second⟩
      · obtain ⟨v, hv, both⟩ := ih right hp
        exact ⟨v, List.mem_cons_of_mem _ hv, both⟩

section

variable {entries xs ys : Entries Live}

/-- Values under one key are forms of one value. -/
theorem TrimmedEntries.common (left : TrimmedEntries strips entries xs)
    (right : TrimmedEntries strips entries ys) (hg : entries.Natural lax) {k x y : Datum}
    (hx : (k, x) ∈ xs) (hy : (k, y) ∈ ys) :
    ∃ v, (k, v) ∈ entries ∧ v.Trimmed strips x ∧ v.Trimmed strips y := by
  obtain ⟨v, hv, trimmed⟩ := left.kept _ hx
  obtain ⟨v', hv', trimmed'⟩ := right.kept _ hy
  cases hg.unique hv hv'
  exact ⟨v, hv, trimmed, trimmed'⟩

/-- Among keys of one mapping agreement is equality. -/
theorem TrimmedEntries.key_eq (left : TrimmedEntries strips entries xs)
    (right : TrimmedEntries strips entries ys) (hg : entries.Natural lax) {e f : Datum × Datum}
    (he : e ∈ xs) (hf : f ∈ ys) : e.1.agrees f.1 ↔ e.1 = f.1 := by
  obtain ⟨v, hv, -⟩ := left.kept e he
  obtain ⟨v', hv', -⟩ := right.kept f hf
  have known {k u : Datum} (h : (k, u) ∈ entries) : k ∈ entries.map (·.1) :=
    List.mem_map.2 ⟨(k, u), h, rfl⟩
  exact hg.keys.apart _ (known hv) _ (known hv')

theorem TrimmedEntries.unique (h : TrimmedEntries strips entries xs) {e f : Datum × Datum}
    (he : e ∈ xs) (hf : f ∈ xs) (same : e.1 = f.1) : e = f :=
  List.inj_on_of_nodup_map h.nodup he hf same

end

/-! ## Merging -/

/-- What is apart is not the same. -/
theorem Apart.not_identical {v l r : Datum} (h : l.Apart r) (hv : v.Natural lax)
    (left : v.Trimmed strips l) (right : v.Trimmed strips r) : l.identical r = false := by
  refine eq_false_of_ne_true fun same => ?_
  induction h generalizing v with
  | tuple differ =>
    have equal := agrees_of_identical same
    rw [agrees, differ] at equal
    cases equal
  | set differ => simp [identical, differ] at same
  | list hp _ ih =>
    obtain ⟨_, vs, rfl, lefts⟩ := left.to_list
    obtain ⟨_, _, ⟨⟩, rights⟩ := right.to_list
    obtain ⟨v, member, trimmed, trimmed'⟩ := common_item lefts rights hp
    have items := identicalItems_iff.1 (Bool.and_eq_true_iff.1 same).2
    refine ih ((natural_list.1 hv).2 v member) trimmed trimmed' ?_
    exact (List.forall₂_iff_zip.1 items).2 hp
  | dict hx hy _ ih =>
    obtain ⟨_, entries, rfl, lefts⟩ := left.to_dict hv
    obtain ⟨_, _, ⟨⟩, rights⟩ := right.to_dict hv
    have hg := (natural_dict.1 hv).2
    obtain ⟨v, member, trimmed, trimmed'⟩ := lefts.common rights hg hx hy
    have items := identicalEntries_iff.1 (Bool.and_eq_true_iff.1 same).2
    obtain ⟨f, hf, key, value⟩ := forall₂_partner items hx
    -- The entry at the same place stands under the same key, so it is this one.
    have same := (lefts.key_eq rights hg hx hf).1 (agrees_of_identical key)
    cases rights.unique hf hy same.symm
    exact ih (hg.value _ member) trimmed trimmed' value

theorem mergeItems_eq_none {xs ys : List Datum} :
    mergeItems xs ys = Option.none ↔ ∃ p ∈ xs.zip ys, merge p.1 p.2 = Option.none := by
  induction xs generalizing ys with
  | nil => simp [mergeItems]
  | cons x xs ih =>
    cases ys with
    | nil => simp [mergeItems]
    | cons y ys =>
      rw [List.zip_cons_cons, List.exists_mem_cons_iff, ← ih, mergeItems]
      cases merge x y <;> cases mergeItems xs ys <;> simp

theorem mergeEntries_eq_none {xs ys : Entries Live} :
    mergeEntries xs ys = Option.none ↔ ∃ e ∈ xs, mergedUnder ys e = Option.none := by
  refine ⟨mergeEntries_none, fun ⟨e, he, failed⟩ => ?_⟩
  cases h : mergeEntries xs ys with
  | none => rfl
  | some zs =>
    obtain ⟨z, -, -, merged⟩ := forall₂_partner (mergeEntries_some h) he
    rw [failed] at merged
    cases merged

section

variable {entries xs ys : Entries Live}

theorem mergedUnder_eq_none (left : TrimmedEntries strips entries xs)
    (right : TrimmedEntries strips entries ys) (hg : entries.Natural lax) {e : Datum × Datum}
    (he : e ∈ xs) : mergedUnder ys e = Option.none ↔
      ∃ y, (e.1, y) ∈ ys ∧ merge e.2 y = Option.none := by
  unfold mergedUnder
  cases found : ys.find? fun f => e.1.agrees f.1 with
  | none =>
    refine iff_of_false nofun fun ⟨y, hy, _⟩ => ?_
    exact List.find?_eq_none.1 found _ hy ((left.key_eq right hg he hy).2 rfl)
  | some f =>
    have hf := List.mem_of_find?_eq_some found
    have agree : e.1.agrees f.1 := by simpa using List.find?_some found
    have key : e.1 = f.1 := (left.key_eq right hg he hf).1 agree
    refine ⟨fun failed => ⟨f.2, key ▸ hf, failed⟩, fun ⟨y, hy, failed⟩ => ?_⟩
    cases right.unique hf hy key.symm
    exact failed

theorem joined_eq_none (left : TrimmedEntries strips entries xs)
    (right : TrimmedEntries strips entries ys) (hg : entries.Natural lax) :
    joined xs ys = Option.none ↔
      ∃ k x y, (k, x) ∈ xs ∧ (k, y) ∈ ys ∧ merge x y = Option.none := by
  rw [joined, Option.map_eq_none_iff, mergeEntries_eq_none]
  constructor
  · rintro ⟨⟨k, x⟩, hx, failed⟩
    obtain ⟨y, hy, failed⟩ := (mergedUnder_eq_none left right hg hx).1 failed
    exact ⟨k, x, y, hx, hy, failed⟩
  · rintro ⟨k, x, y, hx, hy, failed⟩
    exact ⟨(k, x), hx, (mergedUnder_eq_none left right hg hx).2 ⟨y, hy, failed⟩⟩

end

theorem merge_tuple {xs ys : List Datum} : merge (.tuple xs) (.tuple ys) = Option.none ↔
    (Value.tuple xs : Datum).equal (.tuple ys) = false := by
  have type : (Value.tuple xs : Datum).sameType (.tuple ys) := beq_self_eq_true _
  have same (h : (Value.tuple xs).identical (.tuple ys)) :
      (Value.tuple xs : Datum).equal (.tuple ys) := by
    simpa [agrees, sameNan] using agrees_of_identical h
  rw [merge_single (by simp) (by simp), isExactly, type, Bool.true_and]
  grind

/-- Two sets of the same items merge if they are of one type. -/
theorem merge_set {readOnly readOnly' : Bool} {items : List Datum} (keys : AreKeys items) :
    merge (.set readOnly items) (.set readOnly' items) = Option.none ↔ readOnly ≠ readOnly' := by
  have equal : (Value.set readOnly items).equal (.set readOnly' items) := by
    have agree : (Value.set readOnly items).agrees (.set readOnly' items) :=
      agrees_set.2 ⟨_, _, rfl, rfl, fun x hx => ⟨x, hx, (keys.apart x hx x hx).2 rfl⟩⟩
    simpa [agrees, sameNan] using agree
  rw [merge_single (by simp) (by simp), isExactly, equal]
  cases readOnly <;> cases readOnly' <;> simp [identical, sameType, typeName]

/-- Forms of a value fail to merge exactly if they are apart. -/
def Splits (strips : Prop) (v : Datum) : Prop := ∀ l r, v.Trimmed strips l → v.Trimmed strips r →
  (merge l r = Option.none ↔ l.Apart r)

/-- Only of what is not the same it has to be shown. -/
theorem Splits.of_differ {v : Datum} (hv : v.Natural lax)
    (h : ∀ l r, v.Trimmed strips l → v.Trimmed strips r → l.identical r = false →
      (merge l r = Option.none ↔ l.Apart r)) : v.Splits strips := by
  intro l r left right
  cases same : l.identical r with
  | false => exact h l r left right same
  | true =>
    refine iff_of_false (by simp [merge_identical same]) fun apart => ?_
    simp [apart.not_identical hv left right] at same

theorem splits_list {access : Access} {vs : List Datum} (hv : (Value.list access vs).Natural lax)
    (h : ∀ v ∈ vs, v.Splits strips) : (Value.list access vs).Splits strips := by
  refine .of_differ hv fun l r left right differ => ?_
  obtain ⟨_, xs, rfl, lefts⟩ := left.of_list
  obtain ⟨_, ys, rfl, rights⟩ := right.of_list
  have length := lefts.length_eq.symm.trans rights.length_eq
  have each p (hp : p ∈ xs.zip ys) : merge p.1 p.2 = Option.none ↔ p.1.Apart p.2 := by
    obtain ⟨v, member, trimmed, trimmed'⟩ := common_item lefts rights hp
    exact h v member _ _ trimmed trimmed'
  rw [merge_list differ, if_pos length, Option.map_eq_none_iff, mergeItems_eq_none]
  constructor
  · rintro ⟨p, hp, failed⟩
    exact .list hp ((each p hp).1 failed)
  · rintro (_ | _ | ⟨hp, apart⟩)
    exact ⟨_, hp, (each _ hp).2 apart⟩

theorem splits_dict {access : Access} {entries : Entries Live}
    (hv : (Value.dict access entries).Natural lax) (h : ∀ e ∈ entries, e.2.Splits strips) :
    (Value.dict access entries).Splits strips := by
  have hg := (natural_dict.1 hv).2
  refine .of_differ hv fun l r left right differ => ?_
  obtain ⟨_, xs, rfl, lefts⟩ := left.of_dict hg
  obtain ⟨_, ys, rfl, rights⟩ := right.of_dict hg
  have each {k x y} (hx : (k, x) ∈ xs) (hy : (k, y) ∈ ys) :
      merge x y = Option.none ↔ x.Apart y := by
    obtain ⟨v, member, trimmed, trimmed'⟩ := lefts.common rights hg hx hy
    exact h _ member _ _ trimmed trimmed'
  rw [merge_dict differ, Option.map_eq_none_iff, joined_eq_none lefts rights hg]
  constructor
  · rintro ⟨k, x, y, hx, hy, failed⟩
    exact .dict hx hy ((each hx hy).1 failed)
  · rintro (_ | _ | _ | ⟨hx, hy, apart⟩)
    exact ⟨_, _, _, hx, hy, (each hx hy).2 apart⟩

theorem splits_single {v : Datum} (single : v.isContainer = false) (same : v.identical v) :
    v.Splits strips := by
  intro l r left right
  rw [left.eq_of_single single, right.eq_of_single single, merge_identical same]
  refine iff_of_false nofun fun apart => ?_
  cases apart <;> cases single

/-- Two trimmed forms of a value fail to merge exactly if they are apart. -/
theorem merge_eq_none_iff {v : Datum} (hv : v.Natural lax) (told : v.Told) : v.Splits strips := by
  induction told with
  | list _ ih => exact splits_list hv fun v hmem => ih v hmem ((natural_list.1 hv).2 v hmem)
  | tuple _ _ =>
    intro l r left right
    obtain ⟨xs, rfl, -⟩ := left.of_tuple
    obtain ⟨ys, rfl, -⟩ := right.of_tuple
    exact merge_tuple.trans ⟨.tuple, fun | .tuple h => h⟩
  | dict _ _ _ _ ih =>
    exact splits_dict hv fun e he => ih e he ((natural_dict.1 hv).2.value e he)
  | set _ _ _ =>
    intro l r left right
    obtain ⟨_, rfl, -⟩ := left.of_set
    obtain ⟨_, rfl, -⟩ := right.of_set
    exact (merge_set (natural_set.1 hv).1).trans ⟨.set, fun | .set h => h⟩
  | single h same => exact splits_single h same

/-! ## Values whose forms merge -/

/-- Values in which no mapping stands, so that there is nothing to be taken out. -/
inductive Solid : Datum → Prop
  | list {access : Access} {items : List Datum} (h : ∀ x ∈ items, Solid x) :
    Solid (.list access items)
  | tuple {items : List Datum} (h : ∀ x ∈ items, Solid x) : Solid (.tuple items)
  | set {readOnly : Bool} {items : List Datum} : Solid (.set readOnly items)
  | single {v : Datum} (h : v.isContainer = false) : Solid v

/-- Values with no mapping in a tuple. A set, unless it is in a tuple, is read-only already. -/
inductive Uniform : Datum → Prop
  | list {access : Access} {items : List Datum} (h : ∀ x ∈ items, Uniform x) :
    Uniform (.list access items)
  | tuple {items : List Datum} (h : ∀ x ∈ items, Solid x) : Uniform (.tuple items)
  | dict {access : Access} {entries : Entries Live} (h : ∀ e ∈ entries, Uniform e.2) :
    Uniform (.dict access entries)
  | set {items : List Datum} : Uniform (.set true items)
  | single {v : Datum} (h : v.isContainer = false) : Uniform v

/-- Forms of items that agree, side by side. -/
theorem forms_agree {vs xs ys : List Datum} (left : List.Forall₂ (Trimmed strips) vs xs)
    (right : List.Forall₂ (Trimmed strips) vs ys)
    (h : ∀ v ∈ vs, ∀ x y, v.Trimmed strips x → v.Trimmed strips y → x.agrees y) :
    List.Forall₂ (fun x y => x.agrees y) xs ys := by
  refine List.forall₂_iff_zip.2 ⟨left.length_eq.symm.trans right.length_eq, fun hp => ?_⟩
  obtain ⟨v, member, trimmed, trimmed'⟩ := common_item left right hp
  exact h v member _ _ trimmed trimmed'

/-- The trimmed forms of a value without mappings are equal. -/
theorem Solid.agrees {v l r : Datum} (h : v.Solid) (hv : v.Natural lax) (told : v.Told)
    (left : v.Trimmed strips l) (right : v.Trimmed strips r) : l.agrees r := by
  induction h generalizing l r with
  | list _ ih =>
    obtain ⟨_, xs, rfl, lefts⟩ := left.of_list
    obtain ⟨_, ys, rfl, rights⟩ := right.of_list
    refine agrees_list.2 ⟨_, _, rfl, forms_agree lefts rights fun v hmem x y => ?_⟩
    exact ih v hmem ((natural_list.1 hv).2 v hmem) (proper_list.1 told v hmem)
  | tuple _ ih =>
    obtain ⟨xs, rfl, lefts⟩ := left.of_tuple
    obtain ⟨ys, rfl, rights⟩ := right.of_tuple
    refine agrees_tuple.2 ⟨_, rfl, forms_agree lefts rights fun v hmem x y => ?_⟩
    exact ih v hmem (natural_tuple.1 hv v hmem) (proper_tuple.1 told v hmem)
  | set =>
    obtain ⟨_, rfl, -⟩ := left.of_set
    obtain ⟨_, rfl, -⟩ := right.of_set
    have keys := (natural_set.1 hv).1
    exact agrees_set.2 ⟨_, _, rfl, rfl, fun x hx => ⟨x, hx, (keys.apart x hx x hx).2 rfl⟩⟩
  | single single =>
    rw [left.eq_of_single single, right.eq_of_single single]
    cases told with
    | single _ same => exact agrees_of_identical same
    | list | tuple | dict | set => cases single

/-- No two trimmed forms of a uniform value are apart. -/
theorem Uniform.not_apart {v l r : Datum} (h : v.Uniform) (hv : v.Natural lax) (told : v.Told)
    (left : v.Trimmed strips l) (right : v.Trimmed strips r) : ¬l.Apart r := by
  intro apart
  induction h generalizing l r with
  | list _ ih =>
    obtain ⟨_, xs, rfl, lefts⟩ := left.of_list
    obtain ⟨_, ys, rfl, rights⟩ := right.of_list
    cases apart with
    | list hp apart =>
      obtain ⟨v, member, trimmed, trimmed'⟩ := common_item lefts rights hp
      exact ih v member ((natural_list.1 hv).2 v member) (proper_list.1 told v member) trimmed
        trimmed' apart
  | tuple solid =>
    obtain ⟨xs, rfl, lefts⟩ := left.of_tuple
    obtain ⟨ys, rfl, rights⟩ := right.of_tuple
    cases apart with
    | tuple differ =>
      have agree : (Value.tuple xs).agrees (.tuple ys) :=
        (Solid.tuple solid).agrees hv told left right
      simp [Value.agrees, sameNan, differ] at agree
  | dict _ ih =>
    have hg := (natural_dict.1 hv).2
    obtain ⟨_, xs, rfl, lefts⟩ := left.of_dict hg
    obtain ⟨_, ys, rfl, rights⟩ := right.of_dict hg
    cases apart with
    | dict hx hy apart =>
      obtain ⟨v, member, trimmed, trimmed'⟩ := lefts.common rights hg hx hy
      exact ih _ member (hg.value _ member) ((proper_dict.1 told).2.1 _ member) trimmed trimmed'
        apart
  | set =>
    obtain ⟨_, rfl, frozen⟩ := left.of_set
    obtain ⟨_, rfl, frozen'⟩ := right.of_set
    cases apart with
    | set differ => exact differ ((frozen rfl).trans (frozen' rfl).symm)
  | single single =>
    rw [left.eq_of_single single, right.eq_of_single single] at apart
    cases apart <;> cases single

end TwoWay.Value
