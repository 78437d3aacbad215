import TwoWay.Proofs.Value.Fitting

/-!
# Merging as a join

Merging gives the least value that both sides fit into, and fails only where there is none
(`Value.merge_least`). So it depends neither on the order of the sides nor on the grouping
(`Value.merge_comm`, `Value.merge_assoc`).
-/

namespace TwoWay

/-! ## The least value that both sides fit into -/

/-- The least of the good ones that have a property, if any of them has it. -/
def LeastAmong {α : Type} (good : α → Prop) (below : α → α → Prop) (P : α → Prop) : Option α → Prop
  | .some z => good z ∧ P z ∧ ∀ u, good u → P u → below z u
  | .none => ∀ u, good u → ¬P u

namespace Value

/-- Both values fit into a third. -/
def BothFit (a b u : Datum) : Prop := a.fits u ∧ b.fits u

/-- The least of the data with a property. -/
abbrev LeastData (P : Datum → Prop) : Option Datum → Prop :=
  LeastAmong IsData (fun a b => a.fits b) P

theorem LeastData.congr {P Q : Datum → Prop} {z : Option Datum} (h : LeastData P z)
    (hpq : ∀ u, u.IsData → (P u ↔ Q u)) : LeastData Q z := by
  cases z with
  | none => exact fun u hu hq => h u hu ((hpq u hu).2 hq)
  | some z =>
    obtain ⟨data, has, least⟩ := h
    exact ⟨data, (hpq z data).1 has, fun u hu hq => least u hu ((hpq u hu).2 hq)⟩

/-- What is least is so up to equality. -/
theorem LeastData.unique {P : Datum → Prop} {z z' : Option Datum} (h : LeastData P z)
    (h' : LeastData P z') : Option.Rel (fun x y => x.equal y) z z' := by
  cases z with
  | none =>
    cases z' with
    | none => exact .none
    | some z' => exact absurd h'.2.1 (h z' h'.1)
  | some z =>
    cases z' with
    | none => exact absurd h.2.1 (h' z h.1)
    | some z' =>
      refine .some ?_
      rw [← h.1.agrees_eq_equal]
      exact h.1.agrees_of_fits h'.1 (h.2.2 z' h'.1 h'.2.1) (h'.2.2 z h.1 h.2.1)

/-! ## Merging -/

theorem merge_identical {a b : Datum} (h : a.identical b) : merge a b = some a := by
  cases a <;> simp [merge, h]

/-! ### Lists -/

theorem mergeItems_least {xs ys : List Datum}
    (h : List.Forall₂ (fun x y => LeastData (BothFit x y) (merge x y)) xs ys) :
    LeastAmong (fun zs => ∀ z ∈ zs, z.IsData) (List.Forall₂ fun x y => x.fits y)
      (fun us => List.Forall₂ (fun x u => x.fits u) xs us ∧
        List.Forall₂ (fun y u => y.fits u) ys us) (mergeItems xs ys) := by
  induction h with
  | nil => exact ⟨List.forall_mem_nil _, ⟨.nil, .nil⟩, fun us _ both => both.1⟩
  | @cons x y xs ys first _ ih =>
    unfold mergeItems
    cases hz : merge x y with
    | none =>
      rw [hz] at first
      rintro us data ⟨left, right⟩
      cases left with
      | cons fit =>
        cases right with
        | cons fit' => exact first _ (data _ List.mem_cons_self) ⟨fit, fit'⟩
    | some z =>
      rw [hz] at first
      cases hzs : mergeItems xs ys with
      | none =>
        rw [hzs] at ih
        rintro us data ⟨left, right⟩
        cases left with
        | cons _ left =>
          cases right with
          | cons _ right => exact ih _ (List.forall_mem_cons.1 data).2 ⟨left, right⟩
      | some zs =>
        rw [hzs] at ih
        obtain ⟨data, ⟨left, right⟩, least⟩ := ih
        refine ⟨List.forall_mem_cons.2 ⟨first.1, data⟩,
          ⟨.cons first.2.1.1 left, .cons first.2.1.2 right⟩, ?_⟩
        rintro us data ⟨left, right⟩
        cases left with
        | cons fit left =>
          cases right with
          | cons fit' right =>
            obtain ⟨datum, data⟩ := List.forall_mem_cons.1 data
            exact .cons (first.2.2 _ datum ⟨fit, fit'⟩) (least _ data ⟨left, right⟩)

/-! ### Mappings -/

/-- What the value of an entry becomes next to the entries of the other side. -/
def mergedUnder (ys : Entries Live) (e : Datum × Datum) : Option Datum :=
  match ys.find? fun f => e.1.agrees f.1 with
  | .some f => merge e.2 f.2
  | .none => some e.2

theorem mergeEntries_cons (e : Datum × Datum) (xs ys : Entries Live) :
    mergeEntries (e :: xs) ys =
      (mergedUnder ys e).bind fun w => (mergeEntries xs ys).map fun rest => (e.1, w) :: rest := by
  obtain ⟨k, v⟩ := e
  simp only [mergeEntries, mergedUnder]
  cases ys.find? fun f => k.agrees f.1 with
  | none => cases mergeEntries xs ys <;> rfl
  | some f =>
    dsimp only
    cases merge v f.2 <;> cases mergeEntries xs ys <;> rfl

theorem mergeEntries_some {xs ys zs : Entries Live} (h : mergeEntries xs ys = some zs) :
    List.Forall₂ (fun e z => z.1 = e.1 ∧ mergedUnder ys e = some z.2) xs zs := by
  induction xs generalizing zs with
  | nil =>
    cases h
    exact .nil
  | cons e xs ih =>
    rw [mergeEntries_cons, Option.bind_eq_some_iff] at h
    obtain ⟨w, hw, h⟩ := h
    obtain ⟨rest, hrest, rfl⟩ := Option.map_eq_some_iff.1 h
    exact .cons ⟨rfl, hw⟩ (ih hrest)

theorem mergeEntries_none {xs ys : Entries Live} (h : mergeEntries xs ys = .none) :
    ∃ e ∈ xs, mergedUnder ys e = .none := by
  induction xs with
  | nil => cases h
  | cons e xs ih =>
    rw [mergeEntries_cons, Option.bind_eq_none_iff] at h
    cases hw : mergedUnder ys e with
    | none => exact ⟨e, List.mem_cons_self, hw⟩
    | some w =>
      obtain ⟨f, hf, found⟩ := ih (Option.map_eq_none_iff.1 (h w hw))
      exact ⟨f, List.mem_cons_of_mem _ hf, found⟩

section

variable {xs ys us zs : Entries Live} {e : Datum × Datum}

/-- The value of an entry and those of the other side under its key fit into another. -/
def FitsUnder (ys : Entries Live) (e : Datum × Datum) (u : Datum) : Prop :=
  e.2.fits u ∧ ∀ f ∈ ys, e.1.agrees f.1 → f.2.fits u

theorem mergedUnder_least (hk : e.1.IsData) (hv : e.2.IsData) (hy : IsEntries ys)
    (least : ∀ f ∈ ys, LeastData (BothFit e.2 f.2) (merge e.2 f.2)) :
    LeastData (FitsUnder ys e) (mergedUnder ys e) := by
  unfold mergedUnder
  cases found : ys.find? fun f => e.1.agrees f.1 with
  | none =>
    have absent := List.find?_eq_none.1 found
    exact ⟨hv, ⟨hv.fits_self, fun f hf agree => absurd agree (absent f hf)⟩,
      fun _ _ fit => fit.1⟩
  | some f =>
    have hf := List.mem_of_find?_eq_some found
    have agree : e.1.agrees f.1 := by simpa using List.find?_some found
    refine (least f hf).congr fun u _ => and_congr_right fun _ => ⟨fun fit g hg agree' => ?_,
      fun all => all f hf agree⟩
    rwa [hy.unique hk hg hf agree' agree]

/-- A value that both sides of an entry fit into stands where both mappings fit in. -/
theorem fitsUnder_of_fit (hx : IsEntries xs) (hy : IsEntries ys) (hu : IsEntries us)
    (fit : EntriesFit xs us) (fit' : EntriesFit ys us) (he : e ∈ xs) :
    ∃ g ∈ us, e.1.agrees g.1 ∧ FitsUnder ys e g.2 := by
  obtain ⟨g, hg, key, value⟩ := fit e he
  refine ⟨g, hg, key, value, fun f hf agree => ?_⟩
  obtain ⟨g', hg', key', value'⟩ := fit' f hf
  have same := (hx.keys e he).equivalent.trans (hy.keys f hf).proper (hu.keys g' hg').proper agree
    key'
  rwa [hu.unique (hx.keys e he) hg hg' key same]

/-- The entries whose keys are only on the right. -/
def onlyRight (xs ys : Entries Live) : Entries Live :=
  ys.filter fun f => !xs.any fun e => e.1.agrees f.1

theorem mem_onlyRight {f : Datum × Datum} :
    f ∈ onlyRight xs ys ↔ f ∈ ys ∧ ∀ e ∈ xs, e.1.agrees f.1 = false := by
  simp [onlyRight]

/-- The entries of the left side, with the least values that those of both sides fit into. -/
def MergedInto (xs ys zs : Entries Live) : Prop :=
  List.Forall₂ (fun e z => z.1 = e.1 ∧ LeastData (FitsUnder ys e) (some z.2)) xs zs

namespace MergedInto

variable (h : MergedInto xs ys zs) (hx : IsEntries xs)

include h hx

/-- The left side fits in. -/
theorem left : EntriesFit xs (zs ++ onlyRight xs ys) := by
  intro e he
  obtain ⟨z, hz, key, least⟩ := forall₂_partner h he
  exact ⟨z, List.mem_append_left _ hz, key ▸ (hx.keys e he).agrees_self, least.2.1.1⟩

variable (hy : IsEntries ys)

include hy

theorem isEntries : IsEntries (zs ++ onlyRight xs ys) := by
  have keys : List.Forall₂ (fun e z => z.1 = e.1) xs zs := h.imp fun _ _ same => same.1
  refine ⟨fun z hz => ?_, fun z hz => ?_, List.pairwise_append.2 ⟨?_, hy.differ.filter _, ?_⟩⟩
  · rcases List.mem_append.1 hz with hz | hz
    · obtain ⟨e, he, key⟩ := forall₂_partner keys.flip hz
      exact key ▸ hx.keys e he
    · exact hy.keys z (mem_onlyRight.1 hz).1
  · rcases List.mem_append.1 hz with hz | hz
    · obtain ⟨e, -, -, least⟩ := forall₂_partner h.flip hz
      exact least.1
    · exact hy.values z (mem_onlyRight.1 hz).1
  · have firsts : zs.map (·.1) = xs.map (·.1) := by
      rw [← List.forall₂_eq_eq_eq, List.forall₂_map_left_iff, List.forall₂_map_right_iff]
      exact keys.flip
    have differ : (xs.map (·.1)).Pairwise fun k l => k.agrees l = false :=
      List.pairwise_map.2 hx.differ
    rw [← firsts] at differ
    exact List.pairwise_map.1 differ
  · intro z hz f hf
    obtain ⟨e, he, key⟩ := forall₂_partner keys.flip hz
    exact key ▸ (mem_onlyRight.1 hf).2 e he

/-- The right side fits in. -/
theorem right : EntriesFit ys (zs ++ onlyRight xs ys) := by
  intro f hf
  by_cases there : ∃ e ∈ xs, e.1.agrees f.1
  · obtain ⟨e, he, agree⟩ := there
    obtain ⟨z, hz, key, least⟩ := forall₂_partner h he
    have back := (hx.keys e he).equivalent.symm (hy.keys f hf).proper agree
    exact ⟨z, List.mem_append_left _ hz, key ▸ back, least.2.1.2 f hf agree⟩
  · have absent : ∀ e ∈ xs, e.1.agrees f.1 = false :=
      fun e he => Bool.eq_false_iff.2 fun agree => there ⟨e, he, agree⟩
    exact ⟨f, List.mem_append_right _ (mem_onlyRight.2 ⟨hf, absent⟩), (hy.keys f hf).agrees_self,
      (hy.values f hf).fits_self⟩

/-- What both sides fit into the merged entries fit into, too. -/
theorem least (hu : IsEntries us) (fit : EntriesFit xs us) (fit' : EntriesFit ys us) :
    EntriesFit (zs ++ onlyRight xs ys) us := by
  intro z hz
  rcases List.mem_append.1 hz with hz | hz
  · obtain ⟨e, he, key, least⟩ := forall₂_partner h.flip hz
    obtain ⟨g, hg, agree, fits⟩ := fitsUnder_of_fit hx hy hu fit fit' he
    exact ⟨g, hg, key ▸ agree, least.2.2 g.2 (hu.values g hg) fits⟩
  · exact fit' z (mem_onlyRight.1 hz).1

end MergedInto

/-- The entries of a merged mapping, if there is one. -/
def joined (xs ys : Entries Live) : Option (Entries Live) :=
  (mergeEntries xs ys).map (· ++ onlyRight xs ys)

theorem joined_least (hx : IsEntries xs) (hy : IsEntries ys)
    (least : ∀ e ∈ xs, ∀ f ∈ ys, LeastData (BothFit e.2 f.2) (merge e.2 f.2)) :
    LeastAmong IsEntries EntriesFit (fun us => EntriesFit xs us ∧ EntriesFit ys us)
      (joined xs ys) := by
  have under e (he : e ∈ xs) : LeastData (FitsUnder ys e) (mergedUnder ys e) :=
    mergedUnder_least (hx.keys e he) (hx.values e he) hy (least e he)
  unfold joined
  cases hz : mergeEntries xs ys with
  | none =>
    obtain ⟨e, he, failed⟩ := mergeEntries_none hz
    rintro us hu ⟨fit, fit'⟩
    obtain ⟨g, hg, -, fits⟩ := fitsUnder_of_fit hx hy hu fit fit' he
    have none := under e he
    rw [failed] at none
    exact none g.2 (hu.values g hg) fits
  | some zs =>
    have merged : MergedInto xs ys zs := by
      have partners := (List.forall₂_and_left _ _).2 ⟨under, mergeEntries_some hz⟩
      exact partners.imp fun e z ⟨least, key, value⟩ => ⟨key, value ▸ least⟩
    exact ⟨merged.isEntries hx hy, ⟨merged.left hx, merged.right hx hy⟩,
      fun us hu both => merged.least hx hy hu both.1 both.2⟩

end

/-! ### Values -/

theorem merge_list {access access' : Access} {xs ys : List Datum}
    (h : (Value.list access xs).identical (.list access' ys) = false) :
    merge (.list access xs) (.list access' ys) =
      if xs.length = ys.length then (mergeItems xs ys).map (.list .free) else .none := by
  simp [merge, h]

theorem merge_dict {access access' : Access} {xs ys : Entries Live}
    (h : (Value.dict access xs).identical (.dict access' ys) = false) :
    merge (.dict access xs) (.dict access' ys) = (joined xs ys).map (.dict .free) := by
  simp [merge, h, joined, onlyRight, Function.comp_def]

/-- Values that cannot be told apart are one. -/
theorem identical_least {a b : Datum} (ha : a.IsData) (hb : b.IsData) (h : a.identical b) :
    LeastData (BothFit a b) (merge a b) := by
  rw [merge_identical h]
  exact ⟨ha, ⟨ha.fits_self, (ha.fits_of_identical hb h).2⟩, fun _ _ both => both.1⟩

theorem list_least {access : Access} {xs : List Datum} {b : Datum}
    (ha : (Value.list access xs).IsData) (hb : b.IsData)
    (least : ∀ x ∈ xs, ∀ y, y.IsData → LeastData (BothFit x y) (merge x y)) :
    LeastData (BothFit (.list access xs) b) (merge (.list access xs) b) := by
  cases same : (Value.list access xs).identical b with
  | true => exact identical_least ha hb same
  | false =>
  by_cases other : ∀ access' ys, b ≠ .list access' ys
  · have failed : merge (.list access xs) b = .none := by
      cases b <;> first | exact absurd rfl (other _ _) | simp [merge, same]
    rw [failed]
    rintro u - ⟨fit, fit'⟩
    obtain ⟨_, us, rfl, -⟩ := fits_list.1 fit
    obtain ⟨access', ys, rfl⟩ := fits_into_list fit'
    exact other access' ys rfl
  push Not at other
  obtain ⟨access', ys, rfl⟩ := other
  rw [merge_list same]
  split
  · rename_i length
    have each : List.Forall₂ (fun x y => LeastData (BothFit x y) (merge x y)) xs ys := by
      refine List.forall₂_iff_get.2 ⟨length, fun i hi hi' => ?_⟩
      exact least _ (List.get_mem ..) _ (proper_list.1 hb _ (List.get_mem ..))
    have items := mergeItems_least each
    cases hz : mergeItems xs ys with
    | none =>
      rw [hz] at items
      rintro u data ⟨fit, fit'⟩
      obtain ⟨_, us, rfl, left⟩ := fits_list.1 fit
      obtain ⟨_, _, ⟨⟩, right⟩ := fits_list.1 fit'
      exact items us (proper_list.1 data) ⟨left, right⟩
    | some zs =>
      rw [hz] at items
      obtain ⟨data, ⟨left, right⟩, least⟩ := items
      refine ⟨.list data, ⟨fits_list.2 ⟨_, _, rfl, left⟩, fits_list.2 ⟨_, _, rfl, right⟩⟩, ?_⟩
      rintro u data ⟨fit, fit'⟩
      obtain ⟨_, us, rfl, left⟩ := fits_list.1 fit
      obtain ⟨_, _, ⟨⟩, right⟩ := fits_list.1 fit'
      exact fits_list.2 ⟨_, us, rfl, least us (proper_list.1 data) ⟨left, right⟩⟩
  · rename_i length
    rintro u - ⟨fit, fit'⟩
    obtain ⟨_, us, rfl, left⟩ := fits_list.1 fit
    obtain ⟨_, _, ⟨⟩, right⟩ := fits_list.1 fit'
    exact length (left.length_eq.trans right.length_eq.symm)

theorem dict_least {access : Access} {xs : Entries Live} {b : Datum} (hx : IsEntries xs)
    (hb : b.IsData)
    (least : ∀ e ∈ xs, ∀ y, y.IsData → LeastData (BothFit e.2 y) (merge e.2 y)) :
    LeastData (BothFit (.dict access xs) b) (merge (.dict access xs) b) := by
  cases same : (Value.dict access xs).identical b with
  | true => exact identical_least (isData_dict.2 hx) hb same
  | false =>
  by_cases other : ∀ access' ys, b ≠ .dict access' ys
  · have failed : merge (.dict access xs) b = .none := by
      cases b <;> first | exact absurd rfl (other _ _) | simp [merge, same]
    rw [failed]
    rintro u - ⟨fit, fit'⟩
    obtain ⟨_, us, rfl, -⟩ := fits_dict.1 fit
    obtain ⟨access', ys, rfl⟩ := fits_into_dict fit'
    exact other access' ys rfl
  push Not at other
  obtain ⟨access', ys, rfl⟩ := other
  rw [merge_dict same]
  have hy := isData_dict.1 hb
  have entries := joined_least hx hy fun e he f hf => least e he f.2 (hy.values f hf)
  cases hz : joined xs ys with
  | none =>
    rw [hz] at entries
    rintro u data ⟨fit, fit'⟩
    obtain ⟨_, us, rfl, left⟩ := fits_dict.1 fit
    obtain ⟨_, _, ⟨⟩, right⟩ := fits_dict.1 fit'
    exact entries us (isData_dict.1 data) ⟨left, right⟩
  | some zs =>
    rw [hz] at entries
    obtain ⟨data, ⟨left, right⟩, least⟩ := entries
    refine ⟨isData_dict.2 data,
      ⟨fits_dict.2 ⟨_, _, rfl, left⟩, fits_dict.2 ⟨_, _, rfl, right⟩⟩, ?_⟩
    rintro u data ⟨fit, fit'⟩
    obtain ⟨_, us, rfl, left⟩ := fits_dict.1 fit
    obtain ⟨_, _, ⟨⟩, right⟩ := fits_dict.1 fit'
    exact fits_dict.2 ⟨_, us, rfl, least us (isData_dict.1 data) ⟨left, right⟩⟩

theorem simple_least {a b : Datum} (ha : a.IsData) (hb : b.IsData)
    (compound : a.isCompound = false) : LeastData (BothFit a b) (merge a b) := by
  have merged : merge a b = if a.identical b || a.isExactly b then some a else .none :=
    merge_single (by rintro r xs rfl; cases compound) (by rintro r xs rfl; cases compound)
  rw [merged]
  split
  · rename_i same
    have exact : a.isExactly b := by
      rcases Bool.or_eq_true_iff.1 same with same | same
      · exact isExactly_of_identical ha compound same
      · exact same
    have back := isExactly_symm ha hb exact
    rw [← fits_simple (isCompound_of_isExactly compound exact)] at back
    exact ⟨ha, ⟨ha.fits_self, back⟩, fun _ _ both => both.1⟩
  · rename_i differ
    rintro u data ⟨fit, fit'⟩
    have compound' : b.isCompound = false := by
      rw [isCompound_eq_of_fits fit', ← isCompound_eq_of_fits fit, compound]
    rw [fits_simple compound] at fit
    rw [fits_simple compound'] at fit'
    have exact := isExactly_trans ha data hb fit (isExactly_symm hb data fit')
    simp [exact] at differ

/-- Data merge into the least that both fit into, if there is any. -/
theorem merge_least {a b : Datum} (ha : a.IsData) (hb : b.IsData) :
    LeastData (BothFit a b) (merge a b) := by
  induction ha using IsData.induction generalizing b with
  | list hx ih => exact list_least (.list hx) hb fun x hx y hy => ih x hx hy
  | dict hx ih => exact dict_least hx hb fun e he y hy => ih e he hy
  | simple ha compound => exact simple_least ha hb compound

/-! ## The laws -/

/-- Both values fail to merge, or they merge into equal ones. -/
abbrev EqualIfAny : Option Datum → Option Datum → Prop := Option.Rel fun x y => x.equal y

theorem merge_comm {a b : Datum} (ha : a.IsData) (hb : b.IsData) :
    EqualIfAny (merge a b) (merge b a) :=
  (merge_least ha hb).unique ((merge_least hb ha).congr fun _ _ => And.comm)

/-- The identities on the right side do not show either. -/
theorem merge_comm_renamed {a b : Datum} (ha : a.IsData) (hb : b.IsData) {ρ ρ' : Nat → Nat}
    (hρ : Function.Injective ρ) (hρ' : Function.Injective ρ') :
    EqualIfAny (merge a (b.rename ρ)) (merge b (a.rename ρ')) := by
  have same {c u : Datum} {ρ : Nat → Nat} (hc : c.IsData) (hρ : Function.Injective ρ)
      (hu : u.IsData) : (c.rename ρ).fits u ↔ c.fits u :=
    ⟨hc.fits_trans (hc.rename hρ) hu (hc.fits_rename hρ).1,
      (hc.rename hρ).fits_trans hc hu (hc.fits_rename hρ).2⟩
  refine (merge_least ha (hb.rename hρ)).unique
    ((merge_least hb (ha.rename hρ')).congr fun u hu => ?_)
  unfold BothFit
  rw [same ha hρ' hu, same hb hρ hu]
  exact And.comm

theorem merge_self {a : Datum} (ha : a.IsData) : EqualIfAny (merge a a) (some a) :=
  (merge_least ha ha).unique ⟨ha, ⟨ha.fits_self, ha.fits_self⟩, fun _ _ both => both.1⟩

/-- What is least among the data with a property, merged with one more, is least among those that
this one fits into, too. -/
theorem LeastData.bind {P : Datum → Prop} {z : Option Datum} (h : LeastData P z)
    (upward : ∀ {x u : Datum}, x.IsData → u.IsData → P x → x.fits u → P u) {c : Datum}
    {f : Datum → Option Datum} (hf : ∀ x, x.IsData → LeastData (BothFit x c) (f x)) :
    LeastData (fun u => P u ∧ c.fits u) (z.bind f) := by
  cases z with
  | none => exact fun u hu both => h u hu both.1
  | some z =>
    obtain ⟨data, has, least⟩ := h
    exact LeastData.congr (hf z data) fun u hu =>
      and_congr_left fun _ => ⟨upward data hu has, least u hu⟩

theorem BothFit.upward {a b x u : Datum} (ha : a.IsData) (hb : b.IsData) (hx : x.IsData)
    (hu : u.IsData) (h : BothFit a b x) (fit : x.fits u) : BothFit a b u :=
  ⟨ha.fits_trans hx hu h.1 fit, hb.fits_trans hx hu h.2 fit⟩

theorem merge_assoc {a b c : Datum} (ha : a.IsData) (hb : b.IsData) (hc : c.IsData) :
    EqualIfAny ((merge a b).bind (merge · c)) ((merge b c).bind (merge a ·)) := by
  have left := LeastData.bind (merge_least ha hb) (BothFit.upward ha hb) fun x hx =>
    merge_least hx hc
  have right := LeastData.bind (merge_least hb hc) (BothFit.upward hb hc) fun x hx =>
    LeastData.congr (merge_least ha hx) fun _ _ => And.comm
  exact left.unique (right.congr fun u _ => by unfold BothFit; tauto)

end Value
end TwoWay
