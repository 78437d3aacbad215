import TwoWay.Proofs.Parse.Leaf
import TwoWay.Proofs.Parse.Whole
import TwoWay.Proofs.Value.Trimming

/-!
# Regular values

In a regular value every mapping is kept by texts and integers, at any depth, and a set has no
member that could not be one. Freezing, merging, writing under a key and numbering leave a
value regular, and what can be a key can be one afterwards: a parse that is put together from
these has nothing to stumble over when it rebuilds sets and mappings.

`Run.Returns` says of a run that it comes to a result from every world.
-/

namespace TwoWay

namespace Run

variable {α β : Type} {P Q : α → Prop}

/-- From every world the run gives something, and that has `Q`. -/
def Returns (m : Run α) (Q : α → Prop) : Prop := ∀ w, ∃ a w', m w = .ok a w' ∧ Q a

namespace Returns

theorem pure {a : α} (h : Q a) : Returns (Pure.pure a) Q := fun w => ⟨a, w, rfl, h⟩

theorem bind {m : Run α} {k : α → Run β} {Q : β → Prop} (hm : m.Returns P)
    (hk : ∀ a, P a → (k a).Returns Q) : (m >>= k).Returns Q := by
  intro w
  obtain ⟨a, u, ha, hp⟩ := hm w
  obtain ⟨b, w', hb, hq⟩ := hk a hp u
  exact ⟨b, w', Run.bind_ok.2 ⟨a, u, ha, hb⟩, hq⟩

theorem weaken {m : Run α} (h : m.Returns P) (hq : ∀ a, P a → Q a) : m.Returns Q := by
  intro w
  obtain ⟨a, w', ha, hp⟩ := h w
  exact ⟨a, w', ha, hq a hp⟩

theorem identity : Returns Run.identity fun _ => True := fun _ => ⟨_, _, rfl, trivial⟩

theorem requireHashable {v : Datum} (h : v.unhashable? = none) :
    (Run.requireHashable v).Returns fun _ => True := by
  unfold Run.requireHashable
  rw [h]
  exact pure trivial

/-- A computation that is no fault and gives only what has `Q`. -/
theorem liftFault {r : Except Fault α} (h : ∃ a, r = .ok a) (hq : Sound r Q) :
    (Run.liftFault r).Returns Q := by
  obtain ⟨a, rfl⟩ := h
  exact pure (hq a rfl)

end Returns
end Run

namespace Value

/-- Texts and integers. A truth value is an integer. -/
def IsKey : Datum → Prop
  | .str _ | .int _ | .bool _ => True
  | _ => False

/-- Lists, tuples, mappings and sets. -/
def isContainer : Datum → Bool
  | .list .. | .tuple _ | .dict .. | .set .. => true
  | _ => false

/-- A value all of whose mappings are kept by texts and integers, and whose sets have only
members that can be ones. -/
inductive Regular : Datum → Prop
  | list {access : Access} {items : List Datum} (h : ∀ x ∈ items, Regular x) :
    Regular (.list access items)
  | tuple {items : List Datum} (h : ∀ x ∈ items, Regular x) : Regular (.tuple items)
  | dict {access : Access} {entries : Entries Live} (hk : ∀ e ∈ entries, e.1.IsKey)
    (hv : ∀ e ∈ entries, Regular e.2) : Regular (.dict access entries)
  | set {readOnly : Bool} {items : List Datum} (members : ∀ x ∈ items, x.unhashable? = Option.none)
    (h : ∀ x ∈ items, Regular x) : Regular (.set readOnly items)
  | single {v : Datum} (h : v.isContainer = false) : Regular v

end Value

/-- Entries with texts and integers for keys and with regular values. -/
def Entries.Regular (entries : Entries Live) : Prop := ∀ e ∈ entries, e.1.IsKey ∧ e.2.Regular

namespace Value

theorem IsKey.regular {v : Datum} (h : v.IsKey) : v.Regular := by
  cases v <;> first | exact .single rfl | exact h.elim

theorem IsKey.hashable {v : Datum} (h : v.IsKey) : v.unhashable? = Option.none := by
  cases v <;> first | rfl | exact h.elim

@[simp] theorem regular_list {access : Access} {items : List Datum} :
    (Value.list access items).Regular ↔ ∀ x ∈ items, x.Regular := by
  constructor
  · intro h
    cases h with
    | list h => exact h
    | single h => cases h
  · exact .list

@[simp] theorem regular_tuple {items : List Datum} :
    (Value.tuple items).Regular ↔ ∀ x ∈ items, x.Regular := by
  constructor
  · intro h
    cases h with
    | tuple h => exact h
    | single h => cases h
  · exact .tuple

@[simp] theorem regular_dict {access : Access} {entries : Entries Live} :
    (Value.dict access entries).Regular ↔ entries.Regular := by
  constructor
  · intro h
    cases h with
    | dict hk hv => exact fun e he => ⟨hk e he, hv e he⟩
    | single h => cases h
  · exact fun h => .dict (fun e he => (h e he).1) fun e he => (h e he).2

@[simp] theorem regular_set {readOnly : Bool} {items : List Datum} :
    (Value.set readOnly items).Regular ↔
      (∀ x ∈ items, x.unhashable? = Option.none) ∧ ∀ x ∈ items, x.Regular := by
  constructor
  · intro h
    cases h with
    | set members h => exact ⟨members, h⟩
    | single h => cases h
  · exact fun h => .set h.1 h.2

theorem unhashableItem?_eq_none {items : List Datum} :
    unhashableItem? items = Option.none ↔ ∀ x ∈ items, x.unhashable? = Option.none := by
  refine ⟨hashable_items, fun h => ?_⟩
  induction items with
  | nil => rfl
  | cons x rest ih =>
    obtain ⟨hx, hrest⟩ := List.forall_mem_cons.1 h
    rw [unhashableItem?, hx]
    exact ih hrest

/-- A value that takes the place of another: regular, and fit to be a key where that one is. -/
structure Stands (v x : Datum) : Prop where
  regular : v.Regular → x.Regular
  hashable : v.unhashable? = Option.none → x.unhashable? = Option.none
  key : v.IsKey → x = v

namespace Stands

theorem refl (v : Datum) : v.Stands v := ⟨id, id, fun _ => rfl⟩

theorem trans {v x y : Datum} (h : v.Stands x) (h' : x.Stands y) : v.Stands y where
  regular hv := h'.regular (h.regular hv)
  hashable hv := h'.hashable (h.hashable hv)
  key hv := by
    have same := h.key hv
    exact (h'.key (same ▸ hv)).trans same

end Stands

theorem stands_freeze (v : Datum) : v.Stands v.freeze where
  regular h := by
    cases v with
    | dict access entries => cases access <;> simpa [freeze] using h
    | list | set => simpa [freeze] using h
    | _ => exact h
  hashable h := by
    cases v with
    | list | dict => cases h
    | set => rfl
    | _ => exact h
  key h := by
    cases v <;> first | rfl | exact h.elim

/-! ## Merging -/

/-- Only lists and mappings are merged into something else than they are. -/
theorem merge_hashable {v w z : Datum} (h : merge v w = some z) (hv : v.unhashable? = Option.none) :
    z = v := by
  cases v with
  | list | dict => cases hv
  | _ =>
    rw [merge] at h
    · split at h
      · exact (Option.some.inj h).symm
      · cases h
    all_goals intros; contradiction

mutual

theorem merge_regular : ∀ {v w z : Datum}, merge v w = some z → v.Regular → w.Regular → z.Regular
  | .list r xs, w, z, hz, hv, hw => by
    unfold merge at hz
    split at hz
    · exact Option.some.inj hz ▸ hv
    · split at hz
      · split at hz
        · obtain ⟨zs, hzs, rfl⟩ := Option.map_eq_some_iff.1 hz
          exact .list (mergeItems_regular hzs (regular_list.1 hv) (regular_list.1 hw))
        · cases hz
      · cases hz
  | .dict r xs, w, z, hz, hv, hw => by
    unfold merge at hz
    split at hz
    · exact Option.some.inj hz ▸ hv
    · split at hz
      · obtain ⟨zs, hzs, rfl⟩ := Option.map_eq_some_iff.1 hz
        have others := regular_dict.1 hw
        have merged := mergeEntries_regular hzs (regular_dict.1 hv) others
        refine regular_dict.2 fun e he => ?_
        rcases List.mem_append.1 he with he | he
        · exact merged e he
        · exact others e (List.mem_filter.1 he).1
      · cases hz
  | .none, w, z, hz, hv, _ | .bool _, w, z, hz, hv, _ | .int _, w, z, hz, hv, _
  | .float _, w, z, hz, hv, _ | .str _, w, z, hz, hv, _ | .bytes _, w, z, hz, hv, _
  | .tuple _, w, z, hz, hv, _ | .set _ _, w, z, hz, hv, _ | .missing, w, z, hz, hv, _
  | .invalid, w, z, hz, hv, _ | .live _, w, z, hz, hv, _ => by
    rw [merge] at hz
    · split at hz
      · exact Option.some.inj hz ▸ hv
      · cases hz
    all_goals intros; contradiction

theorem mergeItems_regular : ∀ {xs ys zs : List Datum}, mergeItems xs ys = some zs →
    (∀ x ∈ xs, x.Regular) → (∀ y ∈ ys, y.Regular) → ∀ z ∈ zs, z.Regular
  | [], _, zs, hz, _, _ | _ :: _, [], zs, hz, _, _ => by
    rw [mergeItems] at hz
    · exact Option.some.inj hz ▸ nofun
    · exact nofun
  | x :: xs, y :: ys, zs, hz, hx, hy => by
    obtain ⟨hx, hxs⟩ := List.forall_mem_cons.1 hx
    obtain ⟨hy, hys⟩ := List.forall_mem_cons.1 hy
    rw [mergeItems] at hz
    split at hz
    · rename_i first rest
      have tail := mergeItems_regular rest hxs hys
      exact Option.some.inj hz ▸ List.forall_mem_cons.2 ⟨merge_regular first hx hy, tail⟩
    · cases hz

theorem mergeEntries_regular : ∀ {xs ys zs : Entries Live}, mergeEntries xs ys = some zs →
    xs.Regular → ys.Regular → Entries.Regular zs
  | [], ys, zs, hz, _, _ => by
    rw [mergeEntries] at hz
    exact Option.some.inj hz ▸ nofun
  | (k, v) :: xs, ys, zs, hz, hx, hy => by
    obtain ⟨⟨hk, hv⟩, hxs⟩ := List.forall_mem_cons.1 hx
    rw [mergeEntries] at hz
    split at hz
    · rename_i w rest first tail
      have hw : w.Regular := by
        split at first
        · rename_i e he
          exact merge_regular first hv (hy e (List.mem_of_find?_eq_some he)).2
        · exact Option.some.inj first ▸ hv
      have others := mergeEntries_regular tail hxs hy
      exact Option.some.inj hz ▸ List.forall_mem_cons.2 ⟨⟨hk, hw⟩, others⟩
    · cases hz

end

end Value

/-! ## Mappings -/

theorem Entries.Regular.put {entries : Entries Live} (h : entries.Regular) {k v : Datum}
    (hk : k.IsKey) (hv : v.Regular) : (entries.put k v).Regular := by
  induction entries with
  | nil => exact List.forall_mem_singleton.2 ⟨hk, hv⟩
  | cons first rest ih =>
    obtain ⟨hfirst, hrest⟩ := List.forall_mem_cons.1 h
    rw [Entries.put]
    split
    · exact List.forall_mem_cons.2 ⟨⟨hfirst.1, hv⟩, hrest⟩
    · exact List.forall_mem_cons.2 ⟨hfirst, ih hrest⟩

theorem valueAt_regular {entries : Entries Live} (h : entries.Regular) (key : String) :
    (valueAt entries key).Regular := by
  unfold valueAt Entries.get?
  cases found : entries.find? fun e => e.1.agrees (.str key) with
  | none => exact .single rfl
  | some e => exact (h e (List.mem_of_find?_eq_some found)).2

/-! ## Numbering -/

theorem Identity.numbered_returns (id : Identity) : id.numbered.Returns fun _ => True := by
  cases id with
  | new => exact .identity
  | given n | made n => exact .pure trivial

theorem Access.numbered_returns (access : Access) :
    access.numbered.Returns fun given => given.isReadOnly = access.isReadOnly := by
  cases access with
  | free => exact .pure rfl
  | readOnly id => exact id.numbered_returns.bind fun _ _ => .pure rfl

theorem Live.numbered_returns (x : Live) : x.numbered.Returns fun _ => True := by
  cases x with
  | running id | working id => exact id.numbered_returns.bind fun _ _ => .pure trivial
  | _ => exact .pure trivial

namespace Value

/-- Items that take the places of others. -/
abbrev StandItems (items items' : List Datum) : Prop := List.Forall₂ Stands items items'

theorem StandItems.forall_mem {items items' : List Datum} (h : StandItems items items')
    {P : Datum → Prop} (hp : ∀ x y, Stands x y → P x → P y) (hi : ∀ x ∈ items, P x) :
    ∀ y ∈ items', P y := by
  induction h with
  | nil => exact List.forall_mem_nil _
  | cons first _ ih =>
    obtain ⟨hx, hrest⟩ := List.forall_mem_cons.1 hi
    exact List.forall_mem_cons.2 ⟨hp _ _ first hx, ih hrest⟩

/-- Entries that take the places of others. -/
abbrev StandEntries (entries entries' : Entries Live) : Prop :=
  List.Forall₂ (fun e e' => e.1.Stands e'.1 ∧ e.2.Stands e'.2) entries entries'

theorem StandEntries.regular {entries entries' : Entries Live} (h : StandEntries entries entries')
    (he : entries.Regular) : Entries.Regular entries' := by
  induction h with
  | nil => exact List.forall_mem_nil _
  | cons first _ ih =>
    obtain ⟨⟨hk, hv⟩, hrest⟩ := List.forall_mem_cons.1 he
    refine List.forall_mem_cons.2 ⟨⟨?_, first.2.regular hv⟩, ih hrest⟩
    rw [first.1.key hk]
    exact hk

mutual

/-- What is numbered takes the place of what was not. -/
theorem numbered_returns : ∀ v : Datum, v.numbered.Returns v.Stands
  | .float d => by
    have given : d.numbered.Returns fun _ => True := by
      cases d with
      | nan id => exact id.numbered_returns.bind fun _ _ => .pure trivial
      | _ => exact .pure trivial
    exact given.bind fun _ _ => .pure ⟨fun _ => .single rfl, fun _ => rfl, False.elim⟩
  | .list r items => by
    refine r.numbered_returns.bind fun r' _ => (numberedItems_returns items).bind fun xs hxs => ?_
    refine .pure ⟨fun h => ?_, nofun, False.elim⟩
    exact .list (hxs.forall_mem (fun _ _ h => h.regular) (regular_list.1 h))
  | .tuple items => by
    refine (numberedItems_returns items).bind fun xs hxs =>
      .pure ⟨fun h => ?_, fun h => ?_, False.elim⟩
    · exact .tuple (hxs.forall_mem (fun _ _ h => h.regular) (regular_tuple.1 h))
    · exact unhashableItem?_eq_none.2
        (hxs.forall_mem (fun _ _ h => h.hashable) (unhashableItem?_eq_none.1 h))
  | .dict r entries => by
    refine r.numbered_returns.bind fun r' _ =>
      (numberedEntries_returns entries).bind fun es hes => ?_
    refine .pure ⟨fun h => ?_, nofun, False.elim⟩
    exact regular_dict.2 (hes.regular (regular_dict.1 h))
  | .set r items => by
    refine (numberedItems_returns items).bind fun xs hxs =>
      .pure ⟨fun h => ?_, fun h => ?_, False.elim⟩
    · obtain ⟨members, regular⟩ := regular_set.1 h
      exact .set (hxs.forall_mem (fun _ _ h => h.hashable) members)
        (hxs.forall_mem (fun _ _ h => h.regular) regular)
    · cases r with
      | true => rfl
      | false => cases h
  | .live x => x.numbered_returns.bind fun _ _ =>
      .pure ⟨fun _ => .single rfl, fun _ => rfl, False.elim⟩
  | .none | .bool _ | .int _ | .str _ | .bytes _ | .missing | .invalid => .pure (.refl _)

theorem numberedItems_returns : ∀ items : List Datum,
    (numberedItems items).Returns (StandItems items)
  | [] => .pure .nil
  | x :: rest => (numbered_returns x).bind fun _ hx =>
      (numberedItems_returns rest).bind fun _ hxs => .pure (.cons hx hxs)

theorem numberedEntries_returns : ∀ entries : Entries Live,
    (numberedEntries entries).Returns (StandEntries entries)
  | [] => .pure .nil
  | (k, v) :: rest => (numbered_returns k).bind fun _ hk => (numbered_returns v).bind fun _ hv =>
      (numberedEntries_returns rest).bind fun _ hes => .pure (.cons ⟨hk, hv⟩ hes)

end
end Value
end TwoWay
