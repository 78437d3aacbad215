import TwoWay.Proofs.Value.Keys
import TwoWay.Proofs.Value.Trimming
import Mathlib.Data.List.Pairwise
import Mathlib.Data.List.Perm.Basic

/-!
# Alike values

Two values are alike if they are the same but for the order of the entries of mappings and of the
items of sets, and but for what tells containers with one content from each other: whether they are
read-only, and their identities. One `nan` is like another.

Likeness is passed on (`Value.Alike.trans`), and what is trimmed of nothing is alike
(`Value.Trimmed.alike`). Values that are no containers and no `nan` are alike only if they are the
same (`Value.Alike.eq_of_isDefinite`).
-/

namespace TwoWay

/-- What stands in the first of two related lists is related to something in the second. -/
theorem related_left {α β : Type} {R : α → β → Prop} {xs : List α} {ys : List β}
    (h : List.Forall₂ R xs ys) {x : α} (hx : x ∈ xs) : ∃ y ∈ ys, R x y := by
  induction h with
  | nil => cases hx
  | @cons x' y' _ _ first _ ih =>
    rcases List.mem_cons.1 hx with rfl | hx
    · exact ⟨y', List.mem_cons_self, first⟩
    · obtain ⟨y, hy, related⟩ := ih hx
      exact ⟨y, List.mem_cons_of_mem _ hy, related⟩

/-- Pairs of which something is the same. -/
theorem map_related {α β γ : Type} {f : α → γ} {g : β → γ} {xs : List α} {ys : List β}
    (h : List.Forall₂ (fun x y => f x = g y) xs ys) : xs.map f = ys.map g := by
  induction h with
  | nil => rfl
  | cons first _ ih => rw [List.map_cons, List.map_cons, first, ih]

/-- Related pairs, each beside what it is related to. -/
theorem forall₂_zip {α β : Type} {R : α → β → Prop} {xs : List α} {ys : List β}
    (h : List.Forall₂ R xs ys) : List.Forall₂ (fun p y => p.2 = y ∧ R p.1 y) (xs.zip ys) ys := by
  induction h with
  | nil => exact .nil
  | cons first _ ih => exact .cons ⟨rfl, first⟩ ih

/-- Related pairs, where the one list may have to be put in order first. -/
theorem forall₂_turned {α β : Type} {R : α → β → Prop} {xs : List α} {ys zs : List β}
    (h : List.Forall₂ R xs ys) (order : ys.Perm zs) :
    ∃ turned, xs.Perm turned ∧ List.Forall₂ R turned zs := by
  obtain ⟨turned, related, order⟩ := List.perm_comp_forall₂ order.symm h.flip
  exact ⟨turned, order.symm, related.flip⟩

/-- Pairs that are related by way of a third. -/
theorem forall₂_through {α β γ : Type} {R : α → β → Prop} {S : β → γ → Prop} {T : α → γ → Prop}
    (through : ∀ {x y z}, R x y → S y z → T x z) {xs : List α} {ys : List β} {zs : List γ}
    (h : List.Forall₂ R xs ys) (h' : List.Forall₂ S ys zs) : List.Forall₂ T xs zs := by
  induction h generalizing zs with
  | nil =>
    cases h'
    exact .nil
  | cons first _ ih =>
    cases h' with
    | cons second rest => exact .cons (through first second) (ih rest)

namespace Value

/-- The same value, but for orders, read-only forms and identities. -/
inductive Alike : Datum → Datum → Prop
  | same (v : Datum) : Alike v v
  | nan (i j : Identity) : Alike (.float (.nan i)) (.float (.nan j))
  | list {access access' : Access} {items items' : List Datum}
    (length : items.length = items'.length) (h : ∀ p ∈ items.zip items', Alike p.1 p.2) :
    Alike (.list access items) (.list access' items')
  | tuple {items items' : List Datum} (length : items.length = items'.length)
    (h : ∀ p ∈ items.zip items', Alike p.1 p.2) : Alike (.tuple items) (.tuple items')
  | dict {access access' : Access} {entries turned entries' : Entries Live}
    (order : entries.Perm turned) (length : turned.length = entries'.length)
    (hk : ∀ p ∈ turned.zip entries', Alike p.1.1 p.2.1)
    (hv : ∀ p ∈ turned.zip entries', Alike p.1.2 p.2.2) :
    Alike (.dict access entries) (.dict access' entries')
  | set {readOnly readOnly' : Bool} {items turned items' : List Datum}
    (order : items.Perm turned) (length : turned.length = items'.length)
    (h : ∀ p ∈ turned.zip items', Alike p.1 p.2) :
    Alike (.set readOnly items) (.set readOnly' items')

/-- Entries whose keys and values are alike. -/
def EntryAlike (e e' : Datum × Datum) : Prop := e.1.Alike e'.1 ∧ e.2.Alike e'.2

end Value

/-- Mappings with entries that are alike, in some order. -/
def Entries.Alike (entries entries' : Entries Live) : Prop :=
  ∃ turned, entries.Perm turned ∧ List.Forall₂ Value.EntryAlike turned entries'

namespace Value

variable {v u x : Datum} {access access' : Access} {items items' turned : List Datum}
  {entries entries' : Entries Live}

/-! ## Containers -/

theorem forall₂_alike : List.Forall₂ Alike items items' ↔
    items.length = items'.length ∧ ∀ p ∈ items.zip items', p.1.Alike p.2 := by
  rw [List.forall₂_iff_zip]
  exact and_congr_right fun _ => ⟨fun h p hp => h hp, fun h _ _ hp => h _ hp⟩

theorem forall₂_entryAlike : List.Forall₂ EntryAlike entries entries' ↔
    entries.length = entries'.length ∧ (∀ p ∈ entries.zip entries', p.1.1.Alike p.2.1) ∧
      ∀ p ∈ entries.zip entries', p.1.2.Alike p.2.2 := by
  rw [List.forall₂_iff_zip]
  refine and_congr_right fun _ => ⟨fun h => ⟨fun p hp => (h hp).1, fun p hp => (h hp).2⟩, ?_⟩
  exact fun h _ _ hp => ⟨h.1 _ hp, h.2 _ hp⟩

theorem items_alike (items : List Datum) : List.Forall₂ Alike items items :=
  List.forall₂_same.2 fun x _ => .same x

theorem entries_alike (entries : Entries Live) : List.Forall₂ EntryAlike entries entries :=
  List.forall₂_same.2 fun e _ => ⟨.same e.1, .same e.2⟩

namespace Alike

theorem ofList (h : List.Forall₂ Alike items items') :
    (Value.list access items).Alike (.list access' items') :=
  have h := forall₂_alike.1 h
  .list h.1 h.2

theorem ofTuple (h : List.Forall₂ Alike items items') :
    (Value.tuple items).Alike (.tuple items') :=
  have h := forall₂_alike.1 h
  .tuple h.1 h.2

theorem ofDict (h : entries.Alike entries') :
    (Value.dict access entries).Alike (.dict access' entries') := by
  obtain ⟨turned, order, h⟩ := h
  obtain ⟨length, hk, hv⟩ := forall₂_entryAlike.1 h
  exact .dict order length hk hv

theorem ofSet {readOnly readOnly' : Bool} (order : items.Perm turned)
    (h : List.Forall₂ Alike turned items') :
    (Value.set readOnly items).Alike (.set readOnly' items') :=
  have h := forall₂_alike.1 h
  .set order h.1 h.2

/-- Only lists are like a list. -/
theorem from_list (h : (Value.list access items).Alike u) :
    ∃ access' items', u = .list access' items' ∧ List.Forall₂ Alike items items' := by
  cases h with
  | same => exact ⟨_, _, rfl, items_alike items⟩
  | list length h => exact ⟨_, _, rfl, forall₂_alike.2 ⟨length, h⟩⟩

/-- Only tuples are like a tuple. -/
theorem from_tuple (h : (Value.tuple items).Alike u) :
    ∃ items', u = .tuple items' ∧ List.Forall₂ Alike items items' := by
  cases h with
  | same => exact ⟨_, rfl, items_alike items⟩
  | tuple length h => exact ⟨_, rfl, forall₂_alike.2 ⟨length, h⟩⟩

/-- Only mappings are like a mapping. -/
theorem from_dict (h : (Value.dict access entries).Alike u) :
    ∃ access' entries', u = .dict access' entries' ∧ entries.Alike entries' := by
  cases h with
  | same => exact ⟨_, _, rfl, entries, .refl _, entries_alike entries⟩
  | dict order length hk hv =>
    exact ⟨_, _, rfl, _, order, forall₂_entryAlike.2 ⟨length, hk, hv⟩⟩

/-- Only sets are like a set. -/
theorem from_set {readOnly : Bool} (h : (Value.set readOnly items).Alike u) :
    ∃ readOnly' items' turned, u = .set readOnly' items' ∧ items.Perm turned ∧
      List.Forall₂ Alike turned items' := by
  cases h with
  | same => exact ⟨_, _, items, rfl, .refl _, items_alike items⟩
  | set order length h => exact ⟨_, _, _, rfl, order, forall₂_alike.2 ⟨length, h⟩⟩

/-- Likeness along the pairs of two lists, of which the first pairs can be gone on from. -/
theorem along (length : items.length = items'.length)
    (ih : ∀ p ∈ items.zip items', ∀ {y}, p.2.Alike y → p.1.Alike y) {others : List Datum}
    (h : List.Forall₂ Alike items' others) : List.Forall₂ Alike items others := by
  have onward : List.Forall₂ (fun x x' => ∀ {y}, Alike x' y → x.Alike y) items items' :=
    List.forall₂_iff_zip.2 ⟨length, fun hp => ih _ hp⟩
  exact forall₂_through (fun first second => first second) onward h

theorem trans (h : v.Alike u) (h' : u.Alike x) : v.Alike x := by
  induction h generalizing x with
  | same => exact h'
  | nan i j =>
    cases h' with
    | same => exact .nan i j
    | nan _ k => exact .nan i k
  | list length _ ih =>
    obtain ⟨_, _, rfl, items⟩ := h'.from_list
    exact .ofList (along length ih items)
  | tuple length _ ih =>
    obtain ⟨_, rfl, items⟩ := h'.from_tuple
    exact .ofTuple (along length ih items)
  | @dict _ _ entries turned entries' order length _ _ ihk ihv =>
    obtain ⟨_, _, rfl, turned', order', pairs⟩ := h'.from_dict
    have onward : List.Forall₂ (fun e e' => (∀ {y}, Alike e'.1 y → e.1.Alike y) ∧
        ∀ {y}, Alike e'.2 y → e.2.Alike y) turned entries' :=
      List.forall₂_iff_zip.2 ⟨length, fun hp => ⟨ihk _ hp, ihv _ hp⟩⟩
    obtain ⟨first, order'', onward⟩ := forall₂_turned onward order'
    refine .ofDict ⟨first, order.trans order'', forall₂_through ?_ onward pairs⟩
    exact fun first second => ⟨first.1 second.1, first.2 second.2⟩
  | @set _ _ items turned items' order length _ ih =>
    obtain ⟨_, _, turned', rfl, order', pairs⟩ := h'.from_set
    have onward : List.Forall₂ (fun x x' => ∀ {y}, Alike x' y → x.Alike y) turned items' :=
      List.forall₂_iff_zip.2 ⟨length, fun hp => ih _ hp⟩
    obtain ⟨first, order'', onward⟩ := forall₂_turned onward order'
    exact .ofSet (order.trans order'') (forall₂_through (fun f s => f s) onward pairs)

theorem isMissing (h : v.Alike u) : v.isMissing = u.isMissing := by cases h <;> rfl

theorem isInvalid (h : v.Alike u) : v.isInvalid = u.isInvalid := by cases h <;> rfl

theorem isNone (h : v.Alike u) : v.isNone = u.isNone := by cases h <;> rfl

theorem isEmpty_eq {α β : Type} {xs : List α} {ys : List β} (h : xs.length = ys.length) :
    xs.isEmpty = ys.isEmpty := by
  cases xs <;> cases ys <;> first | rfl | cases h

theorem truthy (h : v.Alike u) : v.truthy = u.truthy := by
  cases h with
  | same | nan => rfl
  | list length | tuple length => exact congrArg (!·) (isEmpty_eq length)
  | dict order length | set order length =>
    exact congrArg (!·) (isEmpty_eq (order.length_eq.trans length))

end Alike

/-! ## Values that are alike only if they are the same -/

/-- Values that are no containers, no sentinels, no handles and no `nan`. -/
def isDefinite : Datum → Bool
  | .none | .bool _ | .int _ | .str _ | .bytes _ => true
  | .float (.infinite _) | .float (.finite ..) => true
  | _ => false

theorem Alike.eq_of_isDefinite (h : v.Alike u) (hv : v.isDefinite) : u = v := by
  cases h with
  | same => rfl
  | nan | list | tuple | dict | set => cases hv

theorem Alike.eq_of_isDefinite' (h : v.Alike u) (hu : u.isDefinite) : u = v := by
  cases h with
  | same => rfl
  | nan | list | tuple | dict | set => cases hu

theorem Alike.eq_str {s : String} (h : v.Alike u) : v = .str s ↔ u = .str s := by
  constructor
  · rintro rfl
    exact h.eq_of_isDefinite rfl
  · rintro rfl
    cases h
    rfl

namespace IsDefinite

variable (h : v.isDefinite)
include h

theorem single : v.isContainer = false := by
  cases v <;> first | rfl | cases h

theorem hashable : v.unhashable? = Option.none := by
  cases v <;> first | rfl | cases h

theorem natural {lax : Prop} : v.Natural lax := by
  rcases v with _ | _ | _ | (_ | _ | _) | _ | _ | _ | _ | _ | _ | _ | _ | _ <;>
    first | cases h; done | exact .float rfl | constructor

theorem agrees_self : v.agrees v := by
  refine (agrees_single (single h) (single h)).2 ?_
  rcases v with _ | _ | _ | (_ | _ | _) | _ | _ | _ | _ | _ | _ | _ | _ | _ <;>
    first | cases h; done | exact ⟨_, rfl, rfl⟩

end IsDefinite

/-- What is exactly a definite value is definite. -/
theorem isDefinite_of_isExactly {t : Datum} (h : v.isExactly t) (ht : t.isDefinite) :
    v.isDefinite := by
  have equal : v.equal t := (Bool.and_eq_true_iff.1 h).2
  rcases v with _ | _ | _ | (_ | _ | _) | _ | _ | _ | _ | _ | _ | _ | _ | _ <;>
    first | rfl | skip
  all_goals cases t <;> first | cases equal; done | cases ht

end Value

/-- Definite values no two of which agree can be the keys of one mapping. -/
theorem AreKeys.ofDefinite {keys : List Datum} (h : ∀ k ∈ keys, k.isDefinite)
    (apart : keys.Pairwise fun k l => k.agrees l = false) : AreKeys keys := by
  let Differ (k l : Datum) : Prop := k.agrees l = false ∧ l.agrees k = false
  have symm : Std.Symm Differ := ⟨fun _ _ => And.symm⟩
  have differ : keys.Pairwise Differ := by
    refine apart.imp_of_mem fun {k l} hk hl first => ⟨first, eq_false_of_ne_true fun agree => ?_⟩
    have equivalent := Value.equivalent_single (Value.IsDefinite.single (h l hl))
    have proper : k.IsProper := .single (Value.IsDefinite.single (h k hk)) trivial
    rw [equivalent.symm proper agree] at first
    cases first
  have itself (k : Datum) (hk : k ∈ keys) : k.agrees k := Value.IsDefinite.agrees_self (h k hk)
  refine ⟨?_, fun k hk => Value.IsDefinite.hashable (h k hk), fun k hk l hl =>
    ⟨fun agree => ?_, ?_⟩⟩
  · refine differ.imp_of_mem fun {k l} hk _ apart same => ?_
    subst same
    exact Bool.false_ne_true (apart.1.symm.trans (itself k hk))
  · by_contra other
    exact Bool.false_ne_true ((differ.forall hk hl other).1.symm.trans agree)
  · rintro rfl
    exact itself k hk

theorem AreKeys.perm {keys turned : List Datum} (h : AreKeys keys) (order : keys.Perm turned) :
    AreKeys turned :=
  h.subset (order.nodup h.nodup) order.symm.subset

namespace Value

/-- What is trimmed of nothing is alike. -/
theorem Trimmed.alike {v x : Datum} {lax : Prop} (h : v.Trimmed False x) (hv : v.Natural lax) :
    v.Alike x := by
  induction h with
  | same => exact .same _
  | list length _ ih =>
    have items := (natural_list.1 hv).2
    exact .list length fun p hp => ih p hp (items p.1 (List.of_mem_zip hp).1)
  | tuple length _ ih =>
    have items := natural_tuple.1 hv
    exact .tuple length fun p hp => ih p hp (items p.1 (List.of_mem_zip hp).1)
  | set => exact .ofSet (.refl _) (items_alike _)
  | @dict _ _ entries entries' old nodup kept _ all ih =>
    have hg := (natural_dict.1 hv).2
    let stood : Entries Live := entries'.map fun e => (e.1, old e.1)
    have keys : stood.map (·.1) = entries'.map (·.1) := by simp [stood]
    have order : entries.Perm stood := by
      refine (List.perm_ext_iff_of_nodup (.of_map _ hg.keys.nodup)
        (.of_map _ (keys ▸ nodup))).2 fun e => ⟨fun he => ?_, fun he => ?_⟩
      · obtain ⟨e', he', same⟩ := List.mem_map.1 (all.resolve_left id e he)
        refine List.mem_map.2 ⟨e', he', Prod.ext same ?_⟩
        exact hg.unique (same ▸ kept e' he') he
      · obtain ⟨e', he', rfl⟩ := List.mem_map.1 he
        exact kept e' he'
    refine .ofDict ⟨stood, order, List.forall₂_map_left_iff.2 (List.forall₂_same.2 fun e he => ?_)⟩
    exact ⟨.same _, ih e he (hg.value _ (kept e he))⟩

/-- The read-only form of a natural value is natural and like it. -/
theorem Natural.frozen {plans : Plans} {v : Datum} {lax : Prop} (h : v.Natural lax) :
    plans.Ensures v.freeze.numbered fun x => x.Natural lax ∧ v.Alike x :=
  h.freeze.weaken fun _ frozen => ⟨frozen.1, frozen.2.alike h⟩

end Value

/-! ## Entries -/

namespace Entries.Alike

variable {entries entries' more more' : Entries Live}

theorem ofPairs (h : List.Forall₂ Value.EntryAlike entries entries') : entries.Alike entries' :=
  ⟨entries, .refl _, h⟩

theorem turned (order : entries.Perm more) (h : more.Alike entries') : entries.Alike entries' := by
  obtain ⟨turned, order', h⟩ := h
  exact ⟨turned, order.trans order', h⟩

theorem append (h : entries.Alike entries') (h' : more.Alike more') :
    Entries.Alike (entries ++ more) (entries' ++ more') := by
  obtain ⟨turned, order, h⟩ := h
  obtain ⟨turned', order', h'⟩ := h'
  exact ⟨turned ++ turned', order.append order', List.rel_append h h'⟩

/-- Every entry of the one has an entry of the other that is like it. -/
theorem mem (h : entries.Alike entries') {e : Datum × Datum} (he : e ∈ entries) :
    ∃ e' ∈ entries', Value.EntryAlike e e' := by
  obtain ⟨turned, order, h⟩ := h
  exact related_left h (order.subset he)

theorem mem' (h : entries.Alike entries') {e' : Datum × Datum} (he : e' ∈ entries') :
    ∃ e ∈ entries, Value.EntryAlike e e' := by
  obtain ⟨turned, order, h⟩ := h
  obtain ⟨e, he, alike⟩ := related_left h.flip he
  exact ⟨e, order.symm.subset he, alike⟩

end Entries.Alike
end TwoWay
