import TwoWay.Proofs.Forcing.Ensuring
import TwoWay.Proofs.Value.Keeping
import Mathlib.Data.List.Forall2
import Mathlib.Data.List.Nodup

/-!
# Trimmed values

A trimmed value is what is left of a value when entries are taken out of mappings, at any depth;
the order of the entries and the read-only form of containers do not count. Trimming again gives
a trimmed value (`Value.Trimmed.trans`), keys cannot be trimmed (`Value.Trimmed.eq_of_hashable`),
and two trimmed forms of one value merge into a trimmed form of it (`merge_trimmed`).

All of it is about natural values: with nothing in them that still waits for an identity, and with
mappings and sets whose keys and items can be told apart. They may hold lax or not; those
without are genuine.
-/

namespace TwoWay

/-- Values that can be the keys of one mapping, or the items of one set. -/
structure AreKeys (keys : List Datum) : Prop where
  nodup : keys.Nodup
  hashable : ∀ k ∈ keys, k.unhashable? = none
  apart : ∀ k ∈ keys, ∀ l ∈ keys, k.agrees l = true ↔ k = l

theorem AreKeys.subset {keys kept : List Datum} (h : AreKeys keys) (hn : kept.Nodup)
    (hs : kept ⊆ keys) : AreKeys kept :=
  ⟨hn, fun k hk => h.hashable k (hs hk), fun k hk l hl => h.apart k (hs hk) l (hs hl)⟩

/-- No number stands where a text does. -/
theorem samePlace_str (k : Datum) (s : String) : k.samePlace (.str s) = false := by
  unfold Value.samePlace
  cases k.place? <;> rfl

theorem equal_str {k : Datum} {s : String} : k.equal (.str s) = true ↔ k = .str s := by
  cases k
  case str t => simp only [Value.equal, beq_iff_eq, Value.str.injEq]
  -- Any other value is compared by its place.
  all_goals simp only [Value.equal, samePlace_str, Bool.false_eq_true, reduceCtorEq]

theorem agrees_str {k : Datum} {s : String} : k.agrees (.str s) = true ↔ k = .str s := by
  have differ : k.sameNan (.str s) = false := by cases k <;> rfl
  rw [Value.agrees, differ, Bool.false_or]
  exact equal_str

/-- Texts are keys. -/
theorem AreKeys.ofTexts {names : List String} (h : names.Nodup) :
    AreKeys (names.map Value.str) where
  nodup := h.map fun _ _ => Value.str.inj
  hashable k hk := by
    obtain ⟨name, -, rfl⟩ := List.mem_map.1 hk
    rfl
  apart k _ l hl := by
    obtain ⟨name, -, rfl⟩ := List.mem_map.1 hl
    exact agrees_str

/-! ## Genuine values -/

/-- The identity that a container gets is not new any more. -/
theorem Access.new_numbered (plans : Plans) :
    plans.Ensures (Access.readOnly .new).numbered fun r => r.numbered = pure r :=
  fun _ hw => ⟨hw.of_memory rfl rfl, fun _ hr => by cases hr; rfl⟩

/-- Values as they come from outside. -/
inductive Value.Genuine : Datum → Prop
  | none : Value.Genuine .none
  | bool (b : Bool) : Value.Genuine (.bool b)
  | int (i : Int) : Value.Genuine (.int i)
  | float {d : Double} (h : d.numbered = pure d) : Value.Genuine (.float d)
  | str (s : String) : Value.Genuine (.str s)
  | bytes (bs : List UInt8) : Value.Genuine (.bytes bs)
  | list {access : Access} {items : List Datum} (ha : access.numbered = pure access)
    (h : ∀ x ∈ items, Value.Genuine x) : Value.Genuine (.list access items)
  | tuple {items : List Datum} (h : ∀ x ∈ items, Value.Genuine x) : Value.Genuine (.tuple items)
  | dict {access : Access} {entries : Entries Live} (ha : access.numbered = pure access)
    (keys : AreKeys (entries.map (·.1))) (hk : ∀ e ∈ entries, Value.Genuine e.1)
    (hv : ∀ e ∈ entries, Value.Genuine e.2) : Value.Genuine (.dict access entries)
  | set {readOnly : Bool} {items : List Datum} (keys : AreKeys items)
    (h : ∀ x ∈ items, Value.Genuine x) : Value.Genuine (.set readOnly items)
  | live {x : Live} (h : x.numbered = pure x) : Value.Genuine (.live x)

/-- Genuine values, and if `lax`, also values with sentinels in them. -/
inductive Value.Natural (lax : Prop) : Datum → Prop
  | none : Value.Natural lax .none
  | bool (b : Bool) : Value.Natural lax (.bool b)
  | int (i : Int) : Value.Natural lax (.int i)
  | float {d : Double} (h : d.numbered = pure d) : Value.Natural lax (.float d)
  | str (s : String) : Value.Natural lax (.str s)
  | bytes (bs : List UInt8) : Value.Natural lax (.bytes bs)
  | list {access : Access} {items : List Datum} (ha : access.numbered = pure access)
    (h : ∀ x ∈ items, Value.Natural lax x) : Value.Natural lax (.list access items)
  | tuple {items : List Datum} (h : ∀ x ∈ items, Value.Natural lax x) :
    Value.Natural lax (.tuple items)
  | dict {access : Access} {entries : Entries Live} (ha : access.numbered = pure access)
    (keys : AreKeys (entries.map (·.1))) (hk : ∀ e ∈ entries, Value.Natural lax e.1)
    (hv : ∀ e ∈ entries, Value.Natural lax e.2) :
    Value.Natural lax (.dict access entries)
  | set {readOnly : Bool} {items : List Datum} (keys : AreKeys items)
    (h : ∀ x ∈ items, Value.Natural lax x) : Value.Natural lax (.set readOnly items)
  | live {x : Live} (h : x.numbered = pure x) : Value.Natural lax (.live x)
  | missing (h : lax) : Value.Natural lax .missing
  | invalid (h : lax) : Value.Natural lax .invalid

/-- What is genuine is natural, and there need be no sentinels. -/
theorem Value.Genuine.natural {lax : Prop} {v : Datum} (h : v.Genuine) :
    v.Natural lax := by
  induction h with
  | none => exact .none
  | bool b => exact .bool b
  | int i => exact .int i
  | float h => exact .float h
  | str s => exact .str s
  | bytes bs => exact .bytes bs
  | list ha _ ih => exact .list ha ih
  | tuple _ ih => exact .tuple ih
  | dict ha keys _ _ ihk ihv => exact .dict ha keys ihk ihv
  | set keys _ ih => exact .set keys ih
  | live h => exact .live h

section
variable {lax : Prop}

/-- The entries of a natural mapping. -/
structure Entries.Natural (lax : Prop) (entries : Entries Live) : Prop where
  keys : AreKeys (entries.map (·.1))
  key : ∀ e ∈ entries, e.1.Natural lax
  value : ∀ e ∈ entries, e.2.Natural lax

theorem Entries.Natural.unique {entries : Entries Live} (h : entries.Natural lax)
    {k v w : Datum} (hv : (k, v) ∈ entries) (hw : (k, w) ∈ entries) : v = w := by
  have same := List.inj_on_of_nodup_map h.keys.nodup hv hw rfl
  exact congrArg Prod.snd same

theorem Entries.Natural.sublist {entries kept : Entries Live} (h : entries.Natural lax)
    (hs : kept.Sublist entries) : kept.Natural lax where
  keys := h.keys.subset (h.keys.nodup.sublist (hs.map _)) (hs.map _).subset
  key e he := h.key e (hs.subset he)
  value e he := h.value e (hs.subset he)

namespace Value

/-- A natural value, or `missing`, which stands for none. -/
def Given (lax : Prop) (v : Datum) : Prop := v.Natural lax ∨ v = .missing

theorem Natural.isMissing {v : Datum} (h : v.Natural lax) (plain : ¬lax) :
    v.isMissing = false := by
  cases h <;> first | rfl | contradiction

theorem eq_missing {v : Datum} (h : v.isMissing = true) : v = .missing := by
  cases v with
  | missing => rfl
  | _ => cases h

theorem Given.natural {v : Datum} (h : v.Given lax) (hv : v.isMissing = false) :
    v.Natural lax := by
  rcases h with h | rfl
  · exact h
  · cases hv

@[simp] theorem natural_list {access : Access} {items : List Datum} :
    (Value.list access items).Natural lax ↔
      access.numbered = pure access ∧ ∀ x ∈ items, x.Natural lax :=
  ⟨fun h => by cases h with | list ha h => exact ⟨ha, h⟩, fun h => .list h.1 h.2⟩

@[simp] theorem natural_tuple {items : List Datum} :
    (Value.tuple items).Natural lax ↔ ∀ x ∈ items, x.Natural lax :=
  ⟨fun h => by cases h; assumption, .tuple⟩

@[simp] theorem natural_set {readOnly : Bool} {items : List Datum} :
    (Value.set readOnly items).Natural lax ↔
      AreKeys items ∧ ∀ x ∈ items, x.Natural lax :=
  ⟨fun h => by cases h with | set hk h => exact ⟨hk, h⟩, fun h => .set h.1 h.2⟩

@[simp] theorem natural_dict {access : Access} {entries : Entries Live} :
    (Value.dict access entries).Natural lax ↔
      access.numbered = pure access ∧ entries.Natural lax :=
  ⟨fun h => by cases h with | dict ha keys hk hv => exact ⟨ha, keys, hk, hv⟩,
    fun h => .dict h.1 h.2.keys h.2.key h.2.value⟩

mutual

/-- Nothing in a natural value waits for an identity. -/
theorem Natural.numbered : ∀ {v : Datum}, v.Natural lax → v.numbered = pure v
  | .float d, h => by
    cases h with
    | float h => rw [Value.numbered, h, pure_bind]
  | .list r items, h => by
    obtain ⟨hr, h⟩ := natural_list.1 h
    rw [Value.numbered, hr, pure_bind, numberedItems_natural h, pure_bind]
  | .tuple items, h => by
    rw [Value.numbered, numberedItems_natural (natural_tuple.1 h), pure_bind]
  | .dict r entries, h => by
    obtain ⟨hr, h⟩ := natural_dict.1 h
    rw [Value.numbered, hr, pure_bind, numberedEntries_natural h.key h.value, pure_bind]
  | .set r items, h => by
    rw [Value.numbered, numberedItems_natural (natural_set.1 h).2, pure_bind]
  | .live x, h => by
    cases h with
    | live h => rw [Value.numbered, h, pure_bind]
  | .none, _ | .bool _, _ | .int _, _ | .str _, _ | .bytes _, _ | .missing, _ | .invalid, _ => rfl

theorem numberedItems_natural : ∀ {items : List Datum}, (∀ x ∈ items, x.Natural lax) →
    numberedItems items = pure items
  | [], _ => rfl
  | x :: rest, h => by
    obtain ⟨hx, hrest⟩ := List.forall_mem_cons.1 h
    rw [numberedItems, hx.numbered, pure_bind, numberedItems_natural hrest, pure_bind]

theorem numberedEntries_natural : ∀ {entries : Entries Live},
    (∀ e ∈ entries, e.1.Natural lax) → (∀ e ∈ entries, e.2.Natural lax) →
    numberedEntries entries = pure entries
  | [], _, _ => rfl
  | (k, v) :: rest, hk, hv => by
    obtain ⟨hk, hks⟩ := List.forall_mem_cons.1 hk
    obtain ⟨hv, hvs⟩ := List.forall_mem_cons.1 hv
    rw [numberedEntries, hk.numbered, pure_bind, hv.numbered, pure_bind,
      numberedEntries_natural hks hvs, pure_bind]

end

/-! ## Trimming -/

/-- The second value is the first with entries taken out of mappings, or, unless `strips`, with
none taken out. Entries keep their keys: `old` tells what stood under a key. Sets are taken as
they are, and do not become mutable. -/
inductive Trimmed (strips : Prop) : Datum → Datum → Prop
  | same (v : Datum) : Trimmed strips v v
  | list {access access' : Access} {items items' : List Datum}
    (length : items.length = items'.length)
    (h : ∀ p ∈ items.zip items', Trimmed strips p.1 p.2) :
    Trimmed strips (.list access items) (.list access' items')
  | tuple {items items' : List Datum} (length : items.length = items'.length)
    (h : ∀ p ∈ items.zip items', Trimmed strips p.1 p.2) :
    Trimmed strips (.tuple items) (.tuple items')
  | dict {access access' : Access} {entries entries' : Entries Live} (old : Datum → Datum)
    (nodup : (entries'.map (·.1)).Nodup) (kept : ∀ e ∈ entries', (e.1, old e.1) ∈ entries)
    (h : ∀ e ∈ entries', Trimmed strips (old e.1) e.2)
    (all : strips ∨ ∀ e ∈ entries, e.1 ∈ entries'.map (·.1)) :
    Trimmed strips (.dict access entries) (.dict access' entries')
  | set {readOnly readOnly' : Bool} {items : List Datum} (h : readOnly → readOnly') :
    Trimmed strips (.set readOnly items) (.set readOnly' items)

variable {strips : Prop}

theorem Trimmed.weaken {v x : Datum} {strips' : Prop} (h : v.Trimmed strips x)
    (hs : strips → strips') : v.Trimmed strips' x := by
  induction h with
  | same v => exact .same v
  | list length _ ih => exact .list length ih
  | tuple length _ ih => exact .tuple length ih
  | dict old nodup kept _ all ih => exact .dict old nodup kept ih (all.imp_left hs)
  | set h => exact .set h

theorem forall₂_trimmed {items items' : List Datum} :
    List.Forall₂ (Trimmed strips) items items' ↔
      items.length = items'.length ∧ ∀ p ∈ items.zip items', p.1.Trimmed strips p.2 := by
  rw [List.forall₂_iff_zip]
  exact and_congr_right fun _ => ⟨fun h p hp => h hp, fun h _ _ hp => h _ hp⟩

theorem forall₂_same (items : List Datum) : List.Forall₂ (Trimmed strips) items items :=
  List.forall₂_same.2 fun x _ => .same x

theorem Trimmed.ofItems {access access' : Access} {items items' : List Datum}
    (h : List.Forall₂ (Trimmed strips) items items') :
    (Value.list access items).Trimmed strips (.list access' items') :=
  have h := forall₂_trimmed.1 h
  .list h.1 h.2

theorem Trimmed.ofTuple {items items' : List Datum}
    (h : List.Forall₂ (Trimmed strips) items items') :
    (Value.tuple items).Trimmed strips (.tuple items') :=
  have h := forall₂_trimmed.1 h
  .tuple h.1 h.2

/-- Only a list is trimmed to a list. -/
theorem Trimmed.to_list {v : Datum} {access : Access} {items : List Datum}
    (h : v.Trimmed strips (.list access items)) :
    ∃ access' items', v = .list access' items' ∧
      List.Forall₂ (Trimmed strips) items' items := by
  cases h with
  | same => exact ⟨_, _, rfl, forall₂_same items⟩
  | list length h => exact ⟨_, _, rfl, forall₂_trimmed.2 ⟨length, h⟩⟩

/-- The second mapping has trimmed values of the first under its keys, or, unless `strips`,
under all of them. -/
structure TrimmedEntries (strips : Prop) (entries entries' : Entries Live) : Prop where
  nodup : (entries'.map (·.1)).Nodup
  kept : ∀ e ∈ entries', ∃ v, (e.1, v) ∈ entries ∧ v.Trimmed strips e.2
  all : strips ∨ ∀ e ∈ entries, e.1 ∈ entries'.map (·.1)

theorem TrimmedEntries.same {entries : Entries Live} (nodup : (entries.map (·.1)).Nodup) :
    TrimmedEntries strips entries entries :=
  ⟨nodup, fun e he => ⟨e.2, he, .same _⟩, .inr fun _ he => List.mem_map_of_mem he⟩

theorem Trimmed.ofEntries {access access' : Access} {entries entries' : Entries Live}
    (hg : entries.Natural lax) (h : TrimmedEntries strips entries entries') :
    (Value.dict access entries).Trimmed strips (.dict access' entries') := by
  have stood (e) (he : e ∈ entries') :=
    Classical.epsilon_spec (p := fun v => (e.1, v) ∈ entries)
      ((h.kept e he).imp fun _ hv => hv.1)
  refine .dict (fun k => Classical.epsilon fun v => (k, v) ∈ entries) h.nodup stood
    (fun e he => ?_) h.all
  obtain ⟨v, hv, trimmed⟩ := h.kept e he
  exact hg.unique hv (stood e he) ▸ trimmed

/-- Only a mapping is trimmed to a mapping. -/
theorem Trimmed.to_dict {v : Datum} {access : Access} {entries : Entries Live}
    (h : v.Trimmed strips (.dict access entries)) (hv : v.Natural lax) :
    ∃ access' entries', v = .dict access' entries' ∧
      TrimmedEntries strips entries' entries := by
  cases h with
  | same => exact ⟨_, _, rfl, .same (natural_dict.1 hv).2.keys.nodup⟩
  | dict old nodup kept h all =>
    exact ⟨_, _, rfl, nodup, fun e he => ⟨old e.1, kept e he, h e he⟩, all⟩

theorem Trimmed.trans {v x y : Datum} (h : v.Trimmed strips x) (h' : x.Trimmed strips y) :
    v.Trimmed strips y := by
  have along {vs xs ys : List Datum} (length : vs.length = xs.length)
      (ih : ∀ p ∈ vs.zip xs, ∀ {y}, p.2.Trimmed strips y → p.1.Trimmed strips y)
      (h' : List.Forall₂ (Trimmed strips) xs ys) : List.Forall₂ (Trimmed strips) vs ys := by
    induction h' generalizing vs with
    | nil =>
      cases vs with
      | nil => exact .nil
      | cons => cases length
    | cons first rest next =>
      cases vs with
      | nil => cases length
      | cons v vs =>
        obtain ⟨hv, hvs⟩ := List.forall_mem_cons.1 ih
        exact .cons (hv first) (next (Nat.succ.inj length) hvs)
  induction h generalizing y with
  | same v => exact h'
  | list length h ih =>
    cases h' with
    | same => exact .list length h
    | list length' h' => exact .ofItems (along length ih (forall₂_trimmed.2 ⟨length', h'⟩))
  | tuple length h ih =>
    cases h' with
    | same => exact .tuple length h
    | tuple length' h' => exact .ofTuple (along length ih (forall₂_trimmed.2 ⟨length', h'⟩))
  | dict old nodup kept h all ih =>
    cases h' with
    | same => exact .dict old nodup kept h all
    | dict old' nodup' kept' h' all' =>
      refine .dict old nodup' (fun e he => kept (e.1, old' e.1) (kept' e he))
        (fun e he => ih (e.1, old' e.1) (kept' e he) (h' e he)) ?_
      refine all.elim .inl fun all => all'.imp_right fun all' e he => ?_
      obtain ⟨e', he', same⟩ := List.mem_map.1 (all e he)
      exact same ▸ all' e' he'
  | set h =>
    cases h' with
    | same => exact .set h
    | set h' => exact .set fun hr => h' (h hr)

theorem hashable_items {items : List Datum} (h : unhashableItem? items = Option.none) :
    ∀ x ∈ items, x.unhashable? = Option.none := by
  induction items with
  | nil => exact List.forall_mem_nil _
  | cons x rest ih =>
    rw [unhashableItem?] at h
    split at h
    · cases h
    · exact List.forall_mem_cons.2 ⟨‹_›, ih h⟩

/-- There is nothing to be taken out of what can be a key. -/
theorem Trimmed.eq_of_hashable {v x : Datum} (h : v.Trimmed strips x)
    (hv : v.unhashable? = Option.none) : x = v := by
  induction h with
  | same v => rfl
  | list | dict => cases hv
  | tuple length h ih =>
    have items := hashable_items hv
    have same : List.Forall₂ Eq _ _ := List.forall₂_iff_zip.2
      ⟨length, fun {a b} hp => (ih (a, b) hp (items a (List.of_mem_zip hp).1)).symm⟩
    rw [List.forall₂_eq_eq_eq] at same
    rw [same]
  | @set readOnly readOnly' items h =>
    cases readOnly with
    | true => rw [h rfl]
    | false => cases hv

/-- What is trimmed to `missing` is `missing`. -/
theorem Trimmed.isMissing {v x : Datum} (h : v.Trimmed strips x) :
    x.isMissing = v.isMissing := by
  cases h <;> rfl

/-- The read-only form of a natural value, once it has its identity. -/
theorem Natural.freeze {plans : Plans} {v : Datum} (h : v.Natural lax) :
    plans.Ensures v.freeze.numbered fun x => x.Natural lax ∧ v.Trimmed strips x := by
  have stays {x : Datum} (hx : x.Natural lax) (ht : v.Trimmed strips x) :
      plans.Ensures x.numbered fun x => x.Natural lax ∧ v.Trimmed strips x := by
    rw [hx.numbered]
    exact .pure ⟨hx, ht⟩
  cases h with
  | @list access items ha h =>
    refine .bind (Access.new_numbered plans) fun r hr => ?_
    rw [numberedItems_natural h, pure_bind]
    exact .pure ⟨.list hr h, .ofItems (forall₂_same items)⟩
  | @dict access entries ha keys hk hv =>
    cases access with
    | readOnly id => exact stays (.dict ha keys hk hv) (.same _)
    | free =>
      refine .bind (Access.new_numbered plans) fun r hr => ?_
      rw [numberedEntries_natural hk hv, pure_bind]
      exact .pure ⟨.dict hr keys hk hv, .ofEntries ⟨keys, hk, hv⟩ (.same keys.nodup)⟩
  | set keys h => exact stays (.set keys h) (.set fun _ => rfl)
  | none => exact stays .none (.same _)
  | bool b => exact stays (.bool b) (.same _)
  | int i => exact stays (.int i) (.same _)
  | float h => exact stays (.float h) (.same _)
  | str s => exact stays (.str s) (.same _)
  | bytes bs => exact stays (.bytes bs) (.same _)
  | tuple h => exact stays (.tuple h) (.same _)
  | live h => exact stays (.live h) (.same _)
  | missing h => exact stays (.missing h) (.same _)
  | invalid h => exact stays (.invalid h) (.same _)

end Value

/-! ## Merging -/

section
variable {strips : Prop}

/-- The second list has trimmed, natural items of the first. -/
abbrev TrimsItems (lax strips : Prop) (items items' : List Datum) : Prop :=
  List.Forall₂ (fun v x => x.Natural lax ∧ v.Trimmed strips x) items items'

theorem TrimsItems.natural {items items' : List Datum}
    (h : TrimsItems lax strips items items') : ∀ x ∈ items', x.Natural lax := by
  induction h with
  | nil => exact List.forall_mem_nil _
  | cons first _ ih => exact List.forall_mem_cons.2 ⟨first.1, ih⟩

theorem TrimsItems.trimmed {items items' : List Datum}
    (h : TrimsItems lax strips items items') :
    List.Forall₂ (Value.Trimmed strips) items items' := h.imp fun _ _ h => h.2

theorem TrimsItems.of_trimmed {items items' : List Datum}
    (h : List.Forall₂ (Value.Trimmed strips) items items')
    (hg : ∀ x ∈ items', x.Natural lax) :
    TrimsItems lax strips items items' := by
  induction h with
  | nil => exact .nil
  | cons first _ ih =>
    obtain ⟨hx, hxs⟩ := List.forall_mem_cons.1 hg
    exact .cons ⟨hx, first⟩ (ih hxs)

/-- An entry has a trimmed, natural value of what stands under its key. -/
def TrimsEntry (lax strips : Prop) (entries : Entries Live) (e : Datum × Datum) : Prop :=
  e.2.Natural lax ∧ ∃ v, (e.1, v) ∈ entries ∧ v.Trimmed strips e.2

theorem TrimsEntry.mem_keys {entries : Entries Live} {e : Datum × Datum}
    (h : TrimsEntry lax strips entries e) : e.1 ∈ entries.map (·.1) := by
  obtain ⟨-, v, hv, -⟩ := h
  exact List.mem_map.2 ⟨(e.1, v), hv, rfl⟩

theorem TrimsEntry.weaken {entries more : Entries Live} {e : Datum × Datum} {strips' : Prop}
    (h : TrimsEntry lax strips entries e) (hs : strips → strips') (he : entries ⊆ more) :
    TrimsEntry lax strips' more e := by
  obtain ⟨natural, v, hv, trimmed⟩ := h
  exact ⟨natural, v, he hv, trimmed.weaken hs⟩

/-- A natural mapping made of trimmed entries. -/
theorem Value.trimmed_of_entries {access access' : Access} {entries entries' : Entries Live}
    (ha : access'.numbered = pure access') (hg : entries.Natural lax)
    (nodup : (entries'.map (·.1)).Nodup) (h : ∀ e ∈ entries', TrimsEntry lax strips entries e)
    (all : strips ∨ ∀ e ∈ entries, e.1 ∈ entries'.map (·.1)) :
    (Value.dict access' entries').Natural lax ∧
      (Value.dict access entries).Trimmed strips (.dict access' entries') := by
  have known : entries'.map (·.1) ⊆ entries.map (·.1) := by
    intro k hk
    obtain ⟨e, he, rfl⟩ := List.mem_map.1 hk
    exact (h e he).mem_keys
  refine ⟨.dict ha (hg.keys.subset nodup known) (fun e he => ?_) fun e he => (h e he).1, ?_⟩
  · obtain ⟨-, v, hv, -⟩ := h e he
    exact hg.key (e.1, v) hv
  · exact .ofEntries hg ⟨nodup, fun e he => (h e he).2, all⟩

mutual

/-- Two trimmed forms of a value merge into one. -/
theorem merge_trimmed : ∀ {x y z v : Datum}, merge x y = some z → v.Natural lax →
    x.Natural lax → y.Natural lax → v.Trimmed strips x → v.Trimmed strips y →
    z.Natural lax ∧ v.Trimmed strips z
  | .list r xs, y, z, v, hz, hv, hx, hy, left, right => by
    unfold merge at hz
    split at hz
    · exact Option.some.inj hz ▸ ⟨hx, left⟩
    · split at hz
      · split at hz
        · obtain ⟨zs, hzs, rfl⟩ := Option.map_eq_some_iff.1 hz
          obtain ⟨access, vs, rfl, lefts⟩ := left.to_list
          obtain ⟨_, _, ⟨⟩, rights⟩ := right.to_list
          have merged := mergeItems_trimmed hzs (Value.natural_list.1 hv).2
            (.of_trimmed lefts (Value.natural_list.1 hx).2)
            (.of_trimmed rights (Value.natural_list.1 hy).2)
          exact ⟨.list rfl merged.natural, .ofItems merged.trimmed⟩
        · cases hz
      · cases hz
  | .dict r xs, y, z, v, hz, hv, hx, hy, left, right => by
    unfold merge at hz
    split at hz
    · exact Option.some.inj hz ▸ ⟨hx, left⟩
    · split at hz
      · rename_i ys differ
        obtain ⟨zs, hzs, rfl⟩ := Option.map_eq_some_iff.1 hz
        obtain ⟨access, entries, rfl, first⟩ := left.to_dict hv
        obtain ⟨_, _, ⟨⟩, second⟩ := right.to_dict hv
        have hg := (Value.natural_dict.1 hv).2
        have lefts (e) (he : e ∈ xs) : TrimsEntry lax strips entries e :=
          ⟨(Value.natural_dict.1 hx).2.value e he, first.kept e he⟩
        have rights (e) (he : e ∈ ys) : TrimsEntry lax strips entries e :=
          ⟨(Value.natural_dict.1 hy).2.value e he, second.kept e he⟩
        obtain ⟨same, merged⟩ := mergeEntries_trimmed hzs hg lefts rights
        refine Value.trimmed_of_entries rfl hg ?_ ?_ ?_
        · rw [List.map_append, same]
          refine first.nodup.append (second.nodup.sublist (List.filter_sublist.map _)) ?_
          -- a key of both sides agrees with itself
          intro k hk hl
          obtain ⟨e, he, rfl⟩ := List.mem_map.1 hk
          obtain ⟨f, hf, hef⟩ := List.mem_map.1 hl
          obtain ⟨hf, absent⟩ := List.mem_filter.1 hf
          have itself := hg.keys.apart _ (lefts e he).mem_keys _ (rights f hf).mem_keys
          simp only [Bool.not_eq_true', List.any_eq_false] at absent
          exact absent e he (itself.2 hef.symm)
        · refine List.forall_mem_append.2 ⟨merged, fun e he => rights e ?_⟩
          exact (List.mem_filter.1 he).1
        · refine first.all.imp_right fun all e he => ?_
          rw [List.map_append, same]
          exact List.mem_append_left _ (all e he)
      · cases hz
  | .none, y, z, v, hz, _, hx, _, left, _ | .bool _, y, z, v, hz, _, hx, _, left, _
  | .int _, y, z, v, hz, _, hx, _, left, _ | .float _, y, z, v, hz, _, hx, _, left, _
  | .str _, y, z, v, hz, _, hx, _, left, _ | .bytes _, y, z, v, hz, _, hx, _, left, _
  | .tuple _, y, z, v, hz, _, hx, _, left, _ | .set _ _, y, z, v, hz, _, hx, _, left, _
  | .missing, y, z, v, hz, _, hx, _, left, _ | .invalid, y, z, v, hz, _, hx, _, left, _
  | .live _, y, z, v, hz, _, hx, _, left, _ => by
    rw [merge] at hz
    · split at hz
      · exact Option.some.inj hz ▸ ⟨hx, left⟩
      · cases hz
    all_goals exact nofun

theorem mergeItems_trimmed : ∀ {xs ys zs vs : List Datum}, mergeItems xs ys = some zs →
    (∀ v ∈ vs, v.Natural lax) → TrimsItems lax strips vs xs →
    TrimsItems lax strips vs ys → TrimsItems lax strips vs zs
  | [], ys, zs, vs, hz, _, left, _ => by
    rw [mergeItems] at hz
    · cases left
      exact Option.some.inj hz ▸ .nil
    · exact nofun
  | x :: xs, ys, zs, vs, hz, hv, left, right => by
    cases left with
    | cons left lefts =>
      cases right with
      | cons right rights =>
        obtain ⟨hv, hvs⟩ := List.forall_mem_cons.1 hv
        rw [mergeItems] at hz
        split at hz
        · rename_i hm hms
          cases hz
          exact .cons (merge_trimmed hm hv left.1 right.1 left.2 right.2)
            (mergeItems_trimmed hms hvs lefts rights)
        · cases hz

theorem mergeEntries_trimmed : ∀ {xs ys zs entries : Entries Live}, mergeEntries xs ys = some zs →
    entries.Natural lax → (∀ e ∈ xs, TrimsEntry lax strips entries e) →
    (∀ e ∈ ys, TrimsEntry lax strips entries e) →
    zs.map (·.1) = xs.map (·.1) ∧ ∀ e ∈ zs, TrimsEntry lax strips entries e
  | [], ys, zs, entries, hz, _, _, _ => by
    rw [mergeEntries] at hz
    exact Option.some.inj hz ▸ ⟨rfl, List.forall_mem_nil _⟩
  | (k, x) :: xs, ys, zs, entries, hz, hg, left, right => by
    obtain ⟨first, lefts⟩ := List.forall_mem_cons.1 left
    rw [mergeEntries] at hz
    split at hz
    · rename_i w rest hm hms
      obtain ⟨same, merged⟩ := mergeEntries_trimmed hms hg lefts right
      have entry : TrimsEntry lax strips entries (k, w) := by
        split at hm
        · rename_i e he
          have other := right e (List.mem_of_find?_eq_some he)
          have agree : k.agrees e.1 = true := by simpa using List.find?_some he
          have key : k = e.1 := (hg.keys.apart _ first.mem_keys _ other.mem_keys).1 agree
          obtain ⟨hx, v, hv, trimmed⟩ := first
          obtain ⟨hy, v', hv', trimmed'⟩ := other
          cases hg.unique hv (key ▸ hv')
          have both := merge_trimmed hm (hg.value _ hv) hx hy trimmed trimmed'
          exact ⟨both.1, v, hv, both.2⟩
        · exact Option.some.inj hm ▸ first
      cases hz
      exact ⟨congrArg (k :: ·) same, List.forall_mem_cons.2 ⟨entry, merged⟩⟩
    · cases hz

end
end
end
end TwoWay
