import TwoWay.Parse.Engine
import TwoWay.Proofs.Forcing.Ensuring

/-!
# What values hold

An `Allowance` says what may occur in values at any depth: sentinels, awaitables of effects,
awaitables that parse with certain schemas. Values that keep to it are still such values after
freezing, merging, writing under a key and numbering.

An awaitable holds what it gives: a promise its value, a call its arguments.
-/

namespace TwoWay

/-- What may occur in values. -/
structure Allowance where
  sentinels : Prop
  /-- The effects whose awaitables may occur. These report where they were made. -/
  effects : FunctionRef → Prop
  /-- The schemas that awaitables may parse with. -/
  schemas : Schema → Prop

mutual

/-- A value in which nothing occurs that is not allowed. -/
inductive Value.Keeps (a : Allowance) : Datum → Prop
  | none : Value.Keeps a .none
  | bool (b : Bool) : Value.Keeps a (.bool b)
  | int (i : Int) : Value.Keeps a (.int i)
  | float (d : Double) : Value.Keeps a (.float d)
  | str (s : String) : Value.Keeps a (.str s)
  | bytes (bs : List UInt8) : Value.Keeps a (.bytes bs)
  | list {access : Access} {items : List Datum} (h : ∀ x ∈ items, Value.Keeps a x) :
    Value.Keeps a (.list access items)
  | tuple {items : List Datum} (h : ∀ x ∈ items, Value.Keeps a x) : Value.Keeps a (.tuple items)
  | dict {access : Access} {entries : Entries Live} (hk : ∀ e ∈ entries, Value.Keeps a e.1)
    (hv : ∀ e ∈ entries, Value.Keeps a e.2) : Value.Keeps a (.dict access entries)
  | set {readOnly : Bool} {items : List Datum} (h : ∀ x ∈ items, Value.Keeps a x) :
    Value.Keeps a (.set readOnly items)
  | missing (h : a.sentinels) : Value.Keeps a .missing
  | invalid (h : a.sentinels) : Value.Keeps a .invalid
  | live {x : Live} (h : Live.Keeps a x) : Value.Keeps a (.live x)

/-- A function, or an awaitable that gives only what is allowed. -/
inductive Live.Keeps (a : Allowance) : Live → Prop
  | function (fn : FunctionRef) : Live.Keeps a (.function fn)
  | guarded (id : Identity) (items : List Schema) (rest : Option Schema) (returns : Schema)
    (target : Live) : Live.Keeps a (.guarded id items rest returns target)
  | promise {id : Nat} {suspends : Bool} {v : Datum} (h : Value.Keeps a v) :
    Live.Keeps a (.promise id suspends v)
  | pending {id : Identity} {inner : Schema} {awaited : Live} (hs : a.schemas inner)
    (h : Live.Keeps a awaited) : Live.Keeps a (.pending id inner awaited)
  | running {id : Identity} {fn : FunctionRef} {args : List Datum}
    (h : ∀ x ∈ args, Value.Keeps a x) : Live.Keeps a (.running id fn args)
  | working {id : Identity} {fn : FunctionRef} {path : Path Live} {v : Datum}
    (he : a.effects fn) (h : Value.Keeps a v) : Live.Keeps a (.working id fn path v)

end

variable {a : Allowance}

/-- Entries whose keys and values keep to an allowance. -/
def Entries.Keeps (a : Allowance) (entries : Entries Live) : Prop :=
  ∀ e ∈ entries, e.1.Keeps a ∧ e.2.Keeps a

namespace Value

@[simp] theorem keeps_list {access : Access} {items : List Datum} :
    (Value.list access items).Keeps a ↔ ∀ x ∈ items, x.Keeps a :=
  ⟨fun h => by cases h; assumption, .list⟩

@[simp] theorem keeps_tuple {items : List Datum} :
    (Value.tuple items).Keeps a ↔ ∀ x ∈ items, x.Keeps a :=
  ⟨fun h => by cases h; assumption, .tuple⟩

@[simp] theorem keeps_set {readOnly : Bool} {items : List Datum} :
    (Value.set readOnly items).Keeps a ↔ ∀ x ∈ items, x.Keeps a :=
  ⟨fun h => by cases h; assumption, .set⟩

@[simp] theorem keeps_dict {access : Access} {entries : Entries Live} :
    (Value.dict access entries).Keeps a ↔ entries.Keeps a :=
  ⟨fun h => by cases h with | dict hk hv => exact fun e he => ⟨hk e he, hv e he⟩,
    fun h => .dict (fun e he => (h e he).1) fun e he => (h e he).2⟩

@[simp] theorem keeps_live {x : Live} : (Value.live x : Datum).Keeps a ↔ x.Keeps a :=
  ⟨fun h => by cases h; assumption, .live⟩

@[simp] theorem keeps_missing : (Value.missing : Datum).Keeps a ↔ a.sentinels :=
  ⟨fun h => by cases h; assumption, .missing⟩

@[simp] theorem keeps_invalid : (Value.invalid : Datum).Keeps a ↔ a.sentinels :=
  ⟨fun h => by cases h; assumption, .invalid⟩

theorem Keeps.freeze {v : Datum} (h : v.Keeps a) : v.freeze.Keeps a := by
  cases h with
  | list h => exact .list h
  | set h => exact .set h
  | dict hk hv =>
    rename_i access _
    cases access <;> exact .dict hk hv
  | none => exact .none
  | bool b => exact .bool b
  | int i => exact .int i
  | float d => exact .float d
  | str s => exact .str s
  | bytes bs => exact .bytes bs
  | tuple h => exact .tuple h
  | missing h => exact .missing h
  | invalid h => exact .invalid h
  | live h => exact .live h

end Value

theorem Entries.Keeps.put {entries : Entries Live} (h : entries.Keeps a) {k v : Datum}
    (hk : k.Keeps a) (hv : v.Keeps a) : (entries.put k v).Keeps a := by
  induction entries with
  | nil =>
    intro e he
    rw [Entries.put, List.mem_singleton] at he
    exact he ▸ ⟨hk, hv⟩
  | cons first rest ih =>
    obtain ⟨hfirst, hrest⟩ := List.forall_mem_cons.1 h
    rw [Entries.put]
    split
    · exact List.forall_mem_cons.2 ⟨⟨hfirst.1, hv⟩, hrest⟩
    · exact List.forall_mem_cons.2 ⟨hfirst, ih hrest⟩

theorem valueAt_keeps {entries : Entries Live} (h : entries.Keeps a) (key : String) :
    (valueAt entries key).Keeps a ∨ valueAt entries key = .missing := by
  unfold valueAt Entries.get?
  cases hf : entries.find? fun e => e.1.agrees (.str key) with
  | none => exact .inr rfl
  | some e => exact .inl (h e (List.mem_of_find?_eq_some hf)).2

/-- A set keeps items, and makes none. -/
theorem mem_of_mem_distinct {items : List Datum} {x : Datum} (h : x ∈ distinct items) :
    x ∈ items := by
  have grows (kept : List Datum) : ∀ x ∈ items.foldl
      (fun kept x => if kept.any (·.agrees x) then kept else kept ++ [x]) kept,
      x ∈ kept ∨ x ∈ items := by
    clear h
    induction items generalizing kept with
    | nil => exact fun x hx => .inl hx
    | cons y rest ih =>
      intro x hx
      rw [List.foldl_cons] at hx
      rcases ih _ x hx with hx | hx
      · split at hx
        · exact .inl hx
        · rcases List.mem_append.1 hx with hx | hx
          · exact .inl hx
          · exact .inr (List.mem_cons.2 (.inl (List.mem_singleton.1 hx)))
      · exact .inr (List.mem_cons.2 (.inr hx))
  rcases grows [] x h with hx | hx
  · cases hx
  · exact hx

/-! ## Merging -/

mutual

theorem merge_keeps : ∀ {v w z : Datum}, merge v w = some z → v.Keeps a → w.Keeps a → z.Keeps a
  | .list r xs, w, z, hz, hv, hw => by
    unfold merge at hz
    split at hz
    · exact Option.some.inj hz ▸ hv
    · split at hz
      · split at hz
        · obtain ⟨zs, hzs, rfl⟩ := Option.map_eq_some_iff.1 hz
          exact .list (mergeItems_keeps hzs (Value.keeps_list.1 hv) (Value.keeps_list.1 hw))
        · cases hz
      · cases hz
  | .dict r xs, w, z, hz, hv, hw => by
    unfold merge at hz
    split at hz
    · exact Option.some.inj hz ▸ hv
    · split at hz
      · obtain ⟨zs, hzs, rfl⟩ := Option.map_eq_some_iff.1 hz
        have hys := Value.keeps_dict.1 hw
        refine Value.keeps_dict.2 fun e he => ?_
        rcases List.mem_append.1 he with he | he
        · exact mergeEntries_keeps hzs (Value.keeps_dict.1 hv) hys e he
        · exact hys e (List.mem_filter.1 he).1
      · cases hz
  | .none, w, z, hz, hv, _ | .bool _, w, z, hz, hv, _ | .int _, w, z, hz, hv, _
  | .float _, w, z, hz, hv, _ | .str _, w, z, hz, hv, _ | .bytes _, w, z, hz, hv, _
  | .tuple _, w, z, hz, hv, _ | .set _ _, w, z, hz, hv, _ | .missing, w, z, hz, hv, _
  | .invalid, w, z, hz, hv, _ | .live _, w, z, hz, hv, _ => by
    rw [merge] at hz
    · split at hz
      · exact Option.some.inj hz ▸ hv
      · cases hz
    all_goals exact nofun

theorem mergeItems_keeps : ∀ {xs ys zs : List Datum}, mergeItems xs ys = some zs →
    (∀ x ∈ xs, x.Keeps a) → (∀ y ∈ ys, y.Keeps a) → ∀ z ∈ zs, z.Keeps a
  | [], ys, zs, hz, _, _ => by
    rw [mergeItems] at hz
    · exact Option.some.inj hz ▸ nofun
    · exact nofun
  | x :: xs, [], zs, hz, _, _ => by
    rw [mergeItems] at hz
    · exact Option.some.inj hz ▸ nofun
    · exact nofun
  | x :: xs, y :: ys, zs, hz, hx, hy => by
    obtain ⟨hx, hxs⟩ := List.forall_mem_cons.1 hx
    obtain ⟨hy, hys⟩ := List.forall_mem_cons.1 hy
    rw [mergeItems] at hz
    split at hz
    · rename_i hm hms
      exact Option.some.inj hz ▸
        List.forall_mem_cons.2 ⟨merge_keeps hm hx hy, mergeItems_keeps hms hxs hys⟩
    · cases hz

theorem mergeEntries_keeps : ∀ {xs ys zs : Entries Live}, mergeEntries xs ys = some zs →
    xs.Keeps a → ys.Keeps a → Entries.Keeps a zs
  | [], ys, zs, hz, _, _ => by
    rw [mergeEntries] at hz
    exact Option.some.inj hz ▸ nofun
  | (k, v) :: xs, ys, zs, hz, hx, hy => by
    obtain ⟨⟨hk, hv⟩, hxs⟩ := List.forall_mem_cons.1 hx
    rw [mergeEntries] at hz
    split at hz
    · rename_i w rest hm hms
      have hw : w.Keeps a := by
        split at hm
        · rename_i e he
          exact merge_keeps hm hv (hy e (List.mem_of_find?_eq_some he)).2
        · exact Option.some.inj hm ▸ hv
      exact Option.some.inj hz ▸ List.forall_mem_cons.2 ⟨⟨hk, hw⟩, mergeEntries_keeps hms hxs hy⟩
    · cases hz

end

/-! ## Numbering -/

section
variable {plans : Plans}

theorem Identity.numbered_ensures (id : Identity) : plans.Ensures id.numbered fun _ => True := by
  cases id with
  | new => exact Plans.Ensures.identity
  | given n | made n => exact Plans.Ensures.pure trivial

theorem Live.Keeps.numbered {x : Live} (h : x.Keeps a) : plans.Ensures x.numbered (·.Keeps a) := by
  cases h with
  | running h => exact .bind (Identity.numbered_ensures _) fun _ _ => .pure (.running h)
  | working he h => exact .bind (Identity.numbered_ensures _) fun _ _ => .pure (.working he h)
  | function fn => exact .pure (.function fn)
  | guarded id items rest returns target => exact .pure (.guarded id items rest returns target)
  | promise h => exact .pure (.promise h)
  | pending hs h => exact .pure (.pending hs h)

mutual

theorem Value.numbered_ensures : ∀ v : Datum, v.Keeps a → plans.Ensures v.numbered (·.Keeps a)
  | .float d, _ => by
    cases d with
    | nan id =>
      exact .bind (.bind (Identity.numbered_ensures id) fun _ _ => .pure trivial)
        fun d (_ : True) => .pure (.float d)
    | _ => exact .pure (.float _)
  | .list r items, h => by
    have hr : plans.Ensures r.numbered fun _ => True := by
      cases r with
      | free => exact .pure trivial
      | readOnly id => exact .bind (Identity.numbered_ensures id) fun _ _ => .pure trivial
    exact .bind hr fun _ _ =>
      .bind (numberedItems_ensures items (keeps_list.1 h)) fun _ hxs => .pure (.list hxs)
  | .tuple items, h =>
    .bind (numberedItems_ensures items (keeps_tuple.1 h)) fun _ hxs => .pure (.tuple hxs)
  | .dict r entries, h => by
    have hr : plans.Ensures r.numbered fun _ => True := by
      cases r with
      | free => exact .pure trivial
      | readOnly id => exact .bind (Identity.numbered_ensures id) fun _ _ => .pure trivial
    exact .bind hr fun _ _ =>
      .bind (numberedEntries_ensures entries (keeps_dict.1 h)) fun _ hes =>
        .pure (keeps_dict.2 hes)
  | .set r items, h =>
    .bind (numberedItems_ensures items (keeps_set.1 h)) fun _ hxs => .pure (.set hxs)
  | .live x, h => .bind (keeps_live.1 h).numbered fun _ hx => .pure (.live hx)
  | .none, h | .bool _, h | .int _, h | .str _, h | .bytes _, h | .missing, h | .invalid, h =>
    .pure h

theorem Value.numberedItems_ensures : ∀ items : List Datum, (∀ x ∈ items, x.Keeps a) →
    plans.Ensures (numberedItems items) fun xs => ∀ x ∈ xs, x.Keeps a
  | [], _ => .pure nofun
  | x :: rest, h => by
    obtain ⟨hx, hrest⟩ := List.forall_mem_cons.1 h
    exact .bind (numbered_ensures x hx) fun _ hy =>
      .bind (numberedItems_ensures rest hrest) fun _ hys => .pure (List.forall_mem_cons.2 ⟨hy, hys⟩)

theorem Value.numberedEntries_ensures : ∀ entries : Entries Live, entries.Keeps a →
    plans.Ensures (numberedEntries entries) (Entries.Keeps a)
  | [], _ => .pure nofun
  | (k, v) :: rest, h => by
    obtain ⟨⟨hk, hv⟩, hrest⟩ := List.forall_mem_cons.1 h
    exact .bind (numbered_ensures k hk) fun _ hk => .bind (numbered_ensures v hv) fun _ hv =>
      .bind (numberedEntries_ensures rest hrest) fun _ hes =>
        .pure (List.forall_mem_cons.2 ⟨⟨hk, hv⟩, hes⟩)

end
end
end TwoWay
