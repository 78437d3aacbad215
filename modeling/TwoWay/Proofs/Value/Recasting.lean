import TwoWay.Parse.Merge
import TwoWay.Value.Quoted
import Mathlib.Logic.Function.Basic

/-!
# Recasting

Identities tell values apart and do nothing else, and the schemas of checked functions and of
awaitables are not looked at before these are used. So whatever is done with values, the identities
made during a run can be renamed and the schemas replaced before or after, as long as different
identities stay different.
-/

namespace TwoWay

/-- Renames what was made during a run. -/
def Identity.rename (ρ : Nat → Nat) : Identity → Identity
  | .made n => .made (ρ n)
  | id => id

def Double.rename (ρ : Nat → Nat) : Double → Double
  | .nan id => .nan (id.rename ρ)
  | d => d

def Access.rename (ρ : Nat → Nat) : Access → Access
  | .readOnly id => .readOnly (id.rename ρ)
  | .free => .free

mutual

/-- Renames the identities in a value and replaces the schemas of its handles. -/
def Value.recast (ρ : Nat → Nat) (σ : Schema → Schema) : Datum → Datum
  | .float d => .float (d.rename ρ)
  | .list r items => .list (r.rename ρ) (Value.recastItems ρ σ items)
  | .tuple items => .tuple (Value.recastItems ρ σ items)
  | .dict r entries => .dict (r.rename ρ) (Value.recastEntries ρ σ entries)
  | .set r items => .set r (Value.recastItems ρ σ items)
  | .live x => .live (x.recast ρ σ)
  | .none => .none
  | .bool b => .bool b
  | .int i => .int i
  | .str s => .str s
  | .bytes bs => .bytes bs
  | .missing => .missing
  | .invalid => .invalid
  termination_by structural v => v

def Value.recastItems (ρ : Nat → Nat) (σ : Schema → Schema) : List Datum → List Datum
  | [] => []
  | x :: rest => Value.recast ρ σ x :: Value.recastItems ρ σ rest
  termination_by structural xs => xs

def Value.recastEntries (ρ : Nat → Nat) (σ : Schema → Schema) :
    List (Datum × Datum) → List (Datum × Datum)
  | [] => []
  | (k, v) :: rest => (Value.recast ρ σ k, Value.recast ρ σ v) :: Value.recastEntries ρ σ rest
  termination_by structural es => es

def Live.recast (ρ : Nat → Nat) (σ : Schema → Schema) : Live → Live
  | .function fn => .function fn
  | .guarded id items rest returns target =>
    .guarded (id.rename ρ) (items.map σ) (rest.map σ) (σ returns) (Live.recast ρ σ target)
  | .promise id suspends v => .promise id suspends (Value.recast ρ σ v)
  | .pending id inner awaited => .pending (id.rename ρ) (σ inner) (Live.recast ρ σ awaited)
  | .running id fn args => .running (id.rename ρ) fn (Value.recastItems ρ σ args)
  | .working id fn path v =>
    .working (id.rename ρ) fn (Value.recastItems ρ σ path) (Value.recast ρ σ v)
  termination_by structural x => x

end

/-- Recasts a key and its value. -/
def Value.recastEntry (ρ : Nat → Nat) (σ : Schema → Schema) (e : Datum × Datum) : Datum × Datum :=
  (e.1.recast ρ σ, e.2.recast ρ σ)

attribute [simp] Value.recast Live.recast Value.recastEntry

variable {ρ : Nat → Nat} {σ : Schema → Schema}

@[simp] theorem Identity.rename_new : Identity.new.rename ρ = .new := rfl

@[simp] theorem Identity.rename_id (i : Identity) : i.rename id = i := by cases i <;> rfl

@[simp] theorem Double.rename_id (d : Double) : d.rename id = d := by
  cases d <;> simp [Double.rename]

@[simp] theorem Access.rename_id (r : Access) : r.rename id = r := by
  cases r <;> simp [Access.rename]

@[simp] theorem Value.recastItems_eq (items : List Datum) :
    Value.recastItems ρ σ items = items.map (Value.recast ρ σ) := by
  induction items with
  | nil => rfl
  | cons x rest ih => rw [Value.recastItems, ih, List.map_cons]

@[simp] theorem Value.recastEntries_eq (entries : Entries Live) :
    Value.recastEntries ρ σ entries = entries.map (Value.recastEntry ρ σ) := by
  induction entries with
  | nil => rfl
  | cons e rest ih => rw [Value.recastEntries, ih, List.map_cons, Value.recastEntry]

/-! ## What does not depend on identities -/

@[simp] theorem Double.place?_rename (d : Double) : (d.rename ρ).place? = d.place? := by
  cases d <;> rfl

@[simp] theorem Access.isReadOnly_rename (r : Access) :
    (r.rename ρ).isReadOnly = r.isReadOnly := by
  cases r <;> rfl

@[simp] theorem Live.typeName_recast (x : Live) : (x.recast ρ σ).typeName = x.typeName := by
  cases x <;> rfl

@[simp] theorem Live.isCallable_recast (x : Live) : (x.recast ρ σ).isCallable = x.isCallable := by
  cases x <;> rfl

@[simp] theorem Live.isAwaitable_recast (x : Live) :
    (x.recast ρ σ).isAwaitable = x.isAwaitable := by
  simp [Live.isAwaitable]

theorem Live.identity_recast (x : Live) : (x.recast ρ σ).identity = x.identity.rename ρ := by
  cases x <;> simp [Live.identity]

namespace Value

@[simp] theorem typeName_recast (v : Datum) : (v.recast ρ σ).typeName = v.typeName := by
  cases v <;> simp [typeName, Handle.typeName]

@[simp] theorem received_recast (v : Datum) : (v.recast ρ σ).received = v.received := by
  cases v <;> simp [received, typeName, Handle.typeName]

@[simp] theorem isMissing_recast (v : Datum) : (v.recast ρ σ).isMissing = v.isMissing := by
  cases v <;> rfl

@[simp] theorem isInvalid_recast (v : Datum) : (v.recast ρ σ).isInvalid = v.isInvalid := by
  cases v <;> rfl

@[simp] theorem isNone_recast (v : Datum) : (v.recast ρ σ).isNone = v.isNone := by
  cases v <;> rfl

@[simp] theorem truthy_recast (v : Datum) : (v.recast ρ σ).truthy = v.truthy := by
  rcases v with _ | _ | _ | (_ | _ | _) | _ | _ | _ | _ | _ | _ | _ | _ | _ <;>
    simp [truthy, Double.rename]

@[simp] theorem place?_recast (v : Datum) : (v.recast ρ σ).place? = v.place? := by
  cases v
  case float d => exact Double.place?_rename d
  all_goals rfl

@[simp] theorem samePlace_recast (a b : Datum) :
    (a.recast ρ σ).samePlace (b.recast ρ σ) = a.samePlace b := by
  simp [samePlace]

theorem freeze_recast (v : Datum) : (v.recast ρ σ).freeze = v.freeze.recast ρ σ := by
  rcases v with _ | _ | _ | _ | _ | _ | _ | _ | ⟨_ | _, _⟩ | _ | _ | _ | _ <;>
    simp [freeze, Access.rename]

mutual

theorem quoted_recast : ∀ v : Datum, (v.recast ρ σ).quoted = v.quoted
  | .float d => by cases d <;> rfl
  | .list _ items => by simp [quoted, quotedItems_recast items]
  | .tuple items => by simp [quoted, quotedItems_recast items]
  | .dict _ entries => by simp [quoted, dictText, quotedEntries_recast entries]
  | .set _ items => by simp [quoted, quotedItems_recast items]
  | .live x => by simp [quoted, Handle.typeName]
  | .none | .bool _ | .int _ | .str _ | .bytes _ | .missing | .invalid => rfl

theorem quotedItems_recast : ∀ items : List Datum,
    quotedItems (items.map (recast ρ σ)) = quotedItems items
  | [] => rfl
  | x :: rest => by simp [quotedItems, quoted_recast x, quotedItems_recast rest]

theorem quotedEntries_recast : ∀ entries : Entries Live,
    quotedEntries (entries.map (recastEntry ρ σ)) = quotedEntries entries
  | [] => rfl
  | (k, v) :: rest => by
    simp [quotedEntries, quoted_recast k, quoted_recast v, quotedEntries_recast rest]

end

mutual

theorem unhashable?_recast : ∀ v : Datum, (v.recast ρ σ).unhashable? = v.unhashable?
  | .tuple items => by simp [unhashable?, unhashableItem?_recast items]
  | .list r _ => by simp [unhashable?, typeName]
  | .dict r _ => by simp [unhashable?, typeName]
  | .set true _ | .set false _ => rfl
  | .float _ | .live _ | .none | .bool _ | .int _ | .str _ | .bytes _ | .missing | .invalid => rfl

theorem unhashableItem?_recast : ∀ items : List Datum,
    unhashableItem? (items.map (recast ρ σ)) = unhashableItem? items
  | [] => rfl
  | x :: rest => by simp [unhashableItem?, unhashable?_recast x, unhashableItem?_recast rest]

end

attribute [simp] quoted_recast unhashable?_recast

end Value

/-! ## What tells identities apart -/

section

variable (hρ : Function.Injective ρ)

include hρ

theorem Identity.same_rename (i j : Identity) : (i.rename ρ).same (j.rename ρ) = i.same j := by
  rw [Bool.eq_iff_iff]
  cases i <;> cases j <;> simp [Identity.rename, Identity.same, hρ.eq_iff]

theorem Double.sameNan_rename (d e : Double) :
    (d.rename ρ).sameNan (e.rename ρ) = d.sameNan e := by
  cases d <;> cases e <;> simp only [Double.rename, Double.sameNan]
  exact Identity.same_rename hρ _ _

theorem Access.same_rename (r q : Access) : (r.rename ρ).same (q.rename ρ) = r.same q := by
  cases r <;> cases q <;> simp only [Access.rename, Access.same]
  exact Identity.same_rename hρ _ _

theorem Live.same_recast (x y : Live) : (x.recast ρ σ).same (y.recast ρ σ) = x.same y := by
  have others : (x.recast ρ σ).identity.same (y.recast ρ σ).identity =
      x.identity.same y.identity := by
    rw [Live.identity_recast, Live.identity_recast]
    exact Identity.same_rename hρ _ _
  cases x <;> cases y <;> first | exact others | rfl

namespace Value

theorem sameNan_recast (a b : Datum) : (a.recast ρ σ).sameNan (b.recast ρ σ) = a.sameNan b := by
  cases a <;> cases b <;> simp only [recast, sameNan]
  exact Double.sameNan_rename hρ _ _

mutual

theorem equal_recast : ∀ a b : Datum, (a.recast ρ σ).equal (b.recast ρ σ) = a.equal b
  | .list _ xs, b => by
    cases b
    case list => simp [equal, equalItems_recast xs]
    all_goals rfl
  | .tuple xs, b => by
    cases b
    case tuple => simp [equal, equalItems_recast xs]
    all_goals rfl
  | .dict _ xs, b => by
    cases b
    case dict => simp [equal, entriesIn_recast xs]
    all_goals rfl
  | .set _ xs, b => by
    cases b
    case set => simp [equal, itemsIn_recast xs]
    all_goals rfl
  | .live x, b => by
    cases b
    case live => simp [equal, Handle.same, Live.same_recast hρ]
    all_goals rfl
  | .none, b | .bool _, b | .int _, b | .float _, b | .str _, b | .bytes _, b | .missing, b
  | .invalid, b => by
    cases b <;> first | rfl | exact samePlace_recast _ _

theorem equalItems_recast : ∀ xs ys : List Datum,
    equalItems (xs.map (recast ρ σ)) (ys.map (recast ρ σ)) = equalItems xs ys
  | [], ys => by cases ys <;> simp [equalItems]
  | x :: xs, ys => by
    cases ys <;> simp [equalItems, equal_recast x, equalItems_recast xs, sameNan_recast hρ x]

theorem entriesIn_recast : ∀ xs ys : Entries Live,
    entriesIn (xs.map (recastEntry ρ σ)) (ys.map (recastEntry ρ σ)) = entriesIn xs ys
  | [], _ => by simp [entriesIn]
  | (k, v) :: xs, ys => by
    simp [entriesIn, entriesIn_recast xs, List.any_map, Function.comp_def, equal_recast k,
      equal_recast v, sameNan_recast hρ]

theorem itemsIn_recast : ∀ xs ys : List Datum,
    itemsIn (xs.map (recast ρ σ)) (ys.map (recast ρ σ)) = itemsIn xs ys
  | [], _ => by simp [itemsIn]
  | x :: xs, ys => by
    simp [itemsIn, itemsIn_recast xs, List.any_map, Function.comp_def, equal_recast x,
      sameNan_recast hρ]

end

theorem agrees_recast (a b : Datum) : (a.recast ρ σ).agrees (b.recast ρ σ) = a.agrees b := by
  simp [agrees, equal_recast hρ, sameNan_recast hρ]

theorem isExactly_recast (a b : Datum) :
    (a.recast ρ σ).isExactly (b.recast ρ σ) = a.isExactly b := by
  simp [isExactly, sameType, equal_recast hρ]

end Value

/-! ## Entries and members -/

theorem Entries.get?_recast (entries : Entries Live) (key : Datum) :
    Entries.get? (entries.map (Value.recastEntry ρ σ)) (key.recast ρ σ) =
      (entries.get? key).map (Value.recast ρ σ) := by
  simp [get?, List.find?_map, Function.comp_def, Value.agrees_recast hρ]

theorem Entries.put_recast (entries : Entries Live) (k v : Datum) :
    Entries.put (entries.map (Value.recastEntry ρ σ)) (k.recast ρ σ) (v.recast ρ σ) =
      (entries.put k v).map (Value.recastEntry ρ σ) := by
  induction entries with
  | nil => rfl
  | cons e rest ih =>
    simp only [List.map_cons, put, Value.recastEntry, Value.agrees_recast hρ, ih]
    split <;> rfl

theorem distinct_recast (items : List Datum) :
    distinct (items.map (Value.recast ρ σ)) = (distinct items).map (Value.recast ρ σ) := by
  have kept (before : List Datum) :
      (items.map (Value.recast ρ σ)).foldl
        (fun kept x => if kept.any (·.agrees x) then kept else kept ++ [x])
        (before.map (Value.recast ρ σ)) =
      (items.foldl (fun kept x => if kept.any (·.agrees x) then kept else kept ++ [x])
        before).map (Value.recast ρ σ) := by
    induction items generalizing before with
    | nil => rfl
    | cons x rest ih =>
      simp only [List.map_cons, List.foldl_cons, List.any_map, Function.comp_def,
        Value.agrees_recast hρ]
      split
      · exact ih before
      · simpa using ih (before ++ [x])
  exact kept []

end

namespace Value

mutual

theorem identical_recast (hρ : Function.Injective ρ) : ∀ a b : Datum,
    (a.recast ρ σ).identical (b.recast ρ σ) = a.identical b
  | .list _ xs, b => by
    cases b <;> simp [identical, Access.same_rename hρ, identicalItems_recast hρ xs]
  | .tuple xs, b => by cases b <;> simp [identical, identicalItems_recast hρ xs]
  | .dict _ xs, b => by
    cases b <;> simp [identical, Access.same_rename hρ, identicalEntries_recast hρ xs]
  | .set _ xs, b => by cases b <;> simp [identical, identicalItems_recast hρ xs]
  | .live x, b => by cases b <;> simp [identical, Handle.same, Live.same_recast hρ]
  | .float d, b => by
    cases b
    case float e =>
      have finite : (decide (d.rename ρ = e.rename ρ) && (d.rename ρ).place?.isSome) =
          (decide (d = e) && d.place?.isSome) := by
        cases d <;> cases e <;> simp [Double.rename, Double.place?]
      simp only [recast, identical, Double.sameNan_rename hρ, finite]
    all_goals rfl
  | .none, b | .bool _, b | .int _, b | .str _, b | .bytes _, b | .missing, b | .invalid, b => by
    cases b <;> rfl

theorem identicalItems_recast (hρ : Function.Injective ρ) : ∀ xs ys : List Datum,
    identicalItems (xs.map (recast ρ σ)) (ys.map (recast ρ σ)) = identicalItems xs ys
  | [], ys => by cases ys <;> rfl
  | x :: xs, ys => by
    cases ys <;> simp [identicalItems, identical_recast hρ x, identicalItems_recast hρ xs]

theorem identicalEntries_recast (hρ : Function.Injective ρ) : ∀ xs ys : Entries Live,
    identicalEntries (xs.map (recastEntry ρ σ)) (ys.map (recastEntry ρ σ)) = identicalEntries xs ys
  | [], ys => by cases ys <;> rfl
  | (k, v) :: xs, ys => by
    cases ys <;>
      simp [identicalEntries, identical_recast hρ k, identical_recast hρ v,
        identicalEntries_recast hρ xs]

end

end Value

/-! ## Merging -/

/-- Values that are neither lists nor mappings merge with what is the same. -/
theorem merge_single {a b : Datum} (hl : ∀ r xs, a ≠ .list r xs) (hd : ∀ r xs, a ≠ .dict r xs) :
    merge a b = if a.identical b || a.isExactly b then some a else none := by
  cases a <;> first | rfl | exact absurd rfl (hl _ _) | exact absurd rfl (hd _ _)

theorem merge_single_recast (hρ : Function.Injective ρ) {a b : Datum}
    (hl : ∀ r xs, a ≠ .list r xs) (hd : ∀ r xs, a ≠ .dict r xs) :
    merge (a.recast ρ σ) (b.recast ρ σ) = (merge a b).map (Value.recast ρ σ) := by
  have hl' : ∀ r xs, a.recast ρ σ ≠ .list r xs := by
    cases a <;> first | exact absurd rfl (hl _ _) | simp
  have hd' : ∀ r xs, a.recast ρ σ ≠ .dict r xs := by
    cases a <;> first | exact absurd rfl (hd _ _) | simp
  rw [merge_single hl hd, merge_single hl' hd', Value.identical_recast hρ,
    Value.isExactly_recast hρ]
  split <;> rfl

mutual

theorem merge_recast (hρ : Function.Injective ρ) : ∀ a b : Datum,
    merge (a.recast ρ σ) (b.recast ρ σ) = (merge a b).map (Value.recast ρ σ)
  | .list r xs, b => by
    have same := Value.identical_recast (σ := σ) hρ (.list r xs) b
    simp only [Value.recast, Value.recastItems_eq] at same
    cases b <;>
      simp only [Value.recast, Value.recastItems_eq, Value.recastEntries_eq, merge] at same ⊢ <;>
      rw [same]
    case list q ys =>
      simp only [List.length_map, mergeItems_recast hρ xs ys]
      split
      · simp
      · split <;> cases mergeItems xs ys <;> simp [Access.rename]
    all_goals split <;> simp
  | .dict r xs, b => by
    have same := Value.identical_recast (σ := σ) hρ (.dict r xs) b
    simp only [Value.recast, Value.recastEntries_eq] at same
    cases b <;>
      simp only [Value.recast, Value.recastItems_eq, Value.recastEntries_eq, merge] at same ⊢ <;>
      rw [same]
    case dict q ys =>
      have rest : (ys.map (Value.recastEntry ρ σ)).filter (fun e =>
            !(xs.map (Value.recastEntry ρ σ)).any fun x => x.1.agrees e.1) =
          (ys.filter fun e => !xs.any fun x => x.1.agrees e.1).map (Value.recastEntry ρ σ) := by
        simp [List.filter_map, List.any_map, Function.comp_def, Value.agrees_recast hρ]
      rw [mergeEntries_recast hρ xs ys, rest]
      split
      · simp
      · cases mergeEntries xs ys <;> simp [Access.rename]
    all_goals split <;> simp
  | .none, b | .bool _, b | .int _, b | .float _, b | .str _, b | .bytes _, b | .missing, b
  | .invalid, b | .tuple _, b | .set _ _, b | .live _, b =>
    merge_single_recast hρ (by simp) (by simp)

theorem mergeItems_recast (hρ : Function.Injective ρ) : ∀ xs ys : List Datum,
    mergeItems (xs.map (Value.recast ρ σ)) (ys.map (Value.recast ρ σ)) =
      (mergeItems xs ys).map (List.map (Value.recast ρ σ))
  | [], ys => by cases ys <;> rfl
  | x :: xs, [] => rfl
  | x :: xs, y :: ys => by
    simp only [List.map_cons, mergeItems, merge_recast hρ x y, mergeItems_recast hρ xs ys]
    cases merge x y <;> cases mergeItems xs ys <;> rfl

theorem mergeEntries_recast (hρ : Function.Injective ρ) : ∀ xs ys : Entries Live,
    mergeEntries (xs.map (Value.recastEntry ρ σ)) (ys.map (Value.recastEntry ρ σ)) =
      (mergeEntries xs ys).map (List.map (Value.recastEntry ρ σ))
  | [], _ => rfl
  | (k, v) :: xs, ys => by
    have found : (ys.map (Value.recastEntry ρ σ)).find? (fun e => (k.recast ρ σ).agrees e.1) =
        (ys.find? fun e => k.agrees e.1).map (Value.recastEntry ρ σ) := by
      simp [List.find?_map, Function.comp_def, Value.agrees_recast hρ]
    simp only [List.map_cons, mergeEntries, Value.recastEntry, mergeEntries_recast hρ xs ys, found]
    cases ys.find? fun e => k.agrees e.1 with
    | none => cases mergeEntries xs ys <;> rfl
    | some e =>
      simp only [Option.map_some, Value.recastEntry, merge_recast hρ v e.2]
      cases merge v e.2 <;> cases mergeEntries xs ys <;> rfl

end
end TwoWay
