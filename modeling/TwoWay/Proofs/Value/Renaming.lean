import TwoWay.Proofs.Value.Recasting

/-!
# Renaming

Identities tell values apart and do nothing else. So whatever is done with values, the identities
made during a run can be renamed before or after, as long as different ones stay different. Nothing
else is recast then (`Value.rename_eq`).
-/

namespace TwoWay

mutual

/-- Renames the identities in a value, but not those in the schemas of its handles. -/
def Value.rename (ρ : Nat → Nat) : Datum → Datum
  | .float d => .float (d.rename ρ)
  | .list r items => .list (r.rename ρ) (Value.renameItems ρ items)
  | .tuple items => .tuple (Value.renameItems ρ items)
  | .dict r entries => .dict (r.rename ρ) (Value.renameEntries ρ entries)
  | .set r items => .set r (Value.renameItems ρ items)
  | .live x => .live (x.rename ρ)
  | .none => .none
  | .bool b => .bool b
  | .int i => .int i
  | .str s => .str s
  | .bytes bs => .bytes bs
  | .missing => .missing
  | .invalid => .invalid
  termination_by structural v => v

def Value.renameItems (ρ : Nat → Nat) : List Datum → List Datum
  | [] => []
  | x :: rest => Value.rename ρ x :: Value.renameItems ρ rest
  termination_by structural xs => xs

def Value.renameEntries (ρ : Nat → Nat) : List (Datum × Datum) → List (Datum × Datum)
  | [] => []
  | (k, v) :: rest => (Value.rename ρ k, Value.rename ρ v) :: Value.renameEntries ρ rest
  termination_by structural es => es

def Live.rename (ρ : Nat → Nat) : Live → Live
  | .function fn => .function fn
  | .guarded id items rest returns target =>
    .guarded (id.rename ρ) items rest returns (Live.rename ρ target)
  | .promise id suspends v => .promise id suspends (Value.rename ρ v)
  | .pending id inner awaited => .pending (id.rename ρ) inner (Live.rename ρ awaited)
  | .running id fn args => .running (id.rename ρ) fn (Value.renameItems ρ args)
  | .working id fn path v =>
    .working (id.rename ρ) fn (Value.renameItems ρ path) (Value.rename ρ v)
  termination_by structural x => x

end

/-- Renames the identities in a key and its value. -/
def Value.renameEntry (ρ : Nat → Nat) (e : Datum × Datum) : Datum × Datum :=
  (e.1.rename ρ, e.2.rename ρ)

attribute [simp] Value.rename Live.rename Value.renameEntry

variable {ρ : Nat → Nat}

@[simp] theorem Value.renameItems_eq (items : List Datum) :
    Value.renameItems ρ items = items.map (Value.rename ρ) := by
  induction items with
  | nil => rfl
  | cons x rest ih => rw [Value.renameItems, ih, List.map_cons]

@[simp] theorem Value.renameEntries_eq (entries : Entries Live) :
    Value.renameEntries ρ entries = entries.map (Value.renameEntry ρ) := by
  induction entries with
  | nil => rfl
  | cons e rest ih => rw [Value.renameEntries, ih, List.map_cons, Value.renameEntry]

/-! ## Renaming recasts nothing else -/

mutual

theorem Value.rename_apply : ∀ v : Datum, v.rename ρ = v.recast ρ id
  | .list _ items => by simp [Value.renameItems_apply items]
  | .tuple items => by simp [Value.renameItems_apply items]
  | .dict _ entries => by simp [Value.renameEntries_apply entries]
  | .set _ items => by simp [Value.renameItems_apply items]
  | .live x => by simp [Live.rename_apply x]
  | .float _ | .none | .bool _ | .int _ | .str _ | .bytes _ | .missing | .invalid => rfl

theorem Value.renameItems_apply : ∀ items : List Datum,
    items.map (Value.rename ρ) = items.map (Value.recast ρ id)
  | [] => rfl
  | x :: rest => by
    rw [List.map_cons, List.map_cons, Value.rename_apply x, Value.renameItems_apply rest]

theorem Value.renameEntries_apply : ∀ entries : Entries Live,
    entries.map (Value.renameEntry ρ) = entries.map (Value.recastEntry ρ id)
  | [] => rfl
  | (k, v) :: rest => by
    rw [List.map_cons, List.map_cons, Value.renameEntries_apply rest, Value.renameEntry,
      Value.recastEntry, Value.rename_apply k, Value.rename_apply v]

theorem Live.rename_apply : ∀ x : Live, x.rename ρ = x.recast ρ id
  | .function _ => rfl
  | .guarded _ _ _ _ target => by simp [Live.rename_apply target]
  | .promise _ _ v => by simp [Value.rename_apply v]
  | .pending _ _ awaited => by simp [Live.rename_apply awaited]
  | .running _ _ args => by simp [Value.renameItems_apply args]
  | .working _ _ path v => by simp [Value.renameItems_apply path, Value.rename_apply v]

end

theorem Value.rename_eq : Value.rename ρ = Value.recast ρ id := funext Value.rename_apply

theorem Value.renameEntry_eq : Value.renameEntry ρ = Value.recastEntry ρ id := by
  funext e
  rw [Value.renameEntry, Value.recastEntry, Value.rename_eq]

theorem Live.rename_eq : Live.rename ρ = Live.recast ρ id := funext Live.rename_apply

/-! ## What does not depend on identities -/

@[simp] theorem Live.isCallable_rename (x : Live) : (x.rename ρ).isCallable = x.isCallable := by
  rw [rename_eq, isCallable_recast]

@[simp] theorem Live.isAwaitable_rename (x : Live) : (x.rename ρ).isAwaitable = x.isAwaitable := by
  rw [rename_eq, isAwaitable_recast]

namespace Value

@[simp] theorem typeName_rename (v : Datum) : (v.rename ρ).typeName = v.typeName := by
  rw [rename_eq, typeName_recast]

@[simp] theorem isMissing_rename (v : Datum) : (v.rename ρ).isMissing = v.isMissing := by
  rw [rename_eq, isMissing_recast]

@[simp] theorem isInvalid_rename (v : Datum) : (v.rename ρ).isInvalid = v.isInvalid := by
  rw [rename_eq, isInvalid_recast]

@[simp] theorem isNone_rename (v : Datum) : (v.rename ρ).isNone = v.isNone := by
  rw [rename_eq, isNone_recast]

@[simp] theorem truthy_rename (v : Datum) : (v.rename ρ).truthy = v.truthy := by
  rw [rename_eq, truthy_recast]

theorem freeze_rename (v : Datum) : (v.rename ρ).freeze = v.freeze.rename ρ := by
  rw [rename_eq, freeze_recast]

@[simp] theorem unhashable?_rename (v : Datum) : (v.rename ρ).unhashable? = v.unhashable? := by
  rw [rename_eq, unhashable?_recast]

end Value

/-! ## What tells identities apart -/

section

variable (hρ : Function.Injective ρ)

include hρ

theorem Value.agrees_rename (a b : Datum) : (a.rename ρ).agrees (b.rename ρ) = a.agrees b := by
  rw [rename_eq, agrees_recast hρ]

theorem Entries.put_rename (entries : Entries Live) (k v : Datum) :
    Entries.put (entries.map (Value.renameEntry ρ)) (k.rename ρ) (v.rename ρ) =
      (entries.put k v).map (Value.renameEntry ρ) := by
  rw [Value.renameEntry_eq, Value.rename_eq, put_recast hρ]

theorem distinct_rename (items : List Datum) :
    distinct (items.map (Value.rename ρ)) = (distinct items).map (Value.rename ρ) := by
  rw [Value.rename_eq, distinct_recast hρ]

end

end TwoWay
