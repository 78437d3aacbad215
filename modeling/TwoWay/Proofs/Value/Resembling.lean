import TwoWay.Proofs.Inversion.Outline
import TwoWay.Proofs.Value.Recasting

/-!
# Values that look the same

Checked functions and awaitables hold schemas. Two values resemble each other in a view if they are
the same but for these schemas, which resemble each other there. Nothing that is done with values
tells the one from the other, and what is made of values that resemble each other resembles.
-/

namespace TwoWay

section
variable {α β : Type}

theorem forall₂_iff_map {f : α → β} {xs ys : List α} :
    List.Forall₂ (fun x y => f x = f y) xs ys ↔ xs.map f = ys.map f := by
  rw [← List.forall₂_eq_eq_eq, List.forall₂_map_left_iff, List.forall₂_map_right_iff]

theorem rel_iff_map {f : α → β} {x y : Option α} :
    Option.Rel (fun x y => f x = f y) x y ↔ x.map f = y.map f := by
  cases x <;> cases y
  · exact ⟨fun _ => rfl, fun _ => .none⟩
  · exact ⟨nofun, nofun⟩
  · exact ⟨nofun, nofun⟩
  · simp only [Option.map_some, Option.some.injEq]
    exact ⟨fun (.some h) => h, fun h => .some h⟩

theorem rel_of_map {f : α → β} {R : α → α → Prop} (h : ∀ {a b}, f a = f b → R a b)
    {x y : Option α} (e : x.map f = y.map f) : Option.Rel R x y := by
  cases rel_iff_map.2 e with
  | none => exact .none
  | some same => exact .some (h same)

end

/-- Values that look the same. -/
def Value.Resembles (view : View) (v v' : Datum) : Prop :=
  v.recast id (Schema.outline view) = v'.recast id (Schema.outline view)

/-- Handles that look the same. -/
def Live.Resembles (view : View) (x x' : Live) : Prop :=
  x.recast id (Schema.outline view) = x'.recast id (Schema.outline view)

/-- Entries with keys and values that look the same. -/
def Value.EntryResembles (view : View) (e e' : Datum × Datum) : Prop :=
  Value.recastEntry id (Schema.outline view) e = Value.recastEntry id (Schema.outline view) e'

variable {view : View}

namespace Value

variable {v v' : Datum} {items items' : List Datum} {entries entries' : Entries Live}

namespace Resembles

theorem refl (v : Datum) : v.Resembles view v := rfl

theorem symm (h : v.Resembles view v') : v'.Resembles view v := Eq.symm h

theorem isMissing (h : v.Resembles view v') : v.isMissing = v'.isMissing := by
  simpa only [isMissing_recast] using congrArg Value.isMissing h

theorem isInvalid (h : v.Resembles view v') : v.isInvalid = v'.isInvalid := by
  simpa only [isInvalid_recast] using congrArg Value.isInvalid h

theorem isNone (h : v.Resembles view v') : v.isNone = v'.isNone := by
  simpa only [isNone_recast] using congrArg Value.isNone h

theorem truthy (h : v.Resembles view v') : v.truthy = v'.truthy := by
  simpa only [truthy_recast] using congrArg Value.truthy h

theorem unhashable? (h : v.Resembles view v') : v.unhashable? = v'.unhashable? := by
  simpa only [unhashable?_recast] using congrArg Value.unhashable? h

theorem freeze (h : v.Resembles view v') : v.freeze.Resembles view v'.freeze := by
  unfold Resembles
  rw [← freeze_recast, ← freeze_recast, h]

end Resembles

theorem items_resemble :
    List.Forall₂ (Resembles view) items items' ↔
      items.map (recast id (Schema.outline view)) =
        items'.map (recast id (Schema.outline view)) := forall₂_iff_map

theorem entries_resemble :
    List.Forall₂ (EntryResembles view) entries entries' ↔
      entries.map (recastEntry id (Schema.outline view)) =
        entries'.map (recastEntry id (Schema.outline view)) := forall₂_iff_map

theorem entryResembles_iff {e e' : Datum × Datum} :
    EntryResembles view e e' ↔ e.1.Resembles view e'.1 ∧ e.2.Resembles view e'.2 := by
  rw [EntryResembles, recastEntry, recastEntry, Prod.mk.injEq, Resembles, Resembles]

theorem Resembles.list (r : Access) (h : List.Forall₂ (Resembles view) items items') :
    (Value.list r items).Resembles view (.list r items') := by
  unfold Resembles
  rw [recast, recast, recastItems_eq, recastItems_eq, items_resemble.1 h]

theorem Resembles.handle_cases (h : v.Resembles view v') :
    (∃ x x', v = .live x ∧ v' = .live x' ∧ x.Resembles view x') ∨
      (∀ x, v ≠ .live x) ∧ ∀ x, v' ≠ .live x := by
  cases v
  case live x =>
    cases v'
    case live x' => exact .inl ⟨x, x', rfl, rfl, live.inj h⟩
    all_goals cases h
  all_goals
    refine .inr ⟨nofun, ?_⟩
    rintro x rfl
    cases h

end Value

namespace Live

/-- Handles that look the same, one for each kind of handle that can be awaited. -/
inductive SameHandle (view : View) : Live → Live → Prop
  | callable {x x'} : x.isCallable → x'.isCallable → SameHandle view x x'
  | promise {id suspends v v'} : v.Resembles view v' →
    SameHandle view (.promise id suspends v) (.promise id suspends v')
  | pending {id s t x x'} : s.Resembles view t → x.Resembles view x' →
    SameHandle view (.pending id s x) (.pending id t x')
  | running {id fn args args'} : List.Forall₂ (Value.Resembles view) args args' →
    SameHandle view (.running id fn args) (.running id fn args')
  | working {id fn path path' v v'} : List.Forall₂ (Value.Resembles view) path path' →
    v.Resembles view v' → SameHandle view (.working id fn path v) (.working id fn path' v')

variable {x x' : Live}

theorem Resembles.value (h : x.Resembles view x') :
    (Value.live x).Resembles view (.live x') := congrArg Value.live h

theorem Resembles.isCallable (h : x.Resembles view x') : x.isCallable = x'.isCallable := by
  simpa only [isCallable_recast] using congrArg Live.isCallable h

theorem Resembles.isAwaitable (h : x.Resembles view x') : x.isAwaitable = x'.isAwaitable := by
  simpa only [isAwaitable_recast] using congrArg Live.isAwaitable h

theorem Resembles.guarded (id : Identity) {items items' : List Schema} {rest rest' : Option Schema}
    {returns returns' : Schema} (hi : List.Forall₂ (Schema.Resembles view) items items')
    (hr : Option.Rel (Schema.Resembles view) rest rest') (ht : returns.Resembles view returns')
    (h : x.Resembles view x') :
    (Live.guarded id items rest returns x).Resembles view
      (.guarded id items' rest' returns' x') := by
  unfold Resembles
  rw [recast, recast, forall₂_iff_map.1 hi, rel_iff_map.1 hr, ht, h]

theorem Resembles.pending (id : Identity) {s t : Schema} (hs : s.Resembles view t)
    (h : x.Resembles view x') :
    (Live.pending id s x).Resembles view (.pending id t x') := by
  unfold Resembles
  rw [recast, recast, hs, h]

theorem Resembles.sameHandle (h : x.Resembles view x') : SameHandle view x x' := by
  unfold Resembles at h
  cases x <;> cases x' <;>
    simp only [recast, reduceCtorEq, promise.injEq, pending.injEq, running.injEq, working.injEq,
      Identity.rename_id, Value.recastItems_eq] at h
  case function.function | guarded.guarded => exact .callable rfl rfl
  case promise.promise =>
    obtain ⟨rfl, rfl, hv⟩ := h
    exact .promise hv
  case pending.pending =>
    obtain ⟨rfl, hs, hx⟩ := h
    exact .pending hs hx
  case running.running =>
    obtain ⟨rfl, rfl, hargs⟩ := h
    exact .running (Value.items_resemble.2 hargs)
  case working.working =>
    obtain ⟨rfl, rfl, hpath, hv⟩ := h
    exact .working (Value.items_resemble.2 hpath) hv

end Live
end TwoWay
