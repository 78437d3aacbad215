import TwoWay.Proofs.Forcing.Quiet
import TwoWay.Proofs.Parse.Resembling
import TwoWay.Proofs.Parse.Whole

/-!
# Runs in step

A run is in step with runs of all depths if from worlds on a level they end as it does, from some
depth on: with results in relation, or with failures that look the same. What worlds on a level have
in common is up to a `Pace`. The rules here put runs in step together, and the calls of user
functions that tell no values apart that look the same.
-/

namespace TwoWay

/-- How runs keep step: which worlds are on a level before and after each step, what is left of
that after a failure, and which failures of a run nobody has to keep step with. -/
structure Pace (view : View) where
  Level : World → World → Prop
  Failed : World → World → Prop
  stray : Failure → Prop
  made : ∀ {w u}, Level w u → w.made = u.made
  awaited : ∀ {w u}, Level w u → w.awaited = u.awaited
  record : ∀ {w u e e'}, Level w u → Event.Resembles view e e' → Level (w.record e) (u.record e')
  spend : ∀ {w u} n ids, Level w u →
    Level { w with made := n, awaited := ids } { u with made := n, awaited := ids }
  failed : ∀ {w u}, Level w u → Failed w u

/-- How a run ends, beside runs of all depths that have kept step with it. -/
inductive Pace.End {view : View} (pace : Pace view) {α β : Type} (R : α → β → Prop) :
    EStateM.Result Failure World α → (Nat → EStateM.Result Failure World β) → Prop
  | ok {a b w u n} d : pace.Level w u → R a b → (∀ k ≥ d, n k = .ok b u) → End pace R (.ok a w) n
  | error {f g w u n} d : pace.Failed w u → f.Resembles view g → (∀ k ≥ d, n k = .error g u) →
    End pace R (.error f w) n
  | stray {f w n} : pace.stray f → End pace R (.error f w) n

/-- A run, beside runs of all depths that end as it does from worlds on a level. -/
def Run.InStep {view : View} (pace : Pace view) {α β : Type} (R : α → β → Prop) (m : Run α)
    (n : Nat → Run β) : Prop := ∀ w u, pace.Level w u → pace.End R (m w) fun k => n k u

/-- A world with its own counts is what another one recalls that has the same. -/
theorem World.recalling_of_eq {w u : World} (made : w.made = u.made)
    (awaited : w.awaited = u.awaited) : w.recalling u = u := by
  cases w
  cases u
  cases made
  cases awaited
  rfl

variable {view : View} {pace : Pace view} {α β γ δ : Type}

namespace Pace.End

variable {R : α → β → Prop} {r : EStateM.Result Failure World α}
  {n n' : Nat → EStateM.Result Failure World β}

theorem weaken {R' : α → β → Prop} (h : pace.End R r n) (hr : ∀ {a b}, R a b → R' a b) :
    pace.End R' r n := by
  cases h with
  | ok d level related ends => exact .ok d level (hr related) ends
  | error d failed alike ends => exact .error d failed alike ends
  | stray h => exact .stray h

/-- Only depths from some on matter. -/
theorem beyond (h : pace.End R r n) (d : Nat) (hn : ∀ k ≥ d, n' k = n k) : pace.End R r n' := by
  cases h with
  | ok e level related ends =>
    refine .ok (max d e) level related fun k hk => ?_
    rw [hn k (by omega), ends k (by omega)]
  | error e failed alike ends =>
    refine .error (max d e) failed alike fun k hk => ?_
    rw [hn k (by omega), ends k (by omega)]
  | stray h => exact .stray h

/-- The least depth is left out of account. -/
theorem succ (h : pace.End R r fun k => n (k + 1)) : pace.End R r n := by
  have before {k d : Nat} (hk : k ≥ d + 1) : ∃ j ≥ d, k = j + 1 := ⟨k - 1, by omega, by omega⟩
  cases h with
  | ok d level related ends =>
    refine .ok (d + 1) level related fun k hk => ?_
    obtain ⟨j, hj, rfl⟩ := before hk
    exact ends j hj
  | error d failed alike ends =>
    refine .error (d + 1) failed alike fun k hk => ?_
    obtain ⟨j, hj, rfl⟩ := before hk
    exact ends j hj
  | stray h => exact .stray h

theorem later (h : pace.End R r n) : pace.End R r fun k => n (k + 1) := by
  cases h with
  | ok d level related ends => exact .ok d level related fun k hk => ends (k + 1) (by omega)
  | error d failed alike ends => exact .error d failed alike fun k hk => ends (k + 1) (by omega)
  | stray h => exact .stray h

end Pace.End

namespace Run.InStep

variable {R : α → β → Prop} {Q : γ → δ → Prop} {m : Run α} {n : Nat → Run β}

theorem pure {a : α} {b : β} (h : R a b) : InStep pace R (Pure.pure a) fun _ => Pure.pure b :=
  fun _ _ level => .ok 0 level h fun _ _ => rfl

theorem throw {f g : Failure} (h : f.Resembles view g) :
    InStep pace R (MonadExcept.throw f) fun _ => MonadExcept.throw g :=
  fun _ _ level => .error 0 (pace.failed level) h fun _ _ => rfl

/-- Nobody has to keep step with a run that has gone astray. -/
theorem stray {f : Failure} (h : pace.stray f) : InStep pace R (MonadExcept.throw f) n :=
  fun _ _ _ => .stray h

theorem succ (h : InStep pace R m fun i => n (i + 1)) : InStep pace R m n :=
  fun w u level => (h w u level).succ

theorem later (h : InStep pace R m n) : InStep pace R m fun i => n (i + 1) :=
  fun w u level => (h w u level).later

theorem bind {k : α → Run γ} {l : Nat → β → Run δ} (h : InStep pace R m n)
    (hk : ∀ {a b}, R a b → InStep pace Q (k a) fun i => l i b) :
    InStep pace Q (m >>= k) fun i => n i >>= l i := by
  intro w u level
  have first := h w u level
  cases hm : m w with
  | ok a w' =>
    rw [hm] at first
    cases first with
    | ok d level' related ends =>
      rw [Run.bind_of_ok hm]
      exact (hk related w' _ level').beyond d fun i hi => Run.bind_of_ok (ends i hi)
  | error f w' =>
    rw [Run.bind_of_error hm]
    rw [hm] at first
    cases first with
    | error d failed alike ends =>
      exact .error d failed alike fun i hi => Run.bind_of_error (ends i hi)
    | stray h => exact .stray h

theorem map {f : α → γ} {g : β → δ} (h : InStep pace R m n)
    (hr : ∀ {a b}, R a b → Q (f a) (g b)) : InStep pace Q (f <$> m) fun i => g <$> n i := by
  simp only [← bind_pure_comp]
  exact bind h fun related => pure (hr related)

theorem record {e e' : Event} (h : e.Resembles view e') :
    InStep pace Eq (Run.record e) fun _ => Run.record e' :=
  fun _ _ level => .ok 0 (pace.record level h) rfl fun _ _ => rfl

theorem lift {r : Except Failure α} {t : Except Failure β} (h : SameEnd view R r t) :
    InStep pace R (Run.lift r) fun _ => Run.lift t := by
  cases h with
  | ok related => exact pure related
  | error alike => exact throw alike

theorem liftFault {f : α → γ} {g : β → γ} {r : Except Fault α} {t : Except Fault β}
    (h : f <$> r = g <$> t) :
    InStep pace (fun a b => f a = g b) (Run.liftFault r) fun _ => Run.liftFault t := by
  cases r with
  | ok a =>
    cases t with
    | ok b => exact pure (Except.ok.inj h)
    | error e => cases h
  | error e =>
    cases t with
    | ok b => cases h
    | error e' =>
      cases h
      exact throw .same

/-- Blind runs see nothing but what worlds on a level have in common. -/
theorem blind (h : m.Blind) : InStep pace Eq m fun _ => m := by
  intro w u level
  obtain ⟨result, final⟩ := h w u
  have seen := h.final w
  rw [World.recalling_of_eq (pace.made level) (pace.awaited level)] at result final
  have level' : pace.Level (m.final w) (m.final u) := by
    rw [final, seen]
    exact pace.spend (m.final w).made (m.final w).awaited level
  unfold Run.result Run.final at *
  cases hw : m w with
  | ok a w' =>
    cases hu : m u with
    | ok b u' =>
      simp only [hw, hu, Except.ok.injEq] at result level'
      exact .ok 0 level' result.symm fun _ _ => hu
    | error g u' => simp [hw, hu] at result
  | error f w' =>
    cases hu : m u with
    | ok b u' => simp [hw, hu] at result
    | error g u' =>
      simp only [hw, hu, Except.error.injEq] at result level'
      cases result
      exact .error 0 (pace.failed level') .same fun _ _ => hu

/-- Runs that give the same but for what `f` and `g` do to it. -/
theorem of_map {f : α → γ} {g : β → γ} {n : Run β} (h : f <$> m = g <$> n)
    (hm : InStep pace Eq m fun _ => m) : InStep pace (fun a b => f a = g b) m fun _ => n := by
  intro w u level
  have same : (f <$> m) u = (g <$> n) u := congrFun h u
  have self := hm w u level
  simp only [Functor.map, EStateM.map] at same
  generalize m w = r at self ⊢
  cases self with
  | ok d level' related ends =>
    have given := ends d (Nat.le_refl d)
    cases hn : n u with
    | ok b v =>
      simp only [given, hn, EStateM.Result.ok.injEq] at same
      obtain ⟨same, rfl⟩ := same
      exact .ok 0 level' (related ▸ same) fun _ _ => hn
    | error g v => simp [given, hn] at same
  | error d failed alike ends =>
    have given := ends d (Nat.le_refl d)
    cases hn : n u with
    | ok b v => simp [given, hn] at same
    | error g v =>
      simp only [given, hn, EStateM.Result.error.injEq] at same
      obtain ⟨rfl, rfl⟩ := same
      exact .error 0 failed alike fun _ _ => hn
  | stray h => exact .stray h

theorem requireHashable {v v' : Datum} (h : v.Resembles view v') :
    InStep pace Eq (Run.requireHashable v) fun _ => Run.requireHashable v' := by
  unfold Run.requireHashable
  rw [h.unhashable?]
  cases v'.unhashable? with
  | some t => exact throw .same
  | none => exact pure rfl

theorem identity : InStep pace Eq Run.identity fun _ => Run.identity := blind .identity

theorem awaitOnce (i : Identity) : InStep pace Eq (Run.awaitOnce i) fun _ => Run.awaitOnce i :=
  blind (.awaitOnce i)

end Run.InStep

/-! ## Numbering -/

section
variable (σ : Schema → Schema)

theorem Live.numbered_recast (x : Live) :
    (x.recast id σ).numbered = Live.recast id σ <$> x.numbered := by
  cases x <;> simp [Live.recast, Live.numbered]

mutual

/-- Numbering does not look into schemas. -/
theorem Value.numbered_recast : ∀ v : Datum,
    (v.recast id σ).numbered = Value.recast id σ <$> v.numbered
  | .float d => by simp [recast, numbered]
  | .list r items => by
    simp only [recast, numbered, Access.rename_id, numberedItems_recast items, map_bind,
      bind_map_left, map_pure]
  | .tuple items => by
    simp only [recast, numbered, numberedItems_recast items, map_bind, bind_map_left, map_pure]
  | .dict r entries => by
    simp only [recast, numbered, Access.rename_id, numberedEntries_recast entries, map_bind,
      bind_map_left, map_pure]
  | .set r items => by
    simp only [recast, numbered, numberedItems_recast items, map_bind, bind_map_left, map_pure]
  | .live x => by
    simp only [recast, numbered, Live.numbered_recast σ x, map_bind, bind_map_left, map_pure]
  | .none | .bool _ | .int _ | .str _ | .bytes _ | .missing | .invalid => by
    simp [recast, numbered]

theorem Value.numberedItems_recast : ∀ items : List Datum,
    numberedItems (recastItems id σ items) = recastItems id σ <$> numberedItems items
  | [] => rfl
  | x :: rest => by
    simp only [recastItems, numberedItems, numbered_recast x, numberedItems_recast rest, map_bind,
      bind_map_left, map_pure]

theorem Value.numberedEntries_recast : ∀ entries : Entries Live,
    numberedEntries (recastEntries id σ entries) = recastEntries id σ <$> numberedEntries entries
  | [] => rfl
  | (k, v) :: rest => by
    simp only [recastEntries, numberedEntries, numbered_recast k, numbered_recast v,
      numberedEntries_recast rest, map_bind, bind_map_left, map_pure]

end

end

theorem Value.Resembles.numbered {v v' : Datum} (h : v.Resembles view v') :
    Run.InStep pace (Value.Resembles view) v.numbered fun _ => v'.numbered := by
  refine .of_map ?_ (.blind (Value.numbered_blind v))
  rw [← numbered_recast, ← numbered_recast, h]

theorem Live.Resembles.numbered {x x' : Live} (h : x.Resembles view x') :
    Run.InStep pace (Live.Resembles view) x.numbered fun _ => x'.numbered := by
  refine .of_map ?_ (.blind (Live.numbered_blind x))
  rw [← numbered_recast, ← numbered_recast, h]

end TwoWay
