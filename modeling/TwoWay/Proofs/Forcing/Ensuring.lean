import TwoWay.Proofs.Forcing.Memory
import TwoWay.Schema.Numbering

/-!
# Runs in faithful worlds

`Plans.Ensures` says of a run that it stays among faithful worlds and that what it gives has a
property. Runs are put together by `Ensures.bind`; the other lemmas are about the runs that a
parse is made of.
-/

namespace TwoWay.Plans

/-- From a faithful world a run leads to a faithful one, and what it gives has `Q`. -/
def Ensures (plans : Plans) {α : Type} (m : Run α) (Q : α → Prop) : Prop :=
  ∀ w, plans.Faithful w → plans.Faithful (m.final w) ∧ ∀ a, m.result w = .ok a → Q a

namespace Ensures

variable {plans : Plans} {α β : Type}

theorem pure {a : α} {Q : α → Prop} (h : Q a) : plans.Ensures (Pure.pure a) Q :=
  fun _ hw => ⟨hw, fun _ ha => by cases ha; exact h⟩

theorem throw (f : Failure) (Q : α → Prop) : plans.Ensures (throw f) Q :=
  fun _ hw => ⟨hw, fun _ ha => by cases ha⟩

theorem bind {m : Run α} {k : α → Run β} {P : α → Prop} {Q : β → Prop}
    (hm : plans.Ensures m P) (hk : ∀ a, P a → plans.Ensures (k a) Q) :
    plans.Ensures (m >>= k) Q := by
  intro w hw
  obtain ⟨hfinal, hresult⟩ := hm w hw
  simp only [Run.result_bind, Run.final_bind]
  cases h : m.result w with
  | ok a => exact hk a (hresult a h) _ hfinal
  | error f => exact ⟨hfinal, fun _ ha => by cases ha⟩

theorem weaken {m : Run α} {P Q : α → Prop} (h : plans.Ensures m P) (hq : ∀ a, P a → Q a) :
    plans.Ensures m Q :=
  fun w hw => ⟨(h w hw).1, fun a ha => hq a ((h w hw).2 a ha)⟩

theorem map {m : Run α} {f : α → β} {P : α → Prop} {Q : β → Prop} (h : plans.Ensures m P)
    (hq : ∀ a, P a → Q (f a)) : plans.Ensures (f <$> m) Q := by
  rw [← bind_pure_comp]
  exact bind h fun a ha => pure (hq a ha)

/-- What comes first only has to keep worlds faithful. -/
theorem andThen {m : Run α} {k : α → Run β} {P : α → Prop} {Q : β → Prop}
    (hm : plans.Ensures m P) (hk : ∀ a, plans.Ensures (k a) Q) : plans.Ensures (m >>= k) Q :=
  bind hm fun a _ => hk a

theorem lift {r : Except Failure α} {Q : α → Prop} (h : ∀ a, r = .ok a → Q a) :
    plans.Ensures (Run.lift r) Q := by
  cases r with
  | ok a => exact pure (h a rfl)
  | error f => exact throw f Q

theorem liftFault {r : Except Fault α} {Q : α → Prop} (h : ∀ a, r = .ok a → Q a) :
    plans.Ensures (Run.liftFault r) Q := by
  cases r with
  | ok a => exact pure (h a rfl)
  | error f => exact throw _ Q

theorem get : plans.Ensures (MonadState.get : Run World) fun _ => True :=
  fun _ hw => ⟨hw, fun _ _ => trivial⟩

/-- What does not touch the memory keeps worlds faithful. -/
theorem modified {f : World → World} (hf : ∀ w, (f w).forced = w.forced)
    (hs : ∀ w, (f w).shared = w.shared) : plans.Ensures (modify f : Run Unit) fun _ => True :=
  fun w hw => ⟨hw.of_memory (hf w) (hs w), fun _ _ => trivial⟩

theorem record (e : Event) : plans.Ensures (Run.record e) fun _ => True :=
  modified (fun _ => rfl) fun _ => rfl

theorem identity : plans.Ensures Run.identity fun _ => True :=
  fun _ hw => ⟨hw.of_memory rfl rfl, fun _ _ => trivial⟩

theorem awaitOnce (id : Identity) : plans.Ensures (Run.awaitOnce id) fun _ => True := by
  have noted : plans.Ensures (modify fun w => { w with awaited := id :: w.awaited } : Run Unit)
      fun _ => True := modified (fun _ => rfl) fun _ => rfl
  refine andThen get fun w => ?_
  split
  · exact andThen (throw _ fun _ => True) fun _ => noted
  · exact noted

theorem requireHashable (v : Datum) : plans.Ensures (Run.requireHashable v) fun _ => True := by
  unfold Run.requireHashable
  cases v.unhashable? with
  | some t => exact throw _ _
  | none => exact pure trivial

/-- Forcing a lazy node gives what it stands for. -/
theorem force (depth : Nat) (id : LazyId) (origin : Origin) :
    plans.Ensures (plans.force depth id origin) (plans.Gives id origin) := by
  intro w hw
  refine ⟨hw.force depth id origin, fun s hs => ?_⟩
  cases h : plans.force depth id origin w with
  | ok t w' =>
    simp only [Run.result, h, Except.ok.injEq] at hs
    exact hs ▸ (force_ok hw h).2
  | error f w' => simp only [Run.result, h, reduceCtorEq] at hs

theorem ok {m : Run α} {Q : α → Prop} (h : plans.Ensures m Q) {w w' : World}
    (hw : plans.Faithful w) {a : α} (hm : m w = .ok a w') : plans.Faithful w' ∧ Q a := by
  have := h w hw
  simp only [Run.final, Run.result, hm, Except.ok.injEq, forall_eq'] at this
  exact this

end Ensures
end TwoWay.Plans
