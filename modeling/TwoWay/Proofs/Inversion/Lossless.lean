import TwoWay.Proofs.Inversion.Making

/-!
# Lossless inversion

There is nothing in a tree of the shape of inverses that a further inversion would have to drop
or could not get past (`Plans.reversed_lossless`), unless it is behind the lazy nodes in the tag
fields of discriminated unions.
-/

namespace TwoWay

/-- The failure of an inversion at an effect that may not be dropped. -/
def Failure.isOneWay : Failure → Bool
  | .oneWay _ => true
  | _ => false

namespace Plans

variable {plans : Plans} {settings : InversionSettings} {s : Schema} {α β : Type}

/-- A run that meets no effect which may not be dropped, and drops none. -/
structure Lossless (plans : Plans) (m : Run α) (Q : α → Prop) : Prop where
  ensures : plans.Ensures m Q
  passes : ∀ w, plans.Faithful w → ∀ kind, m.result w ≠ .error (.oneWay kind)
  silent : ∀ w, plans.Faithful w → ∃ new, (m.final w).journal = new ++ w.journal ∧
    ∀ kind, .logged (.effectElided kind) ∉ new

namespace Lossless

variable {P Q : α → Prop}

theorem pure {a : α} (h : Q a) : plans.Lossless (Pure.pure a) Q :=
  ⟨.pure h, fun _ _ _ => nofun, fun _ _ => ⟨[], rfl, fun _ => List.not_mem_nil⟩⟩

theorem throw {f : Failure} (h : f.isOneWay = false) : plans.Lossless (throw f : Run α) Q := by
  refine ⟨.throw f Q, fun w _ kind same => ?_, fun _ _ => ⟨[], rfl, fun _ => List.not_mem_nil⟩⟩
  cases Except.error.inj same
  cases h

theorem record {e : Event} (h : ∀ kind, e ≠ .logged (.effectElided kind)) :
    plans.Lossless (Run.record e) fun _ => True := by
  refine ⟨.record e, fun _ _ _ => nofun, fun _ _ => ⟨[e], rfl, fun kind hmem => ?_⟩⟩
  exact h kind (List.mem_singleton.1 hmem).symm

theorem bind {m : Run α} {k : α → Run β} {R : β → Prop} (hm : plans.Lossless m P)
    (hk : ∀ a, P a → plans.Lossless (k a) R) : plans.Lossless (m >>= k) R := by
  refine ⟨.bind hm.ensures fun a ha => (hk a ha).ensures, fun w hw kind => ?_, fun w hw => ?_⟩
  · rw [Run.result_bind]
    obtain ⟨hfinal, hresult⟩ := hm.ensures w hw
    cases hr : m.result w with
    | error f =>
      rw [← hr]
      intro same
      rw [hr] at same
      exact hm.passes w hw kind (hr.trans (congrArg _ (Except.error.inj same)))
    | ok a => exact (hk a (hresult a hr)).passes _ hfinal kind
  · rw [Run.final_bind]
    obtain ⟨hfinal, hresult⟩ := hm.ensures w hw
    obtain ⟨new, journal, kept⟩ := hm.silent w hw
    cases hr : m.result w with
    | error f => exact ⟨new, journal, kept⟩
    | ok a =>
      obtain ⟨new', journal', kept'⟩ := (hk a (hresult a hr)).silent _ hfinal
      refine ⟨new' ++ new, by rw [journal', journal, List.append_assoc], fun kind hmem => ?_⟩
      exact (List.mem_append.1 hmem).elim (kept' kind) (kept kind)

end Lossless

/-- Lossless runs, as what can be said of making. -/
def lossless (plans : Plans) : plans.Triple Unit where
  Holds m Q := plans.Lossless (m ()) Q
  allows := (·.isOfMaking)
  logs e := ∃ kind name, e = .kindPassedThrough kind name
  pure := .pure
  fail {_ f _} h := .throw (by cases f <;> first | rfl | cases h)
  log := by
    rintro _ ⟨kind, name, rfl⟩
    exact .record fun _ => nofun
  bind := .bind
  ensuring h hq := ⟨fun w hw => ⟨(h.ensures w hw).1, (hq () w hw).2⟩, h.passes, h.silent⟩

/-- In a tree of the shape of inverses stand trees of that shape, and what checks what comes in. -/
theorem reversed_refined : plans.Refined settings
    fun s => s.Reversed ∨ ∃ action, s = .effect .refinement action false .any where
  child := by
    rintro s (h | ⟨action, rfl⟩) c hc
    · cases h with
      | node _ parts => exact .inl (parts c hc)
      | @refined action t h =>
        simp only [Schema.children, List.mem_cons, List.not_mem_nil, or_false] at hc
        rcases hc with rfl | rfl
        · exact .inr ⟨action, rfl⟩
        · exact .inl h
    · cases List.mem_singleton.1 hc
      exact .inl (.node rfl (List.forall_mem_nil _))
  refinement := by
    rintro kind action elidable inner (h | ⟨action, same⟩)
    · cases h with
      | node node => cases node
    · cases same
      rfl
  objects := by
    rintro key options table (h | ⟨action, same⟩) s hs shape rest policy inverts
    · cases h with
      | node _ parts =>
        obtain ⟨shape, rest, rfl, -⟩ := inverts.of_object (parts s hs)
        rfl
    · cases same

/-- A tree of the shape of inverses is inverted without loss, if looking behind the lazy nodes
of its tag fields is lossless. -/
theorem reversed_lossless {depth : Nat} {owner : LazyId} (hs : s.Reversed)
    (hl : ∀ id origin, s.TagLazy id origin → ∀ id',
      plans.Lossless (plans.tagsBehind depth id' (.inverse settings id origin)) fun _ => True) :
    plans.lossless.Makes (fun _ => s.invertWith ⟨owner, plans.tagsBehind depth⟩ settings)
      (plans.Inverts settings s) :=
  Triple.invertWith (T := plans.lossless) (fun _ allowed => allowed)
    (fun kind name => ⟨kind, name, rfl⟩)
    reversed_refined (.inl hs) hl

end Plans
end TwoWay
