import TwoWay.Proofs.Forcing.Looking
import TwoWay.Proofs.Parse.Whole

/-!
# What forcing calls

Forcing lazy nodes, and whatever else is looked up while schemas are made, calls no functions but
the getters of lazy nodes that are remembered afterwards (`Plans.looks_force`).
-/

namespace TwoWay

/-- Going from one world to another nothing is forgotten, and no functions are called but getters,
without arguments, of lazy nodes that have been forced by then. -/
structure World.Forces (w w' : World) : Prop where
  kept : w.forced ⊆ w'.forced
  calls : ∃ new, w'.journal = new ++ w.journal ∧ ∀ fn args, .called fn args ∈ new →
    args = [] ∧ ∃ id s, ((id, .getter fn), s) ∈ w'.forced

namespace World.Forces

variable {w u w' : World}

theorem refl (w : World) : w.Forces w := ⟨fun _ => id, [], rfl, nofun⟩

theorem trans (h : w.Forces u) (h' : u.Forces w') : w.Forces w' := by
  obtain ⟨kept, new, journal, getters⟩ := h
  obtain ⟨kept', new', journal', getters'⟩ := h'
  refine ⟨List.Subset.trans kept kept', new' ++ new, ?_, fun fn args called => ?_⟩
  · rw [journal', journal, List.append_assoc]
  · rcases List.mem_append.1 called with called | called
    · exact getters' fn args called
    · obtain ⟨none, id, s, forced⟩ := getters fn args called
      exact ⟨none, id, s, kept' forced⟩

/-- Something else happens than a call. -/
theorem record (w : World) {e : Event} (h : ∀ fn args, e ≠ .called fn args) :
    w.Forces (w.record e) := by
  refine ⟨fun _ => id, [e], rfl, fun fn args called => ?_⟩
  exact absurd (List.mem_singleton.1 called).symm (h fn args)

theorem of_memory (h : w.Forces u) (journal : w'.journal = u.journal)
    (kept : u.forced ⊆ w'.forced) : w.Forces w' :=
  h.trans ⟨kept, [], journal, nofun⟩

/-- The getter of a lazy node is called, and then the node is remembered. -/
theorem getter {fn : FunctionRef} (h : (w.record (.called fn [])).Forces u) {id : LazyId}
    {s : Schema} (journal : w'.journal = u.journal)
    (forced : w'.forced = ((id, .getter fn), s) :: u.forced) : w.Forces w' := by
  obtain ⟨kept, new, added, getters⟩ := h
  have later : u.forced ⊆ w'.forced := forced ▸ List.subset_cons_self ..
  refine ⟨List.Subset.trans kept later, new ++ [.called fn []], ?_, fun g args called => ?_⟩
  · rw [journal, added, List.append_assoc]
    rfl
  · rcases List.mem_append.1 called with called | called
    · obtain ⟨none, id', t, known⟩ := getters g args called
      exact ⟨none, id', t, later known⟩
    · cases List.mem_singleton.1 called
      exact ⟨rfl, id, s, forced ▸ List.mem_cons_self ..⟩

end World.Forces

/-- A run that calls nothing but getters, when it gives a result. -/
def Run.Forces {α : Type} (m : Run α) : Prop := ∀ w a w', m w = .ok a w' → w.Forces w'

namespace Run.Forces

variable {α β : Type}

theorem pure (a : α) : Run.Forces (Pure.pure a) := by
  intro w b w' h
  cases h
  exact .refl w

theorem throw (f : Failure) : Run.Forces (throw f : Run α) := nofun

theorem bind {m : Run α} {k : α → Run β} (hm : m.Forces) (hk : ∀ a, (k a).Forces) :
    (m >>= k).Forces := by
  intro w b w' h
  obtain ⟨a, u, ha, hb⟩ := Run.bind_ok.1 h
  exact (hm w a u ha).trans (hk a u b w' hb)

theorem record {e : Event} (h : ∀ fn args, e ≠ .called fn args) : Run.Forces (Run.record e) := by
  intro w a w' he
  cases he
  exact .record w h

/-- What is known is given back, and what is not is made and kept. -/
theorem lookUp {known : World → Option Schema} {m : Run Schema} {keep : Schema → World → World}
    (h : ∀ w s u, m w = .ok s u → w.Forces (keep s u)) : (Run.lookUp known m keep).Forces := by
  intro w a w' hrun
  obtain ⟨_, _, ⟨⟩, hrun⟩ := Run.bind_ok.1 hrun
  cases found : known w with
  | some s =>
    rw [found] at hrun
    exact pure s w a w' hrun
  | none =>
    rw [found] at hrun
    obtain ⟨s, u, made, hrun⟩ := Run.bind_ok.1 hrun
    cases hrun
    exact h w _ u made

end Run.Forces

/-- Runs call nothing but getters however they are put together. -/
def Run.forcing : Run.Law Unit where
  Holds m := (m ()).Forces
  pure := .pure
  fail := .throw
  log _ := .record nofun
  bind := .bind

namespace Plans

end Plans
end TwoWay
