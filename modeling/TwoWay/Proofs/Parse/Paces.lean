import TwoWay.Proofs.Forcing.Ending
import TwoWay.Proofs.Forcing.Once
import TwoWay.Proofs.Parse.Heedless
import TwoWay.Proofs.Parse.InStep

/-!
# Two paces

In worlds of one memory the same lazy nodes are forced in step, and everything that happens is the
same (`Pace.exact`). Lazy nodes of one name that stand for schemas that resemble each other are
forced in step from any faithful worlds (`Plans.pace`). Getters are called there as lazy nodes
happen to be remembered, once for each that is not (`Plans.Way.calls`), and all other calls are
the same.
-/

namespace TwoWay

/-- A run that calls getters once for each lazy node that they build, and nothing else, if it gives
a result. -/
def Run.Tallies {α : Type} (m : Run α) : Prop := ∀ w a w', m w = .ok a w' →
  ∀ fn, w'.calls fn + (w.builtBy fn).length = w.calls fn + (w'.builtBy fn).length

namespace Run.Tallies

variable {α β : Type} {m : Run α}

theorem pure (a : α) : Run.Tallies (Pure.pure a) := by
  rintro w _ _ ⟨⟩ fn
  rfl

theorem throw (f : Failure) : Run.Tallies (throw f : Run α) := nofun

theorem record {e : Event} (h : ∀ fn, e.isCallOf fn = false) : Run.Tallies (Run.record e) := by
  rintro w _ _ ⟨⟩ fn
  simp only [World.calls, World.builtBy, World.record, List.countP_cons, h fn]
  rfl

theorem bind {k : α → Run β} (hm : m.Tallies) (hk : ∀ a, (k a).Tallies) : (m >>= k).Tallies := by
  intro w b w' h fn
  obtain ⟨a, u, ha, hb⟩ := Run.bind_ok.1 h
  have first := hm w a u ha fn
  have second := hk a u b w' hb fn
  omega

/-- What is known is given back, and what is not is made and kept. -/
theorem lookUp {known : World → Option Schema} {m : Run Schema} {keep : Schema → World → World}
    (h : ∀ w s u, m w = .ok s u → ∀ fn,
      (keep s u).calls fn + (w.builtBy fn).length = w.calls fn + ((keep s u).builtBy fn).length) :
    (Run.lookUp known m keep).Tallies := by
  intro w a w' hrun
  obtain ⟨_, _, ⟨⟩, hrun⟩ := Run.bind_ok.1 hrun
  cases found : known w with
  | some s =>
    rw [found] at hrun
    exact pure s w a w' hrun
  | none =>
    rw [found] at hrun
    obtain ⟨s, u, made, hrun⟩ := Run.bind_ok.1 hrun
    cases hrun
    exact h w _ u made

end Run.Tallies

/-- Calls are tallied however runs are put together. -/
def Run.tallying : Run.Law Unit where
  Holds m := (m ()).Tallies
  pure := .pure
  fail := .throw
  log _ := .record fun _ => rfl
  bind := .bind

namespace Plans

/-- A getter is called, and the lazy node it builds is remembered. -/
theorem getter_tallies (plans : Plans) (id : LazyId) (g : FunctionRef) {m : Run Schema}
    (hm : m.Tallies) : (Run.lookUp (·.forced? id (.getter g)) (do plans.announce g; m)
      (World.remember id (.getter g))).Tallies := by
  refine .lookUp fun w s u made fn => ?_
  obtain ⟨notes, noted, said⟩ := plans.announced g w
  have run := (Run.bind_of_ok said).symm.trans made
  have built := hm _ s u run fn
  have silent : notes.countP (·.isCallOf fn) = 0 := by
    refine List.countP_eq_zero.2 fun e he => ?_
    obtain ⟨entry, rfl⟩ := noted e he
    exact Bool.false_ne_true
  have called : ({ w with journal := notes ++ .called g [] :: w.journal } : World).calls fn =
      w.calls fn + if g = fn then 1 else 0 := by
    have call : (Event.called g []).isCallOf fn = decide (g = fn) := by simp [Event.isCallOf]
    simp only [World.calls, List.countP_append, List.countP_cons, silent, call, decide_eq_true_eq,
      Nat.zero_add]
  have kept : ((World.remember id (.getter g) s u).builtBy fn).length =
      (u.builtBy fn).length + if g = fn then 1 else 0 := by
    by_cases same : g = fn <;> simp [World.builtBy, World.remember, same]
  have unread : (World.remember id (.getter g) s u).calls fn = u.calls fn := rfl
  rw [kept, unread]
  rw [called] at built
  have memory : ({ w with journal := notes ++ .called g [] :: w.journal } : World).builtBy fn =
      w.builtBy fn := rfl
  rw [memory] at built
  omega

theorem tallying_recalls (plans : Plans) : Run.tallying.Recalls plans where
  getter id g _ hm := plans.getter_tallies id g hm
  inverse id settings base of _ hm := by
    refine .lookUp fun w s u made fn => ?_
    have kept : (World.remember id (.inverse settings base of) s u).builtBy fn = u.builtBy fn := by
      simp [World.builtBy, World.remember]
    rw [kept]
    exact hm w s u made fn
  shared name _ hm := .lookUp fun w s u made fn => hm w s u made fn

theorem force_tallies (plans : Plans) (depth : Nat) (id : LazyId) (origin : Origin) :
    (plans.force depth id origin).Tallies := (plans.tallying_recalls.looks depth).1 id origin

end Plans

/-! ## Worlds of one memory -/

/-- Worlds of one memory in which things have happened that look the same. -/
structure World.Matches (view : View) (w u : World) : Prop where
  forced : w.forced = u.forced
  shared : w.shared = u.shared
  made : w.made = u.made
  awaited : w.awaited = u.awaited
  journal : List.Forall₂ (Event.Resembles view) w.journal u.journal

/-- From worlds of one memory, with nothing left to chance. -/
def Pace.exact (view : View) : Pace view where
  Level := World.Matches view
  Failed := World.Matches view
  stray _ := False
  made h := h.made
  awaited h := h.awaited
  record h he := ⟨h.forced, h.shared, h.made, h.awaited, .cons he h.journal⟩
  spend _ _ h := ⟨h.forced, h.shared, rfl, rfl, h.journal⟩
  failed h := h

variable {view : View}

theorem World.Matches.telling {w u : World} (h : w.Matches view u) :
    u = w.telling u.journal := by
  cases w
  cases u
  obtain ⟨rfl, rfl, rfl, rfl, -⟩ := h
  rfl

/-- Where lazy nodes go by their own names, the same ones are forced. -/
theorem Pace.exact_forces (own : ∀ id origin, view.name id origin = (id, origin)) (plans : Plans) :
    (Pace.exact view).ForcesWithin plans := by
  intro m id id' origin origin' name w u level
  rw [own, own] at name
  cases name
  obtain ⟨new, ends⟩ := plans.force_heedless m id origin w
  obtain ⟨-, left⟩ := ends w.journal
  obtain ⟨result, right⟩ := ends u.journal
  rw [← level.telling] at result right
  have level' : ((plans.force m id origin).final w).Matches view
      ((plans.force m id origin).final u) := by
    have same : w.telling w.journal = w := rfl
    rw [same] at left
    have alike : List.Forall₂ (Event.Resembles view) new new := List.forall₂_same.2 fun _ _ => .same
    rw [right]
    exact ⟨rfl, rfl, rfl, rfl, congrArg World.journal left ▸ List.rel_append alike level.journal⟩
  unfold Run.result Run.final at *
  cases hw : plans.force m id origin w with
  | ok s w' =>
    cases hu : plans.force m id origin u with
    | ok t u' =>
      simp only [hw, hu, Except.ok.injEq] at result level'
      exact .ok 0 level' (congrArg _ result.symm) fun _ _ => hu
    | error g u' => simp [hw, hu] at result
  | error f w' =>
    cases hu : plans.force m id origin u with
    | ok t u' => simp [hw, hu] at result
    | error g u' =>
      simp only [hw, hu, Except.error.injEq] at result level'
      exact .error 0 level' (result ▸ .same) fun _ _ => hu

/-! ## Faithful worlds -/

namespace Plans

/-- What has happened on the way from one world to another, apart from the forcing of lazy nodes,
latest first. -/
inductive Way (plans : Plans) (w₀ : World) : World → List Event → Prop
  | start : Way plans w₀ w₀ []
  | event {w kept} (e : Event) : Way plans w₀ w kept → Way plans w₀ (w.record e) (e :: kept)
  | spend {w kept} (n : Nat) (ids : List Identity) : Way plans w₀ w kept →
    Way plans w₀ { w with made := n, awaited := ids } kept
  | force {w w' kept m id origin s} : Way plans w₀ w kept →
    plans.force m id origin w = .ok s w' → Way plans w₀ w' kept

namespace Way

variable {plans : Plans} {w₀ w : World} {kept : List Event}

/-- Everything that has happened is in the journal, and what is there besides is quiet. -/
theorem journal (h : plans.Way w₀ w kept) : ∃ new, w.journal = new ++ w₀.journal ∧
    kept.Sublist new ∧ kept.filter (!·.isQuiet) = new.filter (!·.isQuiet) := by
  induction h with
  | start => exact ⟨[], rfl, .slnil, rfl⟩
  | event e _ ih =>
    obtain ⟨new, added, sublist, loud⟩ := ih
    refine ⟨e :: new, congrArg (e :: ·) added, sublist.cons_cons e, ?_⟩
    rw [List.filter_cons, List.filter_cons, loud]
  | spend _ _ _ ih => exact ih
  | @force w w' kept m id origin s _ run ih =>
    obtain ⟨new, added, sublist, loud⟩ := ih
    obtain ⟨forced, more, quiet⟩ := plans.force_quiet m id origin w
    rw [Run.final, run] at more
    have none : forced.filter (!·.isQuiet) = [] := List.filter_eq_nil_iff.2 fun e he => by
      simp [quiet e he]
    refine ⟨forced ++ new, ?_, sublist.trans (List.sublist_append_right ..), ?_⟩
    · rw [more, added, List.append_assoc]
    · rw [List.filter_append, none, List.nil_append, loud]

/-- Of the calls of a getter those are left out that have built a lazy node, one for each. -/
theorem calls (h : plans.Way w₀ w kept) (fn : FunctionRef) :
    w.calls fn + (w₀.builtBy fn).length =
      kept.countP (·.isCallOf fn) + w₀.calls fn + (w.builtBy fn).length := by
  induction h with
  | start => exact congrArg (· + _) (Nat.zero_add _).symm
  | @event w kept e _ ih =>
    have built : (w.record e).builtBy fn = w.builtBy fn := rfl
    have called : (w.record e).calls fn = w.calls fn + if e.isCallOf fn then 1 else 0 :=
      List.countP_cons
    rw [List.countP_cons, built, called]
    omega
  | spend _ _ _ ih => exact ih
  | @force w w' kept m id origin s _ run ih =>
    have since := plans.force_tallies m id origin w s w' run fn
    omega

end Way

/-- Faithful worlds on the way to which the same has happened, but for the forcing of lazy nodes. -/
structure Apace (plans : Plans) (view : View) (w₀ u₀ w u : World) : Prop where
  left : plans.Faithful w
  right : plans.Faithful u
  made : w.made = u.made
  awaited : w.awaited = u.awaited
  happened : ∃ kept kept', plans.Way w₀ w kept ∧ plans.Way u₀ u kept' ∧
    List.Forall₂ (Event.Resembles view) kept kept'

/-- The same has happened on the way to both worlds, or a lazy node could not be forced at the
end. -/
inductive Halted (plans : Plans) (view : View) (w₀ u₀ w u : World) : Prop
  | apace : plans.Apace view w₀ u₀ w u → Halted plans view w₀ u₀ w u
  | forcing {w₁ u₁ m n id id' origin origin' f} : plans.Apace view w₀ u₀ w₁ u₁ →
    plans.force m id origin w₁ = .error f w → plans.force n id' origin' u₁ = .error f u →
    Halted plans view w₀ u₀ w u

variable {plans : Plans} {w₀ u₀ w u w' u' : World}

theorem Apace.start (left : plans.Faithful w) (right : plans.Faithful u) (made : w.made = u.made)
    (awaited : w.awaited = u.awaited) : plans.Apace view w u w u :=
  ⟨left, right, made, awaited, [], [], .start, .start, .nil⟩

/-- Lazy nodes are forced on both ways. -/
theorem Apace.forces (h : plans.Apace view w₀ u₀ w u) {m n : Nat} {id id' : LazyId}
    {origin origin' : Origin} {s s' : Schema} (hw : plans.force m id origin w = .ok s w')
    (hu : plans.force n id' origin' u = .ok s' u') : plans.Apace view w₀ u₀ w' u' := by
  have leads := (force_ok h.left hw).1
  have leads' := (force_ok h.right hu).1
  obtain ⟨kept, kept', left, right, alike⟩ := h.happened
  refine ⟨leads.faithful, leads'.faithful, ?_, ?_, _, _, left.force hw, right.force hu, alike⟩
  · rw [leads.made, leads'.made, h.made]
  · rw [leads.awaited, leads'.awaited, h.awaited]

variable (plans view w₀ u₀)

/-- From faithful worlds, whatever is remembered in them. Nobody keeps step with a run that goes too
deep. -/
def pace : Pace view where
  Level := plans.Apace view w₀ u₀
  Failed := plans.Halted view w₀ u₀
  stray f := f = .fault .tooDeep
  made h := h.made
  awaited h := h.awaited
  record h he := by
    obtain ⟨kept, kept', left, right, alike⟩ := h.happened
    exact ⟨h.left.of_memory rfl rfl, h.right.of_memory rfl rfl, h.made, h.awaited, _, _,
      left.event _, right.event _, .cons he alike⟩
  spend n ids h := by
    obtain ⟨kept, kept', left, right, alike⟩ := h.happened
    exact ⟨h.left.of_memory rfl rfl, h.right.of_memory rfl rfl, rfl, rfl, _, _,
      left.spend n ids, right.spend n ids, alike⟩
  failed := .apace

variable {plans view w₀ u₀}

/-- Lazy nodes that stand for schemas that resemble each other are forced in step. -/
theorem Consistent.forces (h : plans.Consistent view (Schema.Resembles view)) :
    (plans.pace view w₀ u₀).Forces plans where
  stray := rfl
  force := by
    intro m id id' origin origin' name w u level
    cases hw : plans.force m id origin w with
    | ok s w' =>
      obtain ⟨t, given, alike⟩ := h.gives name (force_ok level.left hw).2
      obtain ⟨d, forced⟩ := given.forced
      obtain ⟨u', -, ends⟩ := forced u level.right
      exact .ok d (level.forces hw (ends d (Nat.le_refl d))) alike ends
    | error f w' =>
      by_cases deep : f = .fault .tooDeep
      · exact .stray deep
      have fails := h.fails name (force_error level.left hw).2 deep
      obtain ⟨d, forced⟩ := fails.forced deep
      obtain ⟨u', -, ends⟩ := forced u level.right
      exact .error d (.forcing level hw (ends d (Nat.le_refl d))) .same ends

end Plans
end TwoWay
