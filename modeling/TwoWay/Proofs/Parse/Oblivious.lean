import TwoWay.Proofs.Parse.Alike
import TwoWay.Proofs.Parse.Conduct

/-!
# What is remembered does not show

Which lazy nodes have been forced before a parse, and what has happened before it, does not show in
its outcome, as long as it does not go too deep (`Library.parse_oblivious`): a node that is forced
again gives what was remembered of it. The same goes for building and inverting schemas and for
round trips.
-/

namespace TwoWay

namespace Plans

variable (plans : Plans)

/-- Worlds on a level in which the same has been awaited. -/
structure Even (w u : World) : Prop extends plans.Level w u where
  awaited : w.awaited = u.awaited

/-- A run that ends in the same way whatever is remembered, unless it goes too deep. -/
def Oblivious {α : Type} (m : Run α) : Prop :=
  ∀ w u, plans.Even w u → m.result w = Run.tooDeep ∨ m.result u = Run.tooDeep ∨
    m.result w = m.result u ∧ plans.Even (m.final w) (m.final u)

variable {plans} {α β : Type} {m : Run α}

theorem Even.recalling {w u : World} (h : plans.Even w u) : w.recalling u = u := by
  cases w
  cases u
  obtain ⟨⟨_, _, made⟩, awaited⟩ := h
  cases made
  cases awaited
  rfl

theorem Even.symm {w u : World} (h : plans.Even w u) : plans.Even u w :=
  ⟨⟨h.right, h.left, h.made.symm⟩, h.awaited.symm⟩

theorem Even.leads {w u w' : World} (h : plans.Even w u) (hl : plans.Leads w w') :
    plans.Even w' u :=
  ⟨⟨hl.faithful, h.right, hl.made.trans h.made⟩, hl.awaited.trans h.awaited⟩

/-- A look-up ends alike in all faithful worlds, unless it goes too deep. -/
theorem Retraces.agree {made : Nat → Run α} (h : plans.Retraces (beside m made)) {w u : World}
    (hw : plans.Faithful w) (hu : plans.Faithful u) :
    m.result w = Run.tooDeep ∨ m.result u = Run.tooDeep ∨ m.result w = m.result u := by
  obtain ⟨-, deep | ⟨n, hn⟩⟩ := h w hw
  · exact .inl deep
  obtain ⟨-, deep | ⟨n', hn'⟩⟩ := h u hu
  · exact .inr (.inl deep)
  have left := hn (max n n') (Nat.le_max_left ..) {}
  have right := hn' (max n n') (Nat.le_max_right ..) {}
  exact .inr (.inr (left.symm.trans right))

namespace Oblivious

theorem blind (h : m.Blind) : plans.Oblivious m := by
  intro w u even
  obtain ⟨result, final⟩ := h w u
  rw [even.recalling] at result final
  have left : plans.Faithful (m.final w) := by
    rw [h.final w]
    exact even.left.of_memory rfl rfl
  rw [result, final]
  exact .inr (.inr ⟨rfl, ⟨left, even.right.of_memory rfl rfl, rfl⟩, rfl⟩)

theorem record (e : Event) : plans.Oblivious (Run.record e) := fun _ _ even =>
  .inr (.inr ⟨rfl, ⟨even.left.of_memory rfl rfl, even.right.of_memory rfl rfl, even.made⟩,
    even.awaited⟩)

theorem bind {k : α → Run β} {Q : α → Prop} (hm : plans.Oblivious m) (he : plans.Ensures m Q)
    (hk : ∀ a, Q a → plans.Oblivious (k a)) : plans.Oblivious (m >>= k) := by
  intro w u even
  simp only [Run.result_bind, Run.final_bind]
  rcases hm w u even with deep | deep | ⟨same, even'⟩
  · rw [deep]
    exact .inl rfl
  · rw [deep]
    exact .inr (.inl rfl)
  · rw [← same]
    cases hr : m.result w with
    | error f => exact .inr (.inr ⟨rfl, even'⟩)
    | ok a => exact hk a ((he w even.left).2 a hr) _ _ even'

/-- Whatever is remembered, a look-up ends as it does without memory. -/
theorem of_remembering {made : Nat → Run α} (h : plans.remembering.Holds (beside m made)) :
    plans.Oblivious m := by
  intro w u even
  have left := (h w even.left).1
  have right := (h u even.right).1
  refine (h.agree even.left even.right).imp_right (Or.imp_right fun same => ⟨same, ?_⟩)
  exact (even.leads left).symm.leads right |>.symm

end Oblivious

/-- Runs are oblivious however they are put together. -/
def obliviously (plans : Plans) : Discipline plans Unit where
  Holds m := plans.Oblivious (m ())
  blind := .blind
  idle _ := .record _
  bind hm he hk := .bind hm (he ()) hk

theorem obliviously_looked {made : Nat → Run α} (h : plans.remembering.Holds (beside m made)) :
    plans.obliviously.Obeys (fun _ => m) fun _ => True :=
  ⟨.of_remembering h, fun _ w hw => ⟨(h w hw).1.faithful, fun _ _ => trivial⟩⟩

end Plans

namespace Library

variable (lib : Library)

theorem channels_oblivious (mode : Mode) (depth : Nat) :
    Channel.Obey (Plans.obliviously lib.plans) .all fun _ => lib.channel mode depth := by
  have recorded (e : Event) : lib.plans.Oblivious (Run.record e) := .record e
  have forced (depth : Nat) (id : LazyId) (origin : Origin) :
      lib.plans.Oblivious (lib.plans.force depth id origin) :=
    .of_remembering ((Plans.remembers depth).force id origin)
  exact channels_calling (fun fn args => recorded (.called fn args)) forced (fun _ => mode)
    (fun _ => (Plans.obliviously lib.plans).suspend (recorded .suspended) _) depth

/-- The outcome of a parse does not depend on what is remembered from before. -/
theorem parse_oblivious (mode : Mode) (depth : Nat) (s : Schema) (v : Datum) :
    lib.plans.obliviously.Obeys (fun _ => lib.parse mode depth s v) fun _ => True := by
  have parsed := Schema.parses (Allowance.all_closed _) (lib.channels_oblivious mode depth)
    (s := s) trivial
  exact (parse_obeys parsed v.keeps_all).plain

theorem build_oblivious (depth step : Nat) (b : Blueprint) :
    lib.plans.obliviously.Obeys (fun _ => (b.build (lib.plans.builder depth step)).run' 0)
      fun _ => True := by
  obtain ⟨-, tagged, defined⟩ := @Plans.remembers lib.plans depth
  exact Plans.obliviously_looked (Plans.holds_beside
    (Run.Law.Makes.run (Run.Law.build tagged defined b)))

theorem invert_oblivious (depth step : Nat) (settings : InversionSettings) (s : Schema) :
    lib.plans.obliviously.Obeys (fun _ => lib.invert depth step settings s) fun _ => True := by
  obtain ⟨-, tagged, -⟩ := @Plans.remembers lib.plans depth
  exact Plans.obliviously_looked (Plans.holds_beside
    (Run.Law.Makes.run (Run.Law.invertWith tagged s)))

theorem roundTrip_oblivious (mode : Mode) (depth step : Nat) (settings : InversionSettings)
    (s : Schema) (v : Datum) :
    lib.plans.obliviously.Obeys (fun _ => lib.roundTrip mode depth step settings s v)
      fun _ => True := by
  have inverted := lib.invert_oblivious depth step settings s
  have parsed (s : Schema) (v : Datum) := lib.parse_oblivious mode depth s v
  cases mode with
  | sync =>
    exact inverted.bind fun inverse _ => (parsed s v).bind fun output _ => parsed inverse output
  | async =>
    exact (parsed s v).bind fun output _ => inverted.bind fun inverse _ => parsed inverse output

end Library
end TwoWay
