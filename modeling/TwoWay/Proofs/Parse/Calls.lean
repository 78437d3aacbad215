import TwoWay.Proofs.Parse.Conduct

/-!
# Where calls come from

Everything that a parse adds to the journal has a reason in what had happened until then
(`Extends`). A function is called on a value by a node that runs it on whatever it gets, or by a
coroutine that another function has given and that is awaited, or else by a node that maps with
it, and then the value is the clean output of the wrapped schema (`Library.Accounts`).
-/

namespace TwoWay

/-- A journal, latest first, that was extended by events which had `P` when they happened. -/
inductive Extends (P : Event → List Event → Prop) (start : List Event) : List Event → Prop
  | refl : Extends P start start
  | cons {e : Event} {past : List Event} (h : Extends P start past) (he : P e past) :
    Extends P start (e :: past)

namespace Extends

variable {P : Event → List Event → Prop} {start journal journal' : List Event}

theorem trans (h : Extends P start journal) (h' : Extends P journal journal') :
    Extends P start journal' := by
  induction h' with
  | refl => exact h
  | cons _ he ih => exact .cons ih he

theorem suffix (h : Extends P start journal) : start <:+ journal := by
  induction h with
  | refl => exact List.suffix_refl _
  | cons _ _ ih => exact ih.trans (List.suffix_cons ..)

theorem append {new : List Event} (h : ∀ e ∈ new, ∀ past, P e past) :
    Extends P start (new ++ start) := by
  induction new with
  | nil => exact .refl
  | cons e new ih =>
    obtain ⟨he, hnew⟩ := List.forall_mem_cons.1 h
    exact .cons (ih hnew) (he _)

theorem added (h : Extends P start journal) :
    ∃ new, journal = new ++ start ∧ ∀ e ∈ new, ∃ past, P e past := by
  induction h with
  | refl => exact ⟨[], rfl, List.forall_mem_nil _⟩
  | @cons e past _ he ih =>
    obtain ⟨new, rfl, hnew⟩ := ih
    exact ⟨e :: new, rfl, List.forall_mem_cons.2 ⟨⟨_, he⟩, hnew⟩⟩

/-- Every event that is new had `P` when it happened. -/
theorem happened (h : Extends P start journal) {e : Event} {past : List Event}
    (he : e :: past <:+ journal) (hs : start <:+ past) : P e past := by
  induction h with
  | refl =>
    -- What was there before the run is no longer than itself.
    have shorter : past.length + 1 ≤ start.length := by simpa using he.length_le
    have longer : start.length ≤ past.length := hs.length_le
    omega
  | cons _ hp ih =>
    rcases List.suffix_cons_iff.1 he with same | he
    · obtain ⟨rfl, rfl⟩ := List.cons.inj same
      exact hp
    · exact ih he

end Extends

variable {plans : Plans}

/-- Reasons why events happen after others. Only calls on a value need one. -/
structure Reasons where
  Explains : Event → List Event → Prop
  other : ∀ e past, (∀ fn x, e ≠ .called fn [x]) → Explains e past

theorem Reasons.quiet (R : Reasons) {α : Type} {m : Run α} (h : m.Quiet) (w : World) :
    Extends R.Explains w.journal (m.final w).journal := by
  obtain ⟨new, journal, quiet⟩ := h w
  rw [journal]
  refine .append fun e he past => R.other e past fun fn x hcall => ?_
  simpa [hcall, Event.isQuiet] using quiet e he

/-- Runs that extend the journal by events which have a reason. -/
def Reasons.course (R : Reasons) : Course where
  Holds m w := Extends R.Explains w.journal (m.final w).journal
  blind h := R.quiet h.adds _
  idle h := .cons .refl (R.other _ _ fun _ _ same => by
    subst same
    exact h.elim nofun nofun)
  bind {α β m k w} hm hk := by
    rw [Run.final_bind]
    cases hr : m.result w with
    | error f => exact hm
    | ok a => exact hm.trans (hk a hr)
  grows := Extends.suffix

/-- Runs extend the journal by events that have a reason, from worlds where certain events have
happened. -/
def Reasons.tracing (R : Reasons) (plans : Plans) (known : Event → Prop) :
    Discipline plans Unit := R.course.after plans known

namespace Reasons

variable (R : Reasons) {known : Event → Prop}

/-- Going on quietly. -/
theorem goesOn {α β : Type} {m : Run α} {k : α → Run β} {start : List Event} {w : World}
    (h : Extends R.Explains start (m.final w).journal) (hk : ∀ a, (k a).Quiet) :
    Extends R.Explains start ((m >>= k).final w).journal := by
  rw [Run.final_bind]
  cases m.result w with
  | error f => exact h
  | ok a => exact h.trans (R.quiet (hk a) _)

end Reasons

/-! ## Calls of a parse -/

/-- Everything may occur in values, but awaitables parse with certain schemas. -/
def Allowance.over (schemas : Schema → Prop) : Allowance := ⟨True, fun _ => True, schemas⟩

/-- Why an event happens after `past`, latest first, in a parse with certain schemas. -/
inductive Library.Accounts (lib : Library) (schemas : Schema → Prop) (mode : Mode) :
    Event → List Event → Prop
  /-- No function is called on a value. -/
  | other {e : Event} {past : List Event} (h : ∀ fn x, e ≠ .called fn [x]) :
    Accounts lib schemas mode e past
  /-- A node maps the clean output of the schema it wraps. -/
  | mapped {s wrapped : Schema} {action : Action Live} {depth : Nat} {path : Path Live}
    {v x : Datum} {w w' : World} (hs : schemas s) (hm : s.mapping? = some (wrapped, action))
    (hw : lib.plans.Faithful w)
    (alone : wrapped.parseIn (lib.channel mode depth) path v (w, []) = .ok x (w', []))
    (valid : x.isInvalid = false) :
    Accounts lib schemas mode (.called action.function [x]) w'.journal
  /-- A node runs its function on whatever it gets. -/
  | ungated {s : Schema} {action : Action Live} {x : Datum} {past : List Event} (hs : schemas s)
    (hu : s.ungated? = some action) :
    Accounts lib schemas mode (.called action.function [x]) past
  /-- A coroutine is awaited that a function has given when it was called. -/
  | started {action : Action Live} {y : Datum} {path : Path Live} {x : Live} {fn : FunctionRef}
    {args : List Datum} {past : List Event} (called : .called action.function [y] ∈ past)
    (plain : lib.host.isAsync action.function = false)
    (given : (lib.host.reply action y path).outcome = .ok (.live x)) (hx : x.Starts fn args) :
    Accounts lib schemas mode (.called fn args) past

/-- How a parse in a context ends that tracks one which gives a result. -/
theorem Schema.Follows.ok {a : Allowance} {ch : Channel} {s : Schema} (h : s.Follows plans a ch)
    {path : Path Live} {v : Datum} (hv : v.KeepsOr a True) {w w' : World} (hw : plans.Faithful w)
    {r : Parsed} (hr : s.runWith ch.links path v w = .ok r w') :
    plans.Faithful w' ∧ r.Keeps a path (v = .missing) ∧
      ∀ before, s.parseIn ch path v (w, before) = .ok r.value (w', before ++ r.issues) := by
  have := h path v hv w hw
  simpa only [hr, List.append_nil, List.nil_append] using this

/-- How a parse in a context ends that tracks one which fails. -/
theorem Schema.Follows.error {a : Allowance} {ch : Channel} {s : Schema}
    (h : s.Follows plans a ch) {path : Path Live} {v : Datum} (hv : v.KeepsOr a True)
    {w w' : World} (hw : plans.Faithful w) {f : Failure}
    (hr : s.runWith ch.links path v w = .error f w') :
    ∃ new, ∀ before, s.parseIn ch path v (w, before) = .error f (w', before ++ new) := by
  have := h path v hv w hw
  simp only [hr, List.append_nil] at this
  obtain ⟨-, new, -, ends⟩ := this
  exact ⟨new, ends⟩

theorem Schema.mapping?_child {s wrapped : Schema} {action : Action Live}
    (h : s.mapping? = some (wrapped, action)) : wrapped ∈ s.children := by
  unfold mapping? at h
  split at h
  · cases h
    exact List.mem_singleton_self _
  · cases h
    exact List.mem_cons_self ..
  · cases h

namespace Library

variable {lib : Library} {schemas : Schema → Prop}

/-- The reasons of a parse. -/
def reasons (lib : Library) (schemas : Schema → Prop) (mode : Mode) : Reasons :=
  ⟨lib.Accounts schemas mode, fun _ _ => .other⟩

/-- What an effect does after it has called its function is accounted for. -/
theorem act_accounted (hh : lib.host.Keeps (.over schemas)) {mode : Mode} {depth : Nat}
    (awaiting : Channel.Awaiting ((lib.reasons schemas mode).tracing lib.plans fun _ => False)
      (.over schemas) lib.host fun _ => lib.channel mode depth)
    (action : Action Live) (path : Path Live) {v : Datum} (hv : v.KeepsOr (.over schemas) True)
    {w : World} (hw : lib.plans.Faithful w) :
    Extends (lib.Accounts schemas mode) (.called action.function [v] :: w.journal)
      (((lib.channel mode depth).links.act action path v).final w).journal := by
  rw [Links.act_eq, channel_host]
  exact (lib.reasons schemas mode).course.finishCall hh awaiting action path hv
    (fun x hx plain fn args starts u known => .cons .refl (.started known plain hx starts)) hw

/-- Everything that happens is accounted for. -/
theorem channels_account (hc : (Allowance.over schemas).Closed lib.plans)
    (hh : lib.host.Keeps (.over schemas)) (mode : Mode) (depth : Nat) :
    Channel.Awaiting ((lib.reasons schemas mode).tracing lib.plans fun _ => False)
        (.over schemas) lib.host (fun _ => lib.channel mode depth) ∧
      Channel.Obey ((lib.reasons schemas mode).tracing lib.plans fun _ => False) (.over schemas)
        fun _ => lib.channel mode depth := by
  have serves : ((lib.reasons schemas mode).tracing lib.plans fun _ => False).Serves
      (.over schemas) := .of_quiet fun h w _ _ => Reasons.quiet _ h w
  refine channels_obey hc hh serves (fun _ => mode) (fun _ => Course.after_suspend _ _ _)
    (fun depth awaiting => ⟨fun {s action} hs hu path v hv w hw _ => ?_,
      fun {s wrapped action} hs hm hw path v hv w hfaithful _ => ?_⟩) depth
  · have called : Extends (lib.Accounts schemas mode) w.journal
        (.called action.function [v] :: w.journal) := .cons .refl (.ungated hs hu)
    exact called.trans (act_accounted hh awaiting action path hv hw)
  · have first := (hw path v hv).holds w hfaithful fun _ h => h.elim
    change Extends _ _ _
    rw [Run.final_bind]
    cases hr : (wrapped.runWith (lib.channel mode depth).links path v).result w with
    | error f => exact first
    | ok r =>
      refine first.trans ?_
      obtain ⟨w', hrun⟩ := Run.result_ok.1 hr
      have wrapped := Schema.parseIn_tracks hc (channel_follows hc hh mode depth)
        (hc.child hs (s.mapping?_child hm))
      obtain ⟨faithful, kept, alone⟩ := wrapped.ok hv hfaithful hrun
      rw [Run.final, hrun]
      dsimp only [Parsed.andThen]
      by_cases clean : r.isClean
      · obtain ⟨valid, issues⟩ := Parsed.isClean_iff.1 clean
        have called : Extends (lib.Accounts schemas mode) w'.journal
            (.called action.function [r.value] :: w'.journal) :=
          .cons .refl (.mapped hs hm hfaithful (by rw [alone, issues]; rfl) valid)
        have acted := called.trans
          (act_accounted hh awaiting action path (kept.clean clean) faithful)
        rw [if_pos clean]
        exact (lib.reasons schemas mode).goesOn acted fun given =>
          .bind (Value.numbered_blind _).adds fun _ => .pure _
      · rw [if_neg clean]
        exact .refl

end Library
end TwoWay
