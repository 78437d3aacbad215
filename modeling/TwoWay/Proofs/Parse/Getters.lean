import TwoWay.Proofs.Forcing.Once
import TwoWay.Proofs.Parse.Conduct

/-!
# Getters in a parse

A parse calls a getter for lazy nodes that have not been forced before, and for nothing else
(`Library.parse_tallies`). It does not call it as a factory, if the getter is none; but a user
function that is called may hand over a coroutine of the getter, which calls it when it is awaited
(`Host.Lends`).
-/

namespace TwoWay

/-- A function has been called which hands over an awaitable that calls a getter. -/
inductive Host.Lends (host : Host) (fn : FunctionRef) (journal : List Event) : Prop
  | intro {action : Action Live} {v : Datum} {path : Path Live} {x : Live}
    (called : .called action.function [v] ∈ journal) (plain : host.isAsync action.function = false)
    (given : (host.reply action v path).outcome = .ok (.live x)) (starts : x.Starts fn [])

theorem Host.Lends.mono {host : Host} {fn : FunctionRef} {journal journal' : List Event}
    (h : host.Lends fn journal) (sub : journal ⊆ journal') : host.Lends fn journal' := by
  obtain ⟨called, plain, given, starts⟩ := h
  exact ⟨sub called, plain, given, starts⟩

/-- Runs that call a getter only to build lazy nodes that were not built before, unless they go
too deep or the getter is lent. -/
def Host.tallying (host : Host) (fn : FunctionRef) : Course where
  Holds m w := w.journal <:+ (m.final w).journal ∧ (m.result w = Run.tooDeep ∨
    host.Lends fn (m.final w).journal ∨
    ∀ others, w.Tallies fn others → (m.final w).Tallies fn others)
  blind {α m w} h := by
    rw [h.final w]
    exact ⟨List.suffix_refl _, .inr (.inr fun _ tallies => ⟨tallies.distinct, tallies.calls⟩)⟩
  idle {e w} h := by
    refine ⟨List.suffix_cons .., .inr (.inr fun _ tallies => tallies.record ?_)⟩
    cases e with
    | called => exact h.elim nofun nofun
    | _ => rfl
  bind {α β m k w} hm hk := by
    obtain ⟨grows, counted⟩ := hm
    simp only [Run.result_bind, Run.final_bind]
    cases hr : m.result w with
    | error f =>
      rw [hr] at counted
      exact ⟨grows, counted.imp_left fun deep => congrArg _ (Except.error.inj deep)⟩
    | ok a =>
      obtain ⟨grows', counted'⟩ := hk a hr
      refine ⟨grows.trans grows', counted'.imp_right fun next => ?_⟩
      rcases counted.resolve_left (hr ▸ Run.ok_ne_tooDeep a) with lent | before
      · exact .inl (lent.mono grows'.subset)
      · exact next.imp_right fun next others tallies => next others (before others tallies)
  grows h := h.1

variable {host : Host} {fn : FunctionRef}

theorem Host.tallying_record {e : Event} (he : e.isCallOf fn = false) (w : World) :
    (host.tallying fn).Holds (Run.record e) w :=
  ⟨List.suffix_cons .., .inr (.inr fun _ tallies => tallies.record he)⟩

theorem Host.tallying_quiet {plans : Plans} {α : Type} {m : Run α} (quiet : m.Quiet)
    (counted : plans.Counted fn m) {w : World} (hw : plans.Faithful w) :
    (host.tallying fn).Holds m w := by
  obtain ⟨new, journal, -⟩ := quiet w
  exact ⟨⟨new, journal.symm⟩, (counted w hw).2.imp_right .inr⟩

/-- What a function hands over may call the getter: then it is lent. -/
theorem Host.tallying_started {action : Action Live} {v : Datum} {path : Path Live} {x : Live}
    (plain : host.isAsync action.function = false)
    (given : (host.reply action v path).outcome = .ok (.live x)) {g : FunctionRef}
    {args : List Datum} (starts : x.Starts g args) {w : World}
    (called : .called action.function [v] ∈ w.journal) :
    (host.tallying fn).Holds (Run.record (.called g args)) w := by
  by_cases lent : g = fn ∧ args = []
  · obtain ⟨rfl, rfl⟩ := lent
    exact ⟨List.suffix_cons .., .inr (.inl ⟨List.mem_cons_of_mem _ called, plain, given, starts⟩)⟩
  · refine Host.tallying_record ?_ w
    simpa [Event.isCallOf] using lent

/-- The function that a node calls for a substitute. -/
def Schema.factory? : Schema → Option FunctionRef
  | .default _ (.factory fn) | .catch _ (.factory fn) => some fn
  | _ => Option.none

namespace Library

variable {lib : Library} {a : Allowance}

theorem channels_tally (hc : a.Closed lib.plans) (hh : lib.host.Keeps a)
    (hf : lib.plans.Returns fn) (alone : ∀ s, a.schemas s → s.factory? ≠ some fn) (mode : Mode)
    (depth : Nat) :
    Channel.Obey ((lib.host.tallying fn).after lib.plans fun _ => False) a
      fun _ => lib.channel mode depth := by
  have substitute {s : Schema} {g : FunctionRef} (hs : a.schemas s) (hg : s.factory? = some g)
      (w : World) : (lib.host.tallying fn).Holds (Run.record (.called g [])) w := by
    have other : g ≠ fn := fun same => alone s hs (same ▸ hg)
    exact Host.tallying_record (by simp [Event.isCallOf, other]) w
  have serves : ((lib.host.tallying fn).after lib.plans fun _ => False).Serves a := by
    refine ⟨fun depth {id origin} _ w hw _ => ?_, fun hs w _ _ => substitute hs rfl w,
      fun hs w _ _ => substitute hs rfl w⟩
    exact Host.tallying_quiet (lib.plans.force_quiet depth id origin)
      ((lib.plans.looks_counted hf depth).1 id origin) hw
  refine (channels_obey hc hh serves (fun _ => mode) (fun _ => Course.after_suspend _ _ _)
    (fun depth awaiting => .of_act fun {s action} _ _ path v hv => ⟨fun w hw _ => ?_, fun _ =>
      ((channel_follows hc hh mode depth).act action path v hv).ensures.weaken
        fun _ _ => trivial⟩) depth).2
  rw [Links.act_eq, channel_host]
  refine (lib.host.tallying fn).bind (Host.tallying_record (by simp [Event.isCallOf]) w)
    fun _ _ => ?_
  exact (lib.host.tallying fn).finishCall hh awaiting action path hv
    (fun x given plain g args starts u called => Host.tallying_started plain given starts called) hw

/-- A parse calls a getter only to build lazy nodes that were not built before. -/
theorem parse_tallies (hc : a.Closed lib.plans) (hh : lib.host.Keeps a)
    (hf : lib.plans.Returns fn) (alone : ∀ s, a.schemas s → s.factory? ≠ some fn) (mode : Mode)
    (depth : Nat) {s : Schema} (hs : a.schemas s) {v : Datum} (hv : v.Keeps a) :
    ((lib.host.tallying fn).after lib.plans fun _ => False).Obeys
      (fun _ => lib.parse mode depth s v) (·.Keeps a) :=
  parse_obeys (Schema.parses hc (channels_tally hc hh hf alone mode depth) hs) hv

end Library
end TwoWay
