import TwoWay.Proofs.Forcing.Ending
import TwoWay.Proofs.Parse.Conduct
import TwoWay.Proofs.Value.Likeness

/-!
# Reliable functions

The functions of users may do anything. A reliable one (`Host.Reliable`) neither fails nor waits,
gives no sentinels and no awaitables, and cannot tell alike values from each other. It does the
same on all links (`Host.Reliable.act`), and what it passes at one place it passes at all
(`Host.Reliable.passes`).
-/

namespace TwoWay

def Happening.isReport : Happening → Bool
  | .reported .. => true
  | _ => false

/-- Whether a function reports an issue. -/
def Reply.reports (reply : Reply) : Bool := reply.happenings.any Happening.isReport

/-- A call that neither fails nor waits. What it gives is no awaitable, and once it has its
identities it is genuine, and no other value than before. -/
structure Reply.Plain (reply : Reply) : Prop where
  unsuspended : .suspended ∉ reply.happenings
  gives : ∃ v, reply.outcome = .ok v ∧ (∀ x, v = .live x → x.isAwaitable = false) ∧
    ∀ w x w', v.numbered w = .ok x w' → x.Genuine ∧ v.Alike x

/-- Calls that give alike values, and of which both report issues or none does. -/
structure Reply.Alike (reply reply' : Reply) : Prop where
  outcome : ∀ v v', reply.outcome = .ok v → reply'.outcome = .ok v' → v.Alike v'
  reports : reply.reports = reply'.reports

/-- An effect whose function is plain, and cannot tell alike values from each other. -/
structure Host.Reliable (host : Host) (action : Action Live) : Prop where
  plain : host.isAsync action.function = false
  replies : ∀ v path, v.Given False → (host.reply action v path).Plain
  alike : ∀ v u path path', v.Given False → u.Given False → v.Alike u →
    (host.reply action v path).Alike (host.reply action u path')

/-- An effect that reports nothing about a value. -/
def Host.Passes (host : Host) (action : Action Live) (v : Datum) (path : Path Live) : Prop :=
  (host.reply action v path).reports = false ∧
    ∀ fn message below y, action = .check fn message below →
      (host.reply action v path).outcome = .ok y → y.truthy

/-- Runs that give one thing from every world, and do no more than write into the journal, all
alike. -/
def Run.Sure {ι α : Type} (m : ι → Run α) (a : α) : Prop :=
  ∀ w, ∃ journal, ∀ i, m i w = .ok a { w with journal := journal }

namespace Run.Sure

variable {ι α β : Type} {m : ι → Run α} {a : α}

theorem pure (a : α) : Run.Sure (fun _ : ι => Pure.pure a) a := fun w => ⟨w.journal, fun _ => rfl⟩

theorem record (e : Event) : Run.Sure (fun _ : ι => Run.record e) () :=
  fun w => ⟨e :: w.journal, fun _ => rfl⟩

theorem bind {k : ι → α → Run β} {b : β} (hm : Run.Sure m a) (hk : Run.Sure (fun i => k i a) b) :
    Run.Sure (fun i => m i >>= k i) b := by
  intro w
  obtain ⟨journal, first⟩ := hm w
  obtain ⟨journal', second⟩ := hk { w with journal := journal }
  exact ⟨journal', fun i => Run.bind_ok.2 ⟨a, _, first i, second i⟩⟩

theorem unique (h : Run.Sure m a) {i : ι} {b : α} {w w' : World} (hb : m i w = .ok b w') :
    b = a := by
  obtain ⟨journal, ran⟩ := h w
  cases hb.symm.trans (ran i)
  rfl

theorem attains {plans : Plans} {fails : Failure → Prop} {m : Nat → Run α} {Q : α → Prop}
    (h : Run.Sure m a) (hq : Q a) : plans.Ends fails m Q := by
  intro w hw
  obtain ⟨journal, ran⟩ := h w
  refine ⟨0, .ok a, { w with journal := journal }, nofun, fun b same => ?_, hw.of_memory rfl rfl,
    fun k _ => ?_⟩
  · exact Except.ok.inj same ▸ hq
  · simp only [Run.result, Run.final, ran, and_self]

end Run.Sure

namespace Links

variable {ι : Type}

theorem play_plain (path : Path Live) {happenings : List Happening}
    (h : .suspended ∉ happenings) :
    ∃ issues, (issues = [] ↔ happenings.any Happening.isReport = false) ∧
      ∀ links : ι → Links, Run.Sure (fun i => (links i).play path happenings) issues := by
  induction happenings with
  | nil => exact ⟨[], by simp, fun _ => .pure []⟩
  | cons happening rest ih =>
    obtain ⟨first, hrest⟩ := not_or.1 (List.mem_cons.not.1 h)
    obtain ⟨issues, silent, ih⟩ := ih hrest
    have joined (before : List (Issue Live)) (links : ι → Links) :
        Run.Sure (fun i => (do return before ++ (← (links i).play path rest) : Run _))
          (before ++ issues) := .bind (ih links) (.pure _)
    cases happening with
    | suspended => exact absurd rfl first
    | noted entry => exact ⟨issues, silent, fun links => .bind (.record _) (joined [] links)⟩
    | yielded => exact ⟨issues, silent, fun links => .bind (.record _) (joined [] links)⟩
    | reported code message below details =>
      exact ⟨_, by simp [Happening.isReport], fun links => joined [_] links⟩

theorem finishCall_plain (host : Host) {fn : FunctionRef} (async : host.isAsync fn = false)
    (path : Path Live) {reply : Reply} (h : reply.Plain) :
    ∃ y issues, reply.outcome = .ok y ∧ (issues = [] ↔ reply.reports = false) ∧
      ∀ links : ι → Links, (∀ i, (links i).host = host) →
        Run.Sure (fun i => (links i).finishCall fn path reply) ⟨y, issues⟩ := by
  obtain ⟨issues, silent, played⟩ := play_plain path h.unsuspended
  obtain ⟨y, given, ready, -⟩ := h.gives
  refine ⟨y, issues, given, silent, fun links hlinks => ?_⟩
  have resolved : Run.Sure (fun i => (links i).resolve y) ⟨y, []⟩ := by
    cases y with
    | live x =>
      simp only [resolve, ready x rfl, Bool.false_eq_true, if_false]
      exact .pure _
    | _ => exact .pure _
  have lifted : Run.Sure (fun _ : ι => Run.lift reply.outcome) y := by
    rw [given]
    exact .pure y
  simp only [finishCall, hlinks, async]
  refine .bind (played links) (.bind lifted (.bind resolved ?_))
  rw [List.append_nil]
  exact .pure _

end Links

namespace Host.Reliable

variable {host : Host} {action : Action Live}

/-- A reliable effect does the same on all links, and reports an issue if it does not pass. -/
theorem act (h : host.Reliable action) {v : Datum} (hv : v.Given False) (path : Path Live)
    {ι : Type} : ∃ y issues, (host.reply action v path).outcome = .ok y ∧
      (issues = [] ↔ host.Passes action v path) ∧
      ∀ links : ι → Links, (∀ i, (links i).host = host) →
        Run.Sure (fun i => (links i).act action path v)
          ⟨(action.result path v ⟨y, []⟩).value, issues⟩ := by
  obtain ⟨y, issues, given, silent, called⟩ :=
    Links.finishCall_plain (ι := ι) host h.plain path (h.replies v path hv)
  refine ⟨y, (action.result path v ⟨y, issues⟩).issues, given, ?_, fun links hlinks => ?_⟩
  · cases action with
    | custom fn => exact silent.trans ⟨fun h => ⟨h, nofun⟩, And.left⟩
    | check fn message below =>
      simp only [Action.result, List.append_eq_nil_iff, silent, Host.Passes]
      refine and_congr_right fun _ => ⟨?_, fun h => ?_⟩
      · rintro holds _ _ _ z ⟨⟩ hz
        cases given.symm.trans hz
        by_contra fails
        simp [fails] at holds
      · rw [if_pos (h fn message below y rfl given)]
  · simp only [Links.act_eq, hlinks]
    refine .bind (.record _) (.bind (called links hlinks) ?_)
    cases action <;> exact .pure _

/-- What passes at one path, passes at all, and with it all that is like it. -/
theorem passes (h : host.Reliable action) {v u : Datum} (hv : v.Given False) (hu : u.Given False)
    (alike : v.Alike u) {path path' : Path Live} (hp : host.Passes action v path) :
    host.Passes action u path' := by
  have same := h.alike v u path path' hv hu alike
  obtain ⟨y, given, -⟩ := (h.replies v path hv).gives
  refine ⟨same.reports.symm.trans hp.1, fun fn message below z kind hz => ?_⟩
  rw [← (same.outcome y z given hz).truthy]
  exact hp.2 fn message below y kind given

end Host.Reliable

end TwoWay
