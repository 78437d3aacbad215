import TwoWay.Proofs.Parse.Conduct
import TwoWay.Session.Basic

/-!
# Both modes

A synchronous parse does what an asynchronous one does, up to the first time that the latter
waits for something: there it stops, and nothing turns that into anything else
(`Session.modes_concur`). Pauses are sat out.
-/

namespace TwoWay

/-- How a synchronous run ends beside an asynchronous one from the same world. What is new in
the journal stands before what was there, latest first. -/
inductive Run.Concurs {α : Type} (sync async : Run α) (w : World) : Prop
  /-- Nothing was waited for. -/
  | agrees (new : List Event) (journal : (async.final w).journal = new ++ w.journal)
    (waitless : .suspended ∉ new) (same : sync w = async w)
  /-- Something was, and it is there that the synchronous run stopped. -/
  | stops (later before : List Event)
    (journal : (async.final w).journal = later ++ .suspended :: (before ++ w.journal))
    (waitless : .suspended ∉ before) (w' : World) (stopped : sync w = .error .suspended w')
    (reached : w'.journal = before ++ w.journal)

namespace Run.Concurs

variable {α β : Type} {sync async : Run α} {w : World}

/-- The journal of an asynchronous run grows. -/
theorem grows (h : Concurs sync async w) : ∃ new, (async.final w).journal = new ++ w.journal := by
  cases h with
  | agrees new journal => exact ⟨new, journal⟩
  | stops later before journal => exact ⟨later ++ .suspended :: before, by simpa using journal⟩

theorem quiet {m : Run α} (h : m.Quiet) (w : World) : Concurs m m w := by
  obtain ⟨new, journal, quiet⟩ := h w
  exact .agrees new journal (fun hs => by simpa [Event.isQuiet] using quiet _ hs) rfl

theorem called (fn : FunctionRef) (args : List Datum) (w : World) :
    Concurs (Run.record (.called fn args)) (Run.record (.called fn args)) w :=
  .agrees [.called fn args] rfl (by simp) rfl

theorem bind {k l : α → Run β} (h : Concurs sync async w)
    (hk : ∀ a, async.result w = .ok a → Concurs (k a) (l a) (async.final w)) :
    Concurs (sync >>= k) (async >>= l) w := by
  have final := Run.final_bind async l w
  cases h with
  | agrees new journal waitless same =>
    have sameBind : (sync >>= k) w = (async >>= k) w := by
      simp only [Bind.bind, EStateM.bind, same]
    cases hr : async w with
    | error f u =>
      have ends (m : α → Run β) : (async >>= m) w = .error f u := Run.bind_error.2 (.inl hr)
      refine .agrees new ?_ waitless (by rw [sameBind, ends, ends])
      rw [final, Run.result, hr]
      exact journal
    | ok a u =>
      have goes (m : α → Run β) : (async >>= m) w = m a u := by
        simp only [Bind.bind, EStateM.bind, hr]
      have hu : async.final w = u := by rw [Run.final, hr]
      have next := hk a (by rw [Run.result, hr])
      rw [Run.result, hr] at final
      rw [hu] at next final journal
      cases next with
      | agrees new' journal' waitless' same' =>
        refine .agrees (new' ++ new) ?_ ?_ (by rw [sameBind, goes, goes, same'])
        · rw [final, journal', journal, List.append_assoc]
        · exact fun h => (List.mem_append.1 h).elim waitless' waitless
      | stops later before journal' waitless' w' stopped reached =>
        refine .stops later (before ++ new) ?_ ?_ w' (by rw [sameBind, goes, stopped]) ?_
        · rw [final, journal', journal, List.append_assoc]
        · exact fun h => (List.mem_append.1 h).elim waitless' waitless
        · rw [reached, journal, List.append_assoc]
  | stops later before journal waitless w' stopped reached =>
    have stoppedBind : (sync >>= k) w = .error .suspended w' := Run.bind_error.2 (.inl stopped)
    cases hr : async.result w with
    | error f =>
      rw [hr] at final
      exact .stops later before (final ▸ journal) waitless w' stoppedBind reached
    | ok a =>
      obtain ⟨new, grown⟩ := (hk a hr).grows
      rw [hr] at final
      refine .stops (new ++ later) before ?_ waitless w' stoppedBind reached
      rw [final, grown, journal, List.append_assoc]

end Run.Concurs

/-- Synchronous runs concur with asynchronous ones, however they are put together. -/
def concurrence (plans : Plans) : Discipline plans Mode where
  Holds m := ∀ w, plans.Faithful w → Run.Concurs (m .sync) (m .async) w
  blind h w _ := .quiet h.adds w
  idle h w _ := .quiet (.record (Event.isQuiet_of_isIdle h)) w
  bind hm he hk w hw := .bind (hm w hw) fun a ha =>
    hk a ((he .async w hw).2 a ha) _ (he .async w hw).1

variable {plans : Plans}

/-- An asynchronous run waits where a synchronous one stops. -/
theorem concurrence_suspend {links : Mode → Links} (h : ∀ mode, (links mode).mode = mode) :
    (concurrence plans).Holds fun mode => (links mode).suspend := by
  intro w _
  simp only [Links.suspend, h]
  exact .stops [] [] rfl (List.not_mem_nil) w rfl rfl

/-- Everything is called in both modes. -/
theorem Library.channels_concur (lib : Library) (depth : Nat) :
    Channel.Obey (concurrence lib.plans) .all fun mode => lib.channel mode depth := by
  have suspend (depth : Nat) : (concurrence lib.plans).Holds fun mode =>
      (lib.channel mode depth).links.suspend :=
    concurrence_suspend fun mode => lib.links_mode mode depth
  exact channels_calling (fun fn args w _ => .called fn args w)
    (fun depth id origin w _ => .quiet (lib.plans.force_quiet depth id origin) w) id suspend depth

/-- The parse of a whole value concurs. -/
theorem Library.parse_concurs (lib : Library) (depth : Nat) {s : Schema} (hs : s.isSchema)
    (v : Datum) {w : World} (hw : lib.plans.Faithful w) :
    Run.Concurs (lib.parse .sync depth s v) (lib.parse .async depth s v) w := by
  have node := Schema.parses (Allowance.all_closed _) (lib.channels_concur depth) (s := s) trivial
    [] v (.inl v.keeps_all)
  have whole := node.bind (k := fun _ r => Run.lift r.finish) fun r _ =>
    .blind (P := fun _ => True) (.lift r.finish) (.lift fun _ _ => trivial)
  simp only [channel_links] at whole
  have parsed (mode : Mode) : lib.parse mode depth s v = _ :=
    funext (parse_of_isSchema hs mode depth v)
  rw [parsed, parsed]
  exact whole.holds w hw

namespace Session

/-- A safe parse catches nothing but a refusal. -/
theorem runSafeParse_eq (t : Session) (h : t.current.schema.isSchema) (v : Datum) (mode : Mode)
    (w : World) : t.runSafeParse v mode w =
      match t.library.parse mode t.depth t.current.schema v w with
      | .ok x w' => .ok ⟨fun _ => .parsed (.ok (Settled.shown x)), t.current, x⟩ w'
      | .error (.refused issues) w' => .ok (t.keep (.parsed (.error (.refused issues)))) w'
      | .error f w' => .error f w' := by
  have given : Library.requireSchema mode "safe_parse" t.current.schema = pure () := by
    unfold Library.requireSchema
    cases mode <;> simp [h]
  unfold runSafeParse
  rw [given, pure_bind]
  simp only [Bind.bind, EStateM.bind, Run.outcome]
  cases t.library.parse mode t.depth t.current.schema v w with
  | ok x w' => rfl
  | error f w' => cases f <;> rfl

end Session

/-! A union behind a `catch`: its first option pauses, and its second one waits. -/

namespace Waiting

def pause : FunctionRef := ⟨0, "pause"⟩

def wait : FunctionRef := ⟨1, "wait"⟩

def library : Library where
  host := {
    effect := fun fn v _ => ⟨[if fn = wait then .suspended else .yielded], .ok v⟩
    check := fun _ _ => ⟨[], .ok (.bool true)⟩
    supply := fun _ => ⟨[], .ok .none⟩
    rescue := fun _ _ => ⟨[], .ok .none⟩
    call := fun _ _ => ⟨[], .ok .none⟩
    isAsync := fun _ => true }
  plans := { getter := fun _ => { schema := .any }, definition := fun _ => .any }

def schema : Schema :=
  .catch (.union [.pipeline (.effect .transform (.custom pause) false .any) .boolean,
    .effect .transform (.custom wait) false .any]) (.value .none)

def session : Session where
  library := library
  depth := 1
  first := ⟨schema, .made 0 0, []⟩
  current := ⟨schema, .made 0 0, []⟩
  world := {}

end Waiting
end TwoWay
