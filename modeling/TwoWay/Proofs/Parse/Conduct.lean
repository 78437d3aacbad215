import TwoWay.Proofs.Parse.Discipline
import TwoWay.Proofs.Parse.Independence

/-!
# Disciplines at every depth

A call of a user function is noted, then what the function does happens, and an awaitable that
it gives is awaited (`Links.finishCall`). A discipline may hold of a call only because of what
happened before; what comes after the call keeps to it whenever waiting does. So it is left to
each discipline how calls keep to it, and the channels of every depth obey
(`Library.channels_obey`).
-/

namespace TwoWay

/-- The calls that are made when an awaitable is awaited. -/
inductive Live.Starts : Live → FunctionRef → List Datum → Prop
  | pending {id : Identity} {inner : Schema} {awaited : Live} {fn : FunctionRef}
    {args : List Datum} (h : Starts awaited fn args) : Starts (.pending id inner awaited) fn args
  | running (id : Identity) (fn : FunctionRef) (args : List Datum) :
    Starts (.running id fn args) fn args
  | working (id : Identity) (fn : FunctionRef) (path : Path Live) (v : Datum) :
    Starts (.working id fn path v) fn [v]

/-- What happens after a user function was called. -/
def Links.finishCall (links : Links) (fn : FunctionRef) (path : Path Live) (reply : Reply) :
    Run Parsed := do
  let issues ← links.play path reply.happenings
  let value ← Run.lift reply.outcome
  if links.host.isAsync fn then return ⟨value, issues⟩
  let resolved ← links.resolve value
  return ⟨resolved.value, issues ++ resolved.issues⟩

/-- The function that an effect runs. -/
def Action.function : Action Live → FunctionRef
  | .custom fn | .check fn _ _ => fn

/-- How the function of an effect replies to a value at a path. -/
def Host.reply (host : Host) (action : Action Live) (v : Datum) (path : Path Live) : Reply :=
  match action with
  | .custom fn => host.effect fn v path
  | .check fn _ _ => host.check fn v

/-- The result of an effect on a value, from what its function gives. -/
def Action.result (action : Action Live) (path : Path Live) (v : Datum) (given : Parsed) :
    Parsed :=
  match action with
  | .custom _ => given
  | .check _ message below =>
    ⟨v, given.issues ++ if given.value.truthy then [] else [⟨.custom, message, path ++ below, []⟩]⟩

/-- An effect calls its function once, and then what the function does happens. -/
theorem Links.act_eq (links : Links) (action : Action Live) (path : Path Live) (v : Datum) :
    links.act action path v = (do
      Run.record (.called action.function [v])
      let given ← links.finishCall action.function path (links.host.reply action v path)
      return action.result path v given) := by
  cases action with
  | custom fn =>
    simp only [Action.result, bind_pure]
    rfl
  | check fn message below => rfl

variable {plans : Plans} {ι : Type} {D : Discipline plans ι} {a : Allowance} {host : Host}
  {ch : ι → Channel} {path : Path Live} {absent : Prop}

/-- Every run that keeps to the one discipline keeps to the other. -/
def Discipline.Implies (D E : Discipline plans ι) : Prop :=
  ∀ {α : Type} {m : ι → Run α}, D.Holds m → E.Holds m

theorem Schema.Parses.implies {s : Schema} (h : s.Parses D a ch) {E : Discipline plans ι}
    (hE : D.Implies E) : s.Parses E a ch :=
  fun path v hv => ⟨hE (h path v hv).holds, (h path v hv).ensures⟩

theorem Plans.Ensures.and {α : Type} {m : Run α} {P Q : α → Prop} (hp : plans.Ensures m P)
    (hq : plans.Ensures m Q) : plans.Ensures m fun a => P a ∧ Q a :=
  fun w hw => ⟨(hp w hw).1, fun a ha => ⟨(hp w hw).2 a ha, (hq w hw).2 a ha⟩⟩

theorem Value.numbered_obeys (v : Datum) : D.Obeys (fun _ => v.numbered) fun _ => True :=
  .blind (Value.numbered_blind v) ((Value.numbered_ensures v (Value.keeps_all v)).weaken
    fun _ _ => trivial)

theorem Live.numbered_starts (x : Live) : plans.Ensures x.numbered fun y =>
    ∀ fn args, y.Starts fn args → x.Starts fn args := by
  have same : plans.Ensures (pure x : Run Live) fun y => ∀ fn args, y.Starts fn args →
      x.Starts fn args := .pure fun _ _ => id
  cases x with
  | running id fn args =>
    refine .andThen (Identity.numbered_ensures id) fun id' => .pure fun _ _ h => ?_
    cases h
    exact .running ..
  | working id fn path v =>
    refine .andThen (Identity.numbered_ensures id) fun id' => .pure fun _ _ h => ?_
    cases h
    exact .working ..
  | _ => exact same

namespace Links

variable {links : ι → Links} (hsuspend : D.Holds fun i => (links i).suspend)
include hsuspend

theorem play_obeys (path : Path Live) (happenings : List Happening) :
    D.Obeys (fun i => (links i).play path happenings) fun _ => True := by
  induction happenings with
  | nil => exact .pure trivial
  | cons h rest ih =>
    have joined (first : List (Issue Live)) :
        D.Obeys (fun i => do return first ++ (← (links i).play path rest)) fun _ => True :=
      .give ih _ fun _ _ => trivial
    cases h with
    | noted entry | yielded => exact .bind (.idle rfl) fun _ _ => joined _
    | suspended =>
      have suspended : D.Obeys (fun i => (links i).suspend) fun _ => True :=
        ⟨hsuspend, fun _ => suspend_ensures⟩
      exact suspended.bind fun _ _ => joined _
    | reported code message below details => exact joined _

/-- What a function reports is dropped. -/
theorem playOnly_obeys (happenings : List Happening) :
    D.Obeys (fun i => discard ((links i).play [] happenings)) fun _ => True :=
  .map _ (play_obeys hsuspend [] happenings) fun _ _ => trivial

/-- Calling a function without arguments that gives a value. -/
theorem called_obeys {fn : FunctionRef} {reply : Reply} {Q : Datum → Prop}
    (hcall : D.Holds fun _ => Run.record (.called fn []))
    (h : ∀ x, reply.outcome = .ok x → Q x) :
    D.Obeys (fun i => do
      Run.record (.called fn [])
      discard <| (links i).play [] reply.happenings
      Run.lift reply.outcome) Q := by
  have noted : D.Obeys (fun _ => Run.record (.called fn [])) fun _ => True :=
    ⟨hcall, fun _ => .record _⟩
  exact noted.bind fun _ _ =>
    (playOnly_obeys hsuspend _).bind fun _ _ => .blind (.lift _) (.lift h)

/-- What follows on a call, if waiting for what the function gives keeps to the discipline. -/
theorem finishCall_obeys (hasync : ∀ i, (links i).host.isAsync = host.isAsync) {fn : FunctionRef}
    {reply : Reply}
    (ho : ∀ x, reply.outcome = .ok x → x.IsOutcome a host fn path absent)
    (hawait : ∀ x, reply.outcome = .ok (.live x) → host.isAsync fn = false → x.isAwaitable →
      ∀ y, y.Answers a host path absent → (∀ fn args, y.Starts fn args → x.Starts fn args) →
      D.Obeys (fun i => (links i).await y) fun _ => True) :
    D.Obeys (fun i => (links i).finishCall fn path reply) fun _ => True := by
  have given : D.Obeys (fun _ => Run.lift reply.outcome) (reply.outcome = .ok ·) :=
    .blind (.lift _) (.lift fun x hx => hx)
  refine .bind (play_obeys hsuspend path _) fun issues _ => given.bind fun x hx => ?_
  simp only [hasync]
  split
  · exact .pure trivial
  · rename_i plain
    cases x
    case live x =>
      have answers := (ho _ hx).answers
      have numbered : D.Obeys (fun _ => x.numbered) fun y => y.Answers a host path absent ∧
          ∀ fn args, y.Starts fn args → x.Starts fn args :=
        .blind (Live.numbered_blind x) (answers.numbered.and x.numbered_starts)
      simp only [resolve]
      split
      · rename_i awaitable
        exact .give (numbered.bind fun y hy => hawait x hx (eq_false_of_ne_true plain) awaitable y
          hy.1 hy.2) _ fun _ _ => trivial
      · exact .pure trivial
    all_goals exact .pure trivial

end Links

/-! ## Awaitables -/

/-- Channels whose hosts keep to an allowance and call function values as a certain host does. -/
structure Channel.Hosted (a : Allowance) (host : Host) (ch : ι → Channel) : Prop where
  keeps : ∀ i, (ch i).links.host.Keeps a
  isAsync : ∀ i, (ch i).links.host.isAsync = host.isAsync
  call : ∀ i, (ch i).links.host.call = host.call

theorem Live.Answers.of_isAsync {host' : Host} (hasync : host'.isAsync = host.isAsync) {x : Live}
    (hx : x.Answers a host path absent) : x.Answers a host' path absent := by
  induction hx with
  | keeps h => exact .keeps h
  | promise h => exact .promise h
  | pending hs _ ih => exact .pending hs ih
  | working hp ha h => exact .working hp (hasync ▸ ha) h

/-- Awaiting keeps to a discipline that schemas keep to, if the calls that are made do and the
hosts reply alike to them. -/
theorem Live.awaitWith_obeys (hsuspend : D.Holds fun i => (ch i).links.suspend)
    (hh : Channel.Hosted a host ch) (hs : ∀ s, a.schemas s → s.Parses D a ch)
    (hf : ∀ s, a.schemas s → ∀ i, s.Follows plans a (ch i)) : ∀ {x : Live},
    x.Answers a host path absent →
    (∀ fn args, x.Starts fn args → D.Holds fun _ => Run.record (.called fn args)) →
    (∀ fn v, x.Starts fn [v] → ∀ i place,
      (ch i).links.host.effect fn v place = host.effect fn v place) →
    D.Obeys (fun i => x.awaitWith (ch i).links) (·.Delivers a path absent)
  | x, hx, called, alike => by
    -- What is delivered is known from `awaitIn_tracks`; what is left is the discipline.
    suffices h : D.Obeys (fun i => x.awaitWith (ch i).links) fun _ => True by
      refine ⟨h.holds, fun i => ?_⟩
      have answers := hx.of_isAsync (hh.isAsync i)
      exact (Live.awaitIn_tracks (fun s hs => hf s hs i) (hh.keeps i) answers).ensures
    have once (id : Identity) : D.Obeys (fun _ => Run.awaitOnce id) fun _ => True :=
      .blind (.awaitOnce id) (.awaitOnce id)
    have given (r : Except Failure Datum) : D.Obeys (fun _ => Run.lift r) fun _ => True :=
      .blind (.lift r) (.lift fun _ _ => trivial)
    cases x with
    | function fn | guarded => exact .pure trivial
    | promise id suspends v =>
      simp only [awaitWith]
      split
      · exact .bind ⟨hsuspend, fun _ => Links.suspend_ensures⟩ fun _ (_ : True) => .pure trivial
      · exact .pure trivial
    | pending id inner awaited =>
      have parts : a.schemas inner ∧ awaited.Answers a host path absent := by
        cases hx with
        | pending hs h => exact ⟨hs, h⟩
        | keeps h =>
          cases h with
          | pending hs h => exact ⟨hs, .keeps h⟩
      refine (once id).bind fun _ _ => ?_
      refine .bind (awaitWith_obeys hsuspend hh hs hf parts.2
        (fun fn args h => called fn args (.pending h))
        fun fn v h => alike fn v (.pending h)) fun v hv => ?_
      refine .bind (hs inner parts.1 [] v.value (hv.1.weaken fun _ => trivial)) fun r _ => ?_
      exact .give (given r.finish) _ fun _ _ => trivial
    | running id fn args =>
      have noted : D.Obeys (fun _ => Run.record (.called fn args)) fun _ => True :=
        ⟨called fn args (.running ..), fun _ => .record _⟩
      refine (once id).bind fun _ _ => ?_
      simp only [hh.call]
      refine noted.bind fun _ _ => ?_
      refine .bind (Links.playOnly_obeys hsuspend _) fun _ _ => ?_
      exact (given _).bind fun x _ => .give x.numbered_obeys _ fun _ _ => trivial
    | working id fn place v =>
      have noted : D.Obeys (fun _ => Run.record (.called fn [v])) fun _ => True :=
        ⟨called fn [v] (.working ..), fun _ => .record _⟩
      refine (once id).bind fun _ _ => ?_
      simp only [alike fn v (.working ..)]
      refine noted.bind fun _ _ => ?_
      refine .bind (Links.play_obeys hsuspend place _) fun issues _ => ?_
      exact (given _).bind fun x _ => .give x.numbered_obeys _ fun _ _ => trivial

/-! ## Every depth -/

/-- A discipline to which a parse keeps when it forces lazy nodes and calls for substitutes. -/
structure Discipline.Serves (D : Discipline plans ι) (a : Allowance) : Prop where
  force : ∀ depth {id origin}, a.schemas (.lazy id origin) →
    D.Holds fun _ => plans.force depth id origin
  factory : ∀ {inner fn}, a.schemas (.default inner (.factory fn)) →
    D.Holds fun _ => Run.record (.called fn [])
  rescue : ∀ {inner fn}, a.schemas (.catch inner (.factory fn)) →
    D.Holds fun _ => Run.record (.called fn [])

/-- All of this is quiet. -/
theorem Discipline.Serves.of_quiet (h : ∀ {α : Type} {m : Run α}, m.Quiet → D.Holds fun _ => m) :
    D.Serves a where
  force depth {id origin} _ := h (plans.force_quiet depth id origin)
  factory _ := h (.record rfl)
  rescue _ := h (.record rfl)

/-- Awaiting what answers keeps to every discipline that is implied, if the calls that are made
do. -/
def Channel.Awaiting (D : Discipline plans ι) (a : Allowance) (host : Host)
    (ch : ι → Channel) : Prop :=
  ∀ E : Discipline plans ι, D.Implies E → ∀ path absent x, Live.Answers a host path absent x →
    (∀ fn args, x.Starts fn args → E.Holds fun _ => Run.record (.called fn args)) →
    E.Obeys (fun i => (ch i).links.await x) fun _ => True

/-- What the function of an effect gives. -/
theorem Host.Keeps.reply (hh : host.Keeps a) (action : Action Live) (path : Path Live) {v : Datum}
    (hv : v.KeepsOr a True) : ∃ absent, ∀ x, (host.reply action v path).outcome = .ok x →
      x.IsOutcome a host action.function path absent := by
  cases action with
  | custom fn => exact ⟨_, fun x hx => hh.effect fn v path x hv hx⟩
  | check fn message below => exact ⟨_, fun x hx => hh.check fn v path x hv hx⟩

/-- Once waiting keeps to a discipline, what follows on a call does. -/
theorem Channel.Awaiting.finishCall (h : Channel.Awaiting D a host ch)
    {E : Discipline plans ι} (hE : D.Implies E) (hsuspend : E.Holds fun i => (ch i).links.suspend)
    (hhost : ∀ i, (ch i).links.host = host) (hh : host.Keeps a) (action : Action Live)
    (path : Path Live) {v : Datum} (hv : v.KeepsOr a True)
    (called : ∀ x, (host.reply action v path).outcome = .ok (.live x) →
      host.isAsync action.function = false → ∀ fn args, x.Starts fn args →
      E.Holds fun _ => Run.record (.called fn args)) :
    E.Obeys (fun i => do
      let given ← (ch i).links.finishCall action.function path (host.reply action v path)
      return action.result path v given) fun _ => True := by
  obtain ⟨absent, outcome⟩ := hh.reply action path hv
  refine .give (Links.finishCall_obeys hsuspend (fun i => congrArg _ (hhost i)) outcome
    fun x hx plain _ y hy starts => ?_) _ fun _ _ => trivial
  exact h E hE path absent y hy fun fn args hs => called x hx plain fn args (starts fn args hs)

/-- Nodes keep to a discipline when they run their functions, if effects do. -/
theorem Channel.Calls.of_act
    (act : ∀ {s action}, a.schemas s →
      s.ungated? = some action ∨ (∃ wrapped, s.mapping? = some (wrapped, action)) →
      ∀ path v, v.KeepsOr a True →
        D.Obeys (fun i => (ch i).links.act action path v) fun _ => True) :
    Channel.Calls D a ch where
  act hs hu path v hv := (act hs (.inl hu) path v hv).holds
  mapped {s wrapped action} hs hm hw path v hv := by
    refine (Discipline.Obeys.bind (hw path v hv) fun r hr => r.andThen_obeys fun clean => ?_).holds
    have given := act hs (.inr ⟨wrapped, hm⟩) path r.value
      ((hr.clean clean).weaken fun _ => trivial)
    exact given.bind fun given _ => .give given.value.numbered_obeys _ fun _ _ => trivial

/-- Under a discipline that every call keeps to, effects do so once waiting does. -/
theorem Channel.Awaiting.calls (h : Channel.Awaiting D a host ch)
    (hsuspend : D.Holds fun i => (ch i).links.suspend) (hhost : ∀ i, (ch i).links.host = host)
    (hh : host.Keeps a) (called : ∀ fn args, D.Holds fun _ => Run.record (.called fn args)) :
    Channel.Calls D a ch := by
  refine .of_act fun {s action} _ _ path v hv => ?_
  have noted : D.Obeys (fun _ => Run.record (.called action.function [v])) fun _ => True :=
    ⟨called _ _, fun _ => .record _⟩
  simp only [Links.act_eq, hhost]
  refine noted.bind fun _ _ => ?_
  exact h.finishCall id hsuspend hhost hh action path hv fun _ _ _ fn args _ => called fn args

theorem Library.links_mode (lib : Library) (mode : Mode) (depth : Nat) :
    (lib.channel mode depth).links.mode = mode := by
  rw [channel_links]
  cases depth <;> rfl

section
variable {hosts : ι → Host} {mode : ι → Mode} {depth : Nat}

/-- Where schemas parse under a discipline, so does what awaits one level up. -/
theorem Library.await_obeys (hc : a.Closed plans) (hh : ∀ i, (hosts i).Keeps a)
    (hasync : ∀ i, (hosts i).isAsync = host.isAsync) (hcall : ∀ i, (hosts i).call = host.call)
    (hsuspend : D.Holds fun i =>
      ((Library.mk (hosts i) plans).channel (mode i) depth).links.suspend)
    (hs : ∀ s, a.schemas s →
      s.Parses D a fun i => (Library.mk (hosts i) plans).channel (mode i) depth)
    {x : Live} (hx : x.Answers a host path absent)
    (called : ∀ fn args, x.Starts fn args → D.Holds fun _ => Run.record (.called fn args))
    (alike : ∀ fn v, x.Starts fn [v] → ∀ i place,
      (hosts i).effect fn v place = host.effect fn v place) :
    D.Obeys (fun i => ((Library.mk (hosts i) plans).channel (mode i) (depth + 1)).links.await x)
      fun _ => True := by
  let lib (i : ι) : Library := ⟨hosts i, plans⟩
  have host' (i : ι) : ((lib i).channel (mode i) depth).links.host = hosts i :=
    channel_host (mode i) depth
  have follows (i : ι) : ((lib i).channel (mode i) depth).Follows plans a :=
    (lib i).channel_follows hc (hh i) (mode i) depth
  have hosted : Channel.Hosted a host fun i => (lib i).channel (mode i) depth := by
    constructor <;> simpa only [host']
  have awaited := Live.awaitWith_obeys hsuspend hosted hs
    (fun s hs i => Schema.parseIn_tracks hc (follows i) hs) hx called
    fun fn v h i place => by rw [host', alike fn v h]
  simp only [channel_links] at awaited
  exact awaited.plain

/-- Where schemas parse under a discipline, so do lazy nodes one level up. -/
theorem Library.enter_obeys (hc : a.Closed plans) (serves : D.Serves a)
    (hs : ∀ s, a.schemas s →
      s.Parses D a fun i => (Library.mk (hosts i) plans).channel (mode i) depth)
    (id : LazyId) (origin : Origin) (path : Path Live) (v : Datum)
    (h : a.schemas (.lazy id origin)) (hv : v.KeepsOr a True) :
    D.Holds fun i => ((Library.mk (hosts i) plans).channel (mode i) (depth + 1)).links.enter
      id origin path v := by
  have forced : D.Obeys (fun _ => plans.force (depth + 1) id origin) (plans.Gives id origin) :=
    ⟨serves.force _ h, fun _ => .force _ _ _⟩
  have entered := forced.bind fun s hgives => hs s (hc.behind h hgives) path v hv
  simp only [channel_links] at entered
  exact entered.holds

/-- A whole parse keeps to a discipline under which its schema parses. -/
theorem Library.parse_obeys {mode : Mode} {s : Schema}
    (h : s.Parses D a fun i => (Library.mk (hosts i) plans).channel mode depth) {v : Datum}
    (hv : v.Keeps a) :
    D.Obeys (fun i => (Library.mk (hosts i) plans).parse mode depth s v) (·.Keeps a) := by
  have schema : D.Obeys (fun _ => requireSchema mode "parse" s) fun _ => True := by
    unfold requireSchema
    dsimp only
    split
    · exact .throw _
    · exact .pure trivial
  have parsed := h [] v (.inl hv)
  simp only [channel_links] at parsed
  refine .bind schema fun _ _ => parsed.bind fun r hr => .blind (.lift _) (.lift fun x hx => ?_)
  obtain ⟨-, valid, rfl⟩ := Parsed.finish_ok.1 hx
  exact (hr.output valid).of_keeps hv

end

/-- The channels of every depth obey, if calls keep to the discipline once waiting does. -/
theorem Library.channels_obey {lib : Library} {D : Discipline lib.plans ι} (hc : a.Closed lib.plans)
    (hh : lib.host.Keeps a) (serves : D.Serves a) (mode : ι → Mode)
    (hsuspend : ∀ depth, D.Holds fun i => (lib.channel (mode i) depth).links.suspend)
    (hcalls : ∀ depth, Channel.Awaiting D a lib.host (fun i => lib.channel (mode i) depth) →
      Channel.Calls D a fun i => lib.channel (mode i) depth) (depth : Nat) :
    Channel.Awaiting D a lib.host (fun i => lib.channel (mode i) depth) ∧
      Channel.Obey D a fun i => lib.channel (mode i) depth := by
  have host (depth : Nat) (i : ι) : (lib.channel (mode i) depth).links.host = lib.host :=
    channel_host (mode i) depth
  have obey (depth : Nat)
      (awaiting : Channel.Awaiting D a lib.host fun i => lib.channel (mode i) depth)
      (enter : ∀ id origin path v, a.schemas (.lazy id origin) → v.KeepsOr a True →
        D.Holds fun i => (lib.channel (mode i) depth).links.enter id origin path v) :
      Channel.Obey D a fun i => lib.channel (mode i) depth := by
    refine { hcalls depth awaiting with
      follows := fun i => channel_follows hc hh (mode i) depth, factory := fun hs => ?_,
      rescue := fun hs issues => ?_, enter := enter }
    · simp only [Links.supply, host]
      exact (Links.called_obeys (hsuspend depth) (serves.factory hs) fun _ _ => trivial).holds
    · simp only [Links.rescue, host]
      cases Failure.ofIssues issues with
      | refused issues =>
        exact (Links.called_obeys (hsuspend depth) (serves.rescue hs) fun _ _ => trivial).holds
      | _ => exact D.blind (.throw _)
  induction depth with
  | zero =>
    have awaiting : Channel.Awaiting D a lib.host fun i => lib.channel (mode i) 0 :=
      fun E _ _ _ _ _ _ => .throw _
    exact ⟨awaiting, obey 0 awaiting fun _ _ _ _ _ _ => D.blind (.throw _)⟩
  | succ depth ih =>
    have parses s (hs : a.schemas s) : s.Parses D a fun i => lib.channel (mode i) depth :=
      Schema.parses hc ih.2 hs
    have awaiting : Channel.Awaiting D a lib.host fun i => lib.channel (mode i) (depth + 1) :=
      fun E hE path absent x hx called =>
        await_obeys hc (fun _ => hh) (fun _ => rfl) (fun _ => rfl) (hE (hsuspend depth))
          (fun s hs => (parses s hs).implies hE) hx called fun _ _ _ _ _ => rfl
    exact ⟨awaiting, obey (depth + 1) awaiting (enter_obeys hc serves parses)⟩

/-- The channels obey a discipline to which all calls, all forcing and waiting keep. -/
theorem Library.channels_calling {lib : Library} {D : Discipline lib.plans ι}
    (called : ∀ fn args, D.Holds fun _ => Run.record (.called fn args))
    (force : ∀ depth id origin, D.Holds fun _ => lib.plans.force depth id origin)
    (mode : ι → Mode)
    (suspend : ∀ depth, D.Holds fun i => (lib.channel (mode i) depth).links.suspend)
    (depth : Nat) : Channel.Obey D .all fun i => lib.channel (mode i) depth := by
  have serves : D.Serves .all :=
    ⟨fun depth _ _ _ => force depth _ _, fun _ => called _ _, fun _ => called _ _⟩
  refine (channels_obey (Allowance.all_closed _) lib.host.keeps_all serves mode suspend
    (fun depth awaiting => ?_) depth).2
  exact awaiting.calls (suspend depth) (fun i => channel_host (mode i) depth) lib.host.keeps_all
    called

/-- Waiting in one mode fails or is noted. -/
theorem Discipline.suspend (D : Discipline plans ι) (h : D.Holds fun _ => Run.record .suspended)
    (links : Links) : D.Holds fun _ => links.suspend := by
  unfold Links.suspend
  split
  · exact D.blind (.throw _)
  · exact h

/-! ## The course of a run -/

/-- A property of a run from a world that sequencing keeps. The journal only grows meanwhile. -/
structure Course where
  Holds : ∀ {α : Type}, Run α → World → Prop
  blind : ∀ {α : Type} {m : Run α} {w : World}, m.Blind → Holds m w
  /-- Pausing, taking notes and waiting. -/
  idle : ∀ {e : Event} {w : World}, e.isIdle ∨ e = .suspended → Holds (Run.record e) w
  bind : ∀ {α β : Type} {m : Run α} {k : α → Run β} {w : World}, Holds m w →
    (∀ a, m.result w = .ok a → Holds (k a) (m.final w)) → Holds (m >>= k) w
  grows : ∀ {α : Type} {m : Run α} {w : World}, Holds m w → w.journal <:+ (m.final w).journal

namespace Course

variable (C : Course)

/-- What holds from all faithful worlds in which certain events have happened. -/
def after (plans : Plans) (known : Event → Prop) : Discipline plans Unit where
  Holds m := ∀ w, plans.Faithful w → (∀ e, known e → e ∈ w.journal) → C.Holds (m ()) w
  blind h _ _ _ := C.blind h
  idle h _ _ _ := C.idle (.inl h)
  bind hm he hk w hw hknown := by
    refine C.bind (hm w hw hknown) fun a ha => ?_
    obtain ⟨faithful, given⟩ := he () w hw
    exact hk a (given a ha) _ faithful fun e h => (C.grows (hm w hw hknown)).subset (hknown e h)

/-- It may be known that more has happened. -/
theorem after_implies {known more : Event → Prop} (h : ∀ e, known e → more e) :
    (C.after plans known).Implies (C.after plans more) :=
  fun hm w hw hmore => hm w hw fun e he => hmore e (h e he)

theorem after_suspend (known : Event → Prop) (links : Links) :
    (C.after plans known).Holds fun _ => links.suspend :=
  (C.after plans known).suspend (fun _ _ _ => C.idle (.inr rfl)) links

/-- What an effect does after it has called its function, when it is known that it was called. -/
theorem finishCall {lib : Library} (hh : lib.host.Keeps a) {mode : Mode} {depth : Nat}
    (awaiting : Channel.Awaiting (C.after lib.plans fun _ => False) a lib.host
      fun _ => lib.channel mode depth)
    (action : Action Live) (path : Path Live) {v : Datum} (hv : v.KeepsOr a True)
    (called : ∀ x, (lib.host.reply action v path).outcome = .ok (.live x) →
      lib.host.isAsync action.function = false → ∀ fn args, x.Starts fn args →
      ∀ u, .called action.function [v] ∈ u.journal → C.Holds (Run.record (.called fn args)) u)
    {w : World} (hw : lib.plans.Faithful w) :
    C.Holds (do
      let given ← (lib.channel mode depth).links.finishCall action.function path
        (lib.host.reply action v path)
      return action.result path v given) (w.record (.called action.function [v])) := by
  -- That the function was called is known from then on.
  have finished := awaiting.finishCall (E := C.after lib.plans (· = .called action.function [v]))
    (C.after_implies fun _ => False.elim) (C.after_suspend _ _)
    (fun _ => Library.channel_host mode depth) hh action path hv
    fun x hx plain fn args starts u _ known => called x hx plain fn args starts u (known _ rfl)
  exact finished.holds (w.record _) (hw.of_memory rfl rfl) fun _ same =>
    same ▸ List.mem_cons_self ..

end Course

end TwoWay
