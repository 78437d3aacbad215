import TwoWay.Proofs.Parse.Agreeing
import TwoWay.Execution

/-!
# Calm user functions

A user function is calm if it neither fails nor waits for anything. Running a calm effect is a
calm run, whatever the links (`Links.act_calm`), and taking over what it gives ends alike with
all links (`Links.apply_alike`).
-/

namespace TwoWay

/-- Values that need no waiting: what is awaitable is a promise that does not suspend. -/
def Value.IsReady (v : Datum) : Prop :=
  ∀ x, v = .live x → x.isAwaitable → ∃ id y, x = .promise id false y

/-- A call that neither fails nor waits. Only asynchronous functions may give awaitables that
are not ready, for these stay as they are. -/
structure Reply.Calm (reply : Reply) (async : Bool) : Prop where
  unsuspended : Happening.suspended ∉ reply.happenings
  outcome : ∃ v, reply.outcome = .ok v ∧ (async = false → v.IsReady)

/-- An effect whose function is calm on all arguments. -/
def Host.Calm (host : Host) : Action Live → Prop
  | .custom fn => ∀ v path, (host.effect fn v path).Calm (host.isAsync fn)
  | .check fn _ _ => ∀ v, (host.check fn v).Calm (host.isAsync fn)

namespace Links

/-- Links on which waiting for a promise that does not suspend gives its value. -/
def Ready (links : Links) : Prop :=
  ∀ id v, (links.await (.promise id false v)).Calm ⟨v, []⟩

theorem play_calm (path : Path Live) {happenings : List Happening}
    (h : Happening.suspended ∉ happenings) :
    ∃ issues, ∀ links : Links, (links.play path happenings).Calm issues := by
  induction happenings with
  | nil => exact ⟨[], fun _ => .pure []⟩
  | cons happening rest ih =>
    obtain ⟨first, hrest⟩ := not_or.1 (List.mem_cons.not.1 h)
    obtain ⟨issues, ih⟩ := ih hrest
    have joined (before : List (Issue Live)) (links : Links) :
        (do return before ++ (← links.play path rest) : Run (List (Issue Live))).Calm
          (before ++ issues) := .bind (ih links) (.pure _)
    cases happening with
    | suspended => exact absurd rfl first
    | noted entry => exact ⟨_, fun links => .bind (.record _) (joined [] links)⟩
    | yielded => exact ⟨_, fun links => .bind (.record _) (joined [] links)⟩
    | reported code message below details => exact ⟨_, fun links => joined _ links⟩

theorem resolve_calm {v : Datum} (h : v.IsReady) :
    ∃ r, ∀ links : Links, links.Ready → (links.resolve v).Calm r := by
  cases v with
  | live x =>
    by_cases awaitable : x.isAwaitable
    · obtain ⟨id, y, rfl⟩ := h x rfl awaitable
      exact ⟨⟨y, []⟩, fun links ready => ready id y⟩
    · refine ⟨⟨.live x, []⟩, fun links _ => ?_⟩
      unfold resolve
      dsimp only
      rw [if_neg awaitable]
      exact .pure _
  | _ => exact ⟨_, fun _ _ => .pure _⟩

theorem answer_calm (host : Host) (fn : FunctionRef) (args : List Datum) (path : Path Live)
    {reply : Reply} (h : reply.Calm (host.isAsync fn)) :
    ∃ r, ∀ links : Links, links.host = host → links.Ready →
      (links.answer fn args path reply).Calm r := by
  obtain ⟨issues, played⟩ := play_calm path h.unsuspended
  obtain ⟨v, hv, ready⟩ := h.outcome
  have lifted : (Run.lift reply.outcome).Calm v := by
    rw [hv]
    exact .pure v
  cases async : host.isAsync fn with
  | true =>
    refine ⟨⟨v, issues⟩, fun links hlinks _ => ?_⟩
    unfold answer
    rw [hlinks, async]
    exact .bind (.record _) (.bind (played links) (.bind lifted (.pure _)))
  | false =>
    obtain ⟨r, resolved⟩ := resolve_calm (ready async)
    refine ⟨⟨r.value, issues ++ r.issues⟩, fun links hlinks hready => ?_⟩
    unfold answer
    rw [hlinks, async]
    exact .bind (.record _) (.bind (played links) (.bind lifted
      (.bind (resolved links hready) (.pure _))))

/-- A calm effect does the same with all links. -/
theorem act_calm {host : Host} {action : Action Live} (h : host.Calm action) (path : Path Live)
    (v : Datum) :
    ∃ r, ∀ links : Links, links.host = host → links.Ready → (links.act action path v).Calm r := by
  cases action with
  | custom fn =>
    obtain ⟨r, hr⟩ := answer_calm host fn [v] path (h v path)
    refine ⟨r, fun links hlinks ready => ?_⟩
    subst hlinks
    exact hr links rfl ready
  | check fn message below =>
    obtain ⟨r, hr⟩ := answer_calm host fn [v] path (h v)
    refine ⟨⟨v, r.issues ++ if r.value.truthy then [] else
      [⟨.custom, message, path ++ below, []⟩]⟩, fun links hlinks ready => ?_⟩
    subst hlinks
    exact .bind (hr links rfl ready) (.pure _)

end Links

variable {plans : Plans} {stray : Failure → Prop}

/-- Taking over what a calm effect gives ends alike with all links. -/
theorem Links.apply_alike (deep : stray (.fault .tooDeep)) {links links' : Links}
    (hhost : links'.host = links.host) (hready : links.Ready) (hready' : links'.Ready)
    {action : Action Live} (h : links.host.Calm action) (path : Path Live) (v : Datum) :
    plans.Alike stray (links.apply action path v) (links'.apply action path v)
      Parsed.Agrees := by
  obtain ⟨r, hr⟩ := act_calm h path v
  refine .bind (.calm (R := Eq) deep (hr links rfl hready) (hr links' hhost hready') rfl) ?_
  rintro r t rfl
  exact .bind (Plans.value_numbered r.value) fun _ _ same => .pure ⟨same, rfl⟩

theorem Library.links_host (lib : Library) (mode : Mode) (depth : Nat) :
    (lib.links mode depth).host = lib.host := by
  cases depth <;> rfl

theorem Library.links_ready (lib : Library) (mode : Mode) (depth : Nat) :
    (lib.links mode depth).Ready := by
  intro id v
  cases depth with
  | zero => exact .tooDeep _
  | succ depth => exact .pure _

end TwoWay
