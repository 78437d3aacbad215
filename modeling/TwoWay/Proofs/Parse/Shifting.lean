import TwoWay.Proofs.Parse.Calm
import TwoWay.Proofs.Parse.Renaming
import TwoWay.Proofs.Parse.Whole

/-!
# Later runs

The identities that a run gives out depend on how many were given out before, and nothing else
does. Of two parses of one value, the later one gives what the earlier one gives, but for the
identities that are new in both, and fails if that one does (`Library.runWith_shifts`). Only where
user functions may fail, or a parse goes too deep, one of both may fail alone: how deep it goes
depends on what is remembered.
-/

namespace TwoWay

/-- Moves all numbers from `m` on up by `k`. -/
def shift (m k n : Nat) : Nat := if n < m then n else n + k

theorem shift_injective (m k : Nat) : Function.Injective (shift m k) := by
  intro i j h
  unfold shift at h
  split at h <;> split at h <;> omega

theorem shift_of_lt {m n : Nat} (k : Nat) (h : n < m) : shift m k n = n := if_pos h

theorem shift_of_le {m n : Nat} (k : Nat) (h : m ≤ n) : shift m k n = n + k := if_neg (by omega)

namespace Plans

/-- Both worlds remember rightly, and the second has given out `k` more identities. The first
has given out `m` or more. -/
structure Ahead (plans : Plans) (m k : Nat) (w u : World) : Prop where
  left : plans.Faithful w
  right : plans.Faithful u
  since : m ≤ w.made
  made : u.made = w.made + k

/-- Started further ahead, the second run gives `f` of what the first one gives, or both fail. One
of them may fail alone, but only as a `stray` does. -/
def Shifts (plans : Plans) (stray : Failure → Prop) (m k : Nat) {α β : Type} (f : α → β)
    (a : Run α) (b : Run β) : Prop :=
  ∀ w u, plans.Ahead m k w u →
    match a w, b u with
    | .ok x w', .ok y u' => plans.Ahead m k w' u' ∧ y = f x
    | .ok _ _, .error e _ => stray e
    | .error e _, .ok _ _ => stray e
    | .error _ _, .error _ _ => True

variable {plans : Plans} {stray : Failure → Prop} {m k : Nat} {α β γ δ : Type}

/-- If one of two results is a failure and the other is not, then as a `stray` failure. -/
structure Alone (stray : Failure → Prop) (r : Except Failure α) (t : Except Failure β) : Prop where
  left : ∀ e y, r = .error e → t = .ok y → stray e
  right : ∀ x e, r = .ok x → t = .error e → stray e

theorem alone_of {r : Except Failure α} {t : Except Failure β}
    (h : (∀ e, stray e) ∨ (∃ x, r = .ok x) ∧ ∃ y, t = .ok y) : Alone stray r t := by
  rcases h with all | ⟨⟨x, rfl⟩, y, rfl⟩
  · exact ⟨fun e _ _ _ => all e, fun _ e _ _ => all e⟩
  · exact ⟨nofun, nofun⟩

namespace Shifts

theorem pure {f : α → β} (x : α) : plans.Shifts stray m k f (Pure.pure x) (Pure.pure (f x)) := by
  exact fun w u ahead => ⟨ahead, rfl⟩

theorem gives {f : α → β} {x : α} {y : β} (h : y = f x) :
    plans.Shifts stray m k f (Pure.pure x) (Pure.pure y) := h ▸ pure x

theorem throw {f : α → β} (e e' : Failure) :
    plans.Shifts stray m k f (MonadExcept.throw e) (MonadExcept.throw e') :=
  fun _ _ _ => trivial

theorem ok {f : α → β} {a : Run α} {b : Run β} (h : plans.Shifts stray m k f a b) {w u : World}
    (ahead : plans.Ahead m k w u) {x : α} {w' : World} {y : β} {u' : World}
    (hx : a w = .ok x w') (hy : b u = .ok y u') : plans.Ahead m k w' u' ∧ y = f x := by
  have := h w u ahead
  rwa [hx, hy] at this

/-- Runs that go on, with what is known of that which the first one gives. -/
theorem bindWith (Q : α → Prop) {f : α → β} {g : γ → δ} {a : Run α} {b : Run β}
    {next : α → Run γ} {next' : β → Run δ} (h : plans.Shifts stray m k f a b)
    (known : ∀ w x w', plans.Faithful w → a w = .ok x w' → Q x)
    (hnext : ∀ x, Q x → plans.Shifts stray m k g (next x) (next' (f x))) :
    plans.Shifts stray m k g (a >>= next) (b >>= next') := by
  intro w u ahead
  have first := h w u ahead
  simp only [Bind.bind, EStateM.bind]
  cases hx : a w with
  | ok x w' =>
    cases hy : b u with
    | ok y u' =>
      simp only [hx, hy] at first
      obtain ⟨ahead', rfl⟩ := first
      exact hnext x (known w x w' ahead.left hx) w' u' ahead'
    | error e u' =>
      simp only [hx, hy] at first
      dsimp only
      cases next x w' with
      | ok z w'' => exact first
      | error e' w'' => trivial
  | error e w' =>
    cases hy : b u with
    | ok y u' =>
      simp only [hx, hy] at first
      dsimp only
      cases next' y u' with
      | ok z u'' => exact first
      | error e' u'' => trivial
    | error e' u' => trivial

theorem bind {f : α → β} {g : γ → δ} {a : Run α} {b : Run β} {next : α → Run γ}
    {next' : β → Run δ} (h : plans.Shifts stray m k f a b)
    (hnext : ∀ x, plans.Shifts stray m k g (next x) (next' (f x))) :
    plans.Shifts stray m k g (a >>= next) (b >>= next') :=
  bindWith (fun _ => True) h (fun _ _ _ _ _ => trivial) fun x _ => hnext x

theorem map {f : α → β} {g : γ → δ} {a : Run α} {b : Run β} (h : plans.Shifts stray m k f a b)
    {i : α → γ} {j : β → δ} (hij : ∀ x, j (f x) = g (i x)) :
    plans.Shifts stray m k g (i <$> a) (j <$> b) := by
  rw [← bind_pure_comp, ← bind_pure_comp]
  exact bind h fun x => hij x ▸ pure (i x)

theorem record (e e' : Event) : plans.Shifts stray m k id (Run.record e) (Run.record e') := by
  intro w u ahead
  exact ⟨⟨ahead.left.of_memory rfl rfl, ahead.right.of_memory rfl rfl, ahead.since, ahead.made⟩,
    rfl⟩

theorem lift {f : α → β} {r : Except Failure α} {t : Except Failure β}
    (h : ∀ x y, r = .ok x → t = .ok y → y = f x) (alone : Alone stray r t) :
    plans.Shifts stray m k f (Run.lift r) (Run.lift t) := by
  intro w u ahead
  cases r with
  | ok x =>
    cases t with
    | ok y => exact ⟨ahead, h x y rfl rfl⟩
    | error e => exact alone.right x e rfl rfl
  | error e =>
    cases t with
    | ok y => exact alone.left e y rfl rfl
    | error e' => trivial

theorem liftFault {f : α → β} {r : Except Fault α} {t : Except Fault β} (h : t = f <$> r) :
    plans.Shifts stray m k f (Run.liftFault r) (Run.liftFault t) := by
  subst h
  cases r with
  | ok x => exact pure x
  | error e => exact throw _ _

theorem requireHashable (ρ : Nat → Nat) (v : Datum) :
    plans.Shifts stray m k id (Run.requireHashable v) (Run.requireHashable (v.rename ρ)) := by
  unfold Run.requireHashable
  rw [Value.unhashable?_rename]
  cases v.unhashable? with
  | some t => exact throw _ _
  | none => exact pure ()

/-- Calm runs only write into the journal, unless they go too deep. -/
theorem calm (deep : stray (.fault .tooDeep)) {f : α → β} {a : Run α} {b : Run β} {x : α}
    (ha : a.Calm x) (hb : b.Calm (f x)) : plans.Shifts stray m k f a b := by
  intro w u ahead
  obtain ⟨journal, ha | ha⟩ := ha w <;> obtain ⟨journal', hb | hb⟩ := hb u <;> simp only [ha, hb]
  · exact ⟨⟨ahead.left.of_memory rfl rfl, ahead.right.of_memory rfl rfl, ahead.since, ahead.made⟩,
      trivial⟩
  · exact deep
  · exact deep

/-- Identities that are given out are as far apart as the runs. -/
theorem identity :
    plans.Shifts stray m k (Identity.rename (shift m k)) Run.identity Run.identity := by
  intro w u ahead
  refine ⟨⟨ahead.left.of_memory rfl rfl, ahead.right.of_memory rfl rfl, ?_, ?_⟩, ?_⟩
  · exact Nat.le_succ_of_le ahead.since
  · exact (congrArg (· + 1) ahead.made).trans (Nat.add_right_comm ..)
  · rw [Identity.rename, shift_of_le k ahead.since, ahead.made]

/-- Forced in both worlds, a lazy node gives the same. -/
theorem force (deep : stray (.fault .tooDeep)) (depth : Nat) (i : LazyId) (origin : Origin) :
    plans.Shifts stray m k id (plans.force depth i origin) (plans.force depth i origin) := by
  intro w u ahead
  cases hs : plans.force depth i origin w with
  | ok s w' =>
    obtain ⟨leads, given⟩ := force_ok ahead.left hs
    cases ht : plans.force depth i origin u with
    | ok t u' =>
      obtain ⟨leads', given'⟩ := force_ok ahead.right ht
      refine ⟨⟨leads.faithful, leads'.faithful, leads.made ▸ ahead.since, ?_⟩, given'.unique given⟩
      rw [leads.made, leads'.made, ahead.made]
    | error e u' => exact given.not_fails (force_error ahead.right ht).2 ▸ deep
  | error e w' =>
    have fails := (force_error ahead.left hs).2
    cases ht : plans.force depth i origin u with
    | ok t u' => exact (force_ok ahead.right ht).2.not_fails fails ▸ deep
    | error e' u' => trivial

end Shifts

/-! ## Numbering -/

theorem identity_shifts (i : Identity) :
    plans.Shifts stray m k (Identity.rename (shift m k)) i.numbered
      (i.rename (shift m k)).numbered := by
  cases i with
  | new => exact .identity
  | given n | made n => exact .pure _

theorem access_shifts (r : Access) :
    plans.Shifts stray m k (Access.rename (shift m k)) r.numbered
      (r.rename (shift m k)).numbered := by
  cases r with
  | free => exact .pure _
  | readOnly i => exact .bind (identity_shifts i) fun _ => .pure _

theorem live_shifts (x : Live) :
    plans.Shifts stray m k (Live.rename (shift m k)) x.numbered
      (x.rename (shift m k)).numbered := by
  cases x with
  | running i fn args => exact .bind (identity_shifts i) fun _ => .pure _
  | working i fn path v => exact .bind (identity_shifts i) fun _ => .pure _
  | function | guarded | promise | pending => exact .pure _

mutual

theorem value_shifts : ∀ v : Datum,
    plans.Shifts stray m k (Value.rename (shift m k)) v.numbered (v.rename (shift m k)).numbered
  | .float d => by
    cases d with
    | nan i =>
      have numbered : plans.Shifts stray m k (Double.rename (shift m k)) (Double.nan i).numbered
          ((Double.nan i).rename (shift m k)).numbered :=
        .bind (identity_shifts i) fun _ => .pure _
      exact .bind numbered fun _ => .pure _
    | infinite | finite => exact .pure _
  | .list r items =>
    .bind (access_shifts r) fun _ => .bind (items_shift items) fun _ => .pure _
  | .tuple items => .bind (items_shift items) fun _ => .pure _
  | .dict r entries =>
    .bind (access_shifts r) fun _ => .bind (entries_shift entries) fun _ => .pure _
  | .set r items => .bind (items_shift items) fun _ => .pure _
  | .live x => .bind (live_shifts x) fun _ => .pure _
  | .none | .bool _ | .int _ | .str _ | .bytes _ | .missing | .invalid => .pure _

theorem items_shift : ∀ items : List Datum,
    plans.Shifts stray m k (Value.renameItems (shift m k)) (Value.numberedItems items)
      (Value.numberedItems (Value.renameItems (shift m k) items))
  | [] => .pure []
  | x :: rest => .bind (value_shifts x) fun _ => .bind (items_shift rest) fun _ => .pure _

theorem entries_shift : ∀ entries : Entries Live,
    plans.Shifts stray m k (Value.renameEntries (shift m k)) (Value.numberedEntries entries)
      (Value.numberedEntries (Value.renameEntries (shift m k) entries))
  | [] => .pure []
  | (a, v) :: rest =>
    .bind (value_shifts a) fun _ => .bind (value_shifts v) fun _ =>
      .bind (entries_shift rest) fun _ => .pure _

end

end Plans

/-! ## User functions -/

/-- Renames the identities in what a function notes down or reports. -/
def Happening.rename (ρ : Nat → Nat) : Happening → Happening
  | .noted entry => .noted (entry.rename ρ)
  | .reported code message path details =>
    .reported code message (path.map (Value.rename ρ)) (details.map fun d => (d.1, d.2.rename ρ))
  | h => h

/-- The values that stand in an effect. -/
def Action.constants : Action Live → List Datum
  | .custom _ => []
  | .check _ _ below => below

/-- The values that stand in a substitute. -/
def Supply.constants : Supply Live → List Datum
  | .value v => [v]
  | .factory _ => []

/-- The second reply is the first one under other names. Failures are not compared. -/
structure Reply.Renames (ρ : Nat → Nat) (reply reply' : Reply) : Prop where
  happenings : reply'.happenings = reply.happenings.map (Happening.rename ρ)
  outcome : ∀ v v', reply.outcome = .ok v → reply'.outcome = .ok v' → v' = v.rename ρ

/-- A reply of a plain function that need not be waited for. -/
def Host.Prompt (host : Host) (fn : FunctionRef) (reply : Reply) : Prop :=
  host.isAsync fn = false → ∀ v, reply.outcome = .ok v → v.IsReady

/-- What pure user functions answer depends on what they are called with, but not on the names of
identities in it. Plain ones give nothing that has to be waited for. -/
structure Host.Pure (host : Host) : Prop where
  effect : ∀ {ρ}, Function.Injective ρ → ∀ fn v path, (host.effect fn v path).Renames ρ
    (host.effect fn (v.rename ρ) (path.map (Value.rename ρ)))
  check : ∀ {ρ}, Function.Injective ρ → ∀ fn v, (host.check fn v).Renames ρ
    (host.check fn (v.rename ρ))
  supply : ∀ {ρ}, Function.Injective ρ → ∀ fn, (host.supply fn).Renames ρ (host.supply fn)
  rescue : ∀ {ρ}, Function.Injective ρ → ∀ fn issues, (host.rescue fn issues).Renames ρ
    (host.rescue fn (issues.map (Issue.rename ρ)))
  effect_prompt : ∀ fn v path, host.Prompt fn (host.effect fn v path)
  check_prompt : ∀ fn v, host.Prompt fn (host.check fn v)

/-- User functions that do not fail. -/
structure Host.Unfailing (host : Host) : Prop where
  effect : ∀ fn v path, ∃ x, (host.effect fn v path).outcome = .ok x
  check : ∀ fn v, ∃ x, (host.check fn v).outcome = .ok x
  supply : ∀ fn, ∃ x, (host.supply fn).outcome = .ok x
  rescue : ∀ fn issues, ∃ x, (host.rescue fn issues).outcome = .ok x

/-- Links on which calls do the same later on. Only strays may fail alone. -/
structure Links.Repeats (stray : Failure → Prop) (links : Links) : Prop where
  pure : links.host.Pure
  ready : links.Ready
  deep : stray (.fault .tooDeep)
  fails : (∀ e, stray e) ∨ links.host.Unfailing

variable {plans : Plans} {stray : Failure → Prop} {m k : Nat} {links : Links}

namespace Links

theorem suspend_shifts : plans.Shifts stray m k id links.suspend links.suspend := by
  unfold suspend
  cases links.mode with
  | sync => exact .throw _ _
  | async => exact .record _ _

theorem play_shifts (path : Path Live) (happenings : List Happening) :
    plans.Shifts stray m k (List.map (Issue.rename (shift m k))) (links.play path happenings)
      (links.play (path.map (Value.rename (shift m k)))
        (happenings.map (Happening.rename (shift m k)))) := by
  induction happenings with
  | nil => exact .pure []
  | cons h rest ih =>
    have joined (before : List (Issue Live)) : plans.Shifts stray m k
        (List.map (Issue.rename (shift m k))) (do return before ++ (← links.play path rest))
        (do return before.map (Issue.rename (shift m k)) ++
          (← links.play (path.map (Value.rename (shift m k)))
            (rest.map (Happening.rename (shift m k))))) :=
      .bind ih fun _ => .gives List.map_append.symm
    cases h with
    | noted entry => exact .bind (.record _ _) fun _ => joined []
    | yielded => exact .bind (.record _ _) fun _ => joined []
    | suspended => exact .bind suspend_shifts fun _ => joined []
    | reported code message below details =>
      have reported := joined
        [⟨code, message, path ++ below, details.map fun d => (d.1, .value d.2)⟩]
      simpa [play, Happening.rename, Function.comp_def] using reported

theorem resolve_shifts (repeats : links.Repeats stray) {v : Datum} (hv : v.IsReady) :
    plans.Shifts stray m k (Parsed.rename (shift m k)) (links.resolve v)
      (links.resolve (v.rename (shift m k))) := by
  cases v with
  | live x =>
    by_cases awaitable : x.isAwaitable
    · obtain ⟨i, y, rfl⟩ := hv x rfl awaitable
      exact .calm repeats.deep (repeats.ready i y) (repeats.ready i _)
    · simp only [Links.resolve, Value.rename, Live.isAwaitable_rename, awaitable]
      exact .pure _
  | _ => exact .pure _

theorem answer_shifts (repeats : links.Repeats stray) (fn : FunctionRef) (args args' : List Datum)
    (path : Path Live) {reply reply' : Reply} (h : reply.Renames (shift m k) reply')
    (alone : Plans.Alone stray reply.outcome reply'.outcome) (prompt : links.host.Prompt fn reply) :
    plans.Shifts stray m k (Parsed.rename (shift m k)) (links.answer fn args path reply)
      (links.answer fn args' (path.map (Value.rename (shift m k))) reply') := by
  refine .bind (.record _ _) fun _ => ?_
  rw [h.happenings]
  refine .bind (play_shifts path _) fun issues => ?_
  refine .bindWith (reply.outcome = .ok ·) (.lift h.outcome alone)
    (fun _ _ _ _ given => (Run.lift_ok.1 given).1) fun v hv => ?_
  cases async : links.host.isAsync fn with
  | true => exact .pure _
  | false =>
    refine .bind (resolve_shifts repeats (prompt async v hv)) fun r => ?_
    exact .gives (by simp)

/-- A pure effect does the same later on. -/
theorem act_shifts (repeats : links.Repeats stray) {action : Action Live}
    (h : ∀ c ∈ action.constants, c.rename (shift m k) = c) (path : Path Live) (v : Datum) :
    plans.Shifts stray m k (Parsed.rename (shift m k)) (links.act action path v)
      (links.act action (path.map (Value.rename (shift m k))) (v.rename (shift m k))) := by
  cases action with
  | custom fn =>
    exact answer_shifts repeats fn _ _ path (repeats.pure.effect (shift_injective m k) fn v path)
      (Plans.alone_of (repeats.fails.imp_right fun h => ⟨h.effect .., h.effect ..⟩))
      (repeats.pure.effect_prompt fn v path)
  | check fn message below =>
    refine .bind (answer_shifts repeats fn _ _ path (repeats.pure.check (shift_injective m k) fn v)
      (Plans.alone_of (repeats.fails.imp_right fun h => ⟨h.check .., h.check ..⟩))
      (repeats.pure.check_prompt fn v)) fun verdict => .gives ?_
    have h : ∀ c ∈ below, c.rename (shift m k) = c := h
    have fixed : below.map (Value.rename (shift m k)) = below := by
      simpa using List.map_congr_left h
    simp only [Parsed.rename, Value.truthy_rename, List.map_append,
      apply_ite (List.map (Issue.rename (shift m k))), List.map_nil, List.map_cons, Issue.rename,
      Issue.renameDetails, fixed]

theorem apply_shifts (repeats : links.Repeats stray) {action : Action Live}
    (h : ∀ c ∈ action.constants, c.rename (shift m k) = c) (path : Path Live) (v : Datum) :
    plans.Shifts stray m k (Parsed.rename (shift m k)) (links.apply action path v)
      (links.apply action (path.map (Value.rename (shift m k))) (v.rename (shift m k))) :=
  .bind (act_shifts repeats h path v) fun r =>
    .bind (Plans.value_shifts r.value) fun _ => .pure _

/-- A factory gives the same later on. -/
theorem factory_shifts {reply reply' : Reply} (h : reply.Renames (shift m k) reply')
    (alone : Plans.Alone stray reply.outcome reply'.outcome) (fn : FunctionRef) :
    plans.Shifts stray m k (Value.rename (shift m k))
      (do
        Run.record (.called fn [])
        discard <| links.play [] reply.happenings
        Run.lift reply.outcome)
      (do
        Run.record (.called fn [])
        discard <| links.play [] reply'.happenings
        Run.lift reply'.outcome) := by
  refine .bind (.record _ _) fun _ => ?_
  rw [h.happenings]
  refine .bind (f := id) (.map (play_shifts [] _) fun _ => rfl) fun _ => ?_
  exact .lift h.outcome alone

theorem supply_shifts (repeats : links.Repeats stray) {supply : Supply Live}
    (h : ∀ c ∈ supply.constants, c.rename (shift m k) = c) :
    plans.Shifts stray m k (Value.rename (shift m k)) (links.supply supply)
      (links.supply supply) := by
  cases supply with
  | value v => exact .gives (h v (List.mem_singleton.2 rfl)).symm
  | factory fn =>
    exact factory_shifts (repeats.pure.supply (shift_injective m k) fn)
      (Plans.alone_of (repeats.fails.imp_right fun h => ⟨h.supply fn, h.supply fn⟩)) fn

theorem rescue_shifts (repeats : links.Repeats stray) {supply : Supply Live}
    (h : ∀ c ∈ supply.constants, c.rename (shift m k) = c) (issues : List (Issue Live)) :
    plans.Shifts stray m k (Value.rename (shift m k)) (links.rescue issues supply)
      (links.rescue (issues.map (Issue.rename (shift m k))) supply) := by
  cases supply with
  | value v => exact .gives (h v (List.mem_singleton.2 rfl)).symm
  | factory fn =>
    simp only [rescue, Failure.ofIssues, Issue.report_rename]
    cases Issue.report issues with
    | error f => exact .throw _ _
    | ok text =>
      exact factory_shifts (repeats.pure.rescue (shift_injective m k) fn issues)
        (Plans.alone_of (repeats.fails.imp_right fun h => ⟨h.rescue .., h.rescue ..⟩)) fn

end Links

/-! ## Runs of children -/

namespace Plans

/-- What a parse does with a value, it does later on, too. -/
def ParseShifts (plans : Plans) (stray : Failure → Prop) (m k : Nat)
    (parse : Path Live → Datum → Run Parsed) : Prop :=
  ∀ path v, plans.Shifts stray m k (Parsed.rename (shift m k)) (parse path v)
    (parse (path.map (Value.rename (shift m k))) (v.rename (shift m k)))

/-- At a child the path goes on with what is the same later on. -/
theorem ParseShifts.child {parse : Path Live → Datum → Run Parsed}
    (h : plans.ParseShifts stray m k parse) (path : Path Live) {below : Path Live}
    (fixed : below.map (Value.rename (shift m k)) = below) (v : Datum) :
    plans.Shifts stray m k (Parsed.rename (shift m k)) (parse (path ++ below) v)
      (parse (path.map (Value.rename (shift m k)) ++ below) (v.rename (shift m k))) := by
  have := h (path ++ below) v
  rwa [List.map_append, fixed] at this

section

variable {parse : Path Live → Datum → Run Parsed} (h : plans.ParseShifts stray m k parse)

include h

theorem runItems_shift (path : Path Live) (i : Nat) (items : List Datum) :
    plans.Shifts stray m k (List.map (Parsed.rename (shift m k))) (runItems parse path i items)
      (runItems parse (path.map (Value.rename (shift m k))) i
        (items.map (Value.rename (shift m k)))) := by
  induction items generalizing i with
  | nil => exact .pure []
  | cons v rest ih =>
    exact .bind (h.child path rfl v) fun _ => .bind (ih (i + 1)) fun _ => .pure _

theorem runValues_shift (path : Path Live) (entries : Entries Live) :
    plans.Shifts stray m k (List.map (renameKeyed (shift m k))) (runValues parse path entries)
      (runValues parse (path.map (Value.rename (shift m k)))
        (entries.map (Value.renameEntry (shift m k)))) := by
  induction entries with
  | nil => exact .pure []
  | cons e rest ih =>
    have value := h (path ++ [e.1]) e.2
    rw [child_rename] at value
    exact .bind value fun _ => .bind ih fun _ => .pure _

end

theorem add_shifts (b : Rebuilt) (key value : Parsed) :
    plans.Shifts stray m k (Rebuilt.rename (shift m k)) (b.add key value)
      ((b.rename (shift m k)).add (key.rename (shift m k)) (value.rename (shift m k))) := by
  unfold Rebuilt.add
  simp only [Rebuilt.rename, Parsed.rename, Value.isInvalid_rename, ← List.map_append]
  split
  · exact .pure _
  · refine .bind (.requireHashable _ key.value) fun _ => .gives ?_
    rw [Rebuilt.rename, Entries.put_rename (shift_injective m k)]

theorem runEntries_shift {key value : Path Live → Datum → Run Parsed}
    (hk : plans.ParseShifts stray m k key) (hv : plans.ParseShifts stray m k value)
    {keyPath valuePath : Nat → Datum → Path Live} {keyPath' valuePath' : Nat → Datum → Path Live}
    (hkp : ∀ i x, keyPath' i (x.rename (shift m k)) =
      (keyPath i x).map (Value.rename (shift m k)))
    (hvp : ∀ i x, valuePath' i (x.rename (shift m k)) =
      (valuePath i x).map (Value.rename (shift m k)))
    (i : Nat) (entries : Entries Live) (b : Rebuilt) :
    plans.Shifts stray m k (Rebuilt.rename (shift m k))
      (runEntries key value keyPath valuePath i entries b)
      (runEntries key value keyPath' valuePath' i (entries.map (Value.renameEntry (shift m k)))
        (b.rename (shift m k))) := by
  induction entries generalizing i b with
  | nil => exact .pure b
  | cons e rest ih =>
    have parsedKey := hk (keyPath i e.1) e.1
    have parsedValue := hv (valuePath i e.1) e.2
    rw [← hkp] at parsedKey
    rw [← hvp] at parsedValue
    exact .bind parsedKey fun key => .bind parsedValue fun value =>
      .bind (add_shifts b key value) fun b => ih (i + 1) b

theorem andThen_shifts {r : Parsed} {next next' : Datum → Run Parsed}
    (h : ∀ v, plans.Shifts stray m k (Parsed.rename (shift m k)) (next v)
      (next' (v.rename (shift m k)))) :
    plans.Shifts stray m k (Parsed.rename (shift m k)) (r.andThen next)
      ((r.rename (shift m k)).andThen next') := by
  unfold Parsed.andThen
  rw [Parsed.isClean_rename]
  split
  · exact h r.value
  · exact .pure r

theorem requireEach_shifts (values : List Datum) :
    plans.Shifts stray m k id
      (forIn values PUnit.unit fun v _ => do
        Run.requireHashable v
        pure (ForInStep.yield PUnit.unit))
      (forIn (values.map (Value.rename (shift m k))) PUnit.unit fun v _ => do
        Run.requireHashable v
        pure (ForInStep.yield PUnit.unit)) := by
  induction values with
  | nil => exact .pure PUnit.unit
  | cons v rest ih =>
    rw [List.map_cons, List.forIn_cons, List.forIn_cons, bind_assoc, bind_assoc]
    exact .bind (.requireHashable _ v) fun _ => ih

theorem setResult_shifts (readOnly : Bool) (rs : List Parsed) :
    plans.Shifts stray m k (Parsed.rename (shift m k)) (setResult readOnly rs)
      (setResult readOnly (rs.map (Parsed.rename (shift m k)))) := by
  unfold setResult
  rw [Parsed.anyInvalid_rename, Parsed.values_rename, Parsed.allIssues_rename]
  split
  · exact .pure _
  · refine .bind (requireEach_shifts _) fun _ => .gives ?_
    simp [distinct_rename (shift_injective m k)]

end Plans

/-! ## Nodes -/

/-- The identities in a value are older than the `m`-th one made. -/
def Value.Before (m : Nat) (v : Datum) : Prop := ∀ ρ, (∀ n < m, ρ n = n) → v.rename ρ = v

/-- Nodes in which user functions stand. -/
def Schema.isCaller : Schema → Bool
  | .effect .. | .default .. | .catch .. | .invertible .. => true
  | _ => false

/-- The values that stand in a node. -/
def Schema.constants : Schema → List Datum
  | .string lengths _ | .array _ lengths => [lengths.least, lengths.most]
  | .number bounds _ => [bounds.above, bounds.atLeast, bounds.below, bounds.atMost]
  | .literal value => [value]
  | .enum values => values
  | .tagged _ _ table => table.map (·.1)
  | .effect _ action _ _ => action.constants
  | .default _ supply | .catch _ supply => supply.constants
  | _ => []

namespace Plans

/-- Schemas whose values are older than the `m`-th identity made, with all their parts and all that
their lazy nodes stand for. -/
structure Old (plans : Plans) (m : Nat) (schemas : Schema → Prop) : Prop where
  child : ∀ {s c}, schemas s → c ∈ s.children → schemas c
  behind : ∀ {id origin s}, schemas (.lazy id origin) → plans.Gives id origin s → schemas s
  constants : ∀ {s c}, schemas s → c ∈ s.constants → c.Before m

variable {schemas : Schema → Prop}

theorem Old.fixed (h : plans.Old m schemas) (k : Nat) {s : Schema} (hs : schemas s) :
    ∀ c ∈ s.constants, c.rename (shift m k) = c :=
  fun _ hc => h.constants hs hc _ fun _ => shift_of_lt k

/-- Links on which nodes do the same later on. -/
structure Later (plans : Plans) (stray : Failure → Prop) (m k : Nat) (schemas : Schema → Prop)
    (links : Links) : Prop where
  repeats : ∀ {s}, schemas s → s.isCaller → links.Repeats stray
  enter : ∀ {id origin}, schemas (.lazy id origin) →
    plans.ParseShifts stray m k (links.enter id origin)

theorem runFields_shift {shape : List (String × Schema)}
    (h : ∀ f ∈ shape, plans.ParseShifts stray m k (f.2.runWith links)) (path : Path Live)
    (entries : Entries Live) :
    plans.Shifts stray m k (List.map (renameNamed (shift m k))) (runFields links shape path entries)
      (runFields links shape (path.map (Value.rename (shift m k)))
        (entries.map (Value.renameEntry (shift m k)))) := by
  induction shape with
  | nil => exact .pure []
  | cons f rest ih =>
    obtain ⟨first, others⟩ := List.forall_mem_cons.1 h
    have named : ([.str f.1] : Path Live).map (Value.rename (shift m k)) = [.str f.1] := rfl
    have field := first.child path named (valueAt entries f.1)
    rw [← valueAt_rename (shift_injective m k)] at field
    exact .bind field fun _ => .bind (ih others) fun _ => .pure _

theorem runOptions_shift {options : List Schema}
    (h : ∀ s ∈ options, plans.ParseShifts stray m k (s.runWith links)) (path : Path Live)
    (v : Datum) (tried : List Parsed) :
    plans.Shifts stray m k (Parsed.rename (shift m k)) (runOptions links options path v tried)
      (runOptions links options (path.map (Value.rename (shift m k))) (v.rename (shift m k))
        (tried.map (Parsed.rename (shift m k)))) := by
  induction options generalizing tried with
  | nil => exact .gives (unionResult_rename path tried)
  | cons s rest ih =>
    obtain ⟨first, others⟩ := List.forall_mem_cons.1 h
    refine .bind (first path v) fun r => ?_
    rw [Parsed.isClean_rename]
    split
    · exact .pure r
    · have next := ih others (tried ++ [r])
      rwa [List.map_append] at next

theorem runOption_shift {options : List Schema}
    (h : ∀ s ∈ options, plans.ParseShifts stray m k (s.runWith links)) (i : Nat) (path : Path Live)
    (v : Datum) :
    plans.Shifts stray m k (Parsed.rename (shift m k)) (runOption links options i path v)
      (runOption links options i (path.map (Value.rename (shift m k)))
        (v.rename (shift m k))) := by
  induction options generalizing i with
  | nil => exact .pure _
  | cons s rest ih =>
    obtain ⟨first, others⟩ := List.forall_mem_cons.1 h
    cases i with
    | zero => exact first path v
    | succ i => exact ih others i

theorem runTupleItems_shift {items : List Schema}
    (h : ∀ s ∈ items, plans.ParseShifts stray m k (s.runWith links))
    {rest : Path Live → Datum → Run Parsed} (hr : plans.ParseShifts stray m k rest)
    (path : Path Live) (i : Nat) (values : List Datum) :
    plans.Shifts stray m k (List.map (Parsed.rename (shift m k)))
      (runTupleItems links items rest path i values)
      (runTupleItems links items rest (path.map (Value.rename (shift m k))) i
        (values.map (Value.rename (shift m k)))) := by
  induction items generalizing i values with
  | nil => exact runItems_shift hr path i values
  | cons s rest ih =>
    obtain ⟨first, others⟩ := List.forall_mem_cons.1 h
    cases values with
    | nil => exact .pure []
    | cons v values =>
      exact .bind (first.child path rfl v) fun _ => .bind (ih others (i + 1) values) fun _ =>
        .pure _

/-- A node does the same later on. -/
theorem Later.parseShifts (hl : plans.Later stray m k schemas links) (hs : plans.Old m schemas)
    {s : Schema} (h : schemas s) : plans.ParseShifts stray m k (s.runWith links) := by
  have injective := shift_injective m k
  induction s using Schema.child_induction with
  | step s ih =>
    replace ih := fun c hc => ih c hc (hs.child h hc)
    have fixed := hs.fixed k h
    intro path v
    cases s <;> simp only [Schema.children, List.mem_append, List.mem_cons, List.mem_map,
      Option.mem_toList, List.not_mem_nil, or_false, forall_eq, or_imp, forall_and] at ih
    case string lengths pattern =>
      simp only [Schema.constants, List.mem_cons, List.not_mem_nil, or_false, forall_eq_or_imp,
        forall_eq] at fixed
      exact .liftFault (parseString_rename path fixed.1 fixed.2 pattern v)
    case number bounds integer =>
      simp only [Schema.constants, List.mem_cons, List.not_mem_nil, or_false, forall_eq_or_imp,
        forall_eq] at fixed
      obtain ⟨above, atLeast, below, atMost⟩ := fixed
      exact .liftFault (parseNumber_rename path ⟨above, atLeast, below, atMost⟩ integer v)
    case boolean => exact .gives (parseBoolean_rename path v)
    case none => exact .gives (parseNone_rename path v)
    case any | unknown | foreign => exact .pure _
    case never => exact .gives (parseNever_rename path v)
    case literal value =>
      exact .gives (parseLiteral_rename path injective (fixed _ (List.mem_singleton.2 rfl)) v)
    case enum values => exact .gives (parseEnum_rename path injective fixed v)
    case array element lengths =>
      simp only [Schema.constants, List.mem_cons, List.not_mem_nil, or_false, forall_eq_or_imp,
        forall_eq] at fixed
      simp only [Schema.runWith, listItems?_rename]
      cases v.listItems? with
      | none => exact .gives (wrongContainer_rename path _ v)
      | some items =>
        dsimp only [Option.map_some]
        rw [List.length_map]
        refine .bind (.liftFault (lengthIssues_rename path _ _ fixed.1 fixed.2 _)) fun own => ?_
        refine .bind (runItems_shift ih path 0 items) fun rs => ?_
        exact .gives (sequenceResult_rename (fun items => by simp [Access.rename]) own rs)
    case object shape catchall policy =>
      simp only [Schema.runWith, entries?_rename]
      cases v.entries? with
      | none => exact .gives (wrongContainer_rename path _ v)
      | some entries =>
        dsimp only [Option.map_some]
        rw [extraEntries_rename injective]
        refine .bind (runFields_shift (fun f hf => ih.1 f.2 ⟨f, hf, rfl⟩) path entries)
          fun fields => ?_
        cases catchall with
        | none => exact .gives (closedObject_rename path policy fields _)
        | some c =>
          refine .bind (runValues_shift (ih.2 c rfl) path _) fun rs => ?_
          exact .gives (openObject_rename fields rs)
    case union options => exact runOptions_shift ih path v []
    case tagged key options table =>
      have tags : ∀ e ∈ table, e.1.rename (shift m k) = e.1 :=
        fun e he => fixed e.1 (List.mem_map_of_mem he)
      simp only [Schema.runWith, entries?_rename]
      cases v.entries? with
      | none => exact .gives (wrongContainer_rename path _ v)
      | some entries =>
        dsimp only [Option.map_some]
        rw [valueAt_rename injective, optionAt?_rename injective tags]
        cases optionAt? table (valueAt entries key) with
        | none => exact .gives (wrongTag_rename path key tags)
        | some i => exact runOption_shift ih i path v
    case intersection left right =>
      refine .bind (ih.1 path v) fun l => .bind (ih.2 path v) fun r => ?_
      exact .gives (intersectionResult_rename path injective l r)
    case tuple items rest =>
      simp only [Schema.runWith, sequence?_rename]
      cases v.sequence? with
      | none => exact .gives (wrongContainer_rename path _ v)
      | some sequence =>
        obtain ⟨isTuple, vs⟩ := sequence
        have made (items : List Datum) :
            (if isTuple then Value.tuple else Value.list .free)
                (items.map (Value.rename (shift m k))) =
              ((if isTuple then Value.tuple else Value.list .free) items).rename (shift m k) := by
          cases isTuple <;> simp [Access.rename]
        dsimp only [Option.map_some]
        rw [List.length_map]
        split
        · exact .gives (tupleBound_rename path _ _ _ _)
        · cases rest with
          | some r =>
            refine .bind (runTupleItems_shift ih.1 (ih.2 r rfl) path 0 vs) fun rs => ?_
            exact .gives (sequenceResult_rename made [] rs)
          | none =>
            dsimp only
            split
            · exact .gives (tupleBound_rename path _ _ _ _)
            · have unread : plans.ParseShifts stray m k fun _ x => Pure.pure ⟨x, []⟩ :=
                fun _ _ => .pure _
              refine .bind (runTupleItems_shift ih.1 unread path 0 vs) fun rs => ?_
              exact .gives (sequenceResult_rename made [] rs)
    case record key value =>
      simp only [Schema.runWith, entries?_rename]
      cases v.entries? with
      | none => exact .gives (wrongContainer_rename path _ v)
      | some entries =>
        refine .bind (runEntries_shift ih.1 ih.2 (fun _ _ => (child_rename ..).symm)
          (fun _ _ => (child_rename ..).symm) 0 entries {}) fun b => ?_
        exact .gives b.parsed_rename
    case map key value =>
      simp only [Schema.runWith, entries?_rename]
      cases v.entries? with
      | none => exact .gives (wrongContainer_rename path _ v)
      | some entries =>
        refine .bind (runEntries_shift ih.1 ih.2 (fun _ _ => by simp) (fun _ _ => by simp) 0
          entries {}) fun b => ?_
        exact .gives b.parsed_rename
    case set element =>
      simp only [Schema.runWith, setItems?_rename]
      cases v.setItems? with
      | none => exact .gives (wrongContainer_rename path _ v)
      | some items =>
        refine .bind (runItems_shift ih path 0 items.2) fun rs => ?_
        exact setResult_shifts items.1 rs
    case function items rest returns =>
      cases v with
      | live x =>
        simp only [Schema.runWith, Value.rename, Live.isCallable_rename]
        split
        · exact .bind .identity fun _ => .pure _
        · exact .gives (wrongContainer_rename path _ (.live x))
      | _ => exact .gives (wrongContainer_rename path _ _)
    case lazy id origin => exact hl.enter h path v
    case effect kind action elidable inner =>
      cases kind with
      | preprocess =>
        refine .bind (links.apply_shifts (hl.repeats h rfl) fixed path v) fun r => ?_
        simp only [Parsed.rename, List.isEmpty_map]
        split
        · exact ih path r.value
        · exact .pure _
      | refinement =>
        refine .bind (ih path v) fun r => ?_
        simp only [Parsed.rename, Value.isInvalid_rename]
        split
        · exact .pure r
        · refine .bind (links.act_shifts (hl.repeats h rfl) fixed path r.value) fun c => ?_
          exact .gives (by simp)
      | transform =>
        exact .bind (ih path v) fun r =>
          andThen_shifts fun x => links.apply_shifts (hl.repeats h rfl) fixed path x
    case optional inner =>
      simp only [Schema.runWith, Value.isMissing_rename, Value.isNone_rename]
      split
      · exact .pure _
      · exact ih path v
    case nullable inner =>
      simp only [Schema.runWith, Value.isNone_rename]
      split
      · exact .pure _
      · exact ih path v
    case default inner supply =>
      simp only [Schema.runWith, Value.isMissing_rename]
      split
      · exact .bind (links.supply_shifts (hl.repeats h rfl) fixed) fun x => ih path x
      · exact .bind (.pure v) fun x => ih path x
    case «catch» inner supply =>
      refine .bind (ih path v) fun r => ?_
      rw [Parsed.isClean_rename]
      split
      · exact .pure r
      · exact .bind (links.rescue_shifts (hl.repeats h rfl) fixed r.issues) fun _ => .pure _
    case promise inner =>
      cases v with
      | live x =>
        simp only [Schema.runWith, Value.rename, Live.isAwaitable_rename]
        split
        · exact .bind .identity fun _ => .pure _
        · exact .gives (wrongAwaitable_rename path (.live x))
      | _ => exact .gives (wrongAwaitable_rename path _)
    case branded inner name => exact ih path v
    case pipeline input output =>
      exact .bind (ih.1 path v) fun r => andThen_shifts fun x => ih.2 path x
    case invertible input parse output format =>
      refine .bind (ih.1 path v) fun r => ?_
      refine .bind (andThen_shifts fun x => ?_) fun r => andThen_shifts fun x => ih.2 path x
      exact links.apply_shifts (hl.repeats h rfl) (List.forall_mem_nil _) path x
    case readonly inner =>
      refine .bind (ih path v) fun r => ?_
      simp only [Parsed.rename, Value.freeze_rename]
      exact .bind (value_shifts r.value.freeze) fun _ => .pure _
    case raw value => exact .throw _ _

end Plans

namespace Library

variable {lib : Library} {schemas : Schema → Prop} {stray : Failure → Prop} {m : Nat}

/-- A parse does the same later on, if the user functions are pure. It may be that only one of both
fails, but not if the user functions do not fail and neither goes too deep. -/
theorem runWith_shifts (hs : lib.plans.Old m schemas) (deep : stray (.fault .tooDeep))
    (pure : lib.host.Pure) (fails : (∀ e, stray e) ∨ lib.host.Unfailing) (k : Nat)
    (mode : Mode) (depth : Nat) {s : Schema} (h : schemas s) :
    lib.plans.ParseShifts stray m k (s.runWith (lib.links mode depth)) := by
  have repeats depth : (lib.links mode depth).Repeats stray :=
    ⟨lib.links_host mode depth ▸ pure, lib.links_ready mode depth, deep,
      lib.links_host mode depth ▸ fails⟩
  induction depth generalizing s with
  | zero => exact Plans.Later.parseShifts ⟨fun _ _ => repeats 0, fun _ _ _ => .throw _ _⟩ hs h
  | succ depth ih =>
    refine Plans.Later.parseShifts ⟨fun _ _ => repeats _, fun {id origin} hlazy path v => ?_⟩ hs h
    exact .bindWith _ (.force deep (depth + 1) id origin)
      (fun _ _ _ faithful forced => (Plans.force_ok faithful forced).2)
      fun s given => ih (hs.behind hlazy given) path v

end Library
end TwoWay
