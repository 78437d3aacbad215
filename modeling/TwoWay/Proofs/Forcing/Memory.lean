import TwoWay.Proofs.Forcing.Meaning

/-!
# Memory

A world remembers the schemas of lazy nodes that were forced and the shared definitions that
were built. It is faithful if it remembers nothing but what these stand for. Forcing in a
faithful world gives what the node stands for and leaves the world faithful
(`Plans.force_ok`, `Plans.force_error`), so that it does not matter what was forced before.
-/

namespace TwoWay.Plans

variable (plans : Plans)

/-- A world remembers nothing but what lazy nodes and shared definitions stand for. -/
structure Faithful (w : World) : Prop where
  forced : ∀ e ∈ w.forced, plans.Gives e.1.1 e.1.2 e.2
  shared : ∀ e ∈ w.shared, plans.Defines e.1 e.2

variable {plans}

theorem Faithful.empty : plans.Faithful {} := ⟨nofun, nofun⟩

/-- What a world says apart from its memory does not make it unfaithful. -/
theorem Faithful.of_memory {w w' : World} (h : plans.Faithful w) (hf : w'.forced = w.forced)
    (hs : w'.shared = w.shared) : plans.Faithful w' := ⟨hf ▸ h.forced, hs ▸ h.shared⟩

theorem Faithful.gives {w : World} (h : plans.Faithful w) {id : LazyId} {origin : Origin}
    {s : Schema} (hs : w.forced? id origin = some s) : plans.Gives id origin s := by
  obtain ⟨before, after, hl, -⟩ := List.lookup_eq_some_iff.1 hs
  exact h.forced ((id, origin), s) (by simp [hl])

theorem Faithful.defines {w : World} (h : plans.Faithful w) {name : String} {s : Schema}
    (hs : w.shared? name = some s) : plans.Defines name s := by
  obtain ⟨before, after, hl, -⟩ := List.lookup_eq_some_iff.1 hs
  exact h.shared (name, s) (by simp [hl])

variable (plans)

/-- Going from one world to another keeps it faithful, no identities are given out, and nothing
is awaited. -/
structure Leads (w w' : World) : Prop where
  faithful : plans.Faithful w'
  made : w'.made = w.made
  awaited : w'.awaited = w.awaited

variable {plans}

theorem Faithful.leads {w : World} (h : plans.Faithful w) : plans.Leads w w := ⟨h, rfl, rfl⟩

theorem Leads.trans {w u t : World} (h : plans.Leads w u) (h' : plans.Leads u t) :
    plans.Leads w t :=
  ⟨h'.faithful, h'.made.trans h.made, h'.awaited.trans h.awaited⟩

variable (plans)

/-- A run that remembers, beside runs of all depths that do not: it keeps worlds faithful, and
it ends as they do from some depth on, unless it goes too deep itself. -/
def Retraces {α : Type} (m : Option Nat → Run α) : Prop :=
  ∀ w, plans.Faithful w → plans.Leads w ((m none).final w) ∧
    ((m none).result w = Run.tooDeep ∨
      ∃ n, ∀ k ≥ n, ∀ w', (m (some k)).result w' = (m none).result w)

variable {plans}

theorem Retraces.bind {α β : Type} {m : Option Nat → Run α} {k : Option Nat → α → Run β}
    (hm : plans.Retraces m) (hk : ∀ a, plans.Retraces fun i => k i a) :
    plans.Retraces fun i => m i >>= k i := by
  intro w hw
  obtain ⟨hfinal, hresult⟩ := hm w hw
  simp only [Run.result_bind, Run.final_bind]
  rcases hresult with hresult | ⟨n, hn⟩
  · rw [hresult]
    exact ⟨hfinal, .inl rfl⟩
  · cases h : (m none).result w with
    | error f =>
      refine ⟨hfinal, .inr ⟨n, fun j hj w' => ?_⟩⟩
      rw [hn j hj w', h]
    | ok a =>
      obtain ⟨hfinal', hresult'⟩ := hk a _ hfinal.faithful
      refine ⟨hfinal.trans hfinal', hresult'.imp_right ?_⟩
      rintro ⟨n', hn'⟩
      refine ⟨max n n', fun j hj w' => ?_⟩
      rw [hn j (by omega) w', h]
      exact hn' j (by omega) _

theorem Retraces.record (e : Event) : plans.Retraces fun _ => Run.record e :=
  fun _ hw => ⟨⟨hw.of_memory rfl rfl, rfl, rfl⟩, .inr ⟨0, fun _ _ _ => rfl⟩⟩

variable (plans)

/-- Runs that remember end like those that do not, however they are put together. -/
def remembering : Run.Law (Option Nat) where
  Holds := plans.Retraces
  pure _ _ hw := ⟨hw.leads, .inr ⟨0, fun _ _ _ => rfl⟩⟩
  fail _ _ hw := ⟨hw.leads, .inr ⟨0, fun _ _ _ => rfl⟩⟩
  log _ := Retraces.record _
  bind := Retraces.bind

variable {plans}

/-- A look-up that remembers beside one that does not. -/
def beside {α : Type} (m : Run α) (made : Nat → Run α) : Option Nat → Run α
  | none => m
  | some depth => made depth

theorem remembering_succ {α : Type} {m : Run α} {made deeper : Nat → Run α}
    (h : plans.remembering.Holds (beside m made)) (hd : ∀ n, deeper (n + 1) = made n) :
    plans.remembering.Holds (beside m deeper) := by
  intro w hw
  obtain ⟨hfinal, hresult⟩ := h w hw
  refine ⟨hfinal, hresult.imp_right ?_⟩
  rintro ⟨n, hn⟩
  refine ⟨n + 1, fun k hk w' => ?_⟩
  cases k with
  | zero => omega
  | succ j =>
    change (deeper (j + 1)).result w' = m.result w
    rw [hd]
    exact hn j (by omega) w'

/-- What is said before the making does not matter. -/
theorem remembering_said {α : Type} {said : Run Unit} {m : Run α} {made : Nat → Run α}
    (hs : plans.remembering.Holds fun _ => said) (hr : ∀ w, said.result w = .ok ())
    (h : plans.remembering.Holds (beside m made)) :
    plans.remembering.Holds (beside (do said; m) made) := by
  intro w hw
  have hfinal := (hs w hw).1
  obtain ⟨hfinal', hresult⟩ := h _ hfinal.faithful
  simp only [beside, Run.result_bind, Run.final_bind, hr]
  exact ⟨hfinal.trans hfinal', hresult⟩

theorem remembering_forced {id : LazyId} {origin : Origin} {m : Run Schema}
    (h : plans.remembering.Holds (beside m fun n => plans.schemaOf n id origin)) :
    plans.remembering.Holds (beside (do
      match (← get).forced? id origin with
      | some s => return s
      | none => do
        let s ← m
        modify fun w => { w with forced := ((id, origin), s) :: w.forced }
        return s) fun n => plans.schemaOf n id origin) := by
  intro w hw
  simp only [beside, Run.result_bind, Run.final_bind, Run.result_get, Run.final_get]
  cases hmem : w.forced? id origin with
  | some s => exact ⟨hw.leads, .inr (hw.gives hmem).deep⟩
  | none =>
    obtain ⟨hfinal, hresult⟩ := h w hw
    simp only [beside] at hfinal hresult
    simp only [Run.result_bind, Run.final_bind]
    rcases hresult with hresult | ⟨n, hn⟩
    · rw [hresult]
      exact ⟨hfinal, .inl rfl⟩
    · cases hm : m.result w with
      | error f => exact ⟨hfinal, .inr ⟨n, fun k hk w' => by rw [hn k hk w', hm]⟩⟩
      | ok s =>
        have gives : plans.Gives id origin s := ⟨n, by rw [hn n (Nat.le_refl n), hm]⟩
        refine ⟨⟨⟨?_, hfinal.faithful.shared⟩, hfinal.made, hfinal.awaited⟩, .inr gives.deep⟩
        intro e he
        rcases List.mem_cons.1 he with rfl | he
        · exact gives
        · exact hfinal.faithful.forced e he

theorem remembering_shared {name : String} {m : Run Schema}
    (h : plans.remembering.Holds (beside m fun n => plans.definitionOf n name)) :
    plans.remembering.Holds (beside (do
      match (← get).shared? name with
      | some s => return s
      | none => do
        let s ← m
        modify fun w => { w with shared := (name, s) :: w.shared }
        return s) fun n => plans.definitionOf n name) := by
  intro w hw
  simp only [beside, Run.result_bind, Run.final_bind, Run.result_get, Run.final_get]
  cases hmem : w.shared? name with
  | some s => exact ⟨hw.leads, .inr (hw.defines hmem).deep⟩
  | none =>
    obtain ⟨hfinal, hresult⟩ := h w hw
    simp only [beside] at hfinal hresult
    simp only [Run.result_bind, Run.final_bind]
    rcases hresult with hresult | ⟨n, hn⟩
    · rw [hresult]
      exact ⟨hfinal, .inl rfl⟩
    · cases hm : m.result w with
      | error f => exact ⟨hfinal, .inr ⟨n, fun k hk w' => by rw [hn k hk w', hm]⟩⟩
      | ok s =>
        have defines : plans.Defines name s := ⟨n, by rw [hn n (Nat.le_refl n), hm]⟩
        refine ⟨⟨⟨hfinal.faithful.forced, ?_⟩, hfinal.made, hfinal.awaited⟩, .inr defines.deep⟩
        intro e he
        rcases List.mem_cons.1 he with rfl | he
        · exact defines
        · exact hfinal.faithful.shared e he

/-- Making the schema of a lazy node that has not been forced. -/
def unforced (plans : Plans) (depth : Nat) (id : LazyId) : Origin → Run Schema
  | .getter fn => do
    (do Run.record (.called fn []); noteLabel (plans.getter fn))
    ((plans.getter fn).schema.build ⟨⟨id, plans.tagsBehind depth⟩, plans.shared depth⟩).run' 0
  | .inverse settings base of => do
    let s ← plans.force depth base of
    (s.invertWith ⟨id, plans.tagsBehind depth⟩ settings).run' 0

theorem force_succ (depth : Nat) (id : LazyId) (origin : Origin) :
    plans.force (depth + 1) id origin = do
      match (← get).forced? id origin with
      | some s => return s
      | none => do
        let s ← plans.unforced depth id origin
        modify fun w => { w with forced := ((id, origin), s) :: w.forced }
        return s := by
  cases origin <;> simp only [unforced, bind_assoc] <;> rfl

theorem result_noteLabel (g : Getter) (w : World) : (noteLabel g).result w = .ok () := by
  unfold noteLabel
  split <;> rfl

/-- Every look-up that remembers ends like those that do not. -/
structure Remembers (plans : Plans) (depth : Nat) : Prop where
  force : ∀ id origin, plans.remembering.Holds
    (beside (plans.force depth id origin) fun n => plans.schemaOf n id origin)
  tagsBehind : ∀ id origin, plans.remembering.Holds
    (beside (plans.tagsBehind depth id origin) fun n => plans.tagsOf n id origin)
  shared : ∀ name, plans.remembering.Holds
    (beside (plans.shared depth name) fun n => plans.definitionOf n name)

theorem holds_beside {α : Type} {f : Option Nat → Run α} (h : plans.remembering.Holds f) :
    plans.remembering.Holds (beside (f none) fun n => f (some n)) := by
  have split : beside (f none) (fun n => f (some n)) = f := by
    funext i
    cases i <;> rfl
  rw [split]
  exact h

theorem remembers (depth : Nat) : plans.Remembers depth := by
  induction depth with
  | zero =>
    exact ⟨fun _ _ _ hw => ⟨hw.leads, .inl rfl⟩, fun _ _ _ hw => ⟨hw.leads, .inl rfl⟩,
      fun _ _ hw => ⟨hw.leads, .inl rfl⟩⟩
  | succ depth ih =>
    obtain ⟨hforce, htags, hshared⟩ := ih
    have built (owner : LazyId) (b : Blueprint) : plans.remembering.Holds (beside
        ((b.build ⟨⟨owner, plans.tagsBehind depth⟩, plans.shared depth⟩).run' 0)
        fun n => (b.build ⟨⟨owner, plans.tagsOf n⟩, plans.definitionOf n⟩).run' 0) :=
      holds_beside (Run.Law.Makes.run (Run.Law.build htags hshared b))
    refine ⟨fun id origin => ?_, fun id origin => ?_, fun name => ?_⟩
    · rw [force_succ]
      refine remembering_forced ?_
      cases origin with
      | getter fn =>
        refine remembering_succ (remembering_said ?_ ?_ (built id (plans.getter fn).schema))
          fun _ => rfl
        · refine plans.remembering.bind (Retraces.record _) fun _ => ?_
          unfold noteLabel
          split
          · exact Retraces.record _
          · exact plans.remembering.pure ()
        · exact fun w => by rw [Run.result_bind]; exact result_noteLabel _ _
      | inverse settings base of =>
        have inverts (s : Schema) : plans.remembering.Makes fun i => s.invertWith ⟨id,
            fun id origin => beside (plans.tagsBehind depth id origin)
              (fun n => plans.tagsOf n id origin) i⟩ settings := Run.Law.invertWith htags s
        have inverted := plans.remembering.bind (hforce base of) fun s =>
          Run.Law.Makes.run (inverts s)
        exact remembering_succ (holds_beside inverted) fun _ => rfl
    · have tagged := plans.remembering.bind (hforce id origin) fun s => Run.Law.tagValues htags s
      exact remembering_succ (holds_beside tagged) fun _ => rfl
    · exact remembering_shared (remembering_succ (built (.shared name) _) fun _ => rfl)

/-! ## Forcing and making in faithful worlds -/

theorem Faithful.force {w : World} (hw : plans.Faithful w) (depth : Nat) (id : LazyId)
    (origin : Origin) : plans.Faithful ((plans.force depth id origin).final w) :=
  ((remembers depth).force id origin w hw).1.faithful

theorem force_ok {w w' : World} (hw : plans.Faithful w) {depth : Nat} {id : LazyId}
    {origin : Origin} {s : Schema} (h : plans.force depth id origin w = .ok s w') :
    plans.Leads w w' ∧ plans.Gives id origin s := by
  obtain ⟨hfinal, hresult⟩ := (remembers depth).force id origin w hw
  simp only [beside, Run.final, Run.result, h, reduceCtorEq, false_or] at hfinal hresult
  obtain ⟨n, hn⟩ := hresult
  exact ⟨hfinal, n, hn n (Nat.le_refl n) {}⟩

theorem force_error {w w' : World} (hw : plans.Faithful w) {depth : Nat} {id : LazyId}
    {origin : Origin} {f : Failure} (h : plans.force depth id origin w = .error f w') :
    plans.Leads w w' ∧ plans.Fails id origin f := by
  obtain ⟨hfinal, hresult⟩ := (remembers depth).force id origin w hw
  simp only [beside, Run.final, Run.result, h, Except.error.injEq] at hfinal hresult
  refine ⟨hfinal, ?_⟩
  rcases hresult with rfl | ⟨n, hn⟩
  · exact ⟨0, rfl⟩
  · exact ⟨n, hn n (Nat.le_refl n) {}⟩

/-- An inverse made with the memory of a faithful world is one made without. -/
theorem invertWith_ok {w w' : World} (hw : plans.Faithful w) {depth : Nat} {owner : LazyId}
    {settings : InversionSettings} {s t : Schema}
    (h : (s.invertWith ⟨owner, plans.tagsBehind depth⟩ settings).run' 0 w = .ok t w') :
    plans.Leads w w' ∧ ∃ n, ((s.invertWith ⟨owner, plans.tagsOf n⟩ settings).run' 0).result {} =
      .ok t := by
  have inverted : plans.remembering.Holds (beside
      ((s.invertWith ⟨owner, plans.tagsBehind depth⟩ settings).run' 0)
      fun n => (s.invertWith ⟨owner, plans.tagsOf n⟩ settings).run' 0) :=
    holds_beside (Run.Law.Makes.run (Run.Law.invertWith (remembers depth).tagsBehind s))
  obtain ⟨hfinal, hresult⟩ := inverted w hw
  simp only [beside, Run.final, Run.result, h, reduceCtorEq, false_or] at hfinal hresult
  obtain ⟨n, hn⟩ := hresult
  exact ⟨hfinal, n, hn n (Nat.le_refl n) {}⟩

end TwoWay.Plans
