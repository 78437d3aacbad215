import TwoWay.Proofs.Forcing.Ensuring

/-!
# Runs that come to an end

A run may go as deep as its depth allows. It comes to an end by itself if the depth does not
matter from some depth on, and its failure, if it fails, is not that of going too deep
(`Plans.Ends`, of the failures that are allowed). Forcing a lazy node comes to an end if the node
stands for a schema (`Plans.Gives.force_ends`): what is made within some depth without the memory
of a world is found in the same way within all greater ones (`Plans.settles`).
-/

namespace TwoWay.Plans

variable {α β : Type}

/-- From a faithful world, all runs from some depth on end alike: in one faithful world, with
something that has `Q` or a failure of a kind. -/
def Ends (plans : Plans) (fails : Failure → Prop) (m : Nat → Run α) (Q : α → Prop) : Prop :=
  ∀ w, plans.Faithful w → ∃ depth r w', (∀ f, r = .error f → fails f) ∧ (∀ a, r = .ok a → Q a) ∧
    plans.Faithful w' ∧ ∀ k ≥ depth, (m k).result w = r ∧ (m k).final w = w'

variable {plans : Plans} {fails : Failure → Prop}

namespace Ends

variable {m : Nat → Run α} {P Q : α → Prop}

theorem pure {a : α} (h : Q a) : plans.Ends fails (fun _ => Pure.pure a) Q := by
  refine fun w hw => ⟨0, .ok a, w, nofun, fun b hb => ?_, hw, fun _ _ => ⟨rfl, rfl⟩⟩
  cases hb
  exact h

/-- A run that gives the same everywhere and leaves worlds as they are. -/
theorem given {a : α} (h : ∀ k w, m k w = .ok a w) (hq : Q a) : plans.Ends fails m Q := by
  have alike : m = fun _ => Pure.pure a := by
    funext k w
    exact h k w
  exact alike ▸ pure hq

theorem throw {f : Failure} (h : fails f) : plans.Ends fails (fun _ => (throw f : Run α)) Q := by
  refine fun w hw => ⟨0, .error f, w, fun g same => ?_, nofun, hw, fun _ _ => ⟨rfl, rfl⟩⟩
  cases same
  exact h

theorem bind {k : Nat → α → Run β} {R : β → Prop} (hm : plans.Ends fails m P)
    (hk : ∀ a, P a → plans.Ends fails (fun depth => k depth a) R) :
    plans.Ends fails (fun depth => m depth >>= k depth) R := by
  intro w hw
  obtain ⟨depth, r, u, failed, given, hu, ends⟩ := hm w hw
  cases r with
  | error f =>
    refine ⟨depth, .error f, u, fun g same => failed g ?_, nofun, hu, fun j hj => ?_⟩
    · cases same
      rfl
    · obtain ⟨result, final⟩ := ends j hj
      rw [Run.result_bind, Run.final_bind, result]
      exact ⟨rfl, final⟩
  | ok a =>
    obtain ⟨depth', r, u', failed', given', hu', ends'⟩ := hk a (given a rfl) u hu
    refine ⟨max depth depth', r, u', failed', given', hu', fun j hj => ?_⟩
    obtain ⟨result, final⟩ := ends j (by omega)
    rw [Run.result_bind, Run.final_bind, result, final]
    exact ends' j (by omega)

theorem weaken (h : plans.Ends fails m P) (hq : ∀ a, P a → Q a) : plans.Ends fails m Q := by
  intro w hw
  obtain ⟨depth, r, u, failed, given, hu, ends⟩ := h w hw
  exact ⟨depth, r, u, failed, fun a ha => hq a (given a ha), hu, ends⟩

theorem mono {fails' : Failure → Prop} (h : plans.Ends fails m Q) (hf : ∀ f, fails f → fails' f) :
    plans.Ends fails' m Q := by
  intro w hw
  obtain ⟨depth, r, u, failed, given, hu, ends⟩ := h w hw
  exact ⟨depth, r, u, fun f same => hf f (failed f same), given, hu, ends⟩

theorem map {f : α → β} {R : β → Prop} (h : plans.Ends fails m P) (hr : ∀ a, P a → R (f a)) :
    plans.Ends fails (fun depth => f <$> m depth) R := by
  simp only [← bind_pure_comp]
  exact bind h fun a ha => pure (hr a ha)

/-- The least depth is left out of account. -/
theorem succ (h : plans.Ends fails (fun depth => m (depth + 1)) Q) : plans.Ends fails m Q := by
  intro w hw
  obtain ⟨depth, r, u, failed, given, hu, ends⟩ := h w hw
  refine ⟨depth + 1, r, u, failed, given, hu, fun k hk => ?_⟩
  obtain ⟨j, rfl⟩ : ∃ j, k = j + 1 := ⟨k - 1, by omega⟩
  exact ends j (by omega)

theorem later (h : plans.Ends fails m Q) : plans.Ends fails (fun depth => m (depth + 1)) Q := by
  intro w hw
  obtain ⟨depth, r, u, failed, given, hu, ends⟩ := h w hw
  exact ⟨depth, r, u, failed, given, hu, fun k hk => ends (k + 1) (by omega)⟩

/-- A run that does not depend on the depth comes to an end. -/
theorem of_ensures {m : Run α} (h : plans.Ensures m Q)
    (failed : ∀ w f, m.result w = .error f → fails f) : plans.Ends fails (fun _ => m) Q := by
  intro w hw
  obtain ⟨hfinal, given⟩ := h w hw
  exact ⟨0, m.result w, m.final w, failed w, given, hfinal, fun _ _ => ⟨rfl, rfl⟩⟩

theorem record (e : Event) : plans.Ends fails (fun _ => Run.record e) fun _ => True :=
  of_ensures (.record e) fun _ _ => nofun

theorem identity : plans.Ends fails (fun _ => Run.identity) fun _ => True :=
  of_ensures .identity fun _ _ => nofun

theorem lift {r : Except Failure α} (h : ∀ f, r = .error f → fails f) :
    plans.Ends fails (fun _ => Run.lift r) fun _ => True := by
  cases r with
  | ok a => exact pure trivial
  | error f => exact throw (h f rfl)

theorem liftFault {r : Except Fault α} (h : ∀ f, r = .error f → fails (.fault f)) :
    plans.Ends fails (fun _ => Run.liftFault r) fun _ => True := by
  cases r with
  | ok a => exact pure trivial
  | error f => exact throw (h f rfl)

/-- What is ensured in all depths holds at the end. -/
theorem ensuring (h : plans.Ends fails m P) (hq : ∀ depth, plans.Ensures (m depth) Q) :
    plans.Ends fails m Q := by
  intro w hw
  obtain ⟨depth, r, u, failed, -, hu, ends⟩ := h w hw
  refine ⟨depth, r, u, failed, fun a ha => ?_, hu, ends⟩
  exact (hq depth w hw).2 a ((ends depth (Nat.le_refl depth)).1.trans ha)

end Ends

variable (plans)

/-- Runs beside one that does not remember: they all end as it does, and in one world, unless it
goes too deep. -/
def Settles (m : Option Nat → Run α) : Prop :=
  ∀ w, plans.Faithful w → ∀ w₀, (m none).result w₀ = Run.tooDeep ∨
    ∃ u, plans.Faithful u ∧
      ∀ k, (m (some k)).result w = (m none).result w₀ ∧ (m (some k)).final w = u

variable {plans}

theorem Settles.bind {m : Option Nat → Run α} {k : Option Nat → α → Run β} (hm : plans.Settles m)
    (hk : ∀ a, plans.Settles fun i => k i a) : plans.Settles fun i => m i >>= k i := by
  intro w hw w₀
  simp only [Run.result_bind, Run.final_bind]
  rcases hm w hw w₀ with deep | ⟨u, hu, ends⟩
  · rw [deep]
    exact .inl rfl
  · simp only [ends]
    cases (m none).result w₀ with
    | error f => exact .inr ⟨u, hu, fun _ => ⟨rfl, rfl⟩⟩
    | ok a => exact hk a u hu _

variable (plans)

/-- Runs settle however they are put together. -/
def settling : Run.Law (Option Nat) where
  Holds := plans.Settles
  pure _ w hw _ := .inr ⟨w, hw, fun _ => ⟨rfl, rfl⟩⟩
  fail _ w hw _ := .inr ⟨w, hw, fun _ => ⟨rfl, rfl⟩⟩
  log e w hw _ := .inr ⟨w.record (.logged e), hw.of_memory rfl rfl, fun _ => ⟨rfl, rfl⟩⟩
  bind := Settles.bind

variable {plans}

/-- Runs that settle beside one that does not go too deep end as it does from some depth on. -/
theorem Settles.beyond {m : Nat → Run α} {made : Run α} {n : Nat}
    (h : plans.Settles (beside made fun k => m (n + k))) (hd : made.result {} ≠ Run.tooDeep)
    {w : World} (hw : plans.Faithful w) : ∃ u, plans.Faithful u ∧
      ∀ k ≥ n, (m k).result w = made.result {} ∧ (m k).final w = u := by
  obtain ⟨u, hu, ends⟩ := (h w hw {}).resolve_left hd
  refine ⟨u, hu, fun k hk => ?_⟩
  obtain ⟨j, rfl⟩ := Nat.exists_eq_add_of_le hk
  exact ends j

/-- Runs that settle beside one that gives something give it at the end. -/
theorem Settles.at_last (m : Nat → Run α) {made : Run α} {n : Nat} {a : α}
    (h : plans.Settles (beside made fun k => m (n + k))) (hd : made.result {} = .ok a) :
    plans.Ends fails m (Eq a) := by
  intro w hw
  obtain ⟨u, hu, ends⟩ := h.beyond (hd ▸ Run.ok_ne_tooDeep a) hw
  exact ⟨n, .ok a, u, nofun, fun b same => Except.ok.inj same, hu, hd ▸ ends⟩

/-- What is said before the making does not matter. -/
theorem Settles.said {said : Run Unit} {made : Run α} {m : Nat → Run α}
    (hs : plans.Ensures said fun _ => True) (hr : ∀ w, said.result w = .ok ())
    (h : plans.Settles (beside made m)) :
    plans.Settles (beside made fun k => do said; m k) := by
  intro w hw w₀
  simp only [beside, Run.result_bind, Run.final_bind, hr]
  exact h _ (hs w hw).1 w₀

theorem Gives.settled {id : LazyId} {origin : Origin} {s : Schema} (h : plans.Gives id origin s)
    (n : Nat) (w : World) : (plans.schemaOf n id origin).result w = Run.tooDeep ∨
      (plans.schemaOf n id origin).result w = .ok s := by
  obtain ⟨depth, gives⟩ := h.deep
  refine (schemaOf_deeper plans (Nat.le_max_left n depth) id origin w {}).imp_right fun same => ?_
  rw [← same, gives _ (Nat.le_max_right n depth)]

theorem Defines.settled {name : String} {s : Schema} (h : plans.Defines name s) (n : Nat)
    (w : World) : (plans.definitionOf n name).result w = Run.tooDeep ∨
      (plans.definitionOf n name).result w = .ok s := by
  obtain ⟨depth, defines⟩ := h.deep
  refine (definitionOf_deeper plans (Nat.le_max_left n depth) name w {}).imp_right fun same => ?_
  rw [← same, defines _ (Nat.le_max_right n depth)]

theorem gives_of_result {n : Nat} {id : LazyId} {origin : Origin} {w : World} {s : Schema}
    (h : (plans.schemaOf n id origin).result w = .ok s) : plans.Gives id origin s := by
  refine ⟨n, ?_⟩
  have same := schemaOf_deeper plans (Nat.le_refl n) id origin w {}
  rw [h] at same
  exact same.resolve_left nofun

theorem defines_of_result {n : Nat} {name : String} {w : World} {s : Schema}
    (h : (plans.definitionOf n name).result w = .ok s) : plans.Defines name s := by
  refine ⟨n, ?_⟩
  have same := definitionOf_deeper plans (Nat.le_refl n) name w {}
  rw [h] at same
  exact same.resolve_left nofun

/-- What is known is not made again, and what is made is kept. -/
theorem Settles.recalled {made : Run Schema} {m : Nat → Run Schema}
    {known : World → Option Schema} {keep : Schema → World → World}
    (hknown : ∀ w, plans.Faithful w → ∀ s, known w = some s → ∀ w₀,
      made.result w₀ = Run.tooDeep ∨ made.result w₀ = .ok s)
    (hkeep : ∀ w, plans.Faithful w → ∀ w₀ s, made.result w₀ = .ok s → plans.Faithful (keep s w))
    (h : plans.Settles (beside made m)) :
    plans.Settles (beside made fun k => do
      match known (← get) with
      | some s => return s
      | none => do
        let s ← m k
        modify (keep s)
        return s) := by
  intro w hw w₀
  simp only [beside, Run.result_bind, Run.final_bind, Run.result_get, Run.final_get]
  cases hmem : known w with
  | some s =>
    refine (hknown w hw s hmem w₀).imp_right fun same => ?_
    rw [same]
    exact ⟨w, hw, fun _ => ⟨rfl, rfl⟩⟩
  | none =>
    simp only [Run.result_bind, Run.final_bind]
    rcases h w hw w₀ with deep | ⟨u, hu, ends⟩
    · exact .inl deep
    · simp only [beside] at ends
      simp only [ends]
      cases hm : made.result w₀ with
      | error f => exact .inr ⟨u, hu, fun _ => ⟨rfl, rfl⟩⟩
      | ok s => exact .inr ⟨keep s u, hkeep u hu w₀ s hm, fun _ => ⟨rfl, rfl⟩⟩

/-- What is looked up in any depth beyond one settles beside what is made within that depth. -/
structure Settled (plans : Plans) (n : Nat) : Prop where
  force : ∀ id origin, plans.settling.Holds
    (beside (plans.schemaOf n id origin) fun k => plans.force (n + k) id origin)
  tagsBehind : ∀ id origin, plans.settling.Holds
    (beside (plans.tagsOf n id origin) fun k => plans.tagsBehind (n + k) id origin)
  shared : ∀ name, plans.settling.Holds
    (beside (plans.definitionOf n name) fun k => plans.shared (n + k) name)

theorem settles_beside {f : Option Nat → Run α} (h : plans.settling.Holds f) :
    plans.settling.Holds (beside (f none) fun k => f (some k)) := by
  have split : beside (f none) (fun k => f (some k)) = f := by
    funext i
    cases i <;> rfl
  rw [split]
  exact h

theorem settles (plans : Plans) (n : Nat) : plans.Settled n := by
  induction n with
  | zero =>
    exact ⟨fun _ _ _ _ _ => .inl rfl, fun _ _ _ _ _ => .inl rfl, fun _ _ _ _ => .inl rfl⟩
  | succ n ih =>
    obtain ⟨hforce, htags, hshared⟩ := ih
    have built (owner : LazyId) (b : Blueprint) : plans.settling.Holds (beside
        ((b.build ⟨⟨owner, plans.tagsOf n⟩, plans.definitionOf n⟩).run' 0)
        fun k => (b.build ⟨⟨owner, plans.tagsBehind (n + k)⟩, plans.shared (n + k)⟩).run' 0) :=
      settles_beside (Run.Law.Makes.run (Run.Law.build htags hshared b))
    refine ⟨fun id origin => ?_, fun id origin => ?_, fun name => ?_⟩
    · simp only [Nat.add_right_comm n 1, force_succ]
      refine Settles.recalled (fun w hw s known w₀ => (hw.gives known).settled (n + 1) w₀)
        (fun w hw w₀ s made => ⟨?_, hw.shared⟩) ?_
      · intro e he
        rcases List.mem_cons.1 he with rfl | he
        · exact gives_of_result made
        · exact hw.forced e he
      · cases origin with
        | getter fn =>
          refine Settles.said ?_ ?_ (built id (plans.getter fn).schema)
          · refine .andThen (.record _) fun _ => ?_
            unfold noteLabel
            split
            · exact .record _
            · exact .pure trivial
          · exact fun w => by rw [Run.result_bind]; exact result_noteLabel _ _
        | inverse settings base of =>
          have inverts (s : Schema) : plans.settling.Makes fun i => s.invertWith ⟨id,
              fun id origin => beside (plans.tagsOf n id origin)
                (fun k => plans.tagsBehind (n + k) id origin) i⟩ settings :=
            Run.Law.invertWith htags s
          exact settles_beside (plans.settling.bind (hforce base of) fun s =>
            Run.Law.Makes.run (inverts s))
    · simp only [Nat.add_right_comm n 1]
      exact settles_beside (plans.settling.bind (hforce id origin) fun s =>
        Run.Law.tagValues htags s)
    · simp only [Nat.add_right_comm n 1]
      refine Settles.recalled (fun w hw s known w₀ => (hw.defines known).settled (n + 1) w₀)
        (fun w hw w₀ s made => ⟨hw.forced, ?_⟩) (built (.shared name) _)
      intro e he
      rcases List.mem_cons.1 he with rfl | he
      · exact defines_of_result made
      · exact hw.shared e he

/-- Forcing a lazy node that stands for a schema comes to an end and gives it. -/
theorem Gives.force_ends {id : LazyId} {origin : Origin} {s : Schema}
    (h : plans.Gives id origin s) :
    plans.Ends fails (fun depth => plans.force depth id origin) (Eq s) := by
  obtain ⟨n, gives⟩ := h
  exact Settles.at_last (fun k => plans.force k id origin) ((settles plans n).force id origin) gives

/-- From some depth on, forcing a lazy node that stands for a schema ends in one way in a faithful
world. -/
theorem Gives.forced {id : LazyId} {origin : Origin} {s : Schema} (h : plans.Gives id origin s) :
    ∃ n, ∀ w, plans.Faithful w →
      ∃ u, plans.Faithful u ∧ ∀ k ≥ n, plans.force k id origin w = .ok s u := by
  obtain ⟨n, gives⟩ := h
  refine ⟨n, fun w hw => ?_⟩
  obtain ⟨u, hu, ends⟩ := Settles.beyond (m := fun k => plans.force k id origin)
    ((settles plans n).force id origin) (gives ▸ Run.ok_ne_tooDeep s) hw
  exact ⟨u, hu, fun k hk => Run.eq_ok ((ends k hk).1.trans gives) (ends k hk).2⟩

/-- From some depth on, forcing a lazy node that stands for none fails in one way. -/
theorem Fails.forced {id : LazyId} {origin : Origin} {f : Failure} (h : plans.Fails id origin f)
    (hf : f ≠ .fault .tooDeep) : ∃ n, ∀ w, plans.Faithful w →
      ∃ u, plans.Faithful u ∧ ∀ k ≥ n, plans.force k id origin w = .error f u := by
  obtain ⟨n, fails⟩ := h
  have shallow : (plans.schemaOf n id origin).result {} ≠ Run.tooDeep :=
    fun deep => hf (Except.error.inj (fails.symm.trans deep))
  refine ⟨n, fun w hw => ?_⟩
  obtain ⟨u, hu, ends⟩ := Settles.beyond (m := fun k => plans.force k id origin)
    ((settles plans n).force id origin) shallow hw
  exact ⟨u, hu, fun k hk => Run.eq_error ((ends k hk).1.trans fails) (ends k hk).2⟩

end TwoWay.Plans
