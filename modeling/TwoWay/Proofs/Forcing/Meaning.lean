import TwoWay.Proofs.Forcing.Building

/-!
# What lazy nodes stand for

`Plans.schemaOf` makes the schema of a lazy node anew each time, without the memory of what
has been forced or built before. More depth never changes what it gives
(`Plans.schemaOf_deeper`), so that every lazy node stands for at most one schema
(`Plans.Gives.unique`).
-/

namespace TwoWay

namespace Run

variable {α β : Type}

/-- What a run gives or fails with, leaving out the world it ends in. -/
def result (m : Run α) (w : World) : Except Failure α :=
  match m w with
  | .ok a _ => .ok a
  | .error f _ => .error f

/-- The world a run ends in. -/
def final (m : Run α) (w : World) : World :=
  match m w with
  | .ok _ w' => w'
  | .error _ w' => w'

@[simp] theorem result_pure (a : α) (w : World) : (pure a : Run α).result w = .ok a := rfl

@[simp] theorem final_pure (a : α) (w : World) : (pure a : Run α).final w = w := rfl

@[simp] theorem result_throw (f : Failure) (w : World) :
    (throw f : Run α).result w = .error f := rfl

@[simp] theorem final_throw (f : Failure) (w : World) : (throw f : Run α).final w = w := rfl

@[simp] theorem result_get (w : World) : (get : Run World).result w = .ok w := rfl

@[simp] theorem final_get (w : World) : (get : Run World).final w = w := rfl

@[simp] theorem result_modify (f : World → World) (w : World) :
    (modify f : Run Unit).result w = .ok () := rfl

@[simp] theorem final_modify (f : World → World) (w : World) :
    (modify f : Run Unit).final w = f w := rfl

theorem result_bind (m : Run α) (k : α → Run β) (w : World) :
    (m >>= k).result w = match m.result w with
      | .ok a => (k a).result (m.final w)
      | .error f => .error f := by
  simp only [result, final, bind, EStateM.bind]
  cases m w <;> rfl

theorem final_bind (m : Run α) (k : α → Run β) (w : World) :
    (m >>= k).final w = match m.result w with
      | .ok a => (k a).final (m.final w)
      | .error _ => m.final w := by
  simp only [result, final, bind, EStateM.bind]
  cases m w <;> rfl

theorem result_ok {m : Run α} {a : α} {w : World} :
    m.result w = .ok a ↔ ∃ w', m w = .ok a w' := by
  unfold result
  cases m w <;> simp

theorem eq_ok {m : Run α} {a : α} {w u : World} (result : m.result w = .ok a)
    (final : m.final w = u) : m w = .ok a u := by
  unfold Run.result at result
  unfold Run.final at final
  cases h : m w <;> simp_all

theorem eq_error {m : Run α} {f : Failure} {w u : World} (result : m.result w = .error f)
    (final : m.final w = u) : m w = .error f u := by
  unfold Run.result at result
  unfold Run.final at final
  cases h : m w <;> simp_all

/-- The end of a run that went too deep. -/
abbrev tooDeep : Except Failure α := .error (.fault .tooDeep)

theorem ok_ne_tooDeep (a : α) : (.ok a : Except Failure α) ≠ tooDeep := nofun

/-- Two runs that end alike from any worlds, unless the first goes too deep. -/
def deeper : Run.Law Bool where
  Holds m := ∀ w w', (m false).result w = tooDeep ∨ (m true).result w' = (m false).result w
  pure _ _ _ := .inr rfl
  fail _ _ _ := .inr rfl
  log _ _ _ := .inr rfl
  bind {α β m k} hm hk w w' := by
    simp only [result_bind]
    rcases hm w w' with h | h
    · simp [h]
    · rw [h]
      cases (m false).result w with
      | ok a => exact hk a _ _
      | error f => exact .inr rfl

end Run

namespace Plans

variable (plans : Plans)

mutual

/-- The schema of a lazy node, made from nothing that was made before. -/
def schemaOf : Nat → LazyId → Origin → Run Schema
  | 0, _, _ => throw (.fault .tooDeep)
  | depth + 1, id, .getter fn =>
    ((plans.getter fn).schema.build ⟨⟨id, tagsOf depth⟩, definitionOf depth⟩).run' 0
  | depth + 1, id, .inverse settings base of => do
    let s ← schemaOf depth base of
    (s.invertWith ⟨id, tagsOf depth⟩ settings).run' 0

/-- The tags behind a lazy node. -/
def tagsOf : Nat → LazyId → Origin → Run (List Datum)
  | 0, _, _ => throw (.fault .tooDeep)
  | depth + 1, id, origin => do
    let s ← schemaOf depth id origin
    s.tagValues (tagsOf depth)

/-- The schema of a shared definition, made from nothing that was made before. -/
def definitionOf : Nat → String → Run Schema
  | 0, _ => throw (.fault .tooDeep)
  | depth + 1, name =>
    ((plans.definition name).build
      ⟨⟨.shared name, tagsOf depth⟩, definitionOf depth⟩).run' 0

end

/-- A law holds of everything that is made within depths `d`. -/
structure Makes {ι : Type} (L : Run.Law ι) (d : ι → Nat) : Prop where
  schemas : ∀ id origin, L.Holds fun i => plans.schemaOf (d i) id origin
  tags : ∀ id origin, L.Holds fun i => plans.tagsOf (d i) id origin
  definitions : ∀ name, L.Holds fun i => plans.definitionOf (d i) name

variable {plans}

theorem Makes.succ {ι : Type} {L : Run.Law ι} {d : ι → Nat} (h : plans.Makes L d) :
    plans.Makes L fun i => d i + 1 where
  schemas id origin := by
    cases origin with
    | getter fn => exact Run.Law.Makes.run (Run.Law.build h.tags h.definitions _)
    | inverse settings base of =>
      exact L.bind (h.schemas base of) fun s => Run.Law.Makes.run (Run.Law.invertWith h.tags s)
  tags id origin := L.bind (h.schemas id origin) fun s => Run.Law.tagValues h.tags s
  definitions _ := Run.Law.Makes.run (Run.Law.build h.tags h.definitions _)

/-- More depth never changes what is made. -/
theorem makes_deeper (m n : Nat) : plans.Makes Run.deeper fun b => bif b then m + n else m := by
  induction m with
  | zero => exact ⟨fun _ _ _ _ => .inl rfl, fun _ _ _ _ => .inl rfl, fun _ _ _ => .inl rfl⟩
  | succ m ih =>
    have depths : (fun b => bif b then m + 1 + n else m + 1) =
        fun b => (bif b then m + n else m) + 1 := by
      funext b
      cases b
      · rfl
      · exact Nat.succ_add m n
    exact depths ▸ ih.succ

theorem schemaOf_deeper (plans : Plans) {m n : Nat} (h : m ≤ n) (id : LazyId) (origin : Origin)
    (w w' : World) :
    (plans.schemaOf m id origin).result w = Run.tooDeep ∨
      (plans.schemaOf n id origin).result w' = (plans.schemaOf m id origin).result w := by
  obtain ⟨k, rfl⟩ := Nat.exists_eq_add_of_le h
  exact (makes_deeper m k).schemas id origin w w'

theorem tagsOf_deeper (plans : Plans) {m n : Nat} (h : m ≤ n) (id : LazyId) (origin : Origin)
    (w w' : World) :
    (plans.tagsOf m id origin).result w = Run.tooDeep ∨
      (plans.tagsOf n id origin).result w' = (plans.tagsOf m id origin).result w := by
  obtain ⟨k, rfl⟩ := Nat.exists_eq_add_of_le h
  exact (makes_deeper m k).tags id origin w w'

theorem definitionOf_deeper (plans : Plans) {m n : Nat} (h : m ≤ n) (name : String) (w w' : World) :
    (plans.definitionOf m name).result w = Run.tooDeep ∨
      (plans.definitionOf n name).result w' = (plans.definitionOf m name).result w := by
  obtain ⟨k, rfl⟩ := Nat.exists_eq_add_of_le h
  exact (makes_deeper m k).definitions name w w'

variable (plans)

/-- What a lazy node stands for. -/
def Gives (id : LazyId) (origin : Origin) (s : Schema) : Prop :=
  ∃ depth, (plans.schemaOf depth id origin).result {} = .ok s

/-- What a shared definition stands for. -/
def Defines (name : String) (s : Schema) : Prop :=
  ∃ depth, (plans.definitionOf depth name).result {} = .ok s

/-- How making what a lazy node stands for can fail. -/
def Fails (id : LazyId) (origin : Origin) (f : Failure) : Prop :=
  ∃ depth, (plans.schemaOf depth id origin).result {} = .error f

variable {plans}

theorem Gives.unique {id : LazyId} {origin : Origin} {s t : Schema}
    (hs : plans.Gives id origin s) (ht : plans.Gives id origin t) : s = t := by
  obtain ⟨m, hm⟩ := hs
  obtain ⟨n, hn⟩ := ht
  have ⟨k, hmk, hnk⟩ : ∃ k, m ≤ k ∧ n ≤ k := ⟨max m n, Nat.le_max_left .., Nat.le_max_right ..⟩
  have h₁ := schemaOf_deeper plans hmk id origin {} {}
  have h₂ := schemaOf_deeper plans hnk id origin {} {}
  simp_all

/-- A lazy node that stands for a schema fails in no other way than by going too deep. -/
theorem Gives.not_fails {id : LazyId} {origin : Origin} {s : Schema} {f : Failure}
    (hs : plans.Gives id origin s) (hf : plans.Fails id origin f) : f = .fault .tooDeep := by
  obtain ⟨m, hm⟩ := hs
  obtain ⟨n, hn⟩ := hf
  have ⟨k, hmk, hnk⟩ : ∃ k, m ≤ k ∧ n ≤ k := ⟨max m n, Nat.le_max_left .., Nat.le_max_right ..⟩
  have h₁ := schemaOf_deeper plans hmk id origin {} {}
  have h₂ := schemaOf_deeper plans hnk id origin {} {}
  simp_all

/-- Making what a lazy node stands for fails in one way only, apart from going too deep. -/
theorem Fails.unique {id : LazyId} {origin : Origin} {f g : Failure}
    (hf : plans.Fails id origin f) (hg : plans.Fails id origin g) :
    f = .fault .tooDeep ∨ g = .fault .tooDeep ∨ f = g := by
  obtain ⟨m, hm⟩ := hf
  obtain ⟨n, hn⟩ := hg
  have ⟨k, hmk, hnk⟩ : ∃ k, m ≤ k ∧ n ≤ k := ⟨max m n, Nat.le_max_left .., Nat.le_max_right ..⟩
  have h₁ := schemaOf_deeper plans hmk id origin {} {}
  have h₂ := schemaOf_deeper plans hnk id origin {} {}
  simp only [hm, Except.error.injEq] at h₁
  simp only [hn, Except.error.injEq] at h₂
  exact h₁.imp_right fun left => h₂.imp_right fun right => Except.error.inj (left.symm.trans right)

theorem Gives.deep {id : LazyId} {origin : Origin} {s : Schema} (h : plans.Gives id origin s) :
    ∃ n, ∀ k ≥ n, ∀ w, (plans.schemaOf k id origin).result w = .ok s := by
  obtain ⟨n, hn⟩ := h
  refine ⟨n, fun k hk w => ?_⟩
  have := schemaOf_deeper plans hk id origin {} w
  simp_all

theorem Fails.deep {id : LazyId} {origin : Origin} {f : Failure} (h : plans.Fails id origin f)
    (hf : f ≠ .fault .tooDeep) :
    ∃ n, ∀ k ≥ n, ∀ w, (plans.schemaOf k id origin).result w = .error f := by
  obtain ⟨n, hn⟩ := h
  refine ⟨n, fun k hk w => ?_⟩
  have := schemaOf_deeper plans hk id origin {} w
  simp_all

theorem Defines.deep {name : String} {s : Schema} (h : plans.Defines name s) :
    ∃ n, ∀ k ≥ n, ∀ w, (plans.definitionOf k name).result w = .ok s := by
  obtain ⟨n, hn⟩ := h
  refine ⟨n, fun k hk w => ?_⟩
  have := definitionOf_deeper plans hk name {} w
  simp_all

end Plans
end TwoWay
