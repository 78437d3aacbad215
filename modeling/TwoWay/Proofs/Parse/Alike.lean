import TwoWay.Proofs.Forcing.Memory
import TwoWay.Schema.Numbering

/-!
# Runs beside runs

`Plans.Alike` says of two runs that both give related things or both fail, up to going too deep
and up to failures of the second that are allowed. They start from worlds on a level: worlds
that may remember different things, but give out the same identities. Runs are put together by
`Alike.bind`. A calm run (`Run.Calm`) may stand on either side alone.
-/

namespace TwoWay

/-- A run that gives one thing from every world, unless it goes too deep, and does no more than
write into the journal. -/
def Run.Calm {α : Type} (m : Run α) (a : α) : Prop :=
  ∀ w, ∃ journal, m w = .ok a { w with journal } ∨
    m w = .error (.fault .tooDeep) { w with journal }

namespace Run.Calm

variable {α β : Type}

theorem pure (a : α) : Run.Calm (Pure.pure a) a := fun w => ⟨w.journal, .inl rfl⟩

theorem record (e : Event) : Run.Calm (Run.record e) () := fun w => ⟨e :: w.journal, .inl rfl⟩

theorem tooDeep (a : α) : Run.Calm (throw (.fault .tooDeep)) a := fun w => ⟨w.journal, .inr rfl⟩

theorem bind {m : Run α} {k : α → Run β} {a : α} {b : β} (hm : m.Calm a) (hk : (k a).Calm b) :
    (m >>= k).Calm b := by
  intro w
  simp only [Bind.bind, EStateM.bind]
  obtain ⟨journal, hm | hm⟩ := hm w <;> rw [hm]
  · obtain ⟨journal', hk⟩ := hk { w with journal }
    exact ⟨journal', hk⟩
  · exact ⟨journal, .inr rfl⟩

end Run.Calm

namespace Plans

variable (plans : Plans)

/-- Worlds that remember rightly, if not the same, and give out the same identities. -/
structure Level (w u : World) : Prop where
  left : plans.Faithful w
  right : plans.Faithful u
  made : w.made = u.made

/-- Two runs that end alike from worlds on a level: both give related things or both fail,
except that the first may go too deep, and that the second may fail as a `stray` does. -/
def Alike (stray : Failure → Prop) {α β : Type} (m : Run α) (n : Run β) (R : α → β → Prop) :
    Prop :=
  ∀ w u, plans.Level w u →
    match m w, n u with
    | .ok a w', .ok b u' => plans.Level w' u' ∧ R a b
    | .ok _ _, .error g _ => stray g
    | .error f _, .ok _ _ => f = .fault .tooDeep
    | .error _ _, .error _ _ => True

variable {plans} {stray : Failure → Prop} {α β γ δ : Type}

theorem Level.journals {w u : World} (h : plans.Level w u) (journal journal' : List Event) :
    plans.Level { w with journal } { u with journal := journal' } :=
  ⟨h.left.of_memory rfl rfl, h.right.of_memory rfl rfl, h.made⟩

namespace Alike

theorem pure {a : α} {b : β} {R : α → β → Prop} (h : R a b) :
    plans.Alike stray (Pure.pure a) (Pure.pure b) R := fun _ _ level => ⟨level, h⟩

theorem throw (f g : Failure) (R : α → β → Prop) :
    plans.Alike stray (throw f) (throw g) R := fun _ _ _ => trivial

theorem bind {m : Run α} {n : Run β} {k : α → Run γ} {l : β → Run δ} {R : α → β → Prop}
    {R' : γ → δ → Prop} (h : plans.Alike stray m n R)
    (hk : ∀ a b, R a b → plans.Alike stray (k a) (l b) R') :
    plans.Alike stray (m >>= k) (n >>= l) R' := by
  intro w u level
  have first := h w u level
  simp only [Bind.bind, EStateM.bind]
  cases hm : m w with
  | ok a w' =>
    cases hn : n u with
    | ok b u' =>
      simp only [hm, hn] at first
      exact hk a b first.2 w' u' first.1
    | error g u' =>
      simp only [hm, hn] at first
      dsimp only
      cases k a w' with
      | ok c w'' => exact first
      | error f w'' => trivial
  | error f w' =>
    cases hn : n u with
    | ok b u' =>
      simp only [hm, hn] at first
      dsimp only
      cases l b u' with
      | ok c u'' => exact first
      | error g u'' => trivial
    | error g u' => trivial

/-- Calm runs end alike, since going too deep is allowed. -/
theorem calm (deep : stray (.fault .tooDeep)) {m : Run α} {n : Run β} {a : α} {b : β}
    {R : α → β → Prop} (hm : m.Calm a) (hn : n.Calm b) (h : R a b) :
    plans.Alike stray m n R := by
  intro w u level
  obtain ⟨journal, hm | hm⟩ := hm w <;> obtain ⟨journal', hn | hn⟩ := hn u <;>
    simp only [hm, hn]
  · exact ⟨level.journals .., h⟩
  · exact deep

/-- A calm run may come first on the left. -/
theorem calmLeft {m : Run α} {k : α → Run γ} {n : Run δ} {a : α} {R : γ → δ → Prop}
    (hm : m.Calm a) (hk : plans.Alike stray (k a) n R) : plans.Alike stray (m >>= k) n R := by
  intro w u level
  simp only [Bind.bind, EStateM.bind]
  obtain ⟨journal, hm | hm⟩ := hm w <;> rw [hm]
  · exact hk _ u (level.journals journal u.journal)
  · cases n u with
    | ok b u' => rfl
    | error g u' => trivial

theorem tooDeepLeft {n : Run β} {R : α → β → Prop} :
    plans.Alike stray (MonadExcept.throw (.fault .tooDeep)) n R := by
  intro w u _
  have hm : (MonadExcept.throw (.fault .tooDeep) : Run α) w = .error (.fault .tooDeep) w := rfl
  rw [hm]
  cases n u with
  | ok b u' => rfl
  | error g u' => trivial

theorem tooDeepRight (deep : stray (.fault .tooDeep)) {m : Run α} {R : α → β → Prop} :
    plans.Alike stray m (MonadExcept.throw (.fault .tooDeep)) R := by
  intro w u _
  have hn : (MonadExcept.throw (.fault .tooDeep) : Run β) u = .error (.fault .tooDeep) u := rfl
  rw [hn]
  cases m w with
  | ok a w' => exact deep
  | error f w' => trivial

theorem liftFault {r : Except Fault α} {R : α → α → Prop} (h : ∀ a, r = .ok a → R a a) :
    plans.Alike stray (Run.liftFault r) (Run.liftFault r) R := by
  cases r with
  | ok a => exact pure (h a rfl)
  | error f => exact throw _ _ R

theorem requireHashable (v : Datum) :
    plans.Alike stray (Run.requireHashable v) (Run.requireHashable v) Eq := by
  unfold Run.requireHashable
  cases v.unhashable? with
  | some t => exact throw _ _ Eq
  | none => exact pure rfl

theorem identity : plans.Alike stray Run.identity Run.identity Eq := by
  intro w u level
  refine ⟨⟨level.left.of_memory rfl rfl, level.right.of_memory rfl rfl, ?_⟩, ?_⟩
  · exact congrArg (· + 1) level.made
  · exact congrArg Identity.made level.made

/-- A run beside itself, going on with one thing. -/
theorem same {m : Run α} {k : α → Run β} (hm : plans.Alike stray m m Eq)
    (hk : ∀ a, plans.Alike stray (k a) (k a) Eq) :
    plans.Alike stray (m >>= k) (m >>= k) Eq :=
  bind hm fun a _ hab => hab ▸ hk a

end Alike

/-! ## Numbering

What is new in a value gets the same identities from worlds on a level. -/

theorem identity_numbered (id : Identity) : plans.Alike stray id.numbered id.numbered Eq := by
  cases id with
  | new => exact .identity
  | given n | made n => exact .pure rfl

theorem access_numbered (r : Access) : plans.Alike stray r.numbered r.numbered Eq := by
  cases r with
  | free => exact .pure rfl
  | readOnly id => exact .same (identity_numbered id) fun _ => .pure rfl

theorem live_numbered (x : Live) : plans.Alike stray x.numbered x.numbered Eq := by
  cases x with
  | running id fn args => exact .same (identity_numbered id) fun _ => .pure rfl
  | working id fn path v => exact .same (identity_numbered id) fun _ => .pure rfl
  | function | guarded | promise | pending => exact .pure rfl

mutual

theorem value_numbered : ∀ v : Datum, plans.Alike stray v.numbered v.numbered Eq
  | .float d => by
    cases d with
    | nan id => exact .same (.same (identity_numbered id) fun _ => .pure rfl) fun _ => .pure rfl
    | infinite | finite => exact .pure rfl
  | .list r items =>
    .same (access_numbered r) fun _ => .same (items_numbered items) fun _ => .pure rfl
  | .tuple items => .same (items_numbered items) fun _ => .pure rfl
  | .dict r entries =>
    .same (access_numbered r) fun _ => .same (entries_numbered entries) fun _ => .pure rfl
  | .set _ items => .same (items_numbered items) fun _ => .pure rfl
  | .live x => .same (live_numbered x) fun _ => .pure rfl
  | .none | .bool _ | .int _ | .str _ | .bytes _ | .missing | .invalid => .pure rfl

theorem items_numbered : ∀ items : List Datum,
    plans.Alike stray (Value.numberedItems items) (Value.numberedItems items) Eq
  | [] => .pure rfl
  | x :: rest => .same (value_numbered x) fun _ => .same (items_numbered rest) fun _ => .pure rfl

theorem entries_numbered : ∀ entries : List (Datum × Datum),
    plans.Alike stray (Value.numberedEntries entries) (Value.numberedEntries entries) Eq
  | [] => .pure rfl
  | (k, v) :: rest =>
    .same (value_numbered k) fun _ => .same (value_numbered v) fun _ =>
      .same (entries_numbered rest) fun _ => .pure rfl

end

end Plans
end TwoWay
