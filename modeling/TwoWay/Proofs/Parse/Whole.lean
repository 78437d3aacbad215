import TwoWay.Execution

/-!
# Whole parses

The parse of a whole value is the run of its schema from the root, ended by `Parsed.finish`.
-/

namespace TwoWay

namespace Run

variable {α β : Type} {m : Run α} {k : α → Run β} {w w' : World}

theorem bind_ok {b : β} :
    (m >>= k) w = .ok b w' ↔ ∃ a u, m w = .ok a u ∧ k a u = .ok b w' := by
  simp only [bind, EStateM.bind]
  cases m w with
  | ok a u => simp [and_assoc]
  | error f u => simp

theorem bind_error {f : Failure} :
    (m >>= k) w = .error f w' ↔
      m w = .error f w' ∨ ∃ a u, m w = .ok a u ∧ k a u = .error f w' := by
  simp only [bind, EStateM.bind]
  cases m w with
  | ok a u => simp [and_assoc]
  | error f u => simp

theorem map_ok {f : α → β} {b : β} :
    (f <$> m) w = .ok b w' ↔ ∃ a, m w = .ok a w' ∧ f a = b := by
  simp only [Functor.map, EStateM.map]
  cases m w with
  | ok a u =>
    constructor
    · rintro ⟨⟩
      exact ⟨a, rfl, rfl⟩
    · rintro ⟨_, ⟨⟩, rfl⟩
      rfl
  | error f u => simp

theorem bind_of_ok {a : α} {u : World} (h : m w = .ok a u) : (m >>= k) w = k a u := by
  simp only [bind, EStateM.bind, h]

theorem bind_of_error {f : Failure} (h : m w = .error f w') : (m >>= k) w = .error f w' :=
  bind_error.2 (.inl h)

/-- Going on from runs that end alike. -/
theorem bind_of_eq {m' : Run α} (h : m w = m' w') : (m >>= k) w = (m' >>= k) w' := by
  simp only [bind, EStateM.bind, h]

theorem lift_eq (r : Except Failure α) (w : World) :
    Run.lift r w = match r with
      | .ok a => .ok a w
      | .error f => .error f w := by
  cases r <;> rfl

theorem lift_ok {r : Except Failure α} {a : α} : Run.lift r w = .ok a w' ↔ r = .ok a ∧ w = w' := by
  rw [lift_eq]
  cases r <;> simp

theorem lift_error {r : Except Failure α} {f : Failure} :
    Run.lift r w = .error f w' ↔ r = .error f ∧ w = w' := by
  rw [lift_eq]
  cases r <;> simp

end Run

namespace Parsed

variable {r : Parsed} {x : Datum} {f : Failure}

theorem isClean_iff : r.isClean ↔ r.value.isInvalid = false ∧ r.issues = [] := by
  simp [isClean]

theorem issues_of_isClean (h : r.isClean) : r.issues = [] := by
  simpa [isClean] using (Bool.and_eq_true_iff.1 h).2

theorem finish_ok : r.finish = .ok x ↔ r.issues = [] ∧ r.value.isInvalid = false ∧ r.value = x := by
  unfold finish
  cases hi : r.issues <;> cases hv : r.value.isInvalid <;> simp

theorem finish_error : r.finish = .error f ↔
    r.issues ≠ [] ∧ f = .ofIssues r.issues ∨
    r.issues = [] ∧ r.value.isInvalid = true ∧
      f = .ofIssues [⟨.custom, "Invalid input", [], []⟩] := by
  unfold finish
  cases hi : r.issues <;> cases hv : r.value.isInvalid <;> simp [eq_comm]

end Parsed

namespace Library

variable {lib : Library} {mode : Mode} {depth : Nat} {s : Schema} {v x : Datum} {w w' : World}
  {f : Failure}

theorem parse_of_isSchema (h : s.isSchema) (mode : Mode) (depth : Nat) (v : Datum) (w : World) :
    lib.parse mode depth s v w =
      (do Run.lift (← s.runWith (lib.links mode depth) [] v).finish : Run Datum) w := by
  have given : requireSchema mode "parse" s = pure () := by
    unfold requireSchema
    cases mode <;> simp [h]
  unfold parse
  rw [given, pure_bind]

theorem parse_of_not_isSchema (lib : Library) (h : s.isSchema = false) (mode : Mode) (depth : Nat)
    (v : Datum) (w : World) : ∃ name, lib.parse mode depth s v w =
      .error (.fault (.noAttribute s.className name)) w := by
  unfold parse requireSchema
  cases mode <;> simp only [h] <;> exact ⟨_, rfl⟩

theorem parse_ok : lib.parse mode depth s v w = .ok x w' ↔
    s.isSchema ∧ ∃ r, s.runWith (lib.links mode depth) [] v w = .ok r w' ∧ r.finish = .ok x := by
  cases h : s.isSchema with
  | true =>
    rw [parse_of_isSchema h, Run.bind_ok]
    simp only [Run.lift_ok, true_and]
    exact ⟨fun ⟨r, u, hr, hx, hu⟩ => ⟨r, hu ▸ hr, hx⟩, fun ⟨r, hr, hx⟩ => ⟨r, w', hr, hx, rfl⟩⟩
  | false =>
    obtain ⟨name, hp⟩ := parse_of_not_isSchema lib h mode depth v w
    simp [hp]

theorem parse_error (h : s.isSchema) : lib.parse mode depth s v w = .error f w' ↔
    s.runWith (lib.links mode depth) [] v w = .error f w' ∨
    ∃ r, s.runWith (lib.links mode depth) [] v w = .ok r w' ∧ r.finish = .error f := by
  rw [parse_of_isSchema h, Run.bind_error]
  simp only [Run.lift_error]
  exact or_congr_right
    ⟨fun ⟨r, u, hr, hx, hu⟩ => ⟨r, hu ▸ hr, hx⟩, fun ⟨r, hr, hx⟩ => ⟨r, w', hr, hx, rfl⟩⟩

end Library
end TwoWay
