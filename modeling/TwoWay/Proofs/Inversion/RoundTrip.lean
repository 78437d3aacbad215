import TwoWay.Proofs.Inversion.Outcome
import TwoWay.Proofs.Parse.Modes
import TwoWay.Proofs.Parse.Oblivious

/-!
# Round trips in both modes

A synchronous round trip makes the inverse before it parses the value, an asynchronous one when it
has the output. If nothing is waited for, this shows only where the value is refused and the schema
cannot be inverted either: the one reports the inversion then, and the other one the refusal
(`Library.roundTrips_concur`).
-/

namespace TwoWay

namespace Plans

variable {plans : Plans} {α β γ : Type}

/-- A run and a look-up in either order come to the same, unless both of them fail. Then it is the
first one that shows. -/
theorem Oblivious.swap {m : Run α} {l : Run β} {made : Nat → Run β} {k : α → β → Run γ}
    (hm : plans.Oblivious m) (ensures : plans.Ensures m fun _ => True)
    (hl : plans.Retraces (beside l made)) (hk : ∀ a b, plans.Oblivious (k a b)) {w : World}
    (hw : plans.Faithful w)
    (first : (do let a ← m; let b ← l; k a b : Run γ).result w ≠ Run.tooDeep)
    (last : (do let b ← l; let a ← m; k a b : Run γ).result w ≠ Run.tooDeep) :
    (∀ f g, m.result w = .error f → l.result w = .error g →
      (do let a ← m; let b ← l; k a b : Run γ).result w = .error f ∧
      (do let b ← l; let a ← m; k a b : Run γ).result w = .error g) ∧
    ((∃ a, m.result w = .ok a) ∨ (∃ b, l.result w = .ok b) →
      (do let a ← m; let b ← l; k a b : Run γ).result w =
        (do let b ← l; let a ← m; k a b : Run γ).result w) := by
  have faithful : plans.Faithful (m.final w) := (ensures w hw).1
  have looked : plans.Leads w (l.final w) := (hl w hw).1
  have later : plans.Leads (m.final w) (l.final (m.final w)) := (hl _ faithful).1
  have level : plans.Even w (l.final w) :=
    (Plans.Even.leads ⟨⟨hw, hw, rfl⟩, rfl⟩ looked).symm
  simp only [Run.result_bind] at first last ⊢
  refine ⟨fun f g hf hg => by simp only [hf, hg, and_self], fun some => ?_⟩
  cases hb : l.result w with
  | error g =>
    have unmade : ¬∃ b, l.result w = .ok b := by
      rintro ⟨b, given⟩
      cases hb.symm.trans given
    obtain ⟨a, ha⟩ := some.resolve_right unmade
    simp only [ha, hb] at first last ⊢
    rcases hl.agree hw faithful with deep | deep | same
    · cases hb.symm.trans deep
      exact absurd rfl last
    · exact absurd (by rw [deep]) first
    · rw [← same, hb]
  | ok b =>
    simp only [hb] at last ⊢
    rcases hm w _ level with deep | deep | ⟨same, level'⟩
    · exact absurd (by rw [deep]) first
    · exact absurd (by rw [deep]) last
    · rw [← same] at last ⊢
      cases ha : m.result w with
      | error f => rfl
      | ok a =>
        simp only [ha] at first last ⊢
        rcases hl.agree hw faithful with deep | deep | found
        · cases hb.symm.trans deep
        · exact absurd (by rw [deep]) first
        · rw [← found, hb] at first ⊢
          rcases hk a b _ _ (level'.leads later) with deep | deep | ⟨ends, -⟩
          · exact absurd deep first
          · exact absurd deep last
          · exact ends

end Plans

/-- The inverse of a schema is a schema, if all nodes of the schema are. -/
theorem Plans.Inverts.isSchema {plans : Plans} {settings : InversionSettings} {s t : Schema}
    (h : plans.Inverts settings s t) (given : ∀ n ∈ s.visited, n.isSchema) : t.isSchema := by
  induction s using Schema.child_induction generalizing t with
  | step s ih =>
    have inner (c : Schema) (hc : c ∈ s.children) (hct : plans.Inverts settings c t) :
        t.isSchema :=
      ih c hc hct fun n hn => given n (Schema.visited_child_subset hc hn)
    have whole := given s s.mem_visited_self
    cases h
    case default c _ inverts | «catch» c _ inverts | branded c _ inverts
      | elided c _ inverts => exact inner c (List.mem_singleton_self _) inverts
    case leaf => exact whole
    all_goals rfl

namespace Library

variable (lib : Library) (depth step : Nat) (settings : InversionSettings) {s : Schema}

/-- A round trip that makes the inverse when it has the output. -/
def outputFirst (mode : Mode) (s : Schema) (v : Datum) : Run Datum := do
  let output ← lib.parse mode depth s v
  let inverse ← lib.invert depth step settings s
  lib.parse mode depth inverse output

/-- In the same order of steps both modes do the same until something is waited for. -/
theorem outputFirst_concurs (given : ∀ n ∈ s.visited, n.isSchema) (v : Datum) {w : World}
    (hw : lib.plans.Faithful w) :
    Run.Concurs (lib.outputFirst depth step settings .sync s v)
      (lib.outputFirst depth step settings .async s v) w := by
  have whole := given s s.mem_visited_self
  refine (lib.parse_concurs depth whole v hw).bind fun output _ => ?_
  have left := (((lib.parse_oblivious .async depth s v).ensures ()) w hw).1
  have quiet : (lib.invert depth step settings s).Quiet :=
    Plans.invert_quiet (lib.plans.looks_quiet depth).2.1 (.step step) settings s
  refine (Run.Concurs.quiet quiet _).bind fun inverse made => ?_
  obtain ⟨u, hu⟩ := Run.result_ok.1 made
  have inverts := invert_inverts left hu
  have left' := (((lib.invert_oblivious depth step settings s).ensures ()) _ left).1
  exact lib.parse_concurs depth (inverts.isSchema given) output left'

theorem invert_retraces (s : Schema) :
    lib.plans.Retraces (Plans.beside (lib.invert depth step settings s) fun n =>
      (s.invertWith ⟨.step step, lib.plans.tagsOf n⟩ settings).run' 0) := by
  obtain ⟨-, tagged, -⟩ := @Plans.remembers lib.plans depth
  exact Plans.holds_beside (Run.Law.Makes.run (Run.Law.invertWith tagged s))

/-- Where an asynchronous round trip waits for nothing, and neither it nor the synchronous one goes
too deep, both come to the same value or failure if the schema reads the value or can be inverted.
If it does neither, the asynchronous one fails as reading the value does, and the synchronous one as
inverting the schema does. -/
theorem roundTrips_concur (given : ∀ n ∈ s.visited, n.isSchema) (v : Datum) {w : World}
    (hw : lib.plans.Faithful w) :
    ∃ new, ((lib.roundTrip .async depth step settings s v).final w).journal = new ++ w.journal ∧
      (.suspended ∉ new →
        (lib.roundTrip .sync depth step settings s v).result w ≠ Run.tooDeep →
        (lib.roundTrip .async depth step settings s v).result w ≠ Run.tooDeep →
        ((∃ x, (lib.parse .sync depth s v).result w = .ok x) ∨
            (∃ t, (lib.invert depth step settings s).result w = .ok t) →
          (lib.roundTrip .async depth step settings s v).result w =
            (lib.roundTrip .sync depth step settings s v).result w) ∧
        ∀ f g, (lib.parse .sync depth s v).result w = .error f →
          (lib.invert depth step settings s).result w = .error g →
          (lib.roundTrip .async depth step settings s v).result w = .error f ∧
          (lib.roundTrip .sync depth step settings s v).result w = .error g) := by
  cases lib.outputFirst_concurs depth step settings given v hw with
  | stops later before journal =>
    refine ⟨later ++ .suspended :: before, journal.trans (by simp), fun waitless => ?_⟩
    exact absurd (List.mem_append_right later (List.mem_cons_self ..)) waitless
  | agrees new journal _ same =>
    refine ⟨new, journal, fun _ inverseFirst outputFirst => ?_⟩
    have sameResult : (lib.roundTrip .async depth step settings s v).result w =
        (lib.outputFirst depth step settings .sync s v).result w := by
      unfold Run.result
      rw [same]
      rfl
    rw [sameResult] at outputFirst ⊢
    have parsed := lib.parse_oblivious .sync depth s v
    have oblivious (output : Datum) (inverse : Schema) :=
      (lib.parse_oblivious .sync depth inverse output).holds
    obtain ⟨both, either⟩ := Plans.Oblivious.swap parsed.holds (parsed.ensures ())
      (lib.invert_retraces depth step settings s) oblivious hw outputFirst inverseFirst
    exact ⟨either, both⟩

end Library

/-! Texts that are written in capitals when they are read, which cannot be undone. -/

namespace Shout

def capitals : FunctionRef := ⟨1, "capitals"⟩

def schema : Schema := .effect .transform (.custom capitals) false (.string {} none)

def notText : Issue Live := ⟨.invalidType, "Input should be a valid string", [],
  [("expected", .value (.str "string")), ("received", .value (.str "int"))]⟩

theorem visited : schema.visited = [schema, .string {} none] := by
  simp [Schema.visited_eq, Schema.inTurn, Schema.children, schema]

/-- A number is refused, and the schema cannot be inverted. The round trips report one of it each,
though no function is called that could wait. -/
theorem ends_differently :
    (Chain.library.roundTrip .sync 1 0 {} schema (.int 5)).result {} =
      .error (.oneWay .transform) ∧
    (Chain.library.roundTrip .async 1 0 {} schema (.int 5)).result {} =
      .error (.refused [notText]) ∧
    ((Chain.library.roundTrip .async 1 0 {} schema (.int 5)).final {}).journal = [] :=
  ⟨rfl, rfl, rfl⟩

/-- A text is read, and then it is the inversion that fails in both modes. -/
theorem text_cannot_return :
    (Chain.library.roundTrip .async 1 0 {} schema (.str "a")).result {} =
      (Chain.library.roundTrip .sync 1 0 {} schema (.str "a")).result {} ∧
    (Chain.library.roundTrip .async 1 0 {} schema (.int 5)).result {} =
      .error (.refused [notText]) := by
  have given : ∀ n ∈ schema.visited, n.isSchema := by
    rw [visited]
    simp [schema, Schema.isSchema]
  have shallow (mode : Mode) (v : Datum) (h : v = .str "a" ∨ v = .int 5) :
      (Chain.library.roundTrip mode 1 0 {} schema v).result {} ≠ Run.tooDeep := by
    intro deep
    cases mode <;> rcases h with rfl | rfl <;> cases deep
  constructor
  · obtain ⟨new, journal, concur⟩ :=
      Chain.library.roundTrips_concur 1 0 {} given (.str "a") .empty
    have called : new = [.called capitals [.str "a"]] :=
      (List.append_nil new).symm.trans journal.symm
    have read : (Chain.library.parse .sync 1 schema (.str "a")).result {} = .ok (.str "a") := rfl
    have ends (mode : Mode) := shallow mode (.str "a") (.inl rfl)
    exact (concur (by simp [called]) (ends .sync) (ends .async)).1 (.inl ⟨_, read⟩)
  · obtain ⟨new, journal, concur⟩ :=
      Chain.library.roundTrips_concur 1 0 {} given (.int 5) .empty
    have called : new = [] := (List.append_nil new).symm.trans journal.symm
    have ends (mode : Mode) := shallow mode (.int 5) (.inr rfl)
    exact ((concur (by simp [called]) (ends .sync) (ends .async)).2 _ _ rfl rfl).1

end Shout
end TwoWay
