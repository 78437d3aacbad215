import TwoWay.Proofs.Parse.Context
import TwoWay.Proofs.Parse.Keeping

/-!
# Runs in a context beside runs that hand their issues over

A run in a context tracks one that hands its issues over with the result if both end alike,
whatever had been reported before, and if what was reported before is still there, followed by
issues that do not depend on it. `Tracks.bind` puts such runs together.
-/

namespace TwoWay

open Reporting

variable {plans : Plans} {a : Allowance} {path : Path Live} {α β γ δ : Type}

/-- From faithful worlds and a list that ends in `pre`, the run `m` ends like `r`. When `r`
gives `b`, then `m` gives `out b`, the list ends in `issues b` instead, and `Q b` holds. -/
def Tracks (plans : Plans) (a : Allowance) (path : Path Live) (pre : List (Issue Live))
    (m : Reporting α) (r : Run β) (out : β → α) (issues : β → List (Issue Live))
    (Q : β → Prop) : Prop :=
  ∀ w, plans.Faithful w →
    match r w with
    | .ok b w' => plans.Faithful w' ∧ Q b ∧
      ∀ before, m (w, before ++ pre) = .ok (out b) (w', before ++ issues b)
    | .error f w' => plans.Faithful w' ∧ ∃ left, Located a path left ∧
      ∀ before, m (w, before ++ pre) = .error f (w', before ++ left)

namespace Tracks

variable {pre : List (Issue Live)} {m : Reporting α} {r : Run β} {out : β → α}
  {issues : β → List (Issue Live)} {Q : β → Prop}

theorem pure {b : β} {x : α} (h : Q b) (ho : x = out b) (hi : pre = issues b) :
    Tracks plans a path pre (Pure.pure x) (Pure.pure b) out issues Q :=
  fun _ hw => ⟨hw, h, fun _ => by rw [ho, hi]; rfl⟩

theorem throw (f : Failure) (hp : Located a path pre) :
    Tracks plans a path pre (throw f : Reporting α) (throw f) out issues Q :=
  fun _ hw => ⟨hw, pre, hp, fun _ => rfl⟩

theorem weaken {Q' : β → Prop} (h : Tracks plans a path pre m r out issues Q)
    (hq : ∀ b, Q b → Q' b) : Tracks plans a path pre m r out issues Q' := by
  intro w hw
  have := h w hw
  cases hr : r w with
  | error f w' => simpa only [hr] using this
  | ok b w' =>
    simp only [hr] at this ⊢
    exact ⟨this.1, hq b this.2.1, this.2.2⟩

theorem ensures (h : Tracks plans a path pre m r out issues Q) : plans.Ensures r Q := by
  intro w hw
  have := h w hw
  simp only [Run.final, Run.result]
  cases hr : r w with
  | error f w' =>
    simp only [hr] at this
    exact ⟨this.1, fun _ hb => by cases hb⟩
  | ok b w' =>
    simp only [hr] at this
    exact ⟨this.1, fun _ hb => Except.ok.inj hb ▸ this.2.1⟩

theorem congr {out' : β → α} {issues' : β → List (Issue Live)}
    (h : Tracks plans a path pre m r out issues Q) (ho : ∀ b, Q b → out b = out' b)
    (hi : ∀ b, Q b → issues b = issues' b) : Tracks plans a path pre m r out' issues' Q := by
  intro w hw
  have := h w hw
  cases hr : r w with
  | error f w' => simpa only [hr] using this
  | ok b w' =>
    simp only [hr] at this ⊢
    exact ⟨this.1, this.2.1, ho b this.2.1 ▸ hi b this.2.1 ▸ this.2.2⟩

theorem bind {k : α → Reporting γ} {l : β → Run δ} {out' : δ → γ}
    {issues' : δ → List (Issue Live)} {Q' : δ → Prop}
    (h : Tracks plans a path pre m r out issues Q)
    (hk : ∀ b, Q b → Tracks plans a path (issues b) (k (out b)) (l b) out' issues' Q') :
    Tracks plans a path pre (m >>= k) (r >>= l) out' issues' Q' := by
  intro w hw
  have first := h w hw
  simp only [Bind.bind, EStateM.bind]
  cases hr : r w with
  | error f w' =>
    simp only [hr] at first ⊢
    obtain ⟨hw', left, hleft, hm⟩ := first
    exact ⟨hw', left, hleft, fun before => by rw [hm]⟩
  | ok b w' =>
    simp only [hr] at first ⊢
    obtain ⟨hw', hQ, hm⟩ := first
    have second := hk b hQ w' hw'
    cases hl : l b w' with
    | error f w'' =>
      simp only [hl] at second ⊢
      obtain ⟨hw'', left, hleft, hk⟩ := second
      exact ⟨hw'', left, hleft, fun before => by rw [hm]; exact hk before⟩
    | ok c w'' =>
      simp only [hl] at second ⊢
      obtain ⟨hw'', hQ', hk⟩ := second
      exact ⟨hw'', hQ', fun before => by rw [hm]; exact hk before⟩

/-- Going on where the other run has ended. -/
theorem bindLeft {k : α → Reporting γ} {out' : β → γ} {issues' : β → List (Issue Live)}
    {Q' : β → Prop} (h : Tracks plans a path pre m r out issues Q)
    (hk : ∀ b, Q b → Tracks plans a path (issues b) (k (out b)) (Pure.pure b) out' issues' Q') :
    Tracks plans a path pre (m >>= k) r out' issues' Q' := by
  have := bind h hk
  rwa [bind_pure] at this

/-- What had been reported before the run stays in front of what it reports. -/
theorem after (h : Tracks plans a path [] m r out issues Q) (hp : Located a path pre) :
    Tracks plans a path pre m r out (fun b => pre ++ issues b) Q := by
  intro w hw
  have := h w hw
  cases hr : r w with
  | error f w' =>
    simp only [hr] at this ⊢
    obtain ⟨hw', left, hleft, hm⟩ := this
    refine ⟨hw', pre ++ left, hp.append hleft, fun before => ?_⟩
    simpa using hm (before ++ pre)
  | ok b w' =>
    simp only [hr] at this ⊢
    obtain ⟨hw', hQ, hm⟩ := this
    refine ⟨hw', hQ, fun before => ?_⟩
    simpa using hm (before ++ pre)

/-- Where awaitables of effects may report elsewhere, it does not matter where a run is. -/
theorem anywhere {fn : FunctionRef} {other : Path Live}
    (h : Tracks plans a other pre m r out issues Q) (he : a.effects fn) :
    Tracks plans a path pre m r out issues Q := by
  intro w hw
  have := h w hw
  cases hr : r w with
  | ok b w' => simpa only [hr] using this
  | error f w' =>
    simp only [hr] at this ⊢
    obtain ⟨hw', left, -, hm⟩ := this
    exact ⟨hw', left, .anywhere he, hm⟩

/-- A run below the path. -/
theorem of_append {below : Path Live} (h : Tracks plans a (path ++ below) pre m r out issues Q) :
    Tracks plans a path pre m r out issues Q := by
  intro w hw
  have := h w hw
  cases hr : r w with
  | ok b w' => simpa only [hr] using this
  | error f w' =>
    simp only [hr] at this ⊢
    obtain ⟨hw', left, hleft, hm⟩ := this
    exact ⟨hw', left, hleft.of_append, hm⟩

theorem silent (h : plans.Ensures r Q) (hp : Located a path pre) :
    Tracks plans a path pre (silent r) r id (fun _ => pre) Q := by
  intro w hw
  cases hr : r w with
  | error f w' =>
    refine ⟨?_, pre, hp, fun before => by simp only [Reporting.silent, hr]⟩
    simpa only [Run.final, hr] using (h w hw).1
  | ok b w' =>
    obtain ⟨hw', hQ⟩ := h.ok hw hr
    exact ⟨hw', hQ, fun before => by simp only [Reporting.silent, hr, id]⟩

theorem silentMap {f : β → γ} (h : plans.Ensures r Q) (hp : Located a path pre) :
    Tracks plans a path pre (Reporting.silent (f <$> r)) r f (fun _ => pre) Q := by
  intro w hw
  cases hr : r w with
  | error e w' =>
    refine ⟨?_, pre, hp, fun before => ?_⟩
    · simpa only [Run.final, hr] using (h w hw).1
    · simp only [Reporting.silent, Functor.map, EStateM.map, hr]
  | ok b w' =>
    obtain ⟨hw', hQ⟩ := h.ok hw hr
    exact ⟨hw', hQ, fun before => by simp only [Reporting.silent, Functor.map, EStateM.map, hr]⟩

/-- Issues that the one run reports, and that the other one hands over later. -/
theorem report {new : List (Issue Live)} {k : Unit → Reporting α}
    (h : Tracks plans a path (pre ++ new) (k ()) r out issues Q) :
    Tracks plans a path pre (Reporting.report new >>= k) r out issues Q := by
  intro w hw
  have appended before : (Reporting.report new >>= k) (w, before ++ pre) =
      k () (w, before ++ (pre ++ new)) := by
    rw [← List.append_assoc]
    rfl
  simpa only [appended] using h w hw

theorem settle {p : Parsed} {issues : Parsed → List (Issue Live)} {Q : Parsed → Prop} (h : Q p)
    (hi : pre ++ p.issues = issues p) :
    Tracks plans a path pre (settle p) (Pure.pure p) Parsed.value issues Q :=
  report (pure h rfl hi)

/-- Telling whether something was reported meanwhile. -/
theorem watch (h : Tracks plans a path [] m r out issues Q) (hp : Located a path pre) :
    Tracks plans a path pre (watch m) r (fun b => (out b, !(issues b).isEmpty))
      (fun b => pre ++ issues b) Q := by
  intro w hw
  have := h.after hp w hw
  cases hr : r w with
  | error f w' =>
    simp only [hr] at this ⊢
    obtain ⟨hw', left, hleft, hm⟩ := this
    exact ⟨hw', left, hleft, fun before => by rw [watch_run, hm]⟩
  | ok b w' =>
    simp only [hr] at this ⊢
    obtain ⟨hw', hQ, hm⟩ := this
    refine ⟨hw', hQ, fun before => ?_⟩
    have longer : decide ((before ++ pre).length < (before ++ (pre ++ issues b)).length) =
        !(issues b).isEmpty := by cases issues b <;> simp
    rw [watch_run, hm]
    simp only [longer]

/-- A run with a list of its own leaves the list alone. -/
theorem fork {other : Path Live} (h : Tracks plans a other [] m r out issues Q)
    (hp : Located a path pre) :
    Tracks plans a path pre (fork m) r (fun b => (out b, issues b)) (fun _ => pre) Q := by
  intro w hw
  have := h w hw
  cases hr : r w with
  | error f w' =>
    simp only [hr] at this ⊢
    obtain ⟨hw', left, -, hm⟩ := this
    have := hm []
    simp only [List.nil_append] at this
    exact ⟨hw', pre, hp, fun before => by simp only [Reporting.fork, this]⟩
  | ok b w' =>
    simp only [hr] at this ⊢
    obtain ⟨hw', hQ, hm⟩ := this
    have := hm []
    simp only [List.nil_append] at this
    exact ⟨hw', hQ, fun before => by simp only [Reporting.fork, this]⟩

end Tracks
/-! ## Leaves -/

variable {pre : List (Issue Live)}

theorem Run.liftFault_bind {α β : Type} (m : Except Fault α) (k : α → Except Fault β) :
    Run.liftFault (m >>= k) = Run.liftFault m >>= fun x => Run.liftFault (k x) := by
  cases m <;> rfl

theorem lengthIssues_split (owner noun : String) (lengths : Lengths Live) (size : Nat) :
    lengthIssues path owner noun lengths size = (do
      let least ← lengthIssues path owner noun { least := lengths.least } size
      let most ← lengthIssues path owner noun { most := lengths.most } size
      return least ++ most) := by
  have none : (Value.none : Datum).isNone = true := rfl
  simp only [lengthIssues, none]
  cases Value.isLess (.int size) lengths.least <;>
    cases Value.isGreater (.int size) lengths.most <;>
    cases lengths.least.isNone <;> cases lengths.most.isNone <;>
    simp [bind, Except.bind, pure, Except.pure]

theorem parseNumber_split (bounds : Bounds Live) (integer : Bool) {v : Datum}
    (hv : isReadableNumber v) :
    parseNumber bounds integer path v = (do
      let fraction ← (·.issues) <$> parseNumber {} integer path v
      let above ← numberBound path .tooSmall "greater than" "minimum" Value.isGreater v bounds.above
      let atLeast ← numberBound path .tooSmall "greater than or equal to" "minimum"
        Value.isAtLeast v bounds.atLeast
      let below ← numberBound path .tooBig "less than" "maximum" Value.isLess v bounds.below
      let atMost ← numberBound path .tooBig "less than or equal to" "maximum" Value.isAtMost v
        bounds.atMost
      return ⟨v, fraction ++ above ++ atLeast ++ below ++ atMost⟩) := by
  have unbounded (code : IssueCode) (relation detail : String) holds :
      numberBound path code relation detail holds v .none = pure [] := rfl
  simp only [parseNumber, hv, unbounded, Bool.not_true, Bool.false_eq_true, if_false]
  simp only [map_eq_pure_bind, pure_bind, List.append_nil]

namespace Tracks

theorem check {issues : Except Fault (List (Issue Live))}
    (h : Sound issues fun is => ∀ i ∈ is, i.At path) (hp : Located a path pre) :
    Tracks plans a path pre (Reporting.check issues) (Run.liftFault issues) (fun _ => ())
      (fun is => pre ++ is) fun is => ∀ i ∈ is, i.At path := by
  exact .bindLeft (.silent (.liftFault h) hp) fun is his => .report (.pure his rfl rfl)

theorem lengthIn {owner noun : String} {lengths : Lengths Live} {size : Nat}
    (hp : Located a path pre) :
    Tracks plans a path pre (lengthIn path owner noun lengths size)
      (Run.liftFault (lengthIssues path owner noun lengths size)) (fun _ => ())
      (fun is => pre ++ is) fun is => ∀ i ∈ is, i.At path := by
  simp only [lengthIssues_split owner noun lengths, Run.liftFault_bind]
  refine .bind (.check (lengthIssues_at _ _ _ _) hp) fun least hleast => ?_
  rw [← bind_pure (Reporting.check _)]
  refine .bind (.check (lengthIssues_at _ _ _ _) (hp.append (.of_at hleast))) fun most hmost => ?_
  exact .pure (List.forall_mem_append.2 ⟨hleast, hmost⟩) rfl (List.append_assoc ..)

theorem stringIn {lengths : Lengths Live} {pattern : Option WrittenPattern} {v : Datum} :
    Tracks plans a path [] (stringIn lengths pattern path v)
      (Run.liftFault (parseString lengths pattern path v)) Parsed.value Parsed.issues
      (Parsed.OfLeaf path v) := by
  cases v
  case str s =>
    simp only [TwoWay.stringIn, parseString, Run.liftFault_bind]
    refine .bind (.lengthIn .nil) fun own hown => ?_
    refine .bind (.check (patternIssues_at _ _) (.of_at hown)) fun issues hissues => ?_
    exact .pure (.accepted (List.forall_mem_append.2 ⟨hown, hissues⟩)) rfl rfl
  all_goals exact .settle (.wrongType ..) rfl

theorem numberIn {bounds : Bounds Live} {integer : Bool} {v : Datum} :
    Tracks plans a path [] (numberIn bounds integer path v)
      (Run.liftFault (parseNumber bounds integer path v)) Parsed.value Parsed.issues
      (Parsed.OfLeaf path v) := by
  unfold TwoWay.numberIn
  split
  · rename_i hv
    have fraction : Sound ((·.issues) <$> parseNumber {} integer path v) fun is =>
        ∀ i ∈ is, i.At path := by
      rw [map_eq_pure_bind]
      exact .bind (parseNumber_leaf _ _) fun r hr => .pure hr.issues
    simp only [parseNumber_split bounds integer hv, Run.liftFault_bind]
    refine .bind (.check fraction .nil) fun fraction hf => ?_
    have h := hf
    refine .bind (.check (numberBound_at _ _ _ _ _ _) (.of_at h)) fun above ha => ?_
    replace h := List.forall_mem_append.2 ⟨h, ha⟩
    refine .bind (.check (numberBound_at _ _ _ _ _ _) (.of_at h)) fun atLeast ha => ?_
    replace h := List.forall_mem_append.2 ⟨h, ha⟩
    refine .bind (.check (numberBound_at _ _ _ _ _ _) (.of_at h)) fun below ha => ?_
    replace h := List.forall_mem_append.2 ⟨h, ha⟩
    refine .bind (.check (numberBound_at _ _ _ _ _ _) (.of_at h)) fun atMost ha => ?_
    exact .pure (.accepted (List.forall_mem_append.2 ⟨h, ha⟩)) rfl rfl
  · rename_i hv
    simp only [parseNumber, hv]
    exact .settle (.wrongType ..) rfl

end Tracks
end TwoWay
