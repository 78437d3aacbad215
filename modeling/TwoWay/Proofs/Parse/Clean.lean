import TwoWay.Proofs.Parse.Calls

/-!
# Mappings see clean values

A transform, a pipeline and an invertible node go on from what the schema they wrap gives only
if that is clean, which they tell by the number of issues reported meanwhile. In every context
that comes to the same as running the wrapped schema alone, and then the mapping is called once
(`Library.mappings_see_clean`).
-/

namespace TwoWay

open Reporting

/-- The world that a run in a context ends in. -/
def Reporting.reached {α : Type} (m : Reporting α) (c : World × List (Issue Live)) : World :=
  match m c with
  | .ok _ d | .error _ d => d.1

theorem Reporting.andThen_run (m : Reporting Datum) (next : Datum → Reporting Datum)
    (c : World × List (Issue Live)) : andThen m next c =
      match m c with
      | .ok x d => if x.isInvalid || c.2.length < d.2.length then .ok x d else next x d
      | .error f d => .error f d := by
  simp only [andThen, bind, EStateM.bind, watch_run]
  cases m c with
  | error f d => rfl
  | ok x d =>
    dsimp only
    split <;> rfl

/-- Gates behind each other are one gate, if no issue is lost on the way. -/
theorem Reporting.andThen_assoc (m : Reporting Datum) (f g : Datum → Reporting Datum)
    (c : World × List (Issue Live)) (h : ∀ x d, m c = .ok x d → c.2.length ≤ d.2.length) :
    andThen (andThen m f) g c = andThen m (fun x => andThen (f x) g) c := by
  simp only [andThen_run]
  cases hm : m c with
  | error e d => rfl
  | ok x d =>
    have := h x d hm
    dsimp only
    by_cases dirty : (x.isInvalid || decide (c.2.length < d.2.length)) = true
    · simp only [dirty, if_true]
    · simp only [dirty]
      have same : c.2.length = d.2.length := by
        simp only [Bool.or_eq_true, decide_eq_true_eq, not_or] at dirty
        omega
      simp only [same, Bool.false_eq_true, if_false]

variable {plans : Plans} {a : Allowance} {ch : Channel} {path : Path Live}

/-- What a parse in a context gives keeps to the allowance. -/
theorem Schema.Follows.output {s : Schema} (hf : s.Follows plans a ch) {v x : Datum}
    (hv : v.KeepsOr a True) {w w' : World} (hw : plans.Faithful w)
    {before after : List (Issue Live)}
    (hx : s.parseIn ch path v (w, before) = .ok x (w', after)) (valid : x.isInvalid = false) :
    x.KeepsOr a True ∧ plans.Faithful w' := by
  cases hr : s.runWith ch.links path v w with
  | error f u =>
    obtain ⟨new, ends⟩ := hf.error hv hw hr
    cases (ends before).symm.trans hx
  | ok r u =>
    obtain ⟨faithful, kept, ends⟩ := hf.ok hv hw hr
    cases (ends before).symm.trans hx
    exact ⟨(kept.output valid).weaken fun _ => trivial, faithful⟩

/-- A run in a context leads to the world that the run it tracks leads to. -/
theorem Tracks.reached {α β : Type} {m : Reporting α} {r : Run β} {out : β → α}
    {issues : β → List (Issue Live)} {Q : β → Prop} (h : Tracks plans a path [] m r out issues Q)
    {w : World} (hw : plans.Faithful w) (before : List (Issue Live)) :
    reached m (w, before) = r.final w := by
  have := h w hw
  unfold Reporting.reached Run.final
  cases hr : r w with
  | ok b w' =>
    simp only [hr, List.append_nil] at this
    rw [this.2.2]
  | error f w' =>
    simp only [hr, List.append_nil] at this
    obtain ⟨-, left, -, ends⟩ := this
    rw [ends]

namespace Beside

def double : FunctionRef := ⟨1, "double"⟩

def doubled : Schema := .effect .transform (.custom double) false (.number {} false)

def schema : Schema := .object [("a", .boolean), ("b", doubled)] none .strip

def input : Datum := .dict .free [(.str "a", .int 1), (.str "b", .int 2)]

inductive Part : Schema → Prop
  | schema : Part schema
  | boolean : Part .boolean
  | doubled : Part doubled
  | number : Part (.number {} false)

theorem closed : (Allowance.over Part).Closed Chain.library.plans where
  child hs hc := by
    cases hs with
    | schema =>
      simp only [Schema.children, Beside.schema, List.map_cons, List.map_nil, Option.toList_none,
        List.append_nil, List.mem_cons, List.not_mem_nil, or_false] at hc
      rcases hc with rfl | rfl
      · exact .boolean
      · exact .doubled
    | doubled => exact List.mem_singleton.1 hc ▸ .number
    | boolean | number => cases hc
  behind hs _ := by cases hs
  supplied hs hv := by cases hs <;> cases hv

end Beside
end TwoWay
