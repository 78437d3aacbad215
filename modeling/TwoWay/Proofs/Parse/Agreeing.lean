import TwoWay.Proofs.Parse.Alike
import TwoWay.Parse.Engine
import Mathlib.Data.List.Forall2

/-!
# Agreeing results

Results agree if they give the same and both have issues or none. Nodes look at nothing else in
the results of their children, so that from agreeing results they make agreeing results.
-/

namespace TwoWay

/-- Both results give the same, and both are clean or both are dirty. -/
structure Parsed.Agrees (r t : Parsed) : Prop where
  value : r.value = t.value
  clean : r.issues.isEmpty = t.issues.isEmpty

theorem isEmpty_append {α : Type} (xs ys : List α) :
    (xs ++ ys).isEmpty = (xs.isEmpty && ys.isEmpty) := by
  cases xs <;> rfl

namespace Parsed

variable {r t : Parsed} {rs ts : List Parsed}

theorem Agrees.rfl : r.Agrees r := ⟨.refl _, .refl _⟩

theorem Agrees.isClean (h : r.Agrees t) : r.isClean = t.isClean := by
  unfold Parsed.isClean
  rw [h.value, h.clean]

theorem agrees_append {value : Datum} {own own' more more' : List (Issue Live)}
    (ho : own.isEmpty = own'.isEmpty) (hm : more.isEmpty = more'.isEmpty) :
    Agrees ⟨value, own ++ more⟩ ⟨value, own' ++ more'⟩ :=
  ⟨.refl _, by simp only [isEmpty_append, ho, hm]⟩

theorem anyInvalid_agrees (h : List.Forall₂ Agrees rs ts) : anyInvalid rs = anyInvalid ts := by
  induction h with
  | nil => exact .refl _
  | cons hr _ ih =>
    simp only [anyInvalid, List.any_cons] at ih ⊢
    rw [hr.value, ih]

theorem values_agree (h : List.Forall₂ Agrees rs ts) : values rs = values ts := by
  induction h with
  | nil => exact .refl _
  | cons hr _ ih =>
    simp only [values, List.map_cons] at ih ⊢
    rw [hr.value, ih]

theorem allIssues_agree (h : List.Forall₂ Agrees rs ts) :
    (allIssues rs).isEmpty = (allIssues ts).isEmpty := by
  induction h with
  | nil => exact .refl _
  | cons hr _ ih =>
    simp only [allIssues, List.flatMap_cons, isEmpty_append] at ih ⊢
    rw [hr.clean, ih]

end Parsed

open Parsed

/-! ## Results made of results -/

section

variable {rs ts : List Parsed}

theorem sequenceResult_agrees (ofItems : List Datum → Datum) (own : List (Issue Live))
    (h : List.Forall₂ Agrees rs ts) :
    (sequenceResult ofItems own rs).Agrees (sequenceResult ofItems own ts) := by
  unfold sequenceResult
  rw [anyInvalid_agrees h, values_agree h]
  split <;> exact agrees_append rfl (allIssues_agree h)

theorem unionResult_agrees (path : Path Live) (h : List.Forall₂ Agrees rs ts) :
    (unionResult path rs).Agrees (unionResult path ts) := by
  have given : Option.Rel Agrees (rs.find? fun r => !r.value.isInvalid)
      (ts.find? fun t => !t.value.isInvalid) := by
    induction h with
    | nil => exact .none
    | cons hr _ ih =>
      simp only [List.find?_cons, hr.value]
      split
      · exact .some hr
      · exact ih
  unfold unionResult
  cases hr : rs.find? _ <;> cases ht : ts.find? _ <;> rw [hr, ht] at given <;> cases given
  · exact ⟨rfl, rfl⟩
  · assumption

theorem intersectionResult_agrees (path : Path Live) {l l' r r' : Parsed} (hl : l.Agrees l')
    (hr : r.Agrees r') : (intersectionResult path l r).Agrees (intersectionResult path l' r') := by
  unfold intersectionResult
  rw [hl.value, hr.value]
  split
  · exact agrees_append hl.clean hr.clean
  · split
    · exact agrees_append hl.clean hr.clean
    · refine agrees_append ?_ rfl
      simp only [isEmpty_append, hl.clean, hr.clean]

/-- Results beside names, with agreeing results beside the same names. -/
def Named {κ : Type} (f g : κ × Parsed) : Prop := f.1 = g.1 ∧ f.2.Agrees g.2

theorem named_results {κ : Type} {fs gs : List (κ × Parsed)} (h : List.Forall₂ Named fs gs) :
    List.Forall₂ Agrees (fs.map (·.2)) (gs.map (·.2)) := by
  induction h with
  | nil => exact .nil
  | cons hf _ ih => exact .cons hf.2 ih

theorem fieldEntries_agree {fs gs : List (String × Parsed)} (h : List.Forall₂ Named fs gs) :
    fieldEntries fs = fieldEntries gs := by
  induction h with
  | nil => exact .refl _
  | cons hf _ ih =>
    simp only [fieldEntries, List.filterMap_cons] at ih ⊢
    rw [hf.1, hf.2.value, ih]

theorem objectResult_agrees {fs gs : List (String × Parsed)} (h : List.Forall₂ Named fs gs)
    (extra : Entries Live) {issues issues' : List (Issue Live)}
    (hi : issues.isEmpty = issues'.isEmpty) (failed : Bool) :
    (objectResult fs extra issues failed).Agrees (objectResult gs extra issues' failed) := by
  have results := named_results h
  unfold objectResult
  dsimp only
  rw [anyInvalid_agrees results, fieldEntries_agree h]
  split <;> exact agrees_append (allIssues_agree results) hi

theorem closedObject_agrees (path : Path Live) (policy : UnknownKeys) (extra : Entries Live)
    {fs gs : List (String × Parsed)} (h : List.Forall₂ Named fs gs) :
    (closedObject path policy fs extra).Agrees (closedObject path policy gs extra) := by
  cases policy <;> exact objectResult_agrees h _ rfl _

theorem openObject_agrees {fs gs : List (String × Parsed)} {es es' : List (Datum × Parsed)}
    (h : List.Forall₂ Named fs gs) (he : List.Forall₂ Named es es') :
    (openObject fs es).Agrees (openObject gs es') := by
  have values : es.map (fun e => (e.1, e.2.value)) = es'.map fun e => (e.1, e.2.value) := by
    clear h
    induction he with
    | nil => exact .refl _
    | cons hf _ ih => rw [List.map_cons, List.map_cons, hf.1, hf.2.value, ih]
  unfold openObject
  dsimp only
  rw [values, anyInvalid_agrees (named_results he)]
  exact objectResult_agrees h _ (allIssues_agree (named_results he)) _

/-- Mappings rebuilt from agreeing results. -/
structure Rebuilt.Agrees (b c : Rebuilt) : Prop where
  entries : b.entries = c.entries
  failed : b.failed = c.failed
  clean : b.issues.isEmpty = c.issues.isEmpty

theorem Rebuilt.Agrees.parsed {b c : Rebuilt} (h : b.Agrees c) : b.parsed.Agrees c.parsed := by
  unfold Rebuilt.parsed
  rw [h.entries, h.failed]
  exact ⟨rfl, h.clean⟩

end

/-! ## Runs of children -/

variable {plans : Plans} {stray : Failure → Prop}

theorem Rebuilt.Agrees.add {b c : Rebuilt} (h : b.Agrees c) {k k' v v' : Parsed}
    (hk : k.Agrees k') (hv : v.Agrees v') :
    plans.Alike stray (b.add k v) (c.add k' v') Rebuilt.Agrees := by
  have issues : (b.issues ++ k.issues ++ v.issues).isEmpty =
      (c.issues ++ k'.issues ++ v'.issues).isEmpty := by
    simp only [isEmpty_append, h.clean, hk.clean, hv.clean]
  unfold Rebuilt.add
  dsimp only
  rw [hk.value, hv.value]
  split
  · exact .pure ⟨h.entries, rfl, issues⟩
  · refine .bind (.requireHashable _) fun _ _ _ => .pure ⟨?_, h.failed, issues⟩
    exact congrArg (Entries.put · k'.value v'.value) h.entries

section

variable {parse parse' : Path Live → Datum → Run Parsed}
  (h : ∀ path v, plans.Alike stray (parse path v) (parse' path v) Agrees)

include h

theorem runItems_alike (path : Path Live) (i : Nat) (items : List Datum) :
    plans.Alike stray (runItems parse path i items) (runItems parse' path i items)
      (List.Forall₂ Agrees) := by
  induction items generalizing i with
  | nil => exact .pure .nil
  | cons v rest ih =>
    refine .bind (h _ v) fun r r' hr => ?_
    refine .bind (ih (i + 1)) fun rs rs' hrs => ?_
    exact .pure (.cons hr hrs)

theorem runValues_alike (path : Path Live) (entries : Entries Live) :
    plans.Alike stray (runValues parse path entries) (runValues parse' path entries)
      (List.Forall₂ Named) := by
  induction entries with
  | nil => exact .pure .nil
  | cons e rest ih =>
    refine .bind (h _ e.2) fun r r' hr => ?_
    refine .bind ih fun rs rs' hrs => ?_
    exact .pure (.cons ⟨rfl, hr⟩ hrs)

theorem runEntries_alike {key key' : Path Live → Datum → Run Parsed}
    (hk : ∀ path v, plans.Alike stray (key path v) (key' path v) Agrees)
    (keyPath valuePath : Nat → Datum → Path Live) (i : Nat) (entries : Entries Live)
    {b c : Rebuilt} (hb : b.Agrees c) :
    plans.Alike stray (runEntries key parse keyPath valuePath i entries b)
      (runEntries key' parse' keyPath valuePath i entries c) Rebuilt.Agrees := by
  induction entries generalizing i b c with
  | nil => exact .pure hb
  | cons e rest ih =>
    refine .bind (hk _ e.1) fun k k' hk => ?_
    refine .bind (h _ e.2) fun v v' hv => ?_
    exact .bind (hb.add hk hv) fun b c hb => ih (i + 1) hb

end

theorem andThen_alike {r t : Parsed} (hr : r.Agrees t) {next next' : Datum → Run Parsed}
    (h : ∀ v, plans.Alike stray (next v) (next' v) Agrees) :
    plans.Alike stray (r.andThen next) (t.andThen next') Agrees := by
  unfold Parsed.andThen
  rw [hr.isClean, hr.value]
  split
  · exact h _
  · exact .pure hr

theorem requireEach_alike (values : List Datum) :
    plans.Alike stray
      (forIn values PUnit.unit fun v _ => do
        Run.requireHashable v
        pure (ForInStep.yield PUnit.unit))
      (forIn values PUnit.unit fun v _ => do
        Run.requireHashable v
        pure (ForInStep.yield PUnit.unit)) Eq := by
  induction values with
  | nil => exact .pure rfl
  | cons v rest ih =>
    rw [List.forIn_cons, bind_assoc]
    exact .same (.requireHashable v) fun _ => ih

theorem setResult_alike (readOnly : Bool) {rs ts : List Parsed} (h : List.Forall₂ Agrees rs ts) :
    plans.Alike stray (setResult readOnly rs) (setResult readOnly ts) Agrees := by
  unfold setResult
  rw [anyInvalid_agrees h, values_agree h]
  split
  · exact .pure ⟨rfl, allIssues_agree h⟩
  · exact .bind (requireEach_alike _) fun _ _ _ => .pure ⟨rfl, allIssues_agree h⟩

end TwoWay
