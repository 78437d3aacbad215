import TwoWay.Proofs.Value.Recasting
import TwoWay.Parse.Engine
import Mathlib.Data.List.Find

/-!
# Results of recast values

What nodes make of values and of the results of their children they make of recast ones, recast. The
values that stand in schemas are recast with them.
-/

namespace TwoWay

variable {ρ : Nat → Nat} {σ : Schema → Schema}

mutual

/-- Recasts the values in an issue. -/
def Issue.recast (ρ : Nat → Nat) (σ : Schema → Schema) : Issue Live → Issue Live
  | ⟨code, message, path, details⟩ =>
    ⟨code, message, path.map (Value.recast ρ σ), Issue.recastDetails ρ σ details⟩
  termination_by structural i => i

def Issue.recastDetails (ρ : Nat → Nat) (σ : Schema → Schema) :
    List (String × Detail Live (Issue Live)) → List (String × Detail Live (Issue Live))
  | [] => []
  | (name, d) :: rest => (name, Issue.recastDetail ρ σ d) :: Issue.recastDetails ρ σ rest
  termination_by structural ds => ds

def Issue.recastDetail (ρ : Nat → Nat) (σ : Schema → Schema) :
    Detail Live (Issue Live) → Detail Live (Issue Live)
  | .value v => .value (v.recast ρ σ)
  | .issues list => .issues (Issue.recastAll ρ σ list)
  | .branches lists => .branches (Issue.recastBranches ρ σ lists)
  termination_by structural d => d

def Issue.recastAll (ρ : Nat → Nat) (σ : Schema → Schema) : List (Issue Live) → List (Issue Live)
  | [] => []
  | i :: rest => Issue.recast ρ σ i :: Issue.recastAll ρ σ rest
  termination_by structural is => is

def Issue.recastBranches (ρ : Nat → Nat) (σ : Schema → Schema) :
    List (List (Issue Live)) → List (List (Issue Live))
  | [] => []
  | is :: rest => Issue.recastAll ρ σ is :: Issue.recastBranches ρ σ rest
  termination_by structural bs => bs

end

namespace Issue

@[simp] theorem recastDetails_eq (details : List (String × Detail Live (Issue Live))) :
    recastDetails ρ σ details = details.map fun d => (d.1, recastDetail ρ σ d.2) := by
  induction details with
  | nil => rfl
  | cons d rest ih => rw [recastDetails, ih, List.map_cons]

@[simp] theorem recastAll_eq (issues : List (Issue Live)) :
    recastAll ρ σ issues = issues.map (recast ρ σ) := by
  induction issues with
  | nil => rfl
  | cons i rest ih => rw [recastAll, ih, List.map_cons]

@[simp] theorem recastBranches_eq (branches : List (List (Issue Live))) :
    recastBranches ρ σ branches = branches.map (List.map (recast ρ σ)) := by
  induction branches with
  | nil => rfl
  | cons is rest ih => rw [recastBranches, ih, recastAll_eq, List.map_cons]

end Issue

/-- Recasts a result. -/
def Parsed.recast (ρ : Nat → Nat) (σ : Schema → Schema) (r : Parsed) : Parsed :=
  ⟨r.value.recast ρ σ, r.issues.map (Issue.recast ρ σ)⟩

attribute [simp] Issue.recast Issue.recastDetail Parsed.recast

/-! ## Reports

Neither identities nor schemas show in a report, and so they do not matter to whether there is
one. -/

@[simp] theorem Value.text_recast (v : Datum) : (v.recast ρ σ).text = v.text := by
  cases v
  case str => rfl
  all_goals exact Value.quoted_recast _

theorem appendText_recast (location : Datum) (text : String) :
    appendText (location.recast ρ σ) text = Value.recast ρ σ <$> appendText location text := by
  have name := location.typeName_recast (ρ := ρ) (σ := σ)
  cases location
  case list access items =>
    cases access
    case free => simp [appendText, Access.rename, Function.comp_def]
    case readOnly => rfl
  case str | tuple | bytes => rfl
  all_goals exact congrArg (fun name => Except.error (Fault.unappendable name)) name

theorem extendLocation_recast (location segment : Datum) :
    extendLocation (location.recast ρ σ) (segment.recast ρ σ) =
      Value.recast ρ σ <$> extendLocation location segment := by
  have text := segment.text_recast (ρ := ρ) (σ := σ)
  have truthy := location.truthy_recast (ρ := ρ) (σ := σ)
  cases segment
  case int | bool => exact appendText_recast _ _
  all_goals
    simp only [Value.recast] at text ⊢
    simp only [extendLocation, truthy, text, apply_ite (Value.recast ρ σ <$> ·), appendText_recast]
    rfl

theorem location_recast (path : Path Live) :
    location (path.map (Value.recast ρ σ)) = Value.recast ρ σ <$> location path := by
  have steps (start : Datum) : (path.map (Value.recast ρ σ)).foldlM extendLocation
      (start.recast ρ σ) = Value.recast ρ σ <$> path.foldlM extendLocation start := by
    induction path generalizing start with
    | nil => rfl
    | cons segment path ih =>
      simp only [List.map_cons, List.foldlM_cons, extendLocation_recast, bind_map_left, map_bind]
      exact bind_congr fun next => ih next
  exact steps (.str "")

theorem Issue.line_recast (issue : Issue Live) : (issue.recast ρ σ).line = issue.line := by
  cases issue
  simp only [line, recast, location_recast, bind_map_left, Value.truthy_recast, Value.text_recast]

theorem Issue.report_recast (issues : List (Issue Live)) :
    Issue.report (issues.map (Issue.recast ρ σ)) = Issue.report issues := by
  simp only [report, List.length_map, List.mapM_map, Function.comp_def, line_recast]

/-- The path one step down. -/
theorem child_recast (path : Path Live) (segment : Datum) :
    (path ++ [segment]).map (Value.recast ρ σ) =
      path.map (Value.recast ρ σ) ++ [segment.recast ρ σ] := by
  simp

namespace Parsed

@[simp] theorem isClean_recast (r : Parsed) : (r.recast ρ σ).isClean = r.isClean := by
  simp [isClean]

theorem anyInvalid_recast (rs : List Parsed) :
    anyInvalid (rs.map (recast ρ σ)) = anyInvalid rs := by
  simp [anyInvalid, List.any_map, Function.comp_def]

theorem values_recast (rs : List Parsed) :
    values (rs.map (recast ρ σ)) = (values rs).map (Value.recast ρ σ) := by
  simp [values, Function.comp_def]

theorem allIssues_recast (rs : List Parsed) :
    allIssues (rs.map (recast ρ σ)) = (allIssues rs).map (Issue.recast ρ σ) := by
  simp [allIssues, List.flatMap_map, List.map_flatMap]

end Parsed

variable (path : Path Live)

@[simp] theorem wrongType_recast (expected message : String) (v : Datum) :
    wrongType (path.map (Value.recast ρ σ)) expected message (v.recast ρ σ) =
      (wrongType path expected message v).recast ρ σ := by
  simp [wrongType, Parsed.refused]

@[simp] theorem wrongLeaf_recast (expected message : String) (v : Datum) :
    wrongLeaf (path.map (Value.recast ρ σ)) expected message (v.recast ρ σ) =
      (wrongLeaf path expected message v).recast ρ σ := by
  simp [wrongLeaf]

@[simp] theorem wrongContainer_recast (expected : String) (v : Datum) :
    wrongContainer (path.map (Value.recast ρ σ)) expected (v.recast ρ σ) =
      (wrongContainer path expected v).recast ρ σ := by
  simp [wrongContainer]

@[simp] theorem wrongAwaitable_recast (v : Datum) :
    wrongAwaitable (path.map (Value.recast ρ σ)) (v.recast ρ σ) =
      (wrongAwaitable path v).recast ρ σ := by
  simp [wrongAwaitable]

/-! ## Leaves -/

theorem boundIssue_recast (code : IssueCode) (message detail : String) (bound : Datum) :
    boundIssue (path.map (Value.recast ρ σ)) code message detail (bound.recast ρ σ) =
      (boundIssue path code message detail bound).recast ρ σ := by
  simp [boundIssue]

/-- Numbers compare with what is recast as with what it was. -/
theorem compared_recast (c : Comparison) {a : Datum} (h : isReadableNumber a) (b : Datum) :
    Value.compared c a (b.recast ρ σ) = Value.compared c a b := by
  have unlike : Value.incomparable c a (b.recast ρ σ) = Value.incomparable c a b := by
    have named := b.typeName_recast (ρ := ρ) (σ := σ)
    cases b
    case dict r entries => cases r <;> rfl
    all_goals
      simp only [Value.recast] at named
      simp only [Value.recast, Value.incomparable, Value.comparedName, named]
  have ordered : (b.recast ρ σ).isOrdered = b.isOrdered := by cases b <;> rfl
  cases a with
  | int | float =>
    simp only [Value.compared, Value.compareFrom, ordered, Value.place?_recast, Value.unlike,
      Bool.false_eq_true, if_false, unlike]
  | _ => cases h

/-- Recasts the values that bound a length. -/
def Lengths.recast (ρ : Nat → Nat) (σ : Schema → Schema) (lengths : Lengths Live) : Lengths Live :=
  ⟨lengths.least.recast ρ σ, lengths.most.recast ρ σ⟩

theorem lengthIssues_recast (owner noun : String) (lengths : Lengths Live) (size : Nat) :
    lengthIssues (path.map (Value.recast ρ σ)) owner noun (lengths.recast ρ σ) size =
      List.map (Issue.recast ρ σ) <$> lengthIssues path owner noun lengths size := by
  have less := compared_recast (ρ := ρ) (σ := σ) .less (a := .int size) rfl lengths.least
  have greater := compared_recast (ρ := ρ) (σ := σ) .greater (a := .int size) rfl lengths.most
  unfold lengthIssues
  dsimp only [Lengths.recast]
  simp only [Value.isNone_recast, Value.isLess, Value.isGreater, less, greater]
  split <;> rw [map_bind] <;> refine bind_congr fun short => ?_
  all_goals
    split <;> rw [map_bind] <;> refine bind_congr fun long => ?_
    all_goals cases short <;> cases long <;> simp [boundIssue]

theorem patternIssues_recast (pattern : Option WrittenPattern) (text : String) :
    patternIssues (path.map (Value.recast ρ σ)) pattern text =
      List.map (Issue.recast ρ σ) <$> patternIssues path pattern text := by
  unfold patternIssues
  split
  · rfl
  · rfl
  · split
    · split <;> rfl
    · rfl

theorem parseString_recast (lengths : Lengths Live) (pattern : Option WrittenPattern) (v : Datum) :
    parseString (lengths.recast ρ σ) pattern (path.map (Value.recast ρ σ)) (v.recast ρ σ) =
      Parsed.recast ρ σ <$> parseString lengths pattern path v := by
  have other (h : ∀ s, v ≠ .str s) : parseString lengths pattern path v =
      pure (wrongLeaf path "string" "Input should be a valid string" v) := by
    cases v <;> first | rfl | exact absurd rfl (h _)
  cases v
  case str s =>
    simp only [Value.recast, parseString, lengthIssues_recast, patternIssues_recast, map_bind,
      bind_map_left, map_pure, Parsed.recast, List.map_append]
  all_goals
    simp only [parseString, map_pure, ← wrongLeaf_recast]
    rfl

theorem isReadableNumber_recast (v : Datum) :
    isReadableNumber (v.recast ρ σ) = isReadableNumber v := by
  rcases v with _ | _ | _ | (_ | _ | _) | _ | _ | _ | _ | _ | _ | _ | _ | _ <;> rfl

/-- Numbers that can be read have no identity and no handles in them. -/
theorem recast_of_isReadableNumber {v : Datum} (h : isReadableNumber v) : v.recast ρ σ = v := by
  rcases v with _ | _ | _ | (_ | _ | _) | _ | _ | _ | _ | _ | _ | _ | _ | _ <;>
    first | rfl | cases h

theorem numberBound_recast (code : IssueCode) (relation detail : String) (c : Comparison)
    {v : Datum} (readable : isReadableNumber v) (bound : Datum) :
    numberBound (path.map (Value.recast ρ σ)) code relation detail (Value.compared c) v
      (bound.recast ρ σ) =
      List.map (Issue.recast ρ σ) <$>
        numberBound path code relation detail (Value.compared c) v bound := by
  unfold numberBound
  rw [Value.isNone_recast, compared_recast c readable]
  split
  · rfl
  · simp only [map_bind]
    refine bind_congr fun within => ?_
    cases within
    · simp [boundIssue_recast]
    · rfl

/-- Recasts the values that bound a number. -/
def Bounds.recast (ρ : Nat → Nat) (σ : Schema → Schema) (bounds : Bounds Live) : Bounds Live :=
  ⟨bounds.above.recast ρ σ, bounds.atLeast.recast ρ σ, bounds.below.recast ρ σ,
    bounds.atMost.recast ρ σ⟩

theorem parseNumber_recast (bounds : Bounds Live) (integer : Bool) (v : Datum) :
    parseNumber (bounds.recast ρ σ) integer (path.map (Value.recast ρ σ)) (v.recast ρ σ) =
      Parsed.recast ρ σ <$> parseNumber bounds integer path v := by
  unfold parseNumber
  rw [isReadableNumber_recast]
  cases readable : isReadableNumber v with
  | false => simp
  | true =>
    rw [recast_of_isReadableNumber readable]
    simp only [Bounds.recast, Value.isGreater, Value.isAtLeast, Value.isLess, Value.isAtMost,
      numberBound_recast path _ _ _ _ readable]
    simp only [Bool.not_true, Bool.false_eq_true, if_false, map_bind, bind_map_left, map_pure]
    refine bind_congr fun above => bind_congr fun atLeast => bind_congr fun below =>
      bind_congr fun atMost => ?_
    simp only [Parsed.recast, recast_of_isReadableNumber readable, List.map_append,
      apply_ite (List.map (Issue.recast ρ σ)), List.map_nil, List.map_cons, Issue.recast,
      Issue.recastDetails]

theorem parseBoolean_recast (v : Datum) :
    parseBoolean (path.map (Value.recast ρ σ)) (v.recast ρ σ) =
      (parseBoolean path v).recast ρ σ := by
  cases v
  case bool => rfl
  all_goals exact wrongLeaf_recast path _ _ _

theorem parseNone_recast (v : Datum) :
    parseNone (path.map (Value.recast ρ σ)) (v.recast ρ σ) = (parseNone path v).recast ρ σ := by
  unfold parseNone
  rw [Value.isNone_recast, wrongLeaf_recast]
  split <;> rfl

theorem parseNever_recast (v : Datum) :
    parseNever (path.map (Value.recast ρ σ)) (v.recast ρ σ) = (parseNever path v).recast ρ σ :=
  wrongType_recast path _ _ _

section

variable (hρ : Function.Injective ρ)

include hρ

theorem parseLiteral_recast (value v : Datum) :
    parseLiteral (value.recast ρ σ) (path.map (Value.recast ρ σ)) (v.recast ρ σ) =
      (parseLiteral value path v).recast ρ σ := by
  unfold parseLiteral
  rw [Value.isExactly_recast hρ, Value.isMissing_recast]
  split
  · rfl
  · split <;> simp [Parsed.refused]

theorem parseEnum_recast (values : List Datum) (v : Datum) :
    parseEnum (values.map (Value.recast ρ σ)) (path.map (Value.recast ρ σ)) (v.recast ρ σ) =
      (parseEnum values path v).recast ρ σ := by
  have same : (values.map (Value.recast ρ σ)).any (v.recast ρ σ).isExactly =
      values.any v.isExactly := by
    simp only [List.any_map, Function.comp_def, Value.isExactly_recast hρ]
  unfold parseEnum
  rw [same, Value.isMissing_recast]
  split
  · rfl
  · simp [Parsed.refused, Access.rename, alternativesText, Function.comp_def]

end

/-! ## Containers -/

@[simp] theorem listItems?_recast (v : Datum) :
    (v.recast ρ σ).listItems? = v.listItems?.map (List.map (Value.recast ρ σ)) := by
  cases v <;> simp [Value.listItems?]

@[simp] theorem entries?_recast (v : Datum) :
    (v.recast ρ σ).entries? = v.entries?.map (List.map (Value.recastEntry ρ σ)) := by
  cases v <;> simp [Value.entries?]

@[simp] theorem sequence?_recast (v : Datum) :
    (v.recast ρ σ).sequence? = v.sequence?.map fun s => (s.1, s.2.map (Value.recast ρ σ)) := by
  cases v <;> simp [Value.sequence?]

@[simp] theorem setItems?_recast (v : Datum) :
    (v.recast ρ σ).setItems? = v.setItems?.map fun s => (s.1, s.2.map (Value.recast ρ σ)) := by
  cases v <;> simp [Value.setItems?]

theorem sequenceResult_recast {ofItems : List Datum → Datum}
    (h : ∀ items, ofItems (items.map (Value.recast ρ σ)) = (ofItems items).recast ρ σ)
    (own : List (Issue Live)) (rs : List Parsed) :
    sequenceResult ofItems (own.map (Issue.recast ρ σ)) (rs.map (Parsed.recast ρ σ)) =
      (sequenceResult ofItems own rs).recast ρ σ := by
  unfold sequenceResult
  rw [Parsed.anyInvalid_recast, Parsed.allIssues_recast, Parsed.values_recast]
  split <;> simp [h]

theorem unionResult_recast (rs : List Parsed) :
    unionResult (path.map (Value.recast ρ σ)) (rs.map (Parsed.recast ρ σ)) =
      (unionResult path rs).recast ρ σ := by
  have given : (rs.map (Parsed.recast ρ σ)).find? (fun r => !r.value.isInvalid) =
      (rs.find? fun r => !r.value.isInvalid).map (Parsed.recast ρ σ) := by
    simp [List.find?_map]
  unfold unionResult
  rw [given]
  cases rs.find? fun r => !r.value.isInvalid with
  | some r => rfl
  | none => simp [Parsed.refused, Function.comp_def]

theorem tupleBound_recast (code : IssueCode) (bound detail : String) (count : Nat) :
    tupleBound (path.map (Value.recast ρ σ)) code bound detail count =
      (tupleBound path code bound detail count).recast ρ σ := by
  simp [tupleBound, Parsed.refused]

/-- Recasts a tag that leads to an option. -/
def recastTag (ρ : Nat → Nat) (σ : Schema → Schema) (e : Datum × Nat) : Datum × Nat :=
  (e.1.recast ρ σ, e.2)

theorem wrongTag_recast (key : String) (table : List (Datum × Nat)) :
    wrongTag (path.map (Value.recast ρ σ)) key (table.map (recastTag ρ σ)) =
      (wrongTag path key table).recast ρ σ := by
  have tags : (table.map (recastTag ρ σ)).map (·.1) =
      (table.map (·.1)).map (Value.recast ρ σ) := by
    simp [recastTag, Function.comp_def]
  have quoted (values : List Datum) :
      alternativesText (values.map (Value.recast ρ σ)) = alternativesText values := by
    simp [alternativesText, Function.comp_def]
  simp only [wrongTag, tags, List.filter_map, Function.comp_def, Value.isMissing_recast, quoted]
  simp [Parsed.refused, Access.rename]

/-- A result beside a name, recast. -/
def recastNamed (ρ : Nat → Nat) (σ : Schema → Schema) (f : String × Parsed) : String × Parsed :=
  (f.1, f.2.recast ρ σ)

/-- A result beside a key, recast with it. -/
def recastKeyed (ρ : Nat → Nat) (σ : Schema → Schema) (e : Datum × Parsed) : Datum × Parsed :=
  (e.1.recast ρ σ, e.2.recast ρ σ)

theorem fieldEntries_recast (fields : List (String × Parsed)) :
    fieldEntries (fields.map (recastNamed ρ σ)) =
      (fieldEntries fields).map (Value.recastEntry ρ σ) := by
  simp only [fieldEntries, List.filterMap_map, List.map_filterMap]
  congr 1
  funext f
  simp only [Function.comp_def, recastNamed, Parsed.recast, Value.isInvalid_recast,
    Value.isMissing_recast]
  split <;> rfl

theorem objectResult_recast (fields : List (String × Parsed)) (extra : Entries Live)
    (issues : List (Issue Live)) (failed : Bool) :
    objectResult (fields.map (recastNamed ρ σ)) (extra.map (Value.recastEntry ρ σ))
      (issues.map (Issue.recast ρ σ)) failed =
      (objectResult fields extra issues failed).recast ρ σ := by
  have results : (fields.map (recastNamed ρ σ)).map (·.2) =
      (fields.map (·.2)).map (Parsed.recast ρ σ) := by
    simp [recastNamed, Function.comp_def]
  unfold objectResult
  dsimp only
  rw [results, Parsed.anyInvalid_recast, Parsed.allIssues_recast, fieldEntries_recast]
  split <;> simp [Access.rename]

theorem closedObject_recast (policy : UnknownKeys) (fields : List (String × Parsed))
    (extra : Entries Live) :
    closedObject (path.map (Value.recast ρ σ)) policy (fields.map (recastNamed ρ σ))
      (extra.map (Value.recastEntry ρ σ)) = (closedObject path policy fields extra).recast ρ σ := by
  cases policy
  case strip => exact objectResult_recast fields [] [] false
  case passthrough => exact objectResult_recast fields extra [] false
  case strict =>
    have unknown :
        unrecognizedKeys (path.map (Value.recast ρ σ)) (extra.map (Value.recastEntry ρ σ)) =
        (unrecognizedKeys path extra).recast ρ σ := by
      simp [unrecognizedKeys, Function.comp_def, Access.rename]
    simp only [closedObject, List.isEmpty_map, unknown, ← objectResult_recast]
    split <;> rfl

theorem openObject_recast (fields : List (String × Parsed)) (extra : List (Datum × Parsed)) :
    openObject (fields.map (recastNamed ρ σ)) (extra.map (recastKeyed ρ σ)) =
      (openObject fields extra).recast ρ σ := by
  have results : (extra.map (recastKeyed ρ σ)).map (·.2) =
      (extra.map (·.2)).map (Parsed.recast ρ σ) := by
    simp [recastKeyed, Function.comp_def]
  have values : (extra.map (recastKeyed ρ σ)).map (fun e => (e.1, e.2.value)) =
      (extra.map fun e => (e.1, e.2.value)).map (Value.recastEntry ρ σ) := by
    simp [recastKeyed, Function.comp_def]
  unfold openObject
  dsimp only
  rw [results, values, Parsed.anyInvalid_recast, Parsed.allIssues_recast]
  exact objectResult_recast fields _ _ _

/-- Recasts a mapping under construction. -/
def Rebuilt.recast (ρ : Nat → Nat) (σ : Schema → Schema) (b : Rebuilt) : Rebuilt :=
  ⟨b.entries.map (Value.recastEntry ρ σ), b.failed, b.issues.map (Issue.recast ρ σ)⟩

theorem Rebuilt.parsed_recast (b : Rebuilt) : (b.recast ρ σ).parsed = b.parsed.recast ρ σ := by
  unfold Rebuilt.parsed Rebuilt.recast
  cases b.failed <;> simp [Access.rename]

section

variable (hρ : Function.Injective ρ)

include hρ

theorem valueAt_recast (entries : Entries Live) (key : String) :
    valueAt (entries.map (Value.recastEntry ρ σ)) key = (valueAt entries key).recast ρ σ := by
  have found := Entries.get?_recast (σ := σ) hρ entries (.str key)
  simp only [Value.recast] at found
  unfold valueAt
  rw [found]
  cases entries.get? (.str key) <;> rfl

theorem extraEntries_recast (shape : List (String × Schema)) (entries : Entries Live) :
    extraEntries shape (entries.map (Value.recastEntry ρ σ)) =
      (extraEntries shape entries).map (Value.recastEntry ρ σ) := by
  have named (v : Datum) (key : String) : (v.recast ρ σ).equal (.str key) = v.equal (.str key) :=
    Value.equal_recast hρ v (.str key)
  simp [extraEntries, List.filter_map, Function.comp_def, named]

theorem optionAt?_recast (table : List (Datum × Nat)) (tag : Datum) :
    optionAt? (table.map (recastTag ρ σ)) (tag.recast ρ σ) = optionAt? table tag := by
  unfold optionAt?
  rw [Value.unhashable?_recast, List.find?_map]
  simp only [Function.comp_def, recastTag, Value.agrees_recast hρ]
  cases table.find? fun e => e.1.agrees tag <;> rfl

theorem intersectionResult_recast (l r : Parsed) :
    intersectionResult (path.map (Value.recast ρ σ)) (l.recast ρ σ) (r.recast ρ σ) =
      (intersectionResult path l r).recast ρ σ := by
  unfold intersectionResult
  simp only [Parsed.recast, Value.isInvalid_recast, merge_recast hρ]
  split
  · simp
  · cases merge l.value r.value <;> simp

end

end TwoWay
