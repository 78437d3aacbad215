import TwoWay.Proofs.Value.Renaming
import TwoWay.Proofs.Parse.Recasting

/-!
# Results of renamed values

What nodes make of values and of the results of their children they make of renamed ones, renamed.
The values that stand in schemas have to be the same under another name.
-/

namespace TwoWay

variable {ρ : Nat → Nat}

mutual

/-- Renames the identities in an issue. -/
def Issue.rename (ρ : Nat → Nat) : Issue Live → Issue Live
  | ⟨code, message, path, details⟩ =>
    ⟨code, message, path.map (Value.rename ρ), Issue.renameDetails ρ details⟩
  termination_by structural i => i

def Issue.renameDetails (ρ : Nat → Nat) :
    List (String × Detail Live (Issue Live)) → List (String × Detail Live (Issue Live))
  | [] => []
  | (name, d) :: rest => (name, Issue.renameDetail ρ d) :: Issue.renameDetails ρ rest
  termination_by structural ds => ds

def Issue.renameDetail (ρ : Nat → Nat) :
    Detail Live (Issue Live) → Detail Live (Issue Live)
  | .value v => .value (v.rename ρ)
  | .issues list => .issues (Issue.renameAll ρ list)
  | .branches lists => .branches (Issue.renameBranches ρ lists)
  termination_by structural d => d

def Issue.renameAll (ρ : Nat → Nat) : List (Issue Live) → List (Issue Live)
  | [] => []
  | i :: rest => Issue.rename ρ i :: Issue.renameAll ρ rest
  termination_by structural is => is

def Issue.renameBranches (ρ : Nat → Nat) : List (List (Issue Live)) → List (List (Issue Live))
  | [] => []
  | is :: rest => Issue.renameAll ρ is :: Issue.renameBranches ρ rest
  termination_by structural bs => bs

end

namespace Issue

@[simp] theorem renameDetails_eq (details : List (String × Detail Live (Issue Live))) :
    renameDetails ρ details = details.map fun d => (d.1, renameDetail ρ d.2) := by
  induction details with
  | nil => rfl
  | cons d rest ih => rw [renameDetails, ih, List.map_cons]

@[simp] theorem renameAll_eq (issues : List (Issue Live)) :
    renameAll ρ issues = issues.map (rename ρ) := by
  induction issues with
  | nil => rfl
  | cons i rest ih => rw [renameAll, ih, List.map_cons]

@[simp] theorem renameBranches_eq (branches : List (List (Issue Live))) :
    renameBranches ρ branches = branches.map (List.map (rename ρ)) := by
  induction branches with
  | nil => rfl
  | cons is rest ih => rw [renameBranches, ih, renameAll_eq, List.map_cons]

end Issue

/-- Renames the identities in a result. -/
def Parsed.rename (ρ : Nat → Nat) (r : Parsed) : Parsed :=
  ⟨r.value.rename ρ, r.issues.map (Issue.rename ρ)⟩

attribute [simp] Issue.rename Issue.renameDetail Parsed.rename

/-- A result beside a name, renamed. -/
def renameNamed (ρ : Nat → Nat) (f : String × Parsed) : String × Parsed := (f.1, f.2.rename ρ)

/-- A result beside a key, renamed with it. -/
def renameKeyed (ρ : Nat → Nat) (e : Datum × Parsed) : Datum × Parsed :=
  (e.1.rename ρ, e.2.rename ρ)

/-- Renames the identities in a mapping under construction. -/
def Rebuilt.rename (ρ : Nat → Nat) (b : Rebuilt) : Rebuilt :=
  ⟨b.entries.map (Value.renameEntry ρ), b.failed, b.issues.map (Issue.rename ρ)⟩

/-! ## Renaming recasts nothing else -/

mutual

theorem Issue.rename_apply : ∀ i : Issue Live, i.rename ρ = i.recast ρ id
  | ⟨_, _, _, details⟩ => by
    rw [Issue.rename, Issue.recast, Value.rename_eq, Issue.renameDetails_apply details]

theorem Issue.renameDetails_apply : ∀ details : List (String × Detail Live (Issue Live)),
    Issue.renameDetails ρ details = Issue.recastDetails ρ id details
  | [] => rfl
  | (_, d) :: rest => by
    rw [Issue.renameDetails, Issue.recastDetails, Issue.renameDetail_apply d,
      Issue.renameDetails_apply rest]

theorem Issue.renameDetail_apply : ∀ d : Detail Live (Issue Live),
    Issue.renameDetail ρ d = Issue.recastDetail ρ id d
  | .value v => by simp [Value.rename_eq]
  | .issues list => by
    rw [Issue.renameDetail, Issue.recastDetail, Issue.renameAll_apply list]
  | .branches lists => by
    rw [Issue.renameDetail, Issue.recastDetail, Issue.renameBranches_apply lists]

theorem Issue.renameAll_apply : ∀ issues : List (Issue Live),
    Issue.renameAll ρ issues = Issue.recastAll ρ id issues
  | [] => rfl
  | i :: rest => by
    rw [Issue.renameAll, Issue.recastAll, Issue.rename_apply i, Issue.renameAll_apply rest]

theorem Issue.renameBranches_apply : ∀ branches : List (List (Issue Live)),
    Issue.renameBranches ρ branches = Issue.recastBranches ρ id branches
  | [] => rfl
  | is :: rest => by
    rw [Issue.renameBranches, Issue.recastBranches, Issue.renameAll_apply is,
      Issue.renameBranches_apply rest]

end

theorem Issue.rename_eq : Issue.rename ρ = Issue.recast ρ id := funext Issue.rename_apply

theorem Parsed.rename_eq : Parsed.rename ρ = Parsed.recast ρ id := by
  funext r
  rw [Parsed.rename, Parsed.recast, Value.rename_eq, Issue.rename_eq]

theorem renameNamed_eq : renameNamed ρ = recastNamed ρ id := by
  funext f
  rw [renameNamed, recastNamed, Parsed.rename_eq]

theorem renameKeyed_eq : renameKeyed ρ = recastKeyed ρ id := by
  funext e
  rw [renameKeyed, recastKeyed, Value.rename_eq, Parsed.rename_eq]

theorem Rebuilt.rename_eq : Rebuilt.rename ρ = Rebuilt.recast ρ id := by
  funext b
  rw [Rebuilt.rename, Rebuilt.recast, Value.renameEntry_eq, Issue.rename_eq]

theorem Issue.report_rename (issues : List (Issue Live)) :
    Issue.report (issues.map (Issue.rename ρ)) = Issue.report issues := by
  rw [rename_eq, report_recast]

/-- The path one step down. -/
theorem child_rename (path : Path Live) (segment : Datum) :
    (path ++ [segment]).map (Value.rename ρ) =
      path.map (Value.rename ρ) ++ [segment.rename ρ] := by
  rw [Value.rename_eq, child_recast]

namespace Parsed

@[simp] theorem isClean_rename (r : Parsed) : (r.rename ρ).isClean = r.isClean := by
  rw [rename_eq, isClean_recast]

theorem anyInvalid_rename (rs : List Parsed) : anyInvalid (rs.map (rename ρ)) = anyInvalid rs := by
  rw [rename_eq, anyInvalid_recast]

theorem values_rename (rs : List Parsed) :
    values (rs.map (rename ρ)) = (values rs).map (Value.rename ρ) := by
  rw [rename_eq, Value.rename_eq, values_recast]

theorem allIssues_rename (rs : List Parsed) :
    allIssues (rs.map (rename ρ)) = (allIssues rs).map (Issue.rename ρ) := by
  rw [rename_eq, Issue.rename_eq, allIssues_recast]

end Parsed

variable (path : Path Live)

theorem wrongContainer_rename (expected : String) (v : Datum) :
    wrongContainer (path.map (Value.rename ρ)) expected (v.rename ρ) =
      (wrongContainer path expected v).rename ρ := by
  rw [Value.rename_eq, Parsed.rename_eq, wrongContainer_recast]

theorem wrongAwaitable_rename (v : Datum) :
    wrongAwaitable (path.map (Value.rename ρ)) (v.rename ρ) = (wrongAwaitable path v).rename ρ := by
  rw [Value.rename_eq, Parsed.rename_eq, wrongAwaitable_recast]

/-! ## Leaves -/

theorem lengthIssues_rename (owner noun : String) {lengths : Lengths Live}
    (hl : lengths.least.rename ρ = lengths.least) (hm : lengths.most.rename ρ = lengths.most)
    (size : Nat) :
    lengthIssues (path.map (Value.rename ρ)) owner noun lengths size =
      List.map (Issue.rename ρ) <$> lengthIssues path owner noun lengths size := by
  have fixed : lengths.recast ρ id = lengths := by
    rw [Lengths.recast, ← Value.rename_eq, hl, hm]
  rw [Value.rename_eq, Issue.rename_eq, ← lengthIssues_recast, fixed]

theorem parseString_rename {lengths : Lengths Live} (hl : lengths.least.rename ρ = lengths.least)
    (hm : lengths.most.rename ρ = lengths.most) (pattern : Option WrittenPattern) (v : Datum) :
    parseString lengths pattern (path.map (Value.rename ρ)) (v.rename ρ) =
      Parsed.rename ρ <$> parseString lengths pattern path v := by
  have fixed : lengths.recast ρ id = lengths := by
    rw [Lengths.recast, ← Value.rename_eq, hl, hm]
  rw [Value.rename_eq, Parsed.rename_eq, ← parseString_recast, fixed]

/-- The bounds are the same under another name. -/
structure Bounds.Fixed (ρ : Nat → Nat) (bounds : Bounds Live) : Prop where
  above : bounds.above.rename ρ = bounds.above
  atLeast : bounds.atLeast.rename ρ = bounds.atLeast
  below : bounds.below.rename ρ = bounds.below
  atMost : bounds.atMost.rename ρ = bounds.atMost

theorem parseNumber_rename {bounds : Bounds Live} (h : bounds.Fixed ρ) (integer : Bool)
    (v : Datum) :
    parseNumber bounds integer (path.map (Value.rename ρ)) (v.rename ρ) =
      Parsed.rename ρ <$> parseNumber bounds integer path v := by
  have fixed : bounds.recast ρ id = bounds := by
    rw [Bounds.recast, ← Value.rename_eq, h.above, h.atLeast, h.below, h.atMost]
  rw [Value.rename_eq, Parsed.rename_eq, ← parseNumber_recast, fixed]

theorem parseBoolean_rename (v : Datum) :
    parseBoolean (path.map (Value.rename ρ)) (v.rename ρ) = (parseBoolean path v).rename ρ := by
  rw [Value.rename_eq, Parsed.rename_eq, parseBoolean_recast]

theorem parseNone_rename (v : Datum) :
    parseNone (path.map (Value.rename ρ)) (v.rename ρ) = (parseNone path v).rename ρ := by
  rw [Value.rename_eq, Parsed.rename_eq, parseNone_recast]

theorem parseNever_rename (v : Datum) :
    parseNever (path.map (Value.rename ρ)) (v.rename ρ) = (parseNever path v).rename ρ := by
  rw [Value.rename_eq, Parsed.rename_eq, parseNever_recast]

section

variable (hρ : Function.Injective ρ)

include hρ

theorem parseLiteral_rename {value : Datum} (h : value.rename ρ = value) (v : Datum) :
    parseLiteral value (path.map (Value.rename ρ)) (v.rename ρ) =
      (parseLiteral value path v).rename ρ := by
  rw [Value.rename_eq] at h ⊢
  rw [Parsed.rename_eq, ← parseLiteral_recast path hρ, h]

theorem parseEnum_rename {values : List Datum} (h : ∀ x ∈ values, x.rename ρ = x) (v : Datum) :
    parseEnum values (path.map (Value.rename ρ)) (v.rename ρ) =
      (parseEnum values path v).rename ρ := by
  have fixed : values.map (Value.rename ρ) = values := by simpa using List.map_congr_left h
  rw [Value.rename_eq] at fixed ⊢
  rw [Parsed.rename_eq, ← parseEnum_recast path hρ, fixed]

end

/-! ## Containers -/

theorem listItems?_rename (v : Datum) :
    (v.rename ρ).listItems? = v.listItems?.map (List.map (Value.rename ρ)) := by
  rw [Value.rename_eq, listItems?_recast]

theorem entries?_rename (v : Datum) :
    (v.rename ρ).entries? = v.entries?.map (List.map (Value.renameEntry ρ)) := by
  rw [Value.rename_eq, Value.renameEntry_eq, entries?_recast]

theorem sequence?_rename (v : Datum) :
    (v.rename ρ).sequence? = v.sequence?.map fun s => (s.1, s.2.map (Value.rename ρ)) := by
  rw [Value.rename_eq, sequence?_recast]

theorem setItems?_rename (v : Datum) :
    (v.rename ρ).setItems? = v.setItems?.map fun s => (s.1, s.2.map (Value.rename ρ)) := by
  rw [Value.rename_eq, setItems?_recast]

theorem sequenceResult_rename {ofItems : List Datum → Datum}
    (h : ∀ items, ofItems (items.map (Value.rename ρ)) = (ofItems items).rename ρ)
    (own : List (Issue Live)) (rs : List Parsed) :
    sequenceResult ofItems (own.map (Issue.rename ρ)) (rs.map (Parsed.rename ρ)) =
      (sequenceResult ofItems own rs).rename ρ := by
  rw [Value.rename_eq] at h
  rw [Issue.rename_eq, Parsed.rename_eq, sequenceResult_recast h]

theorem unionResult_rename (rs : List Parsed) :
    unionResult (path.map (Value.rename ρ)) (rs.map (Parsed.rename ρ)) =
      (unionResult path rs).rename ρ := by
  rw [Value.rename_eq, Parsed.rename_eq, unionResult_recast]

theorem tupleBound_rename (code : IssueCode) (bound detail : String) (count : Nat) :
    tupleBound (path.map (Value.rename ρ)) code bound detail count =
      (tupleBound path code bound detail count).rename ρ := by
  rw [Value.rename_eq, Parsed.rename_eq, tupleBound_recast]

/-- A table whose tags are the same under another name. -/
theorem recastTag_fixed {table : List (Datum × Nat)} (h : ∀ e ∈ table, e.1.rename ρ = e.1) :
    table.map (recastTag ρ id) = table := by
  have each : ∀ e ∈ table, recastTag ρ id e = e := by
    intro e he
    rw [recastTag, ← Value.rename_eq, h e he]
  simpa using List.map_congr_left each

theorem wrongTag_rename (key : String) {table : List (Datum × Nat)}
    (h : ∀ e ∈ table, e.1.rename ρ = e.1) :
    wrongTag (path.map (Value.rename ρ)) key table = (wrongTag path key table).rename ρ := by
  rw [Value.rename_eq, Parsed.rename_eq, ← wrongTag_recast, recastTag_fixed h]

theorem closedObject_rename (policy : UnknownKeys) (fields : List (String × Parsed))
    (extra : Entries Live) :
    closedObject (path.map (Value.rename ρ)) policy (fields.map (renameNamed ρ))
      (extra.map (Value.renameEntry ρ)) = (closedObject path policy fields extra).rename ρ := by
  rw [Value.rename_eq, renameNamed_eq, Value.renameEntry_eq, Parsed.rename_eq, closedObject_recast]

theorem openObject_rename (fields : List (String × Parsed)) (extra : List (Datum × Parsed)) :
    openObject (fields.map (renameNamed ρ)) (extra.map (renameKeyed ρ)) =
      (openObject fields extra).rename ρ := by
  rw [renameNamed_eq, renameKeyed_eq, Parsed.rename_eq, openObject_recast]

theorem Rebuilt.parsed_rename (b : Rebuilt) : (b.rename ρ).parsed = b.parsed.rename ρ := by
  rw [rename_eq, Parsed.rename_eq, parsed_recast]

section

variable (hρ : Function.Injective ρ)

include hρ

theorem valueAt_rename (entries : Entries Live) (key : String) :
    valueAt (entries.map (Value.renameEntry ρ)) key = (valueAt entries key).rename ρ := by
  rw [Value.renameEntry_eq, Value.rename_eq, valueAt_recast hρ]

theorem extraEntries_rename (shape : List (String × Schema)) (entries : Entries Live) :
    extraEntries shape (entries.map (Value.renameEntry ρ)) =
      (extraEntries shape entries).map (Value.renameEntry ρ) := by
  rw [Value.renameEntry_eq, extraEntries_recast hρ]

theorem optionAt?_rename {table : List (Datum × Nat)} (h : ∀ e ∈ table, e.1.rename ρ = e.1)
    (tag : Datum) : optionAt? table (tag.rename ρ) = optionAt? table tag := by
  have same := optionAt?_recast (σ := id) hρ table tag
  rwa [recastTag_fixed h, ← Value.rename_eq] at same

theorem intersectionResult_rename (l r : Parsed) :
    intersectionResult (path.map (Value.rename ρ)) (l.rename ρ) (r.rename ρ) =
      (intersectionResult path l r).rename ρ := by
  rw [Value.rename_eq, Parsed.rename_eq, intersectionResult_recast path hρ]

end

end TwoWay
