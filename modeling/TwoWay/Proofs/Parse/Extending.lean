import TwoWay.Proofs.Parse.Trimming
import TwoWay.Proofs.Value.Merging
import TwoWay.Schema.Method

/-!
# Intersecting and extending

Where two objects declare no key in common, one extended by the fields of the other reads a mapping
as their intersection does (`Library.intersecting_extends`): what they give out has no key in
common either, so that merging puts the entries of one after those of the other.
-/

namespace TwoWay

/-! ## Shapes -/

namespace Schema

variable {shape fields : List (String × Schema)}

theorem putField_fresh {key : String} {s : Schema} (fresh : ∀ f ∈ shape, f.1 ≠ key) :
    putField shape key s = shape ++ [(key, s)] := by
  induction shape with
  | nil => rfl
  | cons f rest ih =>
    obtain ⟨first, others⟩ := List.forall_mem_cons.1 fresh
    rw [putField, if_neg first, ih others]
    rfl

theorem putFields_fresh (names : (fields.map (·.1)).Nodup)
    (fresh : ∀ f ∈ shape, ∀ g ∈ fields, f.1 ≠ g.1) : putFields shape fields = shape ++ fields := by
  induction fields generalizing shape with
  | nil => exact (List.append_nil _).symm
  | cons g rest ih =>
    obtain ⟨alone, names⟩ := List.nodup_cons.1 names
    have put : putField shape g.1 g.2 = shape ++ [g] :=
      putField_fresh fun f hf => fresh f hf g List.mem_cons_self
    have others : ∀ f ∈ shape ++ [g], ∀ h ∈ rest, f.1 ≠ h.1 := by
      intro f hf h hh
      rcases List.mem_append.1 hf with hf | hf
      · exact fresh f hf h (List.mem_cons_of_mem _ hh)
      · rw [List.mem_singleton.1 hf]
        exact fun same => alone (List.mem_map.2 ⟨h, hh, same.symm⟩)
    unfold putFields at ih ⊢
    rw [List.foldl_cons, put, ih names others, List.append_assoc, List.singleton_append]

end Schema

/-! ## Outputs -/

section
variable {xs ys : Entries Live}

theorem Value.eq_of_identical_str {v : Datum} {s : String} (h : v.identical (.str s)) :
    v = .str s := by
  cases v with
  | str t => simpa [Value.identical] using h
  | _ => cases h

theorem mergeEntries_apart (apart : ∀ e ∈ xs, ∀ f ∈ ys, e.1.agrees f.1 = false) :
    mergeEntries xs ys = some xs := by
  induction xs with
  | nil => rfl
  | cons e xs ih =>
    obtain ⟨first, others⟩ := List.forall_mem_cons.1 apart
    have absent : ys.find? (fun f => e.1.agrees f.1) = none :=
      List.find?_eq_none.2 fun f hf => by simp [first f hf]
    rw [Value.mergeEntries_cons, Value.mergedUnder, absent, ih others]
    rfl

/-- Mappings without a common key are put one after the other. -/
theorem merge_apart (named : ∀ f ∈ ys, ∃ key, f.1 = .str key)
    (apart : ∀ e ∈ xs, ∀ f ∈ ys, e.1 ≠ f.1) :
    merge (.dict .free xs) (.dict .free ys) = some (.dict .free (xs ++ ys)) := by
  have differ : ∀ e ∈ xs, ∀ f ∈ ys, e.1.agrees f.1 = false := by
    intro e he f hf
    obtain ⟨key, same⟩ := named f hf
    by_contra agree
    rw [Bool.not_eq_false, same, agrees_str, ← same] at agree
    exact apart e he f hf agree
  unfold merge
  cases same : (Value.dict .free xs).identical (.dict .free ys) with
  | true =>
    -- Two mappings that cannot be told apart have a common key, unless there are no entries.
    rw [Value.identical, Bool.and_eq_true] at same
    have alike := same.2
    cases xs with
    | nil =>
      cases ys with
      | nil => rfl
      | cons f ys => cases alike
    | cons e xs =>
      cases ys with
      | nil => cases alike
      | cons f ys =>
        obtain ⟨key, hf⟩ := named f List.mem_cons_self
        simp only [Value.identicalEntries, Bool.and_eq_true] at alike
        have common : e.1 = f.1 := hf ▸ Value.eq_of_identical_str (hf ▸ alike.1.1)
        exact absurd common (apart e List.mem_cons_self f List.mem_cons_self)
  | false =>
    have kept : (ys.filter fun f => !xs.any fun e => e.1.agrees f.1) = ys := by
      refine List.filter_eq_self.2 fun f hf => ?_
      rw [List.any_eq_false.2 fun e he => by simp [differ e he f hf], Bool.not_false]
    simp only [Bool.false_eq_true, if_false, mergeEntries_apart differ, Option.map_some, kept]

end

theorem fieldEntries_append (fs gs : List (String × Parsed)) :
    fieldEntries (fs ++ gs) = fieldEntries fs ++ fieldEntries gs := List.filterMap_append

/-- The results of two objects that strip other keys and have no field in common meet in that of
an object with the fields of both. -/
theorem intersectionResult_objects (path : Path Live) {fs gs : List (String × Parsed)}
    (apart : ∀ f ∈ fs, ∀ g ∈ gs, f.1 ≠ g.1) :
    intersectionResult path (objectResult fs [] [] false) (objectResult gs [] [] false) =
      objectResult (fs ++ gs) [] [] false := by
  have entries : ∀ e ∈ fieldEntries fs, ∀ f ∈ fieldEntries gs, e.1 ≠ f.1 := by
    intro e he f hf
    obtain ⟨g, hg, -, -, rfl⟩ := mem_fieldEntries.1 he
    obtain ⟨h, hh, -, -, rfl⟩ := mem_fieldEntries.1 hf
    exact fun same => apart g hg h hh (Value.str.inj same)
  have named : ∀ f ∈ fieldEntries gs, ∃ key, f.1 = .str key := by
    intro f hf
    obtain ⟨h, -, -, -, rfl⟩ := mem_fieldEntries.1 hf
    exact ⟨h.1, rfl⟩
  have issues : Parsed.allIssues ((fs ++ gs).map (·.2)) =
      Parsed.allIssues (fs.map (·.2)) ++ Parsed.allIssues (gs.map (·.2)) := by
    rw [List.map_append]
    exact List.flatMap_append
  have invalid : Parsed.anyInvalid ((fs ++ gs).map (·.2)) =
      (Parsed.anyInvalid (fs.map (·.2)) || Parsed.anyInvalid (gs.map (·.2))) := by
    rw [List.map_append]
    exact List.any_append
  simp only [objectResult_eq, Bool.false_or, List.append_nil, issues, invalid, fieldEntries_append]
  unfold intersectionResult
  cases Parsed.anyInvalid (fs.map (·.2)) with
  | true => rfl
  | false =>
    cases Parsed.anyInvalid (gs.map (·.2)) with
    | true => rfl
    | false =>
      have merged := merge_apart named entries
      simp only [Bool.false_eq_true, if_false, Bool.or_self, Value.isInvalid, merged]

/-! ## Runs -/

/-- What follows a run matters only for how the run can end. -/
theorem bind_eq_of_ok {σ α β : Type} {m : EStateM Failure σ α} {k k' : α → EStateM Failure σ β}
    (h : ∀ c a c', m c = .ok a c' → k a c' = k' a c') (c : σ) : (m >>= k) c = (m >>= k') c := by
  simp only [bind, EStateM.bind]
  cases run : m c with
  | ok a c' => exact h c a c' run
  | error f c' => rfl

section
variable {first second : List (String × Schema)} {path : Path Live} {entries : Entries Live}

theorem runFields_append (links : Links) :
    runFields links (first ++ second) path entries = (do
      let fs ← runFields links first path entries
      let gs ← runFields links second path entries
      return fs ++ gs) := by
  induction first with
  | nil => simp [runFields]
  | cons f first ih => simp [runFields, ih]

theorem fieldsIn_append (ch : Channel) :
    fieldsIn ch (first ++ second) path entries = (do
      let xs ← fieldsIn ch first path entries
      let ys ← fieldsIn ch second path entries
      return xs ++ ys) := by
  induction first with
  | nil => simp [fieldsIn]
  | cons f first ih => simp [fieldsIn, ih]

theorem fieldsIn_names {ch : Channel} {xs : List (String × Datum)}
    {c c' : World × List (Issue Live)} (h : fieldsIn ch first path entries c = .ok xs c') :
    xs.map (·.1) = first.map (·.1) := by
  induction first generalizing xs c with
  | nil =>
    cases h
    rfl
  | cons field rest ih =>
    simp only [fieldsIn, bind, EStateM.bind] at h
    cases parsed : field.2.parseIn ch (path ++ [.str field.1]) (valueAt entries field.1) c with
    | error f u =>
      rw [parsed] at h
      cases h
    | ok x u =>
      rw [parsed] at h
      dsimp only at h
      cases others : fieldsIn ch rest path entries u with
      | error f u' =>
        rw [others] at h
        cases h
      | ok xs u' =>
        rw [others] at h
        cases h
        exact congrArg (field.1 :: ·) (ih others)

/-- Outputs of fields whose issues are reported already. -/
def settledFields (xs : List (String × Datum)) : List (String × Parsed) :=
  xs.map fun f => (f.1, ⟨f.2, []⟩)

theorem settledFields_names (xs : List (String × Datum)) :
    (settledFields xs).map (·.1) = xs.map (·.1) := by
  simp [settledFields]

/-- Nothing is left to report where the fields have been reported. -/
theorem settledFields_result (xs : List (String × Datum)) :
    (⟨(objectResult (settledFields xs) [] [] false).value, []⟩ : Parsed) =
      objectResult (settledFields xs) [] [] false := by
  have quiet : Parsed.allIssues ((settledFields xs).map (·.2)) = [] := by
    refine List.flatMap_eq_nil_iff.2 fun r hr => ?_
    simp only [settledFields, List.map_map, List.mem_map] at hr
    obtain ⟨x, -, rfl⟩ := hr
    rfl
  rw [objectResult_eq, quiet]
  rfl

theorem settle_fields (xs : List (String × Datum)) :
    Reporting.settle (objectResult (settledFields xs) [] [] false) =
      pure (objectResult (settledFields xs) [] [] false).value := by
  rw [← settledFields_result]
  funext c
  change (pure _ : Reporting Datum) (c.1, c.2 ++ []) = _
  rw [List.append_nil]

/-- An object that strips other keys reports what its fields report. -/
theorem parseIn_stripping (ch : Channel) (shape : List (String × Schema)) (access : Access) :
    (Schema.object shape none .strip).parseIn ch path (.dict access entries) = (do
      let xs ← fieldsIn ch shape path entries
      Reporting.settle (objectResult (settledFields xs) [] [] false)) := rfl

variable (apart : ∀ f ∈ first, ∀ g ∈ second, f.1 ≠ g.1)
include apart

theorem apart_of_names {α β : Type} {xs : List (String × α)} {ys : List (String × β)}
    (hx : xs.map (·.1) = first.map (·.1)) (hy : ys.map (·.1) = second.map (·.1)) :
    ∀ x ∈ xs, ∀ y ∈ ys, x.1 ≠ y.1 := by
  intro x hx' y hy' same
  obtain ⟨f, hf, named⟩ := List.mem_map.1 (hx ▸ List.mem_map_of_mem hx')
  obtain ⟨g, hg, named'⟩ := List.mem_map.1 (hy ▸ List.mem_map_of_mem hy')
  exact apart f hf g hg (named.trans (same.trans named'.symm))

theorem intersection_runs (links : Links) (access : Access) :
    (Schema.intersection (.object first none .strip) (.object second none .strip)).runWith links
        path (.dict access entries) =
      (Schema.object (first ++ second) none .strip).runWith links path (.dict access entries) := by
  have both : (Schema.intersection (.object first none .strip) (.object second none .strip)).runWith
      links path (.dict access entries) = (do
        let fs ← runFields links first path entries
        let gs ← runFields links second path entries
        return intersectionResult path (objectResult fs [] [] false)
          (objectResult gs [] [] false)) := by
    simp only [Schema.runWith, Value.entries?, closedObject, bind_assoc, pure_bind]
  have extended : (Schema.object (first ++ second) none .strip).runWith links path
      (.dict access entries) = (do
        let fs ← runFields links first path entries
        let gs ← runFields links second path entries
        return objectResult (fs ++ gs) [] [] false) := by
    simp only [Schema.runWith, Value.entries?, closedObject, runFields_append, bind_assoc,
      pure_bind]
  rw [both, extended]
  funext w
  refine bind_eq_of_ok (fun w fs u ofFirst => bind_eq_of_ok (fun u gs w' ofSecond => ?_) u) w
  have names := apart_of_names apart (runFields_names ofFirst) (runFields_names ofSecond)
  rw [intersectionResult_objects path names]

theorem intersection_parses (ch : Channel) (access : Access) :
    (Schema.intersection (.object first none .strip) (.object second none .strip)).parseIn ch
        path (.dict access entries) =
      (Schema.object (first ++ second) none .strip).parseIn ch path (.dict access entries) := by
  have both : (Schema.intersection (.object first none .strip) (.object second none .strip)).parseIn
      ch path (.dict access entries) = (do
        let xs ← fieldsIn ch first path entries
        let ys ← fieldsIn ch second path entries
        Reporting.settle (intersectionResult path (objectResult (settledFields xs) [] [] false)
          (objectResult (settledFields ys) [] [] false))) := by
    change (do
      let l ← (Schema.object first none .strip).parseIn ch path (.dict access entries)
      let r ← (Schema.object second none .strip).parseIn ch path (.dict access entries)
      Reporting.settle (intersectionResult path ⟨l, []⟩ ⟨r, []⟩)) = _
    simp only [parseIn_stripping, bind_assoc, settle_fields, pure_bind, settledFields_result]
  have extended : (Schema.object (first ++ second) none .strip).parseIn ch path
      (.dict access entries) = (do
        let xs ← fieldsIn ch first path entries
        let ys ← fieldsIn ch second path entries
        Reporting.settle (objectResult (settledFields xs ++ settledFields ys) [] [] false)) := by
    simp only [parseIn_stripping, fieldsIn_append, bind_assoc, pure_bind, settledFields,
      List.map_append]
  rw [both, extended]
  funext c
  refine bind_eq_of_ok (fun c xs u ofFirst => bind_eq_of_ok (fun u ys c' ofSecond => ?_) u) c
  have ofFirst := (settledFields_names xs).trans (fieldsIn_names ofFirst)
  have ofSecond := (settledFields_names ys).trans (fieldsIn_names ofSecond)
  rw [intersectionResult_objects path (apart_of_names apart ofFirst ofSecond)]

end

/-- Where two objects that strip other keys have no field in common, one extended by the fields of
the other does what both of them do together, on every mapping and in every context. It runs the
same fields in the same order and so calls the same user functions, reports the same issues, and
gives the same output or none, or fails alike. -/
theorem Library.intersecting_extends (lib : Library) (mode : Mode) (depth : Nat) (maker : Maker)
    {first second : List (String × Schema)} (names : (second.map (·.1)).Nodup)
    (apart : ∀ f ∈ first, ∀ g ∈ second, f.1 ≠ g.1) :
    let both : Schema := .intersection (.object first none .strip) (.object second none .strip)
    let extended : Schema := .object (first ++ second) none .strip
    (Schema.object first none .strip).call maker (.and (.object second none .strip)) =
      (pure both : Make Schema) ∧
    (Schema.object first none .strip).call maker (.extend second) =
      (pure extended : Make Schema) ∧
    ∀ path access entries,
      both.runWith (lib.links mode depth) path (.dict access entries) =
        extended.runWith (lib.links mode depth) path (.dict access entries) ∧
      both.parseIn (lib.channel mode depth) path (.dict access entries) =
        extended.parseIn (lib.channel mode depth) path (.dict access entries) := by
  intro both extended
  refine ⟨rfl, ?_, fun path access entries => ?_⟩
  · change (pure (.object (Schema.putFields first second) none .strip) : Make Schema) = _
    rw [Schema.putFields_fresh names apart]
  · exact ⟨intersection_runs apart _ access, intersection_parses apart _ access⟩

namespace Chain

def counted : List (String × Schema) := [("count", .number {} false)]

def named : List (String × Schema) := [("note", .optional .any), ("name", .any)]

def sized : Entries Live := [(.str "name", .str "a"), (.str "count", .str "two")]

/-- There is no note, and the count is no number. Both together report that once, as the object
with all fields does. -/
theorem count_refused :
    (named.map (·.1)).Nodup ∧ (∀ f ∈ counted, ∀ g ∈ named, f.1 ≠ g.1) ∧
    (Schema.intersection (.object counted none .strip) (.object named none .strip)).runWith
        (library.links .sync 0) [] (.dict .free sized) {} =
      .ok (.refused ⟨.invalidType, "Input should be a valid integer", [.str "count"],
        [("expected", .value (.str "number")), ("received", .value (.str "str"))]⟩) {} := by
  have names : (named.map (·.1)).Nodup := by decide
  have apart : ∀ f ∈ counted, ∀ g ∈ named, f.1 ≠ g.1 := by simp [counted, named]
  have same := library.intersecting_extends .sync 0 (library.plans.maker 0 0) names apart
  refine ⟨names, apart, ?_⟩
  rw [(same.2.2 [] .free sized).1]
  rfl

end Chain
end TwoWay
