import TwoWay.Proofs.Parse.Leaf
import TwoWay.Proofs.Value.Keeping

/-!
# What results hold

A parse result keeps to an allowance (`Parsed.Keeps`) if its output does, if an output that
could not be produced is excused by an issue, and if the issues are below the path of the
parse. The lemmas here are about putting results together, one for each kind of container.
-/

namespace TwoWay

variable {a : Allowance} {path : Path Live} {absent : Prop}

/-- A value that keeps to an allowance, or the absence of one. -/
def Value.KeepsOr (a : Allowance) (absent : Prop) (v : Datum) : Prop :=
  v.Keeps a ∨ absent ∧ v = .missing

namespace Value.KeepsOr

variable {v : Datum}

theorem self (h : v.KeepsOr a True) : v.KeepsOr a (v = .missing) :=
  h.imp_right fun h => ⟨h.2, h.2⟩

theorem weaken {other : Prop} (h : v.KeepsOr a absent) (ha : absent → other) :
    v.KeepsOr a other := h.imp_right fun h => ⟨ha h.1, h.2⟩

theorem present (h : v.KeepsOr a absent) (hv : v.isMissing = false) : v.Keeps a := by
  rcases h with h | ⟨-, rfl⟩
  · exact h
  · cases hv

/-- What stands for a value that keeps to the allowance keeps to it as well. -/
theorem of_keeps {x : Datum} (h : x.KeepsOr a (v = .missing)) (hv : v.Keeps a) : x.Keeps a :=
  h.elim id fun h => h.2 ▸ h.1 ▸ hv

end Value.KeepsOr

/-- Issues are below a path, unless awaitables of effects may report elsewhere. -/
def Located (a : Allowance) (path : Path Live) (issues : List (Issue Live)) : Prop :=
  (∀ fn, ¬a.effects fn) → ∀ i ∈ issues, i.Below path

/-- There is an issue, or nothing has to be excused. -/
def Excused (a : Allowance) (issues : List (Issue Live)) : Prop := a.sentinels ∨ issues ≠ []

section
variable {first second : List (Issue Live)}

theorem Located.nil : Located a path [] := fun _ => nofun

theorem Located.anywhere {fn : FunctionRef} (h : a.effects fn) : Located a path first :=
  fun hn => absurd h (hn fn)

theorem Located.append (h : Located a path first) (h' : Located a path second) :
    Located a path (first ++ second) :=
  fun he => List.forall_mem_append.2 ⟨h he, h' he⟩

theorem Located.of_at (h : ∀ i ∈ first, i.At path) : Located a path first :=
  fun _ i hi => (h i hi).below

theorem Located.of_below (h : ∀ i ∈ first, i.Below path) : Located a path first := fun _ => h

theorem Located.of_append {below : Path Live} (h : Located a (path ++ below) first) :
    Located a path first := fun he i hi => (h he i hi).of_append

theorem Excused.append_left (h : Excused a first) : Excused a (first ++ second) :=
  h.imp_right fun h hn => h (List.append_eq_nil_iff.1 hn).1

theorem Excused.append_right (h : Excused a second) : Excused a (first ++ second) :=
  h.imp_right fun h hn => h (List.append_eq_nil_iff.1 hn).2

end

/-- A result that keeps to an allowance. Its output is missing only if `absent` holds. -/
structure Parsed.Keeps (a : Allowance) (path : Path Live) (absent : Prop) (r : Parsed) : Prop where
  value : r.value.KeepsOr a absent ∨ r.value = .invalid ∧ r.issues ≠ []
  issues : Located a path r.issues

namespace Parsed.Keeps

variable {r : Parsed} {v : Datum}

theorem weaken {other : Prop} (h : r.Keeps a path absent) (ha : absent → other) :
    r.Keeps a path other := ⟨h.value.imp_left (·.weaken ha), h.issues⟩

theorem of_append {below : Path Live} (h : r.Keeps a (path ++ below) absent) :
    r.Keeps a path absent := ⟨h.value, h.issues.of_append⟩

/-- The result for a value that keeps to the allowance has an output. -/
theorem of_keeps (h : r.Keeps a path (v = .missing)) (hv : v.Keeps a) : r.Keeps a path absent :=
  ⟨h.value.imp_left fun h => .inl (h.of_keeps hv), h.issues⟩

theorem given (h : v.KeepsOr a absent) : Parsed.Keeps a path absent ⟨v, []⟩ := ⟨.inl h, .nil⟩

theorem ofLeaf (h : r.OfLeaf path v) (hv : v.KeepsOr a absent) : r.Keeps a path absent :=
  ⟨h.value.imp_left fun h => by rwa [h], .of_at h.issues⟩

theorem refused {i : Issue Live} (h : i.At path) : (Parsed.refused i).Keeps a path absent :=
  ⟨.inr ⟨rfl, List.cons_ne_nil _ _⟩, .of_at (List.forall_mem_singleton.2 h)⟩

theorem wrongType (expected message : String) (received : Datum) :
    (wrongType path expected message received).Keeps a path absent :=
  refused ⟨rfl, by simp [Issue.Plain]⟩

/-- No output, which is excused. -/
theorem invalid {issues : List (Issue Live)} (he : Excused a issues)
    (hi : Located a path issues) : Parsed.Keeps a path absent ⟨.invalid, issues⟩ :=
  ⟨he.imp (fun h => .inl (.invalid h)) fun h => ⟨rfl, h⟩, hi⟩

theorem excused (h : r.Keeps a path absent) (hr : r.value.isInvalid) : Excused a r.issues := by
  rcases h.value with (h | h) | h
  · cases hv : r.value <;> simp only [hv, Value.isInvalid, Bool.false_eq_true] at hr h
    exact .inl (Value.keeps_invalid.1 h)
  · simp only [h.2, Value.isInvalid, Bool.false_eq_true] at hr
  · exact .inr h.2

theorem output (h : r.Keeps a path absent) (hr : r.value.isInvalid = false) :
    r.value.KeepsOr a absent :=
  h.value.resolve_right fun h => by simp [h.1, Value.isInvalid] at hr

end Parsed.Keeps

/-! ## Lists of results -/

section
variable {rs : List Parsed}

theorem located_allIssues (h : ∀ r ∈ rs, r.Keeps a path absent) :
    Located a path (Parsed.allIssues rs) := by
  intro he i hi
  obtain ⟨r, hr, hi⟩ := List.mem_flatMap.1 hi
  exact (h r hr).issues he i hi

theorem excused_of_anyInvalid (h : ∀ r ∈ rs, r.Keeps a path absent)
    (hr : Parsed.anyInvalid rs) : Excused a (Parsed.allIssues rs) := by
  obtain ⟨r, hr, hi⟩ := List.any_eq_true.1 hr
  refine ((h r hr).excused hi).imp_right fun hne hn => hne ?_
  exact List.flatMap_eq_nil_iff.1 hn r hr

theorem isInvalid_of_anyInvalid {r : Parsed} (h : Parsed.anyInvalid rs = false) (hr : r ∈ rs) :
    r.value.isInvalid = false := by
  simpa using List.any_eq_false.1 h r hr

theorem values_keep (h : ∀ r ∈ rs, r.Keeps a path False)
    (hr : Parsed.anyInvalid rs = false) : ∀ v ∈ Parsed.values rs, v.Keeps a := by
  intro v hv
  obtain ⟨r, hmem, rfl⟩ := List.mem_map.1 hv
  exact ((h r hmem).output (isInvalid_of_anyInvalid hr hmem)).resolve_right nofun

theorem sequenceResult_keeps {ofItems : List Datum → Datum} {own : List (Issue Live)}
    (ho : ∀ items, (∀ x ∈ items, x.Keeps a) → (ofItems items).Keeps a)
    (hown : Located a path own) (h : ∀ r ∈ rs, r.Keeps a path False) :
    (sequenceResult ofItems own rs).Keeps a path absent := by
  have located := hown.append (located_allIssues h)
  unfold sequenceResult
  split
  · exact .invalid (excused_of_anyInvalid h ‹_›).append_right located
  · exact ⟨.inl (.inl (ho _ (values_keep h (eq_false_of_ne_true ‹_›)))), located⟩

theorem requireEach_ensures {plans : Plans} (values : List Datum) :
    plans.Ensures (forIn values PUnit.unit fun v _ => do
      Run.requireHashable v
      pure (ForInStep.yield PUnit.unit)) fun _ => True := by
  induction values with
  | nil => exact .pure trivial
  | cons v rest ih =>
    rw [List.forIn_cons, bind_assoc]
    exact .andThen (.requireHashable v) fun _ => ih

theorem setResult_keeps {plans : Plans} {readOnly : Bool} (h : ∀ r ∈ rs, r.Keeps a path False) :
    plans.Ensures (setResult readOnly rs) fun r =>
      r.Keeps a path absent ∧ r.issues = Parsed.allIssues rs := by
  have located := located_allIssues h
  unfold setResult
  split
  · exact .pure ⟨.invalid (excused_of_anyInvalid h ‹_›) located, rfl⟩
  · have kept := values_keep h (eq_false_of_ne_true ‹_›)
    have items : ∀ x ∈ distinct (Parsed.values rs), x.Keeps a :=
      fun x hx => kept x (mem_of_mem_distinct hx)
    exact .andThen (requireEach_ensures _) fun _ =>
      .pure ⟨⟨.inl (.inl (.set items)), located⟩, rfl⟩

end

/-! ## Mappings -/

section
variable {fields : List (String × Parsed)} {extra : Entries Live} {issues : List (Issue Live)}

theorem fieldEntries_keep (h : ∀ f ∈ fields, f.2.Keeps a path True) :
    (fieldEntries fields).Keeps a := by
  intro e he
  obtain ⟨f, hf, he⟩ := List.mem_filterMap.1 he
  split at he
  · cases he
  · rename_i hv
    obtain rfl := Option.some.inj he
    simp only [Bool.or_eq_true, not_or, Bool.not_eq_true] at hv
    exact ⟨.str _, ((h f hf).output hv.1).present hv.2⟩

theorem objectResult_keeps {failed : Bool} (hf : ∀ f ∈ fields, f.2.Keeps a path True)
    (hi : Located a path issues) (hfailed : failed → Excused a issues)
    (he : failed = false → extra.Keeps a) :
    (objectResult fields extra issues failed).Keeps a path absent := by
  have hr : ∀ r ∈ fields.map (·.2), r.Keeps a path True := List.forall_mem_map.2 hf
  have located := (located_allIssues hr).append hi
  unfold objectResult
  dsimp only
  split
  · rename_i h
    refine .invalid ?_ located
    rcases Bool.or_eq_true_iff.1 h with h | h
    · exact (hfailed h).append_right
    · exact (excused_of_anyInvalid hr h).append_left
  · rename_i h
    simp only [Bool.or_eq_true, not_or, Bool.not_eq_true] at h
    exact ⟨.inl (.inl (Value.keeps_dict.2
      (List.forall_mem_append.2 ⟨fieldEntries_keep hf, he h.1⟩))), located⟩

theorem closedObject_keeps {policy : UnknownKeys} (hf : ∀ f ∈ fields, f.2.Keeps a path True)
    (he : extra.Keeps a) : (closedObject path policy fields extra).Keeps a path absent := by
  cases policy with
  | strip => exact objectResult_keeps hf .nil nofun fun _ => nofun
  | passthrough => exact objectResult_keeps hf .nil nofun fun _ => he
  | strict =>
    refine objectResult_keeps hf ?_ nofun fun _ => nofun
    split
    · exact .nil
    · exact .of_at (List.forall_mem_singleton.2 ⟨rfl, by simp [Issue.Plain, unrecognizedKeys]⟩)

theorem openObject_keeps {extra : List (Datum × Parsed)}
    (hf : ∀ f ∈ fields, f.2.Keeps a path True)
    (he : ∀ e ∈ extra, e.1.Keeps a ∧ e.2.Keeps a path False) :
    (openObject fields extra).Keeps a path absent := by
  have hr : ∀ r ∈ extra.map (·.2), r.Keeps a path False :=
    List.forall_mem_map.2 fun e h => (he e h).2
  refine objectResult_keeps hf (located_allIssues hr) (excused_of_anyInvalid hr) fun h => ?_
  refine List.forall_mem_map.2 fun e hmem => ⟨(he e hmem).1, ?_⟩
  have valid := isInvalid_of_anyInvalid h (List.mem_map.2 ⟨e, hmem, rfl⟩)
  exact ((he e hmem).2.output valid).resolve_right nofun

/-- The state of a mapping that is rebuilt from what keeps to an allowance. -/
structure Rebuilt.Keeps (a : Allowance) (path : Path Live) (b : Rebuilt) : Prop where
  entries : b.entries.Keeps a
  excused : b.failed → Excused a b.issues
  issues : Located a path b.issues

theorem Rebuilt.Keeps.empty : Rebuilt.Keeps a path {} := ⟨nofun, nofun, .nil⟩

theorem Rebuilt.Keeps.add {plans : Plans} {b : Rebuilt} (h : b.Keeps a path) {key value : Parsed}
    (hk : key.Keeps a path False) (hv : value.Keeps a path False) :
    plans.Ensures (b.add key value) fun b' =>
      b'.Keeps a path ∧ b'.issues = b.issues ++ key.issues ++ value.issues := by
  have located := (h.issues.append hk.issues).append hv.issues
  unfold Rebuilt.add
  split
  · rename_i hi
    refine .pure ⟨⟨h.entries, fun _ => ?_, located⟩, rfl⟩
    rcases Bool.or_eq_true_iff.1 hi with hi | hi
    · exact (hk.excused hi).append_right.append_left
    · exact (hv.excused hi).append_right
  · rename_i hi
    simp only [Bool.or_eq_true, not_or, Bool.not_eq_true] at hi
    have hkey := (hk.output hi.1).resolve_right nofun
    have hvalue := (hv.output hi.2).resolve_right nofun
    exact .andThen (.requireHashable _) fun _ => .pure
      ⟨⟨h.entries.put hkey hvalue, fun hf => (h.excused hf).append_left.append_left, located⟩, rfl⟩

theorem Rebuilt.Keeps.parsed {b : Rebuilt} (h : b.Keeps a path) : b.parsed.Keeps a path absent := by
  unfold Rebuilt.parsed
  split
  · exact .invalid (h.excused ‹_›) h.issues
  · exact ⟨.inl (.inl (Value.keeps_dict.2 h.entries)), h.issues⟩

end

/-! ## Alternatives -/

theorem unionResult_keeps {tried : List Parsed} (h : ∀ r ∈ tried, r.Keeps a path absent) :
    (unionResult path tried).Keeps a path absent := by
  unfold unionResult
  split
  · exact h _ (List.mem_of_find?_eq_some ‹_›)
  · refine ⟨.inr ⟨rfl, List.cons_ne_nil _ _⟩, fun he => List.forall_mem_singleton.2 ?_⟩
    refine .intro (List.prefix_refl _) fun name lists hd list hl j hj => ?_
    simp only [List.mem_singleton, Prod.mk.injEq, Detail.branches.injEq] at hd
    obtain ⟨r, hr, rfl⟩ := List.mem_map.1 (hd.2 ▸ hl)
    exact (h r hr).issues he j hj

theorem wrongTag_keeps (key : String) (table : List (Datum × Nat)) :
    (wrongTag path key table).Keeps a path absent := by
  refine ⟨.inr ⟨rfl, List.cons_ne_nil _ _⟩, fun _ => List.forall_mem_singleton.2 ?_⟩
  exact .of_plain (List.prefix_append _ _) (by simp [Issue.Plain])

theorem merge_missing {v z : Datum} (h : merge v .missing = some z) : z = v := by
  unfold merge at h
  split at h
  · split at h
    · exact (Option.some.inj h).symm
    · cases h
  · split at h
    · exact (Option.some.inj h).symm
    · cases h
  · split at h
    · exact (Option.some.inj h).symm
    · cases h

theorem missing_merge {v z : Datum} (h : merge .missing v = some z) : z = .missing := by
  unfold merge at h
  split at h
  · exact (Option.some.inj h).symm
  · cases h

theorem merge_keepsOr {v w z : Datum} (h : merge v w = some z) (hv : v.KeepsOr a absent)
    (hw : w.KeepsOr a absent) : z.KeepsOr a absent := by
  rcases hv with hv | ⟨habsent, rfl⟩
  · rcases hw with hw | ⟨-, rfl⟩
    · exact .inl (merge_keeps h hv hw)
    · exact .inl (merge_missing h ▸ hv)
  · exact .inr ⟨habsent, missing_merge h⟩

theorem intersectionResult_keeps {l r : Parsed} {v : Datum} (hl : l.Keeps a path (v = .missing))
    (hr : r.Keeps a path (v = .missing)) :
    (intersectionResult path l r).Keeps a path (v = .missing) := by
  have located := hl.issues.append hr.issues
  unfold intersectionResult
  split
  · rename_i h
    refine .invalid ?_ located
    rcases Bool.or_eq_true_iff.1 h with h | h
    · exact (hl.excused h).append_left
    · exact (hr.excused h).append_right
  · rename_i h
    simp only [Bool.or_eq_true, not_or, Bool.not_eq_true] at h
    split
    · exact ⟨.inl (merge_keepsOr ‹_› (hl.output h.1) (hr.output h.2)), located⟩
    · refine .invalid (.inr (by simp)) (located.append (.of_at ?_))
      exact List.forall_mem_singleton.2 ⟨rfl, nofun⟩

end TwoWay
