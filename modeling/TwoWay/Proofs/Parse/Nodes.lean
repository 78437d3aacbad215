import TwoWay.Proofs.Parse.Tracking
import TwoWay.Proofs.Parse.Whole
import TwoWay.Proofs.Schema.Parts

/-!
# Every node in a context

`Schema.parseIn_tracks` goes through the kinds of nodes: in a context each of them ends as it
does when it hands its issues over, and what it gives keeps to an allowance. The lemmas before
it are about the lists of values and of schemas that nodes go through. The schemas of the
allowance have to be closed under parts, those behind lazy nodes included.
-/

namespace TwoWay

open Reporting

/-- The values that a node may put in the place of others. -/
def Schema.supplied : Schema → List Datum
  | .default _ (.value v) | .catch _ (.value v) => [v]
  | _ => []

/-- The schemas of an allowance are closed under parts and supply what is allowed. -/
structure Allowance.Closed (a : Allowance) (plans : Plans) : Prop where
  child : ∀ {s c}, a.schemas s → c ∈ s.children → a.schemas c
  behind : ∀ {id origin s}, a.schemas (.lazy id origin) → plans.Gives id origin s → a.schemas s
  supplied : ∀ {s v}, a.schemas s → v ∈ s.supplied → v.Keeps a

/-- In a context a run tracks a parse whose result keeps to an allowance. -/
abbrev TracksParse (plans : Plans) (a : Allowance) (path : Path Live) (pre : List (Issue Live))
    (m : Reporting Datum) (r : Run Parsed) (absent : Prop) : Prop :=
  Tracks plans a path pre m r Parsed.value (fun r => pre ++ r.issues) (·.Keeps a path absent)

/-- The result of an effect keeps to an allowance. It has an output, with issues or without. -/
def Parsed.Delivers (a : Allowance) (path : Path Live) (absent : Prop) (r : Parsed) : Prop :=
  r.value.KeepsOr a absent ∧ Located a path r.issues

variable (plans : Plans) (a : Allowance) (ch : Channel)

/-- What a node needs beyond its tree is the same in a context, and keeps to an allowance. -/
structure Channel.Follows : Prop where
  act : ∀ action path v, v.KeepsOr a True →
    Tracks plans a path [] (ch.act action path v) (ch.links.act action path v) Parsed.value
      Parsed.issues (·.Delivers a path (v = .missing))
  factory : ∀ fn, plans.Ensures (ch.links.supply (.factory fn)) (·.Keeps a)
  rescue : ∀ issues fn, plans.Ensures (ch.links.rescue issues (.factory fn)) (·.Keeps a)
  enter : ∀ id origin path v, a.schemas (.lazy id origin) → v.KeepsOr a True →
    TracksParse plans a path [] (ch.enter id origin path v) (ch.links.enter id origin path v)
      (v = .missing)

/-- A schema parses in a context as it does without, and its results keep to an allowance. -/
def Schema.Follows (s : Schema) : Prop :=
  ∀ path v, v.KeepsOr a True →
    TracksParse plans a path [] (s.parseIn ch path v) (s.runWith ch.links path v) (v = .missing)

variable {plans a ch} {path : Path Live} {pre : List (Issue Live)}

/-- What had been reported before a parse stays in front. -/
theorem TracksParse.after {m : Reporting Datum} {r : Run Parsed} {absent : Prop}
    (h : TracksParse plans a path [] m r absent) (hp : Located a path pre) :
    TracksParse plans a path pre m r absent := Tracks.after h hp

/-- A schema gives an output for every value that keeps to the allowance. -/
theorem Schema.Follows.present {s : Schema} (h : s.Follows plans a ch) (path : Path Live)
    {v : Datum} (hv : v.Keeps a) :
    TracksParse plans a path [] (s.parseIn ch path v) (s.runWith ch.links path v) False :=
  Tracks.weaken (h path v (.inl hv)) fun _ hr => hr.of_keeps hv

/-! ## Lists of values -/

theorem itemsIn_tracks {m : Path Live → Datum → Reporting Datum}
    {r : Path Live → Datum → Run Parsed} {items : List Datum} (i : Nat) (hp : Located a path pre)
    (h : ∀ p, ∀ x ∈ items, TracksParse plans a p [] (m p x) (r p x) False) :
    Tracks plans a path pre (itemsIn m path i items) (runItems r path i items) Parsed.values
      (fun rs => pre ++ Parsed.allIssues rs) (fun rs => ∀ r ∈ rs, r.Keeps a path False) := by
  induction items generalizing i pre with
  | nil => exact .pure nofun rfl (List.append_nil _).symm
  | cons x rest ih =>
    have first := Tracks.of_append (h (path ++ [.int i]) x (List.mem_cons_self ..))
    refine .bind (first.after hp) fun b hb => ?_
    have hp' := hp.append hb.issues.of_append
    refine .bind (ih (i + 1) hp' fun p y hy => h p y (List.mem_cons_of_mem _ hy)) fun rs hrs => ?_
    refine .pure (List.forall_mem_cons.2 ⟨hb.of_append, hrs⟩) rfl ?_
    simp [Parsed.allIssues]

/-- The entries that results stand for. -/
def entryOutputs (rs : List (Datum × Parsed)) : Entries Live := rs.map fun e => (e.1, e.2.value)

theorem valuesIn_tracks {m : Path Live → Datum → Reporting Datum}
    {r : Path Live → Datum → Run Parsed} {entries : Entries Live} (hp : Located a path pre)
    (he : entries.Keeps a)
    (h : ∀ p, ∀ e ∈ entries, TracksParse plans a p [] (m p e.2) (r p e.2) False) :
    Tracks plans a path pre (valuesIn m path entries) (runValues r path entries) entryOutputs
      (fun rs => pre ++ Parsed.allIssues (rs.map (·.2)))
      (fun rs => ∀ r ∈ rs, r.1.Keeps a ∧ r.2.Keeps a path False) := by
  induction entries generalizing pre with
  | nil => exact .pure nofun rfl (List.append_nil _).symm
  | cons e rest ih =>
    obtain ⟨he, hrest⟩ := List.forall_mem_cons.1 he
    have first := Tracks.of_append (h (path ++ [e.1]) e (List.mem_cons_self ..))
    refine .bind (first.after hp) fun b hb => ?_
    have hp' := hp.append hb.issues.of_append
    refine .bind (ih hp' hrest fun p e he => h p e (List.mem_cons_of_mem _ he)) fun rs hrs => ?_
    refine .pure (List.forall_mem_cons.2 ⟨⟨he.1, hb.of_append⟩, hrs⟩) rfl ?_
    simp [Parsed.allIssues]

/-- The result without its issues. -/
def Parsed.silenced (r : Parsed) : Parsed := ⟨r.value, []⟩

/-- The state of a mapping without the issues. -/
def Rebuilt.silenced (b : Rebuilt) : Rebuilt := { b with issues := [] }

theorem Rebuilt.add_silenced (b : Rebuilt) (key value : Parsed) :
    b.silenced.add key.silenced value.silenced = silenced <$> b.add key value := by
  simp only [Rebuilt.add, Parsed.silenced, silenced, List.append_nil]
  split
  · rfl
  · rw [map_bind]
    rfl

theorem Rebuilt.Keeps.add_tracks {b : Rebuilt} (hb : b.Keeps a path) {key value : Parsed}
    (hk : key.Keeps a path False) (hv : value.Keeps a path False)
    (hp : Located a path (pre ++ b.issues ++ key.issues ++ value.issues)) :
    Tracks plans a path (pre ++ b.issues ++ key.issues ++ value.issues)
      (silent (b.silenced.add key.silenced value.silenced)) (b.add key value) Rebuilt.silenced
      (fun b' => pre ++ b'.issues) (·.Keeps a path) := by
  rw [Rebuilt.add_silenced]
  have added := Tracks.silentMap (f := Rebuilt.silenced) (hb.add hk hv : plans.Ensures _ _) hp
  refine (added.congr (fun _ _ => rfl) fun b' hb' => ?_).weaken fun _ => And.left
  simp [hb'.2]

theorem entriesIn_tracks {key value : Path Live → Datum → Reporting Datum}
    {key' value' : Path Live → Datum → Run Parsed} {keyPath valuePath : Nat → Datum → Path Live}
    {entries : Entries Live} (i : Nat) {b : Rebuilt} (hp : Located a path pre) (hb : b.Keeps a path)
    (hk : ∀ p, ∀ e ∈ entries, TracksParse plans a p [] (key p e.1) (key' p e.1) False)
    (hv : ∀ p, ∀ e ∈ entries, TracksParse plans a p [] (value p e.2) (value' p e.2) False) :
    Tracks plans a path (pre ++ b.issues)
      (entriesIn key value (fun i k => path ++ keyPath i k) (fun i k => path ++ valuePath i k) i
        entries b.silenced)
      (runEntries key' value' (fun i k => path ++ keyPath i k) (fun i k => path ++ valuePath i k) i
        entries b) Rebuilt.silenced (fun b => pre ++ b.issues) (·.Keeps a path) := by
  induction entries generalizing i b with
  | nil => exact .pure hb rfl rfl
  | cons e rest ih =>
    have first := Tracks.of_append (hk (path ++ keyPath i e.1) e (List.mem_cons_self ..))
    have second := Tracks.of_append (hv (path ++ valuePath i e.1) e (List.mem_cons_self ..))
    have hp₁ := hp.append hb.issues
    refine .bind (first.after hp₁) fun k hkey => ?_
    have hp₂ := hp₁.append hkey.issues.of_append
    refine .bind (second.after hp₂) fun v hvalue => ?_
    have hp₃ := hp₂.append hvalue.issues.of_append
    refine .bind (hb.add_tracks hkey.of_append hvalue.of_append hp₃) fun b' hb' => ?_
    exact ih (i + 1) hb' (fun p e he => hk p e (List.mem_cons_of_mem _ he))
      fun p e he => hv p e (List.mem_cons_of_mem _ he)

section
variable (rs : List Parsed)

@[simp] theorem anyInvalid_silenced :
    Parsed.anyInvalid (rs.map Parsed.silenced) = Parsed.anyInvalid rs := by
  simp only [Parsed.anyInvalid, List.any_map]
  rfl

@[simp] theorem values_silenced : Parsed.values (rs.map Parsed.silenced) = Parsed.values rs := by
  simp only [Parsed.values, List.map_map]
  rfl

@[simp] theorem allIssues_silenced : Parsed.allIssues (rs.map Parsed.silenced) = [] := by
  simp [Parsed.allIssues, Parsed.silenced]

theorem setResult_silenced (readOnly : Bool) :
    setResult readOnly (rs.map Parsed.silenced) = Parsed.silenced <$> setResult readOnly rs := by
  simp only [setResult, anyInvalid_silenced, values_silenced, allIssues_silenced]
  split
  · rfl
  · rw [map_bind]
    rfl

theorem sequenceResult_value (ofItems : List Datum → Datum) (own : List (Issue Live)) :
    (sequenceResult ofItems own rs).value = sequenceOutput ofItems (Parsed.values rs) := by
  have same : (Parsed.values rs).any (·.isInvalid) = Parsed.anyInvalid rs := by
    simp only [Parsed.values, Parsed.anyInvalid, List.any_map]
    rfl
  unfold sequenceResult sequenceOutput
  rw [same]
  split <;> rfl

theorem sequenceResult_issues (ofItems : List Datum → Datum) (own : List (Issue Live)) :
    (sequenceResult ofItems own rs).issues = own ++ Parsed.allIssues rs := by
  unfold sequenceResult
  dsimp only
  split <;> rfl

end

/-! ## Objects -/

section
variable (fs : List (String × Parsed)) (extra : Entries Live) (own : List (Issue Live))

/-- Fields without their issues. -/
def silencedFields (fs : List (String × Parsed)) : List (String × Parsed) :=
  fs.map fun f => (f.1, f.2.silenced)

@[simp] theorem silencedFields_results :
    (silencedFields fs).map (·.2) = (fs.map (·.2)).map Parsed.silenced := by
  simp [silencedFields]

@[simp] theorem fieldEntries_silenced : fieldEntries (silencedFields fs) = fieldEntries fs := by
  simp only [fieldEntries, silencedFields, List.filterMap_map]
  rfl

theorem objectResult_value (failed : Bool) : (objectResult fs extra own failed).value =
    (objectResult (silencedFields fs) extra [] failed).value := by
  simp only [objectResult, silencedFields_results, anyInvalid_silenced, fieldEntries_silenced]
  split <;> rfl

/-- Whether there is an output does not matter for the issues. -/
theorem objectResult_eq (failed : Bool) : objectResult fs extra own failed =
    ⟨if failed || Parsed.anyInvalid (fs.map (·.2)) then .invalid
      else .dict .free (fieldEntries fs ++ extra), Parsed.allIssues (fs.map (·.2)) ++ own⟩ := by
  unfold objectResult
  dsimp only
  split <;> rfl

theorem objectResult_issues (failed : Bool) : (objectResult fs extra own failed).issues =
    Parsed.allIssues (fs.map (·.2)) ++ own := by
  rw [objectResult_eq]

theorem closedObject_value (policy : UnknownKeys) : (closedObject path policy fs extra).value =
    (closedObject path policy (silencedFields fs) extra).value := by
  have twice : silencedFields (silencedFields fs) = silencedFields fs := by
    simp only [silencedFields, List.map_map]
    rfl
  cases policy with
  | strip | passthrough => exact objectResult_value fs _ _ _
  | strict =>
    have strict own := objectResult_value (silencedFields fs) [] own false
    rw [twice] at strict
    exact (objectResult_value fs _ _ _).trans (strict _).symm

theorem closedObject_issues (policy : UnknownKeys) : (closedObject path policy fs extra).issues =
    Parsed.allIssues (fs.map (·.2)) ++
      (closedObject path policy (silencedFields fs) extra).issues := by
  cases policy <;> simp only [closedObject, objectResult_issues, silencedFields_results,
    allIssues_silenced, List.nil_append]

end

/-! ## Lists of schemas -/

/-- The fields that results stand for. -/
def fieldOutputs (fs : List (String × Parsed)) : List (String × Datum) :=
  fs.map fun f => (f.1, f.2.value)

theorem fieldOutputs_silenced (fs : List (String × Parsed)) :
    ((fieldOutputs fs).map fun f => (f.1, (⟨f.2, []⟩ : Parsed))) = silencedFields fs := by
  simp only [fieldOutputs, silencedFields, List.map_map]
  rfl

theorem fieldsIn_tracks {shape : List (String × Schema)} {entries : Entries Live}
    (hp : Located a path pre) (he : entries.Keeps a) (h : ∀ f ∈ shape, f.2.Follows plans a ch) :
    Tracks plans a path pre (fieldsIn ch shape path entries) (runFields ch.links shape path entries)
      fieldOutputs (fun fs => pre ++ Parsed.allIssues (fs.map (·.2)))
      (fun fs => ∀ f ∈ fs, f.2.Keeps a path True) := by
  induction shape generalizing pre with
  | nil => exact .pure nofun rfl (List.append_nil _).symm
  | cons f rest ih =>
    obtain ⟨hf, hrest⟩ := List.forall_mem_cons.1 h
    have arrives := (valueAt_keeps he f.1).imp_right fun h => And.intro trivial h
    have first := Tracks.of_append (hf (path ++ [.str f.1]) _ arrives)
    refine .bind (first.after hp) fun b hb => ?_
    refine .bind (ih (hp.append hb.issues.of_append) hrest) fun fs hfs => ?_
    refine .pure (List.forall_mem_cons.2 ⟨hb.of_append.weaken fun _ => trivial, hfs⟩) rfl ?_
    simp [Parsed.allIssues]

theorem optionsIn_tracks {options : List Schema} {v : Datum} (hv : v.KeepsOr a True)
    (h : ∀ s ∈ options, s.Follows plans a ch) {tried : List Parsed}
    (ht : ∀ r ∈ tried, r.Keeps a path (v = .missing)) :
    TracksParse plans a path []
      (optionsIn ch options path v (tried.map fun r => (r.value, r.issues)))
      (runOptions ch.links options path v tried) (v = .missing) := by
  induction options generalizing tried with
  | nil =>
    simp only [optionsIn, List.map_map]
    have same : tried.map ((fun t => ⟨t.1, t.2⟩) ∘ fun r : Parsed => (r.value, r.issues)) = tried :=
      List.map_id _
    rw [same]
    exact .settle (unionResult_keeps ht) rfl
  | cons s rest ih =>
    obtain ⟨hs, hrest⟩ := List.forall_mem_cons.1 h
    refine .bind (.fork (hs path v hv) .nil) fun b hb => ?_
    have tried : ∀ r ∈ tried ++ [b], r.Keeps a path (v = .missing) :=
      List.forall_mem_append.2 ⟨ht, List.forall_mem_singleton.2 hb⟩
    have next := ih hrest tried
    rw [List.map_append] at next
    change Tracks plans a path [] (if b.isClean then Pure.pure b.value else _)
      (if b.isClean then Pure.pure b else _) _ _ _
    by_cases clean : b.isClean
    · rw [if_pos clean, if_pos clean]
      exact .pure hb rfl (Parsed.issues_of_isClean clean).symm
    · rw [if_neg clean, if_neg clean]
      exact next

theorem optionIn_tracks {options : List Schema} {v : Datum} (hv : v.KeepsOr a True) (i : Nat)
    (h : ∀ s ∈ options, s.Follows plans a ch) :
    TracksParse plans a path [] (optionIn ch options i path v)
      (runOption ch.links options i path v) (v = .missing) := by
  induction options generalizing i with
  | nil => exact .pure (.given hv.self) rfl rfl
  | cons s rest ih =>
    obtain ⟨hs, hrest⟩ := List.forall_mem_cons.1 h
    cases i with
    | zero => exact hs path v hv
    | succ i => exact ih i hrest

theorem tupleItemsIn_tracks {items : List Schema} {m : Path Live → Datum → Reporting Datum}
    {r : Path Live → Datum → Run Parsed} {vs : List Datum} (i : Nat) (hp : Located a path pre)
    (hv : ∀ x ∈ vs, x.Keeps a) (h : ∀ s ∈ items, s.Follows plans a ch)
    (hrest : ∀ p, ∀ x ∈ vs, TracksParse plans a p [] (m p x) (r p x) False) :
    Tracks plans a path pre (tupleItemsIn ch items m path i vs)
      (runTupleItems ch.links items r path i vs) Parsed.values
      (fun rs => pre ++ Parsed.allIssues rs) (fun rs => ∀ r ∈ rs, r.Keeps a path False) := by
  induction items generalizing i pre vs with
  | nil => exact itemsIn_tracks i hp hrest
  | cons s ss ih =>
    cases vs with
    | nil => exact .pure nofun rfl (List.append_nil _).symm
    | cons x vs =>
      obtain ⟨hs, hss⟩ := List.forall_mem_cons.1 h
      obtain ⟨hx, hvs⟩ := List.forall_mem_cons.1 hv
      have first := Tracks.of_append (hs.present (path ++ [.int i]) hx)
      refine .bind (first.after hp) fun b hb => ?_
      refine .bind (ih (i + 1) (hp.append hb.issues.of_append) hvs hss fun p y hy =>
        hrest p y (List.mem_cons_of_mem _ hy)) fun rs hrs => ?_
      refine .pure (List.forall_mem_cons.2 ⟨hb.of_append, hrs⟩) rfl ?_
      simp [Parsed.allIssues]

theorem openObject_value (fs : List (String × Parsed)) (rs : List (Datum × Parsed)) :
    (openObject fs rs).value =
      objectOutput (fieldOutputs fs) (entryOutputs rs)
        ((entryOutputs rs).any (·.2.isInvalid)) := by
  have same : (entryOutputs rs).any (·.2.isInvalid) = Parsed.anyInvalid (rs.map (·.2)) := by
    simp only [entryOutputs, Parsed.anyInvalid, List.any_map]
    rfl
  simp only [openObject, objectOutput, fieldOutputs_silenced, same]
  exact objectResult_value ..

theorem intersectionResult_value (l r : Parsed) : (intersectionResult path l r).value =
    (intersectionResult path l.silenced r.silenced).value := by
  by_cases h : (l.value.isInvalid || r.value.isInvalid) = true
  · simp only [intersectionResult, Parsed.silenced, h, if_true]
  · simp only [intersectionResult, Parsed.silenced, h]
    cases merge l.value r.value <;> rfl

theorem intersectionResult_issues (l r : Parsed) : (intersectionResult path l r).issues =
    l.issues ++ r.issues ++ (intersectionResult path l.silenced r.silenced).issues := by
  by_cases h : (l.value.isInvalid || r.value.isInvalid) = true
  · simp only [intersectionResult, Parsed.silenced, h, if_true, List.append_nil]
  · simp only [intersectionResult, Parsed.silenced, h]
    cases merge l.value r.value with
    | none => rfl
    | some merged => exact (List.append_nil _).symm

/-! ## Nodes -/

theorem sequence_keeps {v : Datum} {isTuple : Bool} {vs : List Datum}
    (h : v.sequence? = some (isTuple, vs)) (hv : v.KeepsOr a True) : ∀ x ∈ vs, x.Keeps a := by
  cases v <;> simp only [Value.sequence?, reduceCtorEq, Option.some.injEq, Prod.mk.injEq] at h
  case list access items => exact h.2 ▸ Value.keeps_list.1 (hv.present rfl)
  case tuple items => exact h.2 ▸ Value.keeps_tuple.1 (hv.present rfl)

/-- Going on from a clean result. -/
theorem TracksParse.andThen {m : Reporting Datum} {r : Run Parsed} {v : Datum}
    {next : Datum → Reporting Datum} {next' : Datum → Run Parsed}
    (h : TracksParse plans a path [] m r (v = .missing))
    (hn : ∀ x, x.KeepsOr a (v = .missing) →
      TracksParse plans a path [] (next x) (next' x) (x = .missing)) :
    TracksParse plans a path [] (Reporting.andThen m next) (do (← r).andThen next')
      (v = .missing) := by
  refine .bind (.watch h .nil) fun b hb => ?_
  have same : (b.value.isInvalid || !b.issues.isEmpty) = !b.isClean := by
    simp [Parsed.isClean]
  simp only [List.nil_append, same, Parsed.andThen]
  by_cases clean : b.isClean
  · have output := hb.output (by simpa using (Bool.and_eq_true_iff.1 clean).1)
    simp only [clean, Bool.not_true, Bool.false_eq_true, if_false, if_true,
      Parsed.issues_of_isClean clean]
    refine Tracks.weaken (hn _ output) fun r' hr' => ?_
    rcases output with hx | hx
    · exact hr'.of_keeps hx
    · exact hr'.weaken fun _ => hx.1
  · simp only [clean]
    exact .pure hb rfl rfl

theorem Parsed.Delivers.keeps {r : Parsed} {absent : Prop} (h : r.Delivers a path absent) :
    r.Keeps a path absent := ⟨.inl h.1, h.2⟩

theorem Value.KeepsOr.numbered {v : Datum} {absent : Prop} (h : v.KeepsOr a absent) :
    plans.Ensures v.numbered (·.KeepsOr a absent) := by
  rcases h with h | ⟨habsent, rfl⟩
  · exact (Value.numbered_ensures v h).weaken fun _ => .inl
  · exact .pure (.inr ⟨habsent, rfl⟩)

theorem Channel.Follows.apply (h : ch.Follows plans a) (action : Action Live) (path : Path Live)
    {v : Datum} (hv : v.KeepsOr a True) :
    Tracks plans a path [] (ch.apply action path v) (ch.links.apply action path v) Parsed.value
      Parsed.issues (·.Delivers a path (v = .missing)) := by
  refine .bind (h.act action path v hv) fun r hr => ?_
  rw [← bind_pure (silent r.value.numbered)]
  exact .bind (.silent hr.1.numbered hr.2) fun x hx => .pure ⟨hx, hr.2⟩ rfl rfl

theorem Parsed.Keeps.freeze {r : Parsed} {absent : Prop} (h : r.Keeps a path absent) :
    plans.Ensures r.value.freeze.numbered fun x =>
      Parsed.Keeps a path absent ⟨x, r.issues⟩ := by
  rcases h.value with (hkept | ⟨hm, hx⟩) | ⟨hx, hi⟩
  · exact (Value.numbered_ensures _ hkept.freeze).weaken fun x hx => ⟨.inl (.inl hx), h.issues⟩
  · rw [hx]
    exact .pure ⟨.inl (.inr ⟨hm, rfl⟩), h.issues⟩
  · rw [hx]
    exact .pure ⟨.inr ⟨rfl, hi⟩, h.issues⟩

theorem setResult_tracks {readOnly : Bool} {rs : List Parsed} {absent : Prop}
    (h : ∀ r ∈ rs, r.Keeps a path False) :
    Tracks plans a path ([] ++ Parsed.allIssues rs)
      (do return (← silent (setResult readOnly ((Parsed.values rs).map fun x => ⟨x, []⟩))).value)
      (setResult readOnly rs) Parsed.value (fun r => [] ++ r.issues) (·.Keeps a path absent) := by
  have same : (Parsed.values rs).map (fun x => (⟨x, []⟩ : Parsed)) = rs.map Parsed.silenced := by
    simp only [Parsed.values, List.map_map]
    rfl
  rw [same, setResult_silenced]
  exact .bindLeft (.silentMap (setResult_keeps h) (located_allIssues h)) fun r hr =>
    .pure hr.1 rfl (hr.2 ▸ rfl)

theorem Schema.tupleIn_tracks {items : List Schema} {rest : Option Schema}
    (hi : ∀ s ∈ items, s.Follows plans a ch) (hr : ∀ s, rest = some s → s.Follows plans a ch)
    (path : Path Live) {v : Datum} (hv : v.KeepsOr a True) :
    TracksParse plans a path [] ((tuple items rest).parseIn ch path v)
      ((tuple items rest).runWith ch.links path v) (v = .missing) := by
  simp only [runWith, parseIn]
  cases hseq : v.sequence? with
  | none => exact .settle (.wrongType ..) rfl
  | some seq =>
    obtain ⟨isTuple, vs⟩ := seq
    have kept := sequence_keeps hseq hv
    have made : ∀ items, (∀ x ∈ items, x.Keeps a) →
        ((if isTuple then Value.tuple else Value.list .free) items).Keeps a := by
      cases isTuple <;> simp
    have whole {m : Reporting (List Datum)} {r : Run (List Parsed)}
        (h : Tracks plans a path [] m r Parsed.values (fun rs => [] ++ Parsed.allIssues rs)
          fun rs => ∀ r ∈ rs, r.Keeps a path False) :
        TracksParse plans a path [] (do
          let xs ← m
          return sequenceOutput (if isTuple then Value.tuple else Value.list .free) xs) (do
          let rs ← r
          return sequenceResult (if isTuple then Value.tuple else Value.list .free) [] rs)
          (v = .missing) :=
      .bind h fun rs hrs => .pure (sequenceResult_keeps made .nil hrs)
        (sequenceResult_value ..).symm (sequenceResult_issues ..).symm
    dsimp only
    split
    · exact .settle (.refused ⟨rfl, by simp [Issue.Plain]⟩) rfl
    · cases rest with
      | some s =>
        exact whole (tupleItemsIn_tracks 0 .nil kept hi fun p x hx =>
          (hr s rfl).present p (kept x hx))
      | none =>
        dsimp only
        split
        · exact .settle (.refused ⟨rfl, by simp [Issue.Plain]⟩) rfl
        · exact whole (tupleItemsIn_tracks 0 .nil kept hi fun p x hx =>
            .pure (.given (.inl (kept x hx))) rfl rfl)

theorem Schema.preprocessIn_tracks (hl : ch.Follows plans a) {action : Action Live}
    {elidable : Bool} {inner : Schema} (h : inner.Follows plans a ch) (path : Path Live) {v : Datum}
    (hv : v.KeepsOr a True) :
    TracksParse plans a path [] ((effect .preprocess action elidable inner).parseIn ch path v)
      ((effect .preprocess action elidable inner).runWith ch.links path v) (v = .missing) := by
  refine .bind (.watch (hl.apply action path hv) .nil) fun r delivered => ?_
  obtain ⟨hr, hi⟩ := delivered
  cases hissues : r.issues with
  | nil =>
    simp only [List.isEmpty_nil, Bool.not_true, Bool.false_eq_true, if_false, if_true,
      List.append_nil]
    refine Tracks.weaken (h path _ (hr.weaken fun _ => trivial)) fun r' hr' => ?_
    rcases hr with hr | hr
    · exact hr'.of_keeps hr
    · exact hr'.weaken fun _ => hr.1
  | cons i is =>
    have reported : i :: is ≠ [] := List.cons_ne_nil _ _
    exact .pure (.invalid (.inr reported) (hissues ▸ hi)) rfl rfl

/-- In a context a node ends as it does when it hands its issues over, and its result keeps to
the allowance. -/
theorem Schema.parseIn_tracks (hc : a.Closed plans) (hl : ch.Follows plans a) {s : Schema}
    (hs : a.schemas s) : s.Follows plans a ch := by
  induction s using Schema.child_induction with
  | step s ih =>
    replace ih : ∀ c ∈ s.children, c.Follows plans a ch :=
      fun c hmem => ih c hmem (hc.child hs hmem)
    intro path v hv
    have leaf {r : Parsed} (h : r.OfLeaf path v) :
        TracksParse plans a path [] (settle r) (pure r) (v = .missing) :=
      .settle (.ofLeaf h hv.self) rfl
    have wrong (expected message : String) : TracksParse plans a path []
        (settle (wrongType path expected message v)) (pure (wrongType path expected message v))
        (v = .missing) := .settle (.wrongType ..) rfl
    cases s
    case string lengths pattern => exact Tracks.weaken .stringIn fun r hr => .ofLeaf hr hv.self
    case number bounds integer => exact Tracks.weaken .numberIn fun r hr => .ofLeaf hr hv.self
    case boolean => exact leaf parseBoolean_leaf
    case none => exact leaf parseNone_leaf
    case never => exact leaf parseNever_leaf
    case literal value => exact leaf (parseLiteral_leaf value)
    case enum values => exact leaf (parseEnum_leaf values)
    case any | unknown | foreign kind => exact .pure (.given hv.self) rfl rfl
    case raw value => exact .throw _ .nil
    case array element lengths =>
      have element := ih element (by simp [children])
      cases v
      case list access items =>
        have items := Value.keeps_list.1 (hv.present rfl)
        refine .bind (.lengthIn .nil) fun own hown => ?_
        refine .bind (itemsIn_tracks 0 (.of_at hown) fun p x hx => element.present p (items x hx))
          fun rs hrs => ?_
        exact .pure (sequenceResult_keeps (fun _ => .list) (.of_at hown) hrs)
          (sequenceResult_value ..).symm (sequenceResult_issues ..).symm
      all_goals exact wrong _ _
    case set element =>
      have element := ih element (by simp [children])
      cases v
      case set readOnly items =>
        have items := Value.keeps_set.1 (hv.present rfl)
        refine .bind (itemsIn_tracks 0 .nil fun p x hx => element.present p (items x hx))
          fun rs hrs => ?_
        exact setResult_tracks hrs
      all_goals exact wrong _ _
    case object shape catchall policy =>
      have fields : ∀ f ∈ shape, f.2.Follows plans a ch :=
        fun f hf => ih f.2 (by simp [children]; exact .inl ⟨f.1, hf⟩)
      cases v
      case dict access entries =>
        have entries := Value.keeps_dict.1 (hv.present rfl)
        have extra : (extraEntries shape _).Keeps a :=
          fun e he => entries e (List.mem_filter.1 he).1
        simp only [runWith, parseIn, Value.entries?]
        refine .bind (fieldsIn_tracks .nil entries fields) fun fs hfs => ?_
        have hresults := List.forall_mem_map.2 hfs
        cases catchall with
        | none =>
          dsimp only
          rw [fieldOutputs_silenced]
          refine .report (.pure (closedObject_keeps hfs extra) (closedObject_value ..).symm ?_)
          exact (closedObject_issues ..).symm
        | some c =>
          have rest := ih c (by simp [children])
          refine .bind (valuesIn_tracks (located_allIssues hresults) extra fun p e he =>
            rest.present p (extra e he).2) fun rs hrs => ?_
          exact .pure (openObject_keeps hfs hrs) (openObject_value ..).symm
            (objectResult_issues ..).symm
      all_goals exact wrong _ _
    case union options => exact optionsIn_tracks hv (fun s hs => ih s hs) (List.forall_mem_nil _)
    case tagged key options table =>
      cases v
      case dict access entries =>
        simp only [runWith, parseIn, Value.entries?]
        cases optionAt? table (valueAt entries key) with
        | some i => exact optionIn_tracks hv i fun s hs => ih s hs
        | none => exact .settle (wrongTag_keeps _ _) rfl
      all_goals exact wrong _ _
    case intersection left right =>
      refine .bind (ih left (by simp [children]) path v hv) fun l hl => ?_
      refine .bind ((ih right (by simp [children]) path v hv).after hl.issues) fun r hr => ?_
      refine .report (.pure (intersectionResult_keeps hl hr) (intersectionResult_value ..).symm ?_)
      exact (intersectionResult_issues ..).symm
    case tuple items rest =>
      exact tupleIn_tracks (fun s hs => ih s (by simp [children, hs]))
        (fun s hs => ih s (by simp [children, hs])) path hv
    case record key value | map key value =>
      have key := ih key (by simp [children])
      have value := ih value (by simp [children])
      cases v
      case dict access entries =>
        have entries := Value.keeps_dict.1 (hv.present rfl)
        have start : Rebuilt.Keeps a path {} := .empty
        refine .bind (entriesIn_tracks 0 .nil start (fun p e he => key.present p (entries e he).1)
          fun p e he => value.present p (entries e he).2) fun b hb => ?_
        exact .pure hb.parsed rfl rfl
      all_goals exact wrong _ _
    case function items rest returns =>
      cases v
      case live x =>
        simp only [runWith, parseIn]
        split
        · exact .bind (.silent .identity .nil) fun id _ =>
            .pure (.given (.inl (.live (.guarded ..)))) rfl rfl
        · exact wrong _ _
      all_goals exact wrong _ _
    case lazy id origin => exact hl.enter id origin path v hs hv
    case effect kind action elidable inner =>
      have inner := ih inner (by simp [children])
      cases kind with
      | preprocess => exact preprocessIn_tracks hl inner path hv
      | refinement =>
        refine .bind (inner path v hv) fun r hr => ?_
        by_cases valid : r.value.isInvalid
        · simp only [valid, if_true]
          exact .pure hr rfl rfl
        · simp only [valid]
          have output := hr.output (eq_false_of_ne_true valid)
          have checked := hl.act action path _ (output.weaken fun _ => trivial)
          exact .bind (checked.after hr.issues) fun c hc =>
            .pure ⟨.inl output, hr.issues.append hc.2⟩ rfl rfl
      | transform =>
        exact (inner path v hv).andThen fun x hx =>
          Tracks.weaken (hl.apply action path (hx.weaken fun _ => trivial)) fun r hr => hr.keeps
    case optional inner =>
      simp only [runWith, parseIn]
      split
      · exact .pure (.given hv.self) rfl rfl
      · exact ih inner (by simp [children]) path v hv
    case nullable inner =>
      simp only [runWith, parseIn]
      split
      · exact .pure (.given hv.self) rfl rfl
      · exact ih inner (by simp [children]) path v hv
    case default inner supply =>
      have inner := ih inner (by simp [children])
      have given : plans.Ensures (ch.links.supply supply) (·.Keeps a) := by
        cases supply with
        | value x => exact .pure (hc.supplied hs (by simp [supplied]))
        | factory fn => exact hl.factory fn
      simp only [runWith, parseIn]
      split
      · refine .bind (.silent given .nil) fun x hx => ?_
        exact Tracks.weaken (inner path x (.inl hx)) fun r hr => hr.of_keeps hx
      · exact inner path v hv
    case «catch» inner supply =>
      refine .bind (.fork (ih inner (by simp [children]) path v hv) .nil) fun r hr => ?_
      have given : plans.Ensures (ch.links.rescue r.issues supply) (·.Keeps a) := by
        cases supply with
        | value x => exact .pure (hc.supplied hs (by simp [supplied]))
        | factory fn => exact hl.rescue r.issues fn
      change TracksParse plans a path [] (if r.isClean then Pure.pure r.value else _)
        (if r.isClean then Pure.pure r else _) _
      by_cases clean : r.isClean
      · rw [if_pos clean, if_pos clean]
        exact .pure hr rfl (Parsed.issues_of_isClean clean).symm
      · rw [if_neg clean, if_neg clean, ← bind_pure (silent _)]
        exact .bind (.silent given .nil) fun x hx => .pure (.given (.inl hx)) rfl rfl
    case promise inner =>
      have inner := hc.child (c := inner) hs (by simp [children])
      cases v
      case live x =>
        have kept := Value.keeps_live.1 (hv.present rfl)
        simp only [runWith, parseIn]
        split
        · exact .bind (.silent .identity .nil) fun id _ =>
            .pure (.given (.inl (.live (.pending inner kept)))) rfl rfl
        · exact wrong _ _
      all_goals exact wrong _ _
    case branded inner name => exact ih inner (by simp [children]) path v hv
    case pipeline input output =>
      have output := ih output (by simp [children])
      exact (ih input (by simp [children]) path v hv).andThen fun x hx =>
        output path x (hx.weaken fun _ => trivial)
    case invertible input parse output format =>
      have output := ih output (by simp [children])
      have mapped := (ih input (by simp [children]) path v hv).andThen fun x hx =>
        Tracks.weaken (hl.apply (.custom parse) path (hx.weaken fun _ => trivial))
          fun r hr => hr.keeps
      have whole := mapped.andThen fun x hx => output path x (hx.weaken fun _ => trivial)
      rw [bind_assoc] at whole
      exact whole
    case readonly inner =>
      refine .bind (ih inner (by simp [children]) path v hv) fun r hr => ?_
      rw [← bind_pure (silent r.value.freeze.numbered)]
      refine .bind (.silent hr.freeze hr.issues) fun x hx => .pure hx rfl rfl

end TwoWay
