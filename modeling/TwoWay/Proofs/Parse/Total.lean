import TwoWay.Proofs.Parse.Keeping
import TwoWay.Proofs.Parse.Modes
import TwoWay.Proofs.Parse.Trimming
import TwoWay.Proofs.Schema.Parts
import TwoWay.Proofs.Value.Regular

/-!
# Safe parses are total

A schema is inert if no user function, no lazy node and no substitute stands in it. The parse of
a regular value with an inert schema always comes to a result (`Schema.Inert.returns`): the
outputs that sets and mappings are rebuilt from can be members and keys, because the parts of
the input could, and every comparison with a bound is one of numbers. The issues have paths of
texts and integers, and such paths can be written out, so that the refusal can be reported as
well (`Session.safeParse_total`).
-/

namespace TwoWay

/-! ## Reports -/

/-- A path of texts and integers. -/
def IsPlace (path : Path Live) : Prop := ∀ segment ∈ path, segment.IsKey

theorem IsPlace.root : IsPlace [] := List.forall_mem_nil _

theorem IsPlace.append {path below : Path Live} (h : IsPlace path) (hb : IsPlace below) :
    IsPlace (path ++ below) := List.forall_mem_append.2 ⟨h, hb⟩

theorem IsPlace.child {path : Path Live} (h : IsPlace path) {segment : Datum}
    (hs : segment.IsKey) : IsPlace (path ++ [segment]) :=
  h.append (List.forall_mem_singleton.2 hs)

theorem IsPlace.field {path : Path Live} (h : IsPlace path) (key : String) :
    IsPlace (path ++ [.str key]) := h.child trivial

theorem IsPlace.position {path : Path Live} (h : IsPlace path) (i : Nat) :
    IsPlace (path ++ [.int i]) := h.child trivial

/-- A text stays a text when a text or an integer is appended to it. -/
theorem extendLocation_text (text : String) {segment : Datum} (h : segment.IsKey) :
    ∃ longer, extendLocation (.str text) segment = .ok (.str longer) := by
  cases segment <;> try exact h.elim
  case bool b => exact ⟨_, rfl⟩
  case int i => exact ⟨_, rfl⟩
  case str s =>
    by_cases empty : (Value.str (κ := Live) text).truthy
    · exact ⟨text ++ ("." ++ (Value.str (κ := Live) s).text),
        by simp [extendLocation, empty, appendText]⟩
    · exact ⟨s, by simp [extendLocation, empty]⟩

theorem location_text {path : Path Live} (h : IsPlace path) :
    ∃ text, location path = .ok (.str text) := by
  have extends_ (start : String) : ∃ text,
      path.foldlM extendLocation (.str start : Datum) = .ok (.str text) := by
    induction path generalizing start with
    | nil => exact ⟨start, rfl⟩
    | cons segment rest ih =>
      obtain ⟨hs, hrest⟩ := List.forall_mem_cons.1 h
      obtain ⟨longer, first⟩ := extendLocation_text start hs
      obtain ⟨text, further⟩ := ih hrest longer
      refine ⟨text, ?_⟩
      rw [List.foldlM_cons, first]
      exact further
  exact extends_ ""

/-- Issues all of whose paths can be written out. -/
def Reportable (issues : List (Issue Live)) : Prop := ∀ i ∈ issues, IsPlace i.path

theorem Reportable.report {issues : List (Issue Live)} (h : Reportable issues) :
    ∃ text, Issue.report issues = .ok text := by
  have lines : ∃ lines, issues.mapM Issue.line = .ok lines := by
    induction issues with
    | nil => exact ⟨[], rfl⟩
    | cons i rest ih =>
      obtain ⟨hi, hrest⟩ := List.forall_mem_cons.1 h
      obtain ⟨text, place⟩ := location_text hi
      obtain ⟨lines, others⟩ := ih hrest
      rw [List.mapM_cons, others, Issue.line, place]
      exact ⟨_, rfl⟩
  obtain ⟨lines, all⟩ := lines
  unfold Issue.report
  rw [all]
  exact ⟨_, rfl⟩

theorem Reportable.refused {issues : List (Issue Live)} (h : Reportable issues) :
    Failure.ofIssues issues = .refused issues := by
  obtain ⟨text, ok⟩ := h.report
  unfold Failure.ofIssues
  rw [ok]

theorem Reportable.nil : Reportable [] := List.forall_mem_nil _

theorem Reportable.append {issues more : List (Issue Live)} (h : Reportable issues)
    (hm : Reportable more) : Reportable (issues ++ more) := List.forall_mem_append.2 ⟨h, hm⟩

theorem Reportable.of_at {path : Path Live} {issues : List (Issue Live)} (hp : IsPlace path)
    (h : ∀ i ∈ issues, i.At path) : Reportable issues := by
  intro i hi
  rw [(h i hi).1]
  exact hp

/-! ## Results -/

/-- A result of which nothing later has to fear: its output takes the place of the value, and
its issues can be reported. -/
structure Parsed.Fit (v : Datum) (r : Parsed) : Prop where
  value : v.Stands r.value ∨ r.value = .invalid
  issues : Reportable r.issues

namespace Parsed.Fit

variable {v : Datum} {r : Parsed} {issues : List (Issue Live)}

theorem given (v : Datum) : Parsed.Fit v ⟨v, []⟩ := ⟨.inl (.refl v), .nil⟩

theorem invalid (h : Reportable issues) : Parsed.Fit v ⟨.invalid, issues⟩ := ⟨.inr rfl, h⟩

theorem refused {i : Issue Live} (h : IsPlace i.path) : Parsed.Fit v (.refused i) :=
  .invalid (List.forall_mem_singleton.2 h)

theorem ofLeaf {path : Path Live} (hp : IsPlace path) (h : r.OfLeaf path v) : r.Fit v where
  value := h.value.imp (fun same => by rw [same]; exact .refl v) And.left
  issues := .of_at hp h.issues

theorem stands (h : r.Fit v) (valid : r.value.isInvalid = false) : v.Stands r.value := by
  refine h.value.resolve_right fun invalid => ?_
  rw [invalid] at valid
  cases valid

theorem regular (h : r.Fit v) (hv : v.Regular) : r.value.Regular := by
  rcases h.value with stands | invalid
  · exact stands.regular hv
  · rw [invalid]
    exact .single rfl

theorem after {t : Parsed} (h : r.Fit v) (clean : r.isClean) (ht : t.Fit r.value) : t.Fit v where
  value := by
    have valid := (Bool.and_eq_true_iff.1 clean).1
    exact ht.value.imp_left (h.stands (by simpa using valid)).trans
  issues := ht.issues

theorem andThen {next : Datum → Run Parsed} (h : r.Fit v) (hv : v.Regular)
    (hn : ∀ x, x.Regular → (next x).Returns (Parsed.Fit x)) :
    (r.andThen next).Returns (Parsed.Fit v) := by
  unfold Parsed.andThen
  split
  · exact (hn r.value (h.regular hv)).weaken fun t ht => h.after ‹_› ht
  · exact .pure h

theorem freeze (h : r.Fit v) :
    Run.Returns (do return ⟨← r.value.freeze.numbered, r.issues⟩) (Parsed.Fit v) := by
  rcases h.value with stands | invalid
  · refine (Value.numbered_returns _).bind fun x hx => .pure ⟨.inl ?_, h.issues⟩
    exact (stands.trans (Value.stands_freeze _)).trans hx
  · rw [invalid]
    exact .pure (.invalid h.issues)

end Parsed.Fit

/-! ## Leaves -/

/-- No bound, or one that numbers can be compared with. -/
def Value.isBound (v : Datum) : Bool := v.isNone || v.isOrdered

def Lengths.numeric (lengths : Lengths Live) : Bool :=
  lengths.least.isBound && lengths.most.isBound

def Bounds.numeric (bounds : Bounds Live) : Bool :=
  bounds.above.isBound && bounds.atLeast.isBound && bounds.below.isBound && bounds.atMost.isBound

/-- A computation without a fault. -/
def Faultless {α : Type} (m : Except Fault α) : Prop := ∃ a, m = .ok a

theorem Faultless.pure {α : Type} (a : α) : Faultless (Pure.pure a) := ⟨a, rfl⟩

theorem Faultless.bind {α β : Type} {m : Except Fault α} {k : α → Except Fault β}
    (h : Faultless m) (hk : ∀ a, Faultless (k a)) : Faultless (m >>= k) := by
  obtain ⟨a, rfl⟩ := h
  exact hk a

theorem compared_faultless (c : Comparison) {a b : Datum} (ha : a.isOrdered) (hb : b.isOrdered) :
    Faultless (Value.compared c a b) := by
  unfold Value.compared
  cases a <;> try cases ha
  all_goals
    rw [Value.compareFrom]
    · rw [hb]
      simp only [Value.isOrdered, Bool.and_true, if_true]
      split <;> exact ⟨_, rfl⟩
    all_goals intros; contradiction

/-- Numbers can be compared with a bound that there is. -/
theorem bounded_faultless (c : Comparison) {v bound : Datum} (hv : v.isOrdered)
    (hb : bound.isBound) (there : ¬bound.isNone = true) : Faultless (Value.compared c v bound) := by
  refine compared_faultless c hv ?_
  simpa [Value.isBound, there] using hb

section
variable {path : Path Live} {v : Datum}

theorem lengthIssues_faultless {lengths : Lengths Live} (h : lengths.numeric)
    (owner noun : String) (size : Nat) :
    Faultless (lengthIssues path owner noun lengths size) := by
  obtain ⟨least, most⟩ := Bool.and_eq_true_iff.1 h
  unfold lengthIssues
  dsimp only
  split
  · refine .bind (.pure false) fun short => ?_
    split
    · exact .bind (.pure false) fun long => .pure _
    · exact .bind (bounded_faultless .greater rfl most ‹_›) fun long => .pure _
  · refine .bind (bounded_faultless .less rfl least ‹_›) fun short => ?_
    split
    · exact .bind (.pure false) fun long => .pure _
    · exact .bind (bounded_faultless .greater rfl most ‹_›) fun long => .pure _

/-- A pattern that texts can be searched for. -/
def isTextPattern : Option WrittenPattern → Bool
  | some (.bytes _) => false
  | _ => true

theorem patternIssues_faultless {pattern : Option WrittenPattern} (h : isTextPattern pattern)
    (text : String) : Faultless (patternIssues path pattern text) := by
  unfold patternIssues
  split
  · exact .pure _
  · cases h
  · split
    · split <;> exact .pure _
    · exact .pure _

theorem numberBound_faultless {code : IssueCode} {relation detail : String} (c : Comparison)
    {bound : Datum} (hv : v.isOrdered) (hb : bound.isBound) :
    Faultless (numberBound path code relation detail (Value.compared c) v bound) := by
  unfold numberBound
  split
  · exact .pure _
  · refine .bind (bounded_faultless c hv hb ‹_›) fun held => ?_
    split <;> exact .pure _

theorem parseNumber_faultless {bounds : Bounds Live} (h : bounds.numeric) (integer : Bool) :
    Faultless (parseNumber bounds integer path v) := by
  simp only [Bounds.numeric, Bool.and_eq_true] at h
  obtain ⟨⟨⟨above, atLeast⟩, below⟩, atMost⟩ := h
  unfold parseNumber
  split
  · exact .pure _
  · have ordered : v.isOrdered := by
      cases v <;> first | rfl | exact absurd rfl ‹_›
    refine .bind (numberBound_faultless .greater ordered above) fun _ => ?_
    refine .bind (numberBound_faultless .atLeast ordered atLeast) fun _ => ?_
    refine .bind (numberBound_faultless .less ordered below) fun _ => ?_
    refine .bind (numberBound_faultless .atMost ordered atMost) fun _ => ?_
    exact .pure _

theorem parseString_fit {lengths : Lengths Live} {pattern : Option WrittenPattern}
    (hl : lengths.numeric) (hp : isTextPattern pattern) (place : IsPlace path) :
    (Run.liftFault (parseString lengths pattern path v)).Returns (Parsed.Fit v) := by
  cases v
  case str s =>
    obtain ⟨own, hown⟩ : Faultless (lengthIssues path "String" "character" lengths s.length) :=
      lengthIssues_faultless hl _ _ _
    obtain ⟨issues, hissues⟩ : Faultless (patternIssues path pattern s) :=
      patternIssues_faultless hp s
    have located : ∀ i ∈ own ++ issues, i.At path := List.forall_mem_append.2
      ⟨lengthIssues_at _ _ _ _ _ hown, patternIssues_at _ _ _ hissues⟩
    simp only [parseString, hown, hissues]
    exact .pure (.ofLeaf place (.accepted located))
  all_goals exact .pure (.ofLeaf place (.wrongType ..))

theorem parseNumber_fit {bounds : Bounds Live} (h : bounds.numeric) (integer : Bool)
    (place : IsPlace path) :
    (Run.liftFault (parseNumber bounds integer path v)).Returns (Parsed.Fit v) :=
  .liftFault (parseNumber_faultless h integer) fun _ hr =>
    .ofLeaf place (parseNumber_leaf bounds integer _ hr)

end

/-! ## Sequences and sets -/

section
variable {path : Path Live} {v : Datum} {items : List Datum} {rs : List Parsed}

theorem runItems_returns {parse : Path Live → Datum → Run Parsed}
    (h : ∀ path x, IsPlace path → x.Regular → (parse path x).Returns (Parsed.Fit x))
    (place : IsPlace path) (hi : ∀ x ∈ items, x.Regular) (i : Nat) :
    (runItems parse path i items).Returns (List.Forall₂ Parsed.Fit items) := by
  induction items generalizing i with
  | nil => exact .pure .nil
  | cons x rest ih =>
    obtain ⟨hx, hrest⟩ := List.forall_mem_cons.1 hi
    refine (h _ x (place.position i) hx).bind fun r hr => ?_
    exact (ih hrest (i + 1)).bind fun rs hrs => .pure (.cons hr hrs)

theorem reportable_allIssues (h : List.Forall₂ Parsed.Fit items rs) :
    Reportable (Parsed.allIssues rs) := by
  induction h with
  | nil => exact .nil
  | cons first _ ih => exact first.issues.append ih

theorem values_stand (h : List.Forall₂ Parsed.Fit items rs)
    (valid : Parsed.anyInvalid rs = false) : Value.StandItems items (Parsed.values rs) := by
  induction h with
  | nil => exact .nil
  | cons first _ ih =>
    obtain ⟨hfirst, hrest⟩ := Bool.or_eq_false_iff.1 valid
    exact .cons (first.stands hfirst) (ih hrest)

theorem sequenceResult_fit {ofItems : List Datum → Datum} {own : List (Issue Live)}
    (ho : ∀ items', Value.StandItems items items' → v.Stands (ofItems items'))
    (hown : Reportable own) (h : List.Forall₂ Parsed.Fit items rs) :
    (sequenceResult ofItems own rs).Fit v := by
  have reportable := hown.append (reportable_allIssues h)
  unfold sequenceResult
  split
  · exact .invalid reportable
  · exact ⟨.inl (ho _ (values_stand h (eq_false_of_ne_true ‹_›))), reportable⟩

theorem stands_list {access access' : Access} {items' : List Datum}
    (h : Value.StandItems items items') : (Value.list access items).Stands (.list access' items') :=
  ⟨fun hv => .list (h.forall_mem (fun _ _ h => h.regular) (Value.regular_list.1 hv)), nofun,
    False.elim⟩

theorem stands_tuple {items' : List Datum} (h : Value.StandItems items items') :
    (Value.tuple items).Stands (.tuple items') := by
  refine ⟨fun hv => ?_, fun hv => ?_, False.elim⟩
  · exact .tuple (h.forall_mem (fun _ _ h => h.regular) (Value.regular_tuple.1 hv))
  · exact Value.unhashableItem?_eq_none.2
      (h.forall_mem (fun _ _ h => h.hashable) (Value.unhashableItem?_eq_none.1 hv))

theorem requireEach_returns {values : List Datum} (h : ∀ x ∈ values, x.unhashable? = none) :
    Run.Returns (forIn values PUnit.unit fun v _ => do
      Run.requireHashable v
      pure (ForInStep.yield PUnit.unit)) fun _ => True := by
  induction values with
  | nil => exact .pure trivial
  | cons x rest ih =>
    obtain ⟨hx, hrest⟩ := List.forall_mem_cons.1 h
    rw [List.forIn_cons, bind_assoc]
    exact (Run.Returns.requireHashable hx).bind fun _ _ => ih hrest

/-- The members of a set can be members again when they are parsed. -/
theorem setResult_returns {readOnly : Bool} (hv : (Value.set readOnly items).Regular)
    (h : List.Forall₂ Parsed.Fit items rs) :
    (setResult readOnly rs).Returns (Parsed.Fit (.set readOnly items)) := by
  have reportable := reportable_allIssues h
  obtain ⟨members, regular⟩ := Value.regular_set.1 hv
  unfold setResult
  split
  · exact .pure (.invalid reportable)
  · have stand := values_stand h (eq_false_of_ne_true ‹_›)
    have hashable := stand.forall_mem (fun _ _ h => h.hashable) members
    have kept := stand.forall_mem (fun _ _ h => h.regular) regular
    refine (requireEach_returns hashable).bind fun _ _ => .pure ⟨.inl ?_, reportable⟩
    refine ⟨fun _ => .set ?_ ?_, fun hv => ?_, False.elim⟩
    · exact fun x hx => hashable x (mem_of_mem_distinct hx)
    · exact fun x hx => kept x (mem_of_mem_distinct hx)
    · cases readOnly with
      | true => rfl
      | false => cases hv

end

/-! ## Mappings -/

section
variable {path : Path Live} {entries : Entries Live}

/-- The state of a mapping that is rebuilt from regular entries. -/
structure Rebuilt.Fit (b : Rebuilt) : Prop where
  entries : b.entries.Regular
  issues : Reportable b.issues

theorem Rebuilt.Fit.empty : Rebuilt.Fit {} := ⟨List.forall_mem_nil _, .nil⟩

/-- A key is parsed to itself, if at all, and so it can be written under. -/
theorem Rebuilt.Fit.add {b : Rebuilt} (h : b.Fit) {k v : Datum} {key value : Parsed}
    (hk : key.Fit k) (isKey : k.IsKey) (hv : value.Fit v) (regular : v.Regular) :
    (b.add key value).Returns Rebuilt.Fit := by
  have reportable := (h.issues.append hk.issues).append hv.issues
  unfold Rebuilt.add
  split
  · exact .pure ⟨h.entries, reportable⟩
  · rename_i valid
    simp only [Bool.or_eq_true, not_or, Bool.not_eq_true] at valid
    have same := (hk.stands valid.1).key isKey
    rw [same]
    refine (Run.Returns.requireHashable isKey.hashable).bind fun _ _ => .pure ⟨?_, reportable⟩
    exact h.entries.put isKey (hv.regular regular)

theorem runEntries_returns {key value : Path Live → Datum → Run Parsed}
    (hk : ∀ path x, IsPlace path → x.Regular → (key path x).Returns (Parsed.Fit x))
    (hv : ∀ path x, IsPlace path → x.Regular → (value path x).Returns (Parsed.Fit x))
    {keyPath valuePath : Nat → Datum → Path Live}
    (keyPlace : ∀ i k, k.IsKey → IsPlace (keyPath i k))
    (valuePlace : ∀ i k, k.IsKey → IsPlace (valuePath i k)) (he : entries.Regular) (i : Nat)
    {b : Rebuilt} (hb : b.Fit) :
    (runEntries key value keyPath valuePath i entries b).Returns Rebuilt.Fit := by
  induction entries generalizing i b with
  | nil => exact .pure hb
  | cons e rest ih =>
    obtain ⟨⟨isKey, regular⟩, hrest⟩ := List.forall_mem_cons.1 he
    refine (hk _ e.1 (keyPlace i e.1 isKey) isKey.regular).bind fun k hkey => ?_
    refine (hv _ e.2 (valuePlace i e.1 isKey) regular).bind fun v hvalue => ?_
    exact (hb.add hkey isKey hvalue regular).bind fun b' hb' => ih hrest (i + 1) hb'

theorem stands_dict {access access' : Access} {entries' : Entries Live}
    (h : Entries.Regular entries') : (Value.dict access entries).Stands (.dict access' entries') :=
  ⟨fun _ => Value.regular_dict.2 h, nofun, False.elim⟩

theorem Rebuilt.Fit.parsed {b : Rebuilt} (h : b.Fit) (access : Access) :
    b.parsed.Fit (.dict access entries) := by
  unfold Rebuilt.parsed
  split
  · exact .invalid h.issues
  · exact ⟨.inl (stands_dict h.entries), h.issues⟩

theorem runValues_returns {parse : Path Live → Datum → Run Parsed}
    (h : ∀ path x, IsPlace path → x.Regular → (parse path x).Returns (Parsed.Fit x))
    (place : IsPlace path) (he : entries.Regular) :
    (runValues parse path entries).Returns fun rs =>
      ∀ e ∈ rs, e.1.IsKey ∧ e.2.value.Regular ∧ Reportable e.2.issues := by
  induction entries with
  | nil => exact .pure (List.forall_mem_nil _)
  | cons e rest ih =>
    obtain ⟨⟨isKey, regular⟩, hrest⟩ := List.forall_mem_cons.1 he
    refine (h _ e.2 (place.child isKey) regular).bind fun r hr => ?_
    refine (ih hrest).bind fun rs hrs => .pure (List.forall_mem_cons.2 ⟨?_, hrs⟩)
    exact ⟨isKey, hr.regular regular, hr.issues⟩

end

/-! ## Objects -/

section
variable {path : Path Live} {entries extra : Entries Live} {access : Access}
  {fields : List (String × Parsed)}

/-- The results of fields. -/
def FitFields (fields : List (String × Parsed)) : Prop :=
  ∀ f ∈ fields, f.2.value.Regular ∧ Reportable f.2.issues

theorem runFields_returns {links : Links} {shape : List (String × Schema)}
    (h : ∀ f ∈ shape, ∀ path v, IsPlace path → v.Regular →
      (f.2.runWith links path v).Returns (Parsed.Fit v))
    (place : IsPlace path) (he : entries.Regular) :
    (runFields links shape path entries).Returns FitFields := by
  induction shape with
  | nil => exact .pure (List.forall_mem_nil _)
  | cons f rest ih =>
    obtain ⟨hf, hrest⟩ := List.forall_mem_cons.1 h
    have regular := valueAt_regular he f.1
    refine (hf _ _ (place.field f.1) regular).bind fun r hr => ?_
    refine (ih hrest).bind fun fs hfs => .pure (List.forall_mem_cons.2 ⟨?_, hfs⟩)
    exact ⟨hr.regular regular, hr.issues⟩

theorem FitFields.issues (h : FitFields fields) :
    Reportable (Parsed.allIssues (fields.map (·.2))) := by
  intro i hi
  obtain ⟨r, hr, hi⟩ := List.mem_flatMap.1 hi
  obtain ⟨f, hf, rfl⟩ := List.mem_map.1 hr
  exact (h f hf).2 i hi

theorem objectResult_fit {failed : Bool} {issues : List (Issue Live)} (hf : FitFields fields)
    (he : extra.Regular) (hi : Reportable issues) :
    (objectResult fields extra issues failed).Fit (.dict access entries) := by
  have reportable := hf.issues.append hi
  unfold objectResult
  dsimp only
  split
  · exact .invalid reportable
  · refine ⟨.inl (stands_dict (List.forall_mem_append.2 ⟨fun e hmem => ?_, he⟩)), reportable⟩
    obtain ⟨f, hfield, -, -, rfl⟩ := mem_fieldEntries.1 hmem
    exact ⟨trivial, (hf f hfield).1⟩

theorem closedObject_fit {policy : UnknownKeys} (place : IsPlace path) (hf : FitFields fields)
    (he : extra.Regular) : (closedObject path policy fields extra).Fit (.dict access entries) := by
  unfold closedObject
  split
  · exact objectResult_fit hf (List.forall_mem_nil _) .nil
  · refine objectResult_fit hf (List.forall_mem_nil _) ?_
    split
    · exact .nil
    · exact List.forall_mem_singleton.2 place
  · exact objectResult_fit hf he .nil

theorem openObject_fit {rs : List (Datum × Parsed)} (hf : FitFields fields)
    (hr : ∀ e ∈ rs, e.1.IsKey ∧ e.2.value.Regular ∧ Reportable e.2.issues) :
    (openObject fields rs).Fit (.dict access entries) := by
  refine objectResult_fit hf (fun e he => ?_) fun i hi => ?_
  · obtain ⟨x, hx, rfl⟩ := List.mem_map.1 he
    exact ⟨(hr x hx).1, (hr x hx).2.1⟩
  · obtain ⟨r, hmem, hi⟩ := List.mem_flatMap.1 hi
    obtain ⟨x, hx, rfl⟩ := List.mem_map.1 hmem
    exact (hr x hx).2.2 i hi

end

/-! ## Nodes -/

namespace Schema

/-- Nodes that call nothing by themselves. Their bounds are numbers and their patterns are for
texts. -/
def isInertNode : Schema → Bool
  | .string lengths pattern => lengths.numeric && isTextPattern pattern
  | .number bounds _ => bounds.numeric
  | .array _ lengths => lengths.numeric
  | .function .. | .lazy .. | .effect .. | .default .. | .catch .. | .promise _
  | .invertible .. | .foreign _ | .raw _ => false
  | _ => true

/-- Trees of such nodes. -/
inductive Inert : Schema → Prop
  | intro {s : Schema} (node : s.isInertNode) (parts : ∀ c ∈ s.children, Inert c) : Inert s

/-- Whatever regular value is parsed at whatever place of it, the parse comes to a result. -/
def Settles (links : Links) (s : Schema) : Prop :=
  ∀ path v, IsPlace path → v.Regular → (s.runWith links path v).Returns (Parsed.Fit v)

section
variable {links : Links} {path : Path Live} {v : Datum}

theorem wrongContainer_returns (place : IsPlace path) (expected : String) :
    Run.Returns (pure (wrongContainer path expected v)) (Parsed.Fit v) :=
  .pure (.refused place)

theorem array_settles {element : Schema} {lengths : Lengths Live} (h : lengths.numeric)
    (he : element.Settles links) : (array element lengths).Settles links := by
  intro path v place hv
  rw [runWith]
  cases v
  case list access items =>
    have own : (Run.liftFault (lengthIssues path "Array" "element" lengths items.length)).Returns
        Reportable := .liftFault (lengthIssues_faultless h ..) fun _ ho =>
      .of_at place (lengthIssues_at _ _ _ _ _ ho)
    refine own.bind fun own hown => ?_
    refine (runItems_returns he place (Value.regular_list.1 hv) 0).bind fun rs hrs => .pure ?_
    exact sequenceResult_fit (fun _ => stands_list) hown hrs
  all_goals exact wrongContainer_returns place _

theorem set_settles {element : Schema} (he : element.Settles links) :
    (set element).Settles links := by
  intro path v place hv
  rw [runWith]
  cases v
  case set readOnly items =>
    refine (runItems_returns he place (Value.regular_set.1 hv).2 0).bind fun rs hrs => ?_
    exact setResult_returns hv hrs
  all_goals exact wrongContainer_returns place _

theorem object_settles {shape : List (String × Schema)} {catchall : Option Schema}
    {policy : UnknownKeys} (hs : ∀ f ∈ shape, f.2.Settles links)
    (hc : ∀ s, catchall = some s → s.Settles links) :
    (object shape catchall policy).Settles links := by
  intro path v place hv
  rw [runWith]
  cases v
  case dict access entries =>
    have regular := Value.regular_dict.1 hv
    have extra : (extraEntries shape entries).Regular :=
      fun e he => regular e (List.mem_filter.1 he).1
    refine (runFields_returns hs place regular).bind fun fields hf => ?_
    cases catchall with
    | none => exact .pure (closedObject_fit place hf extra)
    | some s =>
      refine (runValues_returns (hc s rfl) place extra).bind fun rs hrs => .pure ?_
      exact openObject_fit hf hrs
  all_goals exact wrongContainer_returns place _

theorem runTupleItems_returns {items : List Schema} {rest : Path Live → Datum → Run Parsed}
    (hi : ∀ s ∈ items, s.Settles links)
    (hr : ∀ path x, IsPlace path → x.Regular → (rest path x).Returns (Parsed.Fit x))
    (place : IsPlace path) {vs : List Datum} (hv : ∀ x ∈ vs, x.Regular)
    (enough : items.length ≤ vs.length) (i : Nat) :
    (runTupleItems links items rest path i vs).Returns (List.Forall₂ Parsed.Fit vs) := by
  induction items generalizing vs i with
  | nil =>
    unfold runTupleItems
    exact runItems_returns hr place hv i
  | cons s ss ih =>
    cases vs with
    | nil => cases enough
    | cons x xs =>
      obtain ⟨hs, hss⟩ := List.forall_mem_cons.1 hi
      obtain ⟨hx, hxs⟩ := List.forall_mem_cons.1 hv
      unfold runTupleItems
      refine (hs _ x (place.position i) hx).bind fun r hr => ?_
      refine (ih hss hxs (Nat.le_of_succ_le_succ enough) (i + 1)).bind fun rs hrs => ?_
      exact .pure (.cons hr hrs)

/-- What is made of the items of a list or tuple takes its place. -/
theorem sequence_stands {isTuple : Bool} {vs : List Datum} (h : v.sequence? = some (isTuple, vs))
    (hv : v.Regular) : (∀ x ∈ vs, x.Regular) ∧ ∀ vs', Value.StandItems vs vs' →
      v.Stands ((if isTuple then Value.tuple else Value.list .free) vs') := by
  cases v <;> try cases h
  case list => exact ⟨Value.regular_list.1 hv, fun _ => stands_list⟩
  case tuple => exact ⟨Value.regular_tuple.1 hv, fun _ => stands_tuple⟩

theorem tuple_settles {items : List Schema} {rest : Option Schema}
    (hi : ∀ s ∈ items, s.Settles links) (hr : ∀ s, rest = some s → s.Settles links) :
    (tuple items rest).Settles links := by
  intro path v place hv
  rw [runWith]
  split
  · rename_i isTuple vs found
    obtain ⟨hvs, ho⟩ := sequence_stands found hv
    split
    · exact .pure (.refused place)
    · have enough : items.length ≤ vs.length := by omega
      cases rest with
      | some s =>
        refine (runTupleItems_returns hi (hr s rfl) place hvs enough 0).bind fun rs hrs => ?_
        exact .pure (sequenceResult_fit ho .nil hrs)
      | none =>
        dsimp only
        split
        · exact .pure (.refused place)
        · have kept (path : Path Live) (x : Datum) (_ : IsPlace path) (_ : x.Regular) :
              Run.Returns (pure ⟨x, []⟩) (Parsed.Fit x) := .pure (.given x)
          refine (runTupleItems_returns hi kept place hvs enough 0).bind fun rs hrs => ?_
          exact .pure (sequenceResult_fit ho .nil hrs)
  · exact wrongContainer_returns place _

theorem unionResult_fit {tried : List Parsed} (place : IsPlace path)
    (h : ∀ r ∈ tried, r.Fit v) : (unionResult path tried).Fit v := by
  unfold unionResult
  split
  · exact h _ (List.mem_of_find?_eq_some ‹_›)
  · exact .refused place

theorem runOptions_returns {options : List Schema} (h : ∀ s ∈ options, s.Settles links)
    (place : IsPlace path) (hv : v.Regular) {tried : List Parsed} (ht : ∀ r ∈ tried, r.Fit v) :
    (runOptions links options path v tried).Returns (Parsed.Fit v) := by
  induction options generalizing tried with
  | nil =>
    unfold runOptions
    exact .pure (unionResult_fit place ht)
  | cons s rest ih =>
    obtain ⟨hs, hrest⟩ := List.forall_mem_cons.1 h
    unfold runOptions
    refine (hs path v place hv).bind fun r hr => ?_
    split
    · exact .pure hr
    · exact ih hrest (List.forall_mem_append.2 ⟨ht, List.forall_mem_singleton.2 hr⟩)

theorem runOption_returns {options : List Schema} (h : ∀ s ∈ options, s.Settles links)
    (place : IsPlace path) (hv : v.Regular) (i : Nat) :
    (runOption links options i path v).Returns (Parsed.Fit v) := by
  induction options generalizing i with
  | nil =>
    unfold runOption
    exact .pure (.given v)
  | cons s rest ih =>
    obtain ⟨hs, hrest⟩ := List.forall_mem_cons.1 h
    unfold runOption
    cases i with
    | zero => exact hs path v place hv
    | succ i => exact ih hrest i

theorem tagged_settles {key : String} {options : List Schema} {table : List (Datum × Nat)}
    (h : ∀ s ∈ options, s.Settles links) : (tagged key options table).Settles links := by
  intro path v place hv
  rw [runWith]
  cases v
  case dict access entries =>
    dsimp only [Value.entries?]
    split
    · exact runOption_returns h place hv _
    · exact .pure (.refused (place.field key))
  all_goals exact wrongContainer_returns place _

theorem intersectionResult_fit {l r : Parsed} (place : IsPlace path) (hl : l.Fit v)
    (hr : r.Fit v) : (intersectionResult path l r).Fit v := by
  have reportable := hl.issues.append hr.issues
  unfold intersectionResult
  dsimp only
  split
  · exact .invalid reportable
  · rename_i valid
    simp only [Bool.or_eq_true, not_or, Bool.not_eq_true] at valid
    have left := hl.stands valid.1
    have right := hr.stands valid.2
    split
    · rename_i merged same
      refine ⟨.inl ⟨fun hv => ?_, fun hv => ?_, fun hv => ?_⟩, reportable⟩
      · exact Value.merge_regular same (left.regular hv) (right.regular hv)
      · rw [Value.merge_hashable same (left.hashable hv)]
        exact left.hashable hv
      · rw [Value.merge_hashable same (left.hashable hv.hashable)]
        exact left.key hv
    · exact .invalid (reportable.append (List.forall_mem_singleton.2 place))

theorem intersection_settles {left right : Schema} (hl : left.Settles links)
    (hr : right.Settles links) : (intersection left right).Settles links := by
  intro path v place hv
  rw [runWith]
  refine (hl path v place hv).bind fun l hl => (hr path v place hv).bind fun r hr => ?_
  exact .pure (intersectionResult_fit place hl hr)

/-- A mapping that is rebuilt from its first entry on. -/
theorem rebuild_returns {key value : Schema} (hk : key.Settles links) (hv : value.Settles links)
    {access : Access} {entries : Entries Live} (he : entries.Regular)
    {keyPath valuePath : Nat → Datum → Path Live}
    (keyPlace : ∀ i k, k.IsKey → IsPlace (keyPath i k))
    (valuePlace : ∀ i k, k.IsKey → IsPlace (valuePath i k)) :
    Run.Returns (do
      let b ← runEntries (fun p x => key.runWith links p x) (fun p x => value.runWith links p x)
        keyPath valuePath 0 entries {}
      return b.parsed) (Parsed.Fit (.dict access entries)) := by
  refine (runEntries_returns hk hv keyPlace valuePlace he 0 .empty).bind fun b hb => ?_
  exact .pure (hb.parsed access)

theorem record_settles {key value : Schema} (hk : key.Settles links) (hv : value.Settles links) :
    (record key value).Settles links := by
  intro path v place hr
  rw [runWith]
  cases v
  case dict access entries =>
    exact rebuild_returns hk hv (Value.regular_dict.1 hr) (fun _ _ => place.child)
      fun _ _ => place.child
  all_goals exact wrongContainer_returns place _

theorem map_settles {key value : Schema} (hk : key.Settles links) (hv : value.Settles links) :
    (map key value).Settles links := by
  intro path v place hr
  have below (i : Nat) (side : String) : IsPlace (path ++ [.int i, .str side]) :=
    place.append (List.forall_mem_cons.2 ⟨trivial, List.forall_mem_singleton.2 trivial⟩)
  rw [runWith]
  cases v
  case dict access entries =>
    exact rebuild_returns hk hv (Value.regular_dict.1 hr) (fun i _ _ => below i _)
      fun i _ _ => below i _
  all_goals exact wrongContainer_returns place _

theorem pipeline_settles {input output : Schema} (hi : input.Settles links)
    (ho : output.Settles links) : (pipeline input output).Settles links := by
  intro path v place hv
  rw [runWith]
  refine (hi path v place hv).bind fun r hr => hr.andThen hv fun x hx => ?_
  exact ho path x place hx

theorem readonly_settles {inner : Schema} (hi : inner.Settles links) :
    (readonly inner).Settles links := by
  intro path v place hv
  rw [runWith]
  exact (hi path v place hv).bind fun r hr => hr.freeze

theorem optional_settles {inner : Schema} (hi : inner.Settles links) :
    (optional inner).Settles links := by
  intro path v place hv
  rw [runWith]
  split
  · exact .pure (.given v)
  · exact hi path v place hv

theorem nullable_settles {inner : Schema} (hi : inner.Settles links) :
    (nullable inner).Settles links := by
  intro path v place hv
  rw [runWith]
  split
  · exact .pure (.given v)
  · exact hi path v place hv

end

/-- The parse of a regular value with an inert schema comes to a result. -/
theorem Inert.settles {s : Schema} (h : s.Inert) (links : Links) : s.Settles links := by
  induction h with
  | @intro s node parts ih =>
    have leaf {parse : Path Live → Datum → Parsed}
        (hp : ∀ path v, (parse path v).OfLeaf path v) (path : Path Live) (v : Datum)
        (place : IsPlace path) : Run.Returns (pure (parse path v)) (Parsed.Fit v) :=
      .pure (.ofLeaf place (hp path v))
    cases s
    case function | lazy | effect | default | «catch» | promise | invertible | foreign | raw =>
      cases node
    case string lengths pattern =>
      obtain ⟨hl, hp⟩ := Bool.and_eq_true_iff.1 node
      exact fun path v place _ => parseString_fit hl hp place
    case number bounds integer => exact fun path v place _ => parseNumber_fit node integer place
    case boolean => exact fun path v place _ => leaf (fun _ _ => parseBoolean_leaf) path v place
    case none => exact fun path v place _ => leaf (fun _ _ => parseNone_leaf) path v place
    case never => exact fun path v place _ => leaf (fun _ _ => parseNever_leaf) path v place
    case any | unknown => exact fun path v _ _ => .pure (.given v)
    case literal x => exact fun path v place _ => leaf (fun _ _ => parseLiteral_leaf x) path v place
    case enum xs => exact fun path v place _ => leaf (fun _ _ => parseEnum_leaf xs) path v place
    case array element lengths => exact array_settles node (ih element (by simp [children]))
    case set element => exact set_settles (ih element (by simp [children]))
    case object shape catchall policy =>
      refine object_settles (fun f hf => ih f.2 ?_) fun s hs => ih s (by simp [children, hs])
      exact List.mem_append_left _ (List.mem_map_of_mem hf)
    case union options =>
      intro path v place hv
      rw [runWith]
      exact runOptions_returns ih place hv (List.forall_mem_nil _)
    case tagged key options table => exact tagged_settles ih
    case intersection left right =>
      exact intersection_settles (ih left (by simp [children])) (ih right (by simp [children]))
    case tuple items rest =>
      refine tuple_settles (fun s hs => ih s ?_) fun s hs => ih s (by simp [children, hs])
      exact List.mem_append_left _ hs
    case record key value =>
      exact record_settles (ih key (by simp [children])) (ih value (by simp [children]))
    case map key value =>
      exact map_settles (ih key (by simp [children])) (ih value (by simp [children]))
    case optional inner => exact optional_settles (ih inner (by simp [children]))
    case nullable inner => exact nullable_settles (ih inner (by simp [children]))
    case branded inner name => exact ih inner (by simp [children])
    case pipeline input output =>
      exact pipeline_settles (ih input (by simp [children])) (ih output (by simp [children]))
    case readonly inner => exact readonly_settles (ih inner (by simp [children]))

theorem Inert.isSchema {s : Schema} (h : s.Inert) : s.isSchema := by
  cases h with
  | intro node parts =>
    cases s <;> first | rfl | cases node

end Schema

/-- A safe parse of a regular value with an inert schema gives an output, which is regular again,
or refuses the value for issues that can be reported. It ends in no other way. -/
theorem Session.safeParse_total (t : Session) (h : t.current.schema.Inert) {v : Datum}
    (hv : v.Regular) (mode : Mode) (w : World) :
    ∃ change w', t.runSafeParse v mode w = .ok change w' ∧
      ((∃ x, x.Regular ∧ change = ⟨fun _ => .parsed (.ok (Settled.shown x)), t.current, x⟩) ∨
        ∃ issues text, issues ≠ [] ∧ Issue.report issues = .ok text ∧
          change = t.keep (.parsed (.error (.refused issues)))) := by
  obtain ⟨r, w', run, fit⟩ :=
    h.settles (t.library.links mode t.depth) [] v .root hv w
  rw [runSafeParse_eq t h.isSchema]
  have parse : t.library.parse mode t.depth t.current.schema v w = Run.lift r.finish w' := by
    rw [Library.parse_of_isSchema h.isSchema]
    simp only [bind, EStateM.bind, run]
  -- Issues are only ever those of the node, or the one that stands in for a missing reason.
  have refused {issues : List (Issue Live)} (there : issues ≠ []) (hi : Reportable issues)
      (ends : r.finish = .error (.ofIssues issues)) :
      ∃ issues text, issues ≠ [] ∧ Issue.report issues = .ok text ∧
        r.finish = .error (.refused issues) := by
    obtain ⟨text, report⟩ := hi.report
    exact ⟨issues, text, there, report, by rw [ends, hi.refused]⟩
  have outcome : (∃ x, x.Regular ∧ r.finish = .ok x) ∨ ∃ issues text, issues ≠ [] ∧
      Issue.report issues = .ok text ∧ r.finish = .error (.refused issues) := by
    by_cases clean : r.issues = []
    · cases valid : r.value.isInvalid with
      | false => exact .inl ⟨r.value, fit.regular hv, Parsed.finish_ok.2 ⟨clean, valid, rfl⟩⟩
      | true =>
        exact .inr (refused (List.cons_ne_nil _ _) (List.forall_mem_singleton.2 .root)
          (Parsed.finish_error.2 (.inr ⟨clean, valid, rfl⟩)))
    · exact .inr (refused clean fit.issues (Parsed.finish_error.2 (.inl ⟨clean, rfl⟩)))
  rcases outcome with ⟨x, regular, ends⟩ | ⟨issues, text, there, report, ends⟩
  · rw [parse, ends]
    exact ⟨_, _, rfl, .inl ⟨x, regular, rfl⟩⟩
  · rw [parse, ends]
    exact ⟨_, _, rfl, .inr ⟨issues, text, there, report, rfl⟩⟩

/-! A shelf: a set of labels and the sizes of what stands on it, kept by text and by number. -/

namespace Shelf

def label : Schema := .union [.string {} none, .tuple [.number {} true] none]

def sizes : Schema := .map (.union [.string {} none, .number {} true])
  (.readonly (.array (.number { atLeast := .int 0 } false) {}))

def session : Session where
  library := Waiting.library
  depth := 1
  first := ⟨.object [("labels", .set label), ("sizes", sizes)] none .strict, .made 0 0, []⟩
  current := ⟨.object [("labels", .set label), ("sizes", sizes)] none .strict, .made 0 0, []⟩
  world := {}

theorem inert : session.current.schema.Inert := by
  have text : (Schema.string {} none).Inert := ⟨rfl, List.forall_mem_nil _⟩
  have number (bounds : Bounds Live) (integer : Bool) (h : bounds.numeric) :
      (Schema.number bounds integer).Inert := ⟨h, List.forall_mem_nil _⟩
  have whole := number {} true rfl
  have size := number { atLeast := .int 0 } false rfl
  have pair : (Schema.tuple [.number {} true] none).Inert := ⟨rfl, by simpa [Schema.children]⟩
  have label : label.Inert := ⟨rfl, by simpa [Shelf.label, Schema.children] using ⟨text, pair⟩⟩
  have labels : (Schema.set Shelf.label).Inert := ⟨rfl, by simpa [Schema.children]⟩
  have key : (Schema.union [.string {} none, .number {} true]).Inert :=
    ⟨rfl, by simpa [Schema.children] using ⟨text, whole⟩⟩
  have list : (Schema.array (.number { atLeast := .int 0 } false) {}).Inert :=
    ⟨rfl, by simpa [Schema.children]⟩
  have frozen : (Schema.readonly (.array (.number { atLeast := .int 0 } false) {})).Inert :=
    ⟨rfl, by simpa [Schema.children]⟩
  have sizes : sizes.Inert := ⟨rfl, by simpa [Shelf.sizes, Schema.children] using ⟨key, frozen⟩⟩
  exact ⟨rfl, by simpa [session, Schema.children] using ⟨labels, sizes⟩⟩

def input : Datum := .dict .free [
  (.str "labels", .set false [.str "new", .tuple [.int 7]]),
  (.str "sizes", .dict .free [(.int 3, .list .free [.str "two"])])]

theorem input_regular : input.Regular := by
  have single (i : Int) : (Value.int i : Datum).Regular := .single rfl
  have text (s : String) : (Value.str s : Datum).Regular := .single rfl
  simp [input, Entries.Regular, Value.IsKey, Value.unhashable?, Value.unhashableItem?, single, text]

/-- The size is refused, and the report says where it is. -/
theorem size_reported : session.current.schema.Inert ∧ input.Regular ∧
    ∃ issues w, issues ≠ [] ∧ session.runSafeParse input .sync {} =
        .ok (session.keep (.parsed (.error (.refused issues)))) w ∧
      Issue.report issues = .ok ("1 validation issue\n  sizes[0].value[0]: " ++
        "Input should be a valid integer [invalid_type]") := by
  have computed : ∃ issues w, session.runSafeParse input .sync {} =
        .ok (session.keep (.parsed (.error (.refused issues)))) w ∧
      Issue.report issues = .ok ("1 validation issue\n  sizes[0].value[0]: " ++
        "Input should be a valid integer [invalid_type]") := ⟨_, _, rfl, rfl⟩
  obtain ⟨issues, w, refused, report⟩ := computed
  obtain ⟨change, w', run, result⟩ :=
    Session.safeParse_total session inert input_regular .sync {}
  have same : change = session.keep (.parsed (.error (.refused issues))) := by
    rw [refused] at run
    cases run
    rfl
  have answer := congrArg (fun c => c.answer {}) same
  rcases result with ⟨x, -, rfl⟩ | ⟨listed, text, there, -, rfl⟩
  · cases answer
  · cases answer
    exact ⟨inert, input_regular, issues, w, there, refused, report⟩

end Shelf
end TwoWay
