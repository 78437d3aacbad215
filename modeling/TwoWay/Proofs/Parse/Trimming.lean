import TwoWay.Proofs.Parse.Independence
import TwoWay.Proofs.Value.Trimming

/-!
# Parsing only trims

Schemas of nodes that check a value, without replacing it, give the value back, trimmed. Entries
are only taken out where an object strips unknown keys; records, maps and sets lose nothing
(`Library.parse_trims`). A node gives a trimmed value even when it reports issues: an object that
is strict leaves out unknown keys as well, but then it has reported them.
-/

namespace TwoWay

variable {plans : Plans} {lax strips : Prop}

/-- A result without an output, or whose output is trimmed: only where issues are reported may
entries be missing that are not to be stripped. If `lax`, there may be sentinels in the value; what
holds `missing` is then left out by objects, too. -/
def Parsed.Trims (lax strips : Prop) (v : Datum) (r : Parsed) : Prop :=
  r.value = .invalid ∨ r.value.Given lax ∧ v.Trimmed (strips ∨ r.issues ≠ []) r.value

namespace Parsed.Trims

variable {v x : Datum} {r : Parsed} {issues more : List (Issue Live)}

theorem given (hv : v.Given lax) : Parsed.Trims lax strips v ⟨v, issues⟩ := .inr ⟨hv, .same v⟩

theorem invalid : Parsed.Trims lax strips v ⟨.invalid, issues⟩ := .inl rfl

theorem output (h : r.Trims lax strips v) (hr : r.value.isInvalid = false) :
    r.value.Given lax ∧ v.Trimmed (strips ∨ r.issues ≠ []) r.value :=
  h.resolve_left fun hi => by simp [hi, Value.isInvalid] at hr

theorem natural (h : r.Trims lax strips v) (hv : v.Natural lax) (hr : r.value.isInvalid = false) :
    r.value.Natural lax ∧ v.Trimmed (strips ∨ r.issues ≠ []) r.value := by
  obtain ⟨natural | missing, trimmed⟩ := h.output hr
  · exact ⟨natural, trimmed⟩
  · -- Only `missing` is trimmed to it.
    rw [missing] at trimmed ⊢
    exact ⟨Value.eq_missing trimmed.isMissing.symm ▸ hv, trimmed⟩

theorem ofLeaf {path : Path Live} (hv : v.Given lax) (h : r.OfLeaf path v) :
    r.Trims lax strips v := by
  rcases h.value with same | ⟨invalid, -⟩
  · exact .inr ⟨same ▸ hv, same ▸ .same _⟩
  · exact .inl invalid

/-- Where more is reported, more may be missing. -/
theorem reported (h : r.Trims lax strips v) (hr : r.value.isInvalid = false)
    (more : List (Issue Live)) : Parsed.Trims lax strips v ⟨r.value, r.issues ++ more⟩ := by
  obtain ⟨given, trimmed⟩ := h.output hr
  exact .inr ⟨given, trimmed.weaken fun h => h.imp_right fun h hn =>
    h (List.append_eq_nil_iff.1 hn).1⟩

/-- What is trimmed again is trimmed. -/
theorem after (h : r.Trims lax strips v) (hr : r.isClean) {t : Parsed}
    (ht : t.Trims lax strips r.value) : t.Trims lax strips v := by
  obtain ⟨valid, clean⟩ := Bool.and_eq_true_iff.1 hr
  obtain ⟨-, trimmed⟩ := h.output (by simpa using valid)
  refine ht.imp_right fun again => ⟨again.1, Value.Trimmed.trans ?_ again.2⟩
  refine trimmed.weaken fun h => .inl (h.resolve_right fun hn => hn ?_)
  exact List.isEmpty_iff.1 clean

theorem andThen (h : r.Trims lax strips v) {next : Datum → Run Parsed}
    (hn : ∀ x, x.Given lax → plans.Ensures (next x) (Parsed.Trims lax strips x)) :
    plans.Ensures (r.andThen next) (Parsed.Trims lax strips v) := by
  unfold Parsed.andThen
  split
  · rename_i clean
    have valid : r.value.isInvalid = false := by
      simpa using (Bool.and_eq_true_iff.1 clean).1
    exact (hn r.value (h.output valid).1).weaken fun t ht => h.after clean ht
  · exact .pure h

theorem freeze (h : r.Trims lax strips v) :
    plans.Ensures (do return ⟨← r.value.freeze.numbered, r.issues⟩)
      (Parsed.Trims lax strips v) := by
  rcases h with hi | ⟨given, trimmed⟩
  · rw [hi]
    exact .pure invalid
  · rcases given with natural | missing
    · refine .bind (P := fun x => x.Natural lax ∧ r.value.Trimmed (strips ∨ r.issues ≠ []) x)
        natural.freeze fun x hx => .pure ?_
      exact .inr ⟨.inl hx.1, trimmed.trans hx.2⟩
    · rw [missing] at trimmed ⊢
      exact .pure (.inr ⟨.inr rfl, trimmed⟩)

end Parsed.Trims

/-- A mapping made of trimmed entries. -/
theorem Parsed.Trims.ofEntries {access : Access} {entries entries' : Entries Live}
    {issues : List (Issue Live)} (hg : entries.Natural lax) (nodup : (entries'.map (·.1)).Nodup)
    (h : ∀ e ∈ entries', TrimsEntry lax (strips ∨ issues ≠ []) entries e)
    (all : (strips ∨ issues ≠ []) ∨ ∀ e ∈ entries, e.1 ∈ entries'.map (·.1)) :
    Parsed.Trims lax strips (.dict access entries) ⟨.dict .free entries', issues⟩ := by
  have free : Access.free.numbered = pure .free := rfl
  obtain ⟨natural, trimmed⟩ := Value.trimmed_of_entries free hg nodup h all
  exact .inr ⟨.inl natural, trimmed⟩

/-! ## Sequences and sets -/

section
variable {items : List Datum} {rs : List Parsed}

theorem runItems_trims {parse : Path Live → Datum → Run Parsed}
    (h : ∀ path, ∀ x ∈ items, plans.Ensures (parse path x) (Parsed.Trims lax strips x))
    (path : Path Live) (i : Nat) :
    plans.Ensures (runItems parse path i items) (List.Forall₂ (Parsed.Trims lax strips) items) := by
  induction items generalizing i with
  | nil => exact .pure .nil
  | cons x rest ih =>
    refine .bind (h _ x List.mem_cons_self) fun r hr => ?_
    refine .bind (ih (fun p y hy => h p y (List.mem_cons_of_mem _ hy)) (i + 1)) fun rs hrs => ?_
    exact .pure (.cons hr hrs)

theorem values_trimmed (h : List.Forall₂ (Parsed.Trims lax strips) items rs)
    (hg : ∀ x ∈ items, x.Natural lax) (hr : Parsed.anyInvalid rs = false) :
    TrimsItems lax (strips ∨ Parsed.allIssues rs ≠ []) items (Parsed.values rs) := by
  induction h with
  | nil => exact .nil
  | @cons x r rest rs first _ ih =>
    obtain ⟨hx, hrest⟩ := List.forall_mem_cons.1 hg
    obtain ⟨valid, valids⟩ := Bool.or_eq_false_iff.1 hr
    obtain ⟨natural, trimmed⟩ := first.natural hx valid
    refine .cons ⟨natural, trimmed.weaken (Or.imp_right fun h hn => h ?_)⟩
      ((ih hrest valids).imp ?_)
    · exact (List.append_eq_nil_iff.1 hn).1
    · exact fun _ _ h => ⟨h.1, h.2.weaken (Or.imp_right fun h hn =>
        h (List.append_eq_nil_iff.1 hn).2)⟩

theorem sequenceResult_trims {ofItems : List Datum → Datum} {v : Datum}
    (ho : ∀ (strips : Prop) {items'}, TrimsItems lax strips items items' →
      (ofItems items').Natural lax ∧ v.Trimmed strips (ofItems items'))
    (own : List (Issue Live)) (hg : ∀ x ∈ items, x.Natural lax)
    (h : List.Forall₂ (Parsed.Trims lax strips) items rs) :
    (sequenceResult ofItems own rs).Trims lax strips v := by
  unfold sequenceResult
  split
  · exact .invalid
  · rename_i valid
    obtain ⟨natural, trimmed⟩ := ho _ (values_trimmed h hg (eq_false_of_ne_true valid))
    refine .inr ⟨.inl natural, trimmed.weaken (Or.imp_right fun h hn => h ?_)⟩
    exact (List.append_eq_nil_iff.1 hn).2

/-- Keys are all there are in a set of them. -/
theorem distinct_keys {keys : List Datum} (h : AreKeys keys) : distinct keys = keys := by
  have grows (kept rest : List Datum) (h : AreKeys (kept ++ rest)) : rest.foldl
      (fun kept x => if kept.any (·.agrees x) then kept else kept ++ [x]) kept = kept ++ rest := by
    induction rest generalizing kept with
    | nil => exact (List.append_nil _).symm
    | cons x rest ih =>
      have new : kept.any (·.agrees x) = false := by
        refine List.any_eq_false.2 fun k hk agree => ?_
        have same := (h.apart k (List.mem_append_left _ hk) x (by simp)).1 agree
        exact (List.nodup_append.1 h.nodup).2.2 k hk x List.mem_cons_self same
      rw [List.foldl_cons, new]
      simpa using ih (kept ++ [x]) (by simpa using h)
  exact grows [] keys h

theorem values_of_keys (hk : AreKeys items) (h : TrimsItems lax strips items (Parsed.values rs)) :
    Parsed.values rs = items := by
  have hashable := hk.hashable
  clear hk
  generalize Parsed.values rs = values at h
  induction h with
  | nil => rfl
  | cons first _ ih =>
    obtain ⟨hx, hrest⟩ := List.forall_mem_cons.1 hashable
    rw [first.2.eq_of_hashable hx, ih hrest]

theorem setResult_trims {readOnly : Bool} (hk : AreKeys items) (hg : ∀ x ∈ items, x.Natural lax)
    (h : List.Forall₂ (Parsed.Trims lax strips) items rs) :
    plans.Ensures (setResult readOnly rs) fun r =>
      r.value = .invalid ∨ r.value = .set readOnly items := by
  unfold setResult
  split
  · exact .pure (.inl rfl)
  · rename_i valid
    have same := values_of_keys hk (values_trimmed h hg (eq_false_of_ne_true valid))
    refine .andThen (requireEach_ensures _) fun _ => .pure (.inr ?_)
    rw [same, distinct_keys hk]

end

/-! ## Mappings -/

/-- The second list has trimmed, natural values under the keys of the first, in their order. -/
abbrev TrimsValues (lax strips : Prop) (entries entries' : Entries Live) : Prop :=
  List.Forall₂ (fun e e' => e'.1 = e.1 ∧ e'.2.Natural lax ∧ e.2.Trimmed strips e'.2) entries
    entries'

theorem TrimsValues.keys {entries entries' : Entries Live}
    (h : TrimsValues lax strips entries entries') : entries'.map (·.1) = entries.map (·.1) := by
  induction h with
  | nil => rfl
  | cons first _ ih => rw [List.map_cons, List.map_cons, first.1, ih]

theorem TrimsValues.entry {entries entries' : Entries Live}
    (h : TrimsValues lax strips entries entries') :
    ∀ e ∈ entries', TrimsEntry lax strips entries e := by
  induction h with
  | nil => exact List.forall_mem_nil _
  | @cons e e' rest rest' first _ ih =>
    refine List.forall_mem_cons.2 ⟨⟨first.2.1, e.2, ?_, first.2.2⟩, fun f hf => ?_⟩
    · exact first.1 ▸ List.mem_cons_self
    · obtain ⟨natural, v, hv, trimmed⟩ := ih f hf
      exact ⟨natural, v, List.mem_cons_of_mem _ hv, trimmed⟩

theorem TrimsValues.weaken {entries entries' : Entries Live} {strips' : Prop}
    (h : TrimsValues lax strips entries entries') (hs : strips → strips') :
    TrimsValues lax strips' entries entries' :=
  h.imp fun _ _ h => ⟨h.1, h.2.1, h.2.2.weaken hs⟩

/-- The state of a mapping of which some entries have been rebuilt. -/
def Rebuilt.Trims (lax strips : Prop) (done : Entries Live) (b : Rebuilt) : Prop :=
  b.failed = false → TrimsValues lax (strips ∨ b.issues ≠ []) done b.entries

/-- Writing under a key that is not there yet. -/
theorem put_new {entries : Entries Live} {k : Datum} (v : Datum)
    (h : ∀ l ∈ entries.map (·.1), l.agrees k = false) :
    Entries.put entries k v = entries ++ [(k, v)] := by
  induction entries with
  | nil => rfl
  | cons e rest ih =>
    obtain ⟨he, hrest⟩ := List.forall_mem_cons.1 h
    rw [Entries.put, he]
    simpa using ih hrest

theorem Rebuilt.Trims.add {done : Entries Live} {b : Rebuilt} (h : b.Trims lax strips done)
    {k v : Datum} (hg : Entries.Natural lax (done ++ [(k, v)])) {key value : Parsed}
    (hk : key.Trims lax strips k) (hv : value.Trims lax strips v) :
    plans.Ensures (b.add key value) (Rebuilt.Trims lax strips (done ++ [(k, v)])) := by
  unfold Rebuilt.add
  split
  · exact .pure fun ok => by cases ok
  · rename_i valid
    simp only [Bool.or_eq_true, not_or, Bool.not_eq_true] at valid
    refine .andThen (.requireHashable _) fun _ => .pure fun ok => ?_
    have kept := h ok
    have last : (k, v) ∈ done ++ [(k, v)] := by simp
    have named : k ∈ (done ++ [(k, v)]).map (·.1) := List.mem_map_of_mem last
    have same : key.value = k :=
      (hk.natural (hg.key _ last) valid.1).2.eq_of_hashable (hg.keys.hashable k named)
    have new : ∀ l ∈ b.entries.map (·.1), l.agrees k = false := by
      rw [kept.keys]
      intro l hl
      refine eq_false_of_ne_true fun agree => ?_
      have listed : l ∈ (done ++ [(k, v)]).map (·.1) := by
        rw [List.map_append]
        exact List.mem_append_left _ hl
      have nodup := hg.keys.nodup
      rw [List.map_append] at nodup
      have apart := (List.nodup_append.1 nodup).2.2 l hl k (by simp)
      exact apart ((hg.keys.apart l listed k named).1 agree)
    obtain ⟨natural, trimmed⟩ := hv.natural (hg.value _ last) valid.2
    dsimp only
    rw [same, put_new _ new]
    refine List.rel_append (kept.weaken ?_) (.cons ⟨rfl, natural, trimmed.weaken ?_⟩ .nil)
    · exact Or.imp_right fun hn h => hn (by simp_all)
    · exact Or.imp_right fun hn h => hn (by simp_all)

section
variable {key value : Path Live → Datum → Run Parsed} {done entries : Entries Live}

theorem runEntries_trims (hg : Entries.Natural lax (done ++ entries))
    (hk : ∀ path, ∀ e ∈ entries, plans.Ensures (key path e.1) (Parsed.Trims lax strips e.1))
    (hv : ∀ path, ∀ e ∈ entries, plans.Ensures (value path e.2) (Parsed.Trims lax strips e.2))
    (keyPath valuePath : Nat → Datum → Path Live) (i : Nat) {b : Rebuilt}
    (hb : b.Trims lax strips done) :
    plans.Ensures (runEntries key value keyPath valuePath i entries b)
      (Rebuilt.Trims lax strips (done ++ entries)) := by
  induction entries generalizing done i b with
  | nil =>
    rw [List.append_nil]
    exact .pure hb
  | cons e rest ih =>
    have split : done ++ e :: rest = (done ++ [e]) ++ rest := by simp
    rw [split] at hg ⊢
    have first : Entries.Natural lax (done ++ [e]) := hg.sublist (List.sublist_append_left _ _)
    refine .bind (hk _ e List.mem_cons_self) fun k hkey => ?_
    refine .bind (hv _ e List.mem_cons_self) fun v hvalue => ?_
    refine .bind (hb.add first hkey hvalue) fun b' hb' => ?_
    exact ih hg (fun p e he => hk p e (List.mem_cons_of_mem _ he))
      (fun p e he => hv p e (List.mem_cons_of_mem _ he)) (i + 1) hb'

theorem runValues_trims {parse : Path Live → Datum → Run Parsed}
    (h : ∀ path, ∀ e ∈ entries, plans.Ensures (parse path e.2) (Parsed.Trims lax strips e.2))
    (path : Path Live) : plans.Ensures (runValues parse path entries)
      (List.Forall₂ (fun e r => r.1 = e.1 ∧ r.2.Trims lax strips e.2) entries) := by
  induction entries with
  | nil => exact .pure .nil
  | cons e rest ih =>
    refine .bind (h _ e List.mem_cons_self) fun r hr => ?_
    refine .bind (ih fun p f hf => h p f (List.mem_cons_of_mem _ hf)) fun rs hrs => ?_
    exact .pure (.cons ⟨rfl, hr⟩ hrs)

end

/-- What a record or map is rebuilt to has all the keys, in their order. -/
theorem Rebuilt.Trims.parsed {access : Access} {entries : Entries Live} {b : Rebuilt}
    (h : b.Trims lax strips entries) (hg : entries.Natural lax) :
    b.parsed.Trims lax strips (.dict access entries) ∧
      (b.parsed.value.isInvalid = false → ∃ entries', b.parsed.value = .dict .free entries' ∧
        entries'.map (·.1) = entries.map (·.1)) := by
  unfold Rebuilt.parsed
  cases failed : b.failed with
  | true => exact ⟨.invalid, fun valid => by cases valid⟩
  | false =>
    have kept := h failed
    refine ⟨.ofEntries hg (kept.keys ▸ hg.keys.nodup) kept.entry (.inr fun e he => ?_), ?_⟩
    · exact kept.keys ▸ List.mem_map_of_mem he
    · exact fun _ => ⟨_, rfl, kept.keys⟩

/-- A mapping that is rebuilt from its first entry on. -/
theorem rebuild_trims {key value : Path Live → Datum → Run Parsed} (access : Access)
    {entries : Entries Live} (hg : entries.Natural lax)
    (hk : ∀ path k, k.Given lax → plans.Ensures (key path k) (Parsed.Trims lax strips k))
    (hv : ∀ path v, v.Given lax → plans.Ensures (value path v) (Parsed.Trims lax strips v))
    (keyPath valuePath : Nat → Datum → Path Live) :
    plans.Ensures (do
      let b ← runEntries key value keyPath valuePath 0 entries {}
      return b.parsed) fun r => r.Trims lax strips (.dict access entries) ∧
        (r.value.isInvalid = false → ∃ entries', r.value = .dict .free entries' ∧
          entries'.map (·.1) = entries.map (·.1)) := by
  have start : Rebuilt.Trims lax strips [] {} := fun _ => .nil
  have whole : Entries.Natural lax ([] ++ entries) := hg
  refine .bind (runEntries_trims whole (fun p e he => hk p e.1 (.inl (hg.key e he)))
    (fun p e he => hv p e.2 (.inl (hg.value e he))) _ _ 0 start) fun b hb => ?_
  exact .pure (hb.parsed hg)

/-! ## Objects -/

section
variable {shape : List (String × Schema)} {entries : Entries Live} {fs : List (String × Parsed)}

theorem mem_extraEntries {e : Datum × Datum} : e ∈ extraEntries shape entries ↔
    e ∈ entries ∧ ∀ f ∈ shape, e.1 ≠ .str f.1 := by
  simp [extraEntries, List.mem_filter, ← equal_str]

theorem valueAt_mem {key : String} (h : (valueAt entries key).isMissing = false) :
    (.str key, valueAt entries key) ∈ entries := by
  unfold valueAt Entries.get? at h ⊢
  cases found : entries.find? fun e => e.1.agrees (.str key) with
  | none =>
    rw [found] at h
    cases h
  | some e =>
    have same : e.1 = .str key := agrees_str.1 (by simpa using List.find?_some found)
    have there := List.mem_of_find?_eq_some found
    rw [← same]
    exact there

theorem valueAt_given (hg : entries.Natural lax) (key : String) :
    (valueAt entries key).Given lax := by
  cases h : (valueAt entries key).isMissing with
  | true => exact .inr (Value.eq_missing h)
  | false => exact .inl (hg.value _ (valueAt_mem h))

theorem valueAt_eq (hg : entries.Natural lax) {key : String} {v : Datum}
    (hv : (.str key, v) ∈ entries) : valueAt entries key = v := by
  unfold valueAt Entries.get?
  cases found : entries.find? fun e => e.1.agrees (.str key) with
  | none =>
    have absent := List.find?_eq_none.1 found _ hv
    exact absurd (agrees_str.2 rfl) absent
  | some e =>
    have same : e.1 = .str key := agrees_str.1 (by simpa using List.find?_some found)
    have there := List.mem_of_find?_eq_some found
    exact hg.unique (same ▸ there) hv

/-- A schema trims whatever it is given. -/
def Schema.Trimming (plans : Plans) (lax strips : Prop) (links : Links) (s : Schema) : Prop :=
  ∀ path v, v.Given lax → plans.Ensures (s.runWith links path v) (Parsed.Trims lax strips v)

/-- The results of the fields of an object. -/
structure TrimsFields (lax strips : Prop) (entries : Entries Live) (shape : List (String × Schema))
    (fs : List (String × Parsed)) : Prop where
  names : fs.map (·.1) = shape.map (·.1)
  results : ∀ g ∈ fs, g.2.Trims lax strips (valueAt entries g.1)

theorem runFields_trims {links : Links}
    (h : ∀ f ∈ shape, f.2.Trimming plans lax strips links) (hg : entries.Natural lax)
    (path : Path Live) :
    plans.Ensures (runFields links shape path entries) (TrimsFields lax strips entries shape) := by
  induction shape with
  | nil => exact .pure ⟨rfl, List.forall_mem_nil _⟩
  | cons f rest ih =>
    obtain ⟨hf, hrest⟩ := List.forall_mem_cons.1 h
    refine .bind (hf _ _ (valueAt_given hg f.1)) fun r hr => ?_
    refine .bind (ih hrest) fun fs hfs => .pure ⟨?_, ?_⟩
    · exact congrArg (f.1 :: ·) hfs.names
    · exact List.forall_mem_cons.2 ⟨hr, hfs.results⟩

theorem runFields_names {links : Links} {path : Path Live} {w w' : World}
    (h : runFields links shape path entries w = .ok fs w') :
    fs.map (·.1) = shape.map (·.1) := by
  induction shape generalizing fs w with
  | nil =>
    cases h
    rfl
  | cons field rest ih =>
    obtain ⟨r, u, -, h⟩ := Run.bind_ok.1 h
    obtain ⟨rs, u', hrs, h⟩ := Run.bind_ok.1 h
    cases h
    exact congrArg (field.1 :: ·) (ih hrs)

theorem issues_of_allIssues {rs : List Parsed} {r : Parsed} (hr : r ∈ rs)
    (h : r.issues ≠ []) : Parsed.allIssues rs ≠ [] :=
  fun none => h (List.flatMap_eq_nil_iff.1 none r hr)

theorem mem_fieldEntries {e : Datum × Datum} : e ∈ fieldEntries fs ↔
    ∃ g ∈ fs, g.2.value.isInvalid = false ∧ g.2.value.isMissing = false ∧
      e = (.str g.1, g.2.value) := by
  unfold fieldEntries
  rw [List.mem_filterMap]
  refine exists_congr fun g => and_congr_right fun _ => ?_
  cases g.2.value.isInvalid <;> cases g.2.value.isMissing <;> simp [eq_comm]

theorem fieldEntries_keys (fs : List (String × Parsed)) :
    ((fieldEntries fs).map (·.1)).Sublist ((fs.map (·.1)).map Value.str) := by
  induction fs with
  | nil => exact .refl _
  | cons g rest ih =>
    unfold fieldEntries at ih ⊢
    rw [List.filterMap_cons]
    split
    · exact ih.trans (List.sublist_cons_self _ _)
    · rename_i e he
      split at he
      · cases he
      · cases he
        exact ih.cons_cons _

/-- Every declared key that is there gets a value, unless a field has none. -/
theorem fieldEntries_all (plain : ¬lax) (hg : entries.Natural lax)
    (h : TrimsFields lax strips entries shape fs)
    (hr : Parsed.anyInvalid (fs.map (·.2)) = false) {e : Datum × Datum} (he : e ∈ entries)
    {f : String × Schema} (hf : f ∈ shape) (hk : e.1 = .str f.1) :
    e.1 ∈ (fieldEntries fs).map (·.1) := by
  have named : f.1 ∈ fs.map (·.1) := h.names ▸ List.mem_map_of_mem hf
  obtain ⟨g, hmem, same⟩ := List.mem_map.1 named
  have stood : valueAt entries g.1 = e.2 := by
    refine valueAt_eq hg ?_
    rw [same, ← hk]
    exact he
  have valid := isInvalid_of_anyInvalid hr (List.mem_map_of_mem hmem)
  have present : g.2.value.isMissing = false := by
    rw [((h.results g hmem).output valid).2.isMissing, stood]
    exact (hg.value e he).isMissing plain
  refine List.mem_map.2 ⟨_, mem_fieldEntries.2 ⟨g, hmem, valid, present, rfl⟩, ?_⟩
  rw [hk, same]

theorem fieldEntries_trimmed (h : TrimsFields lax strips entries shape fs) :
    ∀ e ∈ fieldEntries fs,
      TrimsEntry lax (strips ∨ Parsed.allIssues (fs.map (·.2)) ≠ []) entries e := by
  intro e he
  obtain ⟨g, hmem, valid, present, rfl⟩ := mem_fieldEntries.1 he
  obtain ⟨given, trimmed⟩ := (h.results g hmem).output valid
  have there := valueAt_mem (trimmed.isMissing.symm.trans present)
  refine ⟨given.natural present, _, there, trimmed.weaken (Or.imp_right ?_)⟩
  exact issues_of_allIssues (List.mem_map_of_mem hmem)

variable {extra : Entries Live} {issues : List (Issue Live)} {failed : Bool} {access : Access}

theorem objectEntries_nodup (hn : (shape.map (·.1)).Nodup)
    (h : TrimsFields lax strips entries shape fs) (hextra : (extra.map (·.1)).Nodup)
    (he : ∀ e ∈ extra, e.1 ∈ (extraEntries shape entries).map (·.1)) :
    ((fieldEntries fs ++ extra).map (·.1)).Nodup := by
  have names : ((fs.map (·.1)).map (Value.str : String → Datum)).Nodup :=
    h.names ▸ hn.map fun _ _ => Value.str.inj
  rw [List.map_append]
  refine (names.sublist (fieldEntries_keys fs)).append hextra ?_
  intro k hk hl
  obtain ⟨e, hmem, rfl⟩ := List.mem_map.1 hl
  obtain ⟨e', hmem', same⟩ := List.mem_map.1 (he e hmem)
  obtain ⟨name, hname, hstr⟩ := List.mem_map.1 ((fieldEntries_keys fs).subset hk)
  obtain ⟨f, hf, rfl⟩ := List.mem_map.1 (h.names ▸ hname)
  exact (mem_extraEntries.1 hmem').2 f hf (same.trans hstr.symm)

/-- The result of an object, if what stands outside of its shape is trimmed as well. -/
theorem objectResult_trims (lenient : lax → strips) (hg : entries.Natural lax)
    (hn : (shape.map (·.1)).Nodup) (h : TrimsFields lax strips entries shape fs)
    (he : failed = false → (extra.map (·.1)).Nodup ∧
      (∀ e ∈ extra, TrimsEntry lax (strips ∨ issues ≠ []) (extraEntries shape entries) e) ∧
      (strips ∨ issues ≠ [] ∨ ∀ e ∈ extraEntries shape entries, e.1 ∈ extra.map (·.1))) :
    (objectResult fs extra issues failed).Trims lax strips (.dict access entries) := by
  unfold objectResult
  dsimp only
  split
  · exact .invalid
  · rename_i ok
    simp only [Bool.or_eq_true, not_or, Bool.not_eq_true] at ok
    obtain ⟨nodup, extras, all⟩ := he ok.1
    have within : extraEntries shape entries ⊆ entries := List.filter_subset_self _
    refine .ofEntries hg (objectEntries_nodup hn h nodup fun e he => (extras e he).mem_keys) ?_ ?_
    · refine List.forall_mem_append.2 ⟨fun e he => ?_, fun e he => ?_⟩
      · refine (fieldEntries_trimmed h e he).weaken (Or.imp_right ?_) (List.Subset.refl _)
        exact fun h => List.append_ne_nil_of_left_ne_nil h _
      · refine (extras e he).weaken (Or.imp_right ?_) within
        exact List.append_ne_nil_of_right_ne_nil _
    · rcases all with strips | reported | all
      · exact .inl (.inl strips)
      · exact .inl (.inr (List.append_ne_nil_of_right_ne_nil _ reported))
      · by_cases plain : lax
        · exact .inl (.inl (lenient plain))
        refine .inr fun e he => ?_
        rw [List.map_append]
        by_cases declared : ∃ f ∈ shape, e.1 = .str f.1
        · obtain ⟨f, hf, same⟩ := declared
          exact List.mem_append_left _ (fieldEntries_all plain hg h ok.2 he hf same)
        · refine List.mem_append_right _ (all e (mem_extraEntries.2 ⟨he, fun f hf same => ?_⟩))
          exact declared ⟨f, hf, same⟩

theorem closedObject_trims {policy : UnknownKeys} {path : Path Live}
    (lenient : lax → strips) (hg : entries.Natural lax) (hn : (shape.map (·.1)).Nodup)
    (h : TrimsFields lax strips entries shape fs)
    (hp : strips ∨ policy ≠ .strip) :
    (closedObject path policy fs (extraEntries shape entries)).Trims lax strips
      (.dict access entries) := by
  have extras : (extraEntries shape entries).Natural lax := hg.sublist List.filter_sublist
  cases policy with
  | strip =>
    refine objectResult_trims lenient hg hn h fun _ =>
      ⟨List.nodup_nil, List.forall_mem_nil _, .inl ?_⟩
    exact hp.resolve_right fun differ => differ rfl
  | passthrough =>
    refine objectResult_trims lenient hg hn h fun _ => ⟨extras.keys.nodup, fun e he => ?_, ?_⟩
    · exact ⟨extras.value e he, e.2, he, .same _⟩
    · exact .inr (.inr fun e he => List.mem_map_of_mem he)
  | strict =>
    refine objectResult_trims lenient hg hn h fun _ =>
      ⟨List.nodup_nil, List.forall_mem_nil _, .inr ?_⟩
    cases unknown : extraEntries shape entries with
    | nil => exact .inr (List.forall_mem_nil _)
    | cons => exact .inl (List.cons_ne_nil _ _)

/-- The values that a catchall gives. -/
theorem outputs_trimmed {rs : List (Datum × Parsed)} (hg : ∀ e ∈ entries, e.2.Natural lax)
    (h : List.Forall₂ (fun e r => r.1 = e.1 ∧ r.2.Trims lax strips e.2) entries rs)
    (hr : Parsed.anyInvalid (rs.map (·.2)) = false) :
    TrimsValues lax (strips ∨ Parsed.allIssues (rs.map (·.2)) ≠ []) entries
      (rs.map fun e => (e.1, e.2.value)) := by
  induction h with
  | nil => exact .nil
  | @cons e r rest rs first _ ih =>
    obtain ⟨he, hrest⟩ := List.forall_mem_cons.1 hg
    obtain ⟨valid, valids⟩ := Bool.or_eq_false_iff.1 hr
    obtain ⟨natural, trimmed⟩ := first.2.natural he valid
    refine .cons ⟨first.1, natural, trimmed.weaken (Or.imp_right fun h => ?_)⟩
      ((ih hrest valids).weaken (Or.imp_right ?_))
    · exact List.append_ne_nil_of_left_ne_nil h _
    · exact List.append_ne_nil_of_right_ne_nil _

theorem openObject_trims {rs : List (Datum × Parsed)} (lenient : lax → strips)
    (hg : entries.Natural lax)
    (hn : (shape.map (·.1)).Nodup) (h : TrimsFields lax strips entries shape fs)
    (hr : List.Forall₂ (fun e r => r.1 = e.1 ∧ r.2.Trims lax strips e.2)
      (extraEntries shape entries) rs) :
    (openObject fs rs).Trims lax strips (.dict access entries) := by
  have extras : (extraEntries shape entries).Natural lax := hg.sublist List.filter_sublist
  refine objectResult_trims lenient hg hn h fun valid => ?_
  have kept := outputs_trimmed extras.value hr valid
  refine ⟨kept.keys ▸ extras.keys.nodup, kept.entry, .inr (.inr fun e he => ?_)⟩
  exact kept.keys ▸ List.mem_map_of_mem he

end

/-! ## Alternatives and tuples -/

section
variable {links : Links} {path : Path Live} {v : Datum}

theorem runOptions_trims {options : List Schema} (hv : v.Given lax)
    (h : ∀ s ∈ options, s.Trimming plans lax strips links)
    {tried : List Parsed} (ht : ∀ r ∈ tried, r.Trims lax strips v) :
    plans.Ensures (runOptions links options path v tried) (Parsed.Trims lax strips v) := by
  induction options generalizing tried with
  | nil =>
    refine .pure ?_
    unfold unionResult
    split
    · exact ht _ (List.mem_of_find?_eq_some ‹_›)
    · exact .invalid
  | cons s rest ih =>
    obtain ⟨hs, hrest⟩ := List.forall_mem_cons.1 h
    refine .bind (hs path v hv) fun r hr => ?_
    split
    · exact .pure hr
    · exact ih hrest (List.forall_mem_append.2 ⟨ht, List.forall_mem_singleton.2 hr⟩)

theorem runOption_trims {options : List Schema} (hv : v.Given lax)
    (h : ∀ s ∈ options, s.Trimming plans lax strips links) (i : Nat) :
    plans.Ensures (runOption links options i path v) (Parsed.Trims lax strips v) := by
  induction options generalizing i with
  | nil => exact .pure (.given hv)
  | cons s rest ih =>
    obtain ⟨hs, hrest⟩ := List.forall_mem_cons.1 h
    cases i with
    | zero => exact hs path v hv
    | succ i => exact ih hrest i

theorem runTupleItems_trims {items : List Schema} {parse : Path Live → Datum → Run Parsed}
    {vs : List Datum} (h : ∀ s ∈ items, s.Trimming plans lax strips links)
    (hr : ∀ path, ∀ x ∈ vs, plans.Ensures (parse path x) (Parsed.Trims lax strips x))
    (hg : ∀ x ∈ vs, x.Natural lax) (hl : items.length ≤ vs.length) (i : Nat) :
    plans.Ensures (runTupleItems links items parse path i vs)
      (List.Forall₂ (Parsed.Trims lax strips) vs) := by
  induction items generalizing vs i with
  | nil => exact runItems_trims hr path i
  | cons s rest ih =>
    obtain ⟨hs, hrest⟩ := List.forall_mem_cons.1 h
    cases vs with
    | nil => exact absurd hl (Nat.not_succ_le_zero _)
    | cons x xs =>
      obtain ⟨hx, hxs⟩ := List.forall_mem_cons.1 hg
      refine .bind (hs _ x (.inl hx)) fun r hr' => ?_
      refine .bind (ih hrest (fun p y hy => hr p y (List.mem_cons_of_mem _ hy)) hxs
        (Nat.le_of_succ_le_succ hl) (i + 1)) fun rs hrs => ?_
      exact .pure (.cons hr' hrs)

/-- The items of a list or tuple, and what is made of trimmed ones. -/
theorem sequence_trims {isTuple : Bool} {vs : List Datum} (hv : v.Natural lax)
    (h : v.sequence? = some (isTuple, vs)) : (∀ x ∈ vs, x.Natural lax) ∧
      ∀ (strips : Prop) {items}, TrimsItems lax strips vs items →
        ((if isTuple then Value.tuple else Value.list .free) items : Datum).Natural lax ∧
          v.Trimmed strips ((if isTuple then Value.tuple else Value.list .free) items) := by
  cases v
  case list access items =>
    cases h
    exact ⟨(Value.natural_list.1 hv).2, fun _ _ h => ⟨.list rfl h.natural, .ofItems h.trimmed⟩⟩
  case tuple items =>
    cases h
    exact ⟨Value.natural_tuple.1 hv, fun _ _ h => ⟨.tuple h.natural, .ofTuple h.trimmed⟩⟩
  all_goals cases h

/-- A tuple keeps every position. -/
theorem tuple_trims {items : List Schema} {rest : Option Schema} (hv : v.Given lax)
    (h : ∀ s ∈ items, s.Trimming plans lax strips links)
    (hr : ∀ s, rest = some s → s.Trimming plans lax strips links) :
    plans.Ensures ((Schema.tuple items rest).runWith links path v) (Parsed.Trims lax strips v) := by
  simp only [Schema.runWith]
  cases sequence : v.sequence? with
  | none => exact .pure .invalid
  | some found =>
    obtain ⟨isTuple, vs⟩ := found
    have present : v.isMissing = false := by
      cases v
      case missing => cases sequence
      all_goals rfl
    obtain ⟨hg, whole⟩ := sequence_trims (hv.natural present) sequence
    dsimp only
    split
    · exact .pure .invalid
    · rename_i enough
      have enough := Nat.le_of_not_lt enough
      cases rest with
      | some s =>
        refine .bind (runTupleItems_trims h (fun p x hx => hr s rfl p x (.inl (hg x hx))) hg
          enough 0) fun rs hrs => ?_
        exact .pure (sequenceResult_trims whole [] hg hrs)
      | none =>
        dsimp only
        split
        · exact .pure .invalid
        · refine .bind (runTupleItems_trims h (fun p x hx => .pure (.given (.inl (hg x hx)))) hg
            enough 0) fun rs hrs => ?_
          exact .pure (sequenceResult_trims whole [] hg hrs)

theorem intersectionResult_trims {l r : Parsed} (hv : v.Given lax) (hl : l.Trims lax strips v)
    (hr : r.Trims lax strips v) : (intersectionResult path l r).Trims lax strips v := by
  unfold intersectionResult
  split
  · exact .invalid
  · rename_i valid
    simp only [Bool.or_eq_true, not_or, Bool.not_eq_true] at valid
    split
    · rename_i z hz
      obtain ⟨hx, left⟩ := hl.output valid.1
      obtain ⟨hy, right⟩ := hr.output valid.2
      rcases hv with hv | rfl
      · have left : v.Trimmed (strips ∨ l.issues ++ r.issues ≠ []) l.value :=
          left.weaken (Or.imp_right fun h => List.append_ne_nil_of_left_ne_nil h _)
        have right : v.Trimmed (strips ∨ l.issues ++ r.issues ≠ []) r.value :=
          right.weaken (Or.imp_right (List.append_ne_nil_of_right_ne_nil _))
        obtain ⟨natural, trimmed⟩ := merge_trimmed hz hv (hl.natural hv valid.1).1
          (hr.natural hv valid.2).1 left right
        exact .inr ⟨.inl natural, trimmed⟩
      · rw [Value.eq_missing left.isMissing] at hz
        exact .inr ⟨.inr (missing_merge hz), missing_merge hz ▸ .same _⟩
    · exact .invalid

end

/-! ## Nodes -/

/-- Nodes that check values and do not replace them. Unless `strips`, an object has to take
notice of unknown keys. The names of a shape are distinct, as it is a mapping. -/
def Schema.Checks (strips : Prop) : Schema → Prop
  | .object shape catchall policy =>
    (shape.map (·.1)).Nodup ∧ (strips ∨ catchall.isSome ∨ policy ≠ .strip)
  | .effect kind .. => kind = .refinement
  | .default .. | .catch .. | .promise _ | .function .. | .invertible .. | .foreign _ | .raw _ =>
    False
  | _ => True

/-- Schemas that only check values, also behind lazy nodes. -/
structure Plans.Checking (plans : Plans) (strips : Prop) (schemas : Schema → Prop) : Prop where
  node : ∀ {s}, schemas s → s.Checks strips
  child : ∀ {s c}, schemas s → c ∈ s.children → schemas c
  behind : ∀ {id origin s}, schemas (.lazy id origin) → plans.Gives id origin s → schemas s

/-- What records, maps and sets give has lost no key and no item. -/
def Schema.Retains : Schema → Datum → Datum → Prop
  | .record .., v, x | .map .., v, x => ∃ access entries entries',
    v = .dict access entries ∧ x = .dict .free entries' ∧
      entries'.map (·.1) = entries.map (·.1)
  | .set _, v, x => x = v
  | _, _, _ => True

/-- A result that is trimmed, and that retains what the schema has to. -/
def Schema.TrimsTo (lax strips : Prop) (s : Schema) (v : Datum) (r : Parsed) : Prop :=
  r.Trims lax strips v ∧ (r.value.isInvalid = false → s.Retains v r.value)

theorem Schema.TrimsTo.invalid {s : Schema} {v : Datum} {issues : List (Issue Live)} :
    s.TrimsTo lax strips v ⟨.invalid, issues⟩ :=
  ⟨.invalid, fun valid => by cases valid⟩

/-- Most nodes have nothing more to retain. -/
theorem Plans.Ensures.trimsTo {s : Schema} {v : Datum} {m : Run Parsed}
    (h : plans.Ensures m (Parsed.Trims lax strips v)) (free : ∀ x, s.Retains v x) :
    plans.Ensures m (s.TrimsTo lax strips v) :=
  h.weaken fun r trims => ⟨trims, fun _ => free r.value⟩

namespace Schema

variable {links : Links} {path : Path Live} {v : Datum}

theorem array_trims {element : Schema} {lengths : Lengths Live} (hv : v.Given lax)
    (h : element.Trimming plans lax strips links) :
    plans.Ensures ((array element lengths).runWith links path v) (Parsed.Trims lax strips v) := by
  cases v
  case list access items =>
    have items := (Value.natural_list.1 (hv.natural rfl)).2
    refine .bind (.liftFault fun _ _ => trivial) fun own (_ : True) => ?_
    refine .bind (runItems_trims (fun p x hx => h p x (.inl (items x hx))) path 0)
      fun rs hrs => .pure ?_
    refine sequenceResult_trims (fun _ _ h => ⟨.list rfl h.natural, ?_⟩) own items hrs
    exact .ofItems h.trimmed
  all_goals exact .pure .invalid

theorem set_trims {element : Schema} (hv : v.Given lax)
    (h : element.Trimming plans lax strips links) :
    plans.Ensures ((set element).runWith links path v) ((set element).TrimsTo lax strips v) := by
  cases v
  case set readOnly items =>
    obtain ⟨keys, items⟩ := Value.natural_set.1 (hv.natural rfl)
    refine .bind (runItems_trims (fun p x hx => h p x (.inl (items x hx))) path 0)
      fun rs hrs => (setResult_trims keys items hrs).weaken fun r hr => ?_
    rcases hr with hr | hr
    · exact ⟨.inl hr, fun valid => by simp [hr, Value.isInvalid] at valid⟩
    · refine ⟨.inr ⟨?_, ?_⟩, fun _ => hr⟩
      · rw [hr]
        exact .inl (.set keys items)
      · rw [hr]
        exact .same _
  all_goals exact .pure .invalid

theorem object_trims {shape : List (String × Schema)} {catchall : Option Schema}
    {policy : UnknownKeys} (lenient : lax → strips) (hv : v.Given lax)
    (hc : (object shape catchall policy).Checks strips)
    (hf : ∀ f ∈ shape, f.2.Trimming plans lax strips links)
    (hr : ∀ s, catchall = some s → s.Trimming plans lax strips links) :
    plans.Ensures ((object shape catchall policy).runWith links path v)
      (Parsed.Trims lax strips v) := by
  obtain ⟨distinct, known⟩ := hc
  cases v
  case dict access entries =>
    have hg := (Value.natural_dict.1 (hv.natural rfl)).2
    have within : (extraEntries shape entries).Sublist entries := List.filter_sublist
    simp only [runWith, Value.entries?]
    refine .bind (runFields_trims hf hg path) fun fs hfs => ?_
    cases catchall with
    | none =>
      have known : strips ∨ policy ≠ .strip := known.imp_right fun h => by simpa using h
      exact .pure (closedObject_trims lenient hg distinct hfs known)
    | some c =>
      refine .bind (runValues_trims (fun p e he =>
        hr c rfl p e.2 (.inl (hg.value e (within.subset he)))) path) fun rs hrs => ?_
      exact .pure (openObject_trims lenient hg distinct hfs hrs)
  all_goals exact .pure .invalid

theorem tagged_trims {key : String} {options : List Schema} {table : List (Datum × Nat)}
    (hv : v.Given lax) (h : ∀ s ∈ options, s.Trimming plans lax strips links) :
    plans.Ensures ((tagged key options table).runWith links path v)
      (Parsed.Trims lax strips v) := by
  cases v
  case dict access entries =>
    simp only [runWith, Value.entries?]
    cases optionAt? table (valueAt entries key) with
    | some i => exact runOption_trims hv h i
    | none => exact .pure .invalid
  all_goals exact .pure .invalid

/-- A refinement hands on what the schema it wraps gives, and may report about it. -/
theorem refined_trims {action : Action Live} {elidable : Bool} {inner : Schema} (hv : v.Given lax)
    (act : ∀ action path v, plans.Ensures (links.act action path v) fun _ => True)
    (h : inner.Trimming plans lax strips links) :
    plans.Ensures ((effect .refinement action elidable inner).runWith links path v)
      (Parsed.Trims lax strips v) := by
  refine .bind (h path v hv) fun r hr => ?_
  by_cases valid : r.value.isInvalid
  · rw [if_pos valid]
    exact .pure hr
  · rw [if_neg valid]
    refine .bind (act action path r.value) fun c _ => .pure ?_
    exact hr.reported (eq_false_of_ne_true valid) c.issues

end Schema

variable {schemas : Schema → Prop} {links : Links}

/-- Every node that checks trims, if what is behind lazy nodes does. -/
theorem Schema.runWith_trims (hc : plans.Checking strips schemas) (lenient : lax → strips)
    (act : ∀ action path v, plans.Ensures (links.act action path v) fun _ => True)
    (enter : ∀ id origin path v, schemas (.lazy id origin) → v.Given lax →
      plans.Ensures (links.enter id origin path v) (Parsed.Trims lax strips v)) {s : Schema}
    (hs : schemas s) (path : Path Live) {v : Datum} (hv : v.Given lax) :
    plans.Ensures (s.runWith links path v) (s.TrimsTo lax strips v) := by
  induction s using Schema.child_induction generalizing path v with
  | step s ih =>
    have runs (c : Schema) (hchild : c ∈ s.children) : c.Trimming plans lax strips links :=
      fun path v hv => (ih c hchild (hc.child hs hchild) path hv).weaken fun _ h => h.1
    have checks := hc.node hs
    have leaf {r : Parsed} (h : r.OfLeaf path v) :
        plans.Ensures (pure r) (Parsed.Trims lax strips v) := .pure (.ofLeaf hv h)
    cases s
    case string lengths pattern =>
      have tracked : Tracks plans .all path [] (stringIn lengths pattern path v)
          (Run.liftFault (parseString lengths pattern path v)) _ _ _ := .stringIn
      exact (tracked.ensures.weaken fun r h => .ofLeaf hv h).trimsTo fun _ => trivial
    case number bounds integer =>
      have number : plans.Ensures (Run.liftFault (parseNumber bounds integer path v))
          (Parsed.OfLeaf path v) := .liftFault (parseNumber_leaf bounds integer)
      exact (number.weaken fun r h => .ofLeaf hv h).trimsTo fun _ => trivial
    case boolean => exact (leaf parseBoolean_leaf).trimsTo fun _ => trivial
    case none => exact (leaf parseNone_leaf).trimsTo fun _ => trivial
    case never => exact (leaf parseNever_leaf).trimsTo fun _ => trivial
    case literal x => exact (leaf (parseLiteral_leaf x)).trimsTo fun _ => trivial
    case enum xs => exact (leaf (parseEnum_leaf xs)).trimsTo fun _ => trivial
    case any | unknown => exact .pure ⟨.given hv, fun _ => trivial⟩
    case array element lengths =>
      exact (array_trims hv (runs element (by simp [children]))).trimsTo fun _ => trivial
    case set element => exact set_trims hv (runs element (by simp [children]))
    case object shape catchall policy =>
      have fields : ∀ f ∈ shape, f.2.Trimming plans lax strips links :=
        fun f hf => runs f.2 (by simp [children]; exact .inl ⟨f.1, hf⟩)
      have rest : ∀ c, catchall = some c → _ := fun c hc => runs c (by simp [children, hc])
      exact (object_trims lenient hv checks fields rest).trimsTo fun _ => trivial
    case union options =>
      exact (runOptions_trims hv runs (List.forall_mem_nil _)).trimsTo fun _ => trivial
    case tagged key options table => exact (tagged_trims hv runs).trimsTo fun _ => trivial
    case intersection left right =>
      refine .bind (runs left (by simp [children]) path v hv) fun l hl => ?_
      refine .bind (runs right (by simp [children]) path v hv) fun r hr => ?_
      exact .pure ⟨intersectionResult_trims hv hl hr, fun _ => trivial⟩
    case tuple items rest =>
      have items : ∀ s ∈ items, _ := fun s hs => runs s (by simp [children, hs])
      have rest : ∀ s, rest = some s → _ := fun s hs => runs s (by simp [children, hs])
      exact (tuple_trims hv items rest).trimsTo fun _ => trivial
    case record key value | map key value =>
      cases v
      case dict access entries =>
        have hg := (Value.natural_dict.1 (hv.natural rfl)).2
        have rebuilt := rebuild_trims access hg (runs key (by simp [children]))
          (runs value (by simp [children]))
        refine (rebuilt _ _).weaken fun r hr => ⟨hr.1, fun valid => ?_⟩
        obtain ⟨entries', same, keys⟩ := hr.2 valid
        exact ⟨access, entries, entries', rfl, same, keys⟩
      all_goals exact .pure .invalid
    case lazy id origin => exact (enter id origin path v hs hv).trimsTo fun _ => trivial
    case effect kind action elidable inner =>
      cases checks
      exact (refined_trims hv act (runs inner (by simp [children]))).trimsTo fun _ => trivial
    case optional inner | nullable inner =>
      simp only [runWith]
      split
      · exact .pure ⟨.given hv, fun _ => trivial⟩
      · exact (runs inner (by simp [children]) path v hv).trimsTo fun _ => trivial
    case branded inner name =>
      exact (runs inner (by simp [children]) path v hv).trimsTo fun _ => trivial
    case pipeline input output =>
      have second := runs output (by simp [children])
      refine .bind (runs input (by simp [children]) path v hv) fun r hr => ?_
      exact (hr.andThen fun x hx => second path x hx).trimsTo fun _ => trivial
    case readonly inner =>
      refine .bind (runs inner (by simp [children]) path v hv) fun r hr => ?_
      exact hr.freeze.trimsTo fun _ => trivial
    all_goals exact checks.elim

namespace Library

variable {lib : Library}

theorem links_act (lib : Library) (mode : Mode) (depth : Nat) (action : Action Live)
    (path : Path Live) (v : Datum) :
    lib.plans.Ensures ((lib.links mode depth).act action path v) fun _ => True := by
  have follows := channel_follows (Allowance.all_closed lib.plans) lib.host.keeps_all mode depth
  rw [← channel_links]
  exact (follows.act action path v (.inl v.keeps_all)).ensures.weaken fun _ _ => trivial

theorem runWith_trims (hc : lib.plans.Checking strips schemas) (lenient : lax → strips)
    (mode : Mode) (depth : Nat) {s : Schema} (hs : schemas s) (path : Path Live) {v : Datum}
    (hv : v.Given lax) :
    lib.plans.Ensures (s.runWith (lib.links mode depth) path v) (s.TrimsTo lax strips v) := by
  induction depth generalizing s path v with
  | zero =>
    refine Schema.runWith_trims hc lenient (links_act lib mode 0) (fun _ _ _ _ _ _ => ?_) hs path hv
    exact .throw _ _
  | succ depth ih =>
    refine Schema.runWith_trims hc lenient (links_act lib mode _) (fun _ _ path v hs hv => ?_) hs
      path hv
    refine .bind (.force _ _ _) fun s hgives => ?_
    exact (ih (hc.behind hs hgives) path hv).weaken fun _ h => h.1

/-- Of schemas that only check, a parse gives the value back, trimmed, and trimmed of nothing
if no object strips unknown keys. So does every node on the way, apart from what it reports, and
records, maps and sets keep all keys and items. -/
theorem parse_trims (hc : lib.plans.Checking strips schemas) {s : Schema} (hs : schemas s)
    {v : Datum} (hv : v.Genuine) (mode : Mode) (depth : Nat) {w : World}
    (hw : lib.plans.Faithful w) :
    (∀ path r w', s.runWith (lib.links mode depth) path v w = .ok r w' →
      r.value.isInvalid = false →
      v.Trimmed (strips ∨ r.issues ≠ []) r.value ∧ s.Retains v r.value) ∧
    ∀ x w', lib.parse mode depth s v w = .ok x w' → v.Trimmed strips x ∧ s.Retains v x := by
  have node {path r w'} (h : s.runWith (lib.links mode depth) path v w = .ok r w')
      (valid : r.value.isInvalid = false) :
      v.Trimmed (strips ∨ r.issues ≠ []) r.value ∧ s.Retains v r.value := by
    have trimmed := runWith_trims hc False.elim mode depth hs path (.inl hv.natural)
    obtain ⟨-, trims, retains⟩ := trimmed.ok hw h
    exact ⟨(trims.output valid).2, retains valid⟩
  refine ⟨fun path r w' h valid => node h valid, fun x w' h => ?_⟩
  obtain ⟨-, r, hr, hx⟩ := Library.parse_ok.1 h
  obtain ⟨clean, valid, rfl⟩ := Parsed.finish_ok.1 hx
  obtain ⟨trimmed, retains⟩ := node hr valid
  exact ⟨trimmed.weaken fun h => h.resolve_right fun reported => reported clean, retains⟩

end Library

/-! ## A family

Names and members of a family, in two schemas that go through each value side by side. -/

namespace Family

def getter : FunctionRef := ⟨0, "member"⟩

def blueprint (keys : UnknownKeys) : Blueprint :=
  .object [("eldest", .call (.lazy getter) .optional)] none (some keys.text)

def library (keys : UnknownKeys) : Library where
  host := Chain.library.host
  plans := { getter := fun _ => { schema := blueprint keys }, definition := fun _ => .any }

def member (keys : UnknownKeys) (id : LazyId) : Schema :=
  .object [("eldest", .optional (.lazy (.within id 0) (.getter getter)))] none keys

def named (keys : UnknownKeys) : Schema := .object [("name", .string {} none)] none keys

def family (keys : UnknownKeys) : Schema :=
  .readonly (.intersection (named keys) (.lazy (.step 0) (.getter getter)))

inductive Part (keys : UnknownKeys) : Schema → Prop
  | family : Part keys (family keys)
  | sides : Part keys (.intersection (named keys) (.lazy (.step 0) (.getter getter)))
  | named : Part keys (named keys)
  | name : Part keys (.string {} none)
  | lazy (id : LazyId) : Part keys (.lazy id (.getter getter))
  | member (id : LazyId) : Part keys (member keys id)
  | eldest (id : LazyId) : Part keys (.optional (.lazy id (.getter getter)))

theorem gives (keys : UnknownKeys) (id : LazyId) :
    (library keys).plans.Gives id (.getter getter) (member keys id) := by
  cases keys <;> exact ⟨1, rfl⟩

theorem checking (keys : UnknownKeys) :
    (library keys).plans.Checking (keys = .strip) (Part keys) where
  node hs := by
    cases hs with
    | named | member => exact ⟨by simp, by simp [Classical.em]⟩
    | _ => trivial
  child hs hc := by
    cases hs with
    | family => exact List.mem_singleton.1 hc ▸ .sides
    | sides =>
      simp only [Schema.children, List.mem_cons, List.not_mem_nil, or_false] at hc
      rcases hc with rfl | rfl
      · exact .named
      · exact .lazy _
    | named => exact List.mem_singleton.1 hc ▸ .name
    | member id => exact List.mem_singleton.1 hc ▸ .eldest _
    | eldest id => exact List.mem_singleton.1 hc ▸ .lazy id
    | name | lazy => cases hc
  behind hs hg := by
    cases hs with
    | lazy id => exact (gives keys _).unique hg ▸ .member _

def input : Datum := .dict .free [
  (.str "eldest", .dict .free [(.str "age", .int 3)]), (.str "name", .str "Ada")]

theorem input_genuine : input.Genuine := by
  have inner : (Value.dict .free [(.str "age", .int 3)] : Datum).Genuine :=
    .dict rfl (.ofTexts (List.nodup_singleton "age")) (by simp [Value.Genuine.str])
      (by simp [Value.Genuine.int])
  have keys : AreKeys (["eldest", "name"].map Value.str) := .ofTexts (by decide)
  exact .dict rfl keys (by simp [Value.Genuine.str]) (by simp [inner, Value.Genuine.str])

/-- What is left of a family if unknown keys are stripped. -/
def stripped : Datum := .dict (.readOnly (.made 0)) [
  (.str "name", .str "Ada"), (.str "eldest", .dict .free [])]

def whole : Datum := .dict (.readOnly (.made 0)) [
  (.str "name", .str "Ada"), (.str "eldest", .dict .free [(.str "age", .int 3)])]

/-- The age is no key of a member: it is stripped, or it stays. -/
theorem age_stripped :
    (∃ w, (library .strip).parse .sync 9 (family .strip) input {} = .ok stripped w) ∧
    input.Trimmed True stripped ∧
    (∃ w, (library .passthrough).parse .sync 9 (family .passthrough) input {} = .ok whole w) ∧
    input.Trimmed False whole := by
  have strips : ∃ w, (library .strip).parse .sync 9 (family .strip) input {} = .ok stripped w :=
    ⟨_, rfl⟩
  have keeps : ∃ w, (library .passthrough).parse .sync 9 (family .passthrough) input {} =
      .ok whole w := ⟨_, rfl⟩
  obtain ⟨w, hw⟩ := strips
  obtain ⟨u, hu⟩ := keeps
  have first := (Library.parse_trims (checking .strip) .family input_genuine .sync 9 .empty).2
  have second :=
    (Library.parse_trims (checking .passthrough) .family input_genuine .sync 9 .empty).2
  refine ⟨⟨w, hw⟩, (first _ w hw).1.weaken fun _ => trivial, ⟨u, hu⟩, ?_⟩
  exact (second _ u hu).1.weaken fun differ => by cases differ

end Family
end TwoWay
