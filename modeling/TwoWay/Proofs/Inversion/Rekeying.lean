import TwoWay.Proofs.Inversion.Rebuilding

/-!
# Mappings and sets come back

The keys of records and maps and the members of sets are parsed as well, and what they give may
fall together. Keys are read by leaves, which hand on what they are given, or by two-way nodes
between leaves (`Schema.IsKey`). So it is known beforehand which keys come back
(`Schema.comesBackAs`): they differ and can be hashed, and the entries are written one after the
other (`Rebuilt.foldl_entries`).
-/

namespace TwoWay

/-! ## Entries are written one after the other -/

namespace Rebuilt

variable {b : Rebuilt} {qs : List (Parsed × Parsed)}

/-- Writes an entry whose key is hashable. -/
def write (b : Rebuilt) (q : Parsed × Parsed) : Rebuilt :=
  if q.1.value.isInvalid || q.2.value.isInvalid then
    { b with failed := true, issues := b.issues ++ q.1.issues ++ q.2.issues }
  else
    { b with entries := b.entries.put q.1.value q.2.value,
             issues := b.issues ++ q.1.issues ++ q.2.issues }

theorem foldl_failed : (qs.foldl write b).failed =
    (b.failed || qs.any fun q => q.1.value.isInvalid || q.2.value.isInvalid) := by
  induction qs generalizing b with
  | nil => simp
  | cons q qs ih =>
    have first : (b.write q).failed =
        (b.failed || (q.1.value.isInvalid || q.2.value.isInvalid)) := by
      unfold write
      split <;> simp_all
    rw [List.foldl_cons, ih, first, List.any_cons, Bool.or_assoc]

theorem foldl_issues : (qs.foldl write b).issues =
    b.issues ++ qs.flatMap fun q => q.1.issues ++ q.2.issues := by
  induction qs generalizing b with
  | nil => simp
  | cons q qs ih =>
    have first : (b.write q).issues = b.issues ++ q.1.issues ++ q.2.issues := by
      unfold write
      split <;> rfl
    rw [List.foldl_cons, ih, first, List.flatMap_cons]
    simp only [List.append_assoc]

/-- Entries under keys of their own are written one after the other. -/
theorem foldl_entries (valid : ∀ q ∈ qs, q.1.value.isInvalid = false ∧ q.2.value.isInvalid = false)
    (keys : AreKeys (b.entries.map (·.1) ++ qs.map (·.1.value))) :
    (qs.foldl write b).entries = b.entries ++ qs.map fun q => (q.1.value, q.2.value) := by
  induction qs generalizing b with
  | nil => simp
  | cons q qs ih =>
    obtain ⟨⟨hk, hv⟩, valid⟩ := List.forall_mem_cons.1 valid
    have new : ∀ l ∈ b.entries.map (·.1), l.agrees q.1.value = false := by
      intro l hl
      have last : q.1.value ∈ (q :: qs).map (·.1.value) := List.mem_map_of_mem List.mem_cons_self
      refine eq_false_of_ne_true fun agree => ?_
      have same := (keys.apart l (List.mem_append_left _ hl) _
        (List.mem_append_right _ last)).1 agree
      exact (List.nodup_append.1 keys.nodup).2.2 l hl _ last same
    have first : (b.write q).entries = b.entries ++ [(q.1.value, q.2.value)] := by
      rw [write, hk, hv]
      exact put_new _ new
    rw [List.foldl_cons, ih valid (by simpa [first] using keys), first]
    simp

/-- Of a mapping that is clean, all keys and values are. -/
theorem clean_of_parsed (h : (qs.foldl write b).parsed.isClean) :
    b.failed = false ∧ ∀ q ∈ qs, q.1.isClean ∧ q.2.isClean := by
  have none := Parsed.issues_of_isClean h
  have held : (qs.foldl write b).failed = false := by
    by_contra failed
    rw [parsed, if_pos (eq_true_of_ne_false failed)] at h
    cases h
  rw [foldl_failed, Bool.or_eq_false_iff, List.any_eq_false] at held
  obtain ⟨began, valid⟩ := held
  have silent := (List.append_eq_nil_iff.1 (foldl_issues.symm.trans none)).2
  refine ⟨began, fun q hq => ?_⟩
  have valid := valid q hq
  have silent := List.append_eq_nil_iff.1 (List.flatMap_eq_nil_iff.1 silent q hq)
  simp only [Bool.or_eq_true, not_or, Bool.not_eq_true] at valid
  exact ⟨Parsed.isClean_iff.2 ⟨valid.1, silent.1⟩, Parsed.isClean_iff.2 ⟨valid.2, silent.2⟩⟩

/-- Clean keys and values under keys of their own make a mapping. -/
theorem parsed_of_clean (clean : ∀ q ∈ qs, q.1.isClean ∧ q.2.isClean)
    (keys : AreKeys (qs.map (·.1.value))) : (qs.foldl write {}).parsed =
      ⟨.dict .free (qs.map fun q => (q.1.value, q.2.value)), []⟩ := by
  have valid (q) (hq : q ∈ qs) := And.intro (Parsed.isClean_iff.1 (clean q hq).1).1
    (Parsed.isClean_iff.1 (clean q hq).2).1
  have held : (qs.foldl write {}).failed = false := by
    rw [foldl_failed, Bool.false_or, List.any_eq_false]
    intro q hq
    simp [valid q hq]
  have silent : (qs.foldl write {}).issues = [] := by
    rw [foldl_issues, List.nil_append, List.flatMap_eq_nil_iff]
    intro q hq
    rw [Parsed.issues_of_isClean (clean q hq).1, Parsed.issues_of_isClean (clean q hq).2]
    rfl
  rw [parsed, held, silent, foldl_entries (b := {}) valid keys]
  rfl

end Rebuilt

namespace Plans.Triple

variable {plans : Plans} {ι γ : Type} (T : plans.Triple ι)

theorem weaken {α : Type} {m : ι → Run α} {P Q : α → Prop} (h : T.Holds m P)
    (hq : ∀ a, P a → Q a) : T.Holds m Q := by
  have same : m = fun i => m i >>= Pure.pure := by
    funext i
    exact (bind_pure (m i)).symm
  exact same ▸ T.bind h fun a ha => T.pure (hq a ha)

theorem hashable {v : Datum} (h : v.unhashable? = none) :
    T.Holds (fun _ => Run.requireHashable v) fun _ => True := by
  simp only [Run.requireHashable, h]
  exact T.pure trivial

theorem add {key value : Parsed} (b : Rebuilt)
    (hashable : T.Holds (fun _ => Run.requireHashable key.value) fun _ => True) :
    T.Holds (fun _ => b.add key value) (Eq (b.write (key, value))) := by
  unfold Rebuilt.add Rebuilt.write
  split
  · exact T.pure rfl
  · exact T.bind hashable fun _ _ => T.pure rfl

theorem runEntries (cs : List γ) (key value : ι → Path Live → Datum → Run Parsed)
    {K V : γ → Parsed → Prop} {entries : Entries Live} (hashable : ∀ c ∈ cs, ∀ k, K c k →
      T.Holds (fun _ => Run.requireHashable k.value) fun _ => True)
    (h : List.Forall₂ (fun c e => (∀ path, T.Holds (fun i => key i path e.1) (K c)) ∧
      ∀ path, T.Holds (fun i => value i path e.2) (V c)) cs entries)
    (keyPath valuePath : Nat → Datum → Path Live) (n : Nat) (b : Rebuilt) :
    T.Holds (fun i => TwoWay.runEntries (key i) (value i) keyPath valuePath n entries b)
      fun b' => ∃ qs, List.Forall₂ (fun c q => K c q.1 ∧ V c q.2) cs qs ∧
        b' = qs.foldl Rebuilt.write b := by
  induction h generalizing n b with
  | nil => exact T.pure ⟨[], .nil, rfl⟩
  | @cons c e cs entries first _ ih =>
    obtain ⟨hashable, further⟩ := List.forall_mem_cons.1 hashable
    refine T.bind (first.1 _) fun k hk => T.bind (first.2 _) fun v hv => ?_
    refine T.bind (T.add b (hashable k hk)) fun b' same => ?_
    refine T.weaken (ih further (n + 1) b') fun b'' ⟨qs, related, written⟩ => ?_
    exact ⟨(k, v) :: qs, .cons ⟨hk, hv⟩ related, by rw [written, ← same, List.foldl_cons]⟩

theorem requireEach {values : List Datum} (h : ∀ v ∈ values, v.unhashable? = none) :
    T.Holds (fun _ => forIn values PUnit.unit fun v _ => do
      Run.requireHashable v
      return ForInStep.yield PUnit.unit) fun _ => True := by
  induction values with
  | nil => exact T.pure trivial
  | cons v rest ih =>
    obtain ⟨hv, hrest⟩ := List.forall_mem_cons.1 h
    simp only [List.forIn_cons, bind_assoc]
    exact T.bind (T.hashable hv) fun _ _ => T.bind (T.pure rfl) fun step (same : .yield _ = step) =>
      same ▸ ih hrest

end Plans.Triple

/-! ## Keys -/

namespace Schema

/-- Leaves that give what they read. -/
def handsOn : Schema → Bool
  | .any | .unknown => true
  | s => s.isDefinite

/-- What reads keys: a leaf, or a two-way node between leaves that read definite values. -/
inductive IsKey : Schema → Prop
  | leaf {s} : s.handsOn → IsKey s
  | invertible {s parse t format} : s.isDefinite → t.isDefinite →
    IsKey (.invertible s parse t format)

/-- What an inverse makes of a key that is like the output for another one. A two-way node gives
back the old one, a leaf what it is given. -/
def comesBackAs : Schema → Datum → Datum → Datum
  | .invertible .., k, _ => k
  | _, _, u => u

theorem comesBackAs_leaf {s : Schema} (hs : s.handsOn) (k u : Datum) : s.comesBackAs k u = u := by
  cases s <;> first | rfl | cases hs

theorem handsOn_cases {s : Schema} (hs : s.handsOn) : (s = .any ∨ s = .unknown) ∨ s.isDefinite := by
  cases s <;> first | exact .inl (.inl rfl) | exact .inl (.inr rfl) | exact .inr hs

theorem isLeaf_of_handsOn {s : Schema} (hs : s.handsOn) : s.isLeaf := by
  cases s <;> first | rfl | cases hs

end Schema

namespace Library

variable {lib : Library} {settings : InversionSettings} {mode : Mode} {depth : Nat}
  {s t : Schema} {v k x u : Datum} {r : Parsed} {w w' : World}

/-- A leaf hands on what it reads. -/
theorem key_handed (hs : s.handsOn) (h : lib.Results mode depth s v r) (clean : r.isClean) :
    r.value = v := by
  obtain ⟨path, w, w', -, ran⟩ := h
  rcases Schema.handsOn_cases hs with (rfl | rfl) | hs
  · cases ran
    rfl
  · cases ran
    rfl
  · exact (definite_reads hs ran clean).2.1

/-- A two-way node between leaves gives definite values. -/
theorem key_definite {parse format : FunctionRef} (ht : t.isDefinite)
    (h : lib.Results mode depth (.invertible s parse t format) v r) (clean : r.isClean) :
    r.value.isDefinite := by
  obtain ⟨path, w, w', -, ran⟩ := h
  obtain ⟨_, _, -, ran⟩ := Run.bind_ok.1 ran
  obtain ⟨_, _, -, ran⟩ := Run.bind_ok.1 ran
  obtain ⟨-, last⟩ := clean_of_andThen ran clean
  obtain ⟨definite, same, -⟩ := definite_reads ht last clean
  exact same ▸ definite

/-- What comes back for a key. -/
theorem key_back (hs : s.IsKey) (inverts : lib.plans.Inverts settings s t)
    (h : lib.Results mode depth t u r) (clean : r.isClean) (alike : k.Alike r.value) :
    r.value = s.comesBackAs k u := by
  cases hs with
  | leaf hs =>
    rw [Schema.comesBackAs_leaf hs]
    rw [inverts.of_leaf (Schema.isLeaf_of_handsOn hs)] at h
    exact key_handed hs h clean
  | invertible hs ht =>
    cases inverts with
    | leaf leaf => cases leaf
    | invertible hs' ht' =>
      rw [hs'.of_leaf (isLeaf_of_isDefinite hs)] at h
      exact alike.eq_of_isDefinite' (key_definite hs h clean)

/-- The keys that are given differ, and can be hashed. -/
theorem keys_given (hs : s.IsKey) {keys : List Datum} (hk : AreKeys keys)
    (apart : lib.Distinguishes s keys) {rs : List Parsed}
    (h : List.Forall₂ (fun k r => lib.Results mode depth s k r ∧ r.isClean) keys rs) :
    AreKeys (Parsed.values rs) := by
  cases hs with
  | leaf hs =>
    have same : Parsed.values rs = keys := by
      clear hk apart
      induction h with
      | nil => rfl
      | cons first _ ih => exact congrArg₂ List.cons (key_handed hs first.1 first.2) ih
    exact same ▸ hk
  | invertible hs ht =>
    refine .ofDefinite (fun x hx => ?_) ?_
    · obtain ⟨r, hr, rfl⟩ := List.mem_map.1 hx
      obtain ⟨k, -, result, clean⟩ := related_left h.flip hr
      exact key_definite ht result clean
    · clear hk
      induction h with
      | nil => exact .nil
      | cons first rest ih =>
        obtain ⟨differ, apart⟩ := List.pairwise_cons.1 apart
        refine .cons (fun x hx => ?_) (ih apart)
        obtain ⟨r, hr, rfl⟩ := List.mem_map.1 hx
        obtain ⟨k, hk, result, clean⟩ := related_left rest.flip hr
        exact differ k hk _ _ (first.1.reads first.2) (result.reads clean)

/-- The keys that come back differ, and can be hashed. -/
theorem keys_back (hs : s.IsKey) {keys us : List Datum} (length : keys.length = us.length)
    (hk : AreKeys keys) (hu : AreKeys us) :
    AreKeys ((keys.zip us).map fun p => s.comesBackAs p.1 p.2) := by
  cases hs with
  | leaf hs =>
    simp only [Schema.comesBackAs_leaf hs]
    rwa [List.map_snd_zip (Nat.le_of_eq length.symm)]
  | invertible hs ht =>
    simp only [Schema.comesBackAs]
    rwa [List.map_fst_zip (Nat.le_of_eq length)]

/-- A key comes back. -/
theorem key_attains (hs : s.IsKey) (retrieved : lib.Retrieves settings s k x)
    (inverts : lib.plans.Inverts settings s t) (alike : x.Alike u) (hu : u.Natural False)
    (mode : Mode) (path : Path Live) :
    lib.plans.Attains (fun depth => t.runWith (lib.links mode depth) path u)
      fun r => Parsed.Returns k r ∧ r.value = s.comesBackAs k u := by
  have both := Plans.Ends.both (retrieved.back t inverts u alike (.inl hu) mode path)
    (Q := fun r => r.isClean → k.Alike r.value → r.value = s.comesBackAs k u) fun depth =>
      (lib.results mode depth t path u).weaken fun r hr clean => key_back hs inverts hr clean
  exact both.weaken fun r hr => ⟨hr.1, hr.2 (Returns.isClean hr.1) hr.1.alike⟩

/-! ## Records and maps -/

section
variable {key key' value value' : Schema} {entries out us : Entries Live} {access : Access}
  {keyPath valuePath : Nat → Datum → Path Live}

/-- What is got back of the entries of a mapping. -/
abbrev RetrievesEntries (lib : Library) (settings : InversionSettings) (key value : Schema)
    (entries out : Entries Live) : Prop :=
  List.Forall₂ (fun e e' => lib.Retrieves settings key e.1 e'.1 ∧
    lib.Retrieves settings value e.2 e'.2) entries out

/-- The entries of a mapping, whose keys and values are parsed. -/
abbrev parseEntries (lib : Library) (key value : Schema) (mode : Mode)
    (keyPath valuePath : Nat → Datum → Path Live) (entries : Entries Live) (depth : Nat) :
    Run Parsed := do
  let b ← runEntries (fun p x => key.runWith (lib.links mode depth) p x)
    (fun p x => value.runWith (lib.links mode depth) p x) keyPath valuePath 0 entries {}
  return b.parsed

theorem entries_retrieve (isKey : key.IsKey) (hk : lib.Reversible settings mode depth key)
    (hv : lib.Reversible settings mode depth value) (he : entries.Natural False)
    (apart : lib.Distinguishes key (entries.map (·.1)))
    (smoothKeys : ∀ e ∈ entries, lib.Smooth settings key e.1)
    (smoothValues : ∀ e ∈ entries, lib.Smooth settings value e.2)
    (hw : lib.plans.Faithful w)
    (h : lib.parseEntries key value mode keyPath valuePath entries depth w = .ok r w')
    (clean : r.isClean) : ∃ out, r.value = .dict .free out ∧ Entries.Natural False out ∧
      lib.RetrievesEntries settings key value entries out := by
  obtain ⟨b, u, ran, h⟩ := Run.bind_ok.1 h
  cases h
  have all := lib.plans.ensured.runEntries entries
    (fun _ p x => key.runWith (lib.links mode depth) p x)
    (fun _ p x => value.runWith (lib.links mode depth) p x)
    (K := fun e r => lib.Results mode depth key e.1 r)
    (V := fun e r => lib.Results mode depth value e.2 r)
    (fun _ _ k _ => .requireHashable k.value)
    (List.forall₂_same.2 fun e _ => ⟨fun p => lib.results mode depth key p e.1,
      fun p => lib.results mode depth value p e.2⟩) keyPath valuePath 0 {}
  obtain ⟨qs, results, rfl⟩ := (all.ok hw ran).2
  obtain ⟨-, each⟩ := Rebuilt.clean_of_parsed clean
  have keys : AreKeys (qs.map (·.1.value)) := by
    have given : List.Forall₂ (fun k r => lib.Results mode depth key k r ∧ r.isClean)
        (entries.map (·.1)) (qs.map (·.1)) := by
      refine List.forall₂_map_left_iff.2 (List.forall₂_map_right_iff.2 ?_)
      refine List.forall₂_iff_zip.2 ⟨results.length_eq, fun {e q} member => ?_⟩
      exact ⟨((List.forall₂_iff_zip.1 results).2 member).1, (each q (List.of_mem_zip member).2).1⟩
    simpa [Parsed.values, Function.comp_def] using keys_given isKey he.keys apart given
  have retrieved : lib.RetrievesEntries settings key value entries
      (qs.map fun q => (q.1.value, q.2.value)) := by
    refine List.forall₂_map_right_iff.2 (List.forall₂_iff_zip.2 ⟨results.length_eq, ?_⟩)
    intro e q member
    obtain ⟨first, second⟩ := (List.forall₂_iff_zip.1 results).2 member
    obtain ⟨he', hq⟩ := List.of_mem_zip member
    exact ⟨hk _ _ (.inl (he.key e he')) first (each q hq).1 (smoothKeys e he'),
      hv _ _ (.inl (he.value e he')) second (each q hq).2 (smoothValues e he')⟩
  refine ⟨_, congrArg Parsed.value (Rebuilt.parsed_of_clean each keys), ⟨?_, ?_, ?_⟩, retrieved⟩
  · simpa [Function.comp_def] using keys
  · intro e' he'
    obtain ⟨e, he'', first, -⟩ := related_left retrieved.flip he'
    exact first.natural (he.key e he'')
  · intro e' he'
    obtain ⟨e, he'', -, second⟩ := related_left retrieved.flip he'
    exact second.natural (he.value e he'')

/-- The entries come back one by one. -/
theorem entries_attain (isKey : key.IsKey) (he : entries.Natural False)
    (retrieved : lib.RetrievesEntries settings key value entries out)
    (hk : lib.plans.Inverts settings key key') (hv : lib.plans.Inverts settings value value')
    (alike : out.Alike us) (hu : us.Natural False) (mode : Mode) :
    lib.plans.Attains (lib.parseEntries key' value' mode keyPath valuePath us)
      (Parsed.Returns (.dict access entries)) := by
  obtain ⟨turned, order, pairs⟩ := alike
  obtain ⟨began, order', sources⟩ := forall₂_turned retrieved order
  have length : began.length = us.length := sources.length_eq.trans pairs.length_eq
  have keys : AreKeys ((began.zip us).map fun p => key.comesBackAs p.1.1 p.2.1) := by
    have back := keys_back isKey (by simpa using length) (he.keys.perm (order'.map _)) hu.keys
    simpa [List.zip_map, Function.comp_def] using back
  have given : List.Forall₂ (fun e u => Value.EntryAlike e u ∧ u.1.Natural False ∧
      u.2.Natural False) turned us := List.forall₂_iff_zip.2 ⟨pairs.length_eq, fun {e u} member =>
    ⟨(List.forall₂_iff_zip.1 pairs).2 member, hu.key u (List.of_mem_zip member).2,
      hu.value u (List.of_mem_zip member).2⟩⟩
  have parts : List.Forall₂ (fun (e u : Datum × Datum) =>
      (∀ path, lib.plans.Attains (fun depth => key'.runWith (lib.links mode depth) path u.1)
        fun r => Parsed.Returns e.1 r ∧ r.value = key.comesBackAs e.1 u.1) ∧
      ∀ path, lib.plans.Attains (fun depth => value'.runWith (lib.links mode depth) path u.2)
        (Parsed.Returns e.2)) began us := by
    refine forall₂_through ?_ sources given
    rintro e e' u ⟨first, second⟩ ⟨⟨alikeKey, alikeValue⟩, naturalKey, naturalValue⟩
    exact ⟨key_attains isKey first hk alikeKey naturalKey mode,
      second.back _ hv _ alikeValue (.inl naturalValue) mode⟩
  have all := (lib.plans.ending fun _ => False).runEntries (began.zip us)
    (fun depth p x => key'.runWith (lib.links mode depth) p x)
    (fun depth p x => value'.runWith (lib.links mode depth) p x)
    (K := fun p r => Parsed.Returns p.1.1 r ∧ r.value = key.comesBackAs p.1.1 p.2.1)
    (V := fun p r => Parsed.Returns p.1.2 r)
    (fun p hp k hk => Plans.Triple.hashable _
      (hk.2 ▸ keys.hashable _ (List.mem_map.2 ⟨p, hp, rfl⟩)))
    ((forall₂_zip parts).imp fun p u ⟨same, h⟩ => by subst same; exact h) keyPath valuePath 0 {}
  refine .bind all fun b ⟨qs, returned, written⟩ => .pure ?_
  have named : qs.map (·.1.value) = (began.zip us).map fun p => key.comesBackAs p.1.1 p.2.1 :=
    (map_related (returned.imp fun _ _ h => h.1.2.symm)).symm
  have clean : ∀ q ∈ qs, q.1.isClean ∧ q.2.isClean := fun q hq => by
    obtain ⟨p, -, first, second⟩ := related_left returned.flip hq
    exact ⟨Returns.isClean first.1, Returns.isClean second⟩
  have naturals : ∀ q ∈ qs, q.1.value.Natural False ∧ q.2.value.Natural False := fun q hq => by
    obtain ⟨p, hp, first, second⟩ := related_left returned.flip hq
    have stood := order'.symm.subset (List.of_mem_zip hp).1
    exact ⟨first.1.natural (he.key _ stood), second.natural (he.value _ stood)⟩
  have alike : List.Forall₂ Value.EntryAlike began (qs.map fun q => (q.1.value, q.2.value)) := by
    rw [← List.map_fst_zip (Nat.le_of_eq length)]
    exact List.forall₂_map_left_iff.2 (List.forall₂_map_right_iff.2
      (returned.imp fun _ _ h => ⟨h.1.1.alike, h.2.alike⟩))
  rw [written, Rebuilt.parsed_of_clean clean (named ▸ keys)]
  refine ⟨rfl, .ofDict ⟨began, order', alike⟩, .inl (Value.natural_dict.2 ⟨rfl, ?_, ?_, ?_⟩)⟩
  · rw [List.map_map]
    exact named ▸ keys
  · exact List.forall_mem_map.2 fun q hq => (naturals q hq).1
  · exact List.forall_mem_map.2 fun q hq => (naturals q hq).2

end

section
variable {key value : Schema} {entries : Entries Live} {access : Access}
  {keyPath valuePath : Nat → Datum → Path Live}

/-- What is read of a mapping whose keys and values are parsed can be read back. -/
theorem entries_come_back (isKey : key.IsKey) (hk : lib.Reversible settings mode depth key)
    (hv : lib.Reversible settings mode depth value)
    (natural : (Value.dict access entries).Natural False)
    (apart : lib.Distinguishes key (entries.map (·.1)))
    (smoothKeys : ∀ e ∈ entries, lib.Smooth settings key e.1)
    (smoothValues : ∀ e ∈ entries, lib.Smooth settings value e.2) (hw : lib.plans.Faithful w)
    (h : lib.parseEntries key value mode keyPath valuePath entries depth w = .ok r w')
    (clean : r.isClean) : r.value.Natural False ∧ ∀ key' value',
      lib.plans.Inverts settings key key' → lib.plans.Inverts settings value value' →
      ∀ u, r.value.Alike u → u.Given False → ∃ access' us, u = .dict access' us ∧
        ∀ mode keyPath valuePath, lib.plans.Attains
          (lib.parseEntries key' value' mode keyPath valuePath us)
          (Parsed.Returns (.dict access entries)) := by
  have he := (Value.natural_dict.1 natural).2
  obtain ⟨out, given, natural', retrieved⟩ :=
    entries_retrieve isKey hk hv he apart smoothKeys smoothValues hw h clean
  rw [given]
  refine ⟨Value.natural_dict.2 ⟨rfl, natural'⟩, fun key' value' hk' hv' u alike hu => ?_⟩
  obtain ⟨access', us, rfl, likeness⟩ := alike.from_dict
  exact ⟨access', us, rfl, fun mode _ _ => entries_attain isKey he retrieved hk' hv' likeness
    (Value.natural_dict.1 (hu.natural rfl)).2 mode⟩

theorem reversible_record (isKey : key.IsKey) (hk : lib.Reversible settings mode depth key)
    (hv : lib.Reversible settings mode depth value) :
    lib.Reversible settings mode depth (.record key value) := by
  rintro v r hv' ⟨path, w, w', hw, ran⟩ clean smooth
  cases v
  case dict access entries =>
    obtain ⟨natural, back⟩ := entries_come_back isKey hk hv (hv'.natural rfl)
      (smooth.here entries rfl) (fun e he => smooth.hand (.recordKey rfl he))
      (fun e he => smooth.hand (.recordValue rfl he)) hw ran clean
    refine ⟨.inl natural, natural.isMissing not_false, fun t ht u alike hu mode path => ?_⟩
    cases ht with
    | leaf leaf => cases leaf
    | record inverts inverts' =>
      obtain ⟨access', us, rfl, attains⟩ := back _ _ inverts inverts' u alike hu
      exact attains mode _ _
  all_goals
    cases ran
    cases clean

theorem reversible_map (isKey : key.IsKey) (hk : lib.Reversible settings mode depth key)
    (hv : lib.Reversible settings mode depth value) :
    lib.Reversible settings mode depth (.map key value) := by
  rintro v r hv' ⟨path, w, w', hw, ran⟩ clean smooth
  cases v
  case dict access entries =>
    obtain ⟨natural, back⟩ := entries_come_back isKey hk hv (hv'.natural rfl)
      (smooth.here entries rfl) (fun e he => smooth.hand (.mapKey rfl he))
      (fun e he => smooth.hand (.mapValue rfl he)) hw ran clean
    refine ⟨.inl natural, natural.isMissing not_false, fun t ht u alike hu mode path => ?_⟩
    cases ht with
    | leaf leaf => cases leaf
    | map inverts inverts' =>
      obtain ⟨access', us, rfl, attains⟩ := back _ _ inverts inverts' u alike hu
      exact attains mode _ _
  all_goals
    cases ran
    cases clean

end

/-! ## Sets -/

section
variable {element : Schema} {items : List Datum} {readOnly : Bool} {rs : List Parsed}
  {path : Path Live}

theorem set_of_clean (h : setResult readOnly rs w = .ok r w') (clean : r.isClean) :
    (∀ t ∈ rs, t.isClean) ∧ r.value = .set readOnly (distinct (Parsed.values rs)) := by
  unfold setResult at h
  split at h
  · cases h
    cases clean
  · rename_i valid
    obtain ⟨-, u, -, h⟩ := Run.bind_ok.1 h
    cases h
    refine ⟨fun t ht => Parsed.isClean_iff.2 ⟨?_, ?_⟩, rfl⟩
    · exact isInvalid_of_anyInvalid (eq_false_of_ne_true valid) ht
    · exact List.flatMap_eq_nil_iff.1 (Parsed.issues_of_isClean clean) t ht

/-- Members that come back and can be members make a set that comes back. -/
theorem set_returns {began : List Datum} {readOnly' : Bool} (order : items.Perm began)
    (natural : ∀ x ∈ items, x.Natural False) (back : List.Forall₂ Parsed.Returns began rs)
    (keys : AreKeys (Parsed.values rs)) : lib.plans.Attains (fun _ => setResult readOnly' rs)
      (Parsed.Returns (.set readOnly items)) := by
  unfold setResult
  rw [if_neg (by simp [Parsed.Returns.valid back]), Parsed.Returns.silent back]
  refine .bind ((lib.plans.ending fun _ => False).requireEach keys.hashable) fun _ _ => .pure ?_
  rw [distinct_keys keys]
  refine ⟨rfl, .ofSet order (Parsed.Returns.values back), .inl (.set keys ?_)⟩
  exact Parsed.Returns.naturals back fun x hx => natural x (order.symm.subset hx)

theorem members_retrieve (h : lib.Reversible settings mode depth element)
    (natural : ∀ x ∈ items, x.Natural False)
    (smooth : ∀ x ∈ items, lib.Smooth settings element x) (hw : lib.plans.Faithful w)
    (ran : runItems (fun p x => element.runWith (lib.links mode depth) p x) path 0 items w =
      .ok rs w') (clean : ∀ r ∈ rs, r.isClean) :
    List.Forall₂ (fun v r => (lib.Results mode depth element v r ∧ r.isClean) ∧
      lib.Retrieves settings element v r.value) items rs := by
  have all := lib.plans.ensured.runItems items
    (fun _ p x => element.runWith (lib.links mode depth) p x)
    (List.forall₂_same.2 fun v _ p => lib.results mode depth element p v) path 0
  have results := (all.ok hw ran).2
  refine List.forall₂_iff_zip.2 ⟨results.length_eq, fun {v r} member => ?_⟩
  obtain ⟨stands, given⟩ := List.of_mem_zip member
  have result := (List.forall₂_iff_zip.1 results).2 member
  exact ⟨⟨result, clean r given⟩,
    h v r (.inl (natural v stands)) result (clean r given) (smooth v stands)⟩

/-- The members come back one by one. -/
theorem members_attain {t : Schema} {outputs us : List Datum} (isKey : element.IsKey)
    (retrieved : List.Forall₂ (lib.Retrieves settings element) items outputs)
    (inverts : lib.plans.Inverts settings element t) (alike : List.Forall₂ Value.Alike outputs us)
    (hu : ∀ u ∈ us, u.Natural False) (mode : Mode) (path : Path Live) :
    lib.plans.Attains
      (fun depth => runItems (fun p x => t.runWith (lib.links mode depth) p x) path 0 us)
      fun rs => List.Forall₂ Parsed.Returns items rs ∧
        (items.zip us).map (fun p => element.comesBackAs p.1 p.2) = Parsed.values rs := by
  have given : List.Forall₂ (fun x u => x.Alike u ∧ u.Natural False) outputs us :=
    List.forall₂_iff_zip.2 ⟨alike.length_eq, fun {x u} member =>
      ⟨(List.forall₂_iff_zip.1 alike).2 member, hu u (List.of_mem_zip member).2⟩⟩
  have parts : List.Forall₂ (fun v u => ∀ path, lib.plans.Attains
      (fun depth => t.runWith (lib.links mode depth) path u)
      fun r => Parsed.Returns v r ∧ r.value = element.comesBackAs v u) items us := by
    refine forall₂_through ?_ retrieved given
    exact fun back same => key_attains isKey back inverts same.1 same.2 mode
  have length : items.length = us.length := parts.length_eq
  have all := (lib.plans.ending fun _ => False).runItems (items.zip us)
    (fun depth p x => t.runWith (lib.links mode depth) p x)
    (R := fun p r => Parsed.Returns p.1 r ∧ r.value = element.comesBackAs p.1 p.2)
    ((forall₂_zip parts).imp fun p u ⟨same, h⟩ => by subst same; exact h) path 0
  refine all.weaken fun rs returned => ⟨?_, ?_⟩
  · rw [← List.map_fst_zip (Nat.le_of_eq length)]
    exact List.forall₂_map_left_iff.2 (returned.imp fun _ _ h => h.1)
  · exact map_related (returned.imp fun _ _ h => h.2.symm)

theorem reversible_set (isKey : element.IsKey)
    (h : lib.Reversible settings mode depth element) :
    lib.Reversible settings mode depth (.set element) := by
  rintro v r hv ⟨path, w, w', hw, ran⟩ clean smooth
  cases v
  case set readOnly items =>
    obtain ⟨keys, natural⟩ := Value.natural_set.1 (hv.natural rfl)
    simp only [Schema.runWith, Value.setItems?] at ran
    obtain ⟨rs, u, all, ran⟩ := Run.bind_ok.1 ran
    obtain ⟨each, value⟩ := set_of_clean ran clean
    have members :=
      members_retrieve h natural (fun x hx => smooth.hand (.member rfl hx)) hw all each
    have given := keys_given isKey keys (smooth.here readOnly items rfl)
      (members.imp fun _ _ member => member.1)
    have retrieved : List.Forall₂ (lib.Retrieves settings element) items (Parsed.values rs) :=
      List.forall₂_map_right_iff.2 (members.imp fun _ _ member => member.2)
    have naturals : ∀ x ∈ Parsed.values rs, x.Natural False := fun x hx => by
      obtain ⟨v, hv, back⟩ := related_left retrieved.flip hx
      exact back.natural (natural v hv)
    rw [value, distinct_keys given]
    refine ⟨.inl (.set given naturals), rfl, fun t ht u alike hu mode path => ?_⟩
    cases ht with
    | leaf leaf => cases leaf
    | set inverts =>
      obtain ⟨readOnly', us, turned, rfl, order, pairs⟩ := alike.from_set
      obtain ⟨began, order', sources⟩ := forall₂_turned retrieved order
      obtain ⟨keysU, naturalU⟩ := Value.natural_set.1 (hu.natural rfl)
      refine .bind (members_attain isKey sources inverts pairs naturalU mode path)
        fun rs' rebuilt => ?_
      obtain ⟨back, named⟩ := rebuilt
      refine set_returns order' natural back (named ▸ ?_)
      exact keys_back isKey (sources.length_eq.trans pairs.length_eq) (keys.perm order') keysU
  all_goals
    cases ran
    cases clean

end

end Library
end TwoWay
