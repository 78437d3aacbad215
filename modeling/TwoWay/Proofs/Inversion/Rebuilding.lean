import TwoWay.Proofs.Inversion.Retrieving

/-!
# Containers come back

What a container gives holds what its parts gave, in other containers of the same kind. The inverse
of the container goes through it once more, in an order that may be another one, and gives the
parts back one by one.
-/

namespace TwoWay

/-! ## Runs over parts -/

namespace Plans

variable {plans : Plans}

/-- What runs ensure, as what can be said of making. -/
def ensured (plans : Plans) : plans.Triple Unit where
  Holds m Q := plans.Ensures (m ()) Q
  allows _ := True
  logs _ := True
  pure := .pure
  fail _ := .throw _ _
  log _ _ := .record _
  bind := .bind
  ensuring _ hq := hq ()

/-- What is ensured in all depths holds at the end as well. -/
theorem Ends.both {α : Type} {fails : Failure → Prop} {m : Nat → Run α} {P Q : α → Prop}
    (h : plans.Ends fails m P) (hq : ∀ depth, plans.Ensures (m depth) Q) :
    plans.Ends fails m fun a => P a ∧ Q a := by
  intro w hw
  obtain ⟨depth, r, u, failed, given, hu, ends⟩ := h w hw
  refine ⟨depth, r, u, failed, fun a ha => ⟨given a ha, ?_⟩, hu, ends⟩
  exact (hq depth w hw).2 a ((ends depth (Nat.le_refl depth)).1.trans ha)

namespace Triple

variable {ι γ : Type} (T : plans.Triple ι) {cs : List γ}

/-- A sequence is gone through schema by schema. -/
theorem runTupleItems (links : ι → Links) (rest : ι → Path Live → Datum → Run Parsed)
    {R : γ → Parsed → Prop} {ss : List Schema} {vs : List Datum} (length : ss.length = vs.length)
    (h : List.Forall₂ (fun c p => ∀ path,
      T.Holds (fun i => p.1.runWith (links i) path p.2) (R c)) cs (ss.zip vs))
    (path : Path Live) (n : Nat) :
    T.Holds (fun i => TwoWay.runTupleItems (links i) ss (rest i) path n vs)
      (List.Forall₂ R cs) := by
  induction ss generalizing vs cs n with
  | nil =>
    cases vs with
    | nil =>
      cases h
      exact T.pure .nil
    | cons => cases length
  | cons s ss ih =>
    cases vs with
    | nil => cases length
    | cons v vs =>
      cases h with
      | cons first others =>
        refine T.bind (first _) fun r hr => ?_
        exact T.bind (ih (Nat.succ.inj length) others (n + 1)) fun rs hrs =>
          T.pure (.cons hr hrs)

theorem runItems (cs : List γ) (parse : ι → Path Live → Datum → Run Parsed) {R : γ → Parsed → Prop}
    {vs : List Datum} (h : List.Forall₂ (fun c v => ∀ path,
      T.Holds (fun i => parse i path v) (R c)) cs vs) (path : Path Live) (n : Nat) :
    T.Holds (fun i => TwoWay.runItems (parse i) path n vs) (List.Forall₂ R cs) := by
  induction h generalizing n with
  | nil => exact T.pure .nil
  | cons first _ ih =>
    exact T.bind (first _) fun r hr => T.bind (ih (n + 1)) fun rs hrs => T.pure (.cons hr hrs)

theorem runFields (links : ι → Links) {R : γ → String × Parsed → Prop}
    {shape : List (String × Schema)} {entries : Entries Live} (h : List.Forall₂ (fun c f => ∀ path,
      T.Holds (fun i => f.2.runWith (links i) path (valueAt entries f.1)) fun r => R c (f.1, r))
      cs shape) (path : Path Live) :
    T.Holds (fun i => TwoWay.runFields (links i) shape path entries) (List.Forall₂ R cs) := by
  induction h with
  | nil => exact T.pure .nil
  | cons first _ ih =>
    exact T.bind (first _) fun r hr => T.bind ih fun rs hrs => T.pure (.cons hr hrs)

theorem runValues (parse : ι → Path Live → Datum → Run Parsed) {R : γ → Datum × Parsed → Prop}
    {entries : Entries Live} (h : List.Forall₂ (fun c e => ∀ path,
      T.Holds (fun i => parse i path e.2) fun r => R c (e.1, r)) cs entries) (path : Path Live) :
    T.Holds (fun i => TwoWay.runValues (parse i) path entries) (List.Forall₂ R cs) := by
  induction h with
  | nil => exact T.pure .nil
  | cons first _ ih =>
    exact T.bind (first _) fun r hr => T.bind ih fun rs hrs => T.pure (.cons hr hrs)

end Triple
end Plans

theorem names_eq {α β γ : Type} {R : α × β → α × γ → Prop} {fs : List (α × β)}
    {gs : List (α × γ)} (h : List.Forall₂ (fun f g => g.1 = f.1 ∧ R f g) fs gs) :
    gs.map (·.1) = fs.map (·.1) :=
  (map_related (h.imp fun _ _ h => h.1.symm)).symm

/-! ## Sequences -/

section
variable {path : Path Live}

/-- The items of a list are parsed with one schema. -/
theorem runItems_eq (links : Links) (s : Schema) (rest : Path Live → Datum → Run Parsed) (n : Nat)
    (vs : List Datum) : runItems (fun p x => s.runWith links p x) path n vs =
      runTupleItems links (List.replicate vs.length s) rest path n vs := by
  induction vs generalizing n with
  | nil => rfl
  | cons v vs ih => rw [runItems, List.length_cons, List.replicate_succ, runTupleItems, ih]

/-- The items of a tuple beyond the declared ones are parsed with one schema. -/
theorem runTupleItems_eq (links : Links) (s : Schema) (rest : Path Live → Datum → Run Parsed)
    (n : Nat) {items : List Schema} {vs : List Datum} (enough : items.length ≤ vs.length) :
    runTupleItems links items (fun p x => s.runWith links p x) path n vs =
      runTupleItems links (items ++ List.replicate (vs.length - items.length) s) rest path n
        vs := by
  induction items generalizing n vs with
  | nil => exact runItems_eq links s rest n vs
  | cons t items ih =>
    cases vs with
    | nil => cases enough
    | cons v vs =>
      rw [runTupleItems, List.cons_append, runTupleItems]
      simp only [List.length_cons, Nat.add_sub_add_right]
      rw [ih (n + 1) (Nat.le_of_succ_le_succ enough)]

end

theorem clean_of_sequenceResult {ofItems : List Datum → Datum} {own : List (Issue Live)}
    {rs : List Parsed} (h : (sequenceResult ofItems own rs).isClean) :
    own = [] ∧ (∀ r ∈ rs, r.isClean) ∧
      (sequenceResult ofItems own rs).value = ofItems (Parsed.values rs) := by
  unfold sequenceResult at h ⊢
  dsimp only at h ⊢
  split at h
  · cases h
  · rename_i valid
    obtain ⟨mine, none⟩ := List.append_eq_nil_iff.1 (Parsed.issues_of_isClean h)
    refine ⟨mine, fun r hr => Parsed.isClean_iff.2 ⟨?_, List.flatMap_eq_nil_iff.1 none r hr⟩, ?_⟩
    · exact isInvalid_of_anyInvalid (eq_false_of_ne_true valid) hr
    · rw [if_neg valid]

namespace Parsed.Returns

variable {v : Datum} {r : Parsed} {vs : List Datum} {rs : List Parsed}

theorem natural (h : Parsed.Returns v r) (hv : v.Natural False) : r.value.Natural False :=
  h.given.natural (h.alike.isMissing.symm.trans (hv.isMissing not_false))

theorem valid (h : List.Forall₂ Parsed.Returns vs rs) : Parsed.anyInvalid rs = false := by
  induction h with
  | nil => rfl
  | cons first _ ih =>
    exact Bool.or_eq_false_iff.2 ⟨Library.Given.isInvalid first.given, ih⟩

theorem silent (h : List.Forall₂ Parsed.Returns vs rs) : Parsed.allIssues rs = [] := by
  induction h with
  | nil => rfl
  | cons first _ ih => exact List.append_eq_nil_iff.2 ⟨first.issues, ih⟩

theorem values (h : List.Forall₂ Parsed.Returns vs rs) :
    List.Forall₂ Value.Alike vs (Parsed.values rs) := by
  refine List.forall₂_map_right_iff.2 (h.imp fun _ _ first => first.alike)

theorem naturals (h : List.Forall₂ Parsed.Returns vs rs) (hv : ∀ v ∈ vs, v.Natural False) :
    ∀ x ∈ Parsed.values rs, x.Natural False := by
  induction h with
  | nil => exact List.forall_mem_nil _
  | cons first _ ih =>
    obtain ⟨hv, hvs⟩ := List.forall_mem_cons.1 hv
    exact List.forall_mem_cons.2 ⟨first.natural hv, ih hvs⟩

/-- Items that come back make a sequence that comes back. -/
theorem sequence {v : Datum} {ofItems : List Datum → Datum}
    (h : List.Forall₂ Parsed.Returns vs rs) (alike : v.Alike (ofItems (Parsed.values rs)))
    (given : (ofItems (Parsed.values rs)).Natural False) :
    Parsed.Returns v (sequenceResult ofItems [] rs) := by
  unfold sequenceResult
  rw [if_neg (by simp [valid h])]
  exact ⟨silent h, alike, .inl given⟩

end Parsed.Returns

namespace Library

variable {lib : Library} {settings : InversionSettings} {mode : Mode} {depth : Nat}
  {s : Schema} {v x : Datum} {path : Path Live} {w w' : World}

theorem Retrieves.natural (h : lib.Retrieves settings s v x) (hv : v.Natural False) :
    x.Natural False :=
  h.given.natural (h.missing.trans (hv.isMissing not_false))

section
variable {ss ts : List Schema} {vs us : List Datum} {rs : List Parsed} {n : Nat}

/-- What is got back of the items of a sequence. -/
abbrev RetrievesEach (lib : Library) (settings : InversionSettings) (ss : List Schema)
    (vs : List Datum) (rs : List Parsed) : Prop :=
  List.Forall₂ (fun p r => lib.Retrieves settings p.1 p.2 r.value) (ss.zip vs) rs

/-- Items that are all reversible, and spared. -/
theorem sequence_retrieves {rest : Path Live → Datum → Run Parsed} (length : ss.length = vs.length)
    (hv : ∀ v ∈ vs, v.Natural False) (hs : ∀ s ∈ ss, lib.Reversible settings mode depth s)
    (smooth : ∀ p ∈ ss.zip vs, lib.Smooth settings p.1 p.2) (hw : lib.plans.Faithful w)
    (h : runTupleItems (lib.links mode depth) ss rest path n vs w = .ok rs w')
    (clean : ∀ r ∈ rs, r.isClean) : lib.RetrievesEach settings ss vs rs := by
  have all : lib.plans.Ensures (runTupleItems (lib.links mode depth) ss rest path n vs)
      (List.Forall₂ (fun p r => lib.Results mode depth p.1 p.2 r) (ss.zip vs)) :=
    lib.plans.ensured.runTupleItems (fun _ => lib.links mode depth) (fun _ => rest) length
      (List.forall₂_same.2 fun p _ path => lib.results mode depth p.1 path p.2) path n
  have results := (all.ok hw h).2
  refine (List.forall₂_iff_zip.2 ⟨results.length_eq, fun {p r} hp => ?_⟩)
  obtain ⟨inside, ran⟩ := List.of_mem_zip hp
  obtain ⟨declared, stands⟩ := List.of_mem_zip inside
  exact hs p.1 declared p.2 r (.inl (hv p.2 stands)) (List.forall₂_iff_zip.1 results |>.2 hp)
    (clean r ran) (smooth p inside)

theorem retrieved_length (length : ss.length = vs.length)
    (h : lib.RetrievesEach settings ss vs rs) : (Parsed.values rs).length = vs.length := by
  rw [Parsed.values, List.length_map, ← h.length_eq, List.length_zip, length, Nat.min_self]

theorem retrieved_natural (h : lib.RetrievesEach settings ss vs rs)
    (hv : ∀ v ∈ vs, v.Natural False) : ∀ x ∈ Parsed.values rs, x.Natural False := by
  intro x hx
  obtain ⟨r, hr, rfl⟩ := List.mem_map.1 hx
  obtain ⟨p, hp, retrieved⟩ := related_left h.flip hr
  exact retrieved.natural (hv _ (List.of_mem_zip hp).2)

/-- The items come back one by one. -/
theorem sequence_attains {rest : Nat → Path Live → Datum → Run Parsed}
    (length : ss.length = vs.length) (h : lib.RetrievesEach settings ss vs rs)
    (inverted : List.Forall₂ (lib.plans.Inverts settings) ss ts)
    (alike : List.Forall₂ Value.Alike (Parsed.values rs) us) (given : ∀ u ∈ us, u.Natural False)
    (mode : Mode) (path : Path Live) (n : Nat) :
    lib.plans.Attains (fun depth => runTupleItems (lib.links mode depth) ts (rest depth) path n us)
      (List.Forall₂ Parsed.Returns vs) := by
  have lengths : ts.length = us.length := by
    rw [← inverted.length_eq, ← alike.length_eq, retrieved_length length h, length]
  refine (lib.plans.ending _).runTupleItems (lib.links mode ·) rest lengths ?_ path n
  clear lengths
  induction inverted generalizing vs rs us with
  | nil =>
    cases vs with
    | nil => exact .nil
    | cons => cases length
  | cons first _ ih =>
    cases vs with
    | nil => cases length
    | cons v vs =>
      cases h with
      | cons head tail =>
        cases alike with
        | cons same others =>
          obtain ⟨hu, hus⟩ := List.forall_mem_cons.1 given
          refine .cons (fun path => head.back _ first _ same (.inl hu) mode path) ?_
          exact ih (Nat.succ.inj length) tail others hus

end
theorem replicate_inverts {t : Schema} (h : lib.plans.Inverts settings s t) (n : Nat) :
    List.Forall₂ (lib.plans.Inverts settings) (List.replicate n s) (List.replicate n t) := by
  induction n with
  | zero => exact .nil
  | succ n ih => exact .cons h ih

/-- Lengths that are within the bounds are so everywhere. -/
theorem bounds_attained {owner noun : String} {lengths : Lengths Live} {size : Nat}
    (h : Run.liftFault (lengthIssues path owner noun lengths size) w = .ok [] w')
    (path' : Path Live) : lengthIssues path' owner noun lengths size = .ok [] := by
  rw [lengthIssues_moved path path']
  cases found : lengthIssues path owner noun lengths size with
  | error f =>
    rw [found] at h
    cases h
  | ok issues =>
    rw [found] at h
    cases h
    rfl

theorem reversible_array {element : Schema} {lengths : Lengths Live}
    (h : lib.Reversible settings mode depth element) :
    lib.Reversible settings mode depth (.array element lengths) := by
  rintro v r hv ⟨path, w, w', hw, ran⟩ clean smooth
  cases v
  case list access vs =>
    have natural := hv.natural rfl
    have items := (Value.natural_list.1 natural).2
    simp only [Schema.runWith, Value.listItems?, runItems_eq _ _ fun _ x => pure ⟨x, []⟩] at ran
    obtain ⟨own, u, bounds, ran⟩ := Run.bind_ok.1 ran
    obtain ⟨rs, u', all, ran⟩ := Run.bind_ok.1 ran
    cases ran
    obtain ⟨rfl, each, value⟩ := clean_of_sequenceResult clean
    have length : (List.replicate vs.length element).length = vs.length := List.length_replicate
    have hu : lib.plans.Faithful u := ((Plans.Ensures.liftFault fun _ _ => trivial).ok hw bounds).1
    have retrieved : lib.RetrievesEach settings (List.replicate vs.length element) vs rs := by
      refine sequence_retrieves length items (fun s hs => ?_) (fun p hp => ?_) hu all each
      · exact List.eq_of_mem_replicate hs ▸ h
      · obtain ⟨hs, hx⟩ := List.of_mem_zip hp
        exact List.eq_of_mem_replicate hs ▸ smooth.hand (.element rfl hx)
    rw [value]
    refine ⟨.inl (.list rfl (retrieved_natural retrieved items)), rfl, ?_⟩
    intro t ht u alike hu mode path
    cases ht with
    | leaf leaf => cases leaf
    | array inverts =>
      obtain ⟨access', us, rfl, pairs⟩ := alike.from_list
      have size : us.length = vs.length :=
        pairs.length_eq.symm.trans (retrieved_length length retrieved)
      simp only [Schema.runWith, Value.listItems?, runItems_eq _ _ fun _ x => pure ⟨x, []⟩, size,
        bounds_attained bounds path]
      refine .bind (.pure rfl) fun own (same : [] = own) => ?_
      subst same
      refine .bind (sequence_attains length retrieved (replicate_inverts inverts _) pairs
        (Value.natural_list.1 (hu.natural rfl)).2 mode path 0) fun rs' back => .pure ?_
      exact Parsed.Returns.sequence back (.ofList (Parsed.Returns.values back))
        (.list rfl (Parsed.Returns.naturals back items))
  all_goals
    cases ran
    cases clean

/-- The schemas of so many items of a tuple, the declared ones first. -/
def assigned (items : List Schema) (rest : Option Schema) (size : Nat) : List Schema :=
  items ++ List.replicate (size - items.length) (rest.getD .any)

section
variable {items items' : List Schema} {rest rest' : Option Schema} {size : Nat}

theorem assigned_length (rest : Option Schema) (enough : items.length ≤ size) :
    (assigned items rest size).length = size := by
  rw [assigned, List.length_append, List.length_replicate, Nat.add_sub_cancel' enough]

theorem assigned_inverts (hi : List.Forall₂ (lib.plans.Inverts settings) items items')
    (hr : Option.Rel (lib.plans.Inverts settings) rest rest') (size : Nat) :
    List.Forall₂ (lib.plans.Inverts settings) (assigned items rest size)
      (assigned items' rest' size) := by
  have further : lib.plans.Inverts settings (rest.getD .any) (rest'.getD .any) := by
    cases hr with
    | none => exact .leaf rfl
    | some inverts => exact inverts
  unfold assigned
  rw [← hi.length_eq]
  exact List.rel_append hi (replicate_inverts further _)

/-- A tuple that has the items it needs, and no others unless there is a schema for these. -/
def Fits (items : List Schema) (rest : Option Schema) (size : Nat) : Prop :=
  items.length ≤ size ∧ (rest = none → size = items.length)

theorem tuple_run (links : Links) (path : Path Live) {v : Datum} {isTuple : Bool} {vs : List Datum}
    (found : v.sequence? = some (isTuple, vs)) (fits : Fits items rest vs.length) :
    (Schema.tuple items rest).runWith links path v = (do
      let rs ← runTupleItems links (assigned items rest vs.length) (fun _ x => pure ⟨x, []⟩) path 0
        vs
      return sequenceResult (if isTuple then .tuple else .list .free) [] rs) := by
  simp only [Schema.runWith, found, if_neg (Nat.not_lt.2 fits.1)]
  cases rest with
  | none =>
    simp only [fits.2 rfl, assigned, Nat.lt_irrefl, if_false, Nat.sub_self, List.replicate_zero,
      List.append_nil]
  | some s =>
    simp only [runTupleItems_eq links s (fun _ x => pure ⟨x, []⟩) 0 fits.1]
    rfl

theorem tuple_fits {r : Parsed} {links : Links}
    (h : (Schema.tuple items rest).runWith links path v w = .ok r w') (clean : r.isClean) :
    ∃ isTuple vs, v.sequence? = some (isTuple, vs) ∧ Fits items rest vs.length := by
  simp only [Schema.runWith] at h
  cases found : v.sequence? with
  | none =>
    rw [found] at h
    cases h
    cases clean
  | some sequence =>
    obtain ⟨isTuple, vs⟩ := sequence
    simp only [found] at h
    split at h
    · cases h
      cases clean
    · rename_i enough
      refine ⟨isTuple, vs, rfl, Nat.not_lt.1 enough, ?_⟩
      rintro rfl
      dsimp only at h
      split at h
      · cases h
        cases clean
      · omega

/-- What stands in a tuple is handed to the schema of its place. -/
theorem Smooth.assigned {isTuple : Bool} {vs : List Datum}
    (h : lib.Smooth settings (.tuple items rest) v) (found : v.sequence? = some (isTuple, vs))
    (fits : Fits items rest vs.length) {p : Schema × Datum}
    (hp : p ∈ (assigned items rest vs.length).zip vs) : lib.Smooth settings p.1 p.2 := by
  obtain ⟨i, hi⟩ := List.mem_iff_getElem?.1 hp
  obtain ⟨declared, stands⟩ := List.getElem?_zip_eq_some.1 hi
  rw [Library.assigned, List.getElem?_append] at declared
  split at declared
  · exact h.hand (.item found declared stands)
  · rename_i beyond
    have inside : i < vs.length := (List.getElem?_eq_some_iff.1 stands).1
    cases rest with
    | none => exact absurd (fits.2 rfl ▸ inside) beyond
    | some s =>
      have further : p.1 = s :=
        List.eq_of_mem_replicate (List.mem_of_getElem? declared)
      rw [further]
      refine h.hand (.rest found (List.mem_of_getElem? (i := i - items.length) ?_))
      rw [List.getElem?_drop, Nat.add_sub_cancel' (Nat.not_lt.1 beyond), stands]

end

section
variable {isTuple : Bool} {vs ys : List Datum}

theorem sequence_natural (hv : v.Given False) (found : v.sequence? = some (isTuple, vs)) :
    ∀ x ∈ vs, x.Natural False := by
  cases v <;> cases found
  · exact (Value.natural_list.1 (hv.natural rfl)).2
  · exact Value.natural_tuple.1 (hv.natural rfl)

theorem natural_sequence (isTuple : Bool) (h : ∀ x ∈ ys, x.Natural False) :
    ((if isTuple then Value.tuple else Value.list .free) ys : Datum).Natural False := by
  cases isTuple
  · exact .list rfl h
  · exact .tuple h

theorem sequence_alike (found : v.sequence? = some (isTuple, vs))
    (h : List.Forall₂ Value.Alike vs ys) :
    v.Alike ((if isTuple then Value.tuple else Value.list .free) ys) := by
  cases v <;> cases found
  · exact .ofList h
  · exact .ofTuple h

/-- Only sequences of the same kind are like a sequence. -/
theorem alike_sequence {u : Datum}
    (h : Value.Alike ((if isTuple then Value.tuple else Value.list .free) ys) u) :
    ∃ us, u.sequence? = some (isTuple, us) ∧ List.Forall₂ Value.Alike ys us := by
  cases isTuple
  · obtain ⟨_, us, rfl, pairs⟩ := Value.Alike.from_list h
    exact ⟨us, rfl, pairs⟩
  · obtain ⟨us, rfl, pairs⟩ := Value.Alike.from_tuple h
    exact ⟨us, rfl, pairs⟩

end

theorem reversible_tuple {items : List Schema} {rest : Option Schema}
    (hi : ∀ s ∈ items, lib.Reversible settings mode depth s)
    (hr : ∀ s, rest = some s → lib.Reversible settings mode depth s) :
    lib.Reversible settings mode depth (.tuple items rest) := by
  rintro v r hv ⟨path, w, w', hw, ran⟩ clean smooth
  obtain ⟨isTuple, vs, found, fits⟩ := tuple_fits ran clean
  rw [tuple_run _ _ found fits] at ran
  obtain ⟨rs, u, all, ran⟩ := Run.bind_ok.1 ran
  cases ran
  obtain ⟨-, each, value⟩ := clean_of_sequenceResult clean
  have natural := sequence_natural hv found
  have length := assigned_length rest fits.1
  have reversible : ∀ s ∈ assigned items rest vs.length, lib.Reversible settings mode depth s := by
    refine List.forall_mem_append.2 ⟨hi, fun s hs => ?_⟩
    rw [List.eq_of_mem_replicate hs]
    cases rest with
    | none => exact reversible_any (.inl rfl)
    | some t => exact hr t rfl
  have retrieved := sequence_retrieves length natural reversible
    (fun p hp => smooth.assigned found fits hp) hw all each
  rw [value]
  have natural' := natural_sequence isTuple (retrieved_natural retrieved natural)
  refine ⟨.inl natural', ?_, fun t ht u alike hu mode path => ?_⟩
  · rw [natural'.isMissing not_false]
    cases v <;> cases found <;> rfl
  cases ht with
  | leaf leaf => cases leaf
  | @tuple _ items' _ rest' inverted others =>
    obtain ⟨us, found', pairs⟩ := alike_sequence alike
    have size : us.length = vs.length :=
      pairs.length_eq.symm.trans (retrieved_length length retrieved)
    have fits' : Fits items' rest' us.length := by
      refine ⟨by rw [size, ← inverted.length_eq]; exact fits.1, ?_⟩
      rintro rfl
      cases others
      rw [size, ← inverted.length_eq]
      exact fits.2 rfl
    simp only [tuple_run _ _ found' fits', size]
    refine .bind (sequence_attains length retrieved (assigned_inverts inverted others _) pairs
      (sequence_natural hu found') mode path 0) fun rs' back => .pure ?_
    exact Parsed.Returns.sequence back (sequence_alike found (Parsed.Returns.values back))
      (natural_sequence isTuple (Parsed.Returns.naturals back natural))

end Library

/-! ## Objects -/

namespace Entries.Alike

variable {entries entries' : Entries Live}

/-- Under a name stand alike values. -/
theorem valueAt (h : entries.Alike entries') (he : entries.Natural False)
    (he' : entries'.Natural False) (key : String) :
    (TwoWay.valueAt entries key).Alike (TwoWay.valueAt entries' key) := by
  cases there : (TwoWay.valueAt entries' key).isMissing with
  | false =>
    obtain ⟨e, member, named, alike⟩ := h.mem' (valueAt_mem there)
    obtain ⟨k, x⟩ := e
    cases named.eq_str.2 rfl
    rw [valueAt_eq he member]
    exact alike
  | true =>
    cases here : (TwoWay.valueAt entries key).isMissing with
    | true =>
      rw [Value.eq_missing here, Value.eq_missing there]
      exact .same _
    | false =>
      obtain ⟨e, member, named, -⟩ := h.mem (valueAt_mem here)
      obtain ⟨k, x⟩ := e
      cases named.eq_str.1 rfl
      rw [valueAt_eq he' member, (he'.value _ member).isMissing not_false] at there
      cases there

/-- What stands outside of a shape is alike. -/
theorem extra (h : entries.Alike entries') (shape : List (String × Schema)) :
    (extraEntries shape entries).Alike (extraEntries shape entries') := by
  obtain ⟨turned, order, pairs⟩ := h
  refine ⟨extraEntries shape turned, order.filter _, ?_⟩
  clear order
  induction pairs with
  | nil => exact .nil
  | @cons e e' rest rest' first _ ih =>
    have known : (shape.any fun f => e.1.equal (.str f.1)) =
        shape.any fun f => e'.1.equal (.str f.1) := by
      refine congrArg shape.any (funext fun f => Bool.eq_iff_iff.2 ?_)
      rw [equal_str, equal_str]
      exact first.1.eq_str
    unfold extraEntries at ih ⊢
    rw [List.filter_cons, List.filter_cons, known]
    split
    · exact .cons first ih
    · exact ih

end Entries.Alike

section
variable {shape : List (String × Schema)} {entries : Entries Live}

/-- The entries under the names of a shape, in the order of the shape. -/
def declaredEntries (shape : List (String × Schema)) (entries : Entries Live) : Entries Live :=
  fieldEntries (shape.map fun f => (f.1, ⟨valueAt entries f.1, []⟩))

/-- A mapping has the entries under the names of a shape and those outside of it. -/
theorem entries_split (names : (shape.map (·.1)).Nodup) (he : entries.Natural False) :
    entries.Perm (declaredEntries shape entries ++ extraEntries shape entries) := by
  have declared {e : Datum × Datum} : e ∈ declaredEntries shape entries ↔
      e ∈ entries ∧ ∃ f ∈ shape, e.1 = .str f.1 := by
    unfold declaredEntries
    rw [mem_fieldEntries]
    constructor
    · rintro ⟨g, hg, -, there, rfl⟩
      obtain ⟨f, hf, rfl⟩ := List.mem_map.1 hg
      exact ⟨valueAt_mem there, f, hf, rfl⟩
    · obtain ⟨k, x⟩ := e
      rintro ⟨member, f, hf, rfl⟩
      have natural := he.value _ member
      refine ⟨_, List.mem_map_of_mem hf, ?_, ?_, ?_⟩ <;> dsimp only <;> rw [valueAt_eq he member]
      · exact Library.Given.isInvalid (.inl natural)
      · exact natural.isMissing not_false
  have distinct : (declaredEntries shape entries ++ extraEntries shape entries).Nodup := by
    refine (List.Nodup.of_map (·.1) ?_).append ?_ fun e first second => ?_
    · refine List.Nodup.sublist (fieldEntries_keys _) (List.Nodup.map (fun _ _ => Value.str.inj) ?_)
      simpa [Function.comp_def] using names
    · exact (List.Nodup.of_map _ he.keys.nodup).sublist List.filter_sublist
    · obtain ⟨-, f, hf, same⟩ := declared.1 first
      exact (mem_extraEntries.1 second).2 f hf same
  refine (List.perm_ext_iff_of_nodup (.of_map _ he.keys.nodup) distinct).2 fun e => ?_
  rw [List.mem_append, declared, mem_extraEntries]
  by_cases known : ∃ f ∈ shape, e.1 = .str f.1
  · exact ⟨fun member => .inl ⟨member, known⟩, fun h => h.elim And.left And.left⟩
  · have apart : ∀ f ∈ shape, e.1 ≠ .str f.1 := fun f hf same => known ⟨f, hf, same⟩
    simp only [known, and_false, false_or]
    exact ⟨fun he => ⟨he, apart⟩, And.left⟩

/-- Outside of the shape stands nothing but what was put there. -/
theorem extraEntries_object {fields : List (String × Parsed)} {extra : Entries Live}
    (names : fields.map (·.1) = shape.map (·.1))
    (apart : ∀ e ∈ extra, ∀ f ∈ shape, e.1 ≠ .str f.1) :
    extraEntries shape (fieldEntries fields ++ extra) = extra := by
  unfold extraEntries
  rw [List.filter_append, List.filter_eq_nil_iff.2, List.nil_append, List.filter_eq_self.2]
  · intro e he
    simpa [← equal_str] using apart e he
  · intro e he
    obtain ⟨g, hg, -, -, rfl⟩ := mem_fieldEntries.1 he
    obtain ⟨f, hf, same⟩ := List.mem_map.1 (names ▸ List.mem_map_of_mem hg : g.1 ∈ shape.map (·.1))
    simp only [Bool.not_eq_true', Bool.not_eq_false, List.any_eq_true, equal_str]
    exact ⟨f, hf, congrArg Value.str same.symm⟩

/-- What is put together from fields that stood in a mapping and from what stood beside them. -/
theorem object_natural {fields : List (String × Parsed)} {extra : Entries Live}
    (distinct : (shape.map (·.1)).Nodup) (names : fields.map (·.1) = shape.map (·.1))
    (he : entries.Natural False) (given : ∀ g ∈ fields, g.2.value.Given False)
    (stood : ∀ g ∈ fields, g.2.value.isMissing = (valueAt entries g.1).isMissing)
    (keys : extra.map (·.1) = (extraEntries shape entries).map (·.1))
    (values : ∀ e ∈ extra, e.2.Natural False) :
    Entries.Natural False (fieldEntries fields ++ extra) := by
  have within : (fieldEntries fields ++ extra).map (·.1) ⊆ entries.map (·.1) := by
    rw [List.map_append, keys]
    refine List.append_subset.2 ⟨fun k hk => ?_, List.map_subset _ (List.filter_subset_self _)⟩
    obtain ⟨e, member, rfl⟩ := List.mem_map.1 hk
    obtain ⟨g, hg, -, there, rfl⟩ := mem_fieldEntries.1 member
    exact List.mem_map.2 ⟨_, valueAt_mem ((stood g hg).symm.trans there), rfl⟩
  have nodup : ((fieldEntries fields ++ extra).map (·.1)).Nodup := by
    rw [List.map_append, keys]
    refine List.Nodup.append ?_ (he.keys.nodup.sublist (List.filter_sublist.map _)) ?_
    · refine List.Nodup.sublist (fieldEntries_keys _) (List.Nodup.map (fun _ _ => Value.str.inj) ?_)
      exact names ▸ distinct
    · intro k first second
      obtain ⟨e, member, rfl⟩ := List.mem_map.1 second
      obtain ⟨e', member', same⟩ := List.mem_map.1 first
      obtain ⟨g, hg, -, -, rfl⟩ := mem_fieldEntries.1 member'
      obtain ⟨f, hf, named⟩ :=
        List.mem_map.1 (names ▸ List.mem_map_of_mem hg : g.1 ∈ shape.map (·.1))
      exact (mem_extraEntries.1 member).2 f hf (same.symm.trans (congrArg Value.str named.symm))
  refine ⟨he.keys.subset nodup within, fun e member => ?_, ?_⟩
  · obtain ⟨e', member', same⟩ := List.mem_map.1 (within (List.mem_map_of_mem member))
    exact same ▸ he.key e' member'
  · refine List.forall_mem_append.2 ⟨fun e member => ?_, values⟩
    obtain ⟨g, hg, -, there, rfl⟩ := mem_fieldEntries.1 member
    exact (given g hg).natural there

end

namespace Library

variable {lib : Library} {settings : InversionSettings} {mode : Mode} {depth : Nat}
  {s : Schema} {v x : Datum} {path : Path Live} {w w' : World}

section
variable {shape shape' : List (String × Schema)} {entries us : Entries Live}
  {gs gs' : List (String × Parsed)} {eo : Entries Live}

/-- What is got back of the fields of an object. -/
abbrev RetrievesFields (lib : Library) (settings : InversionSettings)
    (shape : List (String × Schema)) (entries : Entries Live) (gs : List (String × Parsed)) :
    Prop :=
  List.Forall₂ (fun f g => g.1 = f.1 ∧
    lib.Retrieves settings f.2 (valueAt entries f.1) g.2.value) shape gs

/-- The fields of an object, which come back. -/
abbrev ReturnsFields (shape : List (String × Schema)) (entries : Entries Live)
    (gs : List (String × Parsed)) : Prop :=
  List.Forall₂ (fun f g => g.1 = f.1 ∧ Parsed.Returns (valueAt entries f.1) g.2) shape gs

theorem fields_retrieve (he : entries.Natural False)
    (hs : ∀ f ∈ shape, lib.Reversible settings mode depth f.2)
    (smooth : ∀ f ∈ shape, lib.Smooth settings f.2 (valueAt entries f.1))
    (hw : lib.plans.Faithful w)
    (h : runFields (lib.links mode depth) shape path entries w = .ok gs w') :
    lib.plans.Faithful w' ∧ ((∀ g ∈ gs, g.2.isClean) →
      lib.RetrievesFields settings shape entries gs) := by
  have all : lib.plans.Ensures (runFields (lib.links mode depth) shape path entries)
      (List.Forall₂ (fun f g => g.1 = f.1 ∧
        lib.Results mode depth f.2 (valueAt entries f.1) g.2) shape) := by
    refine lib.plans.ensured.runFields (fun _ => lib.links mode depth)
      (List.forall₂_same.2 fun f _ path => ?_) path
    exact (lib.results mode depth f.2 path (valueAt entries f.1)).weaken fun r hr => ⟨rfl, hr⟩
  obtain ⟨hw', results⟩ := all.ok hw h
  refine ⟨hw', fun clean => List.forall₂_iff_zip.2 ⟨results.length_eq, fun {f g} member => ?_⟩⟩
  obtain ⟨named, result⟩ := (List.forall₂_iff_zip.1 results).2 member
  obtain ⟨declared, ran⟩ := List.of_mem_zip member
  exact ⟨named, hs f declared _ _ (valueAt_given he f.1) result (clean g ran) (smooth f declared)⟩

/-- Under the names of fields stands what is like their outputs. -/
abbrev ShowsFields (lib : Library) (settings : InversionSettings)
    (shape : List (String × Schema)) (entries us : Entries Live) : Prop :=
  ∀ f ∈ shape, ∃ x, lib.Retrieves settings f.2 (valueAt entries f.1) x ∧
    x.Alike (valueAt us f.1)

theorem ShowsFields.stood (h : lib.ShowsFields settings shape entries us) {f : String × Schema}
    (hf : f ∈ shape) : (valueAt entries f.1).isMissing = (valueAt us f.1).isMissing := by
  obtain ⟨x, retrieved, likeness⟩ := h f hf
  exact retrieved.missing.symm.trans likeness.isMissing

theorem fields_shown (distinct : (shape.map (·.1)).Nodup)
    (h : lib.RetrievesFields settings shape entries gs)
    (natural : Entries.Natural False (fieldEntries gs ++ eo))
    (apart : ∀ e ∈ eo, ∀ f ∈ shape, e.1 ≠ .str f.1)
    (alike : Entries.Alike (fieldEntries gs ++ eo) us) (hu : us.Natural False) :
    lib.ShowsFields settings shape entries us := by
  intro f hf
  obtain ⟨g, hg, named, retrieved⟩ := related_left h hf
  have value : valueAt (fieldEntries gs ++ eo) g.1 = g.2.value := by
    refine valueAt_fieldEntries (names_eq h ▸ distinct) hg (Given.isInvalid retrieved.given) ?_
    exact fun e he => named ▸ apart e he f hf
  have likeness := alike.valueAt natural hu g.1
  rw [value, named] at likeness
  exact ⟨_, retrieved, likeness⟩

/-- What is read of an object, with what stands beside its fields, is natural, and what is like it
shows the fields and what stands beside them. -/
theorem object_shown (distinct : (shape.map (·.1)).Nodup) (he : entries.Natural False)
    (h : lib.RetrievesFields settings shape entries gs)
    (keys : eo.map (·.1) = (extraEntries shape entries).map (·.1))
    (values : ∀ e ∈ eo, e.2.Natural False) :
    (Value.dict .free (fieldEntries gs ++ eo)).Natural False ∧
    ∀ u, (Value.dict .free (fieldEntries gs ++ eo)).Alike u → u.Given False →
      ∃ access us, u = .dict access us ∧ Entries.Natural False us ∧
        lib.ShowsFields settings shape entries us ∧ eo.Alike (extraEntries shape us) := by
  have each {g : String × Parsed} (hg : g ∈ gs) : ∃ f ∈ shape, g.1 = f.1 ∧
      lib.Retrieves settings f.2 (valueAt entries f.1) g.2.value := related_left h.flip hg
  have natural : Entries.Natural False (fieldEntries gs ++ eo) := by
    refine object_natural distinct (names_eq h) he (fun g hg => ?_) (fun g hg => ?_) keys values
    all_goals obtain ⟨f, hf, named, back⟩ := each hg
    · exact back.given
    · exact named ▸ back.missing
  have apart : ∀ e ∈ eo, ∀ f ∈ shape, e.1 ≠ .str f.1 := by
    intro e member
    obtain ⟨e', member', same⟩ := List.mem_map.1 (keys ▸ List.mem_map_of_mem member)
    exact same ▸ (mem_extraEntries.1 member').2
  refine ⟨Value.natural_dict.2 ⟨rfl, natural⟩, fun u alike hu => ?_⟩
  obtain ⟨access, us, rfl, likeness⟩ := alike.from_dict
  have hus := (Value.natural_dict.1 (hu.natural rfl)).2
  have extra := likeness.extra shape
  rw [extraEntries_object (names_eq h) apart] at extra
  exact ⟨access, us, rfl, hus, fields_shown distinct h natural apart likeness hus, extra⟩

/-- The fields come back one by one. -/
theorem fields_attain (inverted : Schema.Fieldwise (lib.plans.Inverts settings) shape shape')
    (shown : lib.ShowsFields settings shape entries us)
    (hu : us.Natural False) (mode : Mode) (path : Path Live) :
    lib.plans.Attains (fun depth => runFields (lib.links mode depth) shape' path us)
      (ReturnsFields shape entries) := by
  refine (lib.plans.ending _).runFields (lib.links mode ·) ?_ path
  induction inverted with
  | nil => exact .nil
  | @cons key s t rest rest' inverts _ ih =>
    obtain ⟨⟨x, retrieved, likeness⟩, others⟩ := List.forall_mem_cons.1 shown
    refine .cons (fun path => ?_) (ih others)
    have back := retrieved.back t inverts _ likeness (valueAt_given hu key) mode path
    exact Plans.Ends.weaken back fun r hr => ⟨rfl, hr⟩

theorem declared_alike (h : ReturnsFields shape entries gs) :
    List.Forall₂ Value.EntryAlike (declaredEntries shape entries) (fieldEntries gs) := by
  induction h with
  | nil => exact .nil
  | @cons f g shape gs first _ ih =>
    obtain ⟨named, returned⟩ := first
    have invalid := Given.isInvalid returned.given
    have invalid' := returned.alike.isInvalid.trans invalid
    unfold declaredEntries at ih ⊢
    rw [List.map_cons, fieldEntries_cons, fieldEntries_cons, invalid, returned.alike.isMissing]
    simp only [invalid', Bool.false_or]
    split
    · exact ih
    · exact .cons ⟨named ▸ .same _, returned.alike⟩ ih

/-- Fields and what stands beside them, given back, make an object that comes back. -/
theorem object_returns {access : Access} {eb : Entries Live} (distinct : (shape.map (·.1)).Nodup)
    (he : entries.Natural False) (hu : us.Natural False) (h : ReturnsFields shape entries gs)
    (stood : ∀ f ∈ shape, (valueAt entries f.1).isMissing = (valueAt us f.1).isMissing)
    (extra : (extraEntries shape entries).Alike eb)
    (keys : eb.map (·.1) = (extraEntries shape us).map (·.1))
    (values : ∀ e ∈ eb, e.2.Natural False) :
    Parsed.Returns (.dict access entries) (objectResult gs eb [] false) := by
  have each {g : String × Parsed} (hg : g ∈ gs) : ∃ f ∈ shape, g.1 = f.1 ∧
      Parsed.Returns (valueAt entries f.1) g.2 := related_left h.flip hg
  have valid : Parsed.anyInvalid (gs.map (·.2)) = false := by
    refine List.any_eq_false.2 fun r hr => ?_
    obtain ⟨g, hg, rfl⟩ := List.mem_map.1 hr
    obtain ⟨f, -, -, returned⟩ := each hg
    simp [Given.isInvalid returned.given]
  have silent : Parsed.allIssues (gs.map (·.2)) = [] := by
    refine List.flatMap_eq_nil_iff.2 fun r hr => ?_
    obtain ⟨g, hg, rfl⟩ := List.mem_map.1 hr
    obtain ⟨f, -, -, returned⟩ := each hg
    exact returned.issues
  have natural : Entries.Natural False (fieldEntries gs ++ eb) := by
    refine object_natural distinct (names_eq h) hu (fun g hg => ?_) (fun g hg => ?_) keys values
    · obtain ⟨f, -, -, returned⟩ := each hg
      exact returned.given
    · obtain ⟨f, hf, named, returned⟩ := each hg
      rw [named, ← stood f hf, returned.alike.isMissing]
  have alike : entries.Alike (fieldEntries gs ++ eb) :=
    .turned (entries_split distinct he) (.append (.ofPairs (declared_alike h)) extra)
  unfold objectResult
  dsimp only
  rw [valid, Bool.or_self, if_neg Bool.false_ne_true, silent]
  exact ⟨rfl, .ofDict alike, .inl (Value.natural_dict.2 ⟨rfl, natural⟩)⟩

theorem object_of_clean {extra : Entries Live} {issues : List (Issue Live)} {failed : Bool}
    (h : (objectResult gs extra issues failed).isClean) : failed = false ∧ issues = [] ∧
      (objectResult gs extra issues failed).value = .dict .free (fieldEntries gs ++ extra) := by
  unfold objectResult at h ⊢
  dsimp only at h ⊢
  split at h
  · cases h
  · rename_i valid
    rw [if_neg valid]
    exact ⟨(Bool.or_eq_false_iff.1 (eq_false_of_ne_true valid)).1,
      (List.append_eq_nil_iff.1 (Parsed.issues_of_isClean h)).2, rfl⟩

/-- Unless there is something to strip or to report, all policies do the same. -/
theorem closedObject_eq {policy : UnknownKeys} (h : policy = .passthrough ∨ eo = []) :
    closedObject path policy gs eo = objectResult gs eo [] false := by
  rcases h with rfl | rfl
  · rfl
  · cases policy <;> rfl

/-- What stands beside the fields of an object, put back by an inverse of the catchall. -/
theorem values_attain (gs : List (String × Parsed)) {c c' : Schema} {extra : Entries Live}
    (h : List.Forall₂ (fun e e' => e'.1 = e.1 ∧ lib.Retrieves settings c e.2 e'.2) extra eo)
    (natural : ∀ e ∈ extra, e.2.Natural False) (inverts : lib.plans.Inverts settings c c')
    (alike : eo.Alike us) (hu : ∀ e ∈ us, e.2.Natural False) (mode : Mode) (path : Path Live) :
    lib.plans.Attains
      (fun depth => runValues (fun p x => c'.runWith (lib.links mode depth) p x) path us)
      fun rs => openObject gs rs = objectResult gs (rs.map fun q => (q.1, q.2.value)) [] false ∧
        extra.Alike (rs.map fun q => (q.1, q.2.value)) ∧ rs.map (·.1) = us.map (·.1) ∧
        ∀ q ∈ rs, q.2.value.Natural False := by
  obtain ⟨turned, order, pairs⟩ := alike
  obtain ⟨began, order', sources⟩ := forall₂_turned h order
  have given : List.Forall₂ (fun e e' => Value.EntryAlike e e' ∧ e'.2.Natural False) turned us :=
    List.forall₂_iff_zip.2 ⟨pairs.length_eq, fun {e e'} member =>
      ⟨(List.forall₂_iff_zip.1 pairs).2 member, hu e' (List.of_mem_zip member).2⟩⟩
  have back : List.Forall₂ (fun (e e' : Datum × Datum) => ∀ path, lib.plans.Attains
      (fun depth => c'.runWith (lib.links mode depth) path e'.2)
      fun r => e.1.Alike e'.1 ∧ Parsed.Returns e.2 r) began us := by
    refine forall₂_through ?_ sources given
    rintro e e' e'' ⟨same, retrieved⟩ ⟨⟨key, value⟩, natural⟩ path
    exact Plans.Ends.weaken (retrieved.back c' inverts _ value (.inl natural) mode path)
      fun r hr => ⟨same ▸ key, hr⟩
  have all := (lib.plans.ending fun _ => False).runValues
    (fun depth p x => c'.runWith (lib.links mode depth) p x)
    (R := fun (e : Datum × Datum) q => e.1.Alike q.1 ∧ Parsed.Returns e.2 q.2) back path
  have keys (depth : Nat) : lib.plans.Ensures
      (runValues (fun p x => c'.runWith (lib.links mode depth) p x) path us)
      (List.Forall₂ (fun e q => q.1 = e.1 ∧ True) us) :=
    lib.plans.ensured.runValues (fun _ p x => c'.runWith (lib.links mode depth) p x)
      (List.forall₂_same.2 fun e _ p =>
        (lib.results mode depth c' p e.2).weaken fun _ _ => ⟨rfl, trivial⟩) path
  refine Plans.Ends.weaken (Plans.Ends.both all keys) fun rs ⟨returned, named⟩ => ?_
  have results : List.Forall₂ Parsed.Returns (began.map (·.2)) (rs.map (·.2)) :=
    List.forall₂_map_left_iff.2 (List.forall₂_map_right_iff.2 (returned.imp fun _ _ h => h.2))
  refine ⟨?_, ⟨began, order', ?_⟩, names_eq named, fun q hq => ?_⟩
  · unfold openObject
    dsimp only
    rw [Parsed.Returns.valid results, Parsed.Returns.silent results]
  · exact List.forall₂_map_right_iff.2 (returned.imp fun _ _ h => ⟨h.1, h.2.alike⟩)
  · obtain ⟨e, member, -, back⟩ := related_left returned.flip hq
    exact back.natural (natural e (order'.symm.subset member))

/-- What a catchall gives for what stands beside the fields of an object. -/
theorem values_retrieve {c : Schema} {extra : Entries Live} {rs : List (Datum × Parsed)}
    (he : ∀ e ∈ extra, e.2.Natural False) (hc : lib.Reversible settings mode depth c)
    (smooth : ∀ e ∈ extra, lib.Smooth settings c e.2) (hw : lib.plans.Faithful w)
    (h : runValues (fun p x => c.runWith (lib.links mode depth) p x) path extra w = .ok rs w')
    (clean : ∀ q ∈ rs, q.2.isClean) :
    List.Forall₂ (fun e e' => e'.1 = e.1 ∧ lib.Retrieves settings c e.2 e'.2) extra
      (rs.map fun q => (q.1, q.2.value)) := by
  have all : lib.plans.Ensures
      (runValues (fun p x => c.runWith (lib.links mode depth) p x) path extra)
      (List.Forall₂ (fun e q => q.1 = e.1 ∧ lib.Results mode depth c e.2 q.2) extra) :=
    lib.plans.ensured.runValues (fun _ p x => c.runWith (lib.links mode depth) p x)
      (List.forall₂_same.2 fun e _ p =>
        (lib.results mode depth c p e.2).weaken fun _ hr => ⟨rfl, hr⟩) path
  have results := (all.ok hw h).2
  refine List.forall₂_map_right_iff.2 (List.forall₂_iff_zip.2 ⟨results.length_eq, ?_⟩)
  intro e q member
  obtain ⟨named, result⟩ := (List.forall₂_iff_zip.1 results).2 member
  obtain ⟨stands, ran⟩ := List.of_mem_zip member
  exact ⟨named, hc _ _ (.inl (he e stands)) result (clean q ran) (smooth e stands)⟩

/-- What is stripped or reported would be missing. -/
theorem policy_keeps {policy : UnknownKeys} {access : Access}
    (spares : lib.Spares settings (.object shape none policy) (.dict access entries))
    (clean : (closedObject path policy gs (extraEntries shape entries)).isClean) :
    policy = .passthrough ∨ extraEntries shape entries = [] := by
  cases policy with
  | passthrough => exact .inl rfl
  | strip => exact .inr (spares entries rfl)
  | strict =>
    obtain ⟨-, none, -⟩ := object_of_clean clean
    cases unknown : extraEntries shape entries with
    | nil => exact .inr rfl
    | cons =>
      rw [unknown] at none
      cases none

theorem closed_retrieves {policy : UnknownKeys} {access : Access}
    (distinct : (shape.map (·.1)).Nodup) (he : entries.Natural False)
    (kept : policy = .passthrough ∨ extraEntries shape entries = [])
    (h : lib.RetrievesFields settings shape entries gs) :
    lib.Retrieves settings (.object shape none policy) (.dict access entries)
      (.dict .free (fieldEntries gs ++ extraEntries shape entries)) := by
  have beside : (extraEntries shape entries).Natural False := he.sublist List.filter_sublist
  obtain ⟨natural, shows⟩ := object_shown distinct he h rfl beside.value
  refine ⟨.inl natural, rfl, fun t ht u alike hu mode path => ?_⟩
  cases ht with
  | leaf leaf => cases leaf
  | object inverted rest =>
    cases rest
    obtain ⟨access', us, rfl, hus, shown, extra⟩ := shows u alike hu
    simp only [Schema.runWith, Value.entries?, ← inverted.extraEntries_eq us]
    refine .bind (fields_attain inverted shown hus mode path) fun gs' back => .pure ?_
    rw [closedObject_eq (kept.imp_right fun none => ?_)]
    · exact object_returns distinct he hus back (fun _ => shown.stood) extra rfl fun e he =>
        hus.value e (List.mem_of_mem_filter he)
    · obtain ⟨turned, order, pairs⟩ := none ▸ extra
      rw [← order.nil_eq] at pairs
      exact List.forall₂_nil_left_iff.1 pairs

theorem open_retrieves {c : Schema} {policy : UnknownKeys} {access : Access}
    (distinct : (shape.map (·.1)).Nodup) (he : entries.Natural False)
    (h : lib.RetrievesFields settings shape entries gs)
    (around : List.Forall₂ (fun e e' => e'.1 = e.1 ∧ lib.Retrieves settings c e.2 e'.2)
      (extraEntries shape entries) eo) :
    lib.Retrieves settings (.object shape (some c) policy) (.dict access entries)
      (.dict .free (fieldEntries gs ++ eo)) := by
  have beside : (extraEntries shape entries).Natural False := he.sublist List.filter_sublist
  have values : ∀ e ∈ eo, e.2.Natural False := fun e' he' => by
    obtain ⟨e, he, -, back⟩ := related_left around.flip he'
    exact back.natural (beside.value e he)
  obtain ⟨natural, shows⟩ := object_shown distinct he h (names_eq around) values
  refine ⟨.inl natural, rfl, fun t ht u alike hu mode path => ?_⟩
  cases ht with
  | leaf leaf => cases leaf
  | object inverted rest =>
    cases rest with
    | some inverts =>
      obtain ⟨access', us, rfl, hus, shown, extra⟩ := shows u alike hu
      simp only [Schema.runWith, Value.entries?, ← inverted.extraEntries_eq us]
      refine .bind (fields_attain inverted shown hus mode path) fun gs' back => ?_
      refine .bind (values_attain gs' around beside.value inverts extra
        (fun e he => hus.value e (List.mem_of_mem_filter he)) mode path)
        fun rs rebuilt => ?_
      obtain ⟨together, alike, keys, naturals⟩ := rebuilt
      rw [together]
      refine .pure ?_
      refine object_returns distinct he hus back (fun _ => shown.stood) alike ?_ ?_
      · rw [← keys, List.map_map]
        rfl
      · exact List.forall_mem_map.2 naturals

theorem reversible_object {shape : List (String × Schema)} {catchall : Option Schema}
    {policy : UnknownKeys} (distinct : (shape.map (·.1)).Nodup)
    (hs : ∀ f ∈ shape, lib.Reversible settings mode depth f.2)
    (hc : ∀ c, catchall = some c → lib.Reversible settings mode depth c) :
    lib.Reversible settings mode depth (.object shape catchall policy) := by
  rintro v r hv ⟨path, w, w', hw, ran⟩ clean smooth
  cases v
  case dict access entries =>
    have he := (Value.natural_dict.1 (hv.natural rfl)).2
    simp only [Schema.runWith, Value.entries?] at ran
    obtain ⟨gs, u, fields, ran⟩ := Run.bind_ok.1 ran
    obtain ⟨hu, retrieve⟩ :=
      fields_retrieve he hs (fun f hf => smooth.hand (.field rfl hf)) hw fields
    cases catchall with
    | none =>
      cases ran
      have kept := policy_keeps smooth.here clean
      rw [closedObject_eq kept] at clean ⊢
      rw [(object_of_clean clean).2.2]
      exact closed_retrieves distinct he kept (retrieve fun g hg => clean_of_objectResult clean hg)
    | some c =>
      obtain ⟨rs, u', values, ran⟩ := Run.bind_ok.1 ran
      cases ran
      obtain ⟨valid, silent, value⟩ := object_of_clean clean
      have others : ∀ q ∈ rs, q.2.isClean := fun q hq => Parsed.isClean_iff.2
        ⟨isInvalid_of_anyInvalid valid (List.mem_map_of_mem hq),
          List.flatMap_eq_nil_iff.1 silent _ (List.mem_map_of_mem hq)⟩
      have around := values_retrieve (he.sublist List.filter_sublist).value (hc c rfl)
        (fun e he => smooth.hand (.extra rfl he)) hu values others
      rw [openObject, value]
      exact open_retrieves distinct he (retrieve fun g hg => clean_of_objectResult clean hg) around
  all_goals
    cases ran
    cases clean

end

/-! ## Discriminated unions -/

section
variable {key : String} {options options' : List Schema} {table table' : List (Datum × Nat)}

/-- The tag fields of options are leaves that read definite values. -/
def TagsWritten (key : String) (options : List Schema) : Prop :=
  ∀ {shape catchall policy field}, .object shape catchall policy ∈ options →
    Schema.field? shape key = some field → field.isDefinite

/-- The tags of a leaf are written in it. -/
theorem tags_written (hs : s.isDefinite) :
    ∃ tags, ∀ lookUp, s.tagValues lookUp = pure tags := by
  cases s <;> first | exact ⟨_, fun _ => rfl⟩ | cases hs

theorem isLeaf_of_isDefinite (hs : s.isDefinite) : s.isLeaf := by
  cases s <;> first | rfl | cases hs

/-- The inverse of a discriminated union whose tags are written in it has the same table. -/
theorem table_kept {plans : Plans} (written : TagsWritten key options)
    (inverted : List.Forall₂ (plans.Inverts settings) options options')
    (made : plans.Tabulates key options table) (made' : plans.Tabulates key options' table') :
    table' = table := by
  obtain ⟨owner, n, made⟩ := made
  obtain ⟨owner', n', w, w', made'⟩ := made'
  have kept : plans.ensured.Holds
      (fun _ => Schema.tagTable ⟨owner', plans.tagsOf n'⟩ key 0 options' [])
      fun t => True → t = table := by
    refine Plans.Triple.tagTable_mirrored inverted (absurd trivial ·)
      (fun member declared values yields field' inverts => ?_) (fun _ => rfl) made
    have definite := written member declared
    obtain ⟨tags, given⟩ := tags_written definite
    rw [given] at yields
    cases yields.pure
    rw [inverts.of_leaf (isLeaf_of_isDefinite definite)]
    simp only [given]
    exact .pure ⟨id, fun _ => rfl⟩
  -- What is made without the memory of a world is made in all.
  have alike : Run.deeper.Holds fun _ =>
      Schema.tagTable ⟨owner', plans.tagsOf n'⟩ key 0 options' [] :=
    Run.Law.tagTable (plans.tagsOf_deeper (Nat.le_refl n')) key options' 0 []
  have found := Run.result_ok.2 ⟨w', made'⟩
  rcases alike w {} with deep | same
  · cases found.symm.trans deep
  · exact (kept {} .empty).2 _ (same.trans found) trivial

/-- A discriminated union is clean only if the tag selects an option. -/
theorem tagged_chosen {links : Links} {r : Parsed}
    (h : (Schema.tagged key options table).runWith links path v w = .ok r w') (clean : r.isClean) :
    ∃ entries i, v.entries? = some entries ∧ optionAt? table (valueAt entries key) = some i := by
  simp only [Schema.runWith] at h
  cases found : v.entries? with
  | none =>
    rw [found] at h
    cases h
    cases clean
  | some entries =>
    simp only [found] at h
    cases selected : optionAt? table (valueAt entries key) with
    | none =>
      simp only [selected] at h
      cases h
      cases clean
    | some i => exact ⟨entries, i, rfl, selected⟩

/-- Mappings that are like one with a definite value under a key have this value there. -/
theorem entries_shown {u : Datum} {outputs : Entries Live} (hx : x.Given False)
    (hu : u.Given False) (alike : x.Alike u) (shown : x.entries? = some outputs)
    (definite : (valueAt outputs key).isDefinite) :
    ∃ us, u.entries? = some us ∧ valueAt us key = valueAt outputs key := by
  cases x <;> cases shown
  obtain ⟨access', us, rfl, likeness⟩ := alike.from_dict
  have same := likeness.valueAt (Value.natural_dict.1 (hx.natural rfl)).2
    (Value.natural_dict.1 (hu.natural rfl)).2 key
  exact ⟨us, rfl, same.eq_of_isDefinite definite⟩

theorem reversible_tagged (routes : lib.plans.Routes key options table)
    (written : TagsWritten key options) (h : ∀ s ∈ options, lib.Reversible settings mode depth s) :
    lib.Reversible settings mode depth (.tagged key options table) := by
  rintro v r hv ⟨path, w, w', hw, ran⟩ clean smooth
  obtain ⟨entries, i, found, selected⟩ := tagged_chosen ran clean
  obtain ⟨shape, catchall, policy, field, chosen, declared⟩ := routes.option selected
  have member := List.mem_of_getElem? chosen
  rw [tagged_selects found selected chosen] at ran
  have inner := h _ member v r hv ⟨path, w, w', hw, ran⟩ clean
    (smooth.hand (.tagged found selected chosen))
  -- The option gives out the tag that it was given.
  obtain ⟨_, outputs, t, u, u', found', shown, -, ht, cleanTag, value⟩ :=
    object_gives (routes.distinct member) declared hw ran clean
  cases found.symm.trans found'
  obtain ⟨definite, same, -⟩ := definite_reads (written member declared) ht cleanTag
  rw [same] at value
  refine ⟨inner.given, inner.missing, fun p hp u alike hu mode path => ?_⟩
  cases hp with
  | leaf leaf => cases leaf
  | @tagged _ _ options' _ _ inverted made =>
    cases table_kept written inverted routes.made made
    obtain ⟨us, stands, tag⟩ := entries_shown inner.given hu alike shown (value ▸ definite)
    rw [← value, ← tag] at selected
    obtain ⟨length, each⟩ := List.forall₂_iff_get.1 inverted
    obtain ⟨inside, option⟩ := List.getElem?_eq_some_iff.1 chosen
    have inverts := each i inside (length ▸ inside)
    rw [List.get_eq_getElem, option] at inverts
    simp only [tagged_selects stands selected (List.getElem?_eq_getElem (length ▸ inside))]
    exact inner.back _ inverts u alike hu mode path

end

end Library
end TwoWay
