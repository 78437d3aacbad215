import TwoWay.Proofs.Parse.Tags

/-!
# Branches of a discriminated union

The table of a discriminated union holds the tags that the nodes of each tag field name
(`Plans.LenientField.mem_tags`). An option that accepts a mapping is the one the table leads to,
unless the tag cannot be hashed, or is left out where no node names it: a tag `none` that an
optional node lets pass, and a missing tag that a default node fills in. Then the branch is lost
(`Library.keeps_branch`).
-/

namespace TwoWay

/-- The tags that a node names itself. -/
def Schema.ownTags : Schema → List Datum
  | .literal value => [value]
  | .enum values => values
  | .none | .nullable _ => [.none]
  | .optional _ => [.missing]
  | _ => []

namespace Plans

variable {plans : Plans}

variable (plans) in
/-- Some node of a schema, also behind lazy ones, has a property. -/
inductive Somewhere (p : Schema → Prop) : Schema → Prop
  | here {s} : p s → Somewhere p s
  | child {s c} : c ∈ s.children → Somewhere p c → Somewhere p s
  | behind {id origin s} : plans.Gives id origin s → Somewhere p s → Somewhere p (.lazy id origin)

namespace Somewhere

variable {p : Schema → Prop}

theorem leaf {s : Schema} (h : s.children = [])
    (eager : ∀ id origin, s ≠ .lazy id origin) :
    plans.Somewhere p s ↔ p s := by
  refine ⟨fun found => ?_, .here⟩
  cases found with
  | here found => exact found
  | child hc =>
    rw [h] at hc
    cases hc
  | behind => exact absurd rfl (eager _ _)

theorem only {s c : Schema} (h : s.children = [c]) :
    plans.Somewhere p s ↔ p s ∨ plans.Somewhere p c := by
  constructor
  · intro found
    cases found with
    | here found => exact .inl found
    | child hc found =>
      rw [h] at hc
      exact .inr (List.mem_singleton.1 hc ▸ found)
    | behind => cases h
  · rintro (found | found)
    · exact .here found
    · exact .child (h ▸ List.mem_singleton_self c) found

theorem behind_lazy {id : LazyId} {origin : Origin} {s : Schema}
    (given : plans.Gives id origin s) :
    plans.Somewhere p (.lazy id origin) ↔ p (.lazy id origin) ∨ plans.Somewhere p s := by
  constructor
  · intro found
    cases found with
    | here found => exact .inl found
    | child hc => cases hc
    | behind given' found => exact .inr (given'.unique given ▸ found)
  · rintro (found | found)
    · exact .here found
    · exact .behind given found

end Somewhere

/-- The table holds the tags that the nodes of a field name. -/
theorem LenientField.mem_tags {s : Schema} (h : plans.LenientField s) {n : Nat}
    {values : List Datum} (hv : (s.tagValues (plans.tagsOf n)).Yields values) {t : Datum} :
    t ∈ values ↔ plans.Somewhere (t ∈ ·.ownTags) s := by
  induction h generalizing n values with
  | literal | enum | none =>
    cases hv.pure
    rw [Somewhere.leaf]
    · exact Iff.rfl
    · rfl
    · exact nofun
  | branded _ ih | readonly _ ih | default _ ih | refinement _ ih =>
    rw [Somewhere.only rfl, ih hv]
    simp [Schema.ownTags]
  | nullable _ ih | optional _ ih =>
    obtain ⟨own, hown, hv⟩ := hv.bind
    cases hv.pure
    rw [Somewhere.only rfl, List.mem_append, ih hown]
    exact or_comm
  | lazy given _ ih =>
    cases n with
    | zero => exact absurd hv Run.not_yields_throw
    | succ n =>
      obtain ⟨s, hs, hv⟩ := hv.bind
      cases (gives_of_yields hs).unique given
      rw [Somewhere.behind_lazy given, ih hv]
      simp [Schema.ownTags]

/-- A discriminated union: its table is made of its options, whose tag fields accept tags only or
may be left out, and all tags are proper keys. -/
structure Branches (plans : Plans) (key : String) (options : List Schema)
    (table : List (Datum × Nat)) : Prop where
  made : plans.Tabulates key options table
  keys : ∀ e ∈ table, e.1.IsProperKey
  fields : ∀ {shape catchall policy field}, .object shape catchall policy ∈ options →
    Schema.field? shape key = some field → plans.LenientField field

end Plans

/-- A tag that a table leads somewhere stands in it. -/
theorem optionAt?_agrees {table : List (Datum × Nat)} {tag : Datum} {i : Nat}
    (h : optionAt? table tag = some i) :
    tag.unhashable? = none ∧ ∃ t, (t, i) ∈ table ∧ t.agrees tag := by
  unfold optionAt? at h
  split at h
  · cases h
  · rename_i hashable
    obtain ⟨e, he, rfl⟩ := Option.map_eq_some_iff.1 h
    refine ⟨Option.not_isSome_iff_eq_none.1 hashable, e.1, List.mem_of_find?_eq_some he, ?_⟩
    exact (List.find?_eq_some_iff_append.1 he).1

theorem Value.eq_of_agrees_absent {t tag : Datum} (absent : tag = .none ∨ tag = .missing)
    (h : t.agrees tag) : t = tag := by
  rcases absent with rfl | rfl <;>
    rcases t with _ | _ | _ | (_ | _ | _) | _ | _ | _ | _ | _ | _ | _ | _ | _ <;>
    first | rfl | cases h

namespace Library

variable {lib : Library} {mode : Mode} {depth : Nat} {key : String} {options : List Schema}
  {table : List (Datum × Nat)}

/-- Where an option comes to a clean result for a mapping, the table leads to that option exactly
if the tag of the mapping can be hashed and is named, should it be `none` or missing, by a node of
the tag field. Then the discriminated union comes to the same result. -/
theorem keeps_branch (hb : lib.plans.Branches key options table) {j : Nat}
    {shape : List (String × Schema)} {catchall : Option Schema} {policy : UnknownKeys}
    {field : Schema} (hs : options[j]? = some (.object shape catchall policy))
    (hfield : Schema.field? shape key = some field) {path : Path Live} {v : Datum} {r : Parsed}
    {w w' : World} (hw : lib.plans.Faithful w)
    (hr : (Schema.object shape catchall policy).runWith (lib.links mode depth) path v w = .ok r w')
    (clean : r.isClean)
    (proper : ∀ entries, v.entries? = some entries → (valueAt entries key).unhashable? = none →
      (valueAt entries key).IsProperKey) :
    ∃ entries, v.entries? = some entries ∧
      (optionAt? table (valueAt entries key) = some j ↔
        (valueAt entries key).unhashable? = none ∧
        (valueAt entries key = .none → lib.plans.Somewhere (.none ∈ ·.ownTags) field) ∧
        (valueAt entries key = .missing → lib.plans.Somewhere (.missing ∈ ·.ownTags) field)) ∧
      (optionAt? table (valueAt entries key) = some j →
        (Schema.tagged key options table).runWith (lib.links mode depth) path v w = .ok r w') := by
  obtain ⟨owner, n, htable⟩ := hb.made
  obtain ⟨unambiguous, -, -, declared⟩ := tagTable_yields htable List.Pairwise.nil
  obtain ⟨_, _, _, _, values, same, hfield', hvalues, tags⟩ := declared j _ hs
  cases same
  cases hfield.symm.trans hfield'
  have lenient := hb.fields (List.mem_of_getElem? hs) hfield
  have listed (t : Datum) : (t, j) ∈ table ↔ lib.plans.Somewhere (t ∈ ·.ownTags) field := by
    rw [← lenient.mem_tags hvalues]
    simpa using tags t
  obtain ⟨entries, fields, u, hv, hfields, allClean⟩ := object_accepts hr clean
  obtain ⟨f, hf, -, u, u', hu, hrun⟩ := runFields_at hfield hw hfields
  refine ⟨entries, hv, ⟨fun selected => ?_, ?_⟩, fun selected => ?_⟩
  · obtain ⟨hashable, t, ht, agrees⟩ := optionAt?_agrees selected
    refine ⟨hashable, fun absent => ?_, fun absent => ?_⟩
    · rw [absent] at agrees
      exact (listed _).1 (Value.eq_of_agrees_absent (.inl rfl) agrees ▸ ht)
    · rw [absent] at agrees
      exact (listed _).1 (Value.eq_of_agrees_absent (.inr rfl) agrees ▸ ht)
  · rintro ⟨hashable, ofNone, ofMissing⟩
    have tagKey := proper entries hv hashable
    rcases lenient.accepts hvalues hu hrun (allClean f hf) with ⟨t, ht, exactly⟩ | ⟨absent, -⟩
    · refine optionAt?_of_mem unambiguous hb.keys ((listed t).2 ((lenient.mem_tags hvalues).1 ht))
        tagKey ?_
      simp [Value.agrees, (Bool.and_eq_true_iff.1 exactly).2]
    · have named : (valueAt entries key, j) ∈ table := (listed _).2 <| by
        rcases absent with absent | absent
        · exact absent ▸ ofNone absent
        · exact absent ▸ ofMissing absent
      refine optionAt?_of_mem unambiguous hb.keys named tagKey ?_
      rcases absent with absent | absent <;> rw [absent] <;> rfl
  · simp only [Schema.runWith, hv, selected]
    rw [runOption_eq _ hs]
    exact hr

end Library

/-! Bags and boxes, of which a bag may go without its kind. -/

namespace Unlabelled

def bag : Schema := .literal (.str "bag")

def options (kind : Schema) : List Schema :=
  [.object [("kind", kind)] none .strip, .object [("kind", .literal (.str "box"))] none .strip]

theorem branches {kind : Schema} {table : List (Datum × Nat)}
    (made : Chain.library.plans.Tabulates "kind" (options kind) table)
    (keys : ∀ e ∈ table, e.1.isContainer = false)
    (lenient : Chain.library.plans.LenientField kind) :
    Chain.library.plans.Branches "kind" (options kind) table where
  made := made
  keys e he := .single (keys e he)
  fields member hfield := by
    simp only [options, List.mem_cons, List.not_mem_nil, or_false] at member
    rcases member with member | member <;> cases member <;> cases hfield
    · exact lenient
    · exact .literal

def named : Schema := .optional (.nullable bag)

def namedTags : List (Datum × Nat) := [(.str "bag", 0), (.none, 0), (.missing, 0), (.str "box", 1)]

/-- A nullable node names `none`, and the bag is found. -/
theorem bag_found :
    Chain.library.plans.Branches "kind" (options named) namedTags ∧
    ∃ w, (Schema.tagged "kind" (options named) namedTags).runWith (Chain.library.links .sync 1) []
      (.dict .free [(.str "kind", .none)]) {} = .ok ⟨.dict .free [(.str "kind", .none)], []⟩ w := by
  have branches : Chain.library.plans.Branches "kind" (options named) namedTags :=
    branches ⟨.step 0, 0, {}, {}, rfl⟩ (by decide) (.optional (.nullable .literal))
  have alone : ∃ w, (Schema.object [("kind", named)] none .strip).runWith
      (Chain.library.links .sync 1) [] (.dict .free [(.str "kind", .none)]) {} =
        .ok ⟨.dict .free [(.str "kind", .none)], []⟩ w := ⟨_, rfl⟩
  obtain ⟨w, alone⟩ := alone
  obtain ⟨entries, hentries, selected, kept⟩ := Library.keeps_branch branches (j := 0) rfl rfl
    .empty alone rfl (fun entries h _ => by cases h; exact .single rfl)
  cases hentries
  refine ⟨branches, w, kept (selected.2 ⟨rfl, fun _ => ?_, nofun⟩)⟩
  exact .child (List.mem_singleton_self _) (.here (List.mem_singleton_self _))

def optionalTags : List (Datum × Nat) := [(.str "bag", 0), (.missing, 0), (.str "box", 1)]

def defaultTags : List (Datum × Nat) := [(.str "bag", 0), (.str "box", 1)]

/-- An optional node lets `none` pass and a default fills in a missing kind, and the bag is lost
both times: the option alone accepts it. -/
theorem bag_lost :
    (Chain.library.plans.Branches "kind" (options (.optional bag)) optionalTags ∧
      (∃ w, Chain.library.parse .sync 1 (.object [("kind", .optional bag)] none .strip)
        (.dict .free [(.str "kind", .none)]) {} = .ok (.dict .free [(.str "kind", .none)]) w) ∧
      ∃ f w, Chain.library.parse .sync 1 (.tagged "kind" (options (.optional bag)) optionalTags)
        (.dict .free [(.str "kind", .none)]) {} = .error f w) ∧
    Chain.library.plans.Branches "kind" (options (.default bag (.value (.str "bag")))) defaultTags ∧
      (∃ w, Chain.library.parse .sync 1
        (.object [("kind", .default bag (.value (.str "bag")))] none .strip) (.dict .free []) {} =
          .ok (.dict .free [(.str "kind", .str "bag")]) w) ∧
      ∃ f w, Chain.library.parse .sync 1
        (.tagged "kind" (options (.default bag (.value (.str "bag")))) defaultTags)
        (.dict .free []) {} = .error f w :=
  ⟨⟨branches ⟨.step 0, 0, {}, {}, rfl⟩ (by decide) (.optional .literal), ⟨_, rfl⟩, _, _, rfl⟩,
    branches ⟨.step 0, 0, {}, {}, rfl⟩ (by decide) (.default .literal), ⟨_, rfl⟩, _, _, rfl⟩

end Unlabelled
end TwoWay
