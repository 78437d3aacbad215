import TwoWay.Proofs.Inversion.Mirror
import TwoWay.Proofs.Parse.Independence
import TwoWay.Proofs.Value.Keys

/-!
# Tags of accepted values

The tag field of an option is a literal, an enumeration or `none`, wrapped in what does not change
the value (`Plans.TagField`). Such a field accepts nothing but its tags, and the table of a
discriminated union leads every tag to its option. So an option that accepts a mapping is the one
that the tag of the mapping selects (`Library.selects_accepting`), as long as the tag can be a key.
A field under optional and default nodes (`Plans.LenientField`) may also accept `none` or a missing
value.
-/

namespace TwoWay

/-! ## Tables -/

/-- A table in which every tag leads to one option. -/
def Unambiguous (table : List (Datum × Nat)) : Prop :=
  table.Pairwise fun e e' => e.1.agrees e'.1 = false

theorem addTags_yields {key : String} {position : Nat} {values : List Datum}
    {table extended : List (Datum × Nat)}
    (h : (Schema.addTags key position values table).Yields extended) (ht : Unambiguous table) :
    Unambiguous extended ∧ ∀ e, e ∈ extended ↔ e ∈ table ∨ e.2 = position ∧ e.1 ∈ values := by
  induction values generalizing table with
  | nil =>
    cases h.pure
    exact ⟨ht, fun e => by simp⟩
  | cons v rest ih =>
    obtain ⟨-, -, h⟩ := h.bind
    by_cases known : table.any fun e => e.1.agrees v
    · rw [if_pos known] at h
      obtain ⟨_, hthrow, -⟩ := h.bind
      exact absurd hthrow Run.not_yields_throw
    · rw [if_neg known] at h
      have new : Unambiguous (table ++ [(v, position)]) := by
        refine List.pairwise_append.2 ⟨ht, List.pairwise_singleton .., fun e he e' he' => ?_⟩
        rw [List.mem_singleton.1 he']
        by_contra hagrees
        exact known (List.any_eq_true.2 ⟨e, he, by simpa using hagrees⟩)
      obtain ⟨unambiguous, members⟩ := ih h new
      refine ⟨unambiguous, fun e => ?_⟩
      rw [members, List.mem_append, List.mem_singleton, List.mem_cons]
      grind

variable {plans : Plans}

/-- Options that declare their tags in a table: it leads to an option for these tags and no
others. -/
theorem tagTable_yields {owner : LazyId} {depth : Nat} {key : String} {options : List Schema}
    {position : Nat} {before table : List (Datum × Nat)}
    (h : (Schema.tagTable ⟨owner, plans.tagsOf depth⟩ key position options before).Yields table)
    (hb : Unambiguous before) :
    Unambiguous table ∧ (∀ e ∈ before, e ∈ table) ∧
    (∀ e ∈ table, e ∈ before ∨ position ≤ e.2 ∧ e.2 < position + options.length) ∧
    ∀ i s, options[i]? = some s →
      ∃ shape catchall policy field values, s = .object shape catchall policy ∧
        Schema.field? shape key = some field ∧
        (field.tagValues (plans.tagsOf depth)).Yields values ∧
        ∀ t, (t, position + i) ∈ table ↔ (t, position + i) ∈ before ∨ t ∈ values := by
  induction options generalizing position before with
  | nil =>
    cases h.pure
    exact ⟨hb, fun _ => id, fun _ => .inl, fun i s hs => by cases hs⟩
  | cons option rest ih =>
    cases option
    case object shape catchall policy =>
      simp only [Schema.tagTable] at h
      cases hfield : Schema.field? shape key with
      | none =>
        rw [hfield] at h
        exact absurd h Run.not_yields_throw
      | some field =>
        rw [hfield] at h
        obtain ⟨values, hvalues, h⟩ := h.bind
        split at h
        · obtain ⟨_, hthrow, -⟩ := h.bind
          exact absurd hthrow Run.not_yields_throw
        · obtain ⟨extended, hadd, h⟩ := h.bind
          obtain ⟨unambiguous, members⟩ := addTags_yields hadd hb
          obtain ⟨whole, kept, listed, further⟩ := ih h unambiguous
          refine ⟨whole, fun e he => kept e ((members e).2 (.inl he)), fun e he => ?_,
            fun i s hs => ?_⟩
          · rw [List.length_cons]
            rcases listed e he with he | place
            · exact ((members e).1 he).imp_right fun here => by omega
            · exact .inr (by omega)
          cases i with
          | zero =>
            cases hs
            refine ⟨shape, catchall, policy, field, values, rfl, hfield, hvalues, fun t => ?_⟩
            have here : (t, position) ∈ table ↔ (t, position) ∈ extended := by
              refine ⟨fun ht => (listed _ ht).resolve_right fun later => ?_, kept _⟩
              exact absurd later.1 (Nat.not_succ_le_self position)
            simp [here, members]
          | succ i =>
            obtain ⟨shape', catchall', policy', field', values', hs', hfield', hvalues', tags⟩ :=
              further i s hs
            refine ⟨shape', catchall', policy', field', values', hs', hfield', hvalues',
              fun t => ?_⟩
            have place : position + 1 + i = position + (i + 1) := by omega
            rw [← place, tags, members, place]
            simp
    all_goals
      simp only [Schema.tagTable] at h
      exact absurd h Run.not_yields_throw

/-- A tag leads to its option, and so does every key that agrees with it. -/
theorem optionAt?_of_mem {table : List (Datum × Nat)} (ht : Unambiguous table)
    (hk : ∀ e ∈ table, e.1.IsProperKey) {t tag : Datum} {i : Nat} (hmem : (t, i) ∈ table)
    (htag : tag.IsProperKey) (h : tag.agrees t) : optionAt? table tag = some i := by
  obtain ⟨before, after, rfl⟩ := List.append_of_mem hmem
  have key := hk _ hmem
  have found : (before ++ (t, i) :: after).find? (fun e => e.1.agrees tag) = some (t, i) := by
    refine List.find?_eq_some_iff_append.2
      ⟨htag.proper.equivalent.symm key.proper h, before, after, rfl, fun e he => ?_⟩
    have proper := hk e (List.mem_append_left _ he)
    have apart := (List.pairwise_append.1 ht).2.2 e he (t, i) (List.mem_cons_self ..)
    -- A tag before it that agrees with the key would agree with this one.
    by_contra hagrees
    have same := proper.proper.equivalent.trans htag.proper key.proper (by simpa using hagrees) h
    rw [apart] at same
    cases same
  simp [optionAt?, htag.hashable, found]

/-! ## Tag fields -/

namespace Plans

variable (plans) in
/-- Schemas of tag fields: what they give out is what they were handed, read-only or not. -/
inductive TagField : Schema → Prop
  | literal {value} : TagField (.literal value)
  | enum {values} : TagField (.enum values)
  | none : TagField .none
  | branded {inner name} : TagField inner → TagField (.branded inner name)
  | readonly {inner} : TagField inner → TagField (.readonly inner)
  | nullable {inner} : TagField inner → TagField (.nullable inner)
  | refinement {action elidable inner} : TagField inner →
    TagField (.effect .refinement action elidable inner)
  | lazy {id origin s} : plans.Gives id origin s → TagField s → TagField (.lazy id origin)

variable (plans) in
/-- Schemas of tag fields that may also be left out: `none` passes an optional node, and a
substitute takes the place of a missing value. -/
inductive LenientField : Schema → Prop
  | literal {value} : LenientField (.literal value)
  | enum {values} : LenientField (.enum values)
  | none : LenientField .none
  | branded {inner name} : LenientField inner → LenientField (.branded inner name)
  | readonly {inner} : LenientField inner → LenientField (.readonly inner)
  | nullable {inner} : LenientField inner → LenientField (.nullable inner)
  | optional {inner} : LenientField inner → LenientField (.optional inner)
  | default {inner supply} : LenientField inner → LenientField (.default inner supply)
  | refinement {action elidable inner} : LenientField inner →
    LenientField (.effect .refinement action elidable inner)
  | lazy {id origin s} : plans.Gives id origin s → LenientField s → LenientField (.lazy id origin)

theorem TagField.lenient {s : Schema} (h : plans.TagField s) : plans.LenientField s := by
  induction h with
  | literal => exact .literal
  | enum => exact .enum
  | none => exact .none
  | branded _ ih => exact .branded ih
  | readonly _ ih => exact .readonly ih
  | nullable _ ih => exact .nullable ih
  | refinement _ ih => exact .refinement ih
  | lazy given _ ih => exact .lazy given ih

end Plans

variable {lib : Library} {mode : Mode} {depth : Nat}

/-- A result that is clean once it is read-only was clean before. -/
theorem clean_of_readonly {r t : Parsed} {w w' : World}
    (h : (do return (⟨← r.value.freeze.numbered, r.issues⟩ : Parsed) : Run Parsed) w = .ok t w')
    (clean : t.isClean) : r.isClean := by
  obtain ⟨x, u, hx, h⟩ := Run.bind_ok.1 h
  cases h
  obtain ⟨value, issues⟩ := r
  cases value
  case invalid =>
    cases hx
    cases clean
  all_goals
    have none : issues = [] := Parsed.issues_of_isClean clean
    rw [none]
    rfl

/-- A refined result that is clean was clean before. -/
theorem clean_of_refined {links : Links} {action : Action Live} {path : Path Live} {r t : Parsed}
    {w w' : World}
    (h : (if r.value.isInvalid then return r
      else do return ⟨r.value, r.issues ++ (← links.act action path r.value).issues⟩ :
      Run Parsed) w = .ok t w') (clean : t.isClean) : r.isClean := by
  split at h
  · cases h
    exact clean
  · obtain ⟨checked, u, -, h⟩ := Run.bind_ok.1 h
    cases h
    rename_i valid
    have issues : r.issues = [] := (List.append_eq_nil_iff.1 (Parsed.issues_of_isClean clean)).1
    simp [Parsed.isClean, valid, issues]

/-- What a tag field accepts is one of its tags, unless it may be left out and is. -/
theorem Plans.LenientField.accepts {s : Schema} (h : lib.plans.LenientField s) {n : Nat}
    {values : List Datum} (hv : (s.tagValues (lib.plans.tagsOf n)).Yields values)
    {path : Path Live} {v : Datum} {r : Parsed} {w w' : World} (hw : lib.plans.Faithful w)
    (hr : s.runWith (lib.links mode depth) path v w = .ok r w') (clean : r.isClean) :
    (∃ t ∈ values, v.isExactly t) ∨ (v = .none ∨ v = .missing) ∧ ¬lib.plans.TagField s := by
  have of_none {v : Datum} (h : v.isNone) : v = .none := by cases v <;> first | rfl | cases h
  have of_missing {v : Datum} (h : v.isMissing) : v = .missing := by
    cases v <;> first | rfl | cases h
  induction h generalizing n values depth r w w' with
  | literal =>
    cases hv.pure
    cases hr
    unfold parseLiteral at clean
    split at clean
    · exact .inl ⟨_, List.mem_singleton.2 rfl, ‹_›⟩
    · cases clean
  | enum =>
    cases hv.pure
    cases hr
    unfold parseEnum at clean
    split at clean
    · rename_i found
      exact .inl (List.any_eq_true.1 (Bool.and_eq_true_iff.1 found).2)
    · cases clean
  | none =>
    cases hv.pure
    cases hr
    unfold parseNone at clean
    split at clean
    · rename_i none
      exact .inl ⟨.none, List.mem_singleton.2 rfl, by rw [of_none none]; rfl⟩
    · cases clean
  | branded _ ih =>
    refine (ih hv hw hr clean).imp_right (And.imp_right fun loose h => loose ?_)
    cases h with
    | branded strict => exact strict
  | readonly _ ih =>
    obtain ⟨t, u, ht, hr⟩ := Run.bind_ok.1 hr
    refine (ih hv hw ht (clean_of_readonly hr clean)).imp_right
      (And.imp_right fun loose h => loose ?_)
    cases h with
    | readonly strict => exact strict
  | nullable _ ih =>
    obtain ⟨own, hown, hv⟩ := hv.bind
    cases hv.pure
    simp only [Schema.runWith] at hr
    split at hr
    · rename_i none
      exact .inl ⟨.none, by simp, by rw [of_none none]; rfl⟩
    · refine (ih hown hw hr clean).imp
        (Exists.imp fun t => And.imp_left (List.mem_append_left _))
        (And.imp_right fun loose h => loose ?_)
      cases h with
      | nullable strict => exact strict
  | optional _ ih =>
    obtain ⟨own, hown, hv⟩ := hv.bind
    cases hv.pure
    simp only [Schema.runWith] at hr
    split at hr
    · rename_i absent
      refine .inr ⟨?_, fun strict => by cases strict⟩
      exact (Bool.or_eq_true_iff.1 absent).symm.imp of_none of_missing
    · exact (ih hown hw hr clean).imp
        (Exists.imp fun t => And.imp_left (List.mem_append_left _))
        (And.imp_right fun _ strict => by cases strict)
  | default _ ih =>
    simp only [Schema.runWith] at hr
    split at hr
    · rename_i absent
      exact .inr ⟨.inr (of_missing absent), fun strict => by cases strict⟩
    · exact (ih hv hw hr clean).imp_right (And.imp_right fun _ strict => by cases strict)
  | refinement _ ih =>
    obtain ⟨t, u, ht, hr⟩ := Run.bind_ok.1 hr
    refine (ih hv hw ht (clean_of_refined hr clean)).imp_right
      (And.imp_right fun loose h => loose ?_)
    cases h with
    | refinement strict => exact strict
  | lazy given _ ih =>
    cases n with
    | zero => exact absurd hv Run.not_yields_throw
    | succ n =>
      obtain ⟨t, ht, hv⟩ := hv.bind
      cases (Plans.gives_of_yields ht).unique given
      cases depth with
      | zero => cases hr
      | succ depth =>
        obtain ⟨t, u, ht, hr⟩ := Run.bind_ok.1 hr
        obtain ⟨leads, gives⟩ := Plans.force_ok hw ht
        cases gives.unique given
        refine (ih hv leads.faithful hr clean).imp_right (And.imp_right fun loose h => loose ?_)
        cases h with
        | lazy given' strict => exact given'.unique given ▸ strict

/-- A tag field accepts nothing but its tags. -/
theorem Plans.TagField.accepts {s : Schema} (h : lib.plans.TagField s) {n : Nat}
    {values : List Datum} (hv : (s.tagValues (lib.plans.tagsOf n)).Yields values)
    {path : Path Live} {v : Datum} {r : Parsed} {w w' : World} (hw : lib.plans.Faithful w)
    (hr : s.runWith (lib.links mode depth) path v w = .ok r w') (clean : r.isClean) :
    ∃ t ∈ values, v.isExactly t :=
  (h.lenient.accepts hv hw hr clean).resolve_right fun loose => loose.2 h

/-! ## Selected options -/

theorem runOption_eq (links : Links) {options : List Schema} {i : Nat} {s : Schema}
    (h : options[i]? = some s) (path : Path Live) (v : Datum) :
    runOption links options i path v = s.runWith links path v := by
  induction options generalizing i with
  | nil => cases h
  | cons t rest ih =>
    cases i with
    | zero =>
      cases h
      rfl
    | succ i => exact ih h

/-- The field under a key is parsed, and its result is among those of the fields. -/
theorem runFields_at {shape : List (String × Schema)} {key : String} {s : Schema}
    (hs : Schema.field? shape key = some s) {path : Path Live} {entries : Entries Live}
    {fields : List (String × Parsed)} {w w' : World} (hw : lib.plans.Faithful w)
    (h : runFields (lib.links mode depth) shape path entries w = .ok fields w') :
    ∃ f ∈ fields, f.1 = key ∧ ∃ u u', lib.plans.Faithful u ∧
      s.runWith (lib.links mode depth) (path ++ [.str key]) (valueAt entries key) u =
        .ok f.2 u' := by
  induction shape generalizing fields w with
  | nil => cases hs
  | cons field rest ih =>
    obtain ⟨name, t⟩ := field
    obtain ⟨r, u, hr, h⟩ := Run.bind_ok.1 h
    obtain ⟨rs, u', hrs, h⟩ := Run.bind_ok.1 h
    cases h
    simp only [Schema.field?, List.lookup_cons] at hs ih
    split at hs
    · cases hs
      cases beq_iff_eq.1 ‹(key == name) = true›
      exact ⟨_, List.mem_cons_self .., rfl, w, u, hw, hr⟩
    · obtain ⟨f, hf, found⟩ := ih hs (Library.runWith_faithful hw hr) hrs
      exact ⟨f, List.mem_cons_of_mem _ hf, found⟩

/-- The fields of a clean object are clean. -/
theorem clean_of_objectResult {fields : List (String × Parsed)} {extra : Entries Live}
    {issues : List (Issue Live)} {failed : Bool}
    (h : (objectResult fields extra issues failed).isClean) {f : String × Parsed}
    (hf : f ∈ fields) : f.2.isClean := by
  unfold objectResult at h
  dsimp only at h
  split at h
  · cases h
  · rename_i valid
    obtain ⟨-, valid⟩ := Bool.or_eq_false_iff.1 (Bool.eq_false_iff.2 valid)
    have none := (List.append_eq_nil_iff.1 (Parsed.issues_of_isClean h)).1
    have member : f.2 ∈ fields.map (·.2) := List.mem_map_of_mem hf
    have issues : f.2.issues = [] := List.flatMap_eq_nil_iff.1 none _ member
    simp [Parsed.isClean, isInvalid_of_anyInvalid valid member, issues]

/-- What an object accepts is a mapping, and its fields are accepted. -/
theorem object_accepts {shape : List (String × Schema)} {catchall : Option Schema}
    {policy : UnknownKeys} {path : Path Live} {v : Datum} {r : Parsed} {w w' : World}
    (h : (Schema.object shape catchall policy).runWith (lib.links mode depth) path v w = .ok r w')
    (clean : r.isClean) :
    ∃ entries fields u, v.entries? = some entries ∧
      runFields (lib.links mode depth) shape path entries w = .ok fields u ∧
      ∀ f ∈ fields, f.2.isClean := by
  simp only [Schema.runWith] at h
  cases hv : v.entries? with
  | none =>
    rw [hv] at h
    cases h
    cases clean
  | some entries =>
    rw [hv] at h
    obtain ⟨fields, u, hfields, h⟩ := Run.bind_ok.1 h
    refine ⟨entries, fields, u, rfl, hfields, fun f hf => ?_⟩
    cases catchall with
    | none =>
      cases h
      cases policy <;> exact clean_of_objectResult clean hf
    | some s =>
      obtain ⟨rs, u', -, h⟩ := Run.bind_ok.1 h
      cases h
      exact clean_of_objectResult clean hf

namespace Plans

/-- A discriminated union: its table is made of its options, whose tag fields accept nothing but
tags, and all tags are proper keys. -/
structure Discriminates (plans : Plans) (key : String) (options : List Schema)
    (table : List (Datum × Nat)) : Prop where
  made : plans.Tabulates key options table
  keys : ∀ e ∈ table, e.1.IsProperKey
  fields : ∀ {shape catchall policy field}, .object shape catchall policy ∈ options →
    Schema.field? shape key = some field → plans.TagField field

end Plans

/-- What a tag selects is an option. -/
theorem Plans.Discriminates.selected {plans : Plans} {key : String} {options : List Schema}
    {table : List (Datum × Nat)} (h : plans.Discriminates key options table) {tag : Datum} {i : Nat}
    (hi : optionAt? table tag = some i) : ∃ s, options[i]? = some s := by
  obtain ⟨owner, n, htable⟩ := h.made
  obtain ⟨-, -, listed, -⟩ := tagTable_yields htable List.Pairwise.nil
  unfold optionAt? at hi
  split at hi
  · cases hi
  · obtain ⟨e, he, rfl⟩ := Option.map_eq_some_iff.1 hi
    rcases listed e (List.mem_of_find?_eq_some he) with none | ⟨-, place⟩
    · cases none
    · exact ⟨_, List.getElem?_eq_getElem (by omega)⟩

/-- A value that can be looked up in a table: what is hashable is a proper key, and a tuple is
hashable. -/
structure Value.IsSelector (tag : Datum) : Prop where
  proper : tag.unhashable? = Option.none → tag.IsProperKey
  tuple : ∀ items, tag = .tuple items → tag.unhashable? = Option.none

/-- An option that accepts a mapping is the one that the tag of the mapping selects. -/
theorem Library.selects_accepting {key : String} {options : List Schema}
    {table : List (Datum × Nat)} (hd : lib.plans.Discriminates key options table) {j : Nat}
    {s : Schema} (hs : options[j]? = some s) {path : Path Live} {v : Datum} {r : Parsed}
    {w w' : World} (hw : lib.plans.Faithful w)
    (hr : s.runWith (lib.links mode depth) path v w = .ok r w') (clean : r.isClean) :
    ∃ entries, v.entries? = some entries ∧
      ((valueAt entries key).IsSelector → optionAt? table (valueAt entries key) = some j) := by
  obtain ⟨owner, n, htable⟩ := hd.made
  obtain ⟨unambiguous, -, -, declared⟩ := tagTable_yields htable List.Pairwise.nil
  obtain ⟨shape, catchall, policy, field, values, rfl, hfield, hvalues, listed⟩ := declared j s hs
  have member := List.mem_of_getElem? hs
  obtain ⟨entries, fields, u, hv, hfields, allClean⟩ := object_accepts hr clean
  obtain ⟨f, hf, -, u, u', hu, hrun⟩ := runFields_at hfield hw hfields
  obtain ⟨t, ht, exactly⟩ := (hd.fields member hfield).accepts hvalues hu hrun (allClean f hf)
  refine ⟨entries, hv, fun selector => ?_⟩
  have entry : (t, j) ∈ table := by simpa using (listed t).2 (.inr ht)
  have hashable : (valueAt entries key).unhashable? = none := by
    by_cases tuple : ∃ items, valueAt entries key = .tuple items
    · obtain ⟨items, htuple⟩ := tuple
      exact selector.tuple items htuple
    · exact Value.hashable_of_isExactly exactly (hd.keys _ entry) (not_exists.1 tuple)
  refine optionAt?_of_mem unambiguous hd.keys entry (selector.proper hashable) ?_
  simp [Value.agrees, (Bool.and_eq_true_iff.1 exactly).2]

end TwoWay
