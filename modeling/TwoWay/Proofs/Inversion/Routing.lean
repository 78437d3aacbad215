import TwoWay.Proofs.Inversion.Ending
import TwoWay.Proofs.Inversion.Outcome
import TwoWay.Proofs.Parse.Lookup

/-!
# Inverse unions lead the same way

The tag fields of a discriminated union may be literals, enumerations and `none` under brands,
read-only, nullable, optional and default nodes, refinements and lazy nodes
(`Plans.TagStack`). Inverting such a field needs no look-up and gives a field with the same tags, so
the table of the inverse union is that of the union. Parsing with such a field changes no tag,
unless a default takes the place of a missing one (`Plans.Substitutes`). So what an option gives out
leads to the inverse of that option (`Library.inverse_leads_alike`).
-/

namespace TwoWay

/-! ## Scalars -/

/-- Values that are neither containers nor handles nor sentinels. -/
def Value.isScalar : Datum → Bool
  | .none | .bool _ | .int _ | .float _ | .str _ | .bytes _ => true
  | _ => false

/-- A value that stays the same when it is made read-only and numbered. -/
def Value.Stays (v : Datum) : Prop := ∀ w, v.freeze.numbered w = .ok v w

/-- What is exactly a scalar is a scalar, and no `nan`. -/
theorem Value.stays_of_isExactly {v t : Datum} (h : v.isExactly t) (scalar : t.isScalar) :
    v.Stays := by
  intro w
  have equal : v.equal t := (Bool.and_eq_true_iff.1 h).2
  cases v with
  | float d =>
    cases d with
    | nan id => cases t <;> cases equal
    | _ => rfl
  | none | bool _ | int _ | str _ | bytes _ | missing | invalid => rfl
  | _ => cases t <;> first | cases equal | cases scalar

namespace Plans

variable (plans : Plans)

/-- Schemas of tag fields: scalars under nodes that do not change them. -/
inductive TagStack : Schema → Prop
  | literal {value} (scalar : value.isScalar) : TagStack (.literal value)
  | enum {values} (scalars : ∀ v ∈ values, v.isScalar) : TagStack (.enum values)
  | none : TagStack .none
  | branded {inner name} : TagStack inner → TagStack (.branded inner name)
  | readonly {inner} : TagStack inner → TagStack (.readonly inner)
  | nullable {inner} : TagStack inner → TagStack (.nullable inner)
  | optional {inner} : TagStack inner → TagStack (.optional inner)
  | default {inner supply} : TagStack inner → TagStack (.default inner supply)
  | refinement {action elidable inner} : TagStack inner →
    TagStack (.effect .refinement action elidable inner)
  | lazy {id origin s} : plans.Gives id origin s → TagStack s → TagStack (.lazy id origin)

/-- Tag fields in which a missing value gets to a default. -/
inductive Substitutes : Schema → Prop
  | default {inner supply} : Substitutes (.default inner supply)
  | branded {inner name} : Substitutes inner → Substitutes (.branded inner name)
  | readonly {inner} : Substitutes inner → Substitutes (.readonly inner)
  | nullable {inner} : Substitutes inner → Substitutes (.nullable inner)
  | refinement {action elidable inner} : Substitutes inner →
    Substitutes (.effect .refinement action elidable inner)
  | lazy {id origin s} : plans.Gives id origin s → Substitutes s → Substitutes (.lazy id origin)

/-- A discriminated union that was made with its table, whose options have fields with different
keys, and tag fields that are stacks over scalars. -/
structure Routes (key : String) (options : List Schema) (table : List (Datum × Nat)) : Prop where
  made : plans.Tabulates key options table
  distinct : ∀ {shape catchall policy}, .object shape catchall policy ∈ options →
    (shape.map (·.1)).Nodup
  fields : ∀ {shape catchall policy field}, .object shape catchall policy ∈ options →
    Schema.field? shape key = some field → plans.TagStack field

/-- A schema that can be inverted, whoever makes the inverse. -/
def Invertible (settings : InversionSettings) (s : Schema) : Prop :=
  ∀ owner n, plans.Ends (fun _ => False)
    (fun depth => s.invertWith ⟨owner, plans.tagsBehind depth⟩ settings n) fun _ => True

variable {plans} {settings : InversionSettings} {fails : Failure → Prop}

/-! ## The table of the inverse -/

/-- A stack can be inverted without looking anything up. -/
theorem TagStack.inverted {s : Schema} (h : plans.TagStack s) (settings : InversionSettings)
    (owner : LazyId) (n : Nat) :
    ∃ t n', plans.Inverts settings s t ∧ t.isSchema ∧
      ∀ tags w, s.invertWith ⟨owner, tags⟩ settings n w = .ok (t, n') w := by
  -- A node that is put over the inverse of the inner schema.
  have wrapped {inner : Schema} (node : Schema → Schema) (name : String)
      (ih : ∃ t n', plans.Inverts settings inner t ∧ t.isSchema ∧
        ∀ tags w, inner.invertWith ⟨owner, tags⟩ settings n w = .ok (t, n') w) :
      ∃ t n', plans.Inverts settings inner t ∧ ∀ tags w,
        (do
          let t ← inner.invertWith ⟨owner, tags⟩ settings
          Schema.requireMethod t name
          return node t : Make Schema) n w = .ok (node t, n') w := by
    obtain ⟨t, n', inverts, isSchema, run⟩ := ih
    refine ⟨t, n', inverts, fun tags w => ?_⟩
    refine (Run.bind_of_ok (run tags w)).trans ?_
    simp only [Schema.requireMethod, isSchema, if_true]
    rfl
  induction h with
  | literal | enum | none => exact ⟨_, n, .leaf rfl, rfl, fun _ _ => rfl⟩
  | branded _ ih =>
    obtain ⟨t, n', inverts, isSchema, run⟩ := ih
    exact ⟨t, n', .branded inverts, isSchema, run⟩
  | default _ ih =>
    obtain ⟨t, n', inverts, isSchema, run⟩ := ih
    exact ⟨t, n', .default inverts, isSchema, run⟩
  | readonly _ ih =>
    obtain ⟨t, n', inverts, run⟩ := wrapped .readonly "readonly" ih
    exact ⟨_, n', .readonly inverts, rfl, run⟩
  | nullable _ ih =>
    obtain ⟨t, n', inverts, run⟩ := wrapped .nullable "nullable" ih
    exact ⟨_, n', .nullable inverts, rfl, run⟩
  | optional _ ih =>
    obtain ⟨t, n', inverts, run⟩ := wrapped .optional "optional" ih
    exact ⟨_, n', .optional inverts, rfl, run⟩
  | refinement _ ih =>
    obtain ⟨t, n', inverts, -, run⟩ := ih
    exact ⟨_, n', .refinement inverts, rfl, fun tags w => Run.bind_of_ok (run tags w)⟩
  | lazy =>
    exact ⟨.lazy (.within owner n) (.inverse settings _ _), n + 1, .lazy, rfl, fun _ _ => rfl⟩

/-- Forcing the inverse of a lazy node that stands for a stack comes to an end. -/
theorem TagStack.force_inverse {id : LazyId} {origin : Origin} {s : Schema}
    (given : plans.Gives id origin s) (h : plans.TagStack s) (id' : LazyId) :
    plans.Ends fails (fun depth => plans.force depth id' (.inverse settings id origin))
      (plans.Inverts settings s) := by
  refine force_ends (.bind given.force_ends fun _ same => ?_) fun t ht => ?_
  · subst same
    obtain ⟨t, n', inverts, -, run⟩ := h.inverted settings id' 0
    exact .given (fun depth w => Run.bind_of_ok (run (plans.tagsBehind depth) w)) inverts
  · obtain ⟨base, givenBase, inverts⟩ := ht.inverts
    exact given.unique givenBase ▸ inverts

/-- The inverse of a stack has the same tags. -/
theorem TagStack.tags {s : Schema} (h : plans.TagStack s) {n : Nat} {values : List Datum}
    (hv : (s.tagValues (plans.tagsOf n)).Yields values) {t : Schema}
    (ht : plans.Inverts settings s t) :
    plans.Ends fails (fun depth => t.tagValues (plans.tagsBehind depth)) (Eq values) := by
  induction h generalizing n values t with
  | literal | enum | none =>
    cases ht
    exact .pure hv.pure.symm
  | branded _ ih =>
    cases ht with
    | leaf leaf => cases leaf
    | branded inverts => exact ih hv inverts
  | default _ ih =>
    cases ht with
    | leaf leaf => cases leaf
    | default inverts => exact ih hv inverts
  | readonly _ ih =>
    cases ht with
    | leaf leaf => cases leaf
    | readonly inverts => exact (ih hv inverts :)
  | nullable _ ih =>
    cases ht with
    | leaf leaf => cases leaf
    | nullable inverts =>
      obtain ⟨own, hown, hv⟩ := hv.bind
      cases hv.pure
      exact .bind (ih hown inverts) fun _ same => .pure (same ▸ rfl)
  | optional _ ih =>
    cases ht with
    | leaf leaf => cases leaf
    | optional inverts =>
      obtain ⟨own, hown, hv⟩ := hv.bind
      cases hv.pure
      exact .bind (ih hown inverts) fun _ same => .pure (same ▸ rfl)
  | refinement _ ih =>
    cases ht with
    | leaf leaf => cases leaf
    | refinement inverts => exact .bind (.pure rfl) fun _ (same : [] = _) => same ▸ ih hv inverts
    | elided other => exact absurd rfl other
  | lazy given stack ih =>
    cases ht with
    | leaf leaf => cases leaf
    | lazy =>
      cases n with
      | zero => exact absurd hv Run.not_yields_throw
      | succ n =>
        obtain ⟨s, hs, hv⟩ := hv.bind
        cases (gives_of_yields hs).unique given
        refine .succ ?_
        simp only [Schema.tagValues, Plans.tagsBehind]
        exact .bind (stack.force_inverse given _) fun t inverts => ih hv inverts

/-- The table of the inverses of options is that of the options. -/
theorem tagTable_ends {key : String} {options options' : List Schema}
    (h : List.Forall₂ (plans.Inverts settings) options options')
    (fields : ∀ {shape catchall policy field}, .object shape catchall policy ∈ options →
      Schema.field? shape key = some field → plans.TagStack field)
    {owner : LazyId} {n : Nat} {table : List (Datum × Nat)}
    (made : (Schema.tagTable ⟨owner, plans.tagsOf n⟩ key 0 options []).Yields table)
    (owner' : LazyId) :
    plans.Ends fails
      (fun depth => Schema.tagTable ⟨owner', plans.tagsBehind depth⟩ key 0 options' [])
      (Eq table) := by
  have tabled : (plans.ending fails).Holds
      (fun depth => Schema.tagTable ⟨owner', plans.tagsBehind depth⟩ key 0 options' [])
      fun table' => True → table' = table :=
    Triple.tagTable_mirrored h (absurd trivial ·) (fun member hfield _ hvalues _ inverts =>
      ((fields member hfield).tags hvalues inverts).weaken fun _ same =>
        ⟨fun none => same.trans none, fun _ => same.symm⟩) (fun _ => rfl) made
  exact tabled.weaken fun _ same => (same trivial).symm

theorem invertAll_ends {schemas : List Schema} (h : ∀ s ∈ schemas, plans.Invertible settings s)
    (owner : LazyId) (n : Nat) :
    plans.Ends (fun _ => False)
      (fun depth => Schema.invertAll ⟨owner, plans.tagsBehind depth⟩ settings schemas n)
      fun p => List.Forall₂ (plans.Inverts settings) schemas p.1 := by
  induction schemas generalizing n with
  | nil => exact .pure .nil
  | cons s rest ih =>
    obtain ⟨first, others⟩ := List.forall_mem_cons.1 h
    refine .bind ((first owner n).ensuring fun depth => invertWith_ensures depth owner n) ?_
    intro p inverts
    exact .bind (ih others p.2) fun q inverted => .pure (.cons inverts inverted)

/-- The inverse of a discriminated union is made with the same table. -/
theorem Routes.inverted {key : String} {options : List Schema} {table : List (Datum × Nat)}
    (h : plans.Routes key options table) (hi : ∀ s ∈ options, plans.Invertible settings s)
    (owner : LazyId) (n : Nat) :
    plans.Ends (fun _ => False)
      (fun depth => (Schema.tagged key options table).invertWith
        ⟨owner, plans.tagsBehind depth⟩ settings n)
      fun p => ∃ options', p.1 = .tagged key options' table ∧
        List.Forall₂ (plans.Inverts settings) options options' := by
  obtain ⟨owner', m, made⟩ := h.made
  refine .bind (invertAll_ends hi owner n) fun p inverts => ?_
  have tabled : plans.Ends (fun _ => False)
      (fun depth => Schema.ofTagged ⟨owner, plans.tagsBehind depth⟩ key p.1)
      (Eq (Schema.tagged key p.1 table)) :=
    .bind (tagTable_ends inverts h.fields made owner) fun _ same => .pure (same ▸ rfl)
  exact .bind tabled fun _ same => .pure ⟨p.1, same.symm, inverts⟩

end Plans

/-! ## What an option gives out -/

variable {lib : Library} {mode : Mode} {depth : Nat}

/-- A stack that accepts a value gives it out, if no default takes its place. -/
theorem Plans.TagStack.keeps {s : Schema} (h : lib.plans.TagStack s) {path : Path Live}
    {v : Datum} (given : v = .missing → ¬lib.plans.Substitutes s) {r : Parsed} {w w' : World}
    (hw : lib.plans.Faithful w) (hr : s.runWith (lib.links mode depth) path v w = .ok r w')
    (clean : r.isClean) : r.value = v ∧ v.Stays := by
  induction h generalizing depth r w w' with
  | literal scalar =>
    cases hr
    unfold parseLiteral at clean ⊢
    split at clean
    · rename_i exactly
      rw [if_pos exactly]
      exact ⟨rfl, Value.stays_of_isExactly exactly scalar⟩
    · cases clean
  | enum scalars =>
    cases hr
    unfold parseEnum at clean ⊢
    split at clean
    · rename_i found
      rw [if_pos found]
      obtain ⟨t, ht, exactly⟩ := List.any_eq_true.1 (Bool.and_eq_true_iff.1 found).2
      exact ⟨rfl, Value.stays_of_isExactly exactly (scalars t ht)⟩
    · cases clean
  | none =>
    cases hr
    unfold parseNone at clean ⊢
    split at clean
    · rename_i none
      rw [if_pos none]
      cases v <;> first | exact ⟨rfl, fun _ => rfl⟩ | cases none
    · cases clean
  | branded _ ih => exact ih (fun missing sub => given missing (.branded sub)) hw hr clean
  | readonly _ ih =>
    obtain ⟨t, u, ht, hr⟩ := Run.bind_ok.1 hr
    obtain ⟨same, stays⟩ := ih (fun missing sub => given missing (.readonly sub)) hw ht
      (clean_of_readonly hr clean)
    obtain ⟨x, u', hx, hr⟩ := Run.bind_ok.1 hr
    rw [same, stays u] at hx
    cases hx
    cases hr
    exact ⟨rfl, stays⟩
  | nullable _ ih =>
    simp only [Schema.runWith] at hr
    split at hr
    · cases hr
      cases v <;> first | exact ⟨rfl, fun _ => rfl⟩ | contradiction
    · exact ih (fun missing sub => given missing (.nullable sub)) hw hr clean
  | optional _ ih =>
    simp only [Schema.runWith] at hr
    split at hr
    · cases hr
      cases v <;> first | exact ⟨rfl, fun _ => rfl⟩ | contradiction
    · rename_i present
      refine ih (fun missing => ?_) hw hr clean
      subst missing
      exact absurd rfl present
  | default _ ih =>
    simp only [Schema.runWith] at hr
    have present : v ≠ .missing := fun missing => given missing .default
    have shown : v.isMissing = false := by cases v <;> first | rfl | exact absurd rfl present
    simp only [shown, Bool.false_eq_true, if_false, pure_bind] at hr
    exact ih (fun missing => absurd missing present) hw hr clean
  | refinement _ ih =>
    obtain ⟨t, u, ht, hr⟩ := Run.bind_ok.1 hr
    obtain ⟨same, stays⟩ := ih (fun missing sub => given missing (.refinement sub)) hw ht
      (clean_of_refined hr clean)
    split at hr
    · cases hr
      exact ⟨same, stays⟩
    · obtain ⟨checked, u', -, hr⟩ := Run.bind_ok.1 hr
      cases hr
      exact ⟨same, stays⟩
  | lazy gives _ ih =>
    cases depth with
    | zero => cases hr
    | succ depth =>
      obtain ⟨t, u, ht, hr⟩ := Run.bind_ok.1 hr
      obtain ⟨leads, forced⟩ := Plans.force_ok hw ht
      cases forced.unique gives
      exact ih (fun missing sub => given missing (.lazy gives sub)) leads.faithful hr clean

/-! ## Objects -/

theorem valueAt_cons (e : Datum × Datum) (rest : Entries Live) (key : String) :
    valueAt (e :: rest) key = if e.1.agrees (.str key) then e.2 else valueAt rest key := by
  unfold valueAt Entries.get?
  rw [List.find?_cons]
  cases e.1.agrees (.str key) <;> rfl

theorem valueAt_absent {entries : Entries Live} {key : String}
    (h : ∀ e ∈ entries, e.1 ≠ .str key) : valueAt entries key = .missing := by
  unfold valueAt Entries.get?
  rw [List.find?_eq_none.2 fun e he found => h e he (agrees_str.1 found)]
  rfl

theorem fieldEntries_cons (f : String × Parsed) (rest : List (String × Parsed)) :
    fieldEntries (f :: rest) = (if f.2.value.isInvalid || f.2.value.isMissing then []
      else [(.str f.1, f.2.value)]) ++ fieldEntries rest := by
  unfold fieldEntries
  rw [List.filterMap_cons]
  split <;> simp_all

/-- What an object gives out under the key of a field is what the field gives out. -/
theorem valueAt_fieldEntries {fields : List (String × Parsed)} (names : (fields.map (·.1)).Nodup)
    {extra : Entries Live} {f : String × Parsed} (hf : f ∈ fields)
    (valid : f.2.value.isInvalid = false) (others : ∀ e ∈ extra, e.1 ≠ .str f.1) :
    valueAt (fieldEntries fields ++ extra) f.1 = f.2.value := by
  induction fields with
  | nil => cases hf
  | cons g rest ih =>
    obtain ⟨fresh, names⟩ := List.nodup_cons.1 names
    rw [fieldEntries_cons]
    rcases List.mem_cons.1 hf with rfl | hf
    · cases missing : f.2.value.isMissing with
      | true =>
        -- A field that gives nothing out leaves its key to nobody else.
        simp only [Bool.or_true, if_true, List.nil_append]
        rw [Value.eq_missing missing]
        refine valueAt_absent fun e he => ?_
        rcases List.mem_append.1 he with he | he
        · obtain ⟨g, hg, -, -, rfl⟩ := mem_fieldEntries.1 he
          intro same
          exact fresh (List.mem_map.2 ⟨g, hg, Value.str.inj same⟩)
        · exact others e he
      | false =>
        simp only [valid, Bool.or_self, Bool.false_eq_true, if_false, List.cons_append,
          List.nil_append, valueAt_cons, agrees_str.2, if_true]
    · have apart : g.1 ≠ f.1 := fun same =>
        fresh (List.mem_map.2 ⟨f, hf, same.symm⟩)
      have differ : ¬(Value.str g.1 : Datum).agrees (.str f.1) := fun found =>
        apart (Value.str.inj (agrees_str.1 found))
      split
      · exact ih names hf
      · rw [List.singleton_append, List.cons_append, valueAt_cons, if_neg differ]
        exact ih names hf

theorem runValues_keys {parse : Path Live → Datum → Run Parsed} {path : Path Live}
    {entries : Entries Live} {rs : List (Datum × Parsed)} {w w' : World}
    (h : runValues parse path entries w = .ok rs w') : rs.map (·.1) = entries.map (·.1) := by
  induction entries generalizing rs w with
  | nil =>
    cases h
    rfl
  | cons e rest ih =>
    obtain ⟨r, u, -, h⟩ := Run.bind_ok.1 h
    obtain ⟨others, u', hothers, h⟩ := Run.bind_ok.1 h
    cases h
    exact congrArg (e.1 :: ·) (ih hothers)

/-- An object that is put together without issues shows its fields under their keys. -/
theorem objectResult_gives {fields : List (String × Parsed)} (names : (fields.map (·.1)).Nodup)
    {extra : Entries Live} {issues : List (Issue Live)} {failed : Bool}
    (clean : (objectResult fields extra issues failed).isClean) {f : String × Parsed}
    (hf : f ∈ fields) (others : ∀ e ∈ extra, e.1 ≠ .str f.1) :
    ∃ outputs, (objectResult fields extra issues failed).value.entries? = some outputs ∧
      f.2.isClean ∧ valueAt outputs f.1 = f.2.value := by
  have cleanField := clean_of_objectResult clean hf
  refine ⟨fieldEntries fields ++ extra, ?_, cleanField, ?_⟩
  · unfold objectResult at clean ⊢
    dsimp only at clean ⊢
    split at clean
    · cases clean
    · rw [if_neg ‹_›]
      rfl
  · exact valueAt_fieldEntries names hf (Parsed.isClean_iff.1 cleanField).1 others

/-- Extra entries have other keys than the fields of the shape. -/
theorem extraEntries_apart {shape : List (String × Schema)} {entries : Entries Live}
    {name : String} (declared : name ∈ shape.map (·.1)) :
    ∀ e ∈ extraEntries shape entries, e.1 ≠ .str name := by
  intro e he same
  obtain ⟨g, hg, rfl⟩ := List.mem_map.1 declared
  exact (mem_extraEntries.1 he).2 g hg same

/-- What an object accepts: its fields are accepted, and under the key of a field it gives out what
the field gives out. -/
theorem object_gives {shape : List (String × Schema)} {catchall : Option Schema}
    {policy : UnknownKeys} (names : (shape.map (·.1)).Nodup) {key : String} {field : Schema}
    (hfield : Schema.field? shape key = some field) {path : Path Live} {v : Datum} {r : Parsed}
    {w w' : World} (hw : lib.plans.Faithful w)
    (h : (Schema.object shape catchall policy).runWith (lib.links mode depth) path v w = .ok r w')
    (clean : r.isClean) :
    ∃ entries outputs t u u', v.entries? = some entries ∧ r.value.entries? = some outputs ∧
      lib.plans.Faithful u ∧ field.runWith (lib.links mode depth) (path ++ [.str key])
        (valueAt entries key) u = .ok t u' ∧ t.isClean ∧ valueAt outputs key = t.value := by
  simp only [Schema.runWith] at h
  cases hv : v.entries? with
  | none =>
    rw [hv] at h
    cases h
    cases clean
  | some entries =>
    rw [hv] at h
    obtain ⟨fields, u, hfields, h⟩ := Run.bind_ok.1 h
    obtain ⟨f, hf, rfl, v₁, v₂, hv₁, hrun⟩ := runFields_at hfield hw hfields
    have keys := runFields_names hfields
    have apart : ∀ e ∈ extraEntries shape entries, e.1 ≠ .str f.1 :=
      extraEntries_apart (keys ▸ List.mem_map_of_mem hf)
    -- Whatever stands outside the shape, the object is put together from its fields.
    obtain ⟨outputs, houtputs, cleanField, value⟩ : ∃ outputs, r.value.entries? = some outputs ∧
        f.2.isClean ∧ valueAt outputs f.1 = f.2.value := by
      cases catchall with
      | none =>
        cases h
        cases policy with
        | strip => exact objectResult_gives (keys ▸ names) clean hf (List.forall_mem_nil _)
        | strict => exact objectResult_gives (keys ▸ names) clean hf (List.forall_mem_nil _)
        | passthrough => exact objectResult_gives (keys ▸ names) clean hf apart
      | some s =>
        obtain ⟨rs, u', hrs, h⟩ := Run.bind_ok.1 h
        cases h
        refine objectResult_gives (keys ▸ names) clean hf fun e he => ?_
        obtain ⟨g, hg, rfl⟩ := List.mem_map.1 he
        have key : g.1 ∈ (extraEntries shape entries).map (·.1) :=
          runValues_keys hrs ▸ List.mem_map_of_mem hg
        obtain ⟨e, he, same⟩ := List.mem_map.1 key
        exact same ▸ apart e he
    exact ⟨entries, outputs, f.2, v₁, v₂, rfl, houtputs, hv₁, hrun, cleanField, value⟩

/-! ## Leading back -/

/-- A tag that is in the table selects an option with a tag field. -/
theorem Plans.Routes.option {plans : Plans} {key : String} {options : List Schema}
    {table : List (Datum × Nat)} (h : plans.Routes key options table) {tag : Datum} {i : Nat}
    (hi : optionAt? table tag = some i) :
    ∃ shape catchall policy field, options[i]? = some (.object shape catchall policy) ∧
      Schema.field? shape key = some field := by
  obtain ⟨owner, n, made⟩ := h.made
  obtain ⟨-, -, listed, declared⟩ := tagTable_yields made List.Pairwise.nil
  unfold optionAt? at hi
  split at hi
  · cases hi
  obtain ⟨e, he, rfl⟩ := Option.map_eq_some_iff.1 hi
  rcases listed e (List.mem_of_find?_eq_some he) with none | place
  · cases none
  have inside : e.2 < options.length := by omega
  obtain ⟨shape, catchall, policy, field, -, same, hfield, -, -⟩ :=
    declared e.2 options[e.2] (List.getElem?_eq_getElem inside)
  exact ⟨shape, catchall, policy, field, same ▸ List.getElem?_eq_getElem inside, hfield⟩

namespace Library

variable {key : String} {options : List Schema} {table : List (Datum × Nat)}
  {settings : InversionSettings}

/-- A discriminated union accepts with the option that the tag selects. -/
theorem tagged_selects {s : Schema} {v : Datum} {i : Nat} {entries : Entries Live}
    (hv : v.entries? = some entries) (selected : optionAt? table (valueAt entries key) = some i)
    (hs : options[i]? = some s) (links : Links) (path : Path Live) :
    (Schema.tagged key options table).runWith links path v = s.runWith links path v := by
  simp only [Schema.runWith, hv, selected, runOption_eq links hs]

/-- Inverting a discriminated union whose tag fields are stacks over scalars gives a discriminated
union with the same table, in which every tag leads to the inverse of the option that it led to. A
value that the union accepts is accepted by the option that its tag selects. What the option gives
out selects the inverse of that option, unless the tag was missing and a default took its place. -/
theorem inverse_leads_alike (h : lib.plans.Routes key options table)
    (hi : ∀ s ∈ options, lib.plans.Invertible settings s) (step : Nat) :
    lib.plans.Ends (fun _ => False)
      (fun depth => lib.invert depth step settings (.tagged key options table))
      (fun t => ∃ options', t = .tagged key options' table ∧
        List.Forall₂ (lib.plans.Inverts settings) options options') ∧
    ∀ mode depth v w x w', lib.plans.Faithful w →
      lib.parse mode depth (.tagged key options table) v w = .ok x w' →
      ∃ entries i shape catchall policy field, v.entries? = some entries ∧
        optionAt? table (valueAt entries key) = some i ∧
        options[i]? = some (.object shape catchall policy) ∧
        Schema.field? shape key = some field ∧
        lib.parse mode depth (.object shape catchall policy) v w = .ok x w' ∧
        ((valueAt entries key = .missing → ¬lib.plans.Substitutes field) →
          ∃ outputs, x.entries? = some outputs ∧
            optionAt? table (valueAt outputs key) = some i ∧
            ∀ options', List.Forall₂ (lib.plans.Inverts settings) options options' →
              ∃ s', options'[i]? = some s' ∧
                lib.plans.Inverts settings (.object shape catchall policy) s' ∧
                ∀ links path, (Schema.tagged key options' table).runWith links path x =
                  s'.runWith links path x) := by
  constructor
  · exact (h.inverted hi (.step step) 0).map fun p given => given
  intro mode depth v w x w' hw hx
  obtain ⟨r, hr, clean, rfl⟩ := (parse_clean rfl).1 hx
  cases hv : v.entries? with
  | none =>
    simp only [Schema.runWith, hv] at hr
    cases hr
    cases clean
  | some entries =>
    cases selected : optionAt? table (valueAt entries key) with
    | none =>
      simp only [Schema.runWith, hv, selected] at hr
      cases hr
      cases clean
    | some i =>
      obtain ⟨shape, catchall, policy, field, hs, hfield⟩ := h.option selected
      have member := List.mem_of_getElem? hs
      rw [tagged_selects hv selected hs] at hr
      refine ⟨entries, i, shape, catchall, policy, field, rfl, selected, hs, hfield,
        (parse_clean rfl).2 ⟨r, hr, clean, rfl⟩, fun kept => ?_⟩
      obtain ⟨entries', outputs, t, u, u', hv', houtputs, hu, ht, cleanTag, value⟩ :=
        object_gives (h.distinct member) hfield hw hr clean
      cases hv.symm.trans hv'
      obtain ⟨same, -⟩ := (h.fields member hfield).keeps kept hu ht cleanTag
      have leads : optionAt? table (valueAt outputs key) = some i := by
        rw [value, same]
        exact selected
      refine ⟨outputs, houtputs, leads, fun options' inverts => ?_⟩
      obtain ⟨length, each⟩ := List.forall₂_iff_get.1 inverts
      obtain ⟨inside, option⟩ := List.getElem?_eq_some_iff.1 hs
      have hs' := List.getElem?_eq_getElem (length ▸ inside : i < options'.length)
      have inverted := each i inside (length ▸ inside)
      rw [List.get_eq_getElem, option] at inverted
      exact ⟨options'[i], hs', inverted, tagged_selects houtputs leads hs'⟩

end Library

/-! Letters: one of them is looked up behind a lazy node, and two stand in an enumeration. -/

namespace Spelling

def getter : FunctionRef := ⟨0, "letter"⟩

def isLetter : FunctionRef := ⟨1, "is_letter"⟩

def library : Library where
  host := {
    effect := fun _ _ _ => ⟨[], .ok .none⟩
    check := fun _ _ => ⟨[], .ok (.bool true)⟩
    supply := fun _ => ⟨[], .ok .none⟩
    rescue := fun _ _ => ⟨[], .ok .none⟩
    call := fun _ _ => ⟨[], .ok .none⟩
    isAsync := fun _ => false }
  plans := { getter := fun _ => { schema := .literal (.str "a") }, definition := fun _ => .any }

/-- One letter, which is supplied if it is missing. -/
def first : Schema :=
  .default (.readonly (.lazy (.step 0) (.getter getter))) (.value (.str "a"))

/-- Two letters, or none. -/
def others : Schema :=
  .optional (.effect .refinement (.check isLetter "no letter" []) false
    (.branded (.enum [.str "b", .str "c"]) (.str "letter")))

def options : List Schema := [
  .object [("t", first), ("n", .any)] none .strip,
  .object [("t", others)] none .passthrough]

def table : List (Datum × Nat) := [(.str "a", 0), (.str "b", 1), (.str "c", 1), (.missing, 1)]

theorem gives (id : LazyId) : library.plans.Gives id (.getter getter) (.literal (.str "a")) :=
  ⟨1, rfl⟩

theorem routes : library.plans.Routes "t" options table where
  made := ⟨.step 0, 2, {}, {}, rfl⟩
  distinct h := by
    rcases List.mem_pair.1 h with same | same
    all_goals
      cases same
      decide
  fields h hf := by
    rcases List.mem_pair.1 h with same | same
    all_goals
      cases same
      cases hf
    · exact .default (.readonly (.lazy (gives _) (.literal rfl)))
    · exact .optional (.refinement (.branded (.enum (by decide))))

theorem invertible (settings : InversionSettings) :
    ∀ s ∈ options, library.plans.Invertible settings s := by
  intro s hs owner n
  rcases List.mem_pair.1 hs with rfl | rfl
  · let behind : Schema := .lazy (.within owner n) (.inverse settings (.step 0) (.getter getter))
    let inverse : Schema := .object [("t", .readonly behind), ("n", .any)] none .strip
    exact .given (a := (inverse, n + 1)) (fun _ _ => rfl) trivial
  · let letters : Schema := .enum [.str "b", .str "c"]
    let checked : Schema := .effect .refinement (.check isLetter "no letter" []) false .any
    let inverse : Schema := .object [("t", .optional (.pipeline checked letters))] none .passthrough
    exact .given (a := (inverse, n)) (fun _ _ => rfl) trivial

def input : Datum := .dict .free [(.str "n", .int 1), (.str "t", .str "a")]

def output : Datum := .dict .free [(.str "t", .str "a"), (.str "n", .int 1)]

/-- The world after the getter has been called. -/
def forced : World where
  forced := [((.step 0, .getter getter), .literal (.str "a"))]
  journal := [.called getter []]

/-- The letter behind the lazy node is accepted, and comes back to the inverse of its option. -/
theorem letter_comes_back :
    library.plans.Routes "t" options table ∧
    (∀ s ∈ options, library.plans.Invertible {} s) ∧
    library.plans.Ends (fun _ => False)
      (fun depth => library.invert depth 0 {} (.tagged "t" options table))
      (fun t => ∃ options', t = .tagged "t" options' table ∧
        List.Forall₂ (library.plans.Inverts {}) options options') ∧
    library.parse .sync 2 (.tagged "t" options table) input {} = .ok output forced ∧
    ∃ outputs, output.entries? = some outputs ∧ optionAt? table (valueAt outputs "t") = some 0 := by
  obtain ⟨made, accepted⟩ := Library.inverse_leads_alike routes (invertible {}) 0
  have accepts : library.parse .sync 2 (.tagged "t" options table) input {} = .ok output forced :=
    rfl
  refine ⟨routes, invertible {}, made, accepts, ?_⟩
  obtain ⟨entries, i, shape, catchall, policy, field, hv, selected, -, -, -, leads⟩ :=
    accepted .sync 2 input {} output forced .empty accepts
  cases hv
  cases selected
  obtain ⟨outputs, houtputs, back, -⟩ := leads nofun
  exact ⟨outputs, houtputs, back⟩

end Spelling
end TwoWay
