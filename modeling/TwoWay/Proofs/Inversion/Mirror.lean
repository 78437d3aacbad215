import TwoWay.Proofs.Inversion.Rules

/-!
# Inverting twice

Nodes other than mappings in one direction, substitutes, functions and promises are symmetric:
nothing that a parse depends on is lost when they are inverted. Inverting a symmetric schema
twice does not give the schema back, but a mirror of it (`Plans.Inverts.mirrors`): refinements
have become pipelines, brands are gone and lazy nodes wait for two inversions. A mirror accepts
the same tags (`Plans.Mirrors.tagValues`), so that the tables of its discriminated unions are
those of the schema (`Plans.Mirrors.table`).
-/

namespace TwoWay

namespace Schema

/-- Whether inverting a node twice loses nothing that a parse depends on. -/
def isSymmetric : Schema → Bool
  | .effect .refinement .. => true
  | .effect .. | .default .. | .catch .. | .function .. | .promise .. | .raw _ => false
  | _ => true

theorem not_isLeaf_of_isObject {s : Schema} (h : s.isObject) : s.isLeaf = false := by
  cases s <;> first | rfl | cases h

end Schema

namespace Plans

variable (plans : Plans)

/-- Symmetric schemas, with all their parts and all that their lazy nodes stand for. The tables
of discriminated unions are those that they were made with. -/
structure Symmetric (schemas : Schema → Prop) : Prop where
  child : ∀ {s c}, schemas s → c ∈ s.children → schemas c
  behind : ∀ {id origin s}, schemas (.lazy id origin) → plans.Gives id origin s → schemas s
  node : ∀ {s}, schemas s → s.isSymmetric
  table : ∀ {key options table}, schemas (.tagged key options table) →
    plans.Tabulates key options table

variable (first second : InversionSettings)

/-- What two inversions make of a symmetric schema. -/
inductive Mirrors : Schema → Schema → Prop
  | leaf {s} : s.isLeaf → Mirrors s s
  | array {e e' lengths} : Mirrors e e' → Mirrors (.array e lengths) (.array e' lengths)
  | object {shape shape' rest rest' policy} : Schema.Fieldwise Mirrors shape shape' →
    Option.Rel Mirrors rest rest' →
    Mirrors (.object shape rest policy) (.object shape' rest' policy)
  | union {options options'} : List.Forall₂ Mirrors options options' →
    Mirrors (.union options) (.union options')
  | tagged {key options options' table table'} : List.Forall₂ Mirrors options options' →
    plans.Tabulates key options' table' →
    Mirrors (.tagged key options table) (.tagged key options' table')
  | intersection {l l' r r'} : Mirrors l l' → Mirrors r r' →
    Mirrors (.intersection l r) (.intersection l' r')
  | tuple {items items' rest rest'} : List.Forall₂ Mirrors items items' →
    Option.Rel Mirrors rest rest' → Mirrors (.tuple items rest) (.tuple items' rest')
  | record {k k' v v'} : Mirrors k k' → Mirrors v v' → Mirrors (.record k v) (.record k' v')
  | map {k k' v v'} : Mirrors k k' → Mirrors v v' → Mirrors (.map k v) (.map k' v')
  | set {e e'} : Mirrors e e' → Mirrors (.set e) (.set e')
  | lazy {id id' id'' origin} : Mirrors (.lazy id origin)
    (.lazy id'' (.inverse second id' (.inverse first id origin)))
  /-- The refinement comes after the schema, and only sees what is clean. -/
  | refinement {action elidable s s'} : Mirrors s s' →
    Mirrors (.effect .refinement action elidable s)
      (.pipeline s' (.pipeline (.effect .refinement action false .any) .any))
  | optional {s s'} : Mirrors s s' → Mirrors (.optional s) (.optional s')
  | nullable {s s'} : Mirrors s s' → Mirrors (.nullable s) (.nullable s')
  | readonly {s s'} : Mirrors s s' → Mirrors (.readonly s) (.readonly s')
  | branded {s s' name} : Mirrors s s' → Mirrors (.branded s name) s'
  | pipeline {s s' t t'} : Mirrors s s' → Mirrors t t' →
    Mirrors (.pipeline s t) (.pipeline s' t')
  | invertible {s s' t t' parse format} : Mirrors s s' → Mirrors t t' →
    Mirrors (.invertible s parse t format) (.invertible s' parse t' format)

variable {plans first second} {schemas : Schema → Prop}

theorem mirrors_all {ss ts us : List Schema}
    (ih : ∀ s ∈ ss, ∀ {t u}, plans.Inverts first s t → plans.Inverts second t u →
      plans.Mirrors first second s u)
    (h : List.Forall₂ (plans.Inverts first) ss ts)
    (h' : List.Forall₂ (plans.Inverts second) ts us) :
    List.Forall₂ (plans.Mirrors first second) ss us := by
  induction h generalizing us with
  | nil =>
    cases h'
    exact .nil
  | cons hs _ hrest =>
    cases h' with
    | cons ht h' =>
      exact .cons (ih _ (by simp) hs ht) (hrest (fun s hs => ih s (by simp [hs])) h')

theorem mirrors_fields {ss ts us : List (String × Schema)}
    (ih : ∀ f ∈ ss, ∀ {t u}, plans.Inverts first f.2 t → plans.Inverts second t u →
      plans.Mirrors first second f.2 u)
    (h : Schema.Fieldwise (plans.Inverts first) ss ts)
    (h' : Schema.Fieldwise (plans.Inverts second) ts us) :
    Schema.Fieldwise (plans.Mirrors first second) ss us := by
  induction h generalizing us with
  | nil =>
    cases h'
    exact .nil
  | cons hs _ hrest =>
    cases h' with
    | cons ht h' =>
      exact .cons (ih _ (List.mem_cons_self ..) hs ht) (hrest (fun f hf => ih f (by simp [hf])) h')

theorem mirrors_option {s t u : Option Schema}
    (ih : ∀ s', s = some s' → ∀ {t u}, plans.Inverts first s' t → plans.Inverts second t u →
      plans.Mirrors first second s' u)
    (h : Option.Rel (plans.Inverts first) s t) (h' : Option.Rel (plans.Inverts second) t u) :
    Option.Rel (plans.Mirrors first second) s u := by
  cases h with
  | none =>
    cases h'
    exact .none
  | some hs =>
    cases h' with
    | some ht => exact .some (ih _ rfl hs ht)

theorem leaf_mirrors {s u : Schema} (leaf : s.isLeaf) (h : plans.Inverts second s u) :
    plans.Mirrors first second s u := by
  cases h
  case leaf => exact .leaf leaf
  all_goals cases leaf

/-- Two inversions make a mirror of a symmetric schema. -/
theorem Inverts.mirrors (hs : plans.Symmetric schemas) {s t u : Schema} (h : schemas s)
    (ht : plans.Inverts first s t) (hu : plans.Inverts second t u) :
    plans.Mirrors first second s u := by
  induction s using Schema.child_induction generalizing t u with
  | step s ih =>
    replace ih := fun c hc {t u} => @ih c hc t u (hs.child h hc)
    have symmetric := hs.node h
    cases ht <;> simp only [Schema.children, List.mem_append, List.mem_cons, List.mem_map,
      Option.mem_toList, List.not_mem_nil, or_false, forall_eq, or_imp, forall_and] at ih
    case leaf leaf => exact leaf_mirrors leaf hu
    case array ht =>
      cases hu with
      | leaf leaf => cases leaf
      | array hu => exact .array (ih ht hu)
    case object hshape hrest =>
      cases hu with
      | leaf leaf => cases leaf
      | object hshape' hrest' =>
        have fields := mirrors_fields (fun f hf => ih.1 f.2 ⟨f, hf, rfl⟩) hshape hshape'
        exact .object fields (mirrors_option ih.2 hrest hrest')
    case union ht =>
      cases hu with
      | leaf leaf => cases leaf
      | union hu => exact .union (mirrors_all ih ht hu)
    case tagged ht htable =>
      cases hu with
      | leaf leaf => cases leaf
      | tagged hu htable' => exact .tagged (mirrors_all ih ht hu) htable'
    case intersection hl hr =>
      cases hu with
      | leaf leaf => cases leaf
      | intersection hl' hr' => exact .intersection (ih.1 hl hl') (ih.2 hr hr')
    case tuple hitems hrest =>
      cases hu with
      | leaf leaf => cases leaf
      | tuple hitems' hrest' =>
        have all := mirrors_all ih.1 hitems hitems'
        exact .tuple all (mirrors_option ih.2 hrest hrest')
    case record hk hv =>
      cases hu with
      | leaf leaf => cases leaf
      | record hk' hv' => exact .record (ih.1 hk hk') (ih.2 hv hv')
    case map hk hv =>
      cases hu with
      | leaf leaf => cases leaf
      | map hk' hv' => exact .map (ih.1 hk hk') (ih.2 hv hv')
    case set ht =>
      cases hu with
      | leaf leaf => cases leaf
      | set hu => exact .set (ih ht hu)
    case lazy =>
      cases hu with
      | leaf leaf => cases leaf
      | lazy => exact .lazy
    case optional ht =>
      cases hu with
      | leaf leaf => cases leaf
      | optional hu => exact .optional (ih ht hu)
    case nullable ht =>
      cases hu with
      | leaf leaf => cases leaf
      | nullable hu => exact .nullable (ih ht hu)
    case readonly ht =>
      cases hu with
      | leaf leaf => cases leaf
      | readonly hu => exact .readonly (ih ht hu)
    case pipeline ht ht' =>
      cases hu with
      | leaf leaf => cases leaf
      | pipeline hu' hu => exact .pipeline (ih.1 ht hu) (ih.2 ht' hu')
    case invertible ht ht' =>
      cases hu with
      | leaf leaf => cases leaf
      | invertible hu' hu => exact .invertible (ih.1 ht hu) (ih.2 ht' hu')
    case branded ht => exact .branded (ih ht hu)
    case refinement ht =>
      cases hu with
      | leaf leaf => cases leaf
      | pipeline hr hu =>
        cases hr with
        | leaf leaf => cases leaf
        | refinement ha =>
          cases ha with
          | leaf _ => exact .refinement (ih ht hu)
    case elided kind _ _ other _ =>
      cases kind
      case refinement => exact absurd rfl other
      all_goals cases symmetric
    all_goals cases symmetric

/-- A lazy node that waits for two inversions stands for a mirror, if it stands for anything. -/
theorem Gives.mirrors (hs : plans.Symmetric schemas) {id id' id'' : LazyId} {origin : Origin}
    {u : Schema} (h : schemas (.lazy id origin))
    (hu : plans.Gives id'' (.inverse second id' (.inverse first id origin)) u) :
    ∃ s, plans.Gives id origin s ∧ schemas s ∧ plans.Mirrors first second s u := by
  obtain ⟨t, ht, htu⟩ := hu.inverts
  obtain ⟨s, given, hst⟩ := ht.inverts
  have member := hs.behind h given
  exact ⟨s, given, member, Inverts.mirrors hs member hst htu⟩

/-! ## Tags -/

/-- The tags of one node or, if it has none, those of another. -/
theorem tags_orElse {s t s' t' : Schema} {m n : Nat} {tags tags' : List Datum}
    (hs : ∀ {tags tags'}, (s.tagValues (plans.tagsOf m)).Yields tags →
      (s'.tagValues (plans.tagsOf n)).Yields tags' → tags = tags')
    (ht : ∀ {tags tags'}, (t.tagValues (plans.tagsOf m)).Yields tags →
      (t'.tagValues (plans.tagsOf n)).Yields tags' → tags = tags')
    (h : ((Schema.pipeline s t).tagValues (plans.tagsOf m)).Yields tags)
    (h' : ((Schema.pipeline s' t').tagValues (plans.tagsOf n)).Yields tags') : tags = tags' := by
  obtain ⟨own, hown, h⟩ := h.bind
  obtain ⟨own', hown', h'⟩ := h'.bind
  cases hs hown hown'
  split at h
  · rw [if_pos ‹_›] at h'
    exact ht h h'
  · rw [if_neg ‹_›] at h'
    exact h.pure.symm.trans h'.pure

/-- The tags of a mirror are those of the schema. -/
theorem Mirrors.tagValues (hs : plans.Symmetric schemas) (m n : Nat) {s u : Schema}
    (h : schemas s) (hu : plans.Mirrors first second s u) {tags tags' : List Datum}
    (ht : (s.tagValues (plans.tagsOf m)).Yields tags)
    (ht' : (u.tagValues (plans.tagsOf n)).Yields tags') : tags = tags' := by
  induction m using Nat.strongRecOn generalizing n s u tags tags' with
  | ind m deeper =>
  induction s using Schema.child_induction generalizing u tags tags' with
  | step s ih =>
    replace ih := fun c hc {u} => @ih c hc u (hs.child h hc)
    cases hu
    case leaf leaf =>
      cases s <;> first | exact ht.pure.symm.trans ht'.pure | cases leaf
    case lazy id id' id'' origin =>
      cases m with
      | zero => exact absurd ht Run.not_yields_throw
      | succ m =>
        cases n with
        | zero => exact absurd ht' Run.not_yields_throw
        | succ n =>
          obtain ⟨t, given, ht⟩ := ht.bind
          obtain ⟨u, given', ht'⟩ := ht'.bind
          obtain ⟨s, givenS, member, hu⟩ := (gives_of_yields given').mirrors hs h
          cases (gives_of_yields given).unique givenS
          exact deeper m (Nat.lt_succ_self m) n member hu ht ht'
    case refinement action elidable s u hu =>
      obtain ⟨own, hown, ht'⟩ := ht'.bind
      cases ih s (by simp [Schema.children]) hu ht hown
      split at ht'
      · have none : [] = tags' := Run.Yields.pure ht'
        exact (List.isEmpty_iff.1 ‹_›).trans none
      · exact ht'.pure
    case optional s u hu | nullable s u hu =>
      obtain ⟨own, hown, ht⟩ := ht.bind
      obtain ⟨own', hown', ht'⟩ := ht'.bind
      cases ih s (by simp [Schema.children]) hu hown hown'
      exact ht.pure.symm.trans ht'.pure
    case readonly s u hu => exact ih s (by simp [Schema.children]) hu ht ht'
    case branded s name hu => exact ih s (by simp [Schema.children]) hu ht ht'
    case pipeline s u t u' hu hu' | invertible s u t u' parse format hu hu' =>
      exact tags_orElse (ih s (by simp [Schema.children]) hu) (ih t (by simp [Schema.children]) hu')
        ht ht'
    all_goals exact ht.pure.symm.trans ht'.pure

/-- Tables are made for objects only. -/
theorem tagTable_isObject {maker : Maker} {key : String} {position : Nat} {s : Schema}
    {rest : List Schema} {before table : List (Datum × Nat)}
    (h : (Schema.tagTable maker key position (s :: rest) before).Yields table) : s.isObject := by
  cases s
  case object => rfl
  all_goals
    simp only [Schema.tagTable] at h
    exact absurd h Run.not_yields_throw

theorem addTags_unique {key : String} {position : Nat} {values : List Datum}
    {table extended extended' : List (Datum × Nat)}
    (h : (Schema.addTags key position values table).Yields extended)
    (h' : (Schema.addTags key position values table).Yields extended') : extended = extended' :=
  Run.Yields.unique (Run.Law.addTags (L := Run.deeper) key position values table) h h'

/-- The table of mirrors is that of the schemas. -/
theorem tagTable_mirrors (hs : plans.Symmetric schemas) {owner owner' : LazyId} {m n : Nat}
    {key : String} {options options' : List Schema} (h : ∀ s ∈ options, schemas s)
    (hu : List.Forall₂ (plans.Mirrors first second) options options') {position : Nat}
    {before table table' : List (Datum × Nat)}
    (ht : (Schema.tagTable ⟨owner, plans.tagsOf m⟩ key position options before).Yields table)
    (ht' : (Schema.tagTable ⟨owner', plans.tagsOf n⟩ key position options' before).Yields table') :
    table = table' := by
  induction hu generalizing position before with
  | nil => exact ht.pure.symm.trans ht'.pure
  | cons hsu _ ih =>
    cases hsu
    case object shape shape' rest rest' policy hshape hrest =>
      simp only [Schema.tagTable] at ht ht'
      cases hfield : Schema.field? shape key with
      | none =>
        simp only [hfield] at ht
        exact absurd ht Run.not_yields_throw
      | some s =>
        obtain ⟨hmem, u, hfield', hsu⟩ := hshape.at_key hfield
        simp only [hfield, hfield'] at ht ht'
        obtain ⟨tags, htags, ht⟩ := ht.bind
        obtain ⟨tags', htags', ht'⟩ := ht'.bind
        have member := hs.child (h _ (List.mem_cons_self ..)) (List.mem_append_left _ hmem)
        cases hsu.tagValues hs m n member htags htags'
        split at ht
        · obtain ⟨_, failed, _⟩ := ht.bind
          exact absurd failed Run.not_yields_throw
        · rw [if_neg ‹_›] at ht'
          obtain ⟨extended, hadd, ht⟩ := ht.bind
          obtain ⟨extended', hadd', ht'⟩ := ht'.bind
          cases addTags_unique hadd hadd'
          exact ih (fun s hs => h s (by simp [hs])) ht ht'
    case leaf leaf =>
      rw [Schema.not_isLeaf_of_isObject (tagTable_isObject ht)] at leaf
      cases leaf
    all_goals cases tagTable_isObject ht

/-- A discriminated union and its mirror have the same table. -/
theorem Tabulates.mirrors (hs : plans.Symmetric schemas) {key : String}
    {options options' : List Schema} (h : ∀ s ∈ options, schemas s)
    (hu : List.Forall₂ (plans.Mirrors first second) options options')
    {table table' : List (Datum × Nat)} (ht : plans.Tabulates key options table)
    (ht' : plans.Tabulates key options' table') : table = table' := by
  obtain ⟨owner, m, ht⟩ := ht
  obtain ⟨owner', n, ht'⟩ := ht'
  exact tagTable_mirrors hs h hu ht ht'

end Plans
end TwoWay
