import TwoWay.Proofs.Inversion.Rules

/-!
# The tables of what is made

A discriminated union is never written down: it is made, by a constructor or by inverting
another, and its table with it. So the tags in what is made within some depth were all found
within that depth (`Plans.made_charted`). Behind the lazy nodes that were looked behind for
them stand schemas that were made within less.
-/

namespace TwoWay

def Schema.isTagged : Schema → Bool
  | .tagged .. => true
  | _ => false

/-- Whatever making gives has `Q`. -/
def Make.Grants {α : Type} (m : Make α) (Q : α → Prop) : Prop := ∀ a, m.Yields a → Q a

namespace Make.Grants

variable {α β : Type} {Q : α → Prop} {R : β → Prop}

theorem pure {a : α} (h : Q a) : Make.Grants (Pure.pure a) Q := fun _ hb => hb.pure ▸ h

theorem fail (f : Failure) : Make.Grants (Make.fail f) Q := fun _ h => absurd h not_yields_fail

theorem refuse (m : Malformed) : Make.Grants (Make.refuse m) Q :=
  fun _ h => absurd h not_yields_refuse

theorem bind {m : Make α} {k : α → Make β} (hm : m.Grants Q) (hk : ∀ a, Q a → (k a).Grants R) :
    Make.Grants (m >>= k) R := by
  intro b hb
  obtain ⟨a, ha, hb⟩ := hb.bind
  exact hk a (hm a ha) b hb

theorem andThen {m : Make α} {k : α → Make β} (hk : ∀ a, (k a).Grants R) :
    Make.Grants (m >>= k) R := bind (Q := fun _ => True) (fun _ _ => trivial) fun a _ => hk a

theorem map {m : Make α} {f : α → β} (hm : m.Grants Q) (h : ∀ a, Q a → R (f a)) :
    Make.Grants (f <$> m) R := bind hm fun a ha => pure (h a ha)

theorem lift {m : Run α} (h : ∀ a, m.Yields a → Q a) : Make.Grants (liftM m) Q :=
  fun a ha => h a ha.lift

end Make.Grants

namespace Plans

variable (plans : Plans) (n : Nat)

/-- The tags of the options can all be found within a depth. -/
def Tags (key : String) (options : List Schema) : Prop :=
  ∃ owner table, (Schema.tagTable ⟨owner, plans.tagsOf n⟩ key 0 options []).Yields table

/-- Trees for whose discriminated unions the tags can be found within a depth. -/
inductive Charted : Schema → Prop
  | intro {s : Schema} (parts : ∀ c ∈ s.children, Charted c)
    (tags : ∀ key options table, s = .tagged key options table → plans.Tags n key options) :
    Charted s

variable {plans} {n}

theorem Charted.parts {s c : Schema} (h : plans.Charted n s) (hc : c ∈ s.children) :
    plans.Charted n c := by
  cases h with
  | intro parts => exact parts c hc

theorem Charted.tags {key : String} {options : List Schema} {table : List (Datum × Nat)}
    (h : plans.Charted n (.tagged key options table)) : plans.Tags n key options := by
  cases h with
  | intro _ tags => exact tags key options table rfl

theorem Tags.deeper {m : Nat} {key : String} {options : List Schema} (h : plans.Tags m key options)
    (hn : m ≤ n) : plans.Tags n key options := by
  obtain ⟨owner, table, w, w', h⟩ := h
  obtain ⟨k, rfl⟩ := Nat.exists_eq_add_of_le hn
  have same : Run.deeper.Holds fun b => Schema.tagTable
      ⟨owner, plans.tagsOf (bif b then m + k else m)⟩ key 0 options [] :=
    Run.Law.tagTable (makes_deeper m k).tags key options 0 []
  refine ⟨owner, table, .of_result (w := w) ?_⟩
  have found := Run.result_ok.2 ⟨w', h⟩
  rcases same w w with deep | same
  · cases found.symm.trans deep
  · exact same.trans found

theorem Charted.deeper {m : Nat} {s : Schema} (h : plans.Charted m s) (hn : m ≤ n) :
    plans.Charted n s := by
  induction h with
  | intro _ tags ih => exact ⟨ih, fun key options table same => (tags _ _ _ same).deeper hn⟩

variable {s t : Schema} {options : List Schema} {settings : InversionSettings} {owner : LazyId}

/-- A node that is no discriminated union has no table of its own. -/
theorem Charted.node (h : s.isTagged = false) (parts : ∀ c ∈ s.children, plans.Charted n c) :
    plans.Charted n s := by
  refine ⟨parts, fun key options table same => ?_⟩
  subst same
  cases h

theorem ofTagged_charted (key : String) (ho : ∀ s ∈ options, plans.Charted n s) :
    Make.Grants (liftM (Schema.ofTagged ⟨owner, plans.tagsOf n⟩ key options))
      (plans.Charted n) := by
  refine .lift fun s hs => ?_
  obtain ⟨table, made, hs⟩ := hs.bind
  cases hs.pure
  refine ⟨ho, fun key' options' table' same => ?_⟩
  cases same
  exact ⟨owner, table, made⟩

/-! ## Inverses -/

theorem invertAll_charted {maker : Maker} {schemas : List Schema}
    (h : ∀ s ∈ schemas, (s.invertWith maker settings).Grants (plans.Charted n)) :
    (Schema.invertAll maker settings schemas).Grants fun ts => ∀ t ∈ ts, plans.Charted n t := by
  induction schemas with
  | nil => exact .pure (List.forall_mem_nil _)
  | cons s rest ih =>
    refine .bind (h s (List.mem_cons_self ..)) fun t ht => ?_
    refine .bind (ih fun s hs => h s (List.mem_cons_of_mem _ hs)) fun ts hts => ?_
    exact .pure (List.forall_mem_cons.2 ⟨ht, hts⟩)

theorem invertFields_charted {maker : Maker} {shape : List (String × Schema)}
    (h : ∀ f ∈ shape, (f.2.invertWith maker settings).Grants (plans.Charted n)) :
    (Schema.invertFields maker settings shape).Grants
      fun shape' => ∀ t ∈ shape'.map (·.2), plans.Charted n t := by
  induction shape with
  | nil => exact .pure (List.forall_mem_nil _)
  | cons f rest ih =>
    refine .bind (h f (List.mem_cons_self ..)) fun t ht => ?_
    refine .bind (ih fun f hf => h f (List.mem_cons_of_mem _ hf)) fun ts hts => ?_
    exact .pure (List.forall_mem_cons.2 ⟨ht, hts⟩)

theorem invertOption_charted {maker : Maker} {o : Option Schema} {β : Type}
    {k : Option Schema → Make β} {R : β → Prop}
    (h : ∀ s ∈ o.toList, (s.invertWith maker settings).Grants (plans.Charted n))
    (hk : ∀ o' : Option Schema, (∀ t ∈ o'.toList, plans.Charted n t) → (k o').Grants R) :
    Make.Grants (match o with
      | some s => some <$> s.invertWith maker settings >>= k
      | Option.none => Pure.pure Option.none >>= k) R := by
  cases o with
  | none => exact hk Option.none (List.forall_mem_nil _)
  | some s =>
    have inverted := Make.Grants.map (f := some) (R := fun o' => ∀ t ∈ o'.toList, plans.Charted n t)
      (h s (List.mem_singleton_self _)) fun t ht => List.forall_mem_singleton.2 ht
    exact .bind inverted hk

/-- The tables in an inverse are made with it. -/
theorem invertWith_charted (s : Schema) :
    (s.invertWith ⟨owner, plans.tagsOf n⟩ settings).Grants (plans.Charted n) := by
  have alone {s : Schema} (h : s.isTagged = false) (hc : s.children = []) : plans.Charted n s :=
    .node h (hc ▸ List.forall_mem_nil _)
  induction s using Schema.child_induction with
  | step s ih =>
    cases s <;> simp only [Schema.children, List.mem_append, List.mem_cons, List.mem_map,
      List.not_mem_nil, or_false, forall_eq, or_imp, forall_and] at ih
    case array | set =>
      exact .bind ih fun t ht => .pure (.node rfl (List.forall_mem_singleton.2 ht))
    case object shape catchall policy =>
      simp only [Schema.invertWith]
      refine .bind (invertFields_charted fun f hf => ih.1 f.2 ⟨f, hf, rfl⟩) fun shape' fields => ?_
      refine invertOption_charted ih.2 fun rest hrest => ?_
      exact .pure (.node rfl (List.forall_mem_append.2 ⟨fields, hrest⟩))
    case union => exact .bind (invertAll_charted ih) fun ts hts => .pure (.node rfl hts)
    case tagged key options table =>
      exact .bind (invertAll_charted ih) fun ts hts => ofTagged_charted key hts
    case intersection | record | map =>
      exact .bind ih.1 fun t ht => .bind ih.2 fun u hu =>
        .pure (.node rfl (by simpa [Schema.children] using ⟨ht, hu⟩))
    case tuple items rest =>
      simp only [Schema.invertWith]
      refine .bind (invertAll_charted ih.1) fun ts hts => ?_
      refine invertOption_charted ih.2 fun rest hrest => ?_
      exact .pure (.node rfl (List.forall_mem_append.2 ⟨hts, hrest⟩))
    case function items rest returns =>
      simp only [Schema.invertWith]
      refine .bind (invertAll_charted ih.1.1) fun ts hts => ?_
      refine invertOption_charted ih.1.2 fun rest hrest => .bind ih.2 fun t ht => ?_
      exact .pure (.node rfl (List.forall_mem_append.2 ⟨List.forall_mem_append.2 ⟨hts, hrest⟩,
        List.forall_mem_singleton.2 ht⟩))
    case lazy id origin => exact .andThen fun _ => .pure (alone rfl rfl)
    case effect kind action elidable inner =>
      cases kind with
      | refinement =>
        refine .bind ih fun t ht => .pure (.node rfl ?_)
        have gate : plans.Charted n (.effect .refinement action false .any) :=
          .node rfl (List.forall_mem_singleton.2 (alone rfl rfl))
        simpa [Schema.children] using ⟨gate, ht⟩
      | transform | preprocess =>
        simp only [Schema.invertWith]
        split
        · split
          · exact .andThen fun _ => ih
          · exact ih
        · exact .fail _
    case optional | nullable | promise | readonly =>
      exact .bind ih fun t ht => .andThen fun _ =>
        .pure (.node rfl (List.forall_mem_singleton.2 ht))
    case default | «catch» | branded => exact ih
    case pipeline =>
      exact .bind ih.2 fun t ht => .andThen fun _ => .bind ih.1 fun u hu =>
        .pure (.node rfl (by simpa [Schema.children] using ⟨ht, hu⟩))
    case invertible =>
      refine .bind ih.2 fun t ht => .bind ih.1 fun u hu => ?_
      unfold Schema.ofInvertible
      split
      · exact .pure (.node rfl (by simpa [Schema.children] using ⟨ht, hu⟩))
      · exact .refuse _
    case foreign kind =>
      simp only [Schema.invertWith]
      split
      · exact .pure (alone rfl rfl)
      · exact fun t h => passUnknown_yields h ▸ alone rfl rfl
    case raw => exact fun t h => passUnknown_yields h ▸ alone rfl rfl
    all_goals exact .pure (alone rfl rfl)

/-! ## Methods -/

theorem optionalFields_charted {shape : List (String × Schema)}
    (h : ∀ s ∈ shape.map (·.2), plans.Charted n s) :
    (Schema.optionalFields shape).Grants
      fun shape' => ∀ s ∈ shape'.map (·.2), plans.Charted n s := by
  induction shape with
  | nil => exact .pure (List.forall_mem_nil _)
  | cons f rest ih =>
    obtain ⟨hf, hrest⟩ := List.forall_mem_cons.1 h
    refine .andThen fun _ => .bind (ih hrest) fun shape' fields => .pure ?_
    exact List.forall_mem_cons.2 ⟨.node rfl (List.forall_mem_singleton.2 hf), fields⟩

end Plans

namespace Schema

theorem putField_subset (shape : List (String × Schema)) (key : String) (s : Schema) :
    putField shape key s ⊆ (key, s) :: shape := by
  induction shape with
  | nil => exact List.Subset.refl _
  | cons f rest ih =>
    obtain ⟨k, t⟩ := f
    unfold putField
    split
    · subst_vars
      exact List.cons_subset_cons _ (List.subset_cons_self _ _)
    · intro g hg
      rcases List.mem_cons.1 hg with rfl | hg
      · simp
      · rcases List.mem_cons.1 (ih hg) with rfl | hg
        · simp
        · simp [hg]

theorem putFields_subset (shape fields : List (String × Schema)) :
    putFields shape fields ⊆ shape ++ fields := by
  induction fields generalizing shape with
  | nil => simp [putFields]
  | cons f rest ih =>
    intro g hg
    rcases List.mem_append.1 (ih _ hg) with hg | hg
    · rcases List.mem_cons.1 (putField_subset shape f.1 f.2 hg) with rfl | hg
      · simp
      · simp [hg]
    · simp [hg]

theorem given_eq {s t : Schema} (h : s.given = some t) : s = t := by
  unfold given at h
  split at h
  · cases h
  · exact Option.some.inj h

theorem child?_mem {s t : Schema} (h : s.child? = some t) : t ∈ s.children := by
  cases s <;> cases h
  all_goals exact List.mem_singleton.2 rfl

theorem unwrapped?_mem {s t : Schema} (h : s.unwrapped? = some t) : t ∈ s.children := by
  cases s <;> cases h
  all_goals exact List.mem_singleton.2 rfl

end Schema

/-- The schemas among the arguments of a method. -/
def Method.schemas : Method Schema → List Schema
  | .pipe s | .or s | .and s | .withCatchall s | .withRest s | .withReturns s => [s]
  | .withArgs ss => ss
  | .extend fields => fields.map (·.2)
  | _ => []

namespace Plans

variable {plans : Plans} {n : Nat} {s : Schema} {owner : LazyId} {m : Method Schema}

theorem callCommon_charted (hs : plans.Charted n s) (hm : ∀ t ∈ m.schemas, plans.Charted n t) :
    (Schema.callCommon m s).Grants fun o => ∀ t, o = some t → plans.Charted n t := by
  have wrapped {t : Schema} (h : t.isTagged = false) (hc : t.children = [s]) :
      ∀ u, some t = some u → plans.Charted n u := by
    rintro u ⟨⟩
    exact .node h (hc ▸ List.forall_mem_singleton.2 hs)
  have joined {t other : Schema} (h : t.isTagged = false) (hc : t.children = [s, other])
      (ho : plans.Charted n other) : ∀ u, some t = some u → plans.Charted n u := by
    rintro u ⟨⟩
    exact .node h (by simpa [hc] using ⟨hs, ho⟩)
  cases m
  case pipe t | or t | and t => exact .pure (joined rfl rfl (hm t (List.mem_singleton_self _)))
  case brand | optional | nullable | readonly | promise | array | superRefine | transform
    | refine => exact .pure (wrapped rfl rfl)
  case default value factory =>
    simp only [Schema.callCommon]
    split
    · exact .pure (wrapped rfl rfl)
    · exact .refuse _
  case «catch» value factory =>
    simp only [Schema.callCommon]
    split
    · exact .pure (wrapped rfl rfl)
    · exact .refuse _
  all_goals
    refine .pure fun t h => ?_
    cases h

theorem callOwn_charted (hs : plans.Charted n s) (hm : ∀ t ∈ m.schemas, plans.Charted n t) :
    (Schema.callOwn ⟨owner, plans.tagsOf n⟩ m s).Grants
      fun o => ∀ t, o = some t → plans.Charted n t := by
  have given {t : Schema} (h : plans.Charted n t) : ∀ u, some t = some u → plans.Charted n u := by
    rintro u ⟨⟩
    exact h
  -- What is left out by `none` adds nothing.
  have optional {t : Schema} (h : plans.Charted n t) :
      ∀ u ∈ (Schema.given t).toList, plans.Charted n u := by
    intro u hu
    rw [Option.mem_toList] at hu
    exact Schema.given_eq hu ▸ h
  unfold Schema.callOwn
  split
  case h_3 => exact .andThen fun _ => .pure (given (.node rfl (List.forall_mem_nil _)))
  case h_4 | h_5 | h_6 | h_13 => exact .pure (given (.node rfl fun c hc => hs.parts hc))
  case h_14 t shape catchall policy =>
    refine .pure (given (.node rfl (List.forall_mem_append.2 ⟨fun c hc => ?_, optional ?_⟩)))
    · exact hs.parts (List.mem_append_left _ hc)
    · exact hm t (List.mem_singleton_self _)
  case h_15 fields shape catchall policy =>
    refine .pure (given (.node rfl (List.forall_mem_append.2 ⟨fun c hc => ?_, fun c hc => ?_⟩)))
    · obtain ⟨f, hf, rfl⟩ := List.mem_map.1 hc
      rcases List.mem_append.1 (Schema.putFields_subset shape fields hf) with hf | hf
      · exact hs.parts (List.mem_append_left _ (List.mem_map_of_mem hf))
      · exact hm f.2 (List.mem_map_of_mem hf)
    · exact hs.parts (List.mem_append_right _ hc)
  case h_16 shape catchall policy =>
    refine .bind (optionalFields_charted fun c hc => hs.parts (List.mem_append_left _ hc)) ?_
    refine fun shape' fields => .pure (given (.node rfl ?_))
    exact List.forall_mem_append.2 ⟨fields, fun c hc => hs.parts (List.mem_append_right _ hc)⟩
  case h_17 t items rest =>
    refine .pure (given (.node rfl (List.forall_mem_append.2 ⟨fun c hc => ?_, optional ?_⟩)))
    · exact hs.parts (List.mem_append_left _ hc)
    · exact hm t (List.mem_singleton_self _)
  case h_18 items items' rest returns =>
    refine .pure (given (.node rfl (List.forall_mem_append.2 ⟨fun c hc => ?_, fun c hc => ?_⟩)))
    · exact hm c (by simpa [Method.schemas] using hc)
    · exact hs.parts (List.mem_append_right _ hc)
  case h_19 t items rest returns =>
    refine .pure (given (.node rfl (List.forall_mem_append.2 ⟨fun c hc => ?_, ?_⟩)))
    · exact hs.parts (List.mem_append_left _ hc)
    · exact List.forall_mem_singleton.2 (hm t (List.mem_singleton_self _))
  case h_20 => exact .map (invertWith_charted _) fun t ht => given ht
  case h_21 | h_22 => exact .pure (given (hs.parts (List.mem_singleton_self _)))
  case h_23 => exact .pure fun t ht => hs.parts (Schema.unwrapped?_mem ht)
  case h_24 => exact .pure fun t ht => hs.parts (Schema.child?_mem ht)
  case h_25 =>
    refine .pure fun t h => ?_
    cases h
  all_goals exact .pure (given (.node rfl (List.forall_mem_nil _)))

theorem call_charted (hs : plans.Charted n s) (hm : ∀ t ∈ m.schemas, plans.Charted n t) :
    (Schema.call ⟨owner, plans.tagsOf n⟩ m s).Grants (plans.Charted n) := by
  unfold Schema.call
  split
  · exact .pure (.node rfl fun c hc => hs.parts hc)
  · exact .refuse _
  · dsimp only
    split
    · exact .fail _
    · refine .bind (callOwn_charted hs hm) fun own hown => ?_
      cases own with
      | some t => exact .pure (hown t rfl)
      | none =>
        refine .bind (callCommon_charted hs hm) fun common hcommon => ?_
        cases common with
        | some t => exact .pure (hcommon t rfl)
        | none => exact .fail _

/-! ## Blueprints -/

theorem given_charted {make : Make Schema} (h : make.Grants (plans.Charted n)) :
    Make.Grants (Schema.given <$> make) fun o => ∀ s ∈ o.toList, plans.Charted n s := by
  refine .map h fun s hs t ht => ?_
  rw [Option.mem_toList] at ht
  exact Schema.given_eq ht ▸ hs

theorem givenOr_charted {make : Make Schema} (h : make.Grants (plans.Charted n)) :
    Make.Grants ((fun s => s.given.getD Schema.unknown) <$> make) (plans.Charted n) := by
  refine .map h fun s hs => ?_
  cases hg : s.given with
  | none => exact .node rfl (List.forall_mem_nil _)
  | some t => exact Schema.given_eq hg ▸ hs

theorem functionOfTuple_charted {args returns : Schema} (ha : plans.Charted n args)
    (hr : plans.Charted n returns) :
    (Blueprint.functionOfTuple args returns).Grants (plans.Charted n) := by
  have alone {s : Schema} (h : s.isTagged = false) (hc : s.children = []) : plans.Charted n s :=
    .node h (hc ▸ List.forall_mem_nil _)
  have function {items : List Schema} {rest : Option Schema}
      (hi : ∀ c ∈ items ++ rest.toList, plans.Charted n c) :
      plans.Charted n (.function items rest returns) :=
    .node rfl (List.forall_mem_append.2 ⟨hi, List.forall_mem_singleton.2 hr⟩)
  unfold Blueprint.functionOfTuple
  split
  · exact .pure (function fun c hc => ha.parts hc)
  · exact .pure (function (List.forall_mem_singleton.2 (alone rfl rfl)))
  · split
    · refine .pure (function fun c hc => ?_)
      obtain ⟨v, -, rfl⟩ := List.mem_map.1 (by simpa using hc)
      exact alone rfl rfl
    · exact .fail _
  · exact .fail _

theorem recordOf_charted {key value : Schema} (hk : plans.Charted n key)
    (hv : plans.Charted n value) : plans.Charted n (Blueprint.recordOf key value) := by
  have text : plans.Charted n (.string {} Option.none) := .node rfl (List.forall_mem_nil _)
  unfold Blueprint.recordOf
  split
  · rename_i given
    cases Schema.given_eq given
    exact .node rfl (by simpa [Schema.children] using ⟨hk, hv⟩)
  · exact .node rfl (by simpa [Schema.children] using ⟨text, hk⟩)

variable {shared : String → Run Schema}

mutual

theorem build_charted (hs : ∀ name s, (shared name).Yields s → plans.Charted n s) :
    ∀ b : Blueprint, (b.build ⟨⟨owner, plans.tagsOf n⟩, shared⟩).Grants (plans.Charted n)
  | .array element | .set element | .promise element | .preprocess _ element _ => by
    simp only [Blueprint.build]
    exact .bind (build_charted hs element) fun s h =>
      .pure (.node rfl (List.forall_mem_singleton.2 h))
  | .object shape catchall policy => by
    simp only [Blueprint.build]
    refine .bind (buildFields_charted hs shape) fun fields hfields => ?_
    have object {rest : Option Schema} (hr : ∀ c ∈ rest.toList, plans.Charted n c) :
        Make.Grants (do
          let p ← Blueprint.unknownKeysOf policy
          pure (Schema.object (Schema.putFields [] fields) rest p)) (plans.Charted n) := by
      refine .andThen fun p => .pure (.node rfl (List.forall_mem_append.2 ⟨fun c hc => ?_, hr⟩))
      obtain ⟨f, hf, rfl⟩ := List.mem_map.1 hc
      exact hfields f.2 (List.mem_map_of_mem (by simpa using Schema.putFields_subset [] fields hf))
    match catchall with
    | none => exact object (List.forall_mem_nil _)
    | some c => exact .bind (given_charted (build_charted hs c)) fun rest hr => object hr
  | .union options => by
    simp only [Blueprint.build]
    refine .bind (buildAll_charted hs options) fun ss h => ?_
    unfold Schema.ofUnion
    split
    · exact .refuse _
    · exact .pure (.node rfl h)
  | .tagged key options => by
    simp only [Blueprint.build]
    exact .bind (buildAll_charted hs options) fun ss h => ofTagged_charted key h
  | .intersection left right | .map left right => by
    simp only [Blueprint.build]
    exact .bind (build_charted hs left) fun s h => .bind (build_charted hs right) fun t h' =>
      .pure (.node rfl (by simpa [Schema.children] using ⟨h, h'⟩))
  | .tuple items rest => by
    simp only [Blueprint.build]
    refine .bind (buildAll_charted hs items) fun ss h => ?_
    match rest with
    | none => exact .pure (.node rfl (by simpa [Schema.children] using h))
    | some r =>
      refine .bind (given_charted (build_charted hs r)) fun rest hr => ?_
      exact .pure (.node rfl (List.forall_mem_append.2 ⟨h, hr⟩))
  | .record key value => by
    unfold Blueprint.build
    match key with
    | none =>
      refine .bind (build_charted hs value) fun s h => .pure (.node rfl ?_)
      have text : plans.Charted n (.string {} Option.none) := .node rfl (List.forall_mem_nil _)
      simpa [Schema.children] using ⟨text, h⟩
    | some k =>
      exact .bind (build_charted hs k) fun s h => .bind (build_charted hs value) fun t h' =>
        .pure (recordOf_charted h h')
  | .function args returns => by
    unfold Blueprint.build
    have function {items : List Schema} {rest : Option Schema}
        (hi : ∀ c ∈ items ++ rest.toList, plans.Charted n c) : Make.Grants (match returns with
          | some r => do
            let s ← (fun s => s.given.getD Schema.unknown) <$>
              r.build ⟨⟨owner, plans.tagsOf n⟩, shared⟩
            pure (Schema.function items rest s)
          | none => do
            let s ← pure Schema.unknown
            pure (Schema.function items rest s) : Make Schema) (plans.Charted n) := by
      have returned {s : Schema} (h : plans.Charted n s) :
          Make.Grants (pure (Schema.function items rest s)) (plans.Charted n) :=
        .pure (.node rfl (List.forall_mem_append.2 ⟨hi, List.forall_mem_singleton.2 h⟩))
      match returns with
      | none => exact returned (.node rfl (List.forall_mem_nil _))
      | some r => exact .bind (givenOr_charted (build_charted hs r)) fun s h => returned h
    match args with
    | none =>
      exact function (List.forall_mem_singleton.2 (.node rfl (List.forall_mem_nil _)))
    | some items =>
      exact .bind (buildAll_charted hs items) fun ss h => function (by simpa using h)
  | .functionOf args returns => by
    unfold Blueprint.build
    refine .bind (build_charted hs args) fun s h => ?_
    match returns with
    | none => exact functionOfTuple_charted h (.node rfl (List.forall_mem_nil _))
    | some r =>
      exact .bind (givenOr_charted (build_charted hs r)) fun t h' => functionOfTuple_charted h h'
  | .lazy getter => by
    simp only [Blueprint.build]
    exact .andThen fun _ => .pure (.node rfl (List.forall_mem_nil _))
  | .invertible input parse output format => by
    simp only [Blueprint.build]
    refine .bind (build_charted hs input) fun s h => .bind (build_charted hs output) fun t h' => ?_
    unfold Blueprint.twoWay
    split
    · split
      · exact .pure (.node rfl (by simpa [Schema.children] using ⟨h, h'⟩))
      · exact .refuse _
    · exact .refuse _
  | .foreign kind isMember => by
    simp only [Blueprint.build]
    exact .andThen fun _ => .pure (.node rfl (List.forall_mem_nil _))
  | .shared name => by
    simp only [Blueprint.build]
    exact .lift (hs name)
  | .call base method => by
    simp only [Blueprint.build]
    exact .bind (build_charted hs base) fun s h => .bind (buildMethod_charted hs method)
      fun m hm => call_charted h hm
  | .enum values => by
    simp only [Blueprint.build]
    split
    · exact .refuse _
    · exact .pure (.node rfl (List.forall_mem_nil _))
  | .string | .number _ | .boolean | .none | .any | .unknown | .never | .literal _ | .kindless
  | .raw _ => .pure (.node rfl (List.forall_mem_nil _))

theorem buildAll_charted (hs : ∀ name s, (shared name).Yields s → plans.Charted n s) :
    ∀ bs : List Blueprint, (Blueprint.buildAll ⟨⟨owner, plans.tagsOf n⟩, shared⟩ bs).Grants
      fun ss => ∀ s ∈ ss, plans.Charted n s
  | [] => .pure (List.forall_mem_nil _)
  | b :: rest => .bind (build_charted hs b) fun _ h => .bind (buildAll_charted hs rest)
      fun _ hrest => .pure (List.forall_mem_cons.2 ⟨h, hrest⟩)

theorem buildFields_charted (hs : ∀ name s, (shared name).Yields s → plans.Charted n s) :
    ∀ fields : List (String × Blueprint),
      (Blueprint.buildFields ⟨⟨owner, plans.tagsOf n⟩, shared⟩ fields).Grants
        fun fs => ∀ s ∈ fs.map (·.2), plans.Charted n s
  | [] => .pure (List.forall_mem_nil _)
  | (_, b) :: rest => .bind (build_charted hs b) fun _ h => .bind (buildFields_charted hs rest)
      fun _ hrest => .pure (List.forall_mem_cons.2 ⟨h, hrest⟩)

theorem buildMethod_charted (hs : ∀ name s, (shared name).Yields s → plans.Charted n s) :
    ∀ m : Method Blueprint, (Blueprint.buildMethod ⟨⟨owner, plans.tagsOf n⟩, shared⟩ m).Grants
      fun m => ∀ s ∈ m.schemas, plans.Charted n s
  | .pipe s | .or s | .and s | .withCatchall s | .withRest s | .withReturns s => by
    simp only [Blueprint.buildMethod]
    exact .bind (build_charted hs s) fun _ h => .pure (List.forall_mem_singleton.2 h)
  | .withArgs ss => by
    simp only [Blueprint.buildMethod]
    exact .bind (buildAll_charted hs ss) fun _ h => .pure h
  | .extend fields => by
    simp only [Blueprint.buildMethod]
    exact .bind (buildFields_charted hs fields) fun _ h => .pure h
  | .min _ | .max _ | .regex _ | .brand _ | .nonempty | .positive | .negative | .nonnegative
  | .integer | .policy _ | .allOptional | .optional | .nullable | .readonly | .promise | .array
  | .inverse | .unwrap | .removeDefault | .removeCatch | .ignoreEffect | .inner | .superRefine _
  | .transform _ _ | .refine _ _ _ | .default _ _ | .catch _ _ => .pure (List.forall_mem_nil _)

end

/-! ## Lazy nodes -/

/-- The tags in what is made within a depth are found within that depth. -/
theorem made_charted (plans : Plans) (n : Nat) :
    (∀ id origin s, (plans.schemaOf n id origin).Yields s → plans.Charted n s) ∧
      ∀ name s, (plans.definitionOf n name).Yields s → plans.Charted n s := by
  induction n with
  | zero => exact ⟨fun _ _ _ h => absurd h Run.not_yields_throw,
      fun _ _ h => absurd h Run.not_yields_throw⟩
  | succ n ih =>
    have further {m : Make Schema} (hm : m.Grants (plans.Charted n)) {s : Schema}
        (h : (m.run' 0).Yields s) : plans.Charted (n + 1) s :=
      (hm s (.of_run h)).deeper (Nat.le_succ n)
    refine ⟨fun id origin s h => ?_, fun name s h => further (build_charted ih.2 _) h⟩
    cases origin with
    | getter fn => exact further (build_charted ih.2 _) h
    | inverse settings base of =>
      obtain ⟨t, -, h⟩ := Run.Yields.bind h
      exact further (invertWith_charted t) h

end Plans
end TwoWay
