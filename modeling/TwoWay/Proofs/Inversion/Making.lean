import TwoWay.Proofs.Forcing.Ensuring
import TwoWay.Proofs.Inversion.Shape

/-!
# What can be said of making an inverse

Inverting a tree is put together from checks, from the inverses of the parts and from making the
tables of discriminated unions. So what is said of runs and kept by every way of putting them
together passes to the inverse, if it holds of these tables and allows for the failures and log
records of the nodes in the tree (`Plans.Triple.inverting`). A table is made by looking behind the
lazy nodes in tag fields, so that it may also pass from these look-ups to the inverse
(`Plans.Triple.invertWith`).
-/

namespace TwoWay

/-- Whether inversion knows what to do with a node. -/
def Schema.isKnown : Schema → Bool
  | .foreign kind => kind.isLeaf
  | .raw _ => false
  | _ => true

/-- What putting a schema together can fail with: something is wrong with its parts, or a node is
of an unknown kind. -/
def Failure.isOfMaking : Failure → Bool
  | .malformed _ | .unknownKind _ | .fault (.unhashable _) | .fault (.noAttribute ..) => true
  | _ => false

namespace Plans

/-- A way to speak of runs and of what they give, which allows for certain failures and log
records. -/
structure Triple (plans : Plans) (ι : Type) where
  Holds : ∀ {α : Type}, (ι → Run α) → (α → Prop) → Prop
  allows : Failure → Prop
  logs : InversionEvent → Prop
  pure : ∀ {α : Type} {a : α} {Q : α → Prop}, Q a → Holds (fun _ => Pure.pure a) Q
  fail : ∀ {α : Type} {f : Failure} {Q : α → Prop}, allows f → Holds (fun _ => throw f) Q
  log : ∀ e : InversionEvent, logs e →
    Holds (fun _ => Run.record (.logged e)) fun _ => True
  bind : ∀ {α β : Type} {m : ι → Run α} {k : ι → α → Run β} {P : α → Prop} {Q : β → Prop},
    Holds m P → (∀ a, P a → Holds (fun i => k i a) Q) → Holds (fun i => m i >>= k i) Q
  /-- What is ensured anyway may be added. -/
  ensuring : ∀ {α : Type} {m : ι → Run α} {P Q : α → Prop},
    Holds m P → (∀ i, plans.Ensures (m i) Q) → Holds m Q

namespace Triple

variable {plans : Plans} {ι : Type} (T : plans.Triple ι) {α β : Type}

/-- What is said of making, whatever was counted before. -/
def Makes (m : ι → Make α) (Q : α → Prop) : Prop := ∀ n, T.Holds (fun i => m i n) fun p => Q p.1

/-- All failures of making are allowed for. -/
def Lenient : Prop := ∀ f : Failure, f.isOfMaking → T.allows f

variable {T}

namespace Makes

variable {Q : α → Prop} {R : β → Prop}

theorem pure {a : α} (h : Q a) : T.Makes (fun _ => Pure.pure a) Q := fun _ => T.pure h

theorem fail {f : Failure} (h : T.allows f) : T.Makes (fun _ => (Make.fail f : Make α)) Q :=
  fun _ => T.fail h

theorem bind {m : ι → Make α} {k : ι → α → Make β} (hm : T.Makes m Q)
    (hk : ∀ a, Q a → T.Makes (fun i => k i a) R) : T.Makes (fun i => m i >>= k i) R :=
  fun n => T.bind (hm n) fun p hp => hk p.1 hp p.2

theorem map {m : ι → Make α} (f : α → β) (h : T.Makes m Q) (hf : ∀ a, Q a → R (f a)) :
    T.Makes (fun i => f <$> m i) R :=
  bind h fun a ha => pure (hf a ha)

theorem lift {m : ι → Run α} (h : T.Holds m Q) : T.Makes (fun i => (liftM (m i) : Make α)) Q :=
  fun _ => T.bind h fun _ ha => T.pure ha

theorem weaken {m : ι → Make α} {P : α → Prop} (h : T.Makes m Q) (hq : ∀ a, Q a → P a) :
    T.Makes m P := by
  have same : m = fun i => m i >>= Pure.pure := by
    funext i
    exact (bind_pure (m i)).symm
  rw [same]
  exact bind h fun a ha => pure (hq a ha)

/-- What is given does not matter. -/
theorem plain {m : ι → Make α} (h : T.Makes m Q) : T.Makes m fun _ => True :=
  h.weaken fun _ _ => trivial

/-- What is made counts from zero. -/
theorem run {m : ι → Make α} (h : T.Makes m Q) : T.Holds (fun i => (m i).run' 0) Q := by
  simp only [StateT.run', ← bind_pure_comp]
  exact T.bind (h 0) fun _ hp => T.pure hp

end Makes

theorem requireHashable (h : ∀ t, T.allows (.fault (.unhashable t))) (v : Datum) :
    T.Holds (fun _ => Run.requireHashable v) fun _ => True := by
  unfold Run.requireHashable
  cases v.unhashable? with
  | some t => exact T.fail (h t)
  | none => exact T.pure trivial

/-- A run that gives the same everywhere and leaves worlds as they are. -/
theorem given {m : ι → Run α} {a : α} {Q : α → Prop} (h : ∀ i w, m i w = .ok a w) (hq : Q a) :
    T.Holds m Q := by
  have alike : m = fun _ => Pure.pure a := by
    funext i w
    exact h i w
  exact alike ▸ T.pure hq

theorem addTags {key : String} (hashable : ∀ t, T.allows (.fault (.unhashable t)))
    (repeated : ∀ v, T.allows (.malformed (.repeatedTagValue (Text.quoted key) v)))
    (position : Nat) (values : List Datum) (table : List (Datum × Nat)) :
    T.Holds (fun _ => Schema.addTags key position values table) fun _ => True := by
  induction values generalizing table with
  | nil => exact T.pure trivial
  | cons v rest ih =>
    refine T.bind (requireHashable hashable v) fun _ _ => ?_
    split
    · exact T.bind (P := fun _ => True) (T.fail (repeated _)) fun _ _ => ih _
    · exact ih _

section
variable {lookUp : ι → LazyId → Origin → Run (List Datum)}

theorem tagValues {s : Schema}
    (h : ∀ id origin, (id, origin) ∈ s.tagLazies →
      T.Holds (fun i => lookUp i id origin) fun _ => True) :
    T.Holds (fun i => s.tagValues (lookUp i)) fun _ => True := by
  induction s using Schema.child_induction with
  | step s ih =>
    cases s
    case lazy id origin => exact h id origin (List.mem_singleton_self _)
    case effect inner | branded inner _ | readonly inner | default inner _ | «catch» inner _ =>
      exact ih inner (by simp [Schema.children]) h
    case nullable inner | optional inner =>
      exact T.bind (ih inner (by simp [Schema.children]) h) fun _ _ => T.pure trivial
    case pipeline first second | invertible first _ second _ =>
      have before := ih first (by simp [Schema.children]) fun id origin hl =>
        h id origin (List.mem_append_left _ hl)
      have after := ih second (by simp [Schema.children]) fun id origin hl =>
        h id origin (List.mem_append_right _ hl)
      refine T.bind before fun values _ => ?_
      split
      · exact after
      · exact T.pure trivial
    all_goals exact T.pure trivial

theorem tagTable (lenient : T.Lenient) {owner : LazyId} {key : String} {options : List Schema}
    (h : ∀ shape catchall policy, .object shape catchall policy ∈ options →
      ∀ field, Schema.field? shape key = some field → ∀ id origin,
        (id, origin) ∈ field.tagLazies → T.Holds (fun i => lookUp i id origin) fun _ => True)
    (position : Nat) (table : List (Datum × Nat)) :
    T.Holds (fun i => Schema.tagTable ⟨owner, lookUp i⟩ key position options table)
      fun _ => True := by
  induction options generalizing position table with
  | nil => exact T.pure trivial
  | cons s rest ih =>
    have further := ih fun shape catchall policy hmem =>
      h shape catchall policy (List.mem_cons_of_mem _ hmem)
    cases s
    case object shape catchall policy =>
      simp only [Schema.tagTable]
      cases hfield : Schema.field? shape key with
      | none => exact T.fail (lenient _ rfl)
      | some field =>
        have values := tagValues (h shape catchall policy (List.mem_cons_self ..) field hfield)
        have added (values : List Datum) : T.Holds (fun i => do
            let made ← Schema.addTags key position values table
            Schema.tagTable ⟨owner, lookUp i⟩ key (position + 1) rest made) fun _ => True :=
          T.bind (addTags (fun _ => lenient _ rfl) (fun _ => lenient _ rfl) position values table)
            fun made _ => further (position + 1) made
        refine T.bind values fun values _ => ?_
        split
        · exact T.bind (P := fun _ => True) (T.fail (lenient _ rfl)) fun _ _ => added values
        · exact added values
    all_goals exact T.fail (lenient _ rfl)

end

/-! ## Inverses -/

variable {settings : InversionSettings} {R : β → Prop}

/-- The table of the inverses of options: it is that of the options as long as tags are `kept`, and
only otherwise may tags be repeated or be no keys. -/
theorem tagTable_mirrored {lookUp : ι → LazyId → Origin → Run (List Datum)} {kept : Prop}
    {key : String} {n : Nat} {owner owner' : LazyId} {options options' : List Schema}
    (inverted : List.Forall₂ (plans.Inverts settings) options options')
    (allowed : ¬kept → (∀ t, T.allows (.fault (.unhashable t))) ∧
      ∀ v, T.allows (.malformed (.repeatedTagValue (Text.quoted key) v)))
    (fields : ∀ {shape catchall policy field}, .object shape catchall policy ∈ options →
      Schema.field? shape key = some field → ∀ {values},
        (field.tagValues (plans.tagsOf n)).Yields values → ∀ {field'},
        plans.Inverts settings field field' → T.Holds (fun i => field'.tagValues (lookUp i))
          fun values' => (values' = [] → values = []) ∧ (kept → values' = values))
    {position : Nat} {before before' table : List (Datum × Nat)} (start : kept → before' = before)
    (made : (Schema.tagTable ⟨owner, plans.tagsOf n⟩ key position options before).Yields table) :
    T.Holds (fun i => Schema.tagTable ⟨owner', lookUp i⟩ key position options' before')
      fun table' => kept → table' = table := by
  induction inverted generalizing position before before' with
  | nil => exact T.pure fun h => (start h).trans made.pure
  | cons first _ ih =>
    cases first
    case object shape shape' rest rest' policy hshape hrest =>
      simp only [Schema.tagTable] at made ⊢
      cases hfield : Schema.field? shape key with
      | none =>
        simp only [hfield] at made
        exact absurd made Run.not_yields_throw
      | some field =>
        obtain ⟨-, field', hfield', inverts⟩ := hshape.at_key hfield
        simp only [hfield, hfield'] at made ⊢
        obtain ⟨values, hvalues, made⟩ := made.bind
        replace ih := @ih fun member => fields (List.mem_cons_of_mem _ member)
        refine T.bind (fields (List.mem_cons_self ..) hfield hvalues inverts) ?_
        rintro values' ⟨nonempty, same⟩
        split at made
        · obtain ⟨_, failed, _⟩ := made.bind
          exact absurd failed Run.not_yields_throw
        · rename_i filled
          have filled' : ¬values'.isEmpty := fun none =>
            filled (List.isEmpty_iff.2 (nonempty (List.isEmpty_iff.1 none)))
          simp only [if_neg filled']
          obtain ⟨extended, ⟨w, w', run⟩, made⟩ := made.bind
          by_cases h : kept
          · rw [same h, start h]
            refine T.bind (P := Eq extended) (given (fun _ u => Schema.addTags_anywhere run u) rfl)
              fun extended' alike => ?_
            exact ih (fun _ => alike.symm) made
          · obtain ⟨hashable, repeated⟩ := allowed h
            exact T.bind (addTags hashable repeated position values' before') fun _ _ =>
              ih (fun k => absurd k h) made
    case leaf leaf =>
      rw [Schema.not_isLeaf_of_isObject (tagTable_isObject made)] at leaf
      cases leaf
    all_goals cases tagTable_isObject made

namespace Makes

theorem requireMethod {s : Schema} (h : s.isSchema ∨ T.Lenient) (name : String) :
    T.Makes (fun _ => Schema.requireMethod s name) fun _ => True := by
  unfold Schema.requireMethod
  split
  · exact pure trivial
  · exact fail (h.resolve_left ‹_› _ rfl)

theorem passUnknown {name : String} {s : Schema} (failed : T.allows (.unknownKind name))
    (passed : T.logs (.kindPassedThrough name s.className)) :
    T.Makes (fun _ => Schema.passUnknown settings name s) fun _ => True := by
  unfold Schema.passUnknown
  split
  · exact fail failed
  · exact bind (lift (T.log _ passed)) fun _ _ => pure trivial

theorem ofInvertible {input output : Schema} (hi : input.isSchema ∨ T.Lenient)
    (ho : output.isSchema ∨ T.Lenient) (parse format : FunctionRef) :
    T.Makes (fun _ => Schema.ofInvertible input parse output format) fun _ => True := by
  unfold Schema.ofInvertible
  split
  · exact pure trivial
  · rename_i raw
    refine fail ?_
    rcases hi with hi | lenient
    · rcases ho with ho | lenient
      · simp [hi, ho] at raw
      · exact lenient _ rfl
    · exact lenient _ rfl

theorem invertAll {maker : ι → Maker} {schemas : List Schema}
    (h : ∀ s ∈ schemas, T.Makes (fun i => s.invertWith (maker i) settings)
      (plans.Inverts settings s)) :
    T.Makes (fun i => Schema.invertAll (maker i) settings schemas)
      (List.Forall₂ (plans.Inverts settings) schemas) := by
  induction schemas with
  | nil => exact pure .nil
  | cons s rest ih =>
    refine bind (h s (List.mem_cons_self ..)) fun t ht => ?_
    exact bind (ih fun s hs => h s (List.mem_cons_of_mem _ hs)) fun ts hts => pure (.cons ht hts)

theorem invertFields {maker : ι → Maker} {shape : List (String × Schema)}
    (h : ∀ f ∈ shape, T.Makes (fun i => f.2.invertWith (maker i) settings)
      (plans.Inverts settings f.2)) :
    T.Makes (fun i => Schema.invertFields (maker i) settings shape) fun _ => True := by
  induction shape with
  | nil => exact pure trivial
  | cons f rest ih =>
    refine bind (h f (List.mem_cons_self ..)) fun t ht => ?_
    exact bind (ih fun f hf => h f (List.mem_cons_of_mem _ hf)) fun _ _ => pure trivial

theorem invertOption {maker : ι → Maker} {o : Option Schema} {k : ι → Option Schema → Make β}
    (h : ∀ s, o = some s → T.Makes (fun i => s.invertWith (maker i) settings)
      (plans.Inverts settings s))
    (hk : ∀ o', T.Makes (fun i => k i o') R) :
    T.Makes (fun i => match o with
      | some s => some <$> s.invertWith (maker i) settings >>= k i
      | Option.none => Pure.pure Option.none >>= k i) R := by
  cases o with
  | none => exact hk Option.none
  | some s =>
    exact bind (map (R := fun _ => True) some (h s rfl) fun _ _ => trivial) fun o' _ => hk o'

end Makes

end Triple

/-- What inverting gives in a faithful world follows the rules. -/
theorem invertWith_ensures {plans : Plans} {settings : InversionSettings} {s : Schema}
    (depth : Nat) (owner : LazyId) (n : Nat) :
    plans.Ensures (s.invertWith ⟨owner, plans.tagsBehind depth⟩ settings n)
      fun p => plans.Inverts settings s p.1 := by
  intro w hw
  have inverted : plans.remembering.Holds (beside
      (s.invertWith ⟨owner, plans.tagsBehind depth⟩ settings n)
      fun k => s.invertWith ⟨owner, plans.tagsOf k⟩ settings n) :=
    holds_beside (Run.Law.invertWith (remembers depth).tagsBehind s n)
  obtain ⟨hfinal, hresult⟩ := inverted w hw
  refine ⟨hfinal.faithful, fun p hp => ?_⟩
  simp only [beside, hp, reduceCtorEq, false_or] at hresult
  obtain ⟨k, hk⟩ := hresult
  exact invertWith_inverts ⟨n, p.2, .of_result (hk k (Nat.le_refl k) {})⟩

/-- Schemas whose effects are refinements, and in which what looks like the inverse of an object
among the options of a discriminated union is one. -/
structure Refined (plans : Plans) (settings : InversionSettings) (schemas : Schema → Prop) :
    Prop where
  child : ∀ s, schemas s → ∀ c ∈ s.children, schemas c
  refinement : ∀ kind action elidable inner, schemas (.effect kind action elidable inner) →
    kind = .refinement
  objects : ∀ key options table, schemas (.tagged key options table) → ∀ s ∈ options,
    ∀ shape rest policy, plans.Inverts settings s (.object shape rest policy) → s.isObject

variable {plans : Plans} {settings : InversionSettings}

/-- An inverse that is an object inverts an object field by field. -/
theorem Inverts.fieldwise {shape shape' : List (String × Schema)} {rest rest' : Option Schema}
    {policy policy' : UnknownKeys}
    (h : plans.Inverts settings (.object shape rest policy) (.object shape' rest' policy')) :
    Schema.Fieldwise (plans.Inverts settings) shape shape' := by
  cases h
  case object fields _ => exact fields
  case leaf leaf => cases leaf

namespace Triple

variable {ι : Type} {T : plans.Triple ι} {schemas : Schema → Prop}

theorem Makes.inverts {depth : ι → Nat} {owner : LazyId} {s : Schema}
    (h : T.Makes (fun i => s.invertWith ⟨owner, plans.tagsBehind (depth i)⟩ settings)
      fun _ => True) :
    T.Makes (fun i => s.invertWith ⟨owner, plans.tagsBehind (depth i)⟩ settings)
      (plans.Inverts settings s) :=
  fun n => T.ensuring (h n) fun i => invertWith_ensures (depth i) owner n

variable (T) in
/-- What the nodes of a family of schemas need: all failures of their own and all records that they
leave are allowed for, and the tables of their unions can be spoken of. -/
structure Covers (settings : InversionSettings) (schemas : Schema → Prop) (depth : ι → Nat) :
    Prop where
  child : ∀ s, schemas s → ∀ c ∈ s.children, schemas c
  part : ∀ s t, schemas s → plans.Inverts settings s t → t.isSchema ∨ T.Lenient
  elided : ∀ kind action elidable inner, schemas (.effect kind action elidable inner) →
    kind = .refinement ∨
      if elidable then T.logs (.effectElided kind) else T.allows (.oneWay kind)
  unknown : ∀ s, schemas s → s.isKnown = false → ∀ name,
    T.allows (.unknownKind name) ∧ T.logs (.kindPassedThrough name s.className)
  union : ∀ key options table, schemas (.tagged key options table) → ∀ options',
    List.Forall₂ (plans.Inverts settings) options options' → ∀ owner, T.Holds
      (fun i => Schema.ofTagged ⟨owner, plans.tagsBehind (depth i)⟩ key options') fun _ => True

/-- What covers the nodes of a tree holds of inverting it. -/
theorem inverting {depth : ι → Nat} (h : T.Covers settings schemas depth) {owner : LazyId}
    {s : Schema} (hs : schemas s) :
    T.Makes (fun i => s.invertWith ⟨owner, plans.tagsBehind (depth i)⟩ settings)
      (plans.Inverts settings s) := by
  induction s using Schema.child_induction with
  | step s ih =>
    -- What is given follows the rules of inversion: the rest is said of whatever is given.
    refine Makes.inverts ?_
    replace ih := fun c hc => ih c hc (h.child s hs c hc)
    have part := fun c hc t (ht : plans.Inverts settings c t) => h.part c t (h.child s hs c hc) ht
    cases s <;> simp only [Schema.children, List.mem_append, List.mem_cons, List.mem_map,
      Option.mem_toList, List.not_mem_nil, or_false, forall_eq, or_imp, forall_and] at ih part
    case array | set => exact .bind ih fun _ _ => .pure trivial
    case object shape catchall policy =>
      simp only [Schema.invertWith]
      refine .bind (.invertFields fun f hf => ih.1 f.2 ⟨f, hf, rfl⟩) fun _ _ => ?_
      exact .invertOption ih.2 fun _ => .pure trivial
    case union => exact .bind (.invertAll ih) fun _ _ => .pure trivial
    case tagged key options table =>
      exact .bind (.invertAll ih) fun options' inverted =>
        .lift (h.union key options table hs options' inverted owner)
    case intersection | record | map =>
      exact .bind ih.1 fun _ _ => .bind ih.2 fun _ _ => .pure trivial
    case tuple items rest =>
      simp only [Schema.invertWith]
      exact .bind (.invertAll ih.1) fun _ _ => .invertOption ih.2 fun _ => .pure trivial
    case function items rest returns =>
      simp only [Schema.invertWith]
      refine .bind (.invertAll ih.1.1) fun _ _ => ?_
      exact .invertOption ih.1.2 fun _ => .bind ih.2 fun _ _ => .pure trivial
    case lazy id origin =>
      exact fun n => T.pure (a := (Schema.lazy (.within owner n) _, n + 1)) trivial
    case effect kind action elidable inner =>
      cases kind with
      | refinement => exact .bind ih fun _ _ => .pure trivial
      | transform | preprocess =>
        have allowed := (h.elided _ _ _ _ hs).resolve_left (by simp)
        simp only [Schema.invertWith]
        split
        · rw [if_pos ‹_›] at allowed
          split
          · exact .bind (.lift (T.log _ allowed)) fun _ _ => ih.plain
          · exact ih.plain
        · rw [if_neg ‹_›] at allowed
          exact .fail allowed
    case optional | nullable | promise | readonly =>
      exact .bind ih fun t ht => .bind (.requireMethod (part t ht) _) fun _ _ => .pure trivial
    case default | «catch» | branded => exact ih.plain
    case pipeline =>
      refine .bind ih.2 fun t ht => .bind (.requireMethod (part.2 t ht) _) fun _ _ => ?_
      exact .bind ih.1 fun _ _ => .pure trivial
    case invertible =>
      exact .bind ih.2 fun t ht => .bind ih.1 fun t' ht' =>
        .ofInvertible (part.2 t ht) (part.1 t' ht') _ _
    case foreign kind =>
      simp only [Schema.invertWith]
      split
      · exact .pure trivial
      · rename_i other
        obtain ⟨failed, passed⟩ := h.unknown _ hs (Bool.eq_false_iff.2 other) (kind.name _)
        exact .passUnknown failed passed
    case raw value =>
      obtain ⟨failed, passed⟩ := h.unknown _ hs rfl (Schema.raw value).className
      exact .passUnknown failed passed
    all_goals exact .pure trivial

/-- What holds of looking behind the inverses of the lazy nodes in tag fields holds of inverting
the tree. -/
theorem invertWith (lenient : T.Lenient)
    (passes : ∀ kind name, T.logs (.kindPassedThrough kind name))
    (hp : plans.Refined settings schemas) {depth : ι → Nat} {owner : LazyId} {s : Schema}
    (hs : schemas s)
    (hl : ∀ id origin, s.TagLazy id origin → ∀ id', T.Holds
      (fun i => plans.tagsBehind (depth i) id' (.inverse settings id origin)) fun _ => True) :
    T.Makes (fun i => s.invertWith ⟨owner, plans.tagsBehind (depth i)⟩ settings)
      (plans.Inverts settings s) := by
  let looked (t : Schema) : Prop := ∀ id origin, t.TagLazy id origin → ∀ id', T.Holds
    (fun i => plans.tagsBehind (depth i) id' (.inverse settings id origin)) fun _ => True
  suffices covers : T.Covers settings (fun t => schemas t ∧ looked t) depth from
    inverting covers ⟨hs, hl⟩
  refine {
    child := fun t ht c hc =>
      ⟨hp.child t ht.1 c hc, fun id origin h => ht.2 id origin (.inside hc h)⟩
    part := fun _ _ _ _ => .inr lenient
    elided := fun kind action elidable inner ht => .inl (hp.refinement _ _ _ _ ht.1)
    unknown := fun t _ _ name => ⟨lenient _ rfl, passes _ _⟩
    union := fun key options table ht options' inverted owner => ?_ }
  refine T.bind (tagTable lenient ?_ 0 []) fun _ _ => T.pure trivial
  intro shape' catchall' policy' member field' found id' origin' behind
  obtain ⟨option, member, related⟩ := forall₂_right inverted member
  have object := hp.objects _ _ _ ht.1 option member _ _ _ related
  cases option <;> try cases object
  obtain ⟨-, field, declared, related⟩ := related.fieldwise.swap.at_key found
  obtain ⟨id, origin, ahead, rfl⟩ := related.tagLazies behind
  exact ht.2 id origin (.union member declared ahead) id'

end Triple
end Plans
end TwoWay
