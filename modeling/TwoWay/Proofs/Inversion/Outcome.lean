import TwoWay.Proofs.Inversion.Rules

/-!
# How inversion ends

Inversion visits the nodes of a tree in a fixed order and never enters a lazy node. The first
node with an obstacle, an effect that may not be dropped or a node of a kind that is not known,
is what it fails with; without one it gives a tree. What it logs on the way is told by the nodes
before the obstacle (`Library.invert_outcome`). Nothing that is checked when the inverse is put
together can fail: the inverses of schemas are schemas, and the options of a discriminated union
keep their tags, so that its table comes out as before.
-/

namespace TwoWay

/-- The world after events of an inversion, in their order. -/
def World.logging (events : List InversionEvent) (w : World) : World :=
  events.foldl (fun w e => w.record (.logged e)) w

theorem World.logging_append (before after : List InversionEvent) (w : World) :
    w.logging (before ++ after) = (w.logging before).logging after := List.foldl_append

namespace Schema

/-- The children of a node in the order in which they are inverted: what turns around is
inverted from its far end. -/
def inTurn : Schema → List Schema
  | .pipeline input output | .invertible input _ output _ => [output, input]
  | s => s.children

theorem mem_inTurn {s c : Schema} : c ∈ s.inTurn ↔ c ∈ s.children := by
  cases s
  case pipeline | invertible =>
    simp only [inTurn, children, List.mem_cons, List.not_mem_nil, or_false]
    exact or_comm
  all_goals rfl

/-- The nodes of a tree in the order in which inversion visits them, each before those in it. -/
def visited (s : Schema) : List Schema := s :: s.inTurn.attach.flatMap fun c => c.1.visited
  termination_by sizeOf s
  decreasing_by exact sizeOf_child_lt (mem_inTurn.1 c.2)

theorem visited_eq (s : Schema) : s.visited = s :: s.inTurn.flatMap visited := by
  rw [visited, List.flatMap_subtype fun _ _ => rfl, List.unattach_attach]

theorem mem_visited_self (s : Schema) : s ∈ s.visited := by
  rw [visited_eq]
  exact List.mem_cons_self ..

theorem visited_child_subset {s c : Schema} (h : c ∈ s.children) : c.visited ⊆ s.visited := by
  intro n hn
  rw [visited_eq s]
  exact List.mem_cons_of_mem _ (List.mem_flatMap.2 ⟨c, mem_inTurn.2 h, hn⟩)

section
variable (settings : InversionSettings)

/-- Why inversion cannot get past a node. -/
def obstacle? : Schema → Option Failure
  | .effect .refinement .. => Option.none
  | .effect kind _ elidable _ => if elidable then Option.none else some (.oneWay kind)
  | .foreign kind =>
    if kind.isLeaf then Option.none
    else match settings.unknownKind with
      | .error => some (.unknownKind (kind.name (foreign kind).className))
      | .passthrough => Option.none
  | _ => Option.none

/-- What inversion logs about a node that it gets past. -/
def note? : Schema → Option InversionEvent
  | .effect .refinement .. => Option.none
  | .effect kind _ elidable _ =>
    if elidable && settings.logElisions then some (.effectElided kind) else Option.none
  | .foreign kind =>
    if kind.isLeaf then Option.none
    else match settings.unknownKind with
      | .error => Option.none
      | .passthrough =>
        some (.kindPassedThrough (kind.name (foreign kind).className) (foreign kind).className)
  | _ => Option.none

/-- The first obstacle among nodes. -/
def firstObstacle? (nodes : List Schema) : Option Failure := nodes.findSome? (obstacle? settings)

/-- What inversion logs about nodes, up to the first with an obstacle. -/
def notes (nodes : List Schema) : List InversionEvent :=
  (nodes.takeWhile fun n => (n.obstacle? settings).isNone).filterMap (note? settings)

end

section
variable {settings : InversionSettings} {nodes more : List Schema}

theorem firstObstacle?_append_none (h : firstObstacle? settings nodes = Option.none) :
    firstObstacle? settings (nodes ++ more) = firstObstacle? settings more := by
  unfold firstObstacle? at h ⊢
  rw [List.findSome?_append, h, Option.none_or]

theorem firstObstacle?_append_some {f : Failure}
    (h : firstObstacle? settings nodes = some f) :
    firstObstacle? settings (nodes ++ more) = some f := by
  unfold firstObstacle? at h ⊢
  rw [List.findSome?_append, h, Option.some_or]

theorem firstObstacle?_cons {s : Schema} (h : s.obstacle? settings = Option.none) :
    firstObstacle? settings (s :: nodes) = firstObstacle? settings nodes := by
  simp [firstObstacle?, h]

theorem notes_cons {s : Schema} (h : s.obstacle? settings = Option.none) :
    notes settings (s :: nodes) = (s.note? settings).toList ++ notes settings nodes := by
  unfold notes
  rw [List.takeWhile_cons_of_pos (by simp [h])]
  cases hn : s.note? settings <;> simp [hn]

theorem notes_cons_obstacle {s : Schema} {f : Failure} (h : s.obstacle? settings = some f) :
    notes settings (s :: nodes) = [] := by
  simp [notes, h]

theorem notes_append_none (h : firstObstacle? settings nodes = Option.none) :
    notes settings (nodes ++ more) = notes settings nodes ++ notes settings more := by
  induction nodes with
  | nil => rfl
  | cons s rest ih =>
    have first : s.obstacle? settings = Option.none :=
      List.findSome?_eq_none_iff.1 h s List.mem_cons_self
    rw [firstObstacle?_cons first] at h
    rw [List.cons_append, notes_cons first, notes_cons first, ih h, List.append_assoc]

theorem notes_append_some {f : Failure} (h : firstObstacle? settings nodes = some f) :
    notes settings (nodes ++ more) = notes settings nodes := by
  induction nodes with
  | nil => cases h
  | cons s rest ih =>
    cases first : s.obstacle? settings with
    | some g => rw [List.cons_append, notes_cons_obstacle first, notes_cons_obstacle first]
    | none =>
      rw [firstObstacle?_cons first] at h
      rw [List.cons_append, notes_cons first, notes_cons first, ih h]

end

/-! ## Tags -/

/-- The tags of literals, enums and `none`, seen through wrappers and refinements. -/
def plainTags? : Schema → Option (List Datum)
  | .literal value => some [value]
  | .enum values => some values
  | .none => some [.none]
  | .effect .refinement _ _ inner | .branded inner _ | .readonly inner | .default inner _
  | .catch inner _ => inner.plainTags?
  | .nullable inner => inner.plainTags?.map (· ++ [.none])
  | .optional inner => inner.plainTags?.map (· ++ [.missing])
  | _ => Option.none

/-- The second schema has the tags of the first, if these are plain to see. -/
def TagsAs (s t : Schema) : Prop :=
  ∀ tags, s.plainTags? = some tags → ∀ lazyTags, t.tagValues lazyTags = pure tags

theorem tagsAs_self (s : Schema) : s.TagsAs s := by
  induction s using child_induction with
  | step s ih =>
    intro tags h lazyTags
    cases s
    case literal | «enum» | none =>
      cases h
      rfl
    case effect kind action elidable inner =>
      cases kind with
      | refinement => exact ih inner (List.mem_singleton.2 rfl) tags h lazyTags
      | transform | preprocess => cases h
    case branded inner _ | readonly inner | default inner _ | «catch» inner _ =>
      exact ih inner (List.mem_singleton.2 rfl) tags h lazyTags
    case nullable inner | optional inner =>
      obtain ⟨own, hown, rfl⟩ := Option.map_eq_some_iff.1 h
      have same := ih inner (List.mem_singleton.2 rfl) own hown lazyTags
      simp only [tagValues, same, pure_bind]
    all_goals cases h

/-- What the inverse of a schema has in common with it. -/
structure Reflects (s t : Schema) : Prop where
  isSchema : t.isSchema
  tags : s.TagsAs t
  fields : ∀ {shape catchall policy}, s = .object shape catchall policy →
    ∃ shape' catchall', t = .object shape' catchall' policy ∧
      ∀ key field, field? shape key = some field →
        ∃ field', field? shape' key = some field' ∧ field.TagsAs field'

/-- A node that is no object has only its tags in common with its inverse. -/
theorem Reflects.ofTags {s t : Schema} (ht : t.isSchema) (tags : s.TagsAs t)
    (ho : s.isObject = false) : s.Reflects t where
  isSchema := ht
  tags := tags
  fields := by
    rintro shape catchall policy rfl
    cases ho

/-- A node that is no object and shows no tags has nothing but a schema for its inverse. -/
theorem Reflects.ofSchema {s t : Schema} (ht : t.isSchema) (hs : s.plainTags? = Option.none)
    (ho : s.isObject = false) : s.Reflects t := by
  refine .ofTags ht (fun tags h => ?_) ho
  rw [hs] at h
  cases h

/-- The union is the one that is made of its options, and their tags are plain to see. -/
structure ProperUnion (key : String) (options : List Schema) (table : List (Datum × Nat)) :
    Prop where
  plain : ∀ {shape catchall policy}, .object shape catchall policy ∈ options →
    ∀ {field}, field? shape key = some field → field.plainTags?.isSome
  made : ∃ maker w w', ofTagged maker key options w = .ok (.tagged key options table) w'

/-- A tree of schemas, in which discriminated unions are proper. -/
structure Proper (s : Schema) : Prop where
  schemas : ∀ n ∈ s.visited, n.isSchema
  unions : ∀ {key options table}, .tagged key options table ∈ s.visited →
    ProperUnion key options table

theorem Proper.child {s c : Schema} (h : s.Proper) (hc : c ∈ s.children) : c.Proper where
  schemas n hn := h.schemas n (visited_child_subset hc hn)
  unions hn := h.unions (visited_child_subset hc hn)

/-! ## Tables -/

/-- The table of options whose tags are plain to see is the table of what reflects them,
whoever makes it and wherever. -/
theorem tagTable_reflects {key : String} {options options' : List Schema}
    (hr : List.Forall₂ Reflects options options')
    (hp : ∀ {shape catchall policy}, .object shape catchall policy ∈ options →
      ∀ {field}, field? shape key = some field → field.plainTags?.isSome)
    {maker : Maker} {position : Nat} {table made : List (Datum × Nat)} {w w' : World}
    (h : tagTable maker key position options table w = .ok made w') (maker' : Maker) (u : World) :
    tagTable maker' key position options' table u = .ok made u := by
  induction hr generalizing position table w with
  | nil =>
    cases h
    rfl
  | cons first rest ih =>
    rename_i s t more more'
    cases s
    case object shape catchall policy =>
      obtain ⟨shape', catchall', rfl, fields⟩ := first.fields rfl
      simp only [tagTable] at h ⊢
      cases hfield : field? shape key with
      | none =>
        rw [hfield] at h
        cases h
      | some field =>
        obtain ⟨field', hfield', same⟩ := fields key field hfield
        obtain ⟨tags, htags⟩ := Option.isSome_iff_exists.1 (hp List.mem_cons_self hfield)
        rw [hfield] at h
        rw [hfield']
        simp only [tagsAs_self field tags htags, same tags htags, pure_bind] at h ⊢
        split at h
        · cases h
        · rename_i nonempty
          obtain ⟨table', w₁, hadd, h⟩ := Run.bind_ok.1 h
          rw [if_neg nonempty]
          refine Run.bind_ok.2 ⟨table', u, addTags_anywhere hadd u, ?_⟩
          exact ih (fun hs => hp (List.mem_cons_of_mem _ hs)) h
    all_goals cases h

theorem ProperUnion.reflected {key : String} {options options' : List Schema}
    {table : List (Datum × Nat)} (h : ProperUnion key options table)
    (hr : List.Forall₂ Reflects options options') (maker : Maker) (u : World) :
    ofTagged maker key options' u = .ok (.tagged key options' table) u := by
  obtain ⟨own, w, w', made⟩ := h.made
  obtain ⟨table', w₁, htable, made⟩ := Run.bind_ok.1 made
  cases made
  exact Run.bind_ok.2 ⟨table, u, tagTable_reflects hr h.plain htable maker u, rfl⟩

/-! ## Visits -/

/-- Making visits nodes: it fails with the first obstacle among them, or makes something of a
kind, and it has logged what is told by the nodes up to there. -/
def Visits (settings : InversionSettings) (nodes : List Schema) {α : Type} (m : Make α)
    (Q : α → Prop) : Prop :=
  ∀ n w, match firstObstacle? settings nodes with
    | some f => m n w = .error f (w.logging (notes settings nodes))
    | Option.none => ∃ a n', m n w = .ok (a, n') (w.logging (notes settings nodes)) ∧ Q a

namespace Visits

variable {settings : InversionSettings} {nodes more : List Schema} {α β : Type}
  {m : Make α} {k : α → Make β} {Q : α → Prop} {R : β → Prop}

theorem pure {a : α} (h : Q a) : Visits settings [] (Pure.pure a : Make α) Q :=
  fun n _ => ⟨a, n, rfl, h⟩

theorem bind (hm : Visits settings nodes m Q) (hk : ∀ a, Q a → Visits settings more (k a) R) :
    Visits settings (nodes ++ more) (m >>= k) R := by
  intro n w
  have first := hm n w
  cases h : firstObstacle? settings nodes with
  | some f =>
    simp only [h] at first
    simp only [firstObstacle?_append_some h, notes_append_some h]
    exact Run.bind_error.2 (.inl first)
  | none =>
    simp only [h] at first
    obtain ⟨a, n', ha, hQ⟩ := first
    have goes : (m >>= k) n w = k a n' (w.logging (notes settings nodes)) := by
      change EStateM.bind (m n) (fun p => k p.1 p.2) w = _
      simp only [EStateM.bind, ha]
    rw [firstObstacle?_append_none h, notes_append_none h, World.logging_append, goes]
    exact hk a hQ n' _

theorem trim (h : Visits settings (nodes ++ []) m Q) : Visits settings nodes m Q := by
  rwa [List.append_nil] at h

theorem weaken {Q' : α → Prop} (hm : Visits settings nodes m Q) (h : ∀ a, Q a → Q' a) :
    Visits settings nodes m Q' := by
  simpa using trim (bind hm fun a ha => pure (h a ha))

theorem map {f : α → β} (hm : Visits settings nodes m Q) (h : ∀ a, Q a → R (f a)) :
    Visits settings nodes (f <$> m) R := by
  rw [← bind_pure_comp]
  exact trim (bind hm fun a ha => pure (h a ha))

/-- What comes last visits nothing more. -/
theorem last (hm : Visits settings nodes m Q) (hk : ∀ a, Q a → Visits settings [] (k a) R) :
    Visits settings nodes (m >>= k) R :=
  trim (bind hm hk)

theorem lift {r : Run α} {a : α} (h : ∀ w, r w = .ok a w) (ha : Q a) :
    Visits settings [] (liftM r : Make α) Q := by
  intro n w
  refine ⟨a, n, ?_, ha⟩
  exact Run.bind_ok.2 ⟨a, w, h w, rfl⟩

/-- A node of which nothing is to be told stands in front of what is visited. -/
theorem behind {s : Schema} (hs : s.obstacle? settings = Option.none)
    (hn : s.note? settings = Option.none) (hm : Visits settings nodes m Q) :
    Visits settings (s :: nodes) m Q := by
  intro n w
  rw [firstObstacle?_cons hs, notes_cons hs, hn]
  exact hm n w

/-- A node that is told about is logged before what is visited after it. -/
theorem noted {s : Schema} {event : InversionEvent} (hs : s.obstacle? settings = Option.none)
    (hn : s.note? settings = some event) (hm : Visits settings nodes m Q) :
    Visits settings (s :: nodes) (do Run.record (.logged event); m) Q := by
  intro n w
  rw [firstObstacle?_cons hs, notes_cons hs, hn]
  exact hm n (w.record (.logged event))

theorem stop {s : Schema} {f : Failure} (hs : s.obstacle? settings = some f) :
    Visits settings (s :: nodes) (Make.fail f : Make α) Q := by
  intro n w
  simp only [firstObstacle?, List.findSome?_cons, hs, notes_cons_obstacle hs]
  rfl

theorem invertAll {maker : Maker} {schemas : List Schema}
    (h : ∀ s ∈ schemas, Visits settings s.visited (s.invertWith maker settings) s.Reflects) :
    Visits settings (schemas.flatMap visited) (Schema.invertAll maker settings schemas)
      (List.Forall₂ Reflects schemas) := by
  induction schemas with
  | nil => exact pure .nil
  | cons s rest ih =>
    refine bind (h s List.mem_cons_self) fun t ht => ?_
    exact map (ih fun s hs => h s (List.mem_cons_of_mem _ hs)) fun _ hrest => .cons ht hrest

theorem invertFields {maker : Maker} {shape : List (String × Schema)}
    (h : ∀ f ∈ shape, Visits settings f.2.visited (f.2.invertWith maker settings) f.2.Reflects) :
    Visits settings ((shape.map (·.2)).flatMap visited)
      (Schema.invertFields maker settings shape) (Fieldwise Reflects shape) := by
  induction shape with
  | nil => exact pure .nil
  | cons f rest ih =>
    refine bind (h f List.mem_cons_self) fun t ht => ?_
    exact map (ih fun f hf => h f (List.mem_cons_of_mem _ hf)) fun _ hrest => .cons ht hrest

theorem invertOption {maker : Maker} {o : Option Schema} {k : Option Schema → Make β}
    (h : ∀ s, o = some s → Visits settings s.visited (s.invertWith maker settings) s.Reflects)
    (hk : ∀ o', Visits settings more (k o') R) :
    Visits settings (o.toList.flatMap visited ++ more)
      (match o with
        | some s => some <$> s.invertWith maker settings >>= k
        | Option.none => Pure.pure Option.none >>= k) R := by
  cases o with
  | none => exact hk Option.none
  | some s =>
    have inverted := map (f := some) (R := fun _ => True) (h s rfl) fun _ _ => trivial
    simpa using bind inverted fun o' _ => hk o'

end Visits

/-- An object reflects by its fields, each of which reflects by its tags. -/
theorem Reflects.object {shape shape' : List (String × Schema)}
    (h : Fieldwise Reflects shape shape') (catchall catchall' : Option Schema) (policy : UnknownKeys) :
    Reflects (.object shape catchall policy) (.object shape' catchall' policy) where
  isSchema := rfl
  tags := by
    intro tags h
    cases h
  fields := by
    rintro _ _ _ ⟨⟩
    refine ⟨shape', catchall', rfl, fun key field hfield => ?_⟩
    obtain ⟨-, field', hfield', same⟩ := h.at_key hfield
    exact ⟨field', hfield', same.tags⟩

theorem requireMethod_of_isSchema {s : Schema} (h : s.isSchema) (name : String) :
    s.requireMethod name = pure () := by
  unfold requireMethod
  rw [if_pos h]

namespace Visits

variable {settings : InversionSettings}

/-- A refinement stays, and other effects are obstacles unless they can be elided. -/
theorem invertEffect {maker : Maker} {kind : EffectKind} {action : Action Live} {elidable : Bool}
    {inner : Schema}
    (h : Visits settings inner.visited (inner.invertWith maker settings) inner.Reflects) :
    Visits settings (effect kind action elidable inner :: inner.visited)
      ((effect kind action elidable inner).invertWith maker settings)
      (effect kind action elidable inner).Reflects := by
  cases kind with
  | refinement =>
    refine behind rfl rfl (last h fun t ht => pure ?_)
    exact .ofTags rfl (fun tags h lazyTags => ht.tags tags h lazyTags) rfl
  | transform | preprocess =>
    cases elidable with
    | false => exact stop rfl
    | true =>
      simp only [Schema.invertWith]
      cases logged : settings.logElisions with
      | false =>
        refine behind rfl (by simp [note?, logged]) (weaken h fun t ht => ?_)
        exact .ofSchema ht.isSchema rfl rfl
      | true =>
        refine noted rfl (by simp [note?, logged]) (weaken h fun t ht => ?_)
        exact .ofSchema ht.isSchema rfl rfl

theorem invertForeign {maker : Maker} {kind : DeclaredKind Live} :
    Visits settings [foreign kind] ((foreign kind).invertWith maker settings)
      (foreign kind).Reflects := by
  simp only [Schema.invertWith]
  by_cases leaf : kind.isLeaf
  · rw [if_pos leaf]
    exact behind (by simp [obstacle?, leaf]) (by simp [note?, leaf]) (pure (.ofSchema rfl rfl rfl))
  · rw [if_neg leaf]
    unfold passUnknown
    cases policy : settings.unknownKind with
    | error => exact stop (by simp [obstacle?, leaf, policy])
    | passthrough =>
      exact noted (by simp [obstacle?, leaf, policy]) (by simp [note?, leaf, policy])
        (pure (.ofSchema rfl rfl rfl))

/-- Inverting a tree visits its nodes and gives a schema that reflects it. -/
theorem invertWith {s : Schema} (hs : s.Proper) (maker : Maker) :
    Visits settings s.visited (s.invertWith maker settings) s.Reflects := by
  induction s using child_induction with
  | step s ih =>
    have visit (c : Schema) (hc : c ∈ s.children) := ih c hc (hs.child hc)
    rw [visited_eq]
    cases s <;> simp only [children, List.mem_append, List.mem_cons, List.mem_map,
      Option.mem_toList, List.not_mem_nil, or_false, forall_eq, or_imp, forall_and] at visit
    case array element _ | set element =>
      exact behind rfl rfl (bind visit fun _ _ => pure (.ofSchema rfl rfl rfl))
    case object shape catchall policy =>
      simp only [Schema.invertWith]
      refine behind rfl rfl ?_
      simp only [inTurn, children, List.flatMap_append]
      refine bind (invertFields fun f hf => visit.1 f.2 ⟨f, hf, rfl⟩) fun shape' hshape => ?_
      exact trim (invertOption visit.2 fun _ => pure (.object hshape _ _ _))
    case union options =>
      refine behind rfl rfl ?_
      exact map (invertAll visit) fun _ _ => .ofSchema rfl rfl rfl
    case tagged key options table =>
      refine behind rfl rfl ?_
      have union : ProperUnion key options table := hs.unions (mem_visited_self _)
      refine last (invertAll visit) fun options' reflected => ?_
      exact lift (union.reflected reflected maker) (.ofSchema rfl rfl rfl)
    case intersection left right | record key value | map key value =>
      refine behind rfl rfl (bind visit.1 fun _ _ => ?_)
      exact bind visit.2 fun _ _ => pure (.ofSchema rfl rfl rfl)
    case tuple items rest =>
      simp only [Schema.invertWith]
      refine behind rfl rfl ?_
      simp only [inTurn, children, List.flatMap_append]
      refine bind (invertAll visit.1) fun _ _ => ?_
      exact trim (invertOption visit.2 fun _ => pure (.ofSchema rfl rfl rfl))
    case function items rest returns =>
      simp only [Schema.invertWith]
      refine behind rfl rfl ?_
      simp only [inTurn, children, List.flatMap_append, List.append_assoc]
      refine bind (invertAll visit.1.1) fun _ _ => invertOption visit.1.2 fun _ => ?_
      exact bind visit.2 fun _ _ => pure (.ofSchema rfl rfl rfl)
    case lazy id origin => exact behind rfl rfl fun n w => ⟨_, n + 1, rfl, .ofSchema rfl rfl rfl⟩
    case effect kind action elidable inner =>
      simpa [inTurn, children] using invertEffect visit
    case optional inner | nullable inner =>
      refine behind rfl rfl (bind visit fun t ht => ?_)
      rw [requireMethod_of_isSchema ht.isSchema, pure_bind]
      refine pure (.ofTags rfl (fun tags h lazyTags => ?_) rfl)
      obtain ⟨own, hown, rfl⟩ := Option.map_eq_some_iff.1 h
      simp only [tagValues, ht.tags own hown, pure_bind]
    case promise inner =>
      refine behind rfl rfl (bind visit fun t ht => ?_)
      rw [requireMethod_of_isSchema ht.isSchema, pure_bind]
      exact pure (.ofSchema rfl rfl rfl)
    case readonly inner =>
      refine behind rfl rfl (bind visit fun t ht => ?_)
      rw [requireMethod_of_isSchema ht.isSchema, pure_bind]
      exact pure (.ofTags rfl ht.tags rfl)
    case default inner _ | «catch» inner _ | branded inner _ =>
      refine behind rfl rfl ?_
      simpa [inTurn, children, Schema.invertWith] using
        weaken visit fun t ht => .ofTags ht.isSchema ht.tags rfl
    case pipeline input output =>
      refine behind rfl rfl (bind visit.2 fun t ht => ?_)
      rw [requireMethod_of_isSchema ht.isSchema, pure_bind]
      exact bind visit.1 fun _ _ => pure (.ofSchema rfl rfl rfl)
    case invertible input parse output format =>
      refine behind rfl rfl (bind visit.2 fun t ht => bind visit.1 fun u hu => ?_)
      unfold ofInvertible
      rw [ht.isSchema, hu.isSchema]
      exact pure (.ofSchema rfl rfl rfl)
    case foreign kind => exact invertForeign
    case raw value => cases hs.schemas _ (mem_visited_self _)
    all_goals
      exact behind rfl rfl (pure (.ofTags rfl (tagsAs_self _) rfl))

end Visits
end Schema

/-- Without an obstacle among the nodes it visits, inversion gives a schema. -/
theorem Library.invert_unhindered (lib : Library) (depth step : Nat) (settings : InversionSettings)
    {s : Schema} (hs : s.Proper)
    (free : Schema.firstObstacle? settings s.visited = none) (w : World) :
    ∃ t, t.isSchema ∧ lib.invert depth step settings s w =
      .ok t (w.logging (Schema.notes settings s.visited)) := by
  have visits : Schema.Visits settings s.visited _ s.Reflects :=
    .invertWith hs (lib.plans.maker depth step)
  have ends := visits 0 w
  rw [free] at ends
  obtain ⟨t, n, ht, reflects⟩ := ends
  refine ⟨t, reflects.isSchema, ?_⟩
  unfold Library.invert
  rw [StateT.run', ← bind_pure_comp]
  exact Run.bind_ok.2 ⟨(t, n), _, ht, rfl⟩

/-- Inversion fails with the first obstacle among the nodes it visits, and without one it gives
a schema; what it logs is told by the nodes before the obstacle. -/
theorem Library.invert_outcome (lib : Library) (depth step : Nat) (settings : InversionSettings)
    {s : Schema} (hs : s.Proper) (w : World) :
    (∀ f, Schema.firstObstacle? settings s.visited = some f →
      lib.invert depth step settings s w =
        .error f (w.logging (Schema.notes settings s.visited))) ∧
    (Schema.firstObstacle? settings s.visited = none →
      ∃ t, t.isSchema ∧ lib.invert depth step settings s w =
        .ok t (w.logging (Schema.notes settings s.visited))) := by
  refine ⟨fun f hf => ?_, fun free => lib.invert_unhindered depth step settings hs free w⟩
  have visits : Schema.Visits settings s.visited _ s.Reflects :=
    .invertWith hs (lib.plans.maker depth step)
  have ends := visits 0 w
  rw [hf] at ends
  unfold Library.invert
  rw [StateT.run', ← bind_pure_comp]
  exact Run.bind_error.2 (.inl ends)

/-! A parcel is read by its contents; the text it comes from cannot be given back. -/

namespace Parcel

def library : Library where
  host := {
    effect := fun _ v _ => ⟨[], .ok v⟩
    check := fun _ _ => ⟨[], .ok (.bool true)⟩
    supply := fun _ => ⟨[], .ok .none⟩
    rescue := fun _ _ => ⟨[], .ok .none⟩
    call := fun _ _ => ⟨[], .ok .none⟩
    isAsync := fun _ => false }
  plans := { getter := fun _ => { schema := .any }, definition := fun _ => .any }

def option (unit : Schema) : Schema := .object [("unit", unit)] none .strict

def weight : Schema :=
  .tagged "unit" [option (.literal (.str "kg")), option (.readonly (.enum [.str "lb", .str "oz"]))]
    [(.str "kg", 0), (.str "lb", 1), (.str "oz", 1)]

def contents : Schema :=
  .object [("note", .effect .transform (.custom ⟨0, "capitals"⟩) true (.string {} none)),
    ("weight", weight)] none .strip

def parcel : Schema :=
  .pipeline (.effect .preprocess (.custom ⟨1, "read"⟩) false .any) contents

open Schema in
theorem visited_contents : contents.visited = [contents,
    .effect .transform (.custom ⟨0, "capitals"⟩) true (.string {} none), .string {} none, weight,
    option (.literal (.str "kg")), .literal (.str "kg"),
    option (.readonly (.enum [.str "lb", .str "oz"])), .readonly (.enum [.str "lb", .str "oz"]),
    .enum [.str "lb", .str "oz"]] := by
  simp [visited_eq, inTurn, children, contents, weight, option]

open Schema in
theorem visited_parcel : parcel.visited = parcel :: contents.visited ++
    [.effect .preprocess (.custom ⟨1, "read"⟩) false .any, .any] := by
  rw [visited_eq]
  simp [visited_eq, inTurn, children, parcel]

theorem weight_proper {key : String} {options : List Schema} {table : List (Datum × Nat)}
    (h : .tagged key options table = weight) : Schema.ProperUnion key options table := by
  cases h
  refine ⟨fun h => ?_, ⟨.step 0, fun _ _ => pure []⟩, {}, {}, rfl⟩
  simp only [option, List.mem_cons, List.not_mem_nil, or_false, Schema.object.injEq] at h
  rcases h with ⟨rfl, -⟩ | ⟨rfl, -⟩ <;> rintro _ ⟨⟩ <;> rfl

theorem parcel_proper : parcel.Proper where
  schemas := by
    rw [visited_parcel, visited_contents]
    simp [parcel, contents, weight, option, Schema.isSchema]
  unions h := by
    rw [visited_parcel, visited_contents] at h
    simp only [List.cons_append, List.nil_append, List.mem_cons, List.not_mem_nil, parcel,
      contents, option, reduceCtorEq, false_or, or_false] at h
    exact weight_proper h

/-- The parcel cannot be inverted for its first step, which comes last: the mapping of the note
has been logged by then. Its contents can. -/
theorem ends :
    library.invert 0 1 { logElisions := true } parcel {} =
      .error (.oneWay .preprocess) { journal := [.logged (.effectElided .transform)] } ∧
    ∃ t, t.isSchema ∧ library.invert 0 1 { logElisions := true } contents {} =
      .ok t { journal := [.logged (.effectElided .transform)] } := by
  have inner : contents.Proper := parcel_proper.child (by simp [parcel, Schema.children])
  have fails := (library.invert_outcome 0 1 { logElisions := true } parcel_proper {}).1
  have gives := (library.invert_outcome 0 1 { logElisions := true } inner {}).2
  rw [visited_parcel, visited_contents] at fails
  rw [visited_contents] at gives
  exact ⟨fails _ rfl, gives rfl⟩

end Parcel
end TwoWay
