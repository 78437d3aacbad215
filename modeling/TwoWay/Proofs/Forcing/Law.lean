import TwoWay.Proofs.Schema.Parts
import TwoWay.Schema.Forcing

/-!
# Laws of making

Building and inverting look things up while they run: the tags behind lazy nodes and the
shared definitions. They do nothing else with what they look up than to go on with it. So a
law that every way of putting runs together keeps passes from the look-ups to what is made
(`Run.Law.build`, `Run.Law.invertWith`). A law speaks of a family of runs: the same schema
made with one source of look-ups or another.
-/

namespace TwoWay

/-- A property of families of runs that every way of putting runs together keeps. -/
structure Run.Law (ι : Type) where
  Holds : ∀ {α : Type}, (ι → Run α) → Prop
  pure : ∀ {α : Type} (a : α), Holds fun _ => Pure.pure a
  fail : ∀ {α : Type} (f : Failure), Holds (α := α) fun _ => throw f
  log : ∀ e : InversionEvent, Holds fun _ => Run.record (.logged e)
  bind : ∀ {α β : Type} {m : ι → Run α} {k : ι → α → Run β},
    Holds m → (∀ a, Holds fun i => k i a) → Holds fun i => m i >>= k i

namespace Run.Law

variable {ι : Type} (L : Run.Law ι)

/-- The law for making, whatever was counted before. -/
def Makes {α : Type} (m : ι → Make α) : Prop := ∀ n, L.Holds fun i => m i n

variable {L} {α β : Type}

theorem map {m : ι → Run α} (f : α → β) (h : L.Holds m) : L.Holds fun i => f <$> m i := by
  simpa only [bind_pure_comp] using L.bind h fun a => L.pure (f a)

namespace Makes

theorem pure (a : α) : L.Makes fun _ => (Pure.pure a : Make α) := fun n => L.pure (a, n)

theorem fail (f : Failure) : L.Makes fun _ => (Make.fail f : Make α) := fun _ => L.fail f

theorem refuse (m : Malformed) : L.Makes fun _ => (Make.refuse m : Make α) := fun _ => L.fail _

theorem bind {m : ι → Make α} {k : ι → α → Make β} (hm : L.Makes m)
    (hk : ∀ a, L.Makes fun i => k i a) : L.Makes fun i => m i >>= k i :=
  fun n => L.bind (hm n) fun a => hk a.1 a.2

theorem map {m : ι → Make α} (f : α → β) (h : L.Makes m) : L.Makes fun i => f <$> m i :=
  bind h fun a => pure (f a)

theorem lift {m : ι → Run α} (h : L.Holds m) : L.Makes fun i => (liftM (m i) : Make α) :=
  fun n => L.bind h fun a => L.pure (a, n)

/-- What is made counts from zero. -/
theorem run {m : ι → Make α} (h : L.Makes m) : L.Holds fun i => (m i).run' 0 :=
  L.map Prod.fst (h 0)

end Makes

theorem requireHashable (v : Datum) : L.Holds fun _ => Run.requireHashable v := by
  unfold Run.requireHashable
  cases v.unhashable? with
  | some t => exact L.fail _
  | none => exact L.pure ()

theorem addTags (key : String) (position : Nat) (values : List Datum)
    (table : List (Datum × Nat)) : L.Holds fun _ => Schema.addTags key position values table := by
  induction values generalizing table with
  | nil => exact L.pure table
  | cons v rest ih =>
    refine L.bind (L.requireHashable v) fun _ => ?_
    split
    · exact L.bind (L.fail _) fun _ => ih _
    · exact ih _

/-! ## Tags -/

section
variable {tags : ι → LazyId → Origin → Run (List Datum)}

theorem tagValues (ht : ∀ id origin, L.Holds fun i => tags i id origin) (s : Schema) :
    L.Holds fun i => s.tagValues (tags i) := by
  induction s using Schema.child_induction with
  | step s ih =>
    cases s
    case lazy id origin => exact ht id origin
    case effect inner | branded inner _ | readonly inner | default inner _ | «catch» inner _ =>
      exact ih inner (by simp [Schema.children])
    case nullable inner | optional inner =>
      exact L.bind (ih inner (by simp [Schema.children])) fun _ => L.pure _
    case pipeline first second | invertible first _ second _ =>
      refine L.bind (ih first (by simp [Schema.children])) fun values => ?_
      split
      · exact ih second (by simp [Schema.children])
      · exact L.pure _
    all_goals exact L.pure _

variable {owner : LazyId}

theorem tagTable (ht : ∀ id origin, L.Holds fun i => tags i id origin) (key : String)
    (options : List Schema) (position : Nat) (table : List (Datum × Nat)) :
    L.Holds fun i => Schema.tagTable ⟨owner, tags i⟩ key position options table := by
  induction options generalizing position table with
  | nil => exact L.pure table
  | cons s rest ih =>
    cases s
    case object shape catchall policy =>
      simp only [Schema.tagTable]
      cases Schema.field? shape key with
      | none => exact L.fail _
      | some field =>
        refine L.bind (tagValues ht field) fun values => ?_
        split
        · exact L.bind (L.fail _) fun _ => L.bind (L.addTags ..) fun _ => ih ..
        · exact L.bind (L.addTags ..) fun _ => ih ..
    all_goals exact L.fail _

theorem ofTagged (ht : ∀ id origin, L.Holds fun i => tags i id origin) (key : String)
    (options : List Schema) : L.Holds fun i => Schema.ofTagged ⟨owner, tags i⟩ key options :=
  L.bind (tagTable ht key options 0 []) fun _ => L.pure _

/-! ## Inverses -/

variable {settings : InversionSettings}

theorem requireMethod (s : Schema) (name : String) :
    L.Makes fun _ => Schema.requireMethod s name := by
  unfold Schema.requireMethod
  split
  · exact Makes.pure ()
  · exact Makes.fail _

theorem passUnknown (name : String) (s : Schema) :
    L.Makes fun _ => Schema.passUnknown settings name s := by
  unfold Schema.passUnknown
  cases settings.unknownKind with
  | error => exact Makes.fail _
  | passthrough => exact Makes.bind (Makes.lift (L.log _)) fun _ => Makes.pure s

theorem ofInvertible (input : Schema) (parse : FunctionRef) (output : Schema)
    (format : FunctionRef) :
    L.Makes fun _ => Schema.ofInvertible input parse output format := by
  unfold Schema.ofInvertible
  split
  · exact Makes.pure _
  · exact Makes.refuse _

theorem invertAll {maker : ι → Maker} {schemas : List Schema}
    (h : ∀ s ∈ schemas, L.Makes fun i => s.invertWith (maker i) settings) :
    L.Makes fun i => Schema.invertAll (maker i) settings schemas := by
  induction schemas with
  | nil => exact Makes.pure []
  | cons s rest ih =>
    refine Makes.bind (h s (by simp)) fun _ => ?_
    exact Makes.bind (ih fun t ht => h t (by simp [ht])) fun _ => Makes.pure _

theorem invertFields {maker : ι → Maker} {shape : List (String × Schema)}
    (h : ∀ f ∈ shape, L.Makes fun i => f.2.invertWith (maker i) settings) :
    L.Makes fun i => Schema.invertFields (maker i) settings shape := by
  induction shape with
  | nil => exact Makes.pure []
  | cons f rest ih =>
    refine Makes.bind (h f (by simp)) fun _ => ?_
    exact Makes.bind (ih fun t ht => h t (by simp [ht])) fun _ => Makes.pure _

theorem invertWith (ht : ∀ id origin, L.Holds fun i => tags i id origin) (s : Schema) :
    L.Makes fun i => s.invertWith ⟨owner, tags i⟩ settings := by
  induction s using Schema.child_induction with
  | step s ih =>
    cases s <;> simp only [Schema.children, List.mem_append, List.mem_cons, List.mem_map,
      Option.mem_toList, List.not_mem_nil, or_false, forall_eq, or_imp, forall_and] at ih
    case array element lengths | set element =>
      exact Makes.bind ih fun _ => Makes.pure _
    case object shape catchall policy =>
      have fields := invertFields fun f hf => ih.1 f.2 ⟨f, hf, rfl⟩
      simp only [Schema.invertWith]
      refine Makes.bind fields fun _ => ?_
      cases catchall with
      | none => exact Makes.bind (Makes.pure Option.none) fun _ => Makes.pure _
      | some c => exact Makes.bind (Makes.map some (ih.2 c rfl)) fun _ => Makes.pure _
    case union options => exact Makes.bind (invertAll ih) fun _ => Makes.pure _
    case tagged key options table =>
      exact Makes.bind (invertAll ih) fun _ => Makes.lift (ofTagged ht _ _)
    case intersection left right | record key value | map key value =>
      exact Makes.bind ih.1 fun _ => Makes.bind ih.2 fun _ => Makes.pure _
    case tuple items rest =>
      simp only [Schema.invertWith]
      refine Makes.bind (invertAll ih.1) fun _ => ?_
      cases rest with
      | none => exact Makes.bind (Makes.pure Option.none) fun _ => Makes.pure _
      | some r => exact Makes.bind (Makes.map some (ih.2 r rfl)) fun _ => Makes.pure _
    case function items rest returns =>
      have returned (rest : Option Schema) (items : List Schema) := Makes.bind ih.2 fun s =>
        Makes.pure (Schema.function items rest s)
      simp only [Schema.invertWith]
      refine Makes.bind (invertAll ih.1.1) fun _ => ?_
      cases rest with
      | none => exact Makes.bind (Makes.pure Option.none) fun _ => returned _ _
      | some r => exact Makes.bind (Makes.map some (ih.1.2 r rfl)) fun _ => returned _ _
    case lazy id origin => exact fun n => L.pure (Schema.lazy (.within owner n) _, n + 1)
    case effect kind action elidable inner =>
      cases kind with
      | refinement => exact Makes.bind ih fun _ => Makes.pure _
      | transform | preprocess =>
        simp only [Schema.invertWith]
        split
        · split
          · exact Makes.bind (Makes.lift (L.log _)) fun _ => ih
          · exact ih
        · exact Makes.fail _
    case optional inner | nullable inner | promise inner | readonly inner =>
      exact Makes.bind ih fun _ => Makes.bind (requireMethod _ _) fun _ => Makes.pure _
    case default inner _ | «catch» inner _ | branded inner _ => exact ih
    case pipeline input output =>
      refine Makes.bind ih.2 fun _ => Makes.bind (requireMethod _ _) fun _ => ?_
      exact Makes.bind ih.1 fun _ => Makes.pure _
    case invertible input parse output format =>
      exact Makes.bind ih.2 fun _ => Makes.bind ih.1 fun _ => ofInvertible _ _ _ _
    case foreign kind =>
      simp only [Schema.invertWith]
      split
      · exact Makes.pure _
      · exact passUnknown _ _
    case raw value => exact passUnknown _ _
    all_goals exact Makes.pure _

end
end Run.Law
end TwoWay
