import TwoWay.Proofs.Forcing.Converging
import TwoWay.Proofs.Inversion.Outline

/-!
# Eliding effects

Inverting drops the transforms and preprocesses that are marked for it. `Schema.erased` drops them
beforehand, and the inverse is the same: of two schemas that resemble each other once such effects
are erased, behind lazy nodes as well, the inverses resemble each other, or inverting fails alike
(`Plans.Consistent.inverses`).
-/

namespace TwoWay

namespace Schema

mutual

/-- A schema without the transforms and preprocesses that inversion may drop. -/
def erased : Schema → Schema
  | .array element lengths => .array element.erased lengths
  | .object shape catchall policy => .object (erasedFields shape) (erasedOption catchall) policy
  | .union options => .union (erasedAll options)
  | .tagged tag options table => .tagged tag (erasedAll options) table
  | .intersection left right => .intersection left.erased right.erased
  | .tuple items rest => .tuple (erasedAll items) (erasedOption rest)
  | .record key value => .record key.erased value.erased
  | .map key value => .map key.erased value.erased
  | .set element => .set element.erased
  | .function items rest returns =>
    .function (erasedAll items) (erasedOption rest) returns.erased
  | .effect .refinement action elidable inner => .effect .refinement action elidable inner.erased
  | .effect kind action elidable inner =>
    if elidable then inner.erased else .effect kind action elidable inner.erased
  | .optional inner => .optional inner.erased
  | .nullable inner => .nullable inner.erased
  | .default inner supply => .default inner.erased supply
  | .catch inner supply => .catch inner.erased supply
  | .promise inner => .promise inner.erased
  | .branded inner name => .branded inner.erased name
  | .pipeline input output => .pipeline input.erased output.erased
  | .invertible input parse output format => .invertible input.erased parse output.erased format
  | .readonly inner => .readonly inner.erased
  | s => s
  termination_by structural s => s

def erasedAll : List Schema → List Schema
  | [] => []
  | s :: rest => s.erased :: erasedAll rest
  termination_by structural xs => xs

def erasedFields : List (String × Schema) → List (String × Schema)
  | [] => []
  | (key, s) :: rest => (key, s.erased) :: erasedFields rest
  termination_by structural fields => fields

def erasedOption : Option Schema → Option Schema
  | some s => some s.erased
  | Option.none => Option.none
  termination_by structural o => o

end

mutual

/-- Nothing is left to erase of what is erased. -/
theorem erased_erased : ∀ s : Schema, s.erased.erased = s.erased
  | .effect .refinement action elidable inner => by simp only [erased, erased_erased inner]
  | .effect .transform action elidable inner | .effect .preprocess action elidable inner => by
    cases elidable <;> simp [erased, erased_erased inner]
  | .array inner _ | .set inner | .optional inner | .nullable inner | .default inner _
  | .catch inner _ | .promise inner | .branded inner _ | .readonly inner => by
    simp only [erased, erased_erased inner]
  | .intersection left right | .record left right | .map left right | .pipeline left right
  | .invertible left _ right _ => by
    simp only [erased, erased_erased left, erased_erased right]
  | .object shape catchall _ => by
    simp only [erased, erasedFields_erasedFields shape, erasedOption_erasedOption catchall]
  | .union options | .tagged _ options _ => by simp only [erased, erasedAll_erasedAll options]
  | .tuple items rest => by
    simp only [erased, erasedAll_erasedAll items, erasedOption_erasedOption rest]
  | .function items rest returns => by
    simp only [erased, erasedAll_erasedAll items, erasedOption_erasedOption rest,
      erased_erased returns]
  | .string _ _ | .number _ _ | .boolean | .none | .any | .unknown | .never | .literal _ | .enum _
  | .lazy _ _ | .foreign _ | .raw _ => rfl

theorem erasedAll_erasedAll : ∀ ss : List Schema, erasedAll (erasedAll ss) = erasedAll ss
  | [] => rfl
  | s :: rest => by simp only [erasedAll, erased_erased s, erasedAll_erasedAll rest]

theorem erasedFields_erasedFields : ∀ fields : List (String × Schema),
    erasedFields (erasedFields fields) = erasedFields fields
  | [] => rfl
  | (_, s) :: rest => by simp only [erasedFields, erased_erased s, erasedFields_erasedFields rest]

theorem erasedOption_erasedOption : ∀ o : Option Schema,
    erasedOption (erasedOption o) = erasedOption o
  | some s => by simp only [erasedOption, erased_erased s]
  | Option.none => rfl

end

section
variable {R : Schema → Schema → Prop}

theorem erasedAll_iff {ss ts : List Schema} :
    List.Forall₂ R (erasedAll ss) ts ↔ List.Forall₂ (fun s t => R s.erased t) ss ts := by
  induction ss generalizing ts with
  | nil => simp [erasedAll]
  | cons s ss ih =>
    cases ts with
    | nil => simp [erasedAll]
    | cons t ts => rw [erasedAll, List.forall₂_cons, List.forall₂_cons, ih]

theorem Fieldwise.of_erased {shape shape' : List (String × Schema)}
    (h : Fieldwise R (erasedFields shape) shape') :
    Fieldwise (fun s t => R s.erased t) shape shape' := by
  induction shape generalizing shape' with
  | nil =>
    cases h
    exact .nil
  | cons f shape ih =>
    obtain ⟨key, s⟩ := f
    cases h with
    | cons same rest => exact .cons same (ih rest)

theorem rel_of_erased {o o' : Option Schema} (h : Option.Rel R (erasedOption o) o') :
    Option.Rel (fun s t => R s.erased t) o o' := by
  cases o with
  | none =>
    cases h
    exact .none
  | some s =>
    cases h with
    | some same => exact .some same

/-- Shapes that are related field by field declare related schemas under a key, or none. -/
theorem Fieldwise.field? {shape shape' : List (String × Schema)} (h : Fieldwise R shape shape')
    (key : String) : Option.Rel R (field? shape key) (field? shape' key) := by
  induction h with
  | nil => exact .none
  | cons same _ ih =>
    simp only [Schema.field?, List.lookup_cons] at ih ⊢
    split
    · exact .some same
    · exact ih

end

variable {view : View} {s t : Schema}

theorem Resembles.isSchema (h : s.Resembles view t) : s.isSchema = t.isSchema := by
  cases h.sameNode <;> rfl

theorem Resembles.className (h : s.Resembles view t) : s.className = t.className := by
  cases h.sameNode <;> rfl

end Schema

namespace Plans

variable {plans : Plans} {view : View} {d : Nat}

/-! ## Tags -/

section
variable (tags : ∀ {id id' origin origin'}, view.name id origin = view.name id' origin' →
  Run.Converge d Eq (fun k => plans.tagsOf k id origin) fun k => plans.tagsOf k id' origin')

include tags

/-- Tag fields that look the same have the same tags, if lazy nodes of one name do. -/
theorem tagValues_converge {s t : Schema} (h : s.Resembles view t) :
    Run.Converge d Eq (fun k => s.tagValues (plans.tagsOf k))
      fun k => t.tagValues (plans.tagsOf k) := by
  induction s using Schema.child_induction generalizing t with
  | step s ih =>
    cases h.sameNode <;> simp only [Schema.children, List.mem_cons, List.not_mem_nil, or_false,
      forall_eq, or_imp, forall_and] at ih
    case leaf leaf => cases s <;> first | exact .pure rfl | cases leaf
    case lazy name => exact tags name
    case effect same | branded same | readonly same | default same | «catch» same =>
      have inner := ih same
      exact inner
    case nullable same | optional same => exact .bind (ih same) fun values => .pure (by rw [values])
    case pipeline first second | invertible first second =>
      refine .bind (ih.1 first) fun {values values'} same => ?_
      cases same
      split
      · exact ih.2 second
      · exact .pure rfl
    all_goals exact .pure rfl

theorem tagTable_converge (owner owner' : LazyId) (key : String) {options options' : List Schema}
    (h : List.Forall₂ (Schema.Resembles view) options options') (i : Nat)
    (table : List (Datum × Nat)) :
    Run.Converge d Eq (fun k => Schema.tagTable ⟨owner, plans.tagsOf k⟩ key i options table)
      fun k => Schema.tagTable ⟨owner', plans.tagsOf k⟩ key i options' table := by
  induction h generalizing i table with
  | nil => exact .pure rfl
  | @cons s t _ _ first _ ih =>
    cases first.sameNode
    case object shape shape' _ _ _ hshape _ =>
      have declared := hshape.field? key
      simp only [Schema.tagTable]
      generalize Schema.field? shape key = field, Schema.field? shape' key = field' at declared ⊢
      cases declared with
      | none => exact .throw _
      | some same =>
        refine .bind (tagValues_converge tags same) fun {values values'} same => ?_
        cases same
        have added := Run.Converge.same (d := d) (Run.deeper.addTags key i values table)
        split
        · exact .bind (R := Eq) (.throw _) fun _ => .bind added fun same => same ▸ ih _ _
        · exact .bind added fun same => same ▸ ih _ _
    case leaf leaf => cases s <;> first | exact .throw _ | cases leaf
    all_goals exact .throw _

theorem ofTagged_converge (owner owner' : LazyId) (key : String) {options options' : List Schema}
    (h : List.Forall₂ (Schema.Resembles view) options options') :
    Run.Converge d (Schema.Resembles view)
      (fun k => Schema.ofTagged ⟨owner, plans.tagsOf k⟩ key options)
      fun k => Schema.ofTagged ⟨owner', plans.tagsOf k⟩ key options' :=
  .bind (tagTable_converge tags owner owner' key h 0 []) fun same =>
    .pure (same ▸ (Schema.SameNode.tagged h).resembles)

end

/-! ## Inverses -/

section
variable {settings : InversionSettings}

theorem requireMethod_converge {s t : Schema} (h : s.Resembles view t) (name : String) :
    Make.Converge d (fun _ _ => True) (fun _ => s.requireMethod name)
      fun _ => t.requireMethod name := by
  unfold Schema.requireMethod
  rw [h.isSchema, h.className]
  split
  · exact .pure trivial
  · exact .fail _

theorem passUnknown_converge (name : String) (s : Schema) :
    Make.Converge d (Schema.Resembles view) (fun _ => s.passUnknown settings name)
      fun _ => s.passUnknown settings name := by
  unfold Schema.passUnknown
  cases settings.unknownKind with
  | error => exact .fail _
  | passthrough => exact .bind (.lift (.same (Run.deeper.log _))) fun _ => .pure rfl

theorem ofInvertible_converge {s s' t t' : Schema} (hs : s.Resembles view s')
    (ht : t.Resembles view t') (parse format : FunctionRef) :
    Make.Converge d (Schema.Resembles view) (fun _ => Schema.ofInvertible s parse t format)
      fun _ => Schema.ofInvertible s' parse t' format := by
  unfold Schema.ofInvertible
  rw [hs.isSchema, ht.isSchema]
  split
  · exact .pure (Schema.SameNode.invertible hs ht).resembles
  · exact .fail _

section
variable {maker maker' : Nat → Maker}

theorem invertAll_converge {schemas schemas' : List Schema}
    (h : List.Forall₂ (fun s t => Make.Converge d (Schema.Resembles view)
      (fun k => s.invertWith (maker k) settings) fun k => t.invertWith (maker' k) settings)
      schemas schemas') :
    Make.Converge d (List.Forall₂ (Schema.Resembles view))
      (fun k => Schema.invertAll (maker k) settings schemas)
      fun k => Schema.invertAll (maker' k) settings schemas' := by
  induction h with
  | nil => exact .pure .nil
  | cons first _ ih => exact .bind first fun hs => .bind ih fun hrest => .pure (.cons hs hrest)

theorem invertFields_converge {shape shape' : List (String × Schema)}
    (h : Schema.Fieldwise (fun s t => Make.Converge d (Schema.Resembles view)
      (fun k => s.invertWith (maker k) settings) fun k => t.invertWith (maker' k) settings)
      shape shape') :
    Make.Converge d (Schema.Fieldwise (Schema.Resembles view))
      (fun k => Schema.invertFields (maker k) settings shape)
      fun k => Schema.invertFields (maker' k) settings shape' := by
  induction h with
  | nil => exact .pure .nil
  | cons first _ ih => exact .bind first fun hs => .bind ih fun hrest => .pure (.cons hs hrest)

theorem invertOption_converge {α β : Type} {Q : α → β → Prop} {o o' : Option Schema}
    {k : Nat → Option Schema → Make α} {l : Nat → Option Schema → Make β} :
    Option.Rel (fun s t => Make.Converge d (Schema.Resembles view)
      (fun i => s.invertWith (maker i) settings) fun i => t.invertWith (maker' i) settings) o o' →
    (∀ {t t'}, Option.Rel (Schema.Resembles view) t t' →
      Make.Converge d Q (fun i => k i t) fun i => l i t') →
    Make.Converge d Q
      (fun i => match o with
        | some s => some <$> s.invertWith (maker i) settings >>= k i
        | Option.none => Pure.pure Option.none >>= k i)
      (fun i => match o' with
        | some s => some <$> s.invertWith (maker' i) settings >>= l i
        | Option.none => Pure.pure Option.none >>= l i) := by
  intro h hk
  cases h with
  | none => exact hk .none
  | some same =>
    exact .bind (.map (Q := Option.Rel (Schema.Resembles view)) same fun same => .some same) hk

end

/-- A view of inverses that goes with a view of schemas: of lazy nodes of one name the inverses go
by one name, too, if they are made at the same place. -/
def GoesWith (settings : InversionSettings) (view inverse : View) (owner owner' : LazyId) : Prop :=
  ∀ n {id id' origin origin'}, view.name id origin = view.name id' origin' →
    inverse.name (.within owner n) (.inverse settings id origin) =
      inverse.name (.within owner' n) (.inverse settings id' origin')

variable {inverse : View} {owner owner' : LazyId}
  (agrees : GoesWith settings view inverse owner owner') (marked : Function.Injective view.mark)
  (tags : ∀ {id id' origin origin'}, inverse.name id origin = inverse.name id' origin' →
    Run.Converge d Eq (fun k => plans.tagsOf k id origin) fun k => plans.tagsOf k id' origin')

include agrees marked tags

/-- The inverse of a schema resembles that of a schema which it resembles once what may be dropped
is erased, and if inverting the one fails, so does the other. -/
theorem invertWith_converge {s e : Schema} (h : s.erased.Resembles view e) :
    Make.Converge d (Schema.Resembles inverse)
      (fun k => s.invertWith ⟨owner, plans.tagsOf k⟩ settings)
      fun k => e.invertWith ⟨owner', plans.tagsOf k⟩ settings := by
  induction s using Schema.child_induction generalizing e with
  | step s ih =>
    cases s <;> simp only [Schema.children, List.mem_append, List.mem_cons, List.mem_map,
      Option.mem_toList, List.not_mem_nil, or_false, forall_eq, or_imp, forall_and] at ih
    case effect kind action elidable inner =>
      cases kind with
      | refinement =>
        simp only [Schema.erased] at h
        cases h.sameNode
        case leaf leaf => cases leaf
        case effect _ he =>
          refine .bind (ih he) fun same => .pure ?_
          exact (Schema.SameNode.pipeline rfl same).resembles
      | transform | preprocess =>
        simp only [Schema.erased] at h
        simp only [Schema.invertWith]
        cases elidable with
        | true =>
          have inner := ih h
          simp only [if_true]
          split
          · exact .said (fun _ => rfl) inner
          · exact inner
        | false =>
          simp only [Bool.false_eq_true, if_false] at h ⊢
          cases h.sameNode
          case leaf leaf => cases leaf
          case effect mark _ =>
            cases marked mark
            exact .fail _
    all_goals
      simp only [Schema.erased] at h
      cases h.sameNode
      -- Nothing but a leaf looks like a leaf.
      try
        rename_i leaf
        exact absurd leaf Bool.false_ne_true
    case array.array he =>
      exact .bind (ih he) fun same => .pure (Schema.SameNode.array same).resembles
    case set.set he => exact .bind (ih he) fun same => .pure (Schema.SameNode.set same).resembles
    case object.object shape catchall policy shape' catchall' hshape hrest =>
      have all : Schema.Fieldwise (fun s t => Make.Converge d (Schema.Resembles inverse)
          (fun k => s.invertWith ⟨owner, plans.tagsOf k⟩ settings)
          fun k => t.invertWith ⟨owner', plans.tagsOf k⟩ settings) shape shape' :=
        .of_mem (fun f hf {u} same => ih.1 f.2 ⟨f, hf, rfl⟩ same) hshape.of_erased
      simp only [Schema.invertWith]
      refine .bind (invertFields_converge all) fun fields => ?_
      refine invertOption_converge (Schema.rel_of_child ih.2 (Schema.rel_of_erased hrest))
        fun rest => ?_
      exact .pure (Schema.SameNode.object fields rest).resembles
    case union.union ho =>
      have all := Schema.forall₂_of_mem (fun s hs {u} same => ih s hs same)
        (Schema.erasedAll_iff.1 ho)
      exact .bind (invertAll_converge all) fun same => .pure (Schema.SameNode.union same).resembles
    case tagged.tagged key _ _ _ ho =>
      have all := Schema.forall₂_of_mem (fun s hs {u} same => ih s hs same)
        (Schema.erasedAll_iff.1 ho)
      exact .bind (invertAll_converge all) fun same =>
        .lift (ofTagged_converge tags owner owner' _ same)
    case intersection.intersection hl hr =>
      exact .bind (ih.1 hl) fun left => .bind (ih.2 hr) fun right =>
        .pure (Schema.SameNode.intersection left right).resembles
    case tuple.tuple hi hrest =>
      have all := Schema.forall₂_of_mem (fun s hs {u} same => ih.1 s hs same)
        (Schema.erasedAll_iff.1 hi)
      simp only [Schema.invertWith]
      refine .bind (invertAll_converge all) fun items => ?_
      refine invertOption_converge (Schema.rel_of_child ih.2 (Schema.rel_of_erased hrest))
        fun rest => ?_
      exact .pure (Schema.SameNode.tuple items rest).resembles
    case record.record hk hv =>
      exact .bind (ih.1 hk) fun key => .bind (ih.2 hv) fun value =>
        .pure (Schema.SameNode.record key value).resembles
    case map.map hk hv =>
      exact .bind (ih.1 hk) fun key => .bind (ih.2 hv) fun value =>
        .pure (Schema.SameNode.map key value).resembles
    case function.function hi hrest hr =>
      have all := Schema.forall₂_of_mem (fun s hs {u} same => ih.1.1 s hs same)
        (Schema.erasedAll_iff.1 hi)
      simp only [Schema.invertWith]
      refine .bind (invertAll_converge all) fun items => ?_
      refine invertOption_converge (Schema.rel_of_child ih.1.2 (Schema.rel_of_erased hrest))
        fun rest => ?_
      exact .bind (ih.2 hr) fun returns =>
        .pure (Schema.SameNode.function items rest returns).resembles
    case lazy.lazy hname =>
      intro n
      have named := (Schema.SameNode.lazy (agrees n hname)).resembles
      exact Run.Converge.pure (R := fun p q => Schema.Resembles inverse p.1 q.1 ∧ p.2 = q.2)
        (a := (_, n + 1)) (b := (_, n + 1)) ⟨named, rfl⟩
    case optional.optional he =>
      exact .bind (ih he) fun same => .bind (requireMethod_converge same _) fun _ =>
        .pure (Schema.SameNode.optional same).resembles
    case nullable.nullable he =>
      exact .bind (ih he) fun same => .bind (requireMethod_converge same _) fun _ =>
        .pure (Schema.SameNode.nullable same).resembles
    case promise.promise he =>
      exact .bind (ih he) fun same => .bind (requireMethod_converge same _) fun _ =>
        .pure (Schema.SameNode.promise same).resembles
    case readonly.readonly he =>
      exact .bind (ih he) fun same => .bind (requireMethod_converge same _) fun _ =>
        .pure (Schema.SameNode.readonly same).resembles
    case default.default he | catch.catch he | branded.branded he =>
      have inner := ih he
      exact inner
    case pipeline.pipeline hs ht =>
      refine .bind (ih.2 ht) fun output => .bind (requireMethod_converge output _) fun _ => ?_
      exact .bind (ih.1 hs) fun input => .pure (Schema.SameNode.pipeline output input).resembles
    case invertible.invertible hs ht =>
      exact .bind (ih.2 ht) fun output => .bind (ih.1 hs) fun input =>
        ofInvertible_converge output input _ _
    case foreign.leaf kind _ =>
      simp only [Schema.invertWith]
      split
      · exact .pure rfl
      · exact passUnknown_converge _ _
    case raw.leaf value _ => exact passUnknown_converge _ _
    all_goals exact .pure rfl

/-- Inverses are alike of schemas that resemble each other once what may be dropped is erased. -/
theorem inverses_follow {s s' : Schema} (h : s.erased.Resembles view s'.erased) :
    Run.Follows (Schema.Resembles inverse)
      ((s.invertWith ⟨owner, plans.tagsOf d⟩ settings).run' 0)
      fun k => (s'.invertWith ⟨owner', plans.tagsOf k⟩ settings).run' 0 := by
  have erased := (invertWith_converge agrees marked tags h).run.left
  -- Erasing changes the inverse in nothing, so that it does not matter how deep its tags lie.
  have unchanged (k : Nat) : Run.Follows (flip (Schema.Resembles .plain))
      ((s'.erased.invertWith ⟨owner', plans.tagsOf k⟩ settings).run' 0)
      fun k => (s'.invertWith ⟨owner', plans.tagsOf k⟩ settings).run' 0 := by
    have own : GoesWith settings .plain .plain owner' owner' := fun n _ _ _ _ same => by
      cases same
      rfl
    refine (invertWith_converge own Function.injective_id (fun {_ _ _ _} same => ?_) rfl).run.right
    cases same
    exact .self fun k hk => plans.tagsOf_deeper hk _ _
  refine (erased.trans unchanged).weaken fun {t t'} ⟨b, first, second⟩ => ?_
  have plain : t'.Resembles .plain b := second
  have same : t'.Resembles inverse b := plain.coarser (fun h => by cases h; rfl) fun h => by
    cases h
    rfl
  exact first.trans same.symm

end

end Plans

/-! ## Lazy nodes -/

/-- What is seen of inverses: those of lazy nodes of one name have one name. -/
def View.inverse (view : View) : View where
  name id
    | .getter fn => (id, .getter fn)
    | .inverse settings base of =>
      (default, .inverse settings (view.name base of).1 (view.name base of).2)

namespace Plans

variable {plans : Plans} {view : View}

theorem inverse_goesWith (settings : InversionSettings) (view : View) (owner owner' : LazyId) :
    GoesWith settings view view.inverse owner owner' := by
  intro n id id' origin origin' same
  simp only [View.inverse, same]

theorem Consistent.follows {R : Schema → Schema → Prop} (h : plans.Consistent view R) (d : Nat)
    {id id' : LazyId} {origin origin' : Origin}
    (name : view.name id origin = view.name id' origin') :
    Run.Follows R (plans.schemaOf d id origin) fun k => plans.schemaOf k id' origin' := by
  intro w
  refine ⟨fun s hs => ?_, fun f hf => ?_⟩
  · obtain ⟨s', given, related⟩ := h.gives name (gives_of_yields (.of_result hs))
    exact ⟨s', related, given.deep⟩
  · by_cases deep : f = .fault .tooDeep
    · exact .inl deep
    · have fails : plans.Fails id origin f := by
        have anywhere := schemaOf_deeper plans (Nat.le_refl d) id origin w {}
        exact ⟨d, by simp_all⟩
      exact .inr ((h.fails name fails deep).deep deep)

variable (consistent : plans.Consistent view fun s s' => s.erased.Resembles view s'.erased)
  (marked : Function.Injective view.mark)

include consistent marked

/-- The inverses of lazy nodes of one name stand for schemas that resemble each other, and have the
same tags. -/
theorem inverses_named (d : Nat) : ∀ {id id' : LazyId} {origin origin' : Origin},
    view.inverse.name id origin = view.inverse.name id' origin' →
    Run.Follows (Schema.Resembles view.inverse) (plans.schemaOf d id origin)
        (fun k => plans.schemaOf k id' origin') ∧
      Run.Follows Eq (plans.tagsOf d id origin) fun k => plans.tagsOf k id' origin' := by
  induction d with
  | zero => exact fun _ => ⟨.deep, .deep⟩
  | succ d ih =>
    have tags {id id' : LazyId} {origin origin' : Origin}
        (name : view.inverse.name id origin = view.inverse.name id' origin') :
        Run.Converge d Eq (fun k => plans.tagsOf k id origin) fun k => plans.tagsOf k id' origin' :=
      ⟨(ih name).2, (ih name.symm).2.weaken Eq.symm⟩
    intro id id' origin origin' name
    constructor
    · cases origin with
      | getter fn =>
        cases origin' with
        | getter fn' =>
          cases name
          exact .of_deeper (n := fun k => plans.schemaOf k id (.getter fn))
            (R := Schema.Resembles view.inverse) .refl fun k hk => plans.schemaOf_deeper hk id _
        | inverse settings base of => cases name
      | inverse settings base of =>
        cases origin' with
        | getter fn' => cases name
        | inverse settings' base' of' =>
          obtain ⟨-, inverted⟩ := Prod.mk.inj name
          obtain ⟨rfl, first, second⟩ := Origin.inverse.inj inverted
          have based := consistent.follows d (Prod.ext first second)
          have made := based.bind fun same => inverses_follow
            (inverse_goesWith settings view id id') marked tags same
          exact made.succ fun _ _ => rfl
    · have tagged := (ih name).1.bind fun same => (tagValues_converge tags same).left
      exact tagged.succ fun _ _ => rfl

end Plans
end TwoWay
