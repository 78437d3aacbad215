import TwoWay.Proofs.Inversion.Ending

/-!
# How inversion fails

A tree of known kinds is not inverted if an effect in it may not be dropped. Besides, the table of
an inverse discriminated union is made anew, and that may fail: inversion turns two-way nodes and
pipelines round, so that a tag field with such a node in it shows other tags than before
(`Plans.Turns`), which may be repeated or be no keys. It shows some tags in any case
(`Plans.tags_mirrored`). All other tag fields show the tags that they showed before. So these are
the only ways to fail, if looking behind the lazy nodes in tag fields does not fail by itself
(`Library.invert_stops`).
-/

namespace TwoWay

/-- Nodes over a schema that show the tags of the schema, and some of them more. -/
def Schema.isTagWrapper : Schema → Bool
  | .effect .. | .branded .. | .readonly .. | .default .. | .catch .. | .nullable ..
  | .optional .. => true
  | _ => false

namespace Plans

section
variable (plans : Plans)

/-- Tag fields whose tags are those of a two-way node or a pipeline. -/
inductive Turns : Schema → Prop
  | pipeline {first second} : Turns (.pipeline first second)
  | invertible {input parse output format} : Turns (.invertible input parse output format)
  | under {s inner} : s.isTagWrapper → inner ∈ s.children → Turns inner → Turns s
  | lazy {id origin s} : plans.Gives id origin s → Turns s → Turns (.lazy id origin)

/-- Options with a tag field whose tags are turned round. -/
def TurnsUnder (key : String) (options : List Schema) : Prop :=
  ∃ shape catchall policy field, .object shape catchall policy ∈ options ∧
    Schema.field? shape key = some field ∧ plans.Turns field

/-- What inverting schemas of a family may fail with. -/
inductive Stops (schemas : Schema → Prop) : Failure → Prop
  | oneWay {kind action inner} : kind ≠ .refinement → schemas (.effect kind action false inner) →
    Stops schemas (.oneWay kind)
  | repeated {key options table value} : schemas (.tagged key options table) →
    plans.TurnsUnder key options →
    Stops schemas (.malformed (.repeatedTagValue (Text.quoted key) value))
  | unhashable {key options table type} : schemas (.tagged key options table) →
    plans.TurnsUnder key options → Stops schemas (.fault (.unhashable type))
  /-- What a lazy node stands for cannot be made. -/
  | behind {id origin f} : schemas (.lazy id origin) → plans.Fails id origin f → Stops schemas f
  | tooDeep : Stops schemas (.fault .tooDeep)

/-- Schemas of known kinds that refer to each other by lazy nodes: what these stand for is one of
them, if it is anything, and their discriminated unions were made with their tables. -/
structure Familiar (schemas : Schema → Prop) : Prop where
  child : ∀ s, schemas s → ∀ c ∈ s.children, schemas c
  behind : ∀ id origin s, schemas (.lazy id origin) → plans.Gives id origin s → schemas s
  tables : ∀ key options table, schemas (.tagged key options table) →
    plans.Tabulates key options table
  known : ∀ s, schemas s → s.isKnown

end

variable {plans : Plans} {settings : InversionSettings} {schemas : Schema → Prop}

/-! ## Tags of inverses -/

/-- Tags of a schema and of its inverse: these are some if those are, and the same if nothing was
turned round. -/
def TagsMirrored (plans : Plans) (s : Schema) (values values' : List Datum) : Prop :=
  (values' = [] → values = []) ∧ (¬plans.Turns s → values' = values)

theorem TagsMirrored.refl {s : Schema} {values : List Datum} :
    plans.TagsMirrored s values values := ⟨id, fun _ => rfl⟩

theorem TagsMirrored.under {s inner : Schema} {values values' : List Datum}
    (h : plans.TagsMirrored inner values values') (wrapper : s.isTagWrapper)
    (child : inner ∈ s.children) : plans.TagsMirrored s values values' :=
  ⟨h.1, fun straight => h.2 fun turns => straight (.under wrapper child turns)⟩

theorem TagsMirrored.append {s : Schema} {values values' : List Datum}
    (h : plans.TagsMirrored s values values') (more : Datum) :
    plans.TagsMirrored s (values ++ [more]) (values' ++ [more]) :=
  ⟨fun none => absurd none (by simp), fun straight => by rw [h.2 straight]⟩

/-- The tags of a pipeline, or of what looks like one, are turned round. -/
theorem tagsMirrored_turned {s first second first' second' : Schema}
    {lookUp lookUp' : LazyId → Origin → Run (List Datum)} {values values' : List Datum}
    (turns : plans.Turns s)
    (hv : (do
      let values ← first.tagValues lookUp
      if values.isEmpty then second.tagValues lookUp else return values).Yields values)
    (hv' : (do
      let values ← second'.tagValues lookUp'
      if values.isEmpty then first'.tagValues lookUp' else return values).Yields values')
    (hfirst : ∀ {values values'}, (first.tagValues lookUp).Yields values →
      (first'.tagValues lookUp').Yields values' → plans.TagsMirrored first values values')
    (hsecond : ∀ {values values'}, (second.tagValues lookUp).Yields values →
      (second'.tagValues lookUp').Yields values' → plans.TagsMirrored second values values') :
    plans.TagsMirrored s values values' := by
  refine ⟨fun none => ?_, fun straight => absurd turns straight⟩
  subst none
  obtain ⟨front', hfront', hv'⟩ := hv'.bind
  obtain ⟨front, hfront, hv⟩ := hv.bind
  -- The inverse shows no tags on either side.
  have sides : front' = [] ∧ (first'.tagValues lookUp').Yields [] := by
    split at hv'
    · exact ⟨List.isEmpty_iff.1 ‹_›, hv'⟩
    · cases hv'.pure
      exact absurd rfl ‹_›
  obtain ⟨rfl, back'⟩ := sides
  cases (hfirst hfront back').1 rfl
  exact (hsecond hv hfront').1 rfl

/-- What holds of the tags behind lazy nodes holds of the tags of a tree and of its inverse. -/
theorem tagsMirrored_tree {lookUp lookUp' : LazyId → Origin → Run (List Datum)}
    (behind : ∀ {id id' origin values values'}, (lookUp id origin).Yields values →
      (lookUp' id' (.inverse settings id origin)).Yields values' →
      plans.TagsMirrored (.lazy id origin) values values')
    {s t : Schema} (ht : plans.Inverts settings s t) {values values' : List Datum}
    (hv : (s.tagValues lookUp).Yields values) (hv' : (t.tagValues lookUp').Yields values') :
    plans.TagsMirrored s values values' := by
  induction s using Schema.child_induction generalizing t values values' with
  | step s ih =>
    have inner (c : Schema) (hc : c ∈ s.children) (wrapper : s.isTagWrapper)
        (ht : plans.Inverts settings c t) {values values' : List Datum}
        (hv : (c.tagValues lookUp).Yields values) (hv' : (t.tagValues lookUp').Yields values') :
        plans.TagsMirrored s values values' := (ih c hc ht hv hv').under wrapper hc
    cases ht
    case leaf leaf =>
      have same : values = values' := by
        cases s <;> first | exact hv.pure.symm.trans hv'.pure | cases leaf
      exact same ▸ .refl
    case lazy => exact behind hv hv'
    case default c _ inverts | «catch» c _ inverts | branded c _ inverts =>
      exact inner c (List.mem_singleton_self _) rfl inverts hv hv'
    case elided c _ inverts => exact inner c (List.mem_singleton_self _) rfl inverts hv hv'
    case readonly c t inverts =>
      exact (ih c (List.mem_singleton_self _) inverts hv hv').under rfl (List.mem_singleton_self _)
    case refinement c t inverts =>
      -- The refinement stands over an `any` node, which shows no tags.
      obtain ⟨front, hfront, hv'⟩ := hv'.bind
      cases hfront.pure
      exact (ih c (List.mem_singleton_self _) inverts hv hv').under rfl (List.mem_singleton_self _)
    case nullable c t inverts | optional c t inverts =>
      obtain ⟨own, hown, hv⟩ := hv.bind
      obtain ⟨own', hown', hv'⟩ := hv'.bind
      cases hv.pure
      cases hv'.pure
      have mirrored := ih c (List.mem_singleton_self _) inverts hown hown'
      exact (mirrored.under rfl (List.mem_singleton_self _)).append _
    case pipeline first first' second second' inverts inverts' =>
      exact tagsMirrored_turned .pipeline hv hv' (ih first (by simp [Schema.children]) inverts)
        (ih second (by simp [Schema.children]) inverts')
    case invertible first first' second second' _ _ inverts inverts' =>
      exact tagsMirrored_turned .invertible hv hv' (ih first (by simp [Schema.children]) inverts)
        (ih second (by simp [Schema.children]) inverts')
    all_goals
      cases hv.pure
      cases hv'.pure
      exact .refl

/-- An inverse shows tags if the schema does, and the same tags if nothing is turned round. -/
theorem tags_mirrored {m n : Nat} {s t : Schema} (ht : plans.Inverts settings s t)
    {values values' : List Datum} (hv : (s.tagValues (plans.tagsOf m)).Yields values)
    (hv' : (t.tagValues (plans.tagsOf n)).Yields values') :
    plans.TagsMirrored s values values' := by
  induction n generalizing m s t values values' with
  | zero =>
    exact tagsMirrored_tree (fun _ h => absurd h Run.not_yields_throw) ht hv hv'
  | succ n ih =>
    refine tagsMirrored_tree (fun {id id' origin _ _} hv hv' => ?_) ht hv hv'
    cases m with
    | zero => exact absurd hv Run.not_yields_throw
    | succ m =>
      obtain ⟨s, hs, hv⟩ := hv.bind
      obtain ⟨t, ht, hv'⟩ := hv'.bind
      obtain ⟨s', hs', inverts⟩ := (gives_of_yields ht).inverts
      have given := gives_of_yields hs
      cases hs'.unique given
      obtain ⟨some, same⟩ := ih inverts hv hv'
      exact ⟨some, fun straight => same fun turns => straight (.lazy given turns)⟩

/-! ## Runs that fail in certain ways -/

/-- From a faithful world a run leads to a faithful one, what it gives has `Q`, and it fails in
certain ways only. -/
structure Confined (plans : Plans) {α : Type} (fails : Failure → Prop) (m : Run α)
    (Q : α → Prop) : Prop where
  ensures : plans.Ensures m Q
  failed : ∀ w, plans.Faithful w → ∀ f, m.result w = .error f → fails f

namespace Confined

variable {α β : Type} {fails : Failure → Prop} {P Q : α → Prop} {m : Run α}

theorem bind {k : α → Run β} {R : β → Prop} (hm : plans.Confined fails m P)
    (hk : ∀ a, P a → plans.Confined fails (k a) R) : plans.Confined fails (m >>= k) R := by
  refine ⟨.bind hm.ensures fun a ha => (hk a ha).ensures, fun w hw f hf => ?_⟩
  rw [Run.result_bind] at hf
  obtain ⟨hfinal, given⟩ := hm.ensures w hw
  cases hr : m.result w with
  | ok a =>
    rw [hr] at hf
    exact (hk a (given a hr)).failed _ hfinal f hf
  | error g =>
    rw [hr] at hf
    exact Except.error.inj hf ▸ hm.failed w hw g hr

theorem ensuring (h : plans.Confined fails m P) (hq : plans.Ensures m Q) :
    plans.Confined fails m Q := ⟨hq, h.failed⟩

/-- What is given does not matter. -/
theorem plain (h : plans.Confined fails m P) : plans.Confined fails m fun _ => True :=
  ⟨h.ensures.weaken fun _ _ => trivial, h.failed⟩

end Confined

/-- Runs that fail in certain ways, as what can be said of making. -/
def confining (plans : Plans) (fails : Failure → Prop) : plans.Triple Unit where
  Holds m Q := plans.Confined fails (m ()) Q
  allows := fails
  logs _ := True
  pure h := ⟨.pure h, fun _ _ _ => nofun⟩
  fail h := ⟨.throw _ _, fun _ _ _ same => Except.error.inj same ▸ h⟩
  log _ _ := ⟨.record _, fun _ _ _ => nofun⟩
  bind := .bind
  ensuring h hq := h.ensuring (hq ())

/-- Forcing a lazy node fails as making what it stands for does. -/
theorem force_fails {depth : Nat} {id : LazyId} {origin : Origin} {w : World} {f : Failure}
    (h : (plans.force (depth + 1) id origin).result w = .error f) :
    (plans.unforced depth id origin).result w = .error f := by
  rw [force_succ, Run.result_bind, Run.result_get, Run.final_get] at h
  cases hmem : w.forced? id origin with
  | some s => simp only [hmem, Run.result_pure, reduceCtorEq] at h
  | none =>
    simp only [hmem, Run.result_bind] at h
    cases hr : (plans.unforced depth id origin).result w with
    | error g =>
      rw [hr] at h
      exact h
    | ok s =>
      rw [hr] at h
      cases h

/-- A lazy node of a family can be forced, unless it stands for nothing. -/
theorem force_confined {id : LazyId} {origin : Origin} (hs : schemas (.lazy id origin))
    (depth : Nat) :
    plans.Confined (plans.Stops schemas) (plans.force depth id origin)
      (plans.Gives id origin) := by
  refine ⟨.force depth id origin, fun w hw f hf => ?_⟩
  cases hr : plans.force depth id origin w with
  | ok s w' =>
    simp only [Run.result, hr] at hf
    cases hf
  | error g w' =>
    simp only [Run.result, hr, Except.error.injEq] at hf
    exact hf ▸ .behind hs (force_error hw hr).2

/-- Tags that are found in a faithful world are found without its memory. -/
theorem Faithful.tagValues {w : World} (hw : plans.Faithful w) {depth : Nat} {s : Schema}
    {values : List Datum}
    (h : (s.tagValues (plans.tagsBehind depth)).result w = .ok values) :
    ∃ n, (s.tagValues (plans.tagsOf n)).Yields values := by
  have found : plans.remembering.Holds (beside (s.tagValues (plans.tagsBehind depth))
      fun n => s.tagValues (plans.tagsOf n)) :=
    holds_beside (Run.Law.tagValues (remembers depth).tagsBehind s)
  obtain ⟨-, hresult⟩ := found w hw
  simp only [beside, h, reduceCtorEq, false_or] at hresult
  obtain ⟨n, hn⟩ := hresult
  exact ⟨n, .of_result (hn n (Nat.le_refl n) {})⟩

namespace Familiar

variable (h : plans.Familiar schemas)
include h

/-- The inverse of a schema of the family is a schema. -/
theorem isSchema {s t : Schema} (hs : schemas s) (ht : plans.Inverts settings s t) :
    t.isSchema := by
  induction s using Schema.child_induction generalizing t with
  | step s ih =>
    have inner (c : Schema) (hc : c ∈ s.children) (ht : plans.Inverts settings c t) :
        t.isSchema := ih c hc (h.child s hs c hc) ht
    have known := h.known s hs
    cases ht
    case default c _ inverts | «catch» c _ inverts | branded c _ inverts
      | elided c _ inverts => exact inner c (List.mem_singleton_self _) inverts
    case leaf => cases s <;> first | rfl | cases known
    all_goals rfl

/-- The table of an inverse union fails only where tags are turned round. -/
theorem ofTagged {depth : Nat}
    (behind : ∀ id origin, schemas (.lazy id origin) → ∀ id', plans.Confined (plans.Stops schemas)
      (plans.tagsBehind depth id' (.inverse settings id origin)) fun _ => True)
    {key : String} {options options' : List Schema} {table : List (Datum × Nat)}
    (union : schemas (.tagged key options table))
    (inverted : List.Forall₂ (plans.Inverts settings) options options') (owner : LazyId) :
    plans.Confined (plans.Stops schemas)
      (Schema.ofTagged ⟨owner, plans.tagsBehind depth⟩ key options') fun _ => True := by
  obtain ⟨owner', n, made⟩ := h.tables key options table union
  let T := plans.confining (plans.Stops schemas)
  suffices tabled : T.Holds
      (fun _ => Schema.tagTable ⟨owner, plans.tagsBehind depth⟩ key 0 options' [])
      fun table' => ¬plans.TurnsUnder key options → table' = table from
    T.bind tabled fun _ _ => T.pure trivial
  refine Triple.tagTable_mirrored inverted (fun turns => ?_) ?_ (fun _ => rfl) made
  · have turns := Classical.not_not.1 turns
    exact ⟨fun _ => .unhashable union turns, fun _ => .repeated union turns⟩
  · intro shape catchall policy field option declared values hv field' inverts
    have member := h.child _ (h.child _ union _ option) field
      (List.mem_append_left _ (Schema.field?_mem declared))
    have shown : T.Holds (fun _ => field'.tagValues (plans.tagsBehind depth)) fun _ => True := by
      refine Triple.tagValues fun id' origin' ahead => ?_
      obtain ⟨id, origin, inside, rfl⟩ := inverts.tagLazies ahead
      exact behind id origin (Schema.tagLazies_within h.child member inside) id'
    refine T.ensuring shown fun _ w hw => ?_
    -- What is shown in a faithful world is shown without its memory.
    obtain ⟨hfinal, given⟩ := (shown.ensures w hw)
    refine ⟨hfinal, fun values' hv' => ?_⟩
    obtain ⟨n', hv'⟩ := hw.tagValues hv'
    obtain ⟨some, same⟩ := tags_mirrored inverts hv hv'
    exact ⟨some, fun straight => same fun turns =>
      straight ⟨shape, catchall, policy, field, option, declared, turns⟩⟩

/-- Inverting a schema of the family, if looking behind the inverses of its lazy nodes does. -/
theorem inverting {depth : Nat}
    (behind : ∀ id origin, schemas (.lazy id origin) → ∀ id', plans.Confined (plans.Stops schemas)
      (plans.tagsBehind depth id' (.inverse settings id origin)) fun _ => True)
    {s : Schema} (hs : schemas s) (owner : LazyId) :
    plans.Confined (plans.Stops schemas)
      ((s.invertWith ⟨owner, plans.tagsBehind depth⟩ settings).run' 0)
      (plans.Inverts settings s) := by
  suffices covers : (plans.confining (plans.Stops schemas)).Covers settings schemas
      fun _ => depth from Triple.Makes.run (Triple.inverting covers hs)
  refine {
    child := h.child
    part := fun s t hs inverts => .inl (h.isSchema hs inverts)
    elided := fun kind action elidable inner hs => ?_
    unknown := fun s hs unknown => absurd (h.known s hs) (by simp [unknown])
    union := fun key options table union options' inverted owner =>
      h.ofTagged behind union inverted owner }
  by_cases other : kind = .refinement
  · exact .inl other
  · refine .inr ?_
    cases elidable with
    | true => exact trivial
    | false => exact .oneWay other hs

/-- Looking behind the inverse of a lazy node, and forcing it, by the depth that is left. -/
theorem lookingBehind (settings : InversionSettings) (depth : Nat) :
    (∀ id origin, schemas (.lazy id origin) → ∀ id', plans.Confined (plans.Stops schemas)
      (plans.tagsBehind depth id' (.inverse settings id origin)) fun _ => True) ∧
    ∀ id origin, schemas (.lazy id origin) → ∀ id', plans.Confined (plans.Stops schemas)
      (plans.force depth id' (.inverse settings id origin))
      (plans.Gives id' (.inverse settings id origin)) := by
  induction depth with
  | zero =>
    exact ⟨fun _ _ _ _ => ⟨.throw _ _, fun _ _ _ same => Except.error.inj same ▸ .tooDeep⟩,
      fun _ _ _ _ => ⟨.throw _ _, fun _ _ _ same => Except.error.inj same ▸ .tooDeep⟩⟩
  | succ depth ih =>
    obtain ⟨looked, forced⟩ := ih
    refine ⟨fun id origin hs id' => ?_, fun id origin hs id' => ⟨.force _ _ _, ?_⟩⟩
    · refine (forced id origin hs id').bind fun t ht => ?_
      obtain ⟨s, given, inverts⟩ := ht.inverts
      have member := h.behind id origin s hs given
      change (plans.confining (plans.Stops schemas)).Holds
        (fun _ => t.tagValues (plans.tagsBehind depth)) fun _ => True
      refine Triple.tagValues fun id' origin' ahead => ?_
      obtain ⟨id, origin, inside, rfl⟩ := inverts.tagLazies ahead
      exact looked id origin (Schema.tagLazies_within h.child member inside) id'
    · intro w hw f hf
      have inverted := (force_confined hs depth).bind
        (k := fun s => (s.invertWith ⟨id', plans.tagsBehind depth⟩ settings).run' 0)
        fun s given => (h.inverting looked (h.behind id origin s hs given) id').plain
      exact inverted.failed w hw f (force_fails hf)

end Familiar
end Plans

/-- Inverting a schema of known kinds fails only at an effect that may not be dropped, at a
discriminated union with a tag field that is turned round, where a lazy node stands for nothing,
or by going too deep. -/
theorem Library.invert_stops (lib : Library) {schemas : Schema → Prop}
    (h : lib.plans.Familiar schemas) {s : Schema} (hs : schemas s) (depth step : Nat)
    (settings : InversionSettings) {w w' : World} (hw : lib.plans.Faithful w) {f : Failure}
    (hf : lib.invert depth step settings s w = .error f w') : lib.plans.Stops schemas f := by
  have inverted := h.inverting (h.lookingBehind settings depth).1 hs (.step step)
  refine inverted.failed w hw f ?_
  change (lib.invert depth step settings s).result w = .error f
  rw [Run.result, hf]

/-! Two letters that are read as one: there is no telling which of them to write. -/

namespace Merging

def write (fn : FunctionRef) : Datum := if fn.id = 0 then .str "a" else .str "b"

def library : Library where
  host := {
    effect := fun fn _ _ => ⟨[], .ok (if fn.id = 2 then .str "x" else write fn)⟩
    check := fun _ _ => ⟨[], .ok .none⟩
    supply := fun _ => ⟨[], .ok .none⟩
    rescue := fun _ _ => ⟨[], .ok .none⟩
    call := fun _ _ => ⟨[], .ok .none⟩
    isAsync := fun _ => false }
  plans := { getter := fun _ => { schema := .any }, definition := fun _ => .any }

/-- A letter that is read as `x`, and written by a function of its own. -/
def letter (text : String) (writer : FunctionRef) : Schema :=
  .invertible (.literal (.str text)) ⟨2, "const"⟩ (.literal (.str "x")) writer

def first : Schema := letter "a" ⟨0, "const"⟩

def second : Schema := letter "b" ⟨1, "const"⟩

def options : List Schema := [
  .object [("t", first)] none .strip,
  .object [("t", second)] none .strip]

def union : Schema := .tagged "t" options [(.str "a", 0), (.str "b", 1)]

/-- The union and what stands in it. -/
def nodes : List Schema :=
  union :: options ++ [first, second, .literal (.str "a"), .literal (.str "b"), .literal (.str "x")]

theorem children_subset : ∀ s ∈ nodes, s.children ⊆ nodes := by
  simp [nodes, options, union, first, second, letter, Schema.children]

theorem familiar : library.plans.Familiar (· ∈ nodes) where
  child s hs c hc := children_subset s hs hc
  behind _ _ _ hs := by simp [nodes, options, union, first, second, letter] at hs
  tables key options' table hs := by
    simp only [nodes, options, union, first, second, letter, List.cons_append, List.nil_append,
      List.mem_cons, List.not_mem_nil, or_false, reduceCtorEq] at hs
    cases hs
    exact ⟨.step 0, 0, {}, {}, rfl⟩
  known := by simp [nodes, options, union, first, second, letter, Schema.isKnown]

/-- Both inverses would be told by the same tag, so that there is no inverse of the union. -/
theorem inverts_to_clash : union.isKnown ∧
    library.plans.Tabulates "t" options [(.str "a", 0), (.str "b", 1)] ∧
    library.invert 1 0 {} union {} =
      .error (.malformed (.repeatedTagValue (Text.quoted "t") (Value.str "x" : Datum).quoted)) {} :=
  ⟨rfl, ⟨.step 0, 0, {}, {}, rfl⟩, rfl⟩

/-- That is a way to fail which a union with such tag fields has. -/
theorem clash_is_turned : library.plans.Familiar (· ∈ nodes) ∧ union ∈ nodes ∧
    library.plans.Stops (· ∈ nodes)
      (.malformed (.repeatedTagValue (Text.quoted "t") (Value.str "x" : Datum).quoted)) :=
  ⟨familiar, List.mem_cons_self .., Library.invert_stops library familiar (List.mem_cons_self ..)
    1 0 {} .empty rfl⟩

end Merging
end TwoWay
