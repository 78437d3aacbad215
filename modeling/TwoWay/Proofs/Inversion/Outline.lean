import TwoWay.Proofs.Inversion.Rules

/-!
# Outlines

Two schemas may differ in which of their effects may be elided, or in what stands behind their lazy
nodes, and be the same to look at otherwise. `Schema.outline` is what is looked at: lazy nodes go by
a name there, and it is up to the view whether the marks of effects are seen. Schemas resemble each
other if they have the same outline. They are the same node then, over parts that resemble each
other (`Schema.Resembles.sameNode`).
-/

namespace TwoWay

/-- What is seen of a schema: a lazy node by a name, and the mark of an effect. -/
structure View where
  name : LazyId → Origin → LazyId × Origin
  mark : Bool → Bool := id

/-- Everything is seen as it is. -/
def View.plain : View := ⟨fun id origin => (id, origin), id⟩

/-- Nothing is seen of the marks. -/
def View.unmarked (view : View) : View := { view with mark := fun _ => false }

namespace Schema

mutual

/-- A schema with everything in it as it is seen. -/
def outline (view : View) : Schema → Schema
  | .array element lengths => .array (outline view element) lengths
  | .object shape catchall policy =>
    .object (outlineFields view shape) (outlineOption view catchall) policy
  | .union options => .union (outlineAll view options)
  | .tagged tag options table => .tagged tag (outlineAll view options) table
  | .intersection left right => .intersection (outline view left) (outline view right)
  | .tuple items rest => .tuple (outlineAll view items) (outlineOption view rest)
  | .record key value => .record (outline view key) (outline view value)
  | .map key value => .map (outline view key) (outline view value)
  | .set element => .set (outline view element)
  | .function items rest returns =>
    .function (outlineAll view items) (outlineOption view rest) (outline view returns)
  | .lazy id origin => .lazy (view.name id origin).1 (view.name id origin).2
  | .effect kind action elidable inner =>
    .effect kind action (view.mark elidable) (outline view inner)
  | .optional inner => .optional (outline view inner)
  | .nullable inner => .nullable (outline view inner)
  | .default inner supply => .default (outline view inner) supply
  | .catch inner supply => .catch (outline view inner) supply
  | .promise inner => .promise (outline view inner)
  | .branded inner name => .branded (outline view inner) name
  | .pipeline input output => .pipeline (outline view input) (outline view output)
  | .invertible input parse output format =>
    .invertible (outline view input) parse (outline view output) format
  | .readonly inner => .readonly (outline view inner)
  | s => s
  termination_by structural s => s

def outlineAll (view : View) : List Schema → List Schema
  | [] => []
  | s :: rest => outline view s :: outlineAll view rest
  termination_by structural xs => xs

def outlineFields (view : View) : List (String × Schema) → List (String × Schema)
  | [] => []
  | (key, s) :: rest => (key, outline view s) :: outlineFields view rest
  termination_by structural fields => fields

def outlineOption (view : View) : Option Schema → Option Schema
  | some s => some (outline view s)
  | Option.none => Option.none
  termination_by structural o => o

end

/-- Schemas that look the same. -/
def Resembles (view : View) (s t : Schema) : Prop := s.outline view = t.outline view

/-- The same node, over parts that resemble each other. -/
inductive SameNode (view : View) : Schema → Schema → Prop
  | leaf {s} : s.isLeaf → SameNode view s s
  | array {e e' lengths} : e.Resembles view e' →
    SameNode view (.array e lengths) (.array e' lengths)
  | object {shape shape' rest rest' policy} : Fieldwise (Resembles view) shape shape' →
    Option.Rel (Resembles view) rest rest' →
    SameNode view (.object shape rest policy) (.object shape' rest' policy)
  | union {options options'} : List.Forall₂ (Resembles view) options options' →
    SameNode view (.union options) (.union options')
  | tagged {key options options' table} : List.Forall₂ (Resembles view) options options' →
    SameNode view (.tagged key options table) (.tagged key options' table)
  | intersection {l l' r r'} : l.Resembles view l' → r.Resembles view r' →
    SameNode view (.intersection l r) (.intersection l' r')
  | tuple {items items' rest rest'} : List.Forall₂ (Resembles view) items items' →
    Option.Rel (Resembles view) rest rest' →
    SameNode view (.tuple items rest) (.tuple items' rest')
  | record {k k' v v'} : k.Resembles view k' → v.Resembles view v' →
    SameNode view (.record k v) (.record k' v')
  | map {k k' v v'} : k.Resembles view k' → v.Resembles view v' →
    SameNode view (.map k v) (.map k' v')
  | set {e e'} : e.Resembles view e' → SameNode view (.set e) (.set e')
  | function {items items' rest rest' r r'} : List.Forall₂ (Resembles view) items items' →
    Option.Rel (Resembles view) rest rest' → r.Resembles view r' →
    SameNode view (.function items rest r) (.function items' rest' r')
  | lazy {id id' origin origin'} : view.name id origin = view.name id' origin' →
    SameNode view (.lazy id origin) (.lazy id' origin')
  | effect {kind action elidable elidable' s s'} : view.mark elidable = view.mark elidable' →
    s.Resembles view s' →
    SameNode view (.effect kind action elidable s) (.effect kind action elidable' s')
  | optional {s s'} : s.Resembles view s' → SameNode view (.optional s) (.optional s')
  | nullable {s s'} : s.Resembles view s' → SameNode view (.nullable s) (.nullable s')
  | default {s s' supply} : s.Resembles view s' →
    SameNode view (.default s supply) (.default s' supply)
  | catch {s s' supply} : s.Resembles view s' →
    SameNode view (.catch s supply) (.catch s' supply)
  | promise {s s'} : s.Resembles view s' → SameNode view (.promise s) (.promise s')
  | branded {s s' name} : s.Resembles view s' →
    SameNode view (.branded s name) (.branded s' name)
  | pipeline {s s' t t'} : s.Resembles view s' → t.Resembles view t' →
    SameNode view (.pipeline s t) (.pipeline s' t')
  | invertible {s s' t t' parse format} : s.Resembles view s' → t.Resembles view t' →
    SameNode view (.invertible s parse t format) (.invertible s' parse t' format)
  | readonly {s s'} : s.Resembles view s' → SameNode view (.readonly s) (.readonly s')

variable {view : View} {s t : Schema}

theorem Resembles.refl (s : Schema) : s.Resembles view s := rfl

theorem Resembles.symm (h : s.Resembles view t) : t.Resembles view s := Eq.symm h

theorem Resembles.trans {u : Schema} (h : s.Resembles view t) (h' : t.Resembles view u) :
    s.Resembles view u := Eq.trans h h'

theorem outlineAll_eq {ss ts : List Schema} :
    outlineAll view ss = outlineAll view ts ↔ List.Forall₂ (Resembles view) ss ts := by
  induction ss generalizing ts with
  | nil =>
    cases ts with
    | nil => exact ⟨fun _ => .nil, fun _ => rfl⟩
    | cons t ts => exact ⟨nofun, nofun⟩
  | cons s ss ih =>
    cases ts with
    | nil => exact ⟨nofun, nofun⟩
    | cons t ts => rw [outlineAll, outlineAll, List.cons.injEq, List.forall₂_cons, ih, Resembles]

theorem outlineFields_eq {shape shape' : List (String × Schema)} :
    outlineFields view shape = outlineFields view shape' ↔
      Fieldwise (Resembles view) shape shape' := by
  induction shape generalizing shape' with
  | nil =>
    cases shape' with
    | nil => exact ⟨fun _ => .nil, fun _ => rfl⟩
    | cons f shape' => exact ⟨nofun, nofun⟩
  | cons f shape ih =>
    cases shape' with
    | nil => exact ⟨nofun, nofun⟩
    | cons g shape' =>
      obtain ⟨key, s⟩ := f
      obtain ⟨key', t⟩ := g
      rw [outlineFields, outlineFields, List.cons.injEq, Prod.mk.injEq, ih]
      constructor
      · rintro ⟨⟨rfl, same⟩, rest⟩
        exact .cons same rest
      · rintro (_ | ⟨same, rest⟩)
        exact ⟨⟨rfl, same⟩, rest⟩

theorem outlineOption_eq {o o' : Option Schema} :
    outlineOption view o = outlineOption view o' ↔ Option.Rel (Resembles view) o o' := by
  cases o <;> cases o'
  · exact ⟨fun _ => .none, fun _ => rfl⟩
  · exact ⟨nofun, nofun⟩
  · exact ⟨nofun, nofun⟩
  · rw [outlineOption, outlineOption, Option.some.injEq]
    exact ⟨fun h => .some h, fun (.some h) => h⟩

/-- Schemas that resemble each other are one node. -/
theorem Resembles.sameNode (h : s.Resembles view t) : SameNode view s t := by
  unfold Resembles at h
  -- Leaves of one outline are the same, and other nodes differ in their outlines if they differ.
  cases s <;> cases t <;> first | cases h; exact .leaf rfl | cases h | skip
  case array.array =>
    obtain ⟨element, rfl⟩ := array.inj h
    exact .array element
  case object.object =>
    obtain ⟨shape, rest, rfl⟩ := object.inj h
    exact .object (outlineFields_eq.1 shape) (outlineOption_eq.1 rest)
  case union.union => exact .union (outlineAll_eq.1 (union.inj h))
  case tagged.tagged =>
    obtain ⟨rfl, options, rfl⟩ := tagged.inj h
    exact .tagged (outlineAll_eq.1 options)
  case intersection.intersection =>
    obtain ⟨left, right⟩ := intersection.inj h
    exact .intersection left right
  case tuple.tuple =>
    obtain ⟨items, rest⟩ := tuple.inj h
    exact .tuple (outlineAll_eq.1 items) (outlineOption_eq.1 rest)
  case record.record =>
    obtain ⟨key, value⟩ := record.inj h
    exact .record key value
  case map.map =>
    obtain ⟨key, value⟩ := map.inj h
    exact .map key value
  case set.set => exact .set (set.inj h)
  case function.function =>
    obtain ⟨items, rest, returns⟩ := function.inj h
    exact .function (outlineAll_eq.1 items) (outlineOption_eq.1 rest) returns
  case lazy.lazy =>
    obtain ⟨id, origin⟩ := lazy.inj h
    exact .lazy (Prod.ext id origin)
  case effect.effect =>
    obtain ⟨rfl, rfl, mark, inner⟩ := effect.inj h
    exact .effect mark inner
  case optional.optional => exact .optional (optional.inj h)
  case nullable.nullable => exact .nullable (nullable.inj h)
  case default.default =>
    obtain ⟨inner, rfl⟩ := default.inj h
    exact .default inner
  case catch.catch =>
    obtain ⟨inner, rfl⟩ := catch.inj h
    exact .catch inner
  case promise.promise => exact .promise (promise.inj h)
  case branded.branded =>
    obtain ⟨inner, rfl⟩ := branded.inj h
    exact .branded inner
  case pipeline.pipeline =>
    obtain ⟨input, output⟩ := pipeline.inj h
    exact .pipeline input output
  case invertible.invertible =>
    obtain ⟨input, rfl, output, rfl⟩ := invertible.inj h
    exact .invertible input output
  case readonly.readonly => exact .readonly (readonly.inj h)

/-- One node over parts that resemble each other makes for a resemblance. -/
theorem SameNode.resembles (h : SameNode view s t) : s.Resembles view t := by
  unfold Resembles
  cases h
  case leaf leaf => rfl
  case array he => rw [outline, outline, he]
  case object hs hr =>
    rw [outline, outline, outlineFields_eq.2 hs, outlineOption_eq.2 hr]
  case union ho | tagged ho => rw [outline, outline, outlineAll_eq.2 ho]
  case intersection hl hr => rw [outline, outline, hl, hr]
  case tuple hi hr => rw [outline, outline, outlineAll_eq.2 hi, outlineOption_eq.2 hr]
  case record hk hv | map hk hv => rw [outline, outline, hk, hv]
  case function hi hr ht =>
    rw [outline, outline, outlineAll_eq.2 hi, outlineOption_eq.2 hr, ht]
  case lazy hn => rw [outline, outline, hn]
  case effect hm hs => rw [outline, outline, hm, hs]
  case pipeline hs ht | invertible hs ht => rw [outline, outline, hs, ht]
  case set hs | optional hs | nullable hs | promise hs | readonly hs => rw [outline, outline, hs]
  case default hs | «catch» hs | branded hs => rw [outline, outline, hs]

/-- What looks the same looks the same to a view that sees less. -/
theorem Resembles.coarser {view' : View} (names : ∀ {id id' origin origin'},
      view.name id origin = view.name id' origin' → view'.name id origin = view'.name id' origin')
    (marks : ∀ {b b'}, view.mark b = view.mark b' → view'.mark b = view'.mark b')
    (h : s.Resembles view t) : s.Resembles view' t := by
  induction s using Schema.child_induction generalizing t with
  | step s ih =>
    refine SameNode.resembles ?_
    cases h.sameNode <;> simp only [Schema.children, List.mem_append, List.mem_cons, List.mem_map,
      Option.mem_toList, List.not_mem_nil, or_false, forall_eq, or_imp, forall_and] at ih
    case leaf leaf => exact .leaf leaf
    case array he => exact .array (ih he)
    case object hs hr =>
      exact .object (.of_mem (fun f hf => ih.1 f.2 ⟨f, hf, rfl⟩) hs) (rel_of_child ih.2 hr)
    case union ho => exact .union (forall₂_of_mem ih ho)
    case tagged ho => exact .tagged (forall₂_of_mem ih ho)
    case intersection hl hr => exact .intersection (ih.1 hl) (ih.2 hr)
    case tuple hi hr => exact .tuple (forall₂_of_mem ih.1 hi) (rel_of_child ih.2 hr)
    case record hk hv => exact .record (ih.1 hk) (ih.2 hv)
    case map hk hv => exact .map (ih.1 hk) (ih.2 hv)
    case set he => exact .set (ih he)
    case function hi hr ht =>
      exact .function (forall₂_of_mem ih.1.1 hi) (rel_of_child ih.1.2 hr) (ih.2 ht)
    case lazy hn => exact .lazy (names hn)
    case effect hm he => exact .effect (marks hm) (ih he)
    case optional he => exact .optional (ih he)
    case nullable he => exact .nullable (ih he)
    case default he => exact .default (ih he)
    case «catch» he => exact .catch (ih he)
    case promise he => exact .promise (ih he)
    case branded he => exact .branded (ih he)
    case pipeline hs ht => exact .pipeline (ih.1 hs) (ih.2 ht)
    case invertible hs ht => exact .invertible (ih.1 hs) (ih.2 ht)
    case readonly he => exact .readonly (ih he)

end Schema

namespace Plans

variable (plans : Plans) (view : View)

/-- Lazy nodes of one name stand for schemas in relation, or fail alike. -/
structure Consistent (R : Schema → Schema → Prop) : Prop where
  gives : ∀ {id id' origin origin' s}, view.name id origin = view.name id' origin' →
    plans.Gives id origin s → ∃ s', plans.Gives id' origin' s' ∧ R s s'
  fails : ∀ {id id' origin origin' f}, view.name id origin = view.name id' origin' →
    plans.Fails id origin f → f ≠ .fault .tooDeep → plans.Fails id' origin' f

end Plans
end TwoWay
