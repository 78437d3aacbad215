import TwoWay.Proofs.Inversion.Mirror

/-!
# The shape of inverses

Nothing in an inverse substitutes a value, names a brand or maps one way only: what is left of
effects are the refinements, each over `any` at the head of a pipeline
(`Plans.Inverts.reversed`). Only the table of a discriminated union may look further than the
tree: behind the lazy nodes of its tag fields (`Schema.TagLazy`), whose own inversions wait to be
carried out.
-/

namespace TwoWay

namespace Schema

/-- Nodes that inversion drops or turns into something else. -/
def isOneWay : Schema → Bool
  | .default .. | .catch .. | .branded .. | .effect .. => true
  | _ => false

/-- Trees without defaults, fallbacks and brands, in which every effect is a refinement of `any`
at the head of a pipeline. Lazy nodes are not looked behind. -/
inductive Reversed : Schema → Prop
  | node {s : Schema} (h : s.isOneWay = false) (parts : ∀ c ∈ s.children, Reversed c) : Reversed s
  | refined {action : Action Live} {s : Schema} (h : Reversed s) :
    Reversed (.pipeline (.effect .refinement action false .any) s)

/-- The lazy nodes that may have to be looked behind for the tags of a field. -/
def tagLazies : Schema → List (LazyId × Origin)
  | .lazy id origin => [(id, origin)]
  | .effect _ _ _ inner | .branded inner _ | .readonly inner | .default inner _ | .catch inner _
  | .nullable inner | .optional inner => inner.tagLazies
  | .pipeline first second | .invertible first _ second _ => first.tagLazies ++ second.tagLazies
  | _ => []

/-- A lazy node in the tag field of an option of a discriminated union in the tree. -/
inductive TagLazy : Schema → LazyId → Origin → Prop
  | union {key : String} {options : List Schema} {table : List (Datum × Nat)}
    {shape : List (String × Schema)} {catchall : Option Schema} {policy : UnknownKeys}
    {field : Schema} {id : LazyId} {origin : Origin}
    (option : .object shape catchall policy ∈ options) (declared : field? shape key = some field)
    (ahead : (id, origin) ∈ field.tagLazies) : TagLazy (.tagged key options table) id origin
  | inside {s c : Schema} {id : LazyId} {origin : Origin} (hc : c ∈ s.children)
    (h : TagLazy c id origin) : TagLazy s id origin

/-- A leaf has no parts, and nothing has to be looked behind in it. -/
theorem leaf_alone {s : Schema} (h : s.isLeaf) :
    s.isOneWay = false ∧ s.children = [] ∧ s.tagLazies = [] := by
  cases s <;> first | exact ⟨rfl, rfl, rfl⟩ | cases h

theorem Fieldwise.right {R : Schema → Schema → Prop} {shape shape' : List (String × Schema)}
    (h : Fieldwise R shape shape') {c : Schema} (hc : c ∈ shape'.map (·.2)) :
    ∃ b ∈ shape.map (·.2), R b c := by
  induction h with
  | nil => cases hc
  | cons hst _ ih =>
    rw [List.map_cons] at hc
    rcases List.mem_cons.1 hc with rfl | hc
    · exact ⟨_, List.mem_cons_self .., hst⟩
    · obtain ⟨b, hb, related⟩ := ih hc
      exact ⟨b, List.mem_cons_of_mem _ hb, related⟩

theorem Fieldwise.swap {R : Schema → Schema → Prop} {shape shape' : List (String × Schema)}
    (h : Fieldwise R shape shape') : Fieldwise (fun t s => R s t) shape' shape := by
  induction h with
  | nil => exact .nil
  | cons hst _ ih => exact .cons hst ih

end Schema

section
variable {R : Schema → Schema → Prop}

theorem forall₂_right {xs ys : List Schema} (h : List.Forall₂ R xs ys) {c : Schema}
    (hc : c ∈ ys) : ∃ b ∈ xs, R b c := by
  induction h with
  | nil => cases hc
  | cons first _ ih =>
    rcases List.mem_cons.1 hc with rfl | hc
    · exact ⟨_, List.mem_cons_self .., first⟩
    · obtain ⟨b, hb, related⟩ := ih hc
      exact ⟨b, List.mem_cons_of_mem _ hb, related⟩

theorem rel_right {x y : Option Schema} (h : Option.Rel R x y) {c : Schema}
    (hc : c ∈ y.toList) : ∃ b ∈ x.toList, R b c := by
  cases h with
  | none => cases hc
  | some related =>
    rw [Option.toList_some, List.mem_singleton] at hc
    exact ⟨_, List.mem_singleton_self _, hc ▸ related⟩

end

namespace Plans

variable {plans : Plans} {settings : InversionSettings} {s t : Schema}

/-- An inverse is a node whose parts are inverses of parts, or checks what comes in before the
inverse of a part sees it, or is itself the inverse of a part. -/
theorem Inverts.form (h : plans.Inverts settings s t) :
    (t.isOneWay = false ∧ ∀ c ∈ t.children, ∃ b ∈ s.children, plans.Inverts settings b c) ∨
    (∃ action elidable b c, s = .effect .refinement action elidable b ∧
      plans.Inverts settings b c ∧ t = .pipeline (.effect .refinement action false .any) c) ∨
    ∃ b ∈ s.children, plans.Inverts settings b t := by
  cases h
  case leaf leaf =>
    obtain ⟨node, none, -⟩ := Schema.leaf_alone leaf
    refine .inl ⟨node, fun c hc => ?_⟩
    rw [none] at hc
    cases hc
  case refinement inner => exact .inr (.inl ⟨_, _, _, _, rfl, inner, rfl⟩)
  case elided inner | default inner | «catch» inner | branded inner =>
    exact .inr (.inr ⟨_, List.mem_singleton_self _, inner⟩)
  case lazy => exact .inl ⟨rfl, fun c hc => by cases hc⟩
  case array inner | set inner | optional inner | nullable inner | promise inner | readonly inner =>
    refine .inl ⟨rfl, fun c hc => ?_⟩
    exact ⟨_, List.mem_singleton_self _, List.mem_singleton.1 hc ▸ inner⟩
  case union options | tagged options _ => exact .inl ⟨rfl, fun c hc => forall₂_right options hc⟩
  case intersection left right | record left right | map left right =>
    refine .inl ⟨rfl, fun c hc => ?_⟩
    simp only [Schema.children, List.mem_cons, List.not_mem_nil, or_false] at hc
    rcases hc with rfl | rfl
    · exact ⟨_, by simp [Schema.children], left⟩
    · exact ⟨_, by simp [Schema.children], right⟩
  case pipeline input output | invertible input output =>
    refine .inl ⟨rfl, fun c hc => ?_⟩
    simp only [Schema.children, List.mem_cons, List.not_mem_nil, or_false] at hc
    rcases hc with rfl | rfl
    · exact ⟨_, by simp [Schema.children], output⟩
    · exact ⟨_, by simp [Schema.children], input⟩
  case object fields rest =>
    refine .inl ⟨rfl, fun c hc => ?_⟩
    rcases List.mem_append.1 hc with hc | hc
    · obtain ⟨b, hb, related⟩ := fields.right hc
      exact ⟨b, List.mem_append_left _ hb, related⟩
    · obtain ⟨b, hb, related⟩ := rel_right rest hc
      exact ⟨b, List.mem_append_right _ hb, related⟩
  case tuple items rest =>
    refine .inl ⟨rfl, fun c hc => ?_⟩
    rcases List.mem_append.1 hc with hc | hc
    · obtain ⟨b, hb, related⟩ := forall₂_right items hc
      exact ⟨b, List.mem_append_left _ hb, related⟩
    · obtain ⟨b, hb, related⟩ := rel_right rest hc
      exact ⟨b, List.mem_append_right _ hb, related⟩
  case function items rest returns =>
    refine .inl ⟨rfl, fun c hc => ?_⟩
    simp only [Schema.children, List.mem_append, List.mem_singleton] at hc ⊢
    rcases hc with (hc | hc) | rfl
    · obtain ⟨b, hb, related⟩ := forall₂_right items hc
      exact ⟨b, .inl (.inl hb), related⟩
    · obtain ⟨b, hb, related⟩ := rel_right rest hc
      exact ⟨b, .inl (.inr hb), related⟩
    · exact ⟨_, .inr rfl, returns⟩

/-- Inverses have the shape of inverses. -/
theorem Inverts.reversed (h : plans.Inverts settings s t) : t.Reversed := by
  induction s using Schema.child_induction generalizing t with
  | step s ih =>
    rcases h.form with ⟨node, parts⟩ | ⟨action, elidable, b, c, rfl, inner, rfl⟩ | ⟨b, hb, inner⟩
    · refine .node node fun c hc => ?_
      obtain ⟨b, hb, related⟩ := parts c hc
      exact ih b hb related
    · exact .refined (ih b (List.mem_singleton_self _) inner)
    · exact ih b hb inner

/-- The tags of an inverse are looked up behind the inverses of lazy nodes, if behind any. -/
theorem Inverts.tagLazies (h : plans.Inverts settings s t) {id : LazyId} {origin : Origin}
    (hl : (id, origin) ∈ t.tagLazies) :
    ∃ base of, (base, of) ∈ s.tagLazies ∧ origin = .inverse settings base of := by
  induction s using Schema.child_induction generalizing t with
  | step s ih =>
    cases h <;> simp only [Schema.children, List.mem_cons, List.not_mem_nil, or_false,
      forall_eq, or_imp, forall_and] at ih
    case leaf leaf =>
      rw [(Schema.leaf_alone leaf).2.2] at hl
      cases hl
    case lazy =>
      cases List.mem_singleton.1 hl
      exact ⟨_, _, List.mem_singleton_self _, rfl⟩
    case refinement inner | elided inner | default inner | «catch» inner | branded inner
      | optional inner | nullable inner | readonly inner => exact ih inner hl
    case pipeline input output | invertible input output =>
      rcases List.mem_append.1 hl with hl | hl
      · obtain ⟨base, of, hmem, same⟩ := ih.2 output hl
        exact ⟨base, of, List.mem_append_right _ hmem, same⟩
      · obtain ⟨base, of, hmem, same⟩ := ih.1 input hl
        exact ⟨base, of, List.mem_append_left _ hmem, same⟩
    all_goals cases hl

theorem Inverts.of_object {shape' : List (String × Schema)} {rest' : Option Schema}
    {policy : UnknownKeys} (hs : s.Reversed)
    (h : plans.Inverts settings s (.object shape' rest' policy)) :
    ∃ shape rest, s = .object shape rest policy ∧
      Schema.Fieldwise (plans.Inverts settings) shape shape' := by
  cases hs with
  | refined => exact absurd h nofun
  | node node =>
    cases h
    case object fields _ _ => exact ⟨_, _, rfl, fields⟩
    case leaf leaf => cases leaf
    all_goals cases node

end Plans
end TwoWay
