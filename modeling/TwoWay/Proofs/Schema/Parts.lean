import TwoWay.Schema.Basic

/-!
# Parts of schemas

The schemas that stand directly in a node are its children, and they are smaller than the
node. `Schema.child_induction` is the induction this gives: lazy nodes have no children.
-/

namespace TwoWay.Schema

/-- The schemas that stand directly in a node. -/
def children : Schema → List Schema
  | .array element _ | .set element => [element]
  | .object shape catchall _ => shape.map (·.2) ++ catchall.toList
  | .union options | .tagged _ options _ => options
  | .intersection left right => [left, right]
  | .tuple items rest => items ++ rest.toList
  | .record key value | .map key value => [key, value]
  | .function items rest returns => items ++ rest.toList ++ [returns]
  | .effect _ _ _ inner | .optional inner | .nullable inner | .default inner _ | .catch inner _
  | .promise inner | .branded inner _ | .readonly inner => [inner]
  | .pipeline input output | .invertible input _ output _ => [input, output]
  | _ => []

theorem sizeOf_option_lt {s : Schema} {o : Option Schema} (h : o = some s) :
    sizeOf s < sizeOf o := by
  subst h
  simp

theorem sizeOf_field_lt {f : String × Schema} {shape : List (String × Schema)} (h : f ∈ shape) :
    sizeOf f.2 < sizeOf shape := by
  have := List.sizeOf_lt_of_mem h
  cases f
  simp only [Prod.mk.sizeOf_spec] at this ⊢
  omega

theorem sizeOf_child_lt {s c : Schema} (h : c ∈ s.children) : sizeOf c < sizeOf s := by
  cases s <;> simp only [children, List.not_mem_nil, List.mem_cons, List.mem_append, List.mem_map,
    Option.mem_toList, or_false] at h
  case object shape catchall policy =>
    rcases h with ⟨f, hf, rfl⟩ | h
    · have := sizeOf_field_lt hf
      simp only [object.sizeOf_spec]
      omega
    · have := sizeOf_option_lt h
      simp only [object.sizeOf_spec]
      omega
  case union | tagged =>
    have := List.sizeOf_lt_of_mem h
    simp only [union.sizeOf_spec, tagged.sizeOf_spec]
    omega
  case tuple =>
    rcases h with h | h
    · have := List.sizeOf_lt_of_mem h
      simp only [tuple.sizeOf_spec]
      omega
    · have := sizeOf_option_lt h
      simp only [tuple.sizeOf_spec]
      omega
  case function =>
    rcases h with (h | h) | rfl
    · have := List.sizeOf_lt_of_mem h
      simp only [function.sizeOf_spec]
      omega
    · have := sizeOf_option_lt h
      simp only [function.sizeOf_spec]
      omega
    · simp only [function.sizeOf_spec]
      omega
  all_goals
    first
    | subst h; simp; omega
    | rcases h with rfl | rfl <;> simp <;> omega

/-- A property that a node has whenever its children have it holds of every schema. -/
theorem child_induction {P : Schema → Prop} (step : ∀ s, (∀ c ∈ s.children, P c) → P s)
    (s : Schema) : P s :=
  step s fun c _ => child_induction step c
  termination_by sizeOf s
  decreasing_by exact sizeOf_child_lt ‹_›

end TwoWay.Schema
