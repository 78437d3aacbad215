import TwoWay.Schema.Basic

/-!
# Where issues are

An issue is below a path if its own path extends it, and if the issues of the alternatives that
it sums up are below it as well.
-/

namespace TwoWay

/-- An issue whose path extends `path`, as do the paths of the issues it sums up. -/
inductive Issue.Below (path : Path Live) : Issue Live → Prop
  | intro {i : Issue Live} (h : path <+: i.path)
    (branches : ∀ name lists, (name, Detail.branches lists) ∈ i.details →
      ∀ list ∈ lists, ∀ j ∈ list, Issue.Below path j) : Issue.Below path i

/-- An issue with nothing but values among its details. -/
def Issue.Plain (i : Issue Live) : Prop := ∀ d ∈ i.details, ∃ v, d.2 = .value v

namespace Issue

theorem Below.of_plain {path : Path Live} {i : Issue Live} (h : path <+: i.path) (hp : i.Plain) :
    i.Below path :=
  .intro h fun name lists hd => by
    obtain ⟨v, hv⟩ := hp _ hd
    cases hv

theorem Below.of_append {path below : Path Live} {i : Issue Live} (h : i.Below (path ++ below)) :
    i.Below path := by
  induction h with
  | intro h _ ih => exact .intro ((List.prefix_append path below).trans h) ih

/-- A plain issue at the path itself. -/
def At (path : Path Live) (i : Issue Live) : Prop := i.path = path ∧ i.Plain

theorem At.below {path : Path Live} {i : Issue Live} (h : i.At path) : i.Below path :=
  .of_plain (h.1 ▸ List.prefix_refl _) h.2

end Issue

end TwoWay
