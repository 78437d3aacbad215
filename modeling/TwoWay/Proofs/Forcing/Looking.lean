import TwoWay.Proofs.Forcing.Memory

/-!
# Laws of look-ups

Lazy nodes and shared definitions are looked up in one way: what is remembered is given back, and
what is not is made and then remembered. A law of making that this keeps holds of the look-ups of
every depth (`Run.Law.Recalls.looks`).
-/

namespace TwoWay

/-- What is known is given back, and what is not is made and kept. -/
def Run.lookUp (known : World → Option Schema) (m : Run Schema) (keep : Schema → World → World) :
    Run Schema := do
  match known (← get) with
  | some s => return s
  | none => do
    let s ← m
    modify (keep s)
    return s

/-- A world that remembers one more lazy node. -/
def World.remember (id : LazyId) (origin : Origin) (s : Schema) (w : World) : World :=
  { w with forced := ((id, origin), s) :: w.forced }

/-- A world that remembers one more shared definition. -/
def World.define (name : String) (s : Schema) (w : World) : World :=
  { w with shared := (name, s) :: w.shared }

namespace Plans

/-- What happens when a getter is called, before it builds a schema. -/
def announce (plans : Plans) (fn : FunctionRef) : Run Unit := do
  Run.record (.called fn [])
  noteLabel (plans.getter fn)

end Plans

/-- A law that making keeps when what is made is remembered. -/
structure Run.Law.Recalls (L : Run.Law Unit) (plans : Plans) : Prop where
  getter : ∀ id fn {m : Run Schema}, L.Holds (fun _ => m) → L.Holds fun _ =>
    Run.lookUp (·.forced? id (.getter fn)) (do plans.announce fn; m)
      (World.remember id (.getter fn))
  inverse : ∀ id settings base of {m : Run Schema}, L.Holds (fun _ => m) → L.Holds fun _ =>
    Run.lookUp (·.forced? id (.inverse settings base of)) m
      (World.remember id (.inverse settings base of))
  shared : ∀ name {m : Run Schema}, L.Holds (fun _ => m) → L.Holds fun _ =>
    Run.lookUp (·.shared? name) m (World.define name)

/-- Such a law holds of all look-ups. -/
theorem Run.Law.Recalls.looks {L : Run.Law Unit} {plans : Plans} (h : L.Recalls plans)
    (depth : Nat) :
    (∀ id origin, L.Holds fun _ => plans.force depth id origin) ∧
    (∀ id origin, L.Holds fun _ => plans.tagsBehind depth id origin) ∧
    ∀ name, L.Holds fun _ => plans.shared depth name := by
  induction depth with
  | zero => exact ⟨fun _ _ => L.fail _, fun _ _ => L.fail _, fun _ => L.fail _⟩
  | succ depth ih =>
    obtain ⟨forced, tagged, defined⟩ := ih
    have built (owner : LazyId) (b : Blueprint) : L.Holds fun _ =>
        (b.build ⟨⟨owner, plans.tagsBehind depth⟩, plans.shared depth⟩).run' 0 :=
      Makes.run (Run.Law.build tagged defined b)
    have inverted (owner : LazyId) (settings : InversionSettings) (s : Schema) : L.Holds fun _ =>
        (s.invertWith ⟨owner, plans.tagsBehind depth⟩ settings).run' 0 :=
      Makes.run (Run.Law.invertWith tagged s)
    refine ⟨fun id origin => ?_, fun id origin => ?_, fun name => ?_⟩
    · simp only [Plans.force_succ]
      cases origin with
      | getter fn => exact h.getter id fn (built id (plans.getter fn).schema)
      | inverse settings base of =>
        have made := L.bind (forced base of) fun s => inverted id settings s
        exact h.inverse id settings base of made
    · exact L.bind (forced id origin) fun s => Run.Law.tagValues tagged s
    · simp only [Plans.shared]
      exact h.shared name (built (.shared name) (plans.definition name))

end TwoWay
