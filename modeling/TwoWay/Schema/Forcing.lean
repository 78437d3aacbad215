import TwoWay.Schema.Blueprint

/-!
# Forcing lazy nodes

A lazy node is forced when its schema is first needed: its getter builds the schema, or
the schema of another lazy node is inverted. The result is kept in the world, so that a
node is forced once; a failed attempt leaves nothing behind. Shared definitions are built
in the same way. All of it works within a depth, for definitions may run in circles.
-/

namespace TwoWay

/-- What a getter does: it notes its label, if it has one, and builds a schema. -/
structure Getter where
  label : Option String := none
  schema : Blueprint
  deriving Inhabited

/-- The getters and the shared definitions. -/
structure Plans where
  getter : FunctionRef → Getter
  definition : String → Blueprint

namespace Plans

variable (plans : Plans)

/-- Notes the label of a getter. -/
def noteLabel (g : Getter) : Run Unit :=
  match g.label with
  | some label => Run.record (.noted (.list .free [.str "getter", .str label]))
  | none => return

mutual

/-- The schema of a lazy node. -/
def force : Nat → LazyId → Origin → Run Schema
  | 0, _, _ => throw (.fault .tooDeep)
  | depth + 1, id, origin => do
    match (← get).forced? id origin with
    | some s => return s
    | none =>
      let maker : Maker := ⟨id, tagsBehind depth⟩
      let s ← match origin with
        | .getter fn => do
          Run.record (.called fn [])
          noteLabel (plans.getter fn)
          ((plans.getter fn).schema.build ⟨maker, shared depth⟩).run' 0
        | .inverse settings base of => do
          let s ← force depth base of
          (s.invertWith maker settings).run' 0
      modify fun w => { w with forced := ((id, origin), s) :: w.forced }
      return s

/-- The tags behind a lazy node. -/
def tagsBehind : Nat → LazyId → Origin → Run (List Datum)
  | 0, _, _ => throw (.fault .tooDeep)
  | depth + 1, id, origin => do
    let s ← force depth id origin
    s.tagValues (tagsBehind depth)

/-- The schema of a shared definition. -/
def shared : Nat → String → Run Schema
  | 0, _ => throw (.fault .tooDeep)
  | depth + 1, name => do
    match (← get).shared? name with
    | some s => return s
    | none =>
      let s ← ((plans.definition name).build
        ⟨⟨.shared name, tagsBehind depth⟩, shared depth⟩).run' 0
      modify fun w => { w with shared := (name, s) :: w.shared }
      return s

end

/-- A maker whose lazy nodes belong to a step. -/
def maker (depth step : Nat) : Maker := ⟨.step step, plans.tagsBehind depth⟩

def builder (depth step : Nat) : Builder := ⟨plans.maker depth step, plans.shared depth⟩

end Plans
end TwoWay
