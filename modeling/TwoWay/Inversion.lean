import TwoWay.Schema.Tagged

/-!
# Inversion

The inverse of a schema reads what the schema gives and gives what it reads. Two-way
nodes swap their sides, pipelines turn around, containers invert their children, and
leaves are their own inverses. A refinement checks what arrives before the inverted inner
schema sees it. Defaults, fallbacks and brands are dropped, effects only when they may
be. A lazy node becomes a lazy node whose inversion waits until it is used.
-/

namespace TwoWay

/-- The word for the kind of a node that inversion does not know. -/
def DeclaredKind.name (className : String) : DeclaredKind Live → String
  | .absent | .other .none => className
  | .other v => v.text
  | .known kind => kind.text

/-- Whether a declared kind is a leaf kind. -/
def DeclaredKind.isLeaf : DeclaredKind Live → Bool
  | .known kind => kind.isLeaf
  | _ => false

namespace Schema

/-- Leaves a node of unknown kind as it is, or fails. -/
def passUnknown (settings : InversionSettings) (name : String) (s : Schema) : Make Schema :=
  match settings.unknownKind with
  | .error => Make.fail (.unknownKind name)
  | .passthrough => do
    Run.record (.logged (.kindPassedThrough name s.className))
    return s

/-- Only schemas have the methods that wrap them. -/
def requireMethod (s : Schema) (name : String) : Make Unit :=
  if s.isSchema then return else Make.fail (.fault (.noAttribute s.className name))

/-- A two-way node of schemas. -/
def ofInvertible (input : Schema) (parse : FunctionRef) (output : Schema) (format : FunctionRef) :
    Make Schema :=
  if input.isSchema && output.isSchema then return .invertible input parse output format
  else Make.refuse .sidesNotSchemas

mutual

/-- The inverse of a schema. -/
def invertWith (maker : Maker) (settings : InversionSettings) : Schema → Make Schema
  | .invertible input parse output format => do
    let first ← invertWith maker settings output
    let second ← invertWith maker settings input
    ofInvertible first format second parse
  | .pipeline input output => do
    let first ← invertWith maker settings output
    requireMethod first "pipe"
    let second ← invertWith maker settings input
    return .pipeline first second
  | .array element lengths => do
    return .array (← invertWith maker settings element) lengths
  | .object shape catchall policy => do
    let shape ← invertFields maker settings shape
    let catchall ← match catchall with
      | some s => some <$> invertWith maker settings s
      | Option.none => pure Option.none
    return .object shape catchall policy
  | .union options => return .union (← invertAll maker settings options)
  | .tagged key options _ => do
    let options ← invertAll maker settings options
    ofTagged maker key options
  | .intersection left right => do
    let left ← invertWith maker settings left
    let right ← invertWith maker settings right
    return .intersection left right
  | .tuple items rest => do
    let items ← invertAll maker settings items
    let rest ← match rest with
      | some s => some <$> invertWith maker settings s
      | Option.none => pure Option.none
    return .tuple items rest
  | .record key value => do
    let key ← invertWith maker settings key
    let value ← invertWith maker settings value
    return .record key value
  | .map key value => do
    let key ← invertWith maker settings key
    let value ← invertWith maker settings value
    return .map key value
  | .set element => return .set (← invertWith maker settings element)
  | .function items rest returns => do
    let items ← invertAll maker settings items
    let rest ← match rest with
      | some s => some <$> invertWith maker settings s
      | Option.none => pure Option.none
    let returns ← invertWith maker settings returns
    return .function items rest returns
  | .lazy id origin => do
    return .lazy (← Make.freshId maker) (.inverse settings id origin)
  | .effect .refinement action _ inner => do
    let inner ← invertWith maker settings inner
    return .pipeline (.effect .refinement action false .any) inner
  | .effect kind _ elidable inner =>
    if elidable then do
      if settings.logElisions then Run.record (.logged (.effectElided kind))
      invertWith maker settings inner
    else Make.fail (.oneWay kind)
  | .optional inner => do
    let inner ← invertWith maker settings inner
    requireMethod inner "optional"
    return .optional inner
  | .nullable inner => do
    let inner ← invertWith maker settings inner
    requireMethod inner "nullable"
    return .nullable inner
  | .promise inner => do
    let inner ← invertWith maker settings inner
    requireMethod inner "promise"
    return .promise inner
  | .readonly inner => do
    let inner ← invertWith maker settings inner
    requireMethod inner "readonly"
    return .readonly inner
  | .default inner _ => invertWith maker settings inner
  | .catch inner _ => invertWith maker settings inner
  | .branded inner _ => invertWith maker settings inner
  | .foreign kind =>
    let s := Schema.foreign kind
    if kind.isLeaf then return s else passUnknown settings (kind.name s.className) s
  | .raw value =>
    let s := Schema.raw value
    passUnknown settings s.className s
  | s => return s
  termination_by structural s => s

def invertAll (maker : Maker) (settings : InversionSettings) : List Schema → Make (List Schema)
  | [] => return []
  | s :: rest => do
    let s ← invertWith maker settings s
    return s :: (← invertAll maker settings rest)
  termination_by structural xs => xs

def invertFields (maker : Maker) (settings : InversionSettings) :
    List (String × Schema) → Make (List (String × Schema))
  | [] => return []
  | (key, s) :: rest => do
    let s ← invertWith maker settings s
    return (key, s) :: (← invertFields maker settings rest)
  termination_by structural fields => fields

end
end Schema
end TwoWay
