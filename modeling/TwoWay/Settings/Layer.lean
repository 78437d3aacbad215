import TwoWay.Settings.Converter

/-!
# Layers

Settings are written layer on layer. A mapping goes into the mapping that is there: what the new
one has not stays, and marks in the new one say what else happens. Keys are matched to the keys
there without regard to case. A key with points leads through mappings.

* `Node.merged`: two nodes put together;
* `Layer.write`: settings with a value written under a key.
-/

namespace TwoWay.Settings

namespace Layer

/-- The key that by itself says whether a mapping goes into another one. -/
def mergeKeys : List Key := [⟨"dynaconf_merge", true⟩, ⟨"dynaconf_merge_unique", true⟩]

/-- Entries without the first of the keys that say how they are put together, and its value. -/
def popMerge (entries : List (Key × Node)) : Option Node × List (Key × Node) :=
  let found := mergeKeys.findSome? fun k => Node.get? entries k
  (found, entries.filter fun e => !mergeKeys.contains e.1)

/-- The key among others that a key stands for: itself or one that differs in case, or in blanks
for underscores. -/
def matching? (key : Key) (keys : List Key) : Option Key :=
  if keys.contains key then some key
  else if !key.isText then none
  else
    let known := keys.takeWhile (·.isText)
    let small := Text.lower key.text
    known.find? fun k =>
      Text.lower k.text = small ||
        Text.lower (k.text.map fun c => if c = ' ' then '_' else c) = small

/-- Entries under the keys that there are. Those that match one stand last. -/
def align (keys : List Key) (entries : List (Key × Node)) : List (Key × Node) :=
  (entries.map (·.1)).foldl (fun es k =>
    match matching? k keys, Node.get? es k with
    | some k', some v => Node.put (es.filter fun e => e.1 != k) k' v
    | _, _ => es) entries

/-- What a mark stands for where nothing is yet. -/
def settled : Node → Option Node
  | .removal => none
  | .replacement v | .addition v => some v
  | v => some v

/-- A mapping that is written where nothing is loses the keys that say how it goes together. -/
def settledMapping : Node → Node
  | .map es =>
    match popMerge es with
    | (none, _) => .map es
    | (some (.bool _), rest) | (some .null, rest) => .map rest
    | (some v, []) => v
    | (some _, rest) => .map rest
  | v => v

end Layer

namespace Node

open Layer

mutual

/-- A node put into another one: what is left of the old one, and the new one. The end of a
`path` through mappings is written as it is. -/
def merged : (old new : Node) → (path : List String) → Node × Node
  | .map old, .map new, path =>
    let aligned := align (old.map (·.1)) new
    let goes := match Node.get? aligned ⟨"dynaconf_merge", true⟩ with
      | some v => !v.isVacant
      | none => true
    let new := aligned.filter fun e => e.1 != ⟨"dynaconf_merge", true⟩
    let keys := old.map (·.1)
    let fresh := new.filterMap fun e =>
      if keys.contains e.1 then some e
      else (settled e.2).map fun v => (e.1, settledMapping v)
    let r := mergedEntries old fresh path goes
    (.map r.1, .map r.2)
  | .list old, .list new, _ => (.list old, .list (old ++ new))
  | old, new, _ => (old, new)
  termination_by structural old => old

/-- The entries of a mapping put together with those of another one, which has them already or
gets them if `goes`. -/
def mergedEntries : (old new : List (Key × Node)) → (path : List String) → (goes : Bool) →
    List (Key × Node) × List (Key × Node)
  | [], new, _, _ => ([], new)
  | (k, v) :: rest, new, path, goes =>
    let isEnd := match path with
      | [name] => Text.lower k.text = Text.lower name
      | _ => false
    match Node.get? new k with
    | none =>
      let r := mergedEntries rest (if goes then new ++ [(k, v)] else new) path goes
      ((k, v) :: r.1, r.2)
    | some .removal => mergedEntries rest (new.filter fun e => e.1 != k) path goes
    | some (.replacement w) =>
      let r := mergedEntries rest (Node.put new k w) path goes
      ((k, v) :: r.1, r.2)
    | some (.addition w) =>
      let inner := merged v w []
      let r := mergedEntries rest (Node.put new k inner.2) path goes
      ((k, inner.1) :: r.1, r.2)
    | some w =>
      let inner := if goes && !isEnd then merged v w (path.drop 1) else (v, w)
      let asked := match inner.2 with
        | .map es => match (popMerge es).1 with
          | some m => !m.isVacant
          | none => false
        | _ => false
      let out := settledMapping inner.2
      let final := if asked then (merged v out []).2 else out
      let r := mergedEntries rest (Node.put new k final) path goes
      ((k, inner.1) :: r.1, r.2)
  termination_by structural old => old

end
end Node

namespace Layer

/-- Settings by their keys. -/
abbrev Settled := List (Key × Node)

/-- A new value put together with what stands under its key. -/
def onto (existing new : Node) : Node :=
  match new with
  | .map es =>
    match popMerge es with
    | (none, _) => (existing.merged new []).2
    | (some (.bool _), rest) | (some .null, rest) => (existing.merged (.map rest) []).2
    | (some v, []) => (existing.merged v []).2
    | (some _, rest) => (existing.merged (.map rest) []).2
  | v => (existing.merged v []).2

/-- Settings with a value written under the key of an entry of its own. -/
def writeTop (store : Settled) (key : Key) (v : Node) : Except LoadFailure Settled := do
  let existing := (Node.get? store key).getD .null
  let written (v : Node) : Settled :=
    Node.put store key (match existing with
      | .null => v
      | old => onto old v)
  match ← v.parsed with
  | .removal => return store.filter fun e => e.1 != key
  | .replacement v => return written v
  | .addition v =>
    if existing.isVacant then return written v
    else
      let (old, new) := existing.merged v []
      return Node.put store key (onto old new)
  | v => return written v

/-- The key of an entry for a name. -/
def topKey (name : String) : Key := ⟨Text.upper (trim name), true⟩

/-- The names that lead to a value, which points or double underscores part. -/
def pathOf (name : String) : List String := (".".intercalate (name.splitOn "__")).splitOn "."

/-- Settings with a value written under a key. -/
def write (store : Settled) (key : Key) (v : Node) : Except LoadFailure Settled := do
  if !key.isText then writeTop store key v
  else match pathOf key.text with
    | [] => return store
    | [name] => writeTop store (topKey name) v
    | name :: path =>
      let v ← v.parsed
      let top := topKey name
      let existing := (Node.get? store ⟨Text.upper name, true⟩).getD .null
      let new := Node.place path v .null
      if existing.isVacant then writeTop store top new
      else
        let (old, new) := existing.merged new path
        let store := if top.text = Text.upper name then Node.put store top old else store
        writeTop store top new

/-- Settings with values written one after the other. -/
def writeAll (store : Settled) : List (Key × Node) → Except LoadFailure Settled
  | [] => .ok store
  | (k, v) :: rest => do writeAll (← write store k v) rest

end Layer
end TwoWay.Settings
