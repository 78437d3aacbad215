import TwoWay.Parse.Leaf
import TwoWay.Parse.Links
import TwoWay.Parse.Merge

/-!
# The parse of a node

`Schema.runWith` parses a value at a path. Containers parse their children at paths of
their own and go on after one of them fails; they give no output only if a child gives
none. Unions and `catch` keep the issues of their children to themselves.
-/

namespace TwoWay

/-- The items of a list. -/
def Value.listItems? : Datum → Option (List Datum)
  | .list _ items => some items
  | _ => Option.none

/-- The items of a list or tuple, and whether it is a tuple. -/
def Value.sequence? : Datum → Option (Bool × List Datum)
  | .list _ items => some (false, items)
  | .tuple items => some (true, items)
  | _ => Option.none

/-- The entries of a mapping. -/
def Value.entries? : Datum → Option (Entries Live)
  | .dict _ entries => some entries
  | _ => Option.none

/-- The items of a set, and whether it is read-only. -/
def Value.setItems? : Datum → Option (Bool × List Datum)
  | .set readOnly items => some (readOnly, items)
  | _ => Option.none

/-- The value under a key, or `missing`. -/
def valueAt (entries : Entries Live) (key : String) : Datum :=
  (entries.get? (.str key)).getD .missing

/-- Parses the items of a sequence from position `i` on. -/
def runItems (parse : Path Live → Datum → Run Parsed) (path : Path Live) :
    Nat → List Datum → Run (List Parsed)
  | _, [] => return []
  | i, v :: rest => do
    let r ← parse (path ++ [.int i]) v
    return r :: (← runItems parse path (i + 1) rest)

/-- Parses the values of entries at their keys. -/
def runValues (parse : Path Live → Datum → Run Parsed) (path : Path Live) :
    Entries Live → Run (List (Datum × Parsed))
  | [] => return []
  | (k, v) :: rest => do
    let r ← parse (path ++ [k]) v
    return (k, r) :: (← runValues parse path rest)

/-- The state of a mapping that is rebuilt entry by entry. -/
structure Rebuilt where
  entries : Entries Live := []
  failed : Bool := false
  issues : List (Issue Live) := []

/-- Writes a parsed entry. A key has to be hashable by then. -/
def Rebuilt.add (b : Rebuilt) (key value : Parsed) : Run Rebuilt := do
  let issues := b.issues ++ key.issues ++ value.issues
  if key.value.isInvalid || value.value.isInvalid then
    return { b with failed := true, issues := issues }
  else
    Run.requireHashable key.value
    return { b with entries := b.entries.put key.value value.value, issues := issues }

def Rebuilt.parsed (b : Rebuilt) : Parsed :=
  ⟨if b.failed then .invalid else .dict .free b.entries, b.issues⟩

/-- Parses the keys and values of entries, from the `i`-th on. The paths of key and value
depend on the position and the key. -/
def runEntries (key value : Path Live → Datum → Run Parsed)
    (keyPath valuePath : Nat → Datum → Path Live) :
    Nat → Entries Live → Rebuilt → Run Rebuilt
  | _, [], b => return b
  | i, (k, v) :: rest, b => do
    let parsedKey ← key (keyPath i k) k
    let parsedValue ← value (valuePath i k) v
    let b ← b.add parsedKey parsedValue
    runEntries key value keyPath valuePath (i + 1) rest b

/-- The entries of an object whose field results are given: fields without a value are
left out. -/
def fieldEntries (fields : List (String × Parsed)) : Entries Live :=
  fields.filterMap fun f =>
    if f.2.value.isInvalid || f.2.value.isMissing then none else some (.str f.1, f.2.value)

/-- The entries whose keys are not declared. -/
def extraEntries (shape : List (String × Schema)) (entries : Entries Live) : Entries Live :=
  entries.filter fun e => !shape.any fun f => e.1.equal (.str f.1)

/-- The issue about keys that a strict object does not know. -/
def unrecognizedKeys (path : Path Live) (extra : Entries Live) : Issue Live :=
  let keys := extra.map (·.1)
  ⟨.unrecognizedKeys, "Unrecognized key(s) in object: " ++
    ", ".intercalate (keys.map (·.quoted)), path, [("keys", .value (.list .free keys))]⟩

/-- The result of an object from its fields and what stands outside the shape. -/
def objectResult (fields : List (String × Parsed)) (extra : Entries Live)
    (extraIssues : List (Issue Live)) (failed : Bool) : Parsed :=
  let results := fields.map (·.2)
  let issues := Parsed.allIssues results ++ extraIssues
  if failed || Parsed.anyInvalid results then ⟨.invalid, issues⟩
  else ⟨.dict .free (fieldEntries fields ++ extra), issues⟩

/-- The result of an object without a catchall. -/
def closedObject (path : Path Live) (policy : UnknownKeys) (fields : List (String × Parsed))
    (extra : Entries Live) : Parsed :=
  match policy with
  | .strip => objectResult fields [] [] false
  | .strict => objectResult fields [] (if extra.isEmpty then [] else [unrecognizedKeys path extra])
      false
  | .passthrough => objectResult fields extra [] false

/-- The result of an object whose undeclared values went through a catchall. -/
def openObject (fields : List (String × Parsed)) (extra : List (Datum × Parsed)) : Parsed :=
  let results := extra.map (·.2)
  objectResult fields (extra.map fun e => (e.1, e.2.value)) (Parsed.allIssues results)
    (Parsed.anyInvalid results)

/-- The result of a union none of whose options is clean: that of the first dirty one, or
else a single issue that carries the issues of all. -/
def unionResult (path : Path Live) (tried : List Parsed) : Parsed :=
  match tried.find? fun r => !r.value.isInvalid with
  | some r => r
  | none => .refused ⟨.invalidUnion, "Invalid input", path,
      [("union_issues", .branches (tried.map (·.issues)))]⟩

/-- The position of the option that a tag selects. A tag that cannot be a key selects
none. -/
def optionAt? (table : List (Datum × Nat)) (tag : Datum) : Option Nat :=
  if tag.unhashable?.isSome then none
  else (table.find? fun e => e.1.agrees tag).map (·.2)

/-- Refuses a tag that selects no option. -/
def wrongTag (path : Path Live) (key : String) (table : List (Datum × Nat)) : Parsed :=
  let tags := table.map (·.1)
  .refused ⟨.invalidUnionDiscriminator, "Invalid discriminator value. Expected " ++
    alternativesText (tags.filter fun t => !t.isMissing), path ++ [.str key],
    [("options", .value (.list .free tags))]⟩

/-- The result of an intersection from those of its sides. -/
def intersectionResult (path : Path Live) (left right : Parsed) : Parsed :=
  let issues := left.issues ++ right.issues
  if left.value.isInvalid || right.value.isInvalid then ⟨.invalid, issues⟩
  else match merge left.value right.value with
    | some merged => ⟨merged, issues⟩
    | none => ⟨.invalid, issues ++ [⟨.invalidIntersectionTypes,
        "Intersection results could not be merged", path, []⟩]⟩

/-- The issue of a tuple with too few or too many items. -/
def tupleBound (path : Path Live) (code : IssueCode) (bound detail : String) (count : Nat) :
    Parsed :=
  .refused ⟨code, "Tuple must contain at " ++ bound ++ " " ++ toString count ++ " element(s)",
    path, [(detail, .value (.int count))]⟩

/-- Refuses a value that cannot be awaited. -/
def wrongAwaitable (path : Path Live) (v : Datum) : Parsed :=
  wrongType path "awaitable" ("Expected awaitable, received " ++ v.received) v

/-- The result of a sequence from those of its items. -/
def sequenceResult (ofItems : List Datum → Datum) (own : List (Issue Live)) (rs : List Parsed) :
    Parsed :=
  let issues := own ++ Parsed.allIssues rs
  if Parsed.anyInvalid rs then ⟨.invalid, issues⟩ else ⟨ofItems (Parsed.values rs), issues⟩

/-- The result of a set from those of its items, which have to be hashable. -/
def setResult (readOnly : Bool) (rs : List Parsed) : Run Parsed := do
  if Parsed.anyInvalid rs then return ⟨.invalid, Parsed.allIssues rs⟩
  for v in Parsed.values rs do Run.requireHashable v
  return ⟨.set readOnly (distinct (Parsed.values rs)), Parsed.allIssues rs⟩

mutual

/-- Parses a value at a path. -/
def Schema.runWith (links : Links) : Schema → Path Live → Datum → Run Parsed
  | .string lengths pattern, path, v => Run.liftFault (parseString lengths pattern path v)
  | .number bounds integer, path, v => Run.liftFault (parseNumber bounds integer path v)
  | .boolean, path, v => return parseBoolean path v
  | .none, path, v => return parseNone path v
  | .any, _, v => return ⟨v, []⟩
  | .unknown, _, v => return ⟨v, []⟩
  | .never, path, v => return parseNever path v
  | .literal value, path, v => return parseLiteral value path v
  | .enum values, path, v => return parseEnum values path v
  | .array element lengths, path, v =>
    match v.listItems? with
    | some items => do
      let own ← Run.liftFault (lengthIssues path "Array" "element" lengths items.length)
      let rs ← runItems (fun p x => element.runWith links p x) path 0 items
      return sequenceResult (.list .free) own rs
    | Option.none => return wrongContainer path "array" v
  | .object shape catchall policy, path, v =>
    match v.entries? with
    | some entries => do
      let fields ← runFields links shape path entries
      let extra := extraEntries shape entries
      match catchall with
      | some s => do
        let rs ← runValues (fun p x => s.runWith links p x) path extra
        return openObject fields rs
      | Option.none => return closedObject path policy fields extra
    | Option.none => return wrongContainer path "object" v
  | .union options, path, v => runOptions links options path v []
  | .tagged key options table, path, v =>
    match v.entries? with
    | some entries =>
      match optionAt? table (valueAt entries key) with
      | some i => runOption links options i path v
      | Option.none => return wrongTag path key table
    | Option.none => return wrongContainer path "object" v
  | .intersection left right, path, v => do
    let l ← left.runWith links path v
    let r ← right.runWith links path v
    return intersectionResult path l r
  | .tuple items rest, path, v =>
    match v.sequence? with
    | some (isTuple, vs) =>
      if vs.length < items.length then
        return tupleBound path .tooSmall "least" "minimum" items.length
      else do
        let ofItems := if isTuple then Value.tuple else Value.list .free
        match rest with
        | some s => do
          let rs ← runTupleItems links items (fun p x => s.runWith links p x) path 0 vs
          return sequenceResult ofItems [] rs
        | Option.none =>
          if items.length < vs.length then
            return tupleBound path .tooBig "most" "maximum" items.length
          else do
            let rs ← runTupleItems links items (fun _ x => return ⟨x, []⟩) path 0 vs
            return sequenceResult ofItems [] rs
    | Option.none => return wrongContainer path "tuple" v
  | .record key value, path, v =>
    match v.entries? with
    | some entries => do
      let b ← runEntries (fun p x => key.runWith links p x) (fun p x => value.runWith links p x)
        (fun _ k => path ++ [k]) (fun _ k => path ++ [k]) 0 entries {}
      return b.parsed
    | Option.none => return wrongContainer path "record" v
  | .map key value, path, v =>
    match v.entries? with
    | some entries => do
      let b ← runEntries (fun p x => key.runWith links p x) (fun p x => value.runWith links p x)
        (fun i _ => path ++ [.int i, .str "key"]) (fun i _ => path ++ [.int i, .str "value"])
        0 entries {}
      return b.parsed
    | Option.none => return wrongContainer path "map" v
  | .set element, path, v =>
    match v.setItems? with
    | some (readOnly, items) => do
      let rs ← runItems (fun p x => element.runWith links p x) path 0 items
      setResult readOnly rs
    | Option.none => return wrongContainer path "set" v
  | .function items rest returns, path, v =>
    match v with
    | .live x =>
      if x.isCallable then return ⟨.live (.guarded (← Run.identity) items rest returns x), []⟩
      else return wrongContainer path "function" v
    | _ => return wrongContainer path "function" v
  | .lazy id origin, path, v => links.enter id origin path v
  | .effect .preprocess action _ inner, path, v => do
    let r ← links.apply action path v
    if r.issues.isEmpty then inner.runWith links path r.value else return ⟨.invalid, r.issues⟩
  | .effect .refinement action _ inner, path, v => do
    let r ← inner.runWith links path v
    if r.value.isInvalid then return r
    else
      let checked ← links.act action path r.value
      return ⟨r.value, r.issues ++ checked.issues⟩
  | .effect .transform action _ inner, path, v => do
    let r ← inner.runWith links path v
    r.andThen (links.apply action path)
  | .optional inner, path, v =>
    if v.isMissing || v.isNone then return ⟨v, []⟩ else inner.runWith links path v
  | .nullable inner, path, v =>
    if v.isNone then return ⟨v, []⟩ else inner.runWith links path v
  | .default inner supply, path, v => do
    let v ← if v.isMissing then links.supply supply else pure v
    inner.runWith links path v
  | .catch inner supply, path, v => do
    let r ← inner.runWith links path v
    if r.isClean then return r else return ⟨← links.rescue r.issues supply, []⟩
  | .promise inner, path, v =>
    match v with
    | .live x =>
      if x.isAwaitable then return ⟨.live (.pending (← Run.identity) inner x), []⟩
      else return wrongAwaitable path v
    | _ => return wrongAwaitable path v
  | .branded inner _, path, v => inner.runWith links path v
  | .pipeline input output, path, v => do
    let r ← input.runWith links path v
    r.andThen (fun x => output.runWith links path x)
  | .invertible input parse output _, path, v => do
    let r ← input.runWith links path v
    let r ← r.andThen (links.map parse path)
    r.andThen (fun x => output.runWith links path x)
  | .readonly inner, path, v => do
    let r ← inner.runWith links path v
    return ⟨← r.value.freeze.numbered, r.issues⟩
  | .foreign _, _, v => return ⟨v, []⟩
  | .raw value, _, _ => throw (.fault (.noAttribute value.typeName "_parse"))
  termination_by structural s => s

/-- Parses the fields of a shape. -/
def runFields (links : Links) :
    List (String × Schema) → Path Live → Entries Live → Run (List (String × Parsed))
  | [], _, _ => return []
  | (key, s) :: rest, path, entries => do
    let r ← s.runWith links (path ++ [.str key]) (valueAt entries key)
    return (key, r) :: (← runFields links rest path entries)
  termination_by structural fields => fields

/-- Tries options in order up to the first clean one. `tried` holds the results of the
options before. -/
def runOptions (links : Links) : List Schema → Path Live → Datum → List Parsed → Run Parsed
  | [], path, _, tried => return unionResult path tried
  | s :: rest, path, v, tried => do
    let r ← s.runWith links path v
    if r.isClean then return r else runOptions links rest path v (tried ++ [r])
  termination_by structural options => options

/-- Parses with the option at a position. -/
def runOption (links : Links) : List Schema → Nat → Path Live → Datum → Run Parsed
  | [], _, _, v => return ⟨v, []⟩
  | s :: _, 0, path, v => s.runWith links path v
  | _ :: rest, i + 1, path, v => runOption links rest i path v
  termination_by structural options => options

/-- Parses the items of a tuple, those beyond the declared ones with `rest`. -/
def runTupleItems (links : Links) :
    List Schema → (Path Live → Datum → Run Parsed) → Path Live → Nat → List Datum →
      Run (List Parsed)
  | [], rest, path, i, vs => runItems rest path i vs
  | s :: ss, rest, path, i, v :: vs => do
    let r ← s.runWith links (path ++ [.int i]) v
    return r :: (← runTupleItems links ss rest path (i + 1) vs)
  | _ :: _, _, _, _, [] => return []
  termination_by structural items => items

end
end TwoWay
