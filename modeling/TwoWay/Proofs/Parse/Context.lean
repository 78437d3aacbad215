import TwoWay.Execution

/-!
# Parsing in a context

Nodes that share one list of issues: every node appends to it, and a node learns whether its
child reported by comparing how many issues there are before and after. Unions and `catch` run
their children with a list of their own. `Schema.parseIn` parses in such a context, where
`Schema.runWith` hands the issues over with the result.
-/

namespace TwoWay

/-- A run in a context: it works on a world and on the issues reported so far. -/
abbrev Reporting := EStateM Failure (World × List (Issue Live))

namespace Reporting

variable {α : Type}

/-- A run that reports nothing. -/
def silent (m : Run α) : Reporting α := fun c =>
  match m c.1 with
  | .ok a w => .ok a (w, c.2)
  | .error f w => .error f (w, c.2)

def report (issues : List (Issue Live)) : Reporting Unit := modify fun c => (c.1, c.2 ++ issues)

/-- Reports the issues of a result that is there at once. -/
def settle (r : Parsed) : Reporting Datum := do
  report r.issues
  return r.value

/-- Reports issues whose making may fail. -/
def check (issues : Except Fault (List (Issue Live))) : Reporting Unit := do
  report (← silent (Run.liftFault issues))

def count : Reporting Nat := return (← get).2.length

/-- Tells whether something was reported meanwhile. -/
def watch (m : Reporting α) : Reporting (α × Bool) := do
  let before ← count
  let a ← m
  let after ← count
  return (a, before < after)

theorem watch_run (m : Reporting α) (c : World × List (Issue Live)) : watch m c =
    match m c with
    | .ok x d => .ok (x, decide (c.2.length < d.2.length)) d
    | .error f d => .error f d := by
  have counted (c : World × List (Issue Live)) : count c = .ok c.2.length c := rfl
  simp only [watch, bind, EStateM.bind, counted]
  cases m c <;> rfl

/-- Goes on from an output on the way to which nothing was reported. -/
def andThen (m : Reporting Datum) (next : Datum → Reporting Datum) : Reporting Datum := do
  let (x, dirty) ← watch m
  if x.isInvalid || dirty then return x else next x

/-- Runs with a list of its own. -/
def fork (m : Reporting α) : Reporting (α × List (Issue Live)) := fun c =>
  match m (c.1, []) with
  | .ok a (w, issues) => .ok (a, issues) (w, c.2)
  | .error f (w, _) => .error f (w, c.2)

end Reporting

open Reporting

/-- What a node needs beyond its own tree when it parses in a context. -/
structure Channel where
  links : Links
  enter : LazyId → Origin → Path Live → Datum → Reporting Datum
  await : Live → Reporting Datum

namespace Channel

variable (ch : Channel)

def play (path : Path Live) : List Happening → Reporting Unit
  | [] => return
  | .noted entry :: rest => do
    silent (Run.record (.noted entry))
    play path rest
  | .yielded :: rest => do
    silent (Run.record .yielded)
    play path rest
  | .suspended :: rest => do
    silent ch.links.suspend
    play path rest
  | .reported code message below details :: rest => do
    report [⟨code, message, path ++ below, details.map fun d => (d.1, .value d.2)⟩]
    play path rest

def resolve (v : Datum) : Reporting Datum :=
  match v with
  | .live x => if x.isAwaitable then do ch.await (← silent x.numbered) else return v
  | _ => return v

def answer (fn : FunctionRef) (args : List Datum) (path : Path Live) (reply : Reply) :
    Reporting Datum := do
  silent (Run.record (.called fn args))
  ch.play path reply.happenings
  let value ← silent (Run.lift reply.outcome)
  if ch.links.host.isAsync fn then return value else ch.resolve value

def act (action : Action Live) (path : Path Live) (v : Datum) : Reporting Datum :=
  match action with
  | .custom fn => ch.answer fn [v] path (ch.links.host.effect fn v path)
  | .check fn message below => do
    let verdict ← ch.answer fn [v] path (ch.links.host.check fn v)
    report (if verdict.truthy then [] else [⟨.custom, message, path ++ below, []⟩])
    return v

def apply (action : Action Live) (path : Path Live) (v : Datum) : Reporting Datum := do
  let x ← ch.act action path v
  silent x.numbered

end Channel

/-! ## Leaves -/

/-- Checks one bound of a length after the other. -/
def lengthIn (path : Path Live) (owner noun : String) (lengths : Lengths Live) (size : Nat) :
    Reporting Unit := do
  check (lengthIssues path owner noun { least := lengths.least } size)
  check (lengthIssues path owner noun { most := lengths.most } size)

def stringIn (lengths : Lengths Live) (pattern : Option WrittenPattern) (path : Path Live)
    (v : Datum) : Reporting Datum :=
  match v with
  | .str s => do
    lengthIn path "String" "character" lengths s.length
    check (patternIssues path pattern s)
    return v
  | _ => settle (wrongLeaf path "string" "Input should be a valid string" v)

def numberIn (bounds : Bounds Live) (integer : Bool) (path : Path Live) (v : Datum) :
    Reporting Datum :=
  if isReadableNumber v then do
    check ((·.issues) <$> parseNumber {} integer path v)
    check (numberBound path .tooSmall "greater than" "minimum" Value.isGreater v bounds.above)
    check (numberBound path .tooSmall "greater than or equal to" "minimum" Value.isAtLeast v
      bounds.atLeast)
    check (numberBound path .tooBig "less than" "maximum" Value.isLess v bounds.below)
    check (numberBound path .tooBig "less than or equal to" "maximum" Value.isAtMost v
      bounds.atMost)
    return v
  else settle (wrongLeaf path "number" "Input should be a valid integer" v)

/-! ## Containers -/

def itemsIn (parse : Path Live → Datum → Reporting Datum) (path : Path Live) :
    Nat → List Datum → Reporting (List Datum)
  | _, [] => return []
  | i, v :: rest => do
    let x ← parse (path ++ [.int i]) v
    return x :: (← itemsIn parse path (i + 1) rest)

def valuesIn (parse : Path Live → Datum → Reporting Datum) (path : Path Live) :
    Entries Live → Reporting (Entries Live)
  | [] => return []
  | (k, v) :: rest => do
    let x ← parse (path ++ [k]) v
    return (k, x) :: (← valuesIn parse path rest)

def entriesIn (key value : Path Live → Datum → Reporting Datum)
    (keyPath valuePath : Nat → Datum → Path Live) :
    Nat → Entries Live → Rebuilt → Reporting Rebuilt
  | _, [], b => return b
  | i, (k, v) :: rest, b => do
    let parsedKey ← key (keyPath i k) k
    let parsedValue ← value (valuePath i k) v
    let b ← silent (b.add ⟨parsedKey, []⟩ ⟨parsedValue, []⟩)
    entriesIn key value keyPath valuePath (i + 1) rest b

/-- The output of a sequence from those of its items. -/
def sequenceOutput (ofItems : List Datum → Datum) (xs : List Datum) : Datum :=
  if xs.any (·.isInvalid) then .invalid else ofItems xs

/-- The output of an object from those of its fields and what stands outside the shape. -/
def objectOutput (fields : List (String × Datum)) (extra : Entries Live) (failed : Bool) :
    Datum :=
  (objectResult (fields.map fun f => (f.1, ⟨f.2, []⟩)) extra [] failed).value

mutual

/-- Parses a value at a path in a context. -/
def Schema.parseIn (ch : Channel) : Schema → Path Live → Datum → Reporting Datum
  | .string lengths pattern, path, v => stringIn lengths pattern path v
  | .number bounds integer, path, v => numberIn bounds integer path v
  | .boolean, path, v => settle (parseBoolean path v)
  | .none, path, v => settle (parseNone path v)
  | .any, _, v => return v
  | .unknown, _, v => return v
  | .never, path, v => settle (parseNever path v)
  | .literal value, path, v => settle (parseLiteral value path v)
  | .enum values, path, v => settle (parseEnum values path v)
  | .array element lengths, path, v =>
    match v.listItems? with
    | some items => do
      lengthIn path "Array" "element" lengths items.length
      let xs ← itemsIn (fun p x => element.parseIn ch p x) path 0 items
      return sequenceOutput (.list .free) xs
    | Option.none => settle (wrongContainer path "array" v)
  | .object shape catchall policy, path, v =>
    match v.entries? with
    | some entries => do
      let fields ← fieldsIn ch shape path entries
      let extra := extraEntries shape entries
      match catchall with
      | some s => do
        let xs ← valuesIn (fun p x => s.parseIn ch p x) path extra
        return objectOutput fields xs (xs.any (·.2.isInvalid))
      | Option.none =>
        settle (closedObject path policy (fields.map fun f => (f.1, ⟨f.2, []⟩)) extra)
    | Option.none => settle (wrongContainer path "object" v)
  | .union options, path, v => optionsIn ch options path v []
  | .tagged key options table, path, v =>
    match v.entries? with
    | some entries =>
      match optionAt? table (valueAt entries key) with
      | some i => optionIn ch options i path v
      | Option.none => settle (wrongTag path key table)
    | Option.none => settle (wrongContainer path "object" v)
  | .intersection left right, path, v => do
    let l ← left.parseIn ch path v
    let r ← right.parseIn ch path v
    settle (intersectionResult path ⟨l, []⟩ ⟨r, []⟩)
  | .tuple items rest, path, v =>
    match v.sequence? with
    | some (isTuple, vs) =>
      if vs.length < items.length then
        settle (tupleBound path .tooSmall "least" "minimum" items.length)
      else do
        let ofItems := if isTuple then Value.tuple else Value.list .free
        match rest with
        | some s => do
          let xs ← tupleItemsIn ch items (fun p x => s.parseIn ch p x) path 0 vs
          return sequenceOutput ofItems xs
        | Option.none =>
          if items.length < vs.length then
            settle (tupleBound path .tooBig "most" "maximum" items.length)
          else do
            let xs ← tupleItemsIn ch items (fun _ x => return x) path 0 vs
            return sequenceOutput ofItems xs
    | Option.none => settle (wrongContainer path "tuple" v)
  | .record key value, path, v =>
    match v.entries? with
    | some entries => do
      let b ← entriesIn (fun p x => key.parseIn ch p x) (fun p x => value.parseIn ch p x)
        (fun _ k => path ++ [k]) (fun _ k => path ++ [k]) 0 entries {}
      return b.parsed.value
    | Option.none => settle (wrongContainer path "record" v)
  | .map key value, path, v =>
    match v.entries? with
    | some entries => do
      let b ← entriesIn (fun p x => key.parseIn ch p x) (fun p x => value.parseIn ch p x)
        (fun i _ => path ++ [.int i, .str "key"]) (fun i _ => path ++ [.int i, .str "value"])
        0 entries {}
      return b.parsed.value
    | Option.none => settle (wrongContainer path "map" v)
  | .set element, path, v =>
    match v.setItems? with
    | some (readOnly, items) => do
      let xs ← itemsIn (fun p x => element.parseIn ch p x) path 0 items
      return (← silent (setResult readOnly (xs.map fun x => ⟨x, []⟩))).value
    | Option.none => settle (wrongContainer path "set" v)
  | .function items rest returns, path, v =>
    match v with
    | .live x =>
      if x.isCallable then do
        return .live (.guarded (← silent Run.identity) items rest returns x)
      else settle (wrongContainer path "function" v)
    | _ => settle (wrongContainer path "function" v)
  | .lazy id origin, path, v => ch.enter id origin path v
  | .effect .preprocess action _ inner, path, v => do
    let (x, dirty) ← watch (ch.apply action path v)
    if dirty then return .invalid else inner.parseIn ch path x
  | .effect .refinement action _ inner, path, v => do
    let x ← inner.parseIn ch path v
    if x.isInvalid then return x
    else do
      let _ ← ch.act action path x
      return x
  | .effect .transform action _ inner, path, v =>
    andThen (inner.parseIn ch path v) (ch.apply action path)
  | .optional inner, path, v =>
    if v.isMissing || v.isNone then return v else inner.parseIn ch path v
  | .nullable inner, path, v =>
    if v.isNone then return v else inner.parseIn ch path v
  | .default inner supply, path, v => do
    let v ← if v.isMissing then silent (ch.links.supply supply) else pure v
    inner.parseIn ch path v
  | .catch inner supply, path, v => do
    let (x, issues) ← fork (inner.parseIn ch path v)
    if !x.isInvalid && issues.isEmpty then return x else silent (ch.links.rescue issues supply)
  | .promise inner, path, v =>
    match v with
    | .live x =>
      if x.isAwaitable then do
        return .live (.pending (← silent Run.identity) inner x)
      else settle (wrongAwaitable path v)
    | _ => settle (wrongAwaitable path v)
  | .branded inner _, path, v => inner.parseIn ch path v
  | .pipeline input output, path, v =>
    andThen (input.parseIn ch path v) fun x => output.parseIn ch path x
  | .invertible input parse output _, path, v =>
    andThen (andThen (input.parseIn ch path v) (ch.apply (.custom parse) path))
      fun x => output.parseIn ch path x
  | .readonly inner, path, v => do
    let x ← inner.parseIn ch path v
    silent x.freeze.numbered
  | .foreign _, _, v => return v
  | .raw value, _, _ => throw (.fault (.noAttribute value.typeName "_parse"))
  termination_by structural s => s

def fieldsIn (ch : Channel) :
    List (String × Schema) → Path Live → Entries Live → Reporting (List (String × Datum))
  | [], _, _ => return []
  | (key, s) :: rest, path, entries => do
    let x ← s.parseIn ch (path ++ [.str key]) (valueAt entries key)
    return (key, x) :: (← fieldsIn ch rest path entries)
  termination_by structural fields => fields

/-- Tries options, each with a list of its own. `tried` holds the outputs and issues of the
options before. -/
def optionsIn (ch : Channel) : List Schema → Path Live → Datum →
    List (Datum × List (Issue Live)) → Reporting Datum
  | [], path, _, tried => settle (unionResult path (tried.map fun t => ⟨t.1, t.2⟩))
  | s :: rest, path, v, tried => do
    let (x, issues) ← fork (s.parseIn ch path v)
    if !x.isInvalid && issues.isEmpty then return x
    else optionsIn ch rest path v (tried ++ [(x, issues)])
  termination_by structural options => options

def optionIn (ch : Channel) : List Schema → Nat → Path Live → Datum → Reporting Datum
  | [], _, _, v => return v
  | s :: _, 0, path, v => s.parseIn ch path v
  | _ :: rest, i + 1, path, v => optionIn ch rest i path v
  termination_by structural options => options

def tupleItemsIn (ch : Channel) :
    List Schema → (Path Live → Datum → Reporting Datum) → Path Live → Nat → List Datum →
      Reporting (List Datum)
  | [], rest, path, i, vs => itemsIn rest path i vs
  | s :: ss, rest, path, i, v :: vs => do
    let x ← s.parseIn ch (path ++ [.int i]) v
    return x :: (← tupleItemsIn ch ss rest path (i + 1) vs)
  | _ :: _, _, _, _, [] => return []
  termination_by structural items => items

end

/-- Waits for an awaitable in a context. -/
def Live.awaitIn (ch : Channel) : Live → Reporting Datum
  | .promise _ suspends value => do
    if suspends then silent ch.links.suspend
    return value
  | .pending id inner awaited => do
    silent (Run.awaitOnce id)
    let v ← awaited.awaitIn ch
    let (x, issues) ← fork (inner.parseIn ch [] v)
    silent (Run.lift (Parsed.finish ⟨x, issues⟩))
  | .running id fn args => do
    silent (Run.awaitOnce id)
    let reply := ch.links.host.call fn args
    silent (Run.record (.called fn args))
    silent (discard <| ch.links.play [] reply.happenings)
    silent (← silent (Run.lift reply.outcome)).numbered
  | .working id fn path v => do
    silent (Run.awaitOnce id)
    let reply := ch.links.host.effect fn v path
    silent (Run.record (.called fn [v]))
    ch.play path reply.happenings
    silent (← silent (Run.lift reply.outcome)).numbered
  | x => return .live x
  termination_by structural x => x

/-- The channel of a parse within a depth. -/
def Library.channel (lib : Library) (mode : Mode) : Nat → Channel
  | 0 => {
      links := lib.links mode 0
      enter := fun _ _ _ _ => throw (.fault .tooDeep)
      await := fun _ => throw (.fault .tooDeep) }
  | depth + 1 => {
      links := lib.links mode (depth + 1)
      enter := fun id origin path v => do
        let s ← silent (lib.plans.force (depth + 1) id origin)
        s.parseIn (lib.channel mode depth) path v
      await := fun x => x.awaitIn (lib.channel mode depth) }

end TwoWay
