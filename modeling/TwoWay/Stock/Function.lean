import TwoWay.Stock.Predicate
import TwoWay.Text.Quoted
import TwoWay.Value.Place

/-!
# Ready-made functions

Functions on values for effects and for the mappings of two-way nodes. Most of them leave
a value alone that they are not made for.
-/

namespace TwoWay.Stock

/-- The containers that a list or tuple can be converted to. -/
inductive Container where
  | list
  | tuple
  | set
  | frozenSet
  deriving DecidableEq, Repr, Inhabited

/-- What an `issue` reports. The code is given by its name. -/
structure Report where
  message : String
  condition : Option Predicate := none
  code : String := "custom"
  path : List Datum := []
  details : List (String × Datum) := []
  /-- What the function gives instead of the value. -/
  result : Option Datum := none

inductive Function where
  | parseFloat
  | formatFloat
  | identity
  | const (value : Datum)
  | double
  | add (summand : Datum)
  | upper
  | lower
  | strip
  | length
  | toText
  | toInteger
  | split (separator : String)
  | join (separator : String)
  | reverse
  | wrap (key : Datum)
  | get (key : Datum)
  | convert (container : Container)
  | freeze
  | spy (label : Datum)
  | issue (report : Report)
  | raise (kind : FaultKind) (message : String)
  | refuse (message : String)
  /-- An asynchronous function, which gives an awaitable. -/
  | later (fn : FunctionRef)
  /-- One function after the other, the first one first. -/
  | seq (functions : List Function)

instance : Inhabited Function := ⟨.identity⟩

/-- The items of a list that may be changed or of a tuple. -/
def itemsOf? : Datum → Option (List Datum)
  | .list .free items | .tuple items => some items
  | _ => none

/-- The texts of a list that holds nothing else. -/
def textsOf? : List Datum → Option (List String)
  | [] => some []
  | .str s :: rest => (textsOf? rest).map (s :: ·)
  | _ => none

/-- Without blanks at either end. -/
def trimSpaces (s : String) : String :=
  String.ofList (((s.toList.dropWhile (· = ' ')).reverse.dropWhile (· = ' ')).reverse)

/-- The decimal digits of an integer with an optional minus. -/
def plainInteger? (s : String) : Option (Except Fault Int) :=
  let digits := match s.toList with
    | '-' :: rest => rest
    | cs => cs
  if digits.isEmpty || !digits.all Char.isDigit then none else some (readInteger s (Text.quoted s))

def requireHashable (v : Datum) : Act Unit :=
  match v.unhashable? with
  | some t => Act.fail (.fault (.unhashable t))
  | none => return

/-- Reports an issue of code `custom`. -/
def reportCustom (message : String) (details : List (String × Datum)) : Act Unit :=
  modify (.reported .custom message [] details :: ·)

/-- Items in another container. Those of a set have to be hashable. -/
def Container.ofItems (items : List Datum) : Container → Act Datum
  | .list => return .list .free items
  | .tuple => return .tuple items
  | .set => do
    for v in items do requireHashable v
    return .set false (distinct items)
  | .frozenSet => do
    for v in items do requireHashable v
    return .set true (distinct items)

/-- The segments that a value gives. -/
def segments (v : Datum) : Except Fault (List Datum) :=
  v.iterate.mapError fun _ => .notSpreadable v.typeName

/-- Where a report stands, and its details. A detail `path` says where if nothing else does, and
what has a place of its own is no detail. -/
def Report.place (r : Report) : Except Fault (List Datum × List (String × Datum)) := do
  match r.details.find? fun d => d.1 = "message" || d.1 = "self" with
  | some (name, _) => throw (.repeatedArgument "RefinementContext.add_issue" name)
  | none =>
    let details := r.details.filter (·.1 != "path")
    match r.path, r.details.lookup "path" with
    | [], some v => return (← segments v, details)
    | path, _ => return (path, details)

/-- Reports unless the condition fails. -/
def Report.run (r : Report) (v : Datum) : Act Datum := do
  let holds ← match r.condition with
    | some p => Value.truthy <$> p.run v
    | none => pure true
  if holds then
    match IssueCode.ofText? r.code with
    | some code => do
      let (path, details) ← Act.lift r.place
      modify (.reported code r.message path details :: ·)
    | none => Act.fail (.malformed (.notIssueCode (Text.quoted r.code)))
  return r.result.getD v

/-- The result for every text that denotes no number. -/
def unreadable : Double := .nan (.given 0)

/-- The number that a text or another value denotes; a text that denotes none is
reported. -/
def parseFloat (v : Datum) : Act Datum := do
  match v.toDouble with
  | .ok d => return .float d
  | .error (.unreadableNumber _) =>
    reportCustom "invalid float" []
    return .float unreadable
  | .error f => Act.fail (.fault f)

namespace Function

mutual

/-- What a function gives for a value at a path. -/
def run : Function → List Datum → Datum → Act Datum
  | .parseFloat, _, v => Stock.parseFloat v
  | .formatFloat, _, v => return .str (← Act.lift v.numberText)
  | .identity, _, v => return v
  | .const value, _, _ => return value
  | .double, _, v => if v.isNumber then Act.lift (v.plus v) else return v
  | .add summand, _, v => if v.isNumber then Act.lift (v.plus summand) else return v
  | .upper, _, v => match v with
    | .str s => return .str (s.map Char.toUpper)
    | _ => return v
  | .lower, _, v => match v with
    | .str s => return .str (s.map Char.toLower)
    | _ => return v
  | .strip, _, v => match v with
    | .str s => return .str (trimSpaces s)
    | _ => return v
  | .length, _, v => match v, v.size? with
    | .list (.readOnly _) _, _ | _, none => return v
    | _, some n => return .int n
  | .toText, _, v => match v with
    | .int i => return .str (← Act.lift (integerText i))
    | _ => return v
  | .toInteger, _, v => do
    let read := match v with
      | .str s => plainInteger? s
      | _ => none
    match read with
    | some i => return .int (← Act.lift i)
    | none =>
      reportCustom "not an integer" [("input", v)]
      return v
  | .split separator, _, v => match v with
    | .str s =>
      if separator.isEmpty then Act.fail (.fault (.raised .value "empty separator"))
      else return .list .free ((s.splitOn separator).map .str)
    | _ => return v
  | .join separator, _, v => match v with
    | .list .free items => match textsOf? items with
      | some texts => return .str (separator.intercalate texts)
      | none => return v
    | _ => return v
  | .reverse, _, v => match v with
    | .str s => return .str (String.ofList s.toList.reverse)
    | .list .free items => return .list .free items.reverse
    | .tuple items => return .tuple items.reverse
    | _ => return v
  | .wrap key, _, v => do
    requireHashable key
    return .dict .free [(key, v)]
  | .get key, _, v => match v with
    | .dict _ entries => do
      requireHashable key
      return (Entries.get? entries key).getD v
    | _ => return v
  | .convert container, _, v => match itemsOf? v with
    | some items => container.ofItems items
    | none => return v
  | .freeze, _, v => return v.freeze
  | .spy label, path, v => do
    Act.note [label, v, .list .free path]
    return v
  | .issue report, _, v => report.run v
  | .raise kind message, _, _ => Act.fail (.fault (.raised kind message))
  | .refuse message, path, _ => Act.fail (.ofIssues [⟨.custom, message, path, []⟩])
  | .later fn, path, v => return .live (.working .new fn path v)
  | .seq functions, path, v => runAll functions path v
  termination_by structural f => f

def runAll : List Function → List Datum → Datum → Act Datum
  | [], _, v => return v
  | f :: rest, path, v => do
    let v ← f.run path v
    runAll rest path v
  termination_by structural fs => fs

end
end Function

/-- Functions that stand as values. -/
inductive Callable where
  | sum
  | count
  | first
  | listed
  | const (value : Datum)
  | spy
  | raise
  deriving Inhabited

/-- What a call gives. -/
def Callable.run : Callable → List Datum → Act Datum
  | .sum, args => Act.lift (Value.sum args)
  | .count, args => return .int args.length
  | .first, args => return args.head?.getD .none
  | .listed, args => return .list .free args
  | .const value, _ => return value
  | .spy, args => do
    Act.note [.str "call", .list .free args]
    return .none
  | .raise, _ => Act.fail (.fault (.raised .value "called"))

/-- What a fallback makes of the failure it stands in for. -/
inductive Rescue where
  | count
  | message
  | codes
  | paths
  deriving DecidableEq, Repr, Inhabited

/-- The fallback for a list of issues. -/
def Rescue.run (issues : List (Issue Live)) : Rescue → Act Datum
  | .count => return .int issues.length
  | .message => return .str (← Act.lift (Issue.report issues))
  | .codes => return .list .free (issues.map fun i => .str i.code.text)
  | .paths => return .list .free (← issues.mapM fun i => Act.lift (location i.path))

end TwoWay.Stock
