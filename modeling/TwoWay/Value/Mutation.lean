import TwoWay.Value.ListMethod

/-!
# Methods of containers

The methods of mappings, tuples and sets beside those of lists, and writing an item of any
container.
-/

namespace TwoWay.Value

variable {κ : Type} [Handle κ]

/-- Removes an entry. -/
def eraseEntry (entries : Entries κ) (key : Value κ) : Entries κ :=
  entries.filter fun e => !e.1.agrees key

def mappingArity? (access : Access) : String → Option Arity
  | "__getitem__" => some (if access.isReadOnly then .exactly 1 else .one "dict.__getitem__")
  | "__contains__" => some (if access.isReadOnly then .exactly 1 else .one "dict.__contains__")
  | "get" => some (.between "get" 1 2)
  | "copy" => some (.none (if access.isReadOnly then "mappingproxy.copy" else "dict.copy"))
  | "pop" => if access.isReadOnly then Option.none else some (.between "pop" 1 2)
  | "setdefault" => if access.isReadOnly then Option.none else some (.between "setdefault" 1 2)
  | "popitem" => if access.isReadOnly then Option.none else some (.none "dict.popitem")
  | "clear" => if access.isReadOnly then Option.none else some (.none "dict.clear")
  | "__setitem__" => if access.isReadOnly then Option.none else some (.between "" 2 2)
  | "__delitem__" => if access.isReadOnly then Option.none else some (.exactly 1)
  | m => commonArity? m

/-- Whether a method looks up a key. -/
def asksKey (method : String) : Bool :=
  ["__getitem__", "__contains__", "get", "pop", "setdefault", "__setitem__", "__delitem__"].contains
    method

/-- The entries of a mapping after a call, and its result. -/
def runMapping (access : Access) (entries : Entries κ) (method : String)
    (args : List (Value κ)) : Except Fault (Entries κ × Value κ) := do
  let key := argument args 0
  let second := argument args 1
  if asksKey method then
    if let some t := key.unhashable? then throw (.unhashable t)
  match method with
  | "__getitem__" => return (entries, ← entryAt entries key)
  | "__contains__" => return (entries, .bool (Entries.hasKey entries key))
  | "get" => return (entries, (Entries.get? entries key).getD second)
  | "copy" => return (entries, .dict .free entries)
  | "pop" =>
    match Entries.get? entries key, args[1]? with
    | some v, _ => return (eraseEntry entries key, v)
    | Option.none, some v => return (entries, v)
    | Option.none, Option.none => throw (.noEntry key.quoted)
  | "popitem" =>
    match entries.getLast? with
    | some (k, v) => return (entries.dropLast, .tuple [k, v])
    | Option.none => throw (.noEntry "'popitem(): dictionary is empty'")
  | "setdefault" =>
    match Entries.get? entries key with
    | some v => return (entries, v)
    | Option.none => return (Entries.put entries key second, second)
  | "clear" => return ([], .none)
  | "__setitem__" => return (Entries.put entries key second, .none)
  | "__delitem__" =>
    if Entries.hasKey entries key then return (eraseEntry entries key, .none)
    else throw (.noEntry key.quoted)
  | m => return (entries, ← callCommon (.dict access entries) m args)

def tupleArity? : String → Option Arity
  | "count" => some (.one "tuple.count")
  | "index" => some (.between "index" 1 3)
  | "__getitem__" | "__contains__" | "__add__" => some (.exactly 1)
  | "__mul__" | "__rmul__" => some (.between "" 1 1)
  | m => commonArity? m

/-- The result of a method of a tuple. -/
def runTuple (items : List (Value κ)) (method : String) (args : List (Value κ)) :
    Except Fault (Value κ) := do
  let x := argument args 0
  match method with
  | "count" => return .int (occurrences items x)
  | "index" =>
    match ← indexBetween? items args with
    | some i => return .int i
    | Option.none => throw .notInTuple
  | "__getitem__" => itemAt "tuple" items x
  | "__contains__" => return .bool (items.any (·.agrees x))
  | "__add__" =>
    match x with
    | .tuple more => return .tuple (items ++ more)
    | v => throw (.concatenation "tuple" v.typeName)
  | "__mul__" | "__rmul__" =>
    return .tuple (← repeatItems items (← x.asCount (.hugeIndex .overflow)))
  | m => callCommon (.tuple items) m args

def setArity? (readOnly : Bool) (method : String) : Option Arity :=
  let name := (if readOnly then "frozenset." else "set.") ++ method
  match method with
  | "copy" => some (.none name)
  | "__contains__" => some (.one name)
  | "add" | "remove" | "discard" => if readOnly then Option.none else some (.one name)
  | "clear" | "pop" => if readOnly then Option.none else some (.none name)
  | m => commonArity? m

/-- The items of a set after a call, and its result. -/
def runSet (readOnly : Bool) (items : List (Value κ)) (method : String) (args : List (Value κ)) :
    Except Fault (List (Value κ) × Value κ) := do
  let x := argument args 0
  if ["add", "remove", "discard", "__contains__"].contains method then
    if let some t := x.unhashable? then throw (.unhashable t)
  let isMember := items.any (·.agrees x)
  let others := items.filter fun y => !y.agrees x
  match method with
  | "add" => return (if isMember then items else items ++ [x], .none)
  | "remove" => if isMember then return (others, .none) else throw (.noEntry x.quoted)
  | "discard" => return (others, .none)
  | "clear" => return ([], .none)
  | "copy" => return (items, .set readOnly items)
  | "pop" =>
    match items with
    | y :: rest => return (rest, y)
    | [] => throw (.noEntry "'pop from an empty set'")
  | "__contains__" => return (items, .bool isMember)
  | m => return (items, ← callCommon (.set readOnly items) m args)

/-- Calls a method that takes so many arguments. -/
def callCounted (v : Value κ) (method : String) (args : List (Value κ)) (arity : Option Arity)
    (run : Except Fault (Value κ × Value κ)) : Called κ :=
  match arity with
  | Option.none => ⟨v, .error (.noAttribute v.typeName method)⟩
  | some arity =>
    if !arity.allows args.length then ⟨v, .error (.argumentCount arity args.length)⟩
    else match run with
      | .ok (after, result) => ⟨after, .ok result⟩
      | .error f => ⟨v, .error f⟩

/-- Calls a method of a value. -/
def callNamed (v : Value κ) (method : String) (args : List (Value κ)) : Called κ :=
  match v with
  | .list access items => callList access items method args
  | .dict access entries =>
    callCounted v method args (mappingArity? access method) do
      let (entries, result) ← runMapping access entries method args
      return (.dict access entries, result)
  | .tuple items =>
    callCounted v method args (tupleArity? method) do return (v, ← runTuple items method args)
  | .set readOnly items =>
    callCounted v method args (setArity? readOnly method) do
      let (items, result) ← runSet readOnly items method args
      return (.set readOnly items, result)
  | _ => ⟨v, .error (.noAttribute v.typeName method)⟩

/-- Writes an item of a value. -/
def setItem (v : Value κ) (args : List (Value κ)) : Called κ :=
  if args.length < 2 then ⟨v, .error (.indexOutOfRange "list ")⟩
  else match v with
    | .list .. | .dict .free _ => v.callNamed "__setitem__" (args.take 2)
    | .dict (.readOnly _) _ => ⟨v, .error .readOnlyMapping⟩
    | _ => ⟨v, .error (.noItemAssignment v.typeName)⟩

/-- Calls a method of a value, or writes an item. -/
def callMethod (v : Value κ) (method : String) (args : List (Value κ)) : Called κ :=
  if method = "setitem" then v.setItem args else v.callNamed method args

end TwoWay.Value
