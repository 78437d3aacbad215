import TwoWay.Value.Place
import TwoWay.Value.Sorting

/-!
# Methods of lists

A call gives the list as it is afterwards and a result. A read-only list refuses every method
that would change it, and other lists refuse a call with too few or too many arguments.
-/

namespace TwoWay

/-- A container after a call, and what came of the call. -/
structure Called (κ : Type) where
  after : Value κ
  result : Except Fault (Value κ)

namespace Value

variable {κ : Type} [Handle κ]

/-- An argument of a call. -/
def argument (args : List (Value κ)) (i : Nat) : Value κ := args[i]?.getD .none

/-- Where an item stands for the first time. -/
def indexOf? (items : List (Value κ)) (x : Value κ) : Option Nat := items.findIdx? (·.agrees x)

/-- The number of items that are equal to one. -/
def occurrences (items : List (Value κ)) (x : Value κ) : Nat :=
  (items.filter (·.agrees x)).length

/-- A bound of a part of a list, counted from the back if it is negative. -/
def asBound (size : Nat) (v : Value κ) : Except Fault Nat :=
  match v.asInteger? with
  | some i => .ok (if i < 0 then (i + size).toNat else i.toNat)
  | Option.none => .error .badSlice

/-- Where an item stands for the first time between two bounds. -/
def indexBetween? (items : List (Value κ)) (args : List (Value κ)) : Except Fault (Option Nat) := do
  let bound (i whole : Nat) : Except Fault Nat :=
    match args[i]? with
    | some v => v.asBound items.length
    | Option.none => return whole
  let start ← bound 1 0
  let stop ← bound 2 items.length
  return (indexOf? ((items.take stop).drop start) (argument args 0)).map (start + ·)

/-- A list holds no more items than this. -/
def listBound : Nat := 100000000

/-- Items repeated so many times. -/
def repeatItems (items : List (Value κ)) (count : Int) : Except Fault (List (Value κ)) :=
  if listBound < items.length * count.toNat then .error .noMemory
  else .ok (if items.isEmpty then [] else (List.replicate count.toNat items).flatten)

/-- The items of a list followed by those of another. -/
def joinItems (items : List (Value κ)) : Value κ → Except Fault (List (Value κ))
  | .list _ more => .ok (items ++ more)
  | v => .error (.concatenation "list" v.typeName)

/-- The comparison that a method makes. -/
def comparisonOf? : String → Option Comparison
  | "__lt__" => some .less
  | "__le__" => some .atMost
  | "__gt__" => some .greater
  | "__ge__" => some .atLeast
  | _ => Option.none

/-- How many arguments the methods of every container take. -/
def commonArity? : String → Option Arity
  | "__len__" | "__repr__" | "__str__" => some (.exactly 0)
  | "__eq__" | "__ne__" | "__lt__" | "__le__" | "__gt__" | "__ge__" => some (.exactly 1)
  | _ => Option.none

/-- The result of a method of every container. -/
def callCommon (v : Value κ) (method : String) (args : List (Value κ)) : Except Fault (Value κ) :=
  let x := argument args 0
  match comparisonOf? method, method with
  | some c, _ => do return .bool (← compared c v x)
  | Option.none, "__len__" => .ok (.int (v.size?.getD 0))
  | Option.none, "__eq__" => .ok (.bool (v.equal x))
  | Option.none, "__ne__" => .ok (.bool !(v.equal x))
  | Option.none, _ => .ok (.str v.quoted)

/-- How many arguments a method of lists takes. -/
def listArity? : String → Option Arity
  | "append" => some (.one "list.append")
  | "extend" => some (.one "list.extend")
  | "remove" => some (.one "list.remove")
  | "count" => some (.one "list.count")
  | "__getitem__" => some (.one "list.__getitem__")
  | "insert" => some (.between "insert" 2 2)
  | "pop" => some (.between "pop" 0 1)
  | "index" => some (.between "index" 1 3)
  | "clear" => some (.none "list.clear")
  | "copy" => some (.none "list.copy")
  | "reverse" => some (.none "list.reverse")
  | "sort" => some (.named "sort" 2)
  | "__contains__" | "__add__" | "__iadd__" | "__delitem__" => some (.exactly 1)
  | "__mul__" | "__rmul__" | "__imul__" => some (.between "" 1 1)
  | "__setitem__" => some (.between "" 2 2)
  | m => commonArity? m

/-- Whether a method would change a list. -/
def changesList (method : String) : Bool :=
  ["append", "extend", "insert", "pop", "remove", "clear", "sort", "reverse", "__setitem__",
    "__delitem__", "__iadd__", "__imul__"].contains method

/-- The result of a method that leaves a list as it is. -/
def readList (access : Access) (items : List (Value κ)) (method : String)
    (args : List (Value κ)) : Except Fault (Value κ) :=
  let x := argument args 0
  match method with
  | "__contains__" => .ok (.bool (items.any (·.agrees x)))
  | "__getitem__" => itemAt "list" items x
  | "copy" => .ok (.list .free items)
  | "count" => .ok (.int (occurrences items x))
  | "index" => do
    match ← indexBetween? items args with
    | some i => return .int i
    | Option.none => throw (.notContained x.quoted)
  | "__add__" => do return .list .free (← joinItems items x)
  | "__mul__" | "__rmul__" => do
    return .list .free (← repeatItems items (← x.asCount (.hugeIndex .overflow)))
  | m => callCommon (.list access items) m args

/-- What a method changes a list to, and its result if that is not the list itself. -/
def changeList (items : List (Value κ)) (method : String) (args : List (Value κ)) :
    Except Fault (List (Value κ) × Option (Value κ)) := do
  let x := argument args 0
  match method with
  | "append" => return (items ++ [x], some .none)
  | "extend" => return (items ++ (← x.iterate), some .none)
  | "insert" =>
    let i ← x.asCount .hugeInteger
    let place := if i < 0 then (i + items.length).toNat else i.toNat
    return (items.insertIdx (min place items.length) (argument args 1), some .none)
  | "pop" =>
    let i ← if args.isEmpty then pure (-1) else x.asCount .hugeInteger
    if items.isEmpty then throw .emptyPop
    match position? i items.length with
    | some p => return (items.eraseIdx p, some (items.getD p .none))
    | Option.none => throw .popOutOfRange
  | "remove" =>
    match indexOf? items x with
    | some i => return (items.eraseIdx i, some .none)
    | Option.none => throw .notInList
  | "reverse" => return (items.reverse, some .none)
  | "__setitem__" =>
    let i ← x.asListPlace .assignmentOutOfRange items.length
    return (items.set i (argument args 1), some .none)
  | "__delitem__" =>
    return (items.eraseIdx (← x.asListPlace .assignmentOutOfRange items.length), some .none)
  | "__iadd__" => return (items ++ (← x.iterate), Option.none)
  | "__imul__" => return (← repeatItems items (← x.asCount (.hugeIndex .overflow)), Option.none)
  | _ => return ([], some .none)

/-- Calls a method of a list. -/
def callList (access : Access) (items : List (Value κ)) (method : String)
    (args : List (Value κ)) : Called κ :=
  let same := Value.list access items
  if access.isReadOnly && changesList method then ⟨same, .error .readOnlyList⟩
  else match listArity? method with
    | Option.none => ⟨same, .error (.noAttribute same.typeName method)⟩
    | some arity =>
      if !arity.allows args.length then ⟨same, .error (.argumentCount arity args.length)⟩
      else if method = "sort" then
        let (sorted, done) := sortItems items
        ⟨.list access sorted, done.map fun _ => .none⟩
      else if changesList method then
        match changeList items method args with
        | .ok (items, result) => ⟨.list access items, .ok (result.getD (.list access items))⟩
        | .error f => ⟨same, .error f⟩
      else ⟨same, readList access items method args⟩

end Value
end TwoWay
