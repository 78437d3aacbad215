import TwoWay.Number.Double

/-!
# Values

The data that schemas read and produce. Lists, mappings and sets come in a mutable
and a read-only form. Two sentinels accompany the data: `missing` stands for the
value of an absent key, `invalid` for an output that could not be produced.
Functions and awaitables are handles of a type `κ` that the schemas choose.
-/

namespace TwoWay

/-- Whether a list or mapping may be changed. One that may not be has an identity. -/
inductive Access where
  | free
  | readOnly (id : Identity)
  deriving DecidableEq, Repr

namespace Access

def isReadOnly : Access → Bool
  | .free => false
  | .readOnly _ => true

/-- Whether containers of these kinds are told apart by nothing but their content. -/
def same : Access → Access → Bool
  | .free, .free => true
  | .readOnly i, .readOnly j => i.same j
  | _, _ => false

end Access

inductive Value (κ : Type) where
  | none
  | bool (b : Bool)
  | int (i : Int)
  | float (d : Double)
  | str (s : String)
  | bytes (bytes : List UInt8)
  | list (access : Access) (items : List (Value κ))
  | tuple (items : List (Value κ))
  | dict (access : Access) (entries : List (Value κ × Value κ))
  | set (readOnly : Bool) (items : List (Value κ))
  | missing
  | invalid
  | live (handle : κ)
  deriving Inhabited

/-- What values need to know about their handles. -/
class Handle (κ : Type) where
  /-- The name of the handle's type. -/
  typeName : κ → String
  /-- Whether two handles are the same. Only then are they equal. -/
  same : κ → κ → Bool

namespace Value

variable {κ : Type}

/-- The name of a value's type. -/
def typeName [Handle κ] : Value κ → String
  | .none => "NoneType"
  | .bool _ => "bool"
  | .int _ => "int"
  | .float _ => "float"
  | .str _ => "str"
  | .bytes _ => "bytes"
  | .list access _ => if access.isReadOnly then "FrozenList" else "list"
  | .tuple _ => "tuple"
  | .dict access _ => if access.isReadOnly then "mappingproxy" else "dict"
  | .set readOnly _ => if readOnly then "frozenset" else "set"
  | .missing => "MissingSentinel"
  | .invalid => "InvalidSentinel"
  | .live x => Handle.typeName x

/-- The type an issue names as received. -/
def received [Handle κ] : Value κ → String
  | .none => "none"
  | .missing => "missing"
  | v => v.typeName

def isMissing : Value κ → Bool
  | .missing => true
  | _ => false

def isInvalid : Value κ → Bool
  | .invalid => true
  | _ => false

def isNone : Value κ → Bool
  | .none => true
  | _ => false

/-- The integer that an integer or a truth value counts as. -/
def asInteger? : Value κ → Option Int
  | .int i => some i
  | .bool b => some (if b then 1 else 0)
  | _ => Option.none

/-- Numbers are integers and doubles; truth values are not. -/
def isNumber : Value κ → Bool
  | .int _ | .float _ => true
  | _ => false

/-- Whether a condition holds of the value: zero, the empty text or container,
`none` and `missing` do not count as true. -/
def truthy : Value κ → Bool
  | .none | .missing => false
  | .bool b => b
  | .int i => i != 0
  | .float (.finite _ m _) => m != 0
  | .str s => !s.isEmpty
  | .bytes bs => !bs.isEmpty
  | .list _ items | .tuple items | .set _ items => !items.isEmpty
  | .dict _ entries => !entries.isEmpty
  | .float _ | .invalid | .live _ => true

/-- The number of characters, bytes, items or entries. -/
def size? : Value κ → Option Nat
  | .str s => some s.length
  | .bytes bs => some bs.length
  | .list _ items | .tuple items | .set _ items => some items.length
  | .dict _ entries => some entries.length
  | _ => Option.none

/-- The read-only form of a list or of a mutable container; other values stay. -/
def freeze : Value κ → Value κ
  | .list _ items => .list (.readOnly .new) items
  | .dict .free entries => .dict (.readOnly .new) entries
  | .set _ items => .set true items
  | v => v

end Value
end TwoWay
