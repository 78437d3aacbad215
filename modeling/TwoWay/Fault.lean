/-!
# Faults

What goes wrong when an operation meets a value it is not made for. A fault is not an
issue: it ends the run it happens in.
-/

namespace TwoWay

/-- The families of faults. -/
inductive FaultKind where
  | type
  | value
  | index
  | key
  | attribute
  | overflow
  | recursion
  | memory
  | runtime
  deriving DecidableEq, Repr

/-- How many arguments a method takes, and how it tells of others. -/
inductive Arity where
  /-- None, for a method of a type. -/
  | none (method : String)
  | one (method : String)
  /-- From a least number to a greatest one. -/
  | between (method : String) (least most : Nat)
  /-- A fixed number, for an operator. -/
  | exactly (count : Nat)
  /-- Only arguments with a name, of which there are so many. -/
  | named (method : String) (most : Nat)
  deriving DecidableEq, Repr

namespace Arity

def allows : Arity → Nat → Bool
  | .none _, given | .named .., given => given = 0
  | .one _, given => given = 1
  | .between _ least most, given => least ≤ given && given ≤ most
  | .exactly count, given => given = count

/-- So many arguments. -/
def counted (n : Nat) : String := toString n ++ (if n = 1 then " argument" else " arguments")

/-- What is said of another number of arguments. -/
def message (a : Arity) (given : Nat) : String :=
  match a with
  | .none m => m ++ "() takes no arguments (" ++ toString given ++ " given)"
  | .one m => m ++ "() takes exactly one argument (" ++ toString given ++ " given)"
  | .named m most =>
    if given ≤ most then m ++ "() takes no positional arguments"
    else m ++ "() takes at most " ++ counted most ++ " (" ++ toString given ++ " given)"
  | .exactly n => "expected " ++ counted n ++ ", got " ++ toString given
  | .between m least most =>
    let bound := if least = most then counted least
      else if given < least then "at least " ++ counted least
      else "at most " ++ counted most
    m ++ " expected " ++ bound ++ ", got " ++ toString given

end Arity

inductive Fault where
  /-- A value of a mutable type was used as a key. -/
  | unhashable (type : String)
  /-- Two values without an order were compared. -/
  | incomparable (operator left right : String)
  /-- Two values without a sum were added. -/
  | unaddable (left right : String)
  /-- A text was appended to something else than a text. -/
  | unappendable (type : String)
  | textAfterTuple
  | textAfterBytes
  | readOnlyList
  | readOnlyMapping
  /-- An item was written or deleted where the type has none. -/
  | noItemAssignment (type : String)
  | notIterable (type : String)
  | notSubscriptable (type : String)
  /-- Something else was appended to a list or tuple. -/
  | concatenation (container type : String)
  | notCallable (type : String)
  | notReal (type : String)
  /-- A pattern written in bytes met a text. -/
  | bytesPattern
  | unreadableNumber (quoted : String)
  | unreadableInteger (quoted : String)
  | beyondDoubles
  | noAttribute (type name : String)
  | noEntry (quoted : String)
  | emptyPop
  | popOutOfRange
  | assignmentOutOfRange
  | indexOutOfRange (container : String)
  | notInList
  | notInTuple
  | notContained (quoted : String)
  | badIndex (container type : String)
  | badTextIndex (type : String)
  /-- An index or count is too large for any container. -/
  | hugeIndex (kind : FaultKind)
  | hugeInteger
  | badSlice
  /-- An argument was given by its position and by its name. -/
  | repeatedArgument (function name : String)
  /-- Segments were asked of something that has none. -/
  | notSpreadable (type : String)
  | argumentCount (arity : Arity) (given : Nat)
  /-- A list became too large. -/
  | noMemory
  /-- An integer has more decimal digits than are read or, without a count, written. -/
  | manyDigits (count : Option Nat)
  /-- An awaitable was awaited a second time. -/
  | reusedAwaitable
  /-- A count was asked for. -/
  | noInteger (type : String)
  /-- Schemas nested or recursed too deep. -/
  | tooDeep
  /-- A user function gave up on its own. -/
  | raised (kind : FaultKind) (message : String)
  deriving DecidableEq, Repr

namespace Fault

def kind : Fault → FaultKind
  | .unreadableNumber _ | .unreadableInteger _ | .notInList | .notInTuple | .notContained _
  | .manyDigits _ => .value
  | .emptyPop | .popOutOfRange | .assignmentOutOfRange | .indexOutOfRange _ => .index
  | .noEntry _ => .key
  | .noAttribute .. => .attribute
  | .beyondDoubles | .hugeInteger => .overflow
  | .hugeIndex k => k
  | .noMemory => .memory
  | .reusedAwaitable => .runtime
  | .tooDeep => .recursion
  | .raised k _ => k
  | _ => .type

def message : Fault → String
  | .unhashable t => "unhashable type: '" ++ t ++ "'"
  | .incomparable op a b =>
    "'" ++ op ++ "' not supported between instances of '" ++ a ++ "' and '" ++ b ++ "'"
  | .unaddable a b => "unsupported operand type(s) for +: '" ++ a ++ "' and '" ++ b ++ "'"
  | .unappendable t => "unsupported operand type(s) for +=: '" ++ t ++ "' and 'str'"
  | .textAfterTuple => "can only concatenate tuple (not \"str\") to tuple"
  | .textAfterBytes => "can't concat str to bytes"
  | .readOnlyList => "FrozenList is read-only"
  | .readOnlyMapping => "'mappingproxy' object does not support item assignment"
  | .noItemAssignment t => "'" ++ t ++ "' object does not support item assignment"
  | .notSubscriptable t => "'" ++ t ++ "' object is not subscriptable"
  | .concatenation c t => "can only concatenate " ++ c ++ " (not \"" ++ t ++ "\") to " ++ c
  | .notIterable t => "'" ++ t ++ "' object is not iterable"
  | .notCallable t => "'" ++ t ++ "' object is not callable"
  | .notReal t => "float() argument must be a string or a real number, not '" ++ t ++ "'"
  | .bytesPattern => "cannot use a bytes pattern on a string-like object"
  | .unreadableNumber q => "could not convert string to float: " ++ q
  | .unreadableInteger q => "invalid literal for int() with base 10: " ++ String.ofList (q.toList.take 200)
  | .beyondDoubles => "int too large to convert to float"
  | .noAttribute t name => "'" ++ t ++ "' object has no attribute '" ++ name ++ "'"
  | .noEntry q => q
  | .emptyPop => "pop from empty list"
  | .popOutOfRange => "pop index out of range"
  | .assignmentOutOfRange => "list assignment index out of range"
  | .indexOutOfRange container => container ++ "index out of range"
  | .notInList => "list.remove(x): x not in list"
  | .notInTuple => "tuple.index(x): x not in tuple"
  | .notContained q => q ++ " is not in list"
  | .badIndex container t => container ++ " indices must be integers or slices, not " ++ t
  | .badTextIndex t => "string indices must be integers, not '" ++ t ++ "'"
  | .hugeIndex _ => "cannot fit 'int' into an index-sized integer"
  | .hugeInteger => "Python int too large to convert to C ssize_t"
  | .badSlice => "slice indices must be integers or have an __index__ method"
  | .repeatedArgument f name => f ++ "() got multiple values for argument '" ++ name ++ "'"
  | .notSpreadable t => "Value after * must be an iterable, not " ++ t
  | .argumentCount arity given => arity.message given
  | .noMemory => ""
  | .manyDigits count =>
    let found := (count.map fun n => ": value has " ++ toString n ++ " digits").getD ""
    "Exceeds the limit (4300 digits) for integer string conversion" ++ found ++
      "; use sys.set_int_max_str_digits() to increase the limit"
  | .reusedAwaitable => "cannot reuse already awaited coroutine"
  | .noInteger t => "'" ++ t ++ "' object cannot be interpreted as an integer"
  | .tooDeep => "maximum recursion depth exceeded"
  | .raised _ m => m

end Fault
end TwoWay
