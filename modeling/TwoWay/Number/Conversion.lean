import TwoWay.Fault
import TwoWay.Number.Format
import TwoWay.Number.Reading
import TwoWay.Value.Order
import TwoWay.Value.Quoted

/-!
# Numbers and texts

Reading a number off a value and writing it back. Truth values count as zero and one,
texts and bytes are read, and an integer beyond the doubles is a fault. A whole number is
written without a fraction.
-/

namespace TwoWay

/-- Bytes as the text of their values. -/
def textOfBytes (bytes : List UInt8) : String :=
  String.ofList (bytes.map fun b => Char.ofNat b.toNat)

/-- An integer as a double. -/
def doubleOfInt (i : Int) : Except Fault Double :=
  let d := Double.ofInt i
  if d.isFinite then .ok d else .error .beyondDoubles

/-- Outside ASCII, bytes denote no number. -/
def doubleOfBytes? (bytes : List UInt8) : Option Double :=
  if bytes.all (· < 0x80) then Double.ofText? (textOfBytes bytes) else none

/-- Integers are read and written with no more decimal digits than this. -/
def digitLimit : Nat := 4300

/-- The number of digits at the start of a text. Single underscores may stand between them;
others make it unreadable. -/
def leadingDigits? (previous : Char) : List Char → Option Nat
  | [] => if previous = '_' then none else some 0
  | c :: rest =>
    if c.isDigit then (leadingDigits? c rest).map (· + 1)
    else if c = '_' then if previous.isDigit then leadingDigits? c rest else none
    else if previous = '_' then none else some 0

/-- The integer that a text denotes, unless it has too many digits. `quoted` is what the text
is quoted as. -/
def readInteger (s quoted : String) : Except Fault Int :=
  let digits := (leadingDigits? ' ' (splitSign (trimBlanks (asciiDigits s.toList))).2).getD 0
  if digitLimit < digits then .error (.manyDigits (some digits))
  else match integerOfText? s with
    | some i => .ok i
    | none => .error (.unreadableInteger quoted)

/-- The digits of an integer, unless there are too many. -/
def integerText (i : Int) : Except Fault String :=
  if digitLimit < (toString i.natAbs).length then .error (.manyDigits none) else .ok (toString i)

namespace Value

variable {κ : Type} [Handle κ]

/-- The double that a value denotes. -/
def toDouble (v : Value κ) : Except Fault Double :=
  match v with
  | .bool b => .ok (Double.ofInt (if b then 1 else 0))
  | .int i => doubleOfInt i
  | .float d => .ok d
  | .str s => ((Double.ofText? s).map Except.ok).getD (.error (.unreadableNumber v.quoted))
  | .bytes bs => ((doubleOfBytes? bs).map Except.ok).getD (.error (.unreadableNumber v.quoted))
  | _ => .error (.notReal v.typeName)

/-- The integer that a value denotes, the fraction of a double cut off. -/
def toInteger (v : Value κ) : Except Fault Int :=
  match v with
  | .bool b => .ok (if b then 1 else 0)
  | .int i => .ok i
  | .float d => .ok (d.truncate?.getD 0)
  | .str s => readInteger s v.quoted
  | .bytes bs => readInteger (textOfBytes bs) v.quoted
  | _ => .error (.notReal v.typeName)

/-- The shortest text of a number; a whole number has no fraction. -/
def numberText (v : Value κ) : Except Fault String := do
  let d ← v.toDouble
  if d.isInteger then return toString (← v.toInteger) else return d.text

/-- The sum of two numbers. -/
def plus (a b : Value κ) : Except Fault (Value κ) :=
  match a, b with
  | .float d, .float e => .ok (.float (d.add e))
  | .float d, b =>
    match b.asInteger? with
    | some j => do return .float (d.add (← doubleOfInt j))
    | Option.none => .error (.unaddable a.typeName b.typeName)
  | a, .float e =>
    match a.asInteger? with
    | some i => do return .float ((← doubleOfInt i).add e)
    | Option.none => .error (.unaddable a.typeName b.typeName)
  | a, b =>
    match a.asInteger?, b.asInteger? with
    | some i, some j => .ok (.int (i + j))
    | _, _ => .error (.unaddable a.typeName b.typeName)

/-- The sum of the numbers among values, from zero on. -/
def sum (vs : List (Value κ)) : Except Fault (Value κ) :=
  (vs.filter isNumber).foldlM plus (.int 0)

/-- Whether a number is divisible by two. -/
def isEvenNumber : Value κ → Bool
  | .int i => i % 2 == 0
  | .float d => d.isEven
  | _ => false

end Value
end TwoWay
