import TwoWay.Identity

/-!
# Double precision numbers

A finite double is a sign, a significand and an exponent; its magnitude is
`significand * 2 ^ exponent` counted in the least positive double, 2⁻¹⁰⁷⁴.
Counting in that unit turns every comparison, also the one between a double and
an integer of any size, into a comparison of two integers.

* `Double.units`: the value as an integer count of units;
* `Double.ofRatio`: the double nearest to a fraction, ties to the even significand;
* `Double.add`, `Double.double`: exact arithmetic, rounded once.
-/

namespace TwoWay

/-- A double. A `nan` carries an identity, which no text and no comparison of numbers shows. -/
inductive Double where
  | nan (id : Identity)
  | infinite (negative : Bool)
  | finite (negative : Bool) (significand exponent : Nat)
  deriving DecidableEq, Repr, Inhabited

/-- The number `2 ^ n`. -/
def powerOfTwo (n : Nat) : Nat := Nat.pow 2 n

/-- The number `10 ^ n`. -/
def powerOfTen (n : Nat) : Nat := Nat.pow 10 n

namespace Double

/-- One, counted in units of the least positive double. -/
def unit : Nat := powerOfTwo 1074

/-- Significands stay below this bound. -/
def significandBound : Nat := powerOfTwo 53

/-- The greatest exponent of a finite double. -/
def maxExponent : Nat := 2045

def zero : Double := .finite false 0 0

/-- The magnitude of a finite double in units. -/
def magnitude (significand exponent : Nat) : Nat := significand * powerOfTwo exponent

/-- Whether both are the same `nan`. -/
def sameNan : Double → Double → Bool
  | .nan i, .nan j => i.same j
  | _, _ => false

/-- The value of a finite double in units; `none` for infinities and `nan`. -/
def units : Double → Option Int
  | .finite false m e => some (magnitude m e)
  | .finite true m e => some (-(magnitude m e : Int))
  | _ => none

def isFinite : Double → Bool
  | .finite .. => true
  | _ => false

/-- The sign bit; a zero has one, too. -/
def isNegative : Double → Bool
  | .nan _ => false
  | .infinite s => s
  | .finite s _ _ => s

/-- `num / den` rounded to an integer, ties to even. -/
def roundHalfEven (num den : Nat) : Nat :=
  let q := num / den
  let r := num % den
  if 2 * r < den then q
  else if den < 2 * r then q + 1
  else if q % 2 = 0 then q else q + 1

/-- The double nearest to `num / den` units. A magnitude that rounds to 2¹⁰²⁴
or more is infinite. -/
def ofUnits (negative : Bool) (num den : Nat) : Double :=
  let exponent := Nat.log2 (num / den) - 52
  let m := roundHalfEven num (den * powerOfTwo exponent)
  if m < significandBound then
    if exponent ≤ maxExponent then .finite negative m exponent else .infinite negative
  else if exponent + 1 ≤ maxExponent then .finite negative (m / 2) (exponent + 1)
  else .infinite negative

/-- The double nearest to the fraction `num / den`. -/
def ofRatio (negative : Bool) (num den : Nat) : Double :=
  ofUnits negative (num * unit) den

/-- The double nearest to an integer, infinite when the integer is out of range. -/
def ofInt (i : Int) : Double := ofRatio (decide (i < 0)) i.natAbs 1

/-- The double nearest to `digits * 10 ^ scale`. Scales far out of range are
decided without computing the power. -/
def ofDecimal (negative : Bool) (digits : Nat) (scale : Int) : Double :=
  if digits = 0 then .finite negative 0 0
  else
    let top := scale + (Nat.log2 digits : Int) / 3 + 1
    if 400 < scale then .infinite negative
    else if top < -400 then .finite negative 0 0
    else if 0 ≤ scale then ofRatio negative (digits * powerOfTen scale.toNat) 1
    else ofRatio negative digits (powerOfTen (-scale).toNat)

/-- Whether the value is an integer; infinities and `nan` are none. -/
def isInteger : Double → Bool
  | .finite _ m e => magnitude m e % unit == 0
  | _ => false

/-- The integer part of a finite double, rounded toward zero. -/
def truncate? : Double → Option Int
  | .finite s m e =>
    let n : Int := (magnitude m e / unit : Nat)
    some (if s then -n else n)
  | _ => none

/-- The double nearest to a signed count of units. A zero takes the given sign. -/
def ofIntUnits (zeroSign : Bool) (n : Int) : Double :=
  if n = 0 then .finite zeroSign 0 0 else ofUnits (decide (n < 0)) n.natAbs 1

/-- The sum, rounded once. A sum of two negative zeros is a negative zero. -/
def add : Double → Double → Double
  | .nan _, _ | _, .nan _ => .nan .new
  | .infinite s, .infinite t => if s = t then .infinite s else .nan .new
  | .infinite s, _ | _, .infinite s => .infinite s
  | .finite s m e, .finite t n f =>
    let signed (s : Bool) (k : Nat) : Int := if s then -(k : Int) else k
    ofIntUnits (s && t) (signed s (magnitude m e) + signed t (magnitude n f))

/-- Twice the value. -/
def double (d : Double) : Double := add d d

/-- The remainder by two is zero. -/
def isEven : Double → Bool
  | .finite _ m e => magnitude m e % (2 * unit) == 0
  | _ => false

end Double
end TwoWay
