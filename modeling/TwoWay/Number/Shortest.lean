import TwoWay.Number.Double

/-!
# The shortest decimal of a double

`Double.shortest` gives the digits with which a double is written: the fewest
decimal digits that read back as the same double and, of those, the ones
nearest to its value.

A decimal reads back as the double when it lies in the interval of numbers that
round to it; the ends belong to the interval when the significand is even. On a
grid of `n` digits only the two neighbours of the value need to be tried, since
a grid point in the interval implies that one of the two lies in it.
-/

namespace TwoWay

/-- A positive decimal `digits * 10 ^ scale`. -/
structure Decimal where
  digits : Nat
  scale : Int
  deriving DecidableEq, Repr

/-- An interval of fractions over one denominator. -/
structure Interval where
  low : Nat
  high : Nat
  den : Nat
  closed : Bool

namespace Interval

/-- `c * 10 ^ scale` lies in the interval. -/
def holds (i : Interval) (c : Nat) (scale : Int) : Bool :=
  let lhs := c * i.den * powerOfTen scale.toNat
  let factor := powerOfTen (-scale).toNat
  if i.closed then decide (i.low * factor ≤ lhs) && decide (lhs ≤ i.high * factor)
  else decide (i.low * factor < lhs) && decide (lhs < i.high * factor)

end Interval

namespace Double

/-- The least `p` with `num / den < 10 ^ p`, searched upward from `-400`. -/
def decimalExponent (num den : Nat) : Nat → Int → Int
  | 0, p => p
  | fuel + 1, p =>
    if num * powerOfTen (-p).toNat < den * powerOfTen p.toNat then p
    else decimalExponent num den fuel (p + 1)

/-- Of the two grid neighbours of `num / den` at `10 ^ scale`, the one to write:
the nearer of those that the interval holds, the even one on a tie. -/
def gridPoint? (i : Interval) (num den : Nat) (scale : Int) : Option Nat :=
  let n := num * powerOfTen (-scale).toNat
  let d := den * powerOfTen scale.toNat
  let c := n / d
  let r := n % d
  match i.holds c scale, i.holds (c + 1) scale with
  | false, false => none
  | true, false => some c
  | false, true => some (c + 1)
  | true, true =>
    if 2 * r < d then some c
    else if d < 2 * r then some (c + 1)
    else if c % 2 = 0 then some c else some (c + 1)

/-- Tries grids of growing fineness; seventeen digits always suffice. A grid
point that carries into one more digit is the power of ten itself. -/
def shortestFrom (i : Interval) (num den : Nat) (top : Int) : Nat → Nat → Decimal
  | 0, n => ⟨num * powerOfTen (n - top).toNat / (den * powerOfTen (top - n).toNat), top - n⟩
  | fuel + 1, n =>
    match gridPoint? i num den (top - n) with
    | some c => if c = powerOfTen n then ⟨1, top⟩ else ⟨c, top - n⟩
    | none => shortestFrom i num den top fuel (n + 1)

/-- The interval of numbers that round to `m * 2 ^ e` units. Below a power of
two the neighbours stand twice as close. -/
def roundingInterval (m e : Nat) : Interval :=
  let below := if m = powerOfTwo 52 ∧ 0 < e then 1 else 2
  { low := (4 * m - below) * powerOfTwo e
    high := (4 * m + 2) * powerOfTwo e
    den := 4 * unit
    closed := m % 2 = 0 }

/-- The shortest decimal of the magnitude `m * 2 ^ e` units, for `m ≠ 0`. -/
def shortest (m e : Nat) : Decimal :=
  let num := 4 * m * powerOfTwo e
  let den := 4 * unit
  let start : Int := (Nat.log2 num : Int) * 3 / 10 - (Nat.log2 den : Int) * 302 / 1000 - 3
  let top := decimalExponent num den 400 start
  shortestFrom (roundingInterval m e) num den top 17 1

end Double
end TwoWay
