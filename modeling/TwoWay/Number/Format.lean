import TwoWay.Number.Shortest

/-!
# The written form of numbers

`Double.text` writes the shortest decimal of a double. Numbers from `1e-4` up to
but not including `1e16` are positional and keep at least one digit after the
point; all others have an exponent with a sign and at least two digits.
-/

namespace TwoWay

/-- How a shortest decimal is laid out. -/
structure DecimalFormat where
  /-- The least decimal exponent that is written positionally. -/
  leastPositional : Int
  /-- The first decimal exponent that is no longer written positionally. -/
  leastExponential : Int
  /-- The least number of digits of a written exponent. -/
  exponentDigits : Nat

/-- The layout of a double in messages and answers. -/
def Double.layout : DecimalFormat := ⟨-4, 16, 2⟩

/-- `n` zeros. -/
def zeros (n : Nat) : String := "".pushn '0' n

namespace Decimal

/-- The decimal exponent of the first digit. -/
def exponent (d : Decimal) : Int := d.scale + ((toString d.digits).length : Int) - 1

/-- Digits with a point after the first `point` of them. -/
def positional (d : Decimal) : String :=
  let digits := toString d.digits
  if 0 ≤ d.scale then digits ++ zeros d.scale.toNat ++ ".0"
  else
    let point := (digits.length : Int) + d.scale
    if 0 < point then
      String.ofList (digits.toList.take point.toNat) ++ "." ++
        String.ofList (digits.toList.drop point.toNat)
    else "0." ++ zeros (-point).toNat ++ digits

/-- One digit, the other digits after a point, and the exponent. -/
def exponential (f : DecimalFormat) (d : Decimal) : String :=
  let e := d.exponent
  let magnitude := toString e.natAbs
  let sign := if e < 0 then "-" else "+"
  let mantissa := match (toString d.digits).toList with
    | [] => ""
    | [c] => c.toString
    | c :: rest => c.toString ++ "." ++ String.ofList rest
  mantissa ++ "e" ++ sign ++ zeros (f.exponentDigits - magnitude.length) ++ magnitude

def text (f : DecimalFormat) (d : Decimal) : String :=
  if f.leastPositional ≤ d.exponent ∧ d.exponent < f.leastExponential then d.positional
  else d.exponential f

end Decimal

/-- The written form of a double: `1.5`, `1e+16`, `-0.0`, `nan`, `inf`, `-inf`. -/
def Double.text : Double → String
  | .nan _ => "nan"
  | .infinite s => if s then "-inf" else "inf"
  | .finite s m e =>
    (if s then "-" else "") ++ if m = 0 then "0.0" else (shortest m e).text layout

end TwoWay
