import TwoWay.Number.Double
import TwoWay.Text.Blank
import TwoWay.Text.Digit

/-!
# Reading numbers

The text of a number: blanks around it, a sign, decimal digits of any script with
at most one point and an optional exponent, or `inf`, `infinity` or `nan` in any
case. A single underscore may stand between two digits. Text outside ASCII is first
brought to ASCII digits and spaces.
-/

namespace TwoWay

open Text

/-- ASCII text stays; in other text every digit becomes an ASCII one and every
blank a space. -/
def asciiDigits (cs : List Char) : List Char :=
  if cs.all (·.val < 0x80) then cs
  else cs.map fun c =>
    if c.val < 0x80 then c
    else match digitValue? c with
      | some d => Char.ofNat (0x30 + d)
      | none => if isBlank c then ' ' else c

def trimBlanks (cs : List Char) : List Char :=
  ((cs.dropWhile isPlainBlank).reverse.dropWhile isPlainBlank).reverse

/-- The text without its underscores, if each stands between two digits. -/
def dropUnderscores? (previous : Char) : List Char → Option (List Char)
  | [] => some []
  | '_' :: rest =>
    if previous.isDigit && (rest.head?.map Char.isDigit).getD false then
      dropUnderscores? '_' rest
    else none
  | c :: rest => (dropUnderscores? c rest).map (c :: ·)

/-- A sign, if there is one, and what follows: negative or not. -/
def splitSign : List Char → Bool × List Char
  | '-' :: rest => (true, rest)
  | '+' :: rest => (false, rest)
  | cs => (false, cs)

def digitsValue (cs : List Char) : Nat := cs.foldl (fun n c => 10 * n + (c.toNat - 0x30)) 0

/-- The integer a text denotes: blanks around it, a sign and decimal digits of any script,
with single underscores between digits. -/
def integerOfText? (s : String) : Option Int := do
  let cs ← dropUnderscores? ' ' (trimBlanks (asciiDigits s.toList))
  let (negative, digits) := splitSign cs
  if digits.isEmpty || !digits.all Char.isDigit then none
  else some (if negative then -(digitsValue digits : Int) else digitsValue digits)

/-- The exponent part: nothing, or an `e`, a sign and at least one digit. -/
def exponent? : List Char → Option Int
  | [] => some 0
  | c :: rest =>
    if c = 'e' || c = 'E' then
      let (negative, digits) := splitSign rest
      if digits.isEmpty || !digits.all Char.isDigit then none
      else some (if negative then -(digitsValue digits : Int) else digitsValue digits)
    else none

/-- Digits with at most one point and an optional exponent. -/
def decimal? (negative : Bool) (cs : List Char) : Option Double :=
  let whole := cs.takeWhile Char.isDigit
  let (fraction, rest) := match cs.dropWhile Char.isDigit with
    | '.' :: rest => (rest.takeWhile Char.isDigit, rest.dropWhile Char.isDigit)
    | rest => ([], rest)
  if whole.isEmpty && fraction.isEmpty then none
  else (exponent? rest).map fun e =>
    .ofDecimal negative (digitsValue (whole ++ fraction)) (e - fraction.length)

/-- The double a text denotes. -/
def Double.ofText? (s : String) : Option Double := do
  let cs ← dropUnderscores? ' ' (trimBlanks (asciiDigits s.toList))
  let (negative, rest) := splitSign cs
  match String.ofList (rest.map Char.toLower) with
  | "inf" | "infinity" => some (.infinite negative)
  | "nan" => some (.nan .new)
  | _ => decimal? negative rest

end TwoWay
