import TwoWay.Text.Printable

/-!
# Quoted text

Texts and bytes as messages quote them: in single quotes, or in double quotes when
the text holds a single quote and no double one. A backslash, the chosen quote and
every character that is not printable are escaped, by the shortest of `\xhh`,
`\uhhhh` and `\Uhhhhhhhh`.
-/

namespace TwoWay.Text

/-- A number in lower-case hexadecimal digits, padded with zeros to a width. -/
def hexadecimal (width n : Nat) : String :=
  let digits := Nat.toDigits 16 n
  String.ofList (List.replicate (width - digits.length) '0' ++ digits)

/-- The quote a text is put between. -/
def quoteFor (hasSingle hasDouble : Bool) : Char := if hasSingle && !hasDouble then '"' else '\''

/-- The escape of a character that has one in texts and bytes alike. -/
def escape? (quote c : Char) : Option String :=
  if c = quote || c = '\\' then some (String.ofList ['\\', c])
  else if c = '\n' then some "\\n"
  else if c = '\r' then some "\\r"
  else if c = '\t' then some "\\t"
  else none

def quotedChar (quote c : Char) : String :=
  match escape? quote c with
  | some e => e
  | none =>
    if isPrintable c then c.toString
    else if c.toNat ≤ 0xff then "\\x" ++ hexadecimal 2 c.toNat
    else if c.toNat ≤ 0xffff then "\\u" ++ hexadecimal 4 c.toNat
    else "\\U" ++ hexadecimal 8 c.toNat

/-- A text between quotes. -/
def quoted (s : String) : String :=
  let quote := quoteFor (s.contains '\'') (s.contains '"')
  quote.toString ++ String.join (s.toList.map (quotedChar quote)) ++ quote.toString

def quotedByte (quote : Char) (b : UInt8) : String :=
  let c := Char.ofNat b.toNat
  match escape? quote c with
  | some e => e
  | none => if 0x20 ≤ b && b < 0x7f then c.toString else "\\x" ++ hexadecimal 2 b.toNat

/-- Bytes between quotes, marked by a `b`. -/
def quotedBytes (bytes : List UInt8) : String :=
  let quote := quoteFor (bytes.contains 0x27) (bytes.contains 0x22)
  "b" ++ quote.toString ++ String.join (bytes.map (quotedByte quote)) ++ quote.toString

end TwoWay.Text
