import TwoWay.Text.Quoted

/-!
# Written patterns

A pattern is written in text or in bytes. What is written in bytes is read like text, with a
character for every byte, but belongs to bytes alone.
-/

namespace TwoWay

inductive WrittenPattern where
  | text (s : String)
  | bytes (bs : List UInt8)
  deriving DecidableEq, Repr

namespace WrittenPattern

def isText : WrittenPattern → Bool
  | .text _ => true
  | .bytes _ => false

def chars : WrittenPattern → List Char
  | .text s => s.toList
  | .bytes bs => bs.map fun b => Char.ofNat b.toNat

/-- A message about a pattern. About one in bytes it keeps to ASCII. -/
def wording (p : WrittenPattern) (message : String) : String :=
  match p with
  | .text _ => message
  | .bytes _ => String.join (message.toList.map fun c =>
      if c.toNat < 0x80 then c.toString else "\\x" ++ Text.hexadecimal 2 c.toNat)

end WrittenPattern
end TwoWay
