import TwoWay.Text.Range

/-!
# Blanks

The characters that count as white space in patterns and around written numbers:
the control characters that move the cursor or separate records, and the spaces
of every script.
-/

namespace TwoWay.Text

/-- The ranges of white space. -/
def blankRanges : List (Nat × Nat) := [
  (0x9, 0xd), (0x1c, 0x20), (0x85, 0x85), (0xa0, 0xa0), (0x1680, 0x1680), (0x2000, 0x200a),
  (0x2028, 0x2029), (0x202f, 0x202f), (0x205f, 0x205f), (0x3000, 0x3000)]

def isBlank (c : Char) : Bool := inRanges blankRanges c.toNat

/-- The blanks of plain ASCII text, the record separators left out. -/
def isPlainBlank (c : Char) : Bool := c = ' ' || (0x9 ≤ c.val && c.val ≤ 0xd)

end TwoWay.Text
