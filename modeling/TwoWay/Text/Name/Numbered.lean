import TwoWay.Text.Name.Basic
import TwoWay.Text.Quoted

/-!
# Names of characters that follow a rule

Ideographs are named by their code point, selectors are counted, and the name of a Hangul
syllable is spelled from its sounds.
-/

namespace TwoWay.Text

/-- A number written in digits, not longer than it has to be. -/
def counted? (s : String) : Option Nat :=
  match s.toList with
  | [] | '0' :: _ => none
  | cs => if cs.all Char.isDigit then s.toNat? else none

/-- Selectors by what their names start with: from which number on, how many, and the first
code point. -/
def selectors : List (String × Nat × Nat × Nat) := [
  ("VARIATION SELECTOR-", 1, 16, 0xfe00), ("VARIATION SELECTOR-", 17, 240, 0xe0100),
  ("VS", 1, 16, 0xfe00), ("VS", 17, 240, 0xe0100)]

def selectorCode? (name : String) : Option Nat :=
  selectors.findSome? fun (stem, least, count, first) => do
    let n ← counted? (← NameRun.behind? stem name)
    if least ≤ n && n < least + count then some (first + (n - least)) else none

/-- The characters that are named by their code point in capitals: what the names start with, and
the first and last code point. -/
def codedNames : List (String × Nat × Nat) := [
  ("CJK COMPATIBILITY IDEOGRAPH-", 0xf900, 0xfa6d),
  ("CJK COMPATIBILITY IDEOGRAPH-", 0xfa70, 0xfad9),
  ("CJK COMPATIBILITY IDEOGRAPH-", 0x2f800, 0x2fa1d),
  ("KHITAN SMALL SCRIPT CHARACTER-", 0x18b00, 0x18cd5),
  ("NUSHU CHARACTER-", 0x1b170, 0x1b2fb)]

/-- A number in hexadecimal digits whose letters are capitals. -/
def hexadecimal? (s : String) : Option Nat :=
  let isDigit (c : Char) : Bool := c.isDigit || ('A' ≤ c && c ≤ 'F')
  if s.toList.all isDigit then
    some (s.toList.foldl (fun n c =>
      16 * n + (if c.isDigit then c.toNat - 0x30 else c.toNat - 0x41 + 10)) 0)
  else none

def namedCode? (name : String) : Option Nat :=
  codedNames.findSome? fun (stem, first, last) => do
    let digits ← NameRun.behind? stem name
    let code ← hexadecimal? digits
    if first ≤ code && code ≤ last && !digits.startsWith "0" then some code else none

/-- The ranges of unified ideographs. -/
def ideographRanges : List (Nat × Nat) := [
  (0x3400, 0x4dbf), (0x4e00, 0x9fff), (0x20000, 0x2a6df), (0x2a700, 0x2b738), (0x2b740, 0x2b81d),
  (0x2b820, 0x2cea1), (0x2ceb0, 0x2ebe0), (0x30000, 0x3134a)]

/-- A unified ideograph by its name, which has to be in capitals. -/
def ideographCode? (name : String) : Option Nat := do
  let digits ← NameRun.behind? "CJK UNIFIED IDEOGRAPH-" name
  let code ← hexadecimal? digits
  if (digits.length = 4 || digits.length = 5) &&
      ideographRanges.any fun r => r.1 ≤ code && code ≤ r.2 then
    some code
  else none

/-! ### Hangul -/

/-- The sounds that start a syllable, in order. -/
def initials : List String :=
  ["G", "GG", "N", "D", "DD", "R", "M", "B", "BB", "S", "SS", "", "J", "JJ", "C", "K", "T", "P", "H"]

/-- The vowels in the middle. -/
def medials : List String :=
  ["A", "AE", "YA", "YAE", "EO", "E", "YEO", "YE", "O", "WA", "WAE", "OE", "YO", "U", "WEO", "WE",
    "WI", "YU", "EU", "YI", "I"]

/-- The sounds that end a syllable. -/
def finals : List String :=
  ["", "G", "GG", "GS", "N", "NJ", "NH", "D", "L", "LG", "LM", "LB", "LS", "LT", "LP", "LH", "M",
    "B", "BS", "S", "SS", "NG", "J", "C", "K", "T", "P", "H"]

/-- The longest of some sounds that a text starts with: its place among them and what follows. -/
def longest? (sounds : List String) (s : String) : Option (Nat × String) :=
  sounds.zipIdx.foldl (fun best p =>
    match NameRun.behind? p.1 s, best with
    | some rest, some (i, other) =>
      if rest.length < other.length then some (p.2, rest) else some (i, other)
    | some rest, none => some (p.2, rest)
    | none, best => best) none

/-- A syllable by its name, which has to be in capitals. -/
def syllableCode? (name : String) : Option Nat := do
  let spelled ← NameRun.behind? "HANGUL SYLLABLE " name
  let (initial, rest) ← longest? initials spelled
  let (medial, rest) ← longest? medials rest
  let (final, rest) ← longest? finals rest
  if rest.isEmpty then
    some (0xac00 + (initial * medials.length + medial) * finals.length + final)
  else none

end TwoWay.Text
