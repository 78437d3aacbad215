import TwoWay.Pattern.Folding
import TwoWay.Text.Blank
import TwoWay.Text.Digit
import TwoWay.Text.Word

/-!
# Patterns

A pattern describes texts: single characters, places between them, and what is built
from these by sequence, choice and repetition. Groups remember the text they last
matched.
-/

namespace TwoWay

/-- A class of characters that has a letter of its own. -/
inductive CharClass where
  | digit
  | word
  | blank
  deriving DecidableEq, Repr

/-- A member of a character set. A member may be a code point that stands for no
character. -/
inductive CharItem where
  | single (code : Nat)
  | range (first last : Nat)
  /-- A class or, negated, all other characters; restricted to ASCII or of all scripts. -/
  | class (kind : CharClass) (ascii negated : Bool)
  deriving DecidableEq, Repr

/-- What a single character has to be. -/
inductive CharTest where
  /-- Any character, or any but a line end. -/
  | any (lineEnds : Bool)
  /-- A member of a set or, negated, none. -/
  | oneOf (negated : Bool) (folding : Folding) (items : List CharItem)
  deriving DecidableEq, Repr

/-- How a repetition chooses between one round more and going on. -/
inductive Greed where
  /-- As many rounds as possible, fewer if the rest asks for it. -/
  | greedy
  /-- As few rounds as possible. -/
  | lazy
  /-- As many rounds as possible, never fewer. -/
  | possessive
  deriving DecidableEq, Repr

inductive Pattern where
  | empty
  | one (test : CharTest)
  /-- The start of the text or, with `multiline`, of a line. -/
  | start (multiline : Bool)
  /-- The end of the text, also before a last line end, or of a line. -/
  | finish (multiline : Bool)
  | textStart
  | textEnd
  /-- A place where a word starts or ends or, negated, where none does. -/
  | boundary (ascii negated : Bool)
  | seq (first second : Pattern)
  | alt (left right : Pattern)
  /-- A run of single characters. -/
  | many (least : Nat) (most : Option Nat) (greed : Greed) (test : CharTest)
  | repetition (least : Nat) (most : Option Nat) (greed : Greed) (body : Pattern)
  | group (number : Nat) (body : Pattern)
  /-- The text that a group last matched. -/
  | again (number : Nat) (folding : Folding)
  /-- Looks at what follows without moving. -/
  | ahead (negated : Bool) (body : Pattern)
  /-- Looks at the given number of characters before. -/
  | behind (negated : Bool) (width : Nat) (body : Pattern)
  /-- A part whose first match is final. -/
  | atomic (body : Pattern)
  /-- One of two patterns, by whether a group has matched. -/
  | ifGroup (number : Nat) (yes no : Pattern)
  deriving DecidableEq, Repr, Inhabited

def CharClass.holds (kind : CharClass) (ascii : Bool) (c : Char) : Bool :=
  match kind with
  | .digit => if ascii then c.isDigit else Text.isDigit c
  | .word => if ascii then c.isAlphanum || c = '_' else Text.isWord c
  | .blank => if ascii then Text.isPlainBlank c else Text.isBlank c

namespace CharItem

/-- Whether a member stands for a code point as it is. -/
def holds (item : CharItem) (code : Nat) : Bool :=
  match item with
  | .single d => code = d
  | .range first last => first ≤ code && code ≤ last
  | .class kind ascii negated => kind.holds ascii (Char.ofNat code) != negated

/-- The code points below this one fold within a table; above it a single member stands for
itself alone, and a range for its code points and their small letters. -/
def foldingBound : Nat := 0x10000

/-- Whether a member stands for a small letter in either form. -/
def foldedHolds (f : Folding) (item : CharItem) (small : Nat) : Bool :=
  match item with
  | .single d =>
    if f.small d < foldingBound then (f.forms (f.small d)).contains small else small = d
  | .range first last =>
    ((f.variants small).any fun v => first ≤ v && v ≤ last && v < foldingBound) ||
      (foldingBound ≤ last && ((CharItem.range first last).holds small ||
        (CharItem.range first last).holds (Text.capitalCode small)))
  | .class .. => item.holds small

/-- Whether a member makes its set compare small letters. -/
def isCased (f : Folding) (item : CharItem) : Bool :=
  match item with
  | .single d => f.hasCased d d || foldingBound ≤ f.small d
  | .range first last => foldingBound ≤ last || f.hasCased first last
  | .class .. => false

end CharItem

/-- A letter with two forms compares small letters, and a set does when a member of it is
such a letter. -/
def CharTest.holds (test : CharTest) (c : Char) : Bool :=
  match test with
  | .any lineEnds => lineEnds || c != '\n'
  | .oneOf negated folding [.single d] =>
    let found :=
      if folding.hasCased d d then
        (folding.forms (folding.small d)).contains (folding.small c.toNat)
      else c.toNat = d
    found != negated
  | .oneOf negated folding items =>
    let found :=
      if folding != .none && items.any (·.isCased folding) then
        items.any fun i => i.foldedHolds folding (folding.small c.toNat)
      else items.any (·.holds c.toNat)
    found != negated

/-- The test with all of its classes restricted to ASCII or none of them. -/
def CharTest.withAscii (ascii : Bool) : CharTest → CharTest
  | .any lineEnds => .any lineEnds
  | .oneOf negated folding items =>
    .oneOf negated folding (items.map fun
      | .class kind _ opposite => .class kind ascii opposite
      | item => item)

namespace Pattern

/-- Patterns one after the other. -/
def sequence : List Pattern → Pattern
  | [] => .empty
  | [p] => p
  | p :: rest => .seq p (sequence rest)

/-- The set that a match starts with, if the pattern opens with one whose members all have a
single form. -/
def firstSet? : Pattern → Option CharTest
  | .one (.oneOf negated folding items) =>
    if folding != .none && items.any (·.isCased folding) then none
    else some (.oneOf negated folding items)
  | .seq p _ | .group _ p => p.firstSet?
  | _ => none

/-- A pattern whose matches start where the set that opens it, taken with the alphabet of the
whole pattern, has a character, even if the set has an alphabet of its own. -/
def opened (ascii : Bool) (p : Pattern) : Pattern :=
  match p.firstSet? with
  | some test =>
    if test.withAscii ascii = test then p
    else .seq (.ahead false (.one (test.withAscii ascii))) p
  | none => p

/-- Widths are counted up to this number. -/
def widthBound : Nat := 0x10000000000000000

/-- The least and the greatest number of characters of a match, given those of the groups. -/
def width (groups : List (Nat × Nat × Nat)) : Pattern → Nat × Nat
  | .one _ => (1, 1)
  | .many least most _ _ => (min widthBound least, min widthBound (most.getD widthBound))
  | .seq p q =>
    let (a, b) := p.width groups
    let (c, d) := q.width groups
    (min widthBound (a + c), min widthBound (b + d))
  | .alt p q | .ifGroup _ p q =>
    let (a, b) := p.width groups
    let (c, d) := q.width groups
    (min a c, max b d)
  | .repetition least most _ p =>
    let (a, b) := p.width groups
    (min widthBound (least * a), min widthBound (b * most.getD widthBound))
  | .group _ p | .atomic p => p.width groups
  | .again n _ => (groups.lookup n).getD (0, 0)
  | _ => (0, 0)

end Pattern
end TwoWay
