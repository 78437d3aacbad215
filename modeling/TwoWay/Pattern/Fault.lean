import TwoWay.Fault
import TwoWay.Pattern.Basic
import TwoWay.Pattern.Written

/-!
# Texts that are no patterns

The reasons for which a text is refused as a pattern, and the messages about them.
-/

namespace TwoWay

/-- Why a text is no pattern. -/
inductive PatternFault where
  | danglingEscape
  | badEscape (escape : String)
  | incompleteEscape (escape : String)
  | octalOutOfRange (escape : String)
  | openReference
  | lookbehindReference
  | invalidReference (number : Nat)
  | unterminatedSet
  | badRange (first last : String)
  | leastAboveMost
  | nothingToRepeat
  | multipleRepeat
  | unexpectedEnd
  | missingName (what : String)
  | unterminatedName (terminator : Char)
  | missingBrace
  | unknownCharacter (quoted : String)
  | badName (quoted : String)
  | unknownName (quoted : String)
  | repeatedName (quoted : String) (number earlier : Nat)
  | unknownExtension (text : String)
  | unterminatedComment
  | unterminatedGroup
  | unbalanced
  | manyBranches
  | badGroupNumber
  | lateFlags
  | unknownFlag
  | missingFlag
  | missingColon
  | missingFlagEnd
  | localeFlag
  | incompatibleFlags
  | typeFlagOff
  | flagOnAndOff
  | wideLookbehind
  | variableLookbehind
  | manyDigits (count : Nat)
  | hugeRepeat
  | globalFlagOn
  | globalFlagOff
  | textFlag
  | contraryFlags (other : String)
  /-- A repetition in a pattern that allows none. -/
  | barredRepeat (greed : Greed)
  deriving DecidableEq, Repr

/-- A fault and, unless it concerns the pattern as a whole, its position. -/
structure PatternError where
  fault : PatternFault
  position : Option Nat
  deriving DecidableEq, Repr

/-- What a repetition is called. -/
def Greed.operator : Greed → String
  | .greedy => "MAX_REPEAT"
  | .lazy => "MIN_REPEAT"
  | .possessive => "POSSESSIVE_REPEAT"

def PatternFault.text : PatternFault → String
  | .danglingEscape => "bad escape (end of pattern)"
  | .badEscape e => "bad escape " ++ e
  | .incompleteEscape e => "incomplete escape " ++ e
  | .octalOutOfRange e => "octal escape value " ++ e ++ " outside of range 0-0o377"
  | .openReference => "cannot refer to an open group"
  | .lookbehindReference => "cannot refer to group defined in the same lookbehind subpattern"
  | .invalidReference n => "invalid group reference " ++ toString n
  | .unterminatedSet => "unterminated character set"
  | .badRange a b => "bad character range " ++ a ++ "-" ++ b
  | .leastAboveMost => "min repeat greater than max repeat"
  | .nothingToRepeat => "nothing to repeat"
  | .multipleRepeat => "multiple repeat"
  | .unexpectedEnd => "unexpected end of pattern"
  | .missingName what => "missing " ++ what ++ " name"
  | .missingBrace => "missing \x7b"
  | .unknownCharacter q => "undefined character name " ++ q
  | .unterminatedName c => "missing " ++ c.toString ++ ", unterminated name"
  | .badName q => "bad character in group name " ++ q
  | .unknownName q => "unknown group name " ++ q
  | .repeatedName q n m =>
    "redefinition of group name " ++ q ++ " as group " ++ toString n ++ "; was group " ++ toString m
  | .unknownExtension t => "unknown extension ?" ++ t
  | .unterminatedComment => "missing ), unterminated comment"
  | .unterminatedGroup => "missing ), unterminated subpattern"
  | .unbalanced => "unbalanced parenthesis"
  | .manyBranches => "conditional backref with more than two branches"
  | .badGroupNumber => "bad group number"
  | .lateFlags => "global flags not at the start of the expression"
  | .unknownFlag => "unknown flag"
  | .missingFlag => "missing flag"
  | .missingColon => "missing :"
  | .missingFlagEnd => "missing -, : or )"
  | .localeFlag => "bad inline flags: cannot use 'L' flag with a str pattern"
  | .incompatibleFlags => "bad inline flags: flags 'a', 'u' and 'L' are incompatible"
  | .typeFlagOff => "bad inline flags: cannot turn off flags 'a', 'u' and 'L'"
  | .flagOnAndOff => "bad inline flags: flag turned on and off"
  | .wideLookbehind => "looks too much behind"
  | .variableLookbehind => "look-behind requires fixed-width pattern"
  | .manyDigits n => (Fault.manyDigits (some n)).message
  | .hugeRepeat => "the repetition number is too large"
  | .globalFlagOn => "bad inline flags: cannot turn on global flag"
  | .globalFlagOff => "bad inline flags: cannot turn off global flag"
  | .textFlag => "bad inline flags: cannot use 'u' flag with a bytes pattern"
  | .contraryFlags other => "ASCII and " ++ other ++ " flags are incompatible"
  | .barredRepeat greed => "internal: unsupported template operator " ++ greed.operator

/-- The message about a pattern; in a pattern of several lines it names line and column,
too. -/
def PatternError.message (e : PatternError) (pattern : WrittenPattern) : String :=
  let text := pattern.wording e.fault.text
  match e.position with
  | none => text
  | some p =>
    let earlier := pattern.chars.take p
    let place := text ++ " at position " ++ toString p
    if pattern.chars.contains '\n' then
      let line := earlier.count '\n' + 1
      let column := (earlier.reverse.takeWhile (· != '\n')).length + 1
      place ++ " (line " ++ toString line ++ ", column " ++ toString column ++ ")"
    else place

end TwoWay
