import TwoWay.Parse.Basic
import TwoWay.Pattern.Matching
import TwoWay.Pattern.Reader

/-!
# Leaves

The nodes without children. Nothing is coerced: a text is no number and an integer no
truth value. Bounds and patterns are checked once the type is right, and all that are
missed are reported.
-/

namespace TwoWay

/-- The issue of a text in which a pattern does not occur. A pattern written in bytes is none
for texts. -/
def patternIssues (path : Path Live) (pattern : Option WrittenPattern) (text : String) :
    Except Fault (List (Issue Live)) := do
  match pattern with
  | none => return []
  | some (.bytes _) => throw .bytesPattern
  | some (.text s) =>
    match Pattern.ofWritten (.text s) with
    | .ok p => if p.occursIn text then return []
    | .error _ => pure ()
    return [⟨.invalidString, "String does not match pattern " ++ Text.quoted s, path, []⟩]

def parseString (lengths : Lengths Live) (pattern : Option WrittenPattern) (path : Path Live)
    (v : Datum) : Except Fault Parsed :=
  match v with
  | .str s => do
    let issues ← lengthIssues path "String" "character" lengths s.length
    return ⟨v, issues ++ (← patternIssues path pattern s)⟩
  | _ => return wrongLeaf path "string" "Input should be a valid string" v

/-- Integers and finite doubles. -/
def isReadableNumber : Datum → Bool
  | .int _ => true
  | .float d => d.isFinite
  | _ => false

/-- The issue of a number beyond one bound, if there is one. -/
def numberBound (path : Path Live) (code : IssueCode) (relation detail : String)
    (holds : Datum → Datum → Except Fault Bool) (v bound : Datum) :
    Except Fault (List (Issue Live)) := do
  if bound.isNone then return []
  if ← holds v bound then return []
  return [boundIssue path code ("Number must be " ++ relation ++ " ") detail bound]

def parseNumber (bounds : Bounds Live) (integer : Bool) (path : Path Live) (v : Datum) :
    Except Fault Parsed := do
  if !isReadableNumber v then
    return wrongLeaf path "number" "Input should be a valid integer" v
  let whole := match v with
    | .float d => !integer || d.isInteger
    | _ => true
  let fraction := if whole then [] else
    [⟨.notInteger, "Expected integer, received float", path, []⟩]
  let above ← numberBound path .tooSmall "greater than" "minimum" Value.isGreater v bounds.above
  let atLeast ← numberBound path .tooSmall "greater than or equal to" "minimum" Value.isAtLeast v
    bounds.atLeast
  let below ← numberBound path .tooBig "less than" "maximum" Value.isLess v bounds.below
  let atMost ← numberBound path .tooBig "less than or equal to" "maximum" Value.isAtMost v
    bounds.atMost
  return ⟨v, fraction ++ above ++ atLeast ++ below ++ atMost⟩

def parseBoolean (path : Path Live) (v : Datum) : Parsed :=
  match v with
  | .bool _ => ⟨v, []⟩
  | _ => wrongLeaf path "boolean" "Input should be a valid boolean" v

def parseNone (path : Path Live) (v : Datum) : Parsed :=
  if v.isNone then ⟨v, []⟩ else wrongLeaf path "none" "Input should be None" v

def parseNever (path : Path Live) (v : Datum) : Parsed :=
  wrongType path "never" "Expected never" v

/-- Exactly one value, of the same type. -/
def parseLiteral (value : Datum) (path : Path Live) (v : Datum) : Parsed :=
  if v.isExactly value then ⟨v, []⟩
  else .refused ⟨.invalidLiteral, "Invalid literal value, expected " ++ value.quoted, path,
    [("expected", .value value),
      ("received", .value (if v.isMissing then .str "missing" else v))]⟩

/-- Values as alternatives in a message. -/
def alternativesText (values : List Datum) : String := " | ".intercalate (values.map (·.quoted))

/-- One of a number of values, of the same type. A missing value is none of them. -/
def parseEnum (values : List Datum) (path : Path Live) (v : Datum) : Parsed :=
  if !v.isMissing && values.any v.isExactly then ⟨v, []⟩
  else .refused ⟨.invalidEnumValue,
    "Invalid enum value. Expected " ++ alternativesText values, path,
    [("options", .value (.list .free values))]⟩

end TwoWay
