import TwoWay.Number.Conversion
import TwoWay.Settings.Literal

/-!
# JSON

Texts in JSON notation as nodes. Infinities and `NaN` are numbers too. A text that breaks the
rules is refused with the place where it does.
-/

namespace TwoWay.Settings

/-- What a text in JSON notation lacks or has too much of. -/
inductive JsonFlaw where
  | value
  | name
  | colon
  | comma
  | closingQuote
  | control
  | escape
  | code
  | extra
  deriving DecidableEq, Repr

def JsonFlaw.message : JsonFlaw → String
  | .value => "Expecting value"
  | .name => "Expecting property name enclosed in double quotes"
  | .colon => "Expecting ':' delimiter"
  | .comma => "Expecting ',' delimiter"
  | .closingQuote => "Unterminated string starting at"
  | .control => "Invalid control character at"
  | .escape => "Invalid \\escape"
  | .code => "Invalid \\uXXXX escape"
  | .extra => "Extra data"

/-- A flaw and what is left of the text where it is. -/
inductive JsonFault where
  | flaw (what : JsonFlaw) (left : Nat)
  | fault (f : Fault)
  deriving DecidableEq, Repr

namespace Json

/-- A reader takes characters off the start of a text. -/
abbrev Reader (α : Type) := List Char → Except JsonFault (α × List Char)

def fail {α : Type} (what : JsonFlaw) (cs : List Char) : Except JsonFault α :=
  .error (.flaw what cs.length)

def skip (cs : List Char) : List Char := cs.dropWhile [' ', '\t', '\n', '\r'].contains

/-- The character that one behind a backslash stands for. -/
def escaped? : Char → Option Char
  | '"' => some '"'
  | '\\' => some '\\'
  | '/' => some '/'
  | 'b' => some '\x08'
  | 'f' => some '\x0c'
  | 'n' => some '\n'
  | 'r' => some '\r'
  | 't' => some '\t'
  | _ => none

/-- The second half of a character that is written in two, and what follows. -/
def secondHalf? (first : Nat) (cs : List Char) : Option (Nat × List Char) := do
  match cs with
  | '\\' :: 'u' :: rest =>
    let (second, rest) ← Literal.readHexadecimal? 4 rest
    if 0xd800 ≤ first && first ≤ 0xdbff && 0xdc00 ≤ second && second ≤ 0xdfff then
      return (0x10000 + (first - 0xd800) * 0x400 + (second - 0xdc00), rest)
    else none
  | _ => none

/-- A text behind its quote, within so many steps. `start` is what is left from the quote on. -/
def readText (start : List Char) : Nat → Reader (List Char)
  | 0, cs => fail .closingQuote cs
  | fuel + 1, cs =>
    match cs with
    | [] => fail .closingQuote start
    | '"' :: rest => .ok ([], rest)
    | '\\' :: 'u' :: rest =>
      match if rest.length ≤ 4 then none else Literal.readHexadecimal? 4 rest with
      | none => fail .code ('u' :: rest)
      | some (code, after) => do
        let (code, after) := (secondHalf? code after).getD (code, after)
        let (text, after) ← readText start fuel after
        return (Char.ofNat code :: text, after)
    | ['\\'] => fail .closingQuote start
    | '\\' :: c :: rest =>
      match escaped? c with
      | none => fail .escape cs
      | some d => do
        let (text, after) ← readText start fuel rest
        return (d :: text, after)
    | c :: rest =>
      if c.val < 0x20 then fail .control cs
      else do
        let (text, after) ← readText start fuel rest
        return (c :: text, after)

/-- A number: an integer, or a double if it has a fraction or an exponent. -/
def readNumber (start : List Char) : Except JsonFault (Node × List Char) := do
  let (negative, body) := match start with
    | '-' :: rest => (true, rest)
    | cs => (false, cs)
  let whole := match body with
    | '0' :: _ => ['0']
    | cs => cs.takeWhile Char.isDigit
  if whole.isEmpty then fail .value start
  else
    let rest := body.drop whole.length
    let fraction := match rest with
      | '.' :: more => '.' :: more.takeWhile Char.isDigit
      | _ => []
    let fraction := if fraction.length < 2 then [] else fraction
    let rest := rest.drop fraction.length
    let exponent := match rest with
      | c :: more =>
        let sign := more.take (if more.head?.any fun c => c = '+' || c = '-' then 1 else 0)
        let digits := (more.drop sign.length).takeWhile Char.isDigit
        if (c = 'e' || c = 'E') && !digits.isEmpty then c :: sign ++ digits else []
      | [] => []
    let rest := rest.drop exponent.length
    if fraction.isEmpty && exponent.isEmpty then
      let s := String.ofList whole
      let n ← (readInteger s s).mapError JsonFault.fault
      return (.int (if negative then -n else n), rest)
    else
      let d := (decimal? negative (whole ++ fraction ++ exponent)).getD .zero
      return (.float d, rest)

/-- What follows a word, if a text starts with it. -/
def after? (word : String) (cs : List Char) : Option (List Char) :=
  if word.toList.isPrefixOf cs then some (cs.drop word.length) else none

/-- The values that are words. -/
def words : List (String × Node) := [
  ("null", .null), ("true", .bool true), ("false", .bool false), ("NaN", .float (.nan .new)),
  ("Infinity", .float (.infinite false)), ("-Infinity", .float (.infinite true))]

mutual

/-- A value, within so many steps. -/
def readValue : Nat → Reader Node
  | 0, cs => fail .value cs
  | fuel + 1, cs =>
    match cs with
    | '"' :: rest => do
      let (text, rest) ← readText cs (rest.length + 1) rest
      return (.text (String.ofList text), rest)
    | '[' :: rest =>
      match skip rest with
      | ']' :: rest => .ok (.list [], rest)
      | rest => do
        let (items, rest) ← readItems fuel rest
        return (.list items, rest)
    | '\x7b' :: rest =>
      match skip rest with
      | '\x7d' :: rest => .ok (.map [], rest)
      | rest => do
        let (entries, rest) ← readEntries fuel [] rest
        return (.map entries, rest)
    | cs =>
      match words.findSome? fun w => (after? w.1 cs).map fun rest => (w.2, rest) with
      | some r => .ok r
      | none => readNumber cs

/-- Items up to their bracket. -/
def readItems : Nat → Reader (List Node)
  | 0, cs => fail .value cs
  | fuel + 1, cs => do
    let (v, rest) ← readValue fuel cs
    match skip rest with
    | ']' :: rest => return ([v], rest)
    | ',' :: rest =>
      let (vs, rest) ← readItems fuel (skip rest)
      return (v :: vs, rest)
    | rest => fail .comma rest

/-- Entries up to their brace, beside those read before. -/
def readEntries : Nat → List (Key × Node) → Reader (List (Key × Node))
  | 0, _, cs => fail .name cs
  | fuel + 1, entries, cs =>
    match cs with
    | '"' :: rest => do
      let (name, rest) ← readText cs (rest.length + 1) rest
      match skip rest with
      | ':' :: rest =>
        let (v, rest) ← readValue fuel (skip rest)
        let entries := Node.put entries ⟨String.ofList name, true⟩ v
        match skip rest with
        | '\x7d' :: rest => return (entries, rest)
        | ',' :: rest => readEntries fuel entries (skip rest)
        | rest => fail .comma rest
      | rest => fail .colon rest
    | cs => fail .name cs

end

/-- The value that a whole text holds. -/
def ofChars (cs : List Char) : Except JsonFault Node := do
  let (v, rest) ← readValue (2 * cs.length + 2) (skip cs)
  match skip rest with
  | [] => return v
  | rest => fail .extra rest

end Json

/-- What is said of a fault in a text. Lines and columns count from one. -/
def JsonFault.message (text : String) : JsonFault → String
  | .fault f => f.message
  | .flaw what left =>
    let before := text.toList.take (text.length - left)
    let column := (before.reverse.takeWhile (· != '\n')).length + 1
    what.message ++ ": line " ++ toString (before.count '\n' + 1) ++ " column " ++
      toString column ++ " (char " ++ toString before.length ++ ")"

/-- The value that a text in JSON notation holds. -/
def Node.ofJson (s : String) : Except JsonFault Node := Json.ofChars s.toList

end TwoWay.Settings
