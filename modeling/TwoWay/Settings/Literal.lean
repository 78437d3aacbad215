import TwoWay.Settings.Node

/-!
# Literals

The value of a variable may be written as a literal: a text in one or three quotes of either
kind, a truth value, a number, a moment, a list in brackets, or a table in braces. Nothing but
blanks and a comment may follow. What is no literal is read once more with less care, as a
plain number, a moment or a list of such; all else is no literal.
-/

namespace TwoWay.Settings

namespace Literal

def isSpace (c : Char) : Bool := c = ' ' || c = '\t'

/-- Control characters stand in no text and in no comment. -/
def isControl (c : Char) : Bool := (c.val < 0x20 && c != '\t') || c.val = 0x7f

def skipSpaces (cs : List Char) : List Char := cs.dropWhile isSpace

/-- A comment up to the end of its line. -/
def skipComment? (cs : List Char) : Option (List Char) :=
  match cs with
  | '#' :: rest =>
    if (rest.takeWhile (· != '\n')).any isControl then none else some (rest.dropWhile (· != '\n'))
  | _ => some cs

/-- Blanks, line ends and comments. -/
def skipLines? : Nat → List Char → Option (List Char)
  | 0, cs => some cs
  | fuel + 1, cs =>
    match cs.dropWhile fun c => isSpace c || c = '\n' with
    | '#' :: rest => do skipLines? fuel (← skipComment? ('#' :: rest))
    | rest => some rest

/-! ### Texts -/

/-- A character by its number, if it is one. -/
def charOfCode? (code : Nat) : Option Char :=
  if code.isValidChar then some (Char.ofNat code) else none

/-- A number in hexadecimal digits of a width, and what follows. -/
def readHexadecimal? (width : Nat) (cs : List Char) : Option (Nat × List Char) :=
  let digits := cs.take width
  let value (c : Char) : Nat :=
    if c.isDigit then c.toNat - 0x30 else c.toLower.toNat - 0x61 + 10
  let isHexadecimal (c : Char) : Bool :=
    c.isDigit || ('a' ≤ c.toLower && c.toLower ≤ 'f')
  if digits.length = width && digits.all isHexadecimal then
    some (digits.foldl (fun n c => 16 * n + value c) 0, cs.drop width)
  else none

/-- The character that an escape stands for, behind its backslash. -/
def readEscape? (cs : List Char) : Option (Char × List Char) :=
  match cs with
  | 'b' :: rest => some ('\x08', rest)
  | 't' :: rest => some ('\t', rest)
  | 'n' :: rest => some ('\n', rest)
  | 'f' :: rest => some ('\x0c', rest)
  | 'r' :: rest => some ('\r', rest)
  | '"' :: rest => some ('"', rest)
  | '\\' :: rest => some ('\\', rest)
  | 'u' :: rest => coded 4 rest
  | 'U' :: rest => coded 8 rest
  | _ => none
where
  coded (width : Nat) (cs : List Char) : Option (Char × List Char) := do
    let (code, rest) ← readHexadecimal? width cs
    return (← charOfCode? code, rest)

/-- What follows a backslash at the end of a line: the line end and all blanks after it. -/
def continuation? (cs : List Char) : Option (List Char) :=
  match cs with
  | c :: _ =>
    if isSpace c || c = '\n' then
      match skipSpaces cs with
      | [] => some []
      | '\n' :: rest => some (rest.dropWhile fun c => isSpace c || c = '\n')
      | _ => none
    else none
  | [] => none

/-- A text in double quotes up to the quotes that end it, within so many steps. A long text is
in three quotes and may have several lines. -/
def readEscaped? (long : Bool) : Nat → List Char → Option (List Char × List Char)
  | 0, _ => none
  | fuel + 1, cs =>
    match cs with
    | [] => none
    | '"' :: rest =>
      if !long then some ([], rest)
      else match rest with
        | '"' :: '"' :: rest => some ([], rest)
        | _ => (readEscaped? long fuel rest).map fun r => ('"' :: r.1, r.2)
    | '\\' :: rest =>
      match if long then continuation? rest else none with
      | some rest => readEscaped? long fuel rest
      | none => do
        let (c, rest) ← readEscape? rest
        (readEscaped? long fuel rest).map fun r => (c :: r.1, r.2)
    | c :: rest =>
      if isControl c && !(long && c = '\n') then none
      else (readEscaped? long fuel rest).map fun r => (c :: r.1, r.2)

/-- A text in single quotes, in which nothing is escaped. -/
def readVerbatim? (long : Bool) : List Char → Option (List Char × List Char)
  | [] => none
  | c :: rest =>
    let go := (readVerbatim? long rest).map fun r => (c :: r.1, r.2)
    if c = '\'' then
      if !long then some ([], rest)
      else match rest with
        | '\'' :: '\'' :: rest => some ([], rest)
        | _ => go
    else if isControl c && !(long && c = '\n') then none
    else go

/-- A long text may end with up to two quotes of its own. -/
def withQuotes (quote : Char) (r : List Char × List Char) : List Char × List Char :=
  let own := (r.2.take 2).takeWhile (· = quote)
  (r.1 ++ own, r.2.drop own.length)

/-- A text in quotes, and what follows. -/
def readText? (cs : List Char) : Option (List Char × List Char) :=
  match cs with
  | '"' :: '"' :: '"' :: rest =>
    (readEscaped? true (cs.length + 1) (dropLineEnd rest)).map (withQuotes '"')
  | '\'' :: '\'' :: '\'' :: rest =>
    (readVerbatim? true (dropLineEnd rest)).map (withQuotes '\'')
  | '"' :: rest => readEscaped? false (cs.length + 1) rest
  | '\'' :: rest => readVerbatim? false rest
  | _ => none
where
  dropLineEnd : List Char → List Char
    | '\n' :: rest => rest
    | cs => cs

/-! ### Numbers -/

/-- Digits with single underscores between them. -/
def readDigitsWith (isDigit : Char → Bool) : List Char → List Char × List Char
  | [] => ([], [])
  | '_' :: c :: rest =>
    if isDigit c then
      let r := readDigitsWith isDigit (c :: rest)
      (r.1, r.2)
    else ([], '_' :: c :: rest)
  | c :: rest =>
    if isDigit c then
      let r := readDigitsWith isDigit rest
      (c :: r.1, r.2)
    else ([], c :: rest)

/-- At least one digit, with single underscores between digits. -/
def digits? (isDigit : Char → Bool) (cs : List Char) : Option (List Char × List Char) :=
  if cs.head?.any isDigit then some (readDigitsWith isDigit cs) else none

/-- An integer in another base, behind the mark for it. -/
def readBased? (cs : List Char) : Option (Int × List Char) :=
  match cs with
  | '0' :: 'x' :: rest => based 16 rest
  | '0' :: 'o' :: rest => based 8 rest
  | '0' :: 'b' :: rest => based 2 rest
  | _ => none
where
  value (c : Char) : Nat :=
    if c.isDigit then c.toNat - 0x30
    else if 'a' ≤ c.toLower && c.toLower ≤ 'f' then c.toLower.toNat - 0x61 + 10
    else 16
  based (base : Nat) (cs : List Char) : Option (Int × List Char) :=
    (digits? (fun c => value c < base) cs).map fun r =>
      ((r.1.foldl (fun n c => base * n + value c) 0 : Nat), r.2)

/-- A decimal number: an integer, or a double if it has a fraction or an exponent. -/
def readDecimal? (cs : List Char) : Option (Node × List Char) := do
  let (negative, body) := splitSign cs
  let (whole, rest) ← match body with
    | '0' :: rest => some (['0'], rest)
    | body => digits? Char.isDigit body
  let (fraction, afterFraction) := match rest with
    | '.' :: more => (digits? Char.isDigit more).getD ([], rest)
    | _ => ([], rest)
  let (exponent, afterExponent) := match afterFraction with
    | c :: more =>
      if c = 'e' || c = 'E' then
        let sign := more.take (if more.head?.any fun c => c = '+' || c = '-' then 1 else 0)
        match digits? Char.isDigit (more.drop sign.length) with
        | some r => ('e' :: sign ++ r.1, r.2)
        | none => ([], afterFraction)
      else ([], afterFraction)
    | [] => ([], [])
  if fraction.isEmpty && exponent.isEmpty then
    let n : Int := digitsValue whole
    return (.int (if negative then -n else n), rest)
  else
    let point := if fraction.isEmpty then [] else '.' :: fraction
    return (.float (← decimal? negative (whole ++ point ++ exponent)), afterExponent)

/-- Infinity or no number. -/
def readSpecial? (cs : List Char) : Option (Node × List Char) :=
  let (negative, body) := splitSign cs
  match body with
  | 'i' :: 'n' :: 'f' :: rest => some (.float (.infinite negative), rest)
  | 'n' :: 'a' :: 'n' :: rest => some (.float (.nan .new), rest)
  | _ => none

/-! ### Values -/

def isBare (c : Char) : Bool := c.isAlphanum || c = '-' || c = '_'

/-- A name of a table: bare or a text in quotes on one line. -/
def readName? (cs : List Char) : Option (String × List Char) :=
  match cs with
  | '"' :: rest => (readEscaped? false (cs.length + 1) rest).map fun r => (String.ofList r.1, r.2)
  | '\'' :: rest => (readVerbatim? false rest).map fun r => (String.ofList r.1, r.2)
  | c :: _ =>
    if isBare c then some (String.ofList (cs.takeWhile isBare), cs.dropWhile isBare) else none
  | [] => none

/-- A path of names with points between them, within so many steps. -/
def readPath? : Nat → List Char → Option (List String × List Char)
  | 0, _ => none
  | fuel + 1, cs => do
    let (name, rest) ← readName? cs
    match skipSpaces rest with
    | '.' :: rest =>
      let (path, rest) ← readPath? fuel (skipSpaces rest)
      return (name :: path, rest)
    | rest => return ([name], rest)

/-- Whether a path may be written beside others: none leads through another. -/
def isFree (taken : List (List String)) (path : List String) : Bool :=
  taken.all fun t => !t.isPrefixOf path && !path.isPrefixOf t

mutual

/-- A value and what follows it, within so many steps. -/
def readValue? : Nat → List Char → Option (Node × List Char)
  | 0, _ => none
  | fuel + 1, cs =>
    match cs with
    | '"' :: _ | '\'' :: _ => (readText? cs).map fun r => (.text (String.ofList r.1), r.2)
    | '[' :: rest => do
      let (items, rest) ← readItems? fuel (← skipLines? fuel rest)
      return (.list items, rest)
    | '\x7b' :: rest =>
      match skipSpaces rest with
      | '\x7d' :: rest => some (.map [], rest)
      | rest => readTable? fuel [] (.map []) rest
    | 't' :: 'r' :: 'u' :: 'e' :: rest => some (.bool true, rest)
    | 'f' :: 'a' :: 'l' :: 's' :: 'e' :: rest => some (.bool false, rest)
    | cs =>
      match readMoment? cs with
      | some (found, rest) => found.map fun m => (.moment m, rest)
      | none =>
        ((readBased? cs).map fun r => (.int r.1, r.2)).orElse fun _ =>
          (readDecimal? cs).orElse fun _ => readSpecial? cs

/-- The items of a list up to its bracket. A comma may end them. -/
def readItems? : Nat → List Char → Option (List Node × List Char)
  | 0, _ => none
  | fuel + 1, cs =>
    match cs with
    | ']' :: rest => some ([], rest)
    | cs => do
      let (v, rest) ← readValue? fuel cs
      match ← skipLines? fuel rest with
      | ']' :: rest => return ([v], rest)
      | ',' :: rest =>
        let (vs, rest) ← readItems? fuel (← skipLines? fuel rest)
        return (v :: vs, rest)
      | _ => none

/-- The entries of a table up to its brace, beside those read before. -/
def readTable? : Nat → List (List String) → Node → List Char → Option (Node × List Char)
  | 0, _, _, _ => none
  | fuel + 1, taken, table, cs => do
    let (path, rest) ← readPath? fuel cs
    let (v, rest) ← readValue? fuel (skipSpaces (← readMark? '=' rest))
    if !isFree taken path then none
    else
      let table := Node.place path v table
      match skipSpaces rest with
      | '\x7d' :: rest => return (table, rest)
      | ',' :: rest => readTable? fuel (path :: taken) table (skipSpaces rest)
      | _ => none

end

/-- The literal that a whole text is. -/
def ofChars? (cs : List Char) : Option Node := do
  let (v, rest) ← readValue? (2 * cs.length + 2) (skipSpaces cs)
  match ← skipComment? (skipSpaces rest) with
  | [] => return v
  | '\n' :: rest => if (← skipLines? (rest.length + 1) rest).isEmpty then return v else none
  | _ => none

/-! ### Values read with less care -/

/-- A number without zeros before it and without underscores but between digits. -/
def isStrict (cs : List Char) : Bool :=
  match trimBlanks cs with
  | [] => false
  | [c] => c != '_'
  | c :: d :: rest =>
    let all := c :: d :: rest
    let unsigned := if c = '+' || c = '-' then d :: rest else all
    c != '_' && all.getLast? != some '_' && !hasPair '_' '.' all && !hasPair '.' '_' all &&
      (c != '0' || ['.', 'o', 'b', 'x'].contains d) &&
      !(c != unsigned.headD c && leadsWithZero unsigned) && !hasPair '_' '_' unsigned
where
  hasPair (a b : Char) : List Char → Bool
    | c :: d :: rest => (c = a && d = b) || hasPair a b (d :: rest)
    | _ => false
  leadsWithZero : List Char → Bool
    | '0' :: c :: _ => c != '.'
    | _ => false

/-- The value of a part of a text that is a number of its own. -/
def part? (cs : List Char) (start width : Nat) : Option Nat := do
  let i ← integerOfText? (String.ofList ((cs.drop start).take width))
  if i < 0 then none else some i.toNat

/-- A moment whose parts stand where they should, whatever stands between them. -/
def looseMoment? (cs : List Char) : Option Node := do
  let text := String.ofList cs
  if !(cs.drop 1).contains '-' then none
  else
    let year ← part? cs 0 4
    let month ← part? cs 5 2
    let day ← part? cs 8 2
    if (dayFault? year month day).isSome then none
    else if cs.length = 10 then return .moment (.day text)
    else
      let hour ← part? cs 11 2
      let minute ← part? cs 14 2
      let second ← part? cs 17 2
      if (timeFault? hour minute second).isSome then none else return .moment (.point text)

/-- A text that starts with a time of day. `none` is one that the clock has not. -/
def looseTime? (cs : List Char) : Option (Option Node) := do
  let (hour, rest) ← readDigits? 2 cs
  let (minute, rest) ← readDigits? 2 (← readMark? ':' rest)
  let (second, _) ← readDigits? 2 (← readMark? ':' rest)
  if (timeFault? hour minute second).isSome then return none
  else return some (.moment (.time (String.ofList cs)))

/-- A number with digits of any script. -/
def looseNumber? (cs : List Char) : Option Node := do
  let (negative, signed) := splitSign cs
  let body := signed.filter (· != '_')
  let text := String.ofList body
  let negated (d : Double) : Node :=
    .float (match negative, d with
      | true, .finite s m e => .finite (!s) m e
      | true, .infinite s => .infinite (!s)
      | _, d => d)
  if body.contains '.' || (!body.contains 'x' && body.any fun c => c = 'e' || c = 'E') then
    let afterPoint := (body.dropWhile (· != '.')).drop 1
    if (body.contains '.' && afterPoint.isEmpty) || !body.head?.any Char.isDigit then none
    else return negated (← Double.ofText? text)
  else if ["inf", "nan"].contains (text.map Char.toLower) then
    return negated (← Double.ofText? text)
  else
    let digits := trimBlanks (asciiDigits body)
    let i ← integerOfText? text
    if digits.head? = some '0' && i != 0 then none
    else return .int (if negative then -i else i)

/-- A moment or a number. -/
def loose? (strict : Bool) (cs : List Char) : Option Node :=
  match looseTime? cs with
  | some found => found
  | none => (looseMoment? cs).orElse fun _ => if strict then looseNumber? cs else none

/-- A list of moments or of numbers of one type. Commas may follow one another. -/
def looseList? (cs : List Char) : Option Node := do
  let parts := ((String.ofList cs).splitOn ",").map fun p => trimBlanks p.toList
  let items ← (parts.filter (!·.isEmpty)).mapM item?
  match items with
  | [] => return .list []
  | v :: vs => if vs.all (·.typeName = v.typeName) then return .list items else none
where
  item? (cs : List Char) : Option Node :=
    match String.ofList cs with
    | "true" => some (.bool true)
    | "false" => some (.bool false)
    | _ => if cs.any fun c => ['"', '\'', '[', ']', '\x7b', '\x7d'].contains c then none
      else loose? true cs

/-- The value that a whole text is, read with less care. -/
def looseOfChars? (cs : List Char) : Option Node :=
  let plain := cs.takeWhile (· != '#')
  let body := trimBlanks plain
  if plain.contains '\n' || body.isEmpty then none
  else match body, body.getLast? with
    | '[' :: rest, some ']' => looseList? rest.dropLast
    | _, _ =>
      let standsAlone := plain.head?.any isSpace || (Double.ofText? (String.ofList plain)).isSome ||
        (looseMoment? plain).isSome || (looseTime? plain).isSome
      if standsAlone then loose? (isStrict plain) body else none

end Literal

/-- The literal that a text is. -/
def Node.ofLiteral? (s : String) : Option Node :=
  (Literal.ofChars? s.toList).orElse fun _ => Literal.looseOfChars? s.toList

end TwoWay.Settings
