import TwoWay.Settings.Scalar

/-!
# Places in documents

A cursor is what is left of a document, its line and column, and whether anything but blanks
stands before it on the line. Texts of several lines are
folded while they are read: a line end between two words is a blank, and each empty line
between them a line end.

* `Cursor.toSign`: the next place that is no blank, line end or comment;
* `Plain.read`, `Quoted.read`, `Block.read`: the three ways to write a text.
-/

namespace TwoWay.Settings

structure Cursor where
  rest : List Char
  line : Nat := 0
  column : Nat := 0
  /-- Whether nothing but blanks stands before the place on its line. -/
  leading : Bool := true

/-- Whether a word or a sign may end before this. -/
def isEnd (next : Option Char) : Bool := next.all fun c => c = ' ' || c = '\t' || c = '\n'

/-- How many blanks, line ends and comments stand at the start of a text. -/
def gap (inComment : Bool) : List Char → Nat
  | [] => 0
  | c :: rest =>
    if c = '\n' then 1 + gap false rest
    else if inComment then 1 + gap true rest
    else if c = ' ' then 1 + gap false rest
    else if c = '#' then 1 + gap true rest
    else 0

/-- Whether a text starts with the mark for the start or the end of a document. -/
def isBorder (cs : List Char) : Bool :=
  ([['-', '-', '-'], ['.', '.', '.']] : List (List Char)).contains (cs.take 3) &&
    isEnd (cs.drop 3).head?

namespace Cursor

def next? (c : Cursor) : Option Char := c.rest.head?

def mark (c : Cursor) : Mark := ⟨c.line, c.column⟩

/-- The place so many characters on. -/
def drop : Nat → Cursor → Cursor
  | 0, c => c
  | n + 1, ⟨rest, line, column, leading⟩ =>
    match rest with
    | [] => ⟨[], line, column, leading⟩
    | '\n' :: rest => drop n ⟨rest, line + 1, 0, true⟩
    | c :: rest => drop n ⟨rest, line, column + 1, leading && c = ' '⟩

/-- The place where so much is left. -/
def dropTo (c : Cursor) (rest : List Char) : Cursor := c.drop (c.rest.length - rest.length)

/-- The next place that is no blank, line end or comment. -/
def toSign (c : Cursor) : Cursor := c.drop (gap false c.rest)

/-- The next place on the line that is no blank. -/
def skipSpaces (c : Cursor) : Cursor := c.drop (c.rest.takeWhile (· = ' ')).length

/-- The first place on the lines below that is no blank, line end or comment. -/
def toSignBelow (c : Cursor) : Cursor :=
  (c.drop (c.rest.takeWhile (· != '\n')).length).toSign

/-- Whether the document ends here. -/
def atEnd (c : Cursor) : Bool := c.rest.isEmpty || (c.column = 0 && isBorder c.rest)

/-- Whether a sign stands here with a blank behind it. -/
def atSign (c : Cursor) (sign : Char) : Bool :=
  match c.rest with
  | d :: rest => d = sign && isEnd rest.head?
  | [] => false

end Cursor

/-- So many line ends. -/
def lineEnds (n : Nat) : List Char := List.replicate n '\n'

/-! ### Words without quotes -/

namespace Plain

/-- The signs that inside of brackets end a word. -/
def isBracketSign (c : Char) : Bool := [',', '[', ']', '\x7b', '\x7d'].contains c

/-- How long the word is that a text starts with. -/
def wordLength (inBrackets : Bool) : List Char → Nat
  | [] => 0
  | c :: rest =>
    if isEnd (some c) || (c = ':' && isEnd rest.head?) || (inBrackets && isBracketSign c) then 0
    else 1 + wordLength inBrackets rest

/-- How many lines with nothing but blanks follow, and the place behind them and behind the
blanks of the next line. `none` is the end of the document. -/
def emptyLines : Nat → Cursor → Option Nat × Cursor
  | 0, c => (some 0, c)
  | fuel + 1, c =>
    if c.atEnd then (none, c)
    else
      let d := c.skipSpaces
      match d.rest with
      | '\n' :: _ =>
        let r := emptyLines fuel (d.drop 1)
        (r.1.map (· + 1), r.2)
      | _ => (some 0, d)

/-- What separates a word from the next one: blanks or folded line ends. -/
def separation (c : Cursor) : List Char × Cursor :=
  let blanks := c.rest.takeWhile (· = ' ')
  let d := c.skipSpaces
  match d.rest with
  | '\n' :: _ =>
    match emptyLines d.rest.length (d.drop 1) with
    | (some 0, d) => ([' '], d)
    | (some n, d) => (lineEnds n, d)
    | (none, d) => ([], d)
  | _ => (blanks, d)

/-- Words up to a sign that ends them, within so many steps. Words on further lines stand at
column `floor` or behind it. -/
def readWords (inBrackets : Bool) (floor : Nat) : Nat → Cursor → List Char × Cursor
  | 0, c => ([], c)
  | fuel + 1, c =>
    let length := wordLength inBrackets c.rest
    let word := c.rest.take length
    let after := c.drop length
    let (blanks, d) := separation after
    let goesOn := !blanks.isEmpty && d.next? != some '#' && (inBrackets || floor ≤ d.column) &&
      wordLength inBrackets d.rest != 0
    if length = 0 then ([], c)
    else if goesOn then
      let r := readWords inBrackets floor fuel d
      (word ++ blanks ++ r.1, r.2)
    else (word, d)

def read (inBrackets : Bool) (floor : Nat) (c : Cursor) : List Char × Cursor :=
  readWords inBrackets floor (c.rest.length + 1) c

/-- The signs that no word starts with. -/
def isReserved (c : Char) : Bool :=
  ['-', '?', ':', ',', '[', ']', '\x7b', '\x7d', '#', '&', '*', '!', '|', '>', '\'', '"', '%',
    '@', '\x60'].contains c

/-- Whether a word starts here. -/
def startsHere (inBrackets : Bool) (cs : List Char) : Bool :=
  match cs with
  | [] => false
  | c :: rest =>
    if isEnd (some c) then false
    else if !isReserved c then true
    else if isEnd rest.head? then false
    else c = '-' || ((c = ':' || c = '?') && !inBrackets) || (c = ':' && inBrackets)

end Plain

/-! ### Texts in quotes -/

namespace Quoted

/-- The character that one behind a backslash stands for. -/
def escaped? (c : Char) : Option Char :=
  [('0', '\x00'), ('a', '\x07'), ('b', '\x08'), ('t', '\t'), ('\t', '\t'), ('n', '\n'),
    ('v', '\x0b'), ('f', '\x0c'), ('r', '\r'), ('e', '\x1b'), (' ', ' '), ('"', '"'), ('/', '/'),
    ('\\', '\\'), ('N', '\u0085'), ('_', '\u00a0'), ('L', '\u2028'), ('P', '\u2029')].lookup c

/-- How many digits number a character behind this one. -/
def codeWidth? : Char → Option Nat
  | 'x' => some 2
  | 'u' => some 4
  | 'U' => some 8
  | _ => none

/-- What is wrong with a text in quotes, and how much is left where it is. -/
inductive TextFlaw where
  | unclosed
  | escape (c : Char) (left : Nat)
  | code (width : Nat) (found : String) (left : Nat)

/-- A character by its number in hexadecimal digits. -/
def readCode (width : Nat) (cs : List Char) : Except TextFlaw (Char × List Char) :=
  let digits := (cs.take width).takeWhile Scalar.isHexadecimal
  if digits.length = width then
    .ok (Char.ofNat (Scalar.valueIn 16 digits), cs.drop width)
  else .error (.code width ((cs[digits.length]?).getD '\x00').toString cs.length)

def isBlank (c : Char) : Bool := c = ' ' || c = '\t'

/-- Folded line ends: what follows a line end up to the next word, and the text for it. -/
def foldLines (cs : List Char) : List Char × List Char :=
  let blanks := cs.takeWhile fun c => isBlank c || c = '\n'
  (lineEnds (blanks.count '\n'), cs.drop blanks.length)

/-- A text up to the quote that ends it, within so many steps. -/
def readText (quote : Char) : Nat → List Char → Except TextFlaw (List Char × List Char)
  | 0, _ => .error .unclosed
  | fuel + 1, cs =>
    let go (taken : List Char) (rest : List Char) :=
      (readText quote fuel rest).map fun r => (taken ++ r.1, r.2)
    match cs with
    | [] => .error .unclosed
    | c :: rest =>
      if c = quote then
        match quote, rest with
        | '\'', '\'' :: more => go ['\''] more
        | _, _ => .ok ([], rest)
      else if c = '\\' && quote = '"' then
        match rest with
        | '\n' :: more =>
          let (folded, more) := foldLines more
          go folded more
        | d :: more =>
          match codeWidth? d, escaped? d with
          | some width, _ => do
            let (x, more) ← readCode width more
            go [x] more
          | none, some x => go [x] more
          | none, none => .error (.escape d rest.length)
        | [] => .error (.escape '\x00' 0)
      else if isBlank c || c = '\n' then
        let blanks := cs.takeWhile isBlank
        match cs.drop blanks.length with
        | '\n' :: more =>
          match foldLines more with
          | ([], more) => go [' '] more
          | (folded, more) => go folded more
        | more => go blanks more
      else go [c] rest

/-- The text in quotes at a place. -/
def read (c : Cursor) : Except Flaw (List Char × Cursor) :=
  let left (n : Nat) : Mark := (c.drop (c.rest.length - n)).mark
  match c.rest with
  | quote :: rest =>
    match readText quote (rest.length + 1) rest with
    | .ok r => .ok (r.1, c.dropTo r.2)
    | .error .unclosed => .error (.openText c.mark (left 0))
    | .error (.escape d n) => .error (.badEscape d c.mark (left n))
    | .error (.code width found n) => .error (.badCode width found c.mark (left n))
  | [] => .error (.openText c.mark c.mark)

end Quoted

/-! ### Texts in lines -/

namespace Block

/-- What becomes of the line ends at the end of a text. -/
inductive Ending where
  | strip
  | clip
  | keep
  deriving DecidableEq, Repr

structure Header where
  folded : Bool
  ending : Ending := .clip
  /-- How far the lines are set in. -/
  step : Option Nat := none

/-- The signs behind the first one of a header. -/
def readHeader (h : Header) : List Char → Header × List Char
  | '-' :: rest => readHeader { h with ending := .strip } rest
  | '+' :: rest => readHeader { h with ending := .keep } rest
  | c :: rest =>
    if '1' ≤ c && c ≤ '9' then readHeader { h with step := some (c.toNat - 0x30) } rest
    else (h, c :: rest)
  | [] => (h, [])

/-- Whether nothing but blanks and a comment stands on a line. -/
def isBare (cs : List Char) : Bool :=
  match cs.dropWhile (· = ' ') with
  | [] | '#' :: _ => true
  | _ => false

/-- The lines of a text. The last one has no end. -/
def lines (cs : List Char) : List (List Char) := ((String.ofList cs).splitOn "\n").map (·.toList)

/-- How far a line is set in. -/
def indentation (line : List Char) : Nat := (line.takeWhile (· = ' ')).length

/-- How far the first line that holds more than blanks is set in. Empty lines before it may
be set in farther. -/
def detect : List (List Char) → Nat
  | [] => 0
  | line :: rest =>
    if indentation line = line.length then Nat.max line.length (detect rest) else indentation line

/-- A line of a text without what it is set in, or `none` behind the last one. -/
def content? (indent : Nat) (line : List Char) : Option (List Char) :=
  let set := Nat.min indent (indentation line)
  let rest := line.drop set
  if rest.isEmpty || set = indent then some rest else none

/-- The lines of a text. -/
def contents (indent : Nat) : List (List Char) → List (List Char)
  | [] => []
  | [last] =>
    -- What has no end and nothing in it is no line.
    match content? indent last with
    | some (c :: rest) => [c :: rest]
    | _ => []
  | line :: rest =>
    match content? indent line with
    | some l => l :: contents indent rest
    | none => []

/-- A line that starts with a blank is not folded. -/
def isFolding (line : List Char) : Bool := line.head?.all fun c => c != ' ' && c != '\t'

/-- Lines behind one that is not empty, with so many empty lines in between. -/
def joinBehind (folded : Bool) (previous : List Char) (empty : Nat) :
    List (List Char) → List Char
  | [] => []
  | [] :: rest => joinBehind folded previous (empty + 1) rest
  | line :: rest =>
    let between :=
      if folded && isFolding previous && isFolding line then
        if empty = 0 then [' '] else lineEnds empty
      else lineEnds (empty + 1)
    between ++ line ++ joinBehind folded line 0 rest

/-- Lines with their ends between them. -/
def join (folded : Bool) (ls : List (List Char)) : List Char :=
  let empty := (ls.takeWhile (·.isEmpty)).length
  lineEnds empty ++ match ls.drop empty with
  | line :: rest => line ++ joinBehind folded line 0 rest
  | [] => []

/-- The text of lines, the last of which may lack its end. -/
def text (h : Header) (ls : List (List Char)) (closed : Bool) : List Char :=
  let empty := (ls.reverse.takeWhile (·.isEmpty)).length
  let full := ls.take (ls.length - empty)
  let last := if full.isEmpty then [] else if empty = 0 && !closed then [] else ['\n']
  match h.ending with
  | .strip => join h.folded full
  | .clip => join h.folded full ++ last
  | .keep => join h.folded full ++ last ++ lineEnds empty

/-- The text in lines whose header stands at a place. Its lines are set in as far as `floor`
at the least. -/
def read? (floor : Nat) (c : Cursor) : Option (List Char × Cursor) :=
  match c.rest with
  | [] => none
  | sign :: rest =>
    let (h, rest) := readHeader ⟨sign = '>', .clip, none⟩ rest
    let header := rest.takeWhile (· != '\n')
    if !isBare header then none
    else
      let start := c.dropTo (rest.drop (header.length + 1))
      let all := lines start.rest
      let indent := match h.step with
        | some step => Nat.max floor 1 + step - 1
        | none => Nat.max floor (detect all)
      let own := contents indent all
      let closed := own.length < all.length
      let length := (all.take own.length).foldl (fun n l => n + l.length + 1) 0
      some (text h own closed, start.drop length)

end Block

end TwoWay.Settings
