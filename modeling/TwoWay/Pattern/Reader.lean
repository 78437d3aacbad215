import TwoWay.Number.Reading
import TwoWay.Pattern.Fault
import TwoWay.Text.Identifier
import TwoWay.Text.Name.Lookup
import TwoWay.Text.Quoted

/-!
# Reading patterns

The written form of patterns: letters stand for themselves, `.` for any character,
brackets hold sets, `|` separates alternatives, and `*`, `+`, `?` and braces repeat what
stands before them. A question mark after an opening parenthesis starts an extension.
A text that is no pattern is refused at the position where reading stops.
-/

namespace TwoWay

namespace Pattern

/-- The pieces of a written pattern: a backslash goes with the character after it. -/
inductive Piece where
  | plain (c : Char)
  | escaped (c : Char)
  | dangling
  deriving DecidableEq, Repr

namespace Piece

def ofChars : List Char → List Piece
  | [] => []
  | ['\\'] => [.dangling]
  | '\\' :: c :: rest => .escaped c :: ofChars rest
  | c :: rest => .plain c :: ofChars rest

def text : Piece → String
  | .plain c => c.toString
  | .escaped c => String.ofList ['\\', c]
  | .dangling => "\\"

def width : Piece → Nat
  | .escaped _ => 2
  | _ => 1

end Piece

/-- The options that letters in a pattern turn on and off. -/
structure Flags where
  ignoreCase : Bool := false
  multiline : Bool := false
  dotAll : Bool := false
  verbose : Bool := false
  ascii : Bool := false
  unicode : Bool := false
  locale : Bool := false
  /-- Without repetitions. -/
  template : Bool := false
  deriving DecidableEq, Repr, Inhabited

namespace Flags

/-- What holds in one of two. -/
def union (a b : Flags) : Flags :=
  { ignoreCase := a.ignoreCase || b.ignoreCase
    multiline := a.multiline || b.multiline
    dotAll := a.dotAll || b.dotAll
    verbose := a.verbose || b.verbose
    ascii := a.ascii || b.ascii
    unicode := a.unicode || b.unicode
    locale := a.locale || b.locale
    template := a.template || b.template }

/-- Whether one of the kinds of character classes is chosen, which exclude each other. -/
def hasType (flags : Flags) : Bool := flags.ascii || flags.unicode || flags.locale

/-- The options in a group that turns options on and others off. -/
def adjust (flags on off : Flags) : Flags :=
  let typed := if on.hasType then
      { flags with ascii := false, unicode := false, locale := false }
    else flags
  let all := typed.union on
  { all with
    ignoreCase := all.ignoreCase && !off.ignoreCase
    multiline := all.multiline && !off.multiline
    dotAll := all.dotAll && !off.dotAll
    verbose := all.verbose && !off.verbose }

def overlap (a b : Flags) : Bool :=
  (a.ignoreCase && b.ignoreCase) || (a.multiline && b.multiline) || (a.dotAll && b.dotAll) ||
    (a.verbose && b.verbose)

def isTypeFlag (c : Char) : Bool := c = 'a' || c = 'u' || c = 'L'

/-- Whether the kind that a letter chooses is not the only one. -/
def clashes (flags : Flags) (c : Char) : Bool :=
  match c with
  | 'a' => flags.unicode || flags.locale
  | 'u' => flags.ascii || flags.locale
  | 'L' => flags.ascii || flags.unicode
  | _ => false

def turnOn? (flags : Flags) : Char → Option Flags
  | 'i' => some { flags with ignoreCase := true }
  | 'm' => some { flags with multiline := true }
  | 's' => some { flags with dotAll := true }
  | 'x' => some { flags with verbose := true }
  | 'a' => some { flags with ascii := true }
  | 'u' => some { flags with unicode := true }
  | 'L' => some { flags with locale := true }
  | 't' => some { flags with template := true }
  | _ => none

def folding (flags : Flags) : Folding :=
  if !flags.ignoreCase then .none else if flags.ascii || flags.locale then .plain else .full

end Flags

/-- The state of reading: what is left, its position, and what is known of the groups. -/
structure Reading where
  rest : List Piece
  position : Nat := 0
  /-- Patterns are written in text or in bytes. -/
  isText : Bool := true
  groups : Nat := 1
  opened : List Nat := []
  /-- The widths of the groups that are complete. -/
  widths : List (Nat × Nat × Nat) := []
  names : List (String × Nat) := []
  flags : Flags := {}
  /-- The number of groups before the outermost look-behind that is being read. -/
  lookbehind : Option Nat := none
  /-- Groups that conditions name, with their positions. -/
  conditions : List (Nat × Nat) := []

abbrev Reader := StateT Reading (Except PatternError)

/-- Refuses the text at a distance before the next piece. -/
def fail {α : Type} (fault : PatternFault) (back : Nat) : Reader α := do
  throw ⟨fault, some ((← get).position - back)⟩

def next? : Reader (Option Piece) := do return (← get).rest.head?

/-- Refuses to look at a backslash with nothing after it. -/
def checkNext : Reader Unit := do
  if (← next?) = some .dangling then fail .danglingEscape 0

def advance : Reader Unit := do
  modify fun s => match s.rest with
    | p :: rest => { s with rest := rest, position := s.position + p.width }
    | [] => s
  checkNext

def take? : Reader (Option Piece) := do
  let p ← next?
  if p.isSome then advance
  return p

def accept (c : Char) : Reader Bool := do
  if (← next?) = some (.plain c) then
    advance
    return true
  else return false

/-- Up to `n` characters that pass the test. -/
def takeWhile (test : Char → Bool) : Nat → Reader (List Char)
  | 0 => return []
  | n + 1 => do
    match ← next? with
    | some (.plain c) =>
      if test c then
        advance
        return c :: (← takeWhile test n)
      else return []
    | _ => return []

/-- The name of something up to a terminator. -/
def nameUntil (what : String) (terminator : Char) : Nat → String → Reader String
  | 0, name => return name
  | fuel + 1, name => do
    match ← take? with
    | none =>
      if name.isEmpty then fail (.missingName what) 0
      else fail (.unterminatedName terminator) name.length
    | some p =>
      if p = .plain terminator then
        if name.isEmpty then fail (.missingName what) 1
        return name
      else nameUntil what terminator fuel (name ++ p.text)

def isHexDigit (c : Char) : Bool :=
  c.isDigit || ('a' ≤ c && c ≤ 'f') || ('A' ≤ c && c ≤ 'F')

def isOctalDigit (c : Char) : Bool := '0' ≤ c && c ≤ '7'

def digitOf (c : Char) : Nat :=
  if c.isDigit then c.toNat - 0x30 else c.toLower.toNat - 0x61 + 10

def numberOf (base : Nat) (digits : List Char) : Nat :=
  digits.foldl (fun n c => n * base + digitOf c) 0

/-- The characters with an escape of their own. -/
def controlEscape? : Char → Option Char
  | 'a' => some '\x07'
  | 'b' => some '\x08'
  | 'f' => some '\x0c'
  | 'n' => some '\n'
  | 'r' => some '\r'
  | 't' => some '\t'
  | 'v' => some '\x0b'
  | '\\' => some '\\'
  | _ => none

def classEscape? (ascii : Bool) : Char → Option CharItem
  | 'd' => some (.class .digit ascii false)
  | 'D' => some (.class .digit ascii true)
  | 'w' => some (.class .word ascii false)
  | 'W' => some (.class .word ascii true)
  | 's' => some (.class .blank ascii false)
  | 'S' => some (.class .blank ascii true)
  | _ => none

/-- A code point in a fixed number of hexadecimal digits. -/
def hexEscape (c : Char) (count : Nat) : Reader Nat := do
  let digits ← takeWhile isHexDigit count
  let escape := String.ofList ('\\' :: c :: digits)
  if digits.length ≠ count then fail (.incompleteEscape escape) escape.length
  if numberOf 16 digits < 0x110000 then return numberOf 16 digits
  else fail (.badEscape escape) escape.length

/-- A code point by its name in braces. -/
def namedEscape : Reader Nat := do
  if !(← accept '\x7b') then fail .missingBrace 0
  let name ← nameUntil "character" '\x7d' ((← get).rest.length + 1) ""
  match Text.codeOfName? name with
  | some code => return code
  | none => fail (.unknownCharacter (Text.quoted name)) (name.length + 4)

/-- The escapes that are the same inside and outside of sets. -/
def commonEscape (c : Char) : Reader Nat := do
  let isText := (← get).isText
  if c = 'x' then hexEscape c 2
  else if c = 'u' && isText then hexEscape c 4
  else if c = 'U' && isText then hexEscape c 8
  else if c = 'N' && isText then namedEscape
  else if c.isAlpha || c.isDigit then fail (.badEscape (String.ofList ['\\', c])) 2
  else return c.toNat

/-- An escape inside a set. -/
def setEscape (c : Char) : Reader CharItem := do
  match controlEscape? c, classEscape? (← get).flags.ascii c with
  | some d, _ => return .single d.toNat
  | none, some item => return item
  | none, none =>
    if isOctalDigit c then
      let digits := c :: (← takeWhile isOctalDigit 2)
      let escape := String.ofList ('\\' :: digits)
      if 0o377 < numberOf 8 digits then fail (.octalOutOfRange escape) escape.length
      return .single (numberOf 8 digits)
    else return .single (← commonEscape c)

/-- Refuses to refer to a group of the look-behind that is being read. -/
def checkLookbehind (number : Nat) : Reader Unit := do
  let s ← get
  match s.lookbehind with
  | some bound =>
    if s.groups ≤ number || s.opened.contains number then fail .openReference 0
    if bound ≤ number then fail .lookbehindReference 0
  | none => return

/-- A reference to a group that is complete. -/
def reference (number back : Nat) : Reader Pattern := do
  let s ← get
  if s.opened.contains number then fail .openReference back
  checkLookbehind number
  return .again number s.flags.folding

/-- A set of code points as a pattern. -/
def setPattern (negated : Bool) (items : List CharItem) : Reader Pattern := do
  return .one (.oneOf negated (← get).flags.folding items.eraseDups)

def codePattern (code : Nat) : Reader Pattern := setPattern false [.single code]

/-- A digit other than zero after a backslash: a reference to a group, or three octal
digits. -/
def digitEscape (c : Char) : Reader Pattern := do
  match ← next? with
  | some (.plain d) =>
    if d.isDigit then
      advance
      match ← next? with
      | some (.plain e) =>
        if isOctalDigit c && isOctalDigit d && isOctalDigit e then
          advance
          let value := numberOf 8 [c, d, e]
          if 0o377 < value then fail (.octalOutOfRange (String.ofList ['\\', c, d, e])) 4
          return ← codePattern value
        else refer (numberOf 10 [c, d]) 3
      | _ => refer (numberOf 10 [c, d]) 3
    else refer (numberOf 10 [c]) 2
  | _ => refer (numberOf 10 [c]) 2
where
  refer (number length : Nat) : Reader Pattern := do
    if number < (← get).groups then reference number length
    else fail (.invalidReference number) (length - 1)

/-- An escape outside of sets, and whether it describes a place. -/
def escapePattern (c : Char) : Reader (Pattern × Bool) := do
  let flags := (← get).flags
  match c with
  | 'A' => return (.textStart, true)
  | 'Z' => return (.textEnd, true)
  | 'b' => return (.boundary flags.ascii false, true)
  | 'B' => return (.boundary flags.ascii true, true)
  | '0' =>
    let digits ← takeWhile isOctalDigit 2
    return (← codePattern (numberOf 8 digits), false)
  | _ =>
    match classEscape? flags.ascii c, controlEscape? c with
    | some item, _ => return (← setPattern false [item], false)
    | none, some d => return (← codePattern d.toNat, false)
    | none, none =>
      if c.isDigit then return (← digitEscape c, false)
      else return (← codePattern (← commonEscape c), false)

/-- A member of a set. -/
def setItem : Piece → Reader CharItem
  | .escaped c => setEscape c
  | .plain c => return .single c.toNat
  | .dangling => fail .danglingEscape 0

/-- The members of a set up to the closing bracket; `here` is its position. -/
def setItems (here : Nat) : Nat → List CharItem → Reader (List CharItem)
  | 0, items => return items
  | fuel + 1, items => do
    let unterminated : Reader (List CharItem) := do
      fail .unterminatedSet ((← get).position - here)
    match ← take? with
    | none => unterminated
    | some first =>
      if first = .plain ']' && !items.isEmpty then return items
      let item ← setItem first
      if ← accept '-' then
        match ← take? with
        | none => unterminated
        | some last =>
          if last = .plain ']' then return items ++ [item, .single '-'.toNat]
          match item, ← setItem last with
          | .single a, .single b =>
            if a ≤ b then setItems here fuel (items ++ [.range a b])
            else fail (.badRange first.text last.text) (first.width + 1 + last.width)
          | _, _ => fail (.badRange first.text last.text) (first.width + 1 + last.width)
      else setItems here fuel (items ++ [item])

/-- Repetitions stay below this number. -/
def repeatBound : Nat := 4294967295

/-- A number of repetitions. -/
def repeatNumber (digits : List Char) : Reader Nat := do
  if 4300 < digits.length then throw ⟨.manyDigits digits.length, none⟩
  if repeatBound ≤ numberOf 10 digits then throw ⟨.hugeRepeat, none⟩
  return numberOf 10 digits

/-- The number of repetitions that a brace opens, or nothing if the brace stands for
itself. -/
def braces (fuel : Nat) : Reader (Option (Nat × Option Nat)) := do
  let here ← get
  if here.rest.head? = some (.plain '\x7d') then return none
  let low ← takeWhile Char.isDigit fuel
  let comma ← accept ','
  let high ← if comma then takeWhile Char.isDigit fuel else pure low
  if !(← accept '\x7d') then
    set here
    return none
  let least ← repeatNumber low
  if high.isEmpty then return some (least, none)
  let most ← repeatNumber high
  if most < least then fail .leastAboveMost ((← get).position - here.position)
  return some (least, some most)

/-- A part of a sequence. What is bare is a single character, a place or a reference that has
no group of its own. -/
structure Part where
  pattern : Pattern
  bare : Bool

/-- Parts as a whole. -/
def whole (parts : List Part) : Pattern := sequence (parts.map (·.pattern))

/-- What the last item of a sequence is for a repetition after it. -/
inductive ItemKind where
  | place
  | repeated
  | other
  deriving DecidableEq, Repr

/-- An item of a sequence. A group that only holds together gives all its parts. -/
structure Item where
  parts : List Part
  kind : ItemKind

/-- The items read so far, last first. -/
abbrev Items := List Item

/-- The parts of a sequence. -/
def Items.parts (items : Items) : List Part := items.reverse.flatMap (·.parts)

/-- Parts repeated. A repetition of a single character is a run. -/
def repeatedParts (least : Nat) (most : Option Nat) (greed : Greed) (parts : List Part) :
    Pattern :=
  match parts.map (·.pattern) with
  | [Pattern.one test] => .many least most greed test
  | patterns => .repetition least most greed (sequence patterns)

/-- The letter after a repetition that says how it chooses. -/
def greed : Reader Greed := do
  if ← accept '?' then return .lazy
  if ← accept '+' then return .possessive
  return .greedy

/-- Repeats the last item. `back` leads from the next piece to the repetition. -/
def repeatLast (least : Nat) (most : Option Nat) (back : Nat) : Items → Reader Items
  | ⟨parts, .other⟩ :: rest => do
    return ⟨[⟨repeatedParts least most (← greed) parts, false⟩], .repeated⟩ :: rest
  | ⟨_, .repeated⟩ :: _ => fail .multipleRepeat back
  | _ => fail .nothingToRepeat back

/-! ### Alternatives -/

/-- The part that all sequences start with, if it is bare, and what follows it. -/
def sharedPart? : List (List Part) → Option (Part × List (List Part))
  | (p :: first) :: rest =>
    if p.bare && rest.all fun ps => ps.head?.any fun q => q.bare && q.pattern = p.pattern then
      some (p, first :: rest.map List.tail)
    else none
  | _ => none

/-- The parts that all sequences start with, and what follows them. -/
def sharedParts : Nat → List (List Part) → List Part × List (List Part)
  | 0, branches => ([], branches)
  | fuel + 1, branches =>
    match sharedPart? branches with
    | some (p, branches) =>
      let (shared, branches) := sharedParts fuel branches
      (p :: shared, branches)
    | none => ([], branches)

/-- The members of a sequence that is a bare set. -/
def bareItems? : List Part → Option (Folding × List CharItem)
  | [⟨.one (.oneOf false folding items), true⟩] => some (folding, items)
  | _ => none

/-- One of several sequences. What they start with in common is read once, and single
characters make up a set. -/
def choice (branches : List (List Part)) : List Part :=
  match branches with
  | [parts] => parts
  | _ =>
    let (shared, rests) := sharedParts (branches.headD []).length branches
    match rests.mapM bareItems? with
    | some (sets@((folding, _) :: _)) =>
      shared ++ [⟨.one (.oneOf false folding (sets.flatMap (·.2)).eraseDups), true⟩]
    | _ => shared ++ [⟨alternation (rests.map whole), false⟩]
where
  alternation : List Pattern → Pattern
    | [] => .empty
    | [p] => p
    | p :: rest => .alt p (alternation rest)

/-- What is wrong with a character that is no option. -/
def noFlag (c : Char) (missing : PatternFault) : PatternFault :=
  if Text.isLetter c then .unknownFlag else missing

/-- Letters that turn options on, up to a character that ends them. -/
def flagsOn (on : Flags) : Nat → Char → Reader (Flags × Char)
  | 0, c => return (on, c)
  | fuel + 1, c => do
    match on.turnOn? c with
    | none => fail .unknownFlag 1
    | some on =>
      let isText := (← get).isText
      if c = 'L' && isText then fail .localeFlag 0
      if c = 'u' && !isText then fail .textFlag 0
      if on.clashes c then fail .incompatibleFlags 0
      match ← take? with
      | none => fail .missingFlagEnd 0
      | some (.plain d) =>
        if d = ')' || d = '-' || d = ':' then return (on, d)
        else if (on.turnOn? d).isNone then fail (noFlag d .missingFlagEnd) 1
        else flagsOn on fuel d
      | some p => fail .missingFlagEnd p.width

/-- Letters that turn options off, up to a colon. -/
def flagsOff (off : Flags) : Nat → Char → Reader Flags
  | 0, _ => return off
  | fuel + 1, c => do
    if Flags.isTypeFlag c then fail .typeFlagOff 0
    match off.turnOn? c with
    | none => fail .unknownFlag 1
    | some off =>
      match ← take? with
      | none => fail .missingColon 0
      | some (.plain ':') => return off
      | some (.plain d) =>
        if (off.turnOn? d).isNone then fail (noFlag d .missingColon) 1
        else flagsOff off fuel d
      | some p => fail .missingColon p.width

/-- The options after `(?`: for the whole pattern, or on and off for one group. -/
def readFlags (fuel : Nat) (c : Char) : Reader (Flags × Option Flags) := do
  let (on, stop) ← if c = '-' then pure ({}, '-') else flagsOn {} fuel c
  if stop = ')' then return (on, none)
  if on.template then fail .globalFlagOn 1
  if stop = ':' then return (on, some {})
  match ← take? with
  | none => fail .missingFlag 0
  | some (.plain d) =>
    if (Flags.turnOn? {} d).isNone then fail (noFlag d .missingFlag) 1
    let off ← flagsOff {} fuel d
    if off.template then fail .globalFlagOff 1
    if on.overlap off then fail .flagOnAndOff 1
    return (on, some off)
  | some p => fail .missingFlag p.width

def skipComment (origin : Nat) : Nat → Reader Unit
  | 0 => return
  | fuel + 1 => do
    match ← take? with
    | none => fail .unterminatedComment ((← get).position - origin)
    | some (.plain ')') => return
    | some _ => skipComment origin fuel

/-- Skips a comment up to the end of the line. -/
def skipLine : Nat → Reader Unit
  | 0 => return
  | fuel + 1 => do
    match ← take? with
    | none | some (.plain '\n') => return
    | some _ => skipLine fuel

/-- The end of a group. -/
def closeGroup (origin : Nat) : Reader Unit := do
  if !(← accept ')') then fail .unterminatedGroup ((← get).position - origin)

/-- A group name, refused unless it is an identifier. -/
def groupName (terminator : Char) (fuel : Nat) : Reader String := do
  let name ← nameUntil "group" terminator fuel ""
  if !Text.isIdentifier name then fail (.badName (Text.quoted name)) (name.length + 1)
  return name

/-- The number of a named group. -/
def namedGroup (name : String) : Reader Nat := do
  match (← get).names.lookup name with
  | some n => return n
  | none => fail (.unknownName (Text.quoted name)) (name.length + 1)

/-- Opens a group and gives its number. -/
def openGroup (name : Option String) : Reader Nat := do
  let s ← get
  match name with
  | some n =>
    match s.names.lookup n with
    | some earlier => fail (.repeatedName (Text.quoted n) s.groups earlier) (n.length + 1)
    | none => set { s with names := (n, s.groups) :: s.names }
  | none => pure ()
  modify fun s => { s with groups := s.groups + 1, opened := s.groups :: s.opened }
  return s.groups

/-- The numbers of groups stay below this one. -/
def groupBound : Nat := 1073741823

/-- The group that a condition asks for, by its name or number. -/
def conditionGroup (fuel : Nat) : Reader Nat := do
  let name ← nameUntil "group" ')' fuel ""
  if Text.isIdentifier name then namedGroup name
  else
    match integerOfText? name with
    | some (.ofNat number) =>
      if 4300 < name.length then fail (.badName (Text.quoted name)) (name.length + 1)
      if number = 0 then fail .badGroupNumber (name.length + 1)
      if groupBound ≤ number then fail (.invalidReference number) (name.length + 1)
      modify fun s =>
        if (s.conditions.lookup number).isSome then s
        else { s with conditions := s.conditions ++ [(number, s.position - name.length - 1)] }
      return number
    | _ => fail (.badName (Text.quoted name)) (name.length + 1)

mutual

/-- Alternatives up to a closing parenthesis or the end. -/
def alternatives : Nat → Bool → Reader (List (List Part))
  | 0, _ => return []
  | fuel + 1, outermost => do
    let parts ← items fuel outermost []
    if ← accept '|' then return parts :: (← alternatives fuel false)
    else return [parts]

/-- One alternative. Options for the whole pattern may open it if `first` holds. -/
def items : Nat → Bool → Items → Reader (List Part)
  | 0, _, sofar => return sofar.parts
  | fuel + 1, first, sofar => do
    match ← next? with
    | none | some (.plain '|') | some (.plain ')') => return sofar.parts
    | some piece =>
      let origin := (← get).position
      advance
      let flags := (← get).flags
      let add (kind : ItemKind) (p : Pattern) := items fuel first (⟨[⟨p, true⟩], kind⟩ :: sofar)
      let again (least : Nat) (most : Option Nat) := do
        let back := (← get).position - origin
        items fuel first (← repeatLast least most back sofar)
      match piece with
      | .dangling => fail .danglingEscape 0
      | .escaped c =>
        let (p, isPlace) ← escapePattern c
        add (if isPlace then .place else .other) p
      | .plain c =>
        if flags.verbose && Text.isPlainBlank c then items fuel first sofar
        else if flags.verbose && c = '#' then
          skipLine fuel
          items fuel first sofar
        else match c with
          | '.' => add .other (.one (.any flags.dotAll))
          | '^' => add .place (.start flags.multiline)
          | '$' => add .place (.finish flags.multiline)
          | '[' =>
            let negated ← accept '^'
            let members ← setItems origin fuel []
            add .other (← setPattern negated members)
          | '*' => again 0 none
          | '+' => again 1 none
          | '?' => again 0 (some 1)
          | '\x7b' =>
            match ← braces fuel with
            | none => add .other (← codePattern c.toNat)
            | some (least, most) => again least most
          | '(' =>
            match ← parenthesis fuel origin (first && sofar.isEmpty) with
            | some parts => items fuel first (⟨parts, .other⟩ :: sofar)
            | none => items fuel first sofar
          | _ => add .other (← codePattern c.toNat)

/-- What an opening parenthesis at `origin` begins; comments and options are no part of
the pattern. -/
def parenthesis : Nat → Nat → Bool → Reader (Option (List Part))
  | 0, _, _ => return none
  | fuel + 1, origin, first => do
    let one (p : Pattern) : Option (List Part) := some [⟨p, false⟩]
    if !(← accept '?') then return one (← captured fuel origin none)
    match ← take? with
    | none => fail .unexpectedEnd 0
    | some (.plain 'P') =>
      if ← accept '<' then
        let name ← groupName '>' fuel
        return one (← captured fuel origin (some name))
      else if ← accept '=' then
        let name ← groupName ')' fuel
        return some [⟨← reference (← namedGroup name) (name.length + 1), true⟩]
      else
        match ← take? with
        | none => fail .unexpectedEnd 0
        | some p => fail (.unknownExtension ("P" ++ p.text)) (p.width + 2)
    | some (.plain ':') => return some (← inside fuel origin)
    | some (.plain '>') => return one (.atomic (whole (← inside fuel origin)))
    | some (.plain '#') =>
      skipComment origin fuel
      return none
    | some (.plain '=') => return one (.ahead false (whole (← inside fuel origin)))
    | some (.plain '!') => return one (.ahead true (whole (← inside fuel origin)))
    | some (.plain '<') =>
      match ← take? with
      | none => fail .unexpectedEnd 0
      | some (.plain '=') => return one (← lookbehind fuel origin false)
      | some (.plain '!') => return one (← lookbehind fuel origin true)
      | some p => fail (.unknownExtension ("<" ++ p.text)) (p.width + 2)
    | some (.plain '(') =>
      let number ← conditionGroup fuel
      checkLookbehind number
      let yes ← items fuel false []
      let no ← if ← accept '|' then
          let no ← items fuel false []
          if (← next?) = some (.plain '|') then fail .manyBranches 0
          pure no
        else pure []
      closeGroup origin
      return one (.ifGroup number (whole yes) (whole no))
    | some (.plain c) =>
      if c != '-' && (Flags.turnOn? {} c).isNone then
        fail (.unknownExtension c.toString) 2
      match ← readFlags fuel c with
      | (on, none) =>
        if !first then fail .lateFlags ((← get).position - origin)
        modify fun s => { s with flags := s.flags.union on }
        return none
      | (on, some off) =>
        let outer := (← get).flags
        modify fun s => { s with flags := s.flags.adjust on off }
        let parts ← inside fuel origin
        modify fun s => { s with flags := outer }
        return one (whole parts)
    | some p => fail (.unknownExtension p.text) (p.width + 1)

/-- The contents of a group and its end. -/
def inside : Nat → Nat → Reader (List Part)
  | 0, _ => return []
  | fuel + 1, origin => do
    let branches ← alternatives fuel false
    closeGroup origin
    return choice branches

/-- A group that remembers its text. -/
def captured : Nat → Nat → Option String → Reader Pattern
  | 0, _, _ => return .empty
  | fuel + 1, origin, name => do
    let number ← openGroup name
    let p := whole (← inside fuel origin)
    modify fun s =>
      { s with
        opened := s.opened.filter (· != number)
        widths := (number, p.width s.widths) :: s.widths }
    return .group number p

/-- A look at what stands before, which needs a fixed width. -/
def lookbehind : Nat → Nat → Bool → Reader Pattern
  | 0, _, _ => return .empty
  | fuel + 1, origin, negated => do
    let outer := (← get).lookbehind
    modify fun s => { s with lookbehind := some (outer.getD s.groups) }
    let p := whole (choice (← alternatives fuel false))
    modify fun s => { s with lookbehind := outer }
    closeGroup origin
    return .behind negated (p.width (← get).widths).1 p

end

/-- The widths of look-behinds stay below this number. -/
def lookbehindBound : Nat := 4294967296

/-- What is wrong with a pattern as a whole: a look-behind without a fixed width, or a
repetition where none is allowed. -/
def faultOf? (template : Bool) (widths : List (Nat × Nat × Nat)) : Pattern → Option PatternFault
  | .seq p q | .alt p q | .ifGroup _ p q =>
    (faultOf? template widths p).orElse fun _ => faultOf? template widths q
  | .many _ _ greed _ => if template then some (.barredRepeat greed) else none
  | .repetition _ _ greed p =>
    if template then some (.barredRepeat greed) else faultOf? template widths p
  | .group _ p | .ahead _ p | .atomic p => faultOf? template widths p
  | .behind _ width p =>
    if lookbehindBound ≤ width then some .wideLookbehind
    else if (p.width widths).2 ≠ width then some .variableLookbehind
    else faultOf? template widths p
  | _ => none

/-- The pattern that is written in a text or in bytes. -/
def ofWritten (written : WrittenPattern) : Except PatternError Pattern := do
  let pieces := Piece.ofChars written.chars
  let reader : Reader Pattern := do
    checkNext
    let p := whole (choice (← alternatives (6 * pieces.length + 6) true))
    let s ← get
    let other := if written.isText then "UNICODE" else "LOCALE"
    if s.flags.ascii && (s.flags.unicode || s.flags.locale) then
      throw ⟨.contraryFlags other, none⟩
    if s.rest.head?.isSome then fail .unbalanced 0
    match s.conditions.find? fun c => s.groups ≤ c.1 with
    | some (number, position) => throw ⟨.invalidReference number, some position⟩
    | none =>
      match faultOf? s.flags.template s.widths p with
      | some fault => throw ⟨fault, none⟩
      | none => return p.opened s.flags.ascii
  reader.run' { rest := pieces, isText := written.isText }

end Pattern
end TwoWay
