import TwoWay.Number.Format
import TwoWay.Settings.Cursor
import TwoWay.Value.Quoted

/-!
# Settings documents

A document is a node written in blocks: a line `name: value` is an entry of a mapping and a line
`- value` an item of a list, and what belongs to either is set in farther. Lists and mappings
may also stand in brackets and braces. A name behind `&` is an anchor, which `*` refers to; a
word behind `!` is a tag. The key `<<` takes over the entries of another mapping.

A flaw ends the reading where it is found. What is wrong with values only shows in a document
without flaws.
-/

namespace TwoWay.Settings

/-- The state of reading: the place in the document, the nodes that have an anchor, and the first
thing that is wrong with a value. -/
structure Reading where
  cursor : Cursor
  edition : Edition := .second
  anchors : List (String × Node) := []
  wrong : Option DocumentFault := none

namespace Document

abbrev Reader := StateT Reading (Except DocumentFault)

/-- What stands before a node, and where it starts. -/
structure Properties where
  start : Mark
  anchor : Option String := none
  tag : Option String := none

def fail {α : Type} (f : Flaw) : Reader α := throw (.flaw f)

def here : Reader Cursor := return (← get).cursor

def goTo (c : Cursor) : Reader Unit := modify fun r => { r with cursor := c }

def skip (n : Nat) : Reader Unit := modify fun r => { r with cursor := r.cursor.drop n }

/-- Notes what is wrong with a value, if nothing was before. -/
def note (f : DocumentFault) : Reader Unit :=
  modify fun r => { r with wrong := r.wrong.orElse fun _ => some f }

/-- A value, or nothing in its place if something is wrong with it. -/
def valueOf (v : Except DocumentFault Node) : Reader Node := do
  match v with
  | .ok v => return v
  | .error f => do
    note f
    return .null

/-- Goes to the next sign. -/
def toSign : Reader Cursor := do
  let c := (← here).toSign
  goTo c
  return c

/-- The name that starts behind the sign at the place. -/
def readName (isPart : Char → Bool) : Reader String := do
  let name := ((← here).rest.drop 1).takeWhile isPart
  skip (name.length + 1)
  return String.ofList name

/-- The characters of names of anchors. -/
def inAnchor (c : Char) : Bool := !isEnd (some c) && !Plain.isBracketSign c

/-- The name of an anchor behind its sign. -/
def readAnchor (what : String) : Reader String := do
  let start ← here
  let name ← readName inAnchor
  let behind := start.drop 1
  if name.isEmpty then
    fail (.noName what (behind.next?.getD '\x00').toString start.mark behind.mark)
  else return name

/-- The characters of tags. -/
def inTag (c : Char) : Bool := !isEnd (some c) && c != ',' && c != '\x7d' && c != ']'

/-- What the tags of the notation itself start with when written in full. -/
def ownTags : String := "tag:yaml.org,2002:"

/-- A tag in full. The tag without a name is empty. -/
def fullTag (tag : String) : String :=
  if tag.startsWith "!" then ownTags ++ (tag.drop 1).toString
  else if tag.isEmpty then "" else "!" ++ tag

/-- An anchor and a tag, in any order. -/
def readProperties (acrossLines : Bool) : Nat → Properties → Reader Properties
  | 0, p => return p
  | fuel + 1, p => do
    let p' : Option Properties ← match (← here).next? with
      | some '&' => pure (some { p with anchor := some (← readAnchor "anchor") })
      | some '!' => pure (some { p with tag := some (fullTag (← readName inTag)) })
      | _ => pure none
    match p' with
    | none => return p
    | some p =>
      let c ← here
      goTo (if acrossLines then c.toSign else c.skipSpaces)
      readProperties acrossLines fuel p

/-- The properties at a place. -/
def propertiesHere (acrossLines : Bool) : Reader Properties := do
  readProperties acrossLines 2 { start := (← here).mark }

/-- Notes a node under its anchor. -/
def anchored (p : Properties) (v : Node) : Reader Node := do
  match p.anchor with
  | some name => modify fun r => { r with anchors := (name, v) :: r.anchors }
  | none => pure ()
  return v

/-- The word for a node in what is said of it. -/
def kindOf : Node → String
  | .list _ => "sequence"
  | .map _ => "mapping"
  | _ => "scalar"

/-- What is wrong with a tag that a node cannot have. -/
def wrongTag (p : Properties) (tag found : String) : Flaw :=
  let scalarTags := ["str", "null", "int", "float", "bool", "timestamp", "binary"].map (ownTags ++ ·)
  if tag = ownTags ++ "map" then .wrongKind "mapping" found p.start
  else if tag = ownTags ++ "seq" then .wrongKind "sequence" found p.start
  else if scalarTags.contains tag then .wrongKind "scalar" found p.start
  else .unknownTag tag p.start

/-- The value of a text that is written with or without quotes. -/
def scalar (p : Properties) (plain : Bool) (text : List Char) : Reader Node := do
  let edition := (← get).edition
  let s := String.ofList text
  let ofWord : Reader Node :=
    if s = "<<" then valueOf (.error (.flaw (.unknownTag (ownTags ++ "merge") p.start)))
    else if s = "=" then valueOf (.error (.flaw (.unknownTag (ownTags ++ "value") p.start)))
    else valueOf (Node.ofWord edition s)
  let v ← match p.tag with
    | none => if plain then ofWord else pure (.text s)
    | some "" => ofWord
    | some tag =>
      if tag.startsWith ownTags && Node.isTag (tag.drop ownTags.length).toString then
        valueOf (Node.ofTagged edition (tag.drop ownTags.length).toString s)
      else valueOf (.error (.flaw (wrongTag p tag "scalar")))
  anchored p v

/-- A list or a mapping has no tag but its own. -/
def collection (p : Properties) (tag : String) (v : Node) : Reader Node := do
  match p.tag with
  | none | some "" => anchored p v
  | some t =>
    if t = ownTags ++ tag then anchored p v
    else anchored p (← valueOf (.error (.flaw (wrongTag p t (kindOf v)))))

/-- The node that an anchor stands for. -/
def readAlias : Reader Node := do
  let start ← here
  let name ← readAnchor "alias"
  match (← get).anchors.lookup name with
  | some v => return v
  | none => fail (.unknownAnchor name start.mark)

def readQuoted (p : Properties) : Reader Node := do
  match Quoted.read (← here) with
  | .ok (text, c) =>
    goTo c
    scalar p false text
  | .error f => fail f

/-- The sign at a place. `fresh` says whether lists and mappings in lines may start there. -/
def signAt (fresh : Bool) (c : Cursor) : Except Flaw Sign :=
  if c.column = 0 && isBorder c.rest then
    .ok (if c.next? = some '-' then .documentStart else .documentEnd)
  else match c.rest with
    | [] => .ok .streamEnd
    | d :: rest =>
      let alone := isEnd rest.head?
      if Plain.isBracketSign d then .ok (.mark d)
      else if d = '-' && alone then if fresh then .ok .linesStart else .error (.itemHere c.mark)
      else if d = '?' && alone then if fresh then .ok .pairsStart else .error (.keyHere c.mark)
      else if d = ':' && alone then if fresh then .ok .pairsStart else .error (.valueHere c.mark)
      else if d = '*' then .ok .reference
      else if d = '&' then .ok .anchor
      else if d = '!' then .ok .tag
      else if ['\'', '"', '|', '>'].contains d then .ok .scalar
      else if Plain.startsHere false c.rest then .ok .scalar
      else .error (.stray d c.mark)

/-- The sign at a place in brackets. -/
def signInBrackets (c : Cursor) : Except Flaw Sign :=
  match c.rest with
  | d :: rest =>
    if ['|', '>'].contains d then .error (.stray d c.mark)
    else if d = '-' && isEnd rest.head? && !isBorder c.rest then .ok .item
    else if d = '?' && isEnd rest.head? then .ok .key
    else if d = ':' then .ok .colon
    else signAt true c
  | [] => .ok .streamEnd

/-- Fails at a sign that should not be there. -/
def refuse {α : Type} (sign : Except Flaw Sign) (flaw : Sign → Flaw) : Reader α :=
  match sign with
  | .error f => fail f
  | .ok s => fail (flaw s)

def readPlain (p : Properties) (inBrackets : Bool) (floor : Nat) : Reader Node := do
  let c ← here
  if !Plain.startsHere inBrackets c.rest then
    let sign := if inBrackets then signInBrackets c else signAt false c
    refuse sign fun s => .noContent inBrackets s p.start c.mark
  else
    let (text, d) := Plain.read inBrackets floor c
    goTo d
    scalar p true text

/-! ### Mappings -/

mutual

/-- A node as a part of a key. -/
def partOfKey : Node → Option Datum
  | .null => some .none
  | .bool b => some (.bool b)
  | .int i => some (.int i)
  | .float d => some (.float d)
  | .text s => some (.str s)
  | .list items => (partsOfKey items).map .tuple
  | _ => none

def partsOfKey : List Node → Option (List Datum)
  | [] => some []
  | v :: rest => do return (← partOfKey v) :: (← partsOfKey rest)

end

/-- The key that a node is. Mappings are none. -/
def keyOf? (v : Node) : Option Key :=
  match v with
  | .text s => some ⟨s, true⟩
  | .moment m => some ⟨m.text, false⟩
  | v => (partOfKey v).map fun d => ⟨d.quoted, false⟩

/-- What stands before the colon of an entry: a node, or the sign that takes over the entries of
other mappings. -/
inductive Heading where
  | node (v : Node)
  | takeOver

/-- An entry as it is written, and where its key and its value start. -/
structure Entry where
  heading : Heading
  keyMark : Mark
  value : Node
  valueMark : Mark

/-- What a word in front of a colon stands for, if it is a sign. -/
def headingOfSign? (source : List Char) : Option Heading :=
  match source with
  | ['<', '<'] => some .takeOver
  | ['='] => some (.node (.text "="))
  | _ => none

/-- The entries that a value hands over. -/
def handedOver : Node → Option (List (Key × Node))
  | .map es => some es
  | .list items => do
    let maps ← items.reverse.mapM fun
      | .map es => some es
      | _ => none
    return maps.flatten
  | _ => none

/-- The entries of a mapping under their keys. -/
def keyed (start : Mark) : List Entry → Reader (List (Key × Node))
  | [] => return []
  | e :: rest => do
    let others ← keyed start rest
    match e.heading with
    | .takeOver => return others
    | .node v =>
      match keyOf? v with
      | some k => return (k, e.value) :: others
      | none => do
        note (.flaw (.badKey start e.keyMark))
        return others

/-- The mapping of entries as they are written. Without others to take over, no key may stand
there twice. -/
def mapping (start : Mark) (entries : List Entry) : Reader Node := do
  let own ← keyed start entries
  let written (es : List (Key × Node)) : List (Key × Node) :=
    es.foldl (fun es e => Node.put es e.1 e.2) []
  let others := entries.filter fun e =>
    match e.heading with
    | .takeOver => true
    | .node _ => false
  match others with
  | [] => valueOf (if (written own).length = own.length then .ok (.map own) else .error .unreadable)
  | [e] =>
    match handedOver e.value with
    | some es => return .map (written (es ++ own))
    | none => valueOf (.error (.flaw (.badOthers (kindOf e.value) start e.valueMark)))
  | _ => valueOf (.error .unreadable)

/-! ### Nodes in brackets -/

/-- Whether the value of an entry follows. In lists a blank stands behind the colon. -/
def atColon (inList : Bool) (c : Cursor) : Bool :=
  c.next? = some ':' && (!inList || isEnd (c.rest.drop 1).head?)

mutual

/-- A node in brackets, within so many steps. Before the signs of `ends` there may be none. -/
def readPiece : Nat → (ends : List Char) → Reader Node
  | 0, _ => throw .unreadable
  | fuel + 1, ends => do
    let start ← here
    let p ← propertiesHere true
    let c ← here
    match c.next? with
    | some d =>
      let empty := ends.contains d || (p.anchor.isSome || p.tag.isSome) && Plain.isBracketSign d
        && d != '[' && d != '\x7b'
      if empty then scalar p true []
      else if Plain.isBracketSign d && d != '[' && d != '\x7b' then
        fail (.noContent true (.mark d) start.mark c.mark)
      else readBare p fuel
    | none => fail (.noContent true .streamEnd start.mark c.mark)

/-- A node in brackets behind its properties. -/
def readBare (p : Properties) : Nat → Reader Node
  | 0 => throw .unreadable
  | fuel + 1 => do
    let c ← here
    match c.next? with
    | some '*' => readAlias
    | some '"' | some '\'' => readQuoted p
    | some '[' => do
      skip 1
      let items ← readItems c.mark fuel
      collection p "seq" (.list items)
    | some '\x7b' => do
      skip 1
      let entries ← readEntries c.mark fuel
      collection p "map" (← mapping p.start entries)
    | _ => readPlain p true 0

/-- What stands before a colon in brackets. -/
def readHeading : Nat → Reader Heading
  | 0 => throw .unreadable
  | fuel + 1 => do
    let start ← here
    let source := start.rest.takeWhile fun c => !isEnd (some c) && c != ':' && c != ','
    match headingOfSign? source with
    | some heading => do
      skip source.length
      return heading
    | none => return .node (← readPiece fuel [])

/-- Items up to the closing bracket of a list that starts at a mark. -/
def readItems (start : Mark) : Nat → Reader (List Node)
  | 0 => throw .unreadable
  | fuel + 1 => do
    let c ← toSign
    if c.next? = some ']' then
      skip 1
      return []
    else
      let single := c.atSign '?'
      if single then skip 1
      let k ← toSign
      let heading : Heading ←
        if atColon true k then pure (.node .null) else readHeading fuel
      let d ← toSign
      let item : Node ←
        if atColon true d then do
          skip 1
          let e ← toSign
          let v ← readPiece fuel [',', ']']
          mapping k.mark [⟨heading, k.mark, v, e.mark⟩]
        else if single then mapping k.mark [⟨heading, k.mark, .null, d.mark⟩]
        else match heading with
          | .node v => pure v
          | .takeOver => scalar { start := k.mark } true ['<', '<']
      let e ← toSign
      match e.next? with
      | some ',' => do
        skip 1
        return item :: (← readItems start fuel)
      | some ']' => do
        skip 1
        return [item]
      | _ => refuse (signInBrackets e) fun s => .unfinished .list start s e.mark

/-- Entries up to the closing brace of a mapping that starts at a mark. -/
def readEntries (start : Mark) : Nat → Reader (List Entry)
  | 0 => throw .unreadable
  | fuel + 1 => do
    let c ← toSign
    if c.next? = some '\x7d' then
      skip 1
      return []
    else
      if c.atSign '?' then skip 1
      let k ← toSign
      let heading : Heading ←
        if atColon false k && !Plain.startsHere true k.rest then pure (.node .null)
        else readHeading fuel
      let d ← toSign
      let entry : Entry ←
        if atColon false d then do
          skip 1
          let e ← toSign
          let v ← readPiece fuel [',', '\x7d']
          pure ⟨heading, k.mark, v, e.mark⟩
        else pure ⟨heading, k.mark, .null, d.mark⟩
      let e ← toSign
      match e.next? with
      | some ',' => do
        skip 1
        return entry :: (← readEntries start fuel)
      | some '\x7d' => do
        skip 1
        return [entry]
      | _ => refuse (signInBrackets e) fun s => .unfinished .table start s e.mark

end

/-! ### Nodes in blocks -/

/-- Reads if it can be read and otherwise stays where it is. -/
def attempt {α : Type} (read : Reader α) : Reader (Option α) := fun r =>
  match read r with
  | .ok (a, r) => .ok (some a, r)
  | .error _ => .ok (none, r)

/-- A key on one line and the colon behind it, if there is one. -/
def readKey? (floor : Nat) (fuel : Nat) : Reader (Option Heading) := do
  let start ← get
  let c := start.cursor
  let read : Reader Heading := do
    let p ← propertiesHere false
    match (← here).next? with
    | some '*' => .node <$> readAlias
    | some '"' | some '\'' => .node <$> readQuoted p
    | some '[' | some '\x7b' => .node <$> readBare p fuel
    | _ => do
      let c ← here
      let (text, d) := Plain.read false floor c
      match headingOfSign? text with
      | some heading => do
        goTo d
        return heading
      | none => .node <$> readPlain p false floor
  match ← attempt read with
  | none => return none
  | some heading =>
    let d := (← here).skipSpaces
    if d.line = c.line && d.atSign ':' && d.rest.length + 1024 ≥ c.rest.length then
      goTo (d.drop 1)
      return some heading
    else
      set start
      return none

/-- The place behind a text or the start of another node. -/
def behindText (floor : Nat) (c : Cursor) : Cursor :=
  match c.next? with
  | some '"' | some '\'' =>
    match Quoted.read c with
    | .ok (_, d) => d
    | .error _ => c
  | _ =>
    if Plain.startsHere false c.rest then (Plain.read false floor c).2 else c

/-- Fails at a line of a mapping that has no key. -/
def refuseLine {α : Type} (start : Mark) (floor : Nat) : Reader α := do
  let c ← here
  match signAt true c with
  | .error f => fail f
  | .ok .linesStart => fail (.unfinished .pairs start .item c.mark)
  | .ok (.mark d) =>
    if d = '[' || d = '\x7b' then fail (.keyAlone c.mark c.toSignBelow.mark)
    else fail (.unfinished .pairs start (.mark d) c.mark)
  | .ok s =>
    if c.next? = some '|' || c.next? = some '>' then
      fail (.unfinished .pairs start s c.mark)
    else
      -- A text in quotes that does not end is the first flaw.
      match c.next?, Quoted.read c with
      | some '"', .error f | some '\'', .error f => fail f
      | _, _ =>
        let d := behindText floor c
        let e := d.toSign
        fail (.keyAlone c.mark (if c.line < e.line then e else c.toSignBelow).mark)

/-- The sign of a line that is set in too far, or of what follows a value on its line. -/
def signBehind (fuel : Nat) : Reader (Except Flaw Sign) := do
  let r ← get
  let fresh := r.cursor.leading
  let sign := signAt fresh r.cursor
  if fresh && sign.toOption != some .linesStart then
    match ← readKey? (r.cursor.column + 1) fuel with
    | some _ => return .ok .pairsStart
    | none => return sign
  else return sign

mutual

/-- A node whose lines stand at column `floor` or behind it, within so many steps. `fresh` says
whether a mapping or list in lines may start here, `level` whether the items of a list may stand
one column before. -/
def readBlock : Nat → (floor : Nat) → (fresh level : Bool) → Reader Node
  | 0, _, _, _ => throw .unreadable
  | fuel + 1, floor, fresh, level => do
    let c ← here
    match ← if fresh then readFresh fuel floor level { start := c.mark } else pure none with
    | some v => return v
    | none =>
      let p ← if c.atEnd || c.column < floor then pure { start := c.mark }
        else propertiesHere true
      let d ← here
      match ← if c.line < d.line then readFresh fuel floor level p else pure none with
      | some v => return v
      | none =>
        if d.atEnd || d.column < floor then scalar p true []
        else match d.next? with
          | some '|' | some '>' =>
            match Block.read? floor d with
            | some (text, e) => do
              goTo e
              scalar p false text
            | none => throw .unreadable
          | some '*' => readAlias
          | some '"' | some '\'' => readQuoted p
          | some '[' | some '\x7b' => readBare p fuel
          | _ => readPlain p false floor

/-- A list or mapping in lines, if one starts here. -/
def readFresh : Nat → (floor : Nat) → (level : Bool) → Properties → Reader (Option Node)
  | 0, _, _, _ => throw .unreadable
  | fuel + 1, floor, level, p => do
    let c ← here
    if c.atEnd then return none
    else if c.atSign '-' && (floor ≤ c.column || (level && floor = c.column + 1)) then
      let items ← readLines fuel c.mark (floor ≤ c.column)
      return some (← collection p "seq" (.list items))
    else if c.column < floor then return none
    else if c.atSign '?' || c.atSign ':' then
      let entries ← readPairs fuel c.mark none
      return some (← collection p "map" (← mapping p.start entries))
    else match ← readKey? floor fuel with
      | some heading => do
        let entries ← readPairs fuel c.mark (some heading)
        return some (← collection p "map" (← mapping p.start entries))
      | none => return none

/-- The items of a list whose signs stand in the column of a mark. `own` says whether the column
belongs to the list alone. -/
def readLines : Nat → (start : Mark) → (own : Bool) → Reader (List Node)
  | 0, _, _ => throw .unreadable
  | fuel + 1, start, own => do
    skip 1
    let c ← toSign
    let v : Node ←
      if c.atEnd || c.column ≤ start.column then pure .null
      else readBlock fuel (start.column + 1) true false
    let d ← toSign
    if d.atEnd || d.column < start.column then return [v]
    else if d.column = start.column then
      if d.atSign '-' then return v :: (← readLines fuel start own)
      else if !own then return [v]
      else
        match ← readKey? (start.column + 1) fuel with
        | some _ => fail (.unfinished .lines start .key d.mark)
        | none => refuseLine start (start.column + 1)
    else
      refuse (← signBehind fuel) fun s => .unfinished .lines start s d.mark

/-- The entries of a mapping whose keys stand in the column of a mark. The first key may be
known. -/
def readPairs : Nat → (start : Mark) → Option Heading → Reader (List Entry)
  | 0, _, _ => throw .unreadable
  | fuel + 1, start, known => do
    let c ← here
    let column := start.column
    let entry : Entry ← match known with
      | some heading => readAfterColon fuel column start heading
      | none =>
        if c.atSign '?' then do
          skip 1
          let k ← toSign
          let key : Node ←
            if k.atEnd || k.column ≤ column then pure .null
            else readBlock fuel (column + 1) true false
          let d ← toSign
          if !d.atEnd && d.column = column && d.atSign ':' then do
            skip 1
            let e ← toSign
            let v : Node ←
              if e.atEnd || e.column < column then pure .null
              else readBlock fuel (column + 1) true true
            pure ⟨.node key, k.mark, v, e.mark⟩
          else pure ⟨.node key, k.mark, .null, d.mark⟩
        else if c.atSign ':' then do
          skip 1
          readAfterColon fuel column c.mark (.node .null)
        else do
          match ← readKey? (column + 1) fuel with
          | some heading => readAfterColon fuel column c.mark heading
          | none => refuseLine start (column + 1)
    let d ← toSign
    if d.atEnd || d.column < column then return [entry]
    else if d.column = column then return entry :: (← readPairs fuel start none)
    else
      refuse (← signBehind fuel) fun s => .unfinished .pairs start s d.mark

/-- The entry of a key that starts at a mark, behind its colon. -/
def readAfterColon : Nat → (column : Nat) → (key : Mark) → Heading → Reader Entry
  | 0, _, _, _ => throw .unreadable
  | fuel + 1, column, key, heading => do
    let c ← toSign
    let v ← readBlock fuel (column + 1) (key.line < c.line) true
    return ⟨heading, key, v, c.mark⟩

end

/-! ### Documents -/

/-- The characters of a document, with one way to end lines and without the mark that texts
may start with. -/
def characters (cs : List Char) : List Char :=
  match cs with
  | '\ufeff' :: rest => oneEnding rest
  | cs => oneEnding cs
where
  oneEnding : List Char → List Char
    | '\r' :: '\n' :: rest => '\n' :: oneEnding rest
    | '\r' :: rest => '\n' :: oneEnding rest
    | c :: rest => c :: oneEnding rest
    | [] => []

/-- Whether a character may stand in a document. -/
def isPrintable (c : Char) : Bool :=
  c = '\t' || c = '\n' || c = '\r' || (' ' ≤ c && c ≤ '~') || c = '\u0085' ||
    (0xa0 ≤ c.val && c.val ≤ 0xfffd) || 0x10000 ≤ c.val

/-- The edition that the lines before a document name, and the place behind them. -/
def readDirectives : Nat → Edition → Cursor → Edition × Cursor
  | 0, edition, c => (edition, c)
  | fuel + 1, edition, c =>
    let c := c.toSign
    if c.column = 0 && c.next? = some '%' then
      let line := c.rest.takeWhile (· != '\n')
      let words := ((String.ofList line).splitOn " ").filter (!·.isEmpty)
      let edition := if words.take 2 = ["%YAML", "1.1"] then .first else edition
      readDirectives fuel edition (c.drop line.length)
    else (edition, c)

/-- The node of the only document of a text. -/
def readDocument (fuel : Nat) : Reader Node := do
  let (edition, c) := readDirectives fuel .second (← here)
  modify fun r => { r with edition }
  let marked := c.column = 0 && ['-', '-', '-'].isPrefixOf c.rest && isBorder c.rest
  goTo (if marked then c.drop 3 else c)
  let behind ← here
  let d ← toSign
  let v : Node ←
    if d.atEnd then pure .null else readBlock fuel 0 (!marked || c.line < d.line) false
  let e ← toSign
  if e.rest.isEmpty then return v
  else
    let ended := e.column = 0 && e.next? = some '.' && isBorder e.rest
    if ended then skip 3
    let f ← toSign
    if f.rest.isEmpty then return v
    else if f.column = 0 && f.next? = some '-' && isBorder f.rest then
      fail (.secondDocument (if d.atEnd then behind else d).mark f.mark)
    else
      refuse (← signBehind fuel) fun s => .noDocument s f.mark

end Document

/-- The node that a document holds. -/
def Node.ofDocument (s : String) : Except DocumentFault Node :=
  let cs := Document.characters s.toList
  match cs.findIdx? (!Document.isPrintable ·) with
  | some i => .error (.flaw (.unprintable ((cs[i]?).map Char.toNat |>.getD 0) i))
  | none => do
    let (v, r) ← Document.readDocument (6 * cs.length + 10) { cursor := { rest := cs } }
    match r.wrong with
    | some f => throw f
    | none => return v

end TwoWay.Settings
