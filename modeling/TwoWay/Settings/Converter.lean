import TwoWay.Settings.Failure
import TwoWay.Text.Blank
import TwoWay.Text.Capital

/-!
# Converters

A text may start with a word behind `@` that says what the rest of it stands for: a value of
another type, a text in another form, a template, or a mark for putting it together with what
is there already. A conversion or mark may stand before that of a template.

* `Conversion.apply`: what a conversion makes of a text;
* `Node.ofText`: the node that a text stands for;
* `Node.parsed`: a node with the texts in it read in that way.
-/

namespace TwoWay.Settings

/-- What a word behind `@` does. -/
inductive Converter where
  | convert (c : Conversion)
  | template
  | foreignTemplate
  | replacement
  | removal
  | addition
  | insertion
  | parts
  | nothing
  | mark
  deriving DecidableEq, Repr

namespace Converter

/-- All words and what they do. -/
def words : List (String × Converter) := [
  ("@str", .convert .text), ("@int", .convert .integer), ("@float", .convert .number),
  ("@bool", .convert .flag), ("@json", .convert .json), ("@format", .template),
  ("@jinja", .foreignTemplate), ("@reset", .replacement), ("@del", .removal),
  ("@merge", .addition), ("@merge_unique", .addition), ("@insert", .insertion),
  ("@note", .nothing), ("@comment", .nothing), ("@null", .nothing), ("@none", .nothing),
  ("@empty", .mark), ("@get", .mark), ("@upper", .convert .upper), ("@lower", .convert .lower),
  ("@title", .convert .title), ("@capitalize", .convert .capitalize),
  ("@strip", .convert .strip), ("@lstrip", .convert .stripLeft),
  ("@rstrip", .convert .stripRight), ("@split", .parts), ("@casefold", .convert .fold),
  ("@swapcase", .convert .swap)]

def ofWord? (word : String) : Option Converter := words.lookup word

/-- What follows a word at the start of a text. -/
def after? (word : String) (s : String) : Option (List Char) :=
  if word.toList.isPrefixOf s.toList then some (s.toList.drop word.length) else none

/-- Whether a text starts like a word. -/
def starts (s : String) : Bool := words.any fun w => (after? w.1 s).isSome

/-- A word and the word for a template at the start of a text: what they do and how long they
are. -/
def pair? (s : String) : Option (Converter × Converter × Nat) :=
  words.findSome? fun w => do
    let rest := String.ofList (← after? w.1 s)
    if (after? " @format" rest).isSome then some (w.2, .template, w.1.length + 8)
    else if (after? " @jinja" rest).isSome then some (w.2, .foreignTemplate, w.1.length + 7)
    else none

end Converter

def trimLeft (s : String) : String := String.ofList (s.toList.dropWhile Text.isBlank)

def trimRight (s : String) : String :=
  String.ofList ((s.toList.reverse.dropWhile Text.isBlank).reverse)

def trim (s : String) : String := trimLeft (trimRight s)

namespace Conversion

/-- The words for a flag that is set. -/
def flagWords : List String := ["t", "true", "enabled", "1", "on", "yes"]

/-- What a conversion makes of a text. -/
def apply (c : Conversion) (s : String) : Except LoadFailure Node :=
  match c with
  | .text => .ok (.text s)
  | .integer => ((readInteger s (Text.quoted s)).map Node.int).mapError .fault
  | .number =>
    match Double.ofText? s with
    | some d => .ok (.float d)
    | none => .error (.fault (.unreadableNumber (Text.quoted s)))
  | .flag => .ok (.bool (flagWords.contains (Text.lower s)))
  | .json => (Node.ofJson s).mapError (.json s)
  | .upper => .ok (.text (Text.upper s))
  | .lower => .ok (.text (Text.lower s))
  | .title => .ok (.text (Text.titled s))
  | .capitalize => .ok (.text (Text.capitalized s))
  | .swap => .ok (.text (Text.caseSwapped s))
  | .fold => .ok (.text (Text.folded s))
  | .strip => .ok (.text (trim s))
  | .stripLeft => .ok (.text (trimLeft s))
  | .stripRight => .ok (.text (trimRight s))

end Conversion

/-! ### Additions -/

namespace Addition

/-- The objects in JSON notation within a text, in order. -/
def objects : Nat → List Char → List Node
  | 0, _ => []
  | fuel + 1, cs =>
    match cs.dropWhile (· != '\x7b') with
    | [] => []
    | rest =>
      match Json.readValue (2 * rest.length + 2) rest with
      | .ok (v, after) => v :: objects fuel after
      | .error _ => objects fuel (rest.drop 1)

def inName (c : Char) : Bool := c.isAlphanum || c = ' '

def inValue (c : Char) : Bool := inName c || c = '-' || c = ':'

/-- The pairs of a name and a value with an equals sign in between. -/
def pairs : Nat → List Char → List (List Char × List Char)
  | 0, _ => []
  | fuel + 1, cs =>
    let name := cs.takeWhile inName
    match cs.dropWhile inName with
    | [] => []
    | '=' :: rest =>
      (name, rest.takeWhile inValue) :: pairs fuel (rest.dropWhile inValue)
    | _ :: rest => pairs fuel rest

/-- What a text adds: the entries of an object or of pairs, or the parts between commas. -/
def ofText (read : String → Except LoadFailure Node) (s : String) : Except LoadFailure Node := do
  let cs := s.toList
  match objects (cs.length + 1) cs, pairs (cs.length + 1) cs with
  | [v], _ => return v
  | _, [] => return .list ((s.splitOn ",").map .text)
  | _, ps =>
    let entries ← ps.mapM fun p => do
      -- Blanks count for nothing before the name and behind the value.
      let value ← read (trimRight (String.ofList p.2))
      return (Key.mk (trim (String.ofList p.1)) true, value)
    return .map (entries.foldl (fun es e => Node.put es e.1 e.2) [])

end Addition

namespace Node

mutual

/-- The node that a text stands for, within so many steps. A `literal` is read as one, if no
word stands before it. -/
def readText : Nat → (literal : Bool) → String → Except LoadFailure Node
  | 0, _, s => .ok (.text s)
  | fuel + 1, literal, s =>
    if !Converter.starts s then
      .ok (if literal then (Node.ofLiteral? s).getD (.text s) else .text s)
    else match Converter.pair? s with
      | some (first, kind, length) =>
        let marks := String.ofList (s.toList.take length)
        let body := trim (String.join (s.splitOn marks))
        converted fuel first body (some (kind = .template))
      | none =>
        let word := String.ofList (s.toList.takeWhile (· != ' '))
        let body := String.ofList ((s.toList.dropWhile (· != ' ')).drop 1)
        match Converter.ofWord? word with
        | some c => converted fuel c body none
        | none => .error (.fault (.noEntry (Text.quoted word)))

/-- What a converter makes of the rest of a text. The rest may be a template. -/
def converted : Nat → Converter → String → Option Bool → Except LoadFailure Node
  | 0, _, s, _ => .ok (.text s)
  | fuel + 1, c, s, form =>
    let inner : Except LoadFailure Node :=
      match form with
      | some known => .ok (.template s known [])
      | none => readText fuel true s
    match c with
    | .convert conversion =>
      match form with
      | some known => .ok (.template s known [conversion])
      | none => conversion.apply s
    | .template => .ok (.template s (form.getD true) [])
    | .foreignTemplate => .ok (.template s false [])
    | .replacement => inner.map .replacement
    | .removal => .ok .removal
    | .addition => do
      match ← inner with
      | .text t => return .addition (← Addition.ofText (readText fuel true) t)
      | .bool b => return .addition (.list [.bool b])
      | .int i => return .addition (.list [.int i])
      | .float d => return .addition (.list [.float d])
      | v => return .addition v
    | .insertion => inner.map fun v => .list [v]
    | .parts => .ok (.list ((s.splitOn " ").map .text))
    | .nothing => .ok .null
    | .mark => .ok .mark

end

/-- The node that a text stands for. -/
def ofText (literal : Bool) (s : String) : Except LoadFailure Node :=
  readText (2 * s.length + 2) literal s

mutual

/-- A node with the texts in it read. -/
def parsed : Node → Except LoadFailure Node
  | .text s => ofText false s
  | .list items => (parsedItems items).map .list
  | .map entries => (parsedEntries entries).map .map
  | v => .ok v
  termination_by structural v => v

def parsedItems : List Node → Except LoadFailure (List Node)
  | [] => .ok []
  | v :: rest => do return (← v.parsed) :: (← parsedItems rest)
  termination_by structural vs => vs

def parsedEntries : List (Key × Node) → Except LoadFailure (List (Key × Node))
  | [] => .ok []
  | (k, v) :: rest => do return (k, ← v.parsed) :: (← parsedEntries rest)
  termination_by structural es => es

end
end Node
end TwoWay.Settings
