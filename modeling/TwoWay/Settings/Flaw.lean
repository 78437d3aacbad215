import TwoWay.Number.Conversion
import TwoWay.Settings.Moment

/-!
# Flaws of documents

Where a document breaks the rules of its notation, and what is said of it: often what was being
read and where it started, then the flaw and where it is. Lines and columns count from one.
-/

namespace TwoWay.Settings

/-- A place in a document, counted from zero. -/
structure Mark where
  line : Nat
  column : Nat
  deriving DecidableEq, Repr, Inhabited

namespace Mark

/-- A mark in the document at a place. -/
def text (place : String) (m : Mark) : String :=
  "  in \"" ++ place ++ "\", line " ++ toString (m.line + 1) ++ ", column " ++
    toString (m.column + 1)

end Mark

/-- What may stand in a document: signs, texts, and the start of lists and mappings in lines. -/
inductive Sign where
  | streamEnd
  | documentStart
  | documentEnd
  | linesStart
  | pairsStart
  | key
  | colon
  | item
  | mark (c : Char)
  | reference
  | anchor
  | tag
  | scalar
  deriving DecidableEq, Repr

def Sign.text : Sign → String
  | .streamEnd => "<stream end>"
  | .documentStart => "<document start>"
  | .documentEnd => "<document end>"
  | .linesStart => "<block sequence start>"
  | .pairsStart => "<block mapping start>"
  | .key => "?"
  | .colon => ":"
  | .item => "-"
  | .mark c => c.toString
  | .reference => "<alias>"
  | .anchor => "<anchor>"
  | .tag => "<tag>"
  | .scalar => "<scalar>"

/-- The stages of reading, each of which finds flaws of its own. -/
inductive Stage where
  | characters
  | signs
  | grouping
  | nodes
  | values
  deriving DecidableEq, Repr

/-- A list or mapping, in brackets or in lines. -/
inductive Collection where
  | list
  | table
  | lines
  | pairs
  deriving DecidableEq, Repr

namespace Collection

/-- What is being read. -/
def context : Collection → String
  | .list => "while parsing a flow sequence"
  | .table => "while parsing a flow mapping"
  | .lines => "while parsing a block collection"
  | .pairs => "while parsing a block mapping"

/-- What should have followed. -/
def expected : Collection → String
  | .list => "expected ',' or ']', but got "
  | .table => "expected ',' or '\x7d', but got "
  | .lines | .pairs => "expected <block end>, but found "

end Collection

inductive Flaw where
  /-- A character that stands in no document. -/
  | unprintable (code position : Nat)
  | stray (c : Char) (place : Mark)
  | valueHere (place : Mark)
  | itemHere (place : Mark)
  | keyHere (place : Mark)
  | keyAlone (start place : Mark)
  | openText (start place : Mark)
  | badEscape (c : Char) (start place : Mark)
  | noName (what : String) (found : String) (start place : Mark)
  | badCode (width : Nat) (found : String) (start place : Mark)
  | unfinished (what : Collection) (start : Mark) (found : Sign) (place : Mark)
  | noContent (inBrackets : Bool) (found : Sign) (start place : Mark)
  | noDocument (found : Sign) (place : Mark)
  | secondDocument (start place : Mark)
  | unknownAnchor (name : String) (place : Mark)
  | unknownTag (tag : String) (place : Mark)
  | wrongKind (expected found : String) (place : Mark)
  | badKey (start place : Mark)
  | badOthers (found : String) (start place : Mark)
  deriving DecidableEq, Repr

namespace Flaw

def stage : Flaw → Stage
  | .unprintable .. => .characters
  | .stray .. | .valueHere _ | .itemHere _ | .keyHere _ | .keyAlone .. | .openText ..
  | .badEscape .. | .badCode .. | .noName .. => .signs
  | .unfinished .. | .noContent .. | .noDocument .. => .grouping
  | .secondDocument .. | .unknownAnchor .. => .nodes
  | .unknownTag .. | .wrongKind .. | .badKey .. | .badOthers .. => .values

/-- What was being read and where it started, if that is said. -/
def context? : Flaw → Option (String × Option Mark)
  | .stray .. => some ("while scanning for the next token", none)
  | .keyAlone start _ => some ("while scanning a simple key", some start)
  | .openText start _ => some ("while scanning a quoted scalar", some start)
  | .badEscape _ start _ | .badCode _ _ start _ =>
    some ("while scanning a double-quoted scalar", some start)
  | .noName what _ start _ => some ("while scanning an " ++ what, some start)
  | .unfinished what start _ _ => some (what.context, some start)
  | .noContent inBrackets _ start _ =>
    some (if inBrackets then "while parsing a flow node" else "while parsing a block node",
      some start)
  | .secondDocument start _ => some ("expected a single document in the stream", some start)
  | .badKey start _ | .badOthers _ start _ => some ("while constructing a mapping", some start)
  | _ => none

def problem : Flaw → String
  | .unprintable code _ =>
    "unacceptable character #x" ++ Text.hexadecimal 4 code ++
      ": special characters are not allowed"
  | .stray c _ =>
    "found character " ++ Text.quoted c.toString ++ " that cannot start any token"
  | .valueHere _ => "mapping values are not allowed here"
  | .itemHere _ => "sequence entries are not allowed here"
  | .keyHere _ => "mapping keys are not allowed here"
  | .keyAlone .. => "could not find expected ':'"
  | .openText .. => "found unexpected end of stream"
  | .badEscape c _ _ => "found unknown escape character " ++ Text.quoted c.toString
  | .badCode width found _ _ =>
    "expected escape sequence of " ++ toString width ++ " hexdecimal numbers, but found " ++
      Text.quoted found
  | .noName _ found _ _ =>
    "expected alphabetic or numeric character, but found " ++ Text.quoted found
  | .unfinished what _ found _ => what.expected ++ Text.quoted found.text
  | .noContent _ found _ _ =>
    "expected the node content, but found " ++ Text.quoted found.text
  | .noDocument found _ =>
    "expected '<document start>', but found " ++ Text.quoted found.text
  | .secondDocument .. => "but found another document"
  | .unknownAnchor name _ => "found undefined alias " ++ Text.quoted name
  | .unknownTag tag _ =>
    "could not determine a constructor for the tag " ++ Text.quoted tag
  | .wrongKind expected found _ => "expected a " ++ expected ++ " node, but found " ++ found
  | .badKey .. => "found unhashable key"
  | .badOthers found _ _ =>
    "expected a mapping or list of mappings for merging, but found " ++ found

def place : Flaw → Mark
  | .unprintable .. => default
  | .stray _ p | .valueHere p | .itemHere p | .keyHere p | .keyAlone _ p | .openText _ p
  | .badEscape _ _ p | .badCode _ _ _ p | .unfinished _ _ _ p | .noContent _ _ _ p
  | .noDocument _ p | .secondDocument _ p | .unknownAnchor _ p | .unknownTag _ p
  | .noName _ _ _ p | .wrongKind _ _ p | .badKey _ p | .badOthers _ _ p => p

/-- What is said of a flaw of the document at a place. Where both marks are one it is given
once. -/
def message (document : String) (f : Flaw) : String :=
  match f with
  | .unprintable _ position =>
    f.problem ++ "\n  in \"" ++ document ++ "\", position " ++ toString position
  | f =>
    let context := match f.context? with
      | some (what, some start) =>
        if start = f.place then [what] else [what, start.text document]
      | some (what, none) => [what]
      | none => []
    "\n".intercalate (context ++ [f.problem, f.place.text document])

end Flaw

/-- Why a document cannot be read. -/
inductive DocumentFault where
  | unreadable
  | flaw (f : Flaw)
  | moment (f : MomentFault)
  | fault (f : Fault)
  deriving DecidableEq, Repr

end TwoWay.Settings
