import TwoWay.Number.Format
import TwoWay.Text.Quoted
import TwoWay.Value.Basic

/-!
# Values in messages

`Value.quoted` writes a value the way messages show it. `Value.text` leaves a plain
text without its quotes.
-/

namespace TwoWay.Value

variable {κ : Type}

/-- A tuple of one item keeps its comma. -/
def tupleText : List String → String
  | [item] => "(" ++ item ++ ",)"
  | items => "(" ++ ", ".intercalate items ++ ")"

/-- The empty set has no braces, which would make a mapping. -/
def setText (readOnly : Bool) (items : List String) : String :=
  let name := if readOnly then "frozenset" else "set"
  if items.isEmpty then name ++ "()"
  else
    let braces := "\x7b" ++ ", ".intercalate items ++ "\x7d"
    if readOnly then name ++ "(" ++ braces ++ ")" else braces

def dictText (access : Access) (entries : List (String × String)) : String :=
  let braces := "\x7b" ++ ", ".intercalate (entries.map fun e => e.1 ++ ": " ++ e.2) ++ "\x7d"
  if access.isReadOnly then "mappingproxy(" ++ braces ++ ")" else braces

mutual

def quoted [Handle κ] : Value κ → String
  | .none => "None"
  | .bool b => if b then "True" else "False"
  | .int i => toString i
  | .float d => d.text
  | .str s => Text.quoted s
  | .bytes bs => Text.quotedBytes bs
  | .list _ items => "[" ++ ", ".intercalate (quotedItems items) ++ "]"
  | .tuple items => tupleText (quotedItems items)
  | .dict access entries => dictText access (quotedEntries entries)
  | .set readOnly items => setText readOnly (quotedItems items)
  | .missing => "<MISSING>"
  | .invalid => "<INVALID>"
  | .live x => "<" ++ Handle.typeName x ++ ">"
  termination_by structural v => v

def quotedItems [Handle κ] : List (Value κ) → List String
  | [] => []
  | x :: rest => quoted x :: quotedItems rest
  termination_by structural xs => xs

def quotedEntries [Handle κ] : List (Value κ × Value κ) → List (String × String)
  | [] => []
  | (k, v) :: rest => (quoted k, quoted v) :: quotedEntries rest
  termination_by structural es => es

end

/-- A plain text as it is, any other value quoted. -/
def text [Handle κ] : Value κ → String
  | .str s => s
  | v => v.quoted

end TwoWay.Value
