import TwoWay.Settings.Converter
import TwoWay.Settings.Document
import TwoWay.Settings.Placeholder

/-!
# Templates

A template has fields in braces. A field `env[NAME]` stands for a variable of the environment
and `this.name.name` for a setting; a brace is written twice. Fields are read from left to
right, and the first one that cannot be filled in ends the reading.

* `Template.filled`: the text of a template;
* `Node.filled`: a node with the templates in it filled in.
-/

namespace TwoWay.Settings

namespace Template

/-- A step into a value. -/
inductive Access where
  | attribute (name : String)
  | item (name : String)
  deriving DecidableEq, Repr

/-- The steps of a field behind its first name, within so many. -/
def readAccess : Nat → List Char → Except TemplateFault (List Access)
  | 0, _ => .ok []
  | fuel + 1, cs =>
    match cs with
    | [] => .ok []
    | '[' :: rest =>
      match rest.dropWhile (· != ']') with
      | _ :: more => do
        return .item (String.ofList (rest.takeWhile (· != ']'))) :: (← readAccess fuel more)
      | [] => .error .unclosedItem
    | _ :: rest =>
      let isPart (c : Char) : Bool := c != '.' && c != '['
      let name := rest.takeWhile isPart
      if name.isEmpty then .error .emptyAttribute
      else do
        return .attribute (String.ofList name) :: (← readAccess fuel (rest.dropWhile isPart))

/-- The text of a value inside of another text. -/
def shown : Node → String
  | .text s => s
  | .moment m => m.text
  | .int i => toString i
  | .bool b => if b then "True" else "False"
  | .float d => d.text
  | v => (((Document.partOfKey v).map (·.quoted)).getD "")

/-- An entry whose key is a name in any case. -/
def entry? (entries : List (Key × Node)) (name : String) : Option Node :=
  (entries.find? fun e => e.1.text = name).orElse (fun _ =>
    entries.find? fun e => Text.lower e.1.text = Text.lower name) |>.map (·.2)

/-- The setting that steps lead to. -/
def follow (owner : String) : Node → List Access → Except TemplateFault Node
  | v, [] => .ok v
  | v, step :: rest =>
    match v, step with
    | .map entries, .attribute name =>
      match entry? entries name with
      | some w => follow "DynaBox" w rest
      | none => .error (.absent (Fault.noAttribute owner name).message)
    | .map entries, .item name =>
      match entry? entries name with
      | some w => follow "DynaBox" w rest
      | none => .error (.absent (Text.quoted name))
    | v, .attribute name => .error (.absent (Fault.noAttribute v.typeName name).message)
    | _, .item name => .error (.absent (Text.quoted name))

/-- What a field stands for. -/
def field (env : Environment) (settings : Node) (cs : List Char) :
    Except TemplateFault String := do
  let isName (c : Char) : Bool := c != '.' && c != '['
  let path := cs.takeWhile fun c => c != '!' && c != ':'
  let name := String.ofList (path.takeWhile isName)
  let steps ← readAccess path.length (path.dropWhile isName)
  match name, steps with
  | "env", .item key :: _ =>
    match env.lookup key with
    | some value => return value
    | none => throw (.absent (Text.quoted key))
  | "env", .attribute key :: _ => throw (.absent (Fault.noAttribute "_Environ" key).message)
  | "this", steps => return shown (← follow "Settings" settings steps)
  | name, _ =>
    if name.toList.all Char.isDigit then throw (.counted (digitsValue name.toList))
    else throw (.absent (Text.quoted name))

/-- The text of a template, within so many steps. -/
def fill (env : Environment) (settings : Node) : Nat → List Char →
    Except TemplateFault (List Char)
  | 0, cs => .ok cs
  | fuel + 1, cs =>
    match cs with
    | [] => .ok []
    | '\x7b' :: '\x7b' :: rest => ('\x7b' :: ·) <$> fill env settings fuel rest
    | '\x7d' :: '\x7d' :: rest => ('\x7d' :: ·) <$> fill env settings fuel rest
    | '\x7d' :: _ => .error .loneClosing
    | ['\x7b'] => .error .loneOpening
    | '\x7b' :: rest =>
      match rest.dropWhile (· != '\x7d') with
      | _ :: more => do
        let value ← field env settings (rest.takeWhile (· != '\x7d'))
        return value.toList ++ (← fill env settings fuel more)
      | [] => .error .unclosed
    | c :: rest => (c :: ·) <$> fill env settings fuel rest

/-- The text of a template. -/
def filled (env : Environment) (settings : Node) (s : String) : Except TemplateFault String :=
  (fill env settings (s.length + 1) s.toList).map String.ofList

/-- Conversions one after the other. Texts in single quotes are written in JSON notation in
double ones. -/
def convertAll : List Conversion → String → Except LoadFailure Node
  | [], s => .ok (.text s)
  | .json :: _, s => Conversion.json.apply (s.map fun c => if c = '\'' then '"' else c)
  | c :: _, s => c.apply s

end Template

namespace Node

mutual

/-- A node with the templates in it filled in. -/
def filled (env : Environment) (settings : Node) : Node → Except LoadFailure Node
  | .template s known conversions =>
    if !known then .error (.template .foreign)
    else do
      let text ← (Template.filled env settings s).mapError .template
      Template.convertAll conversions text
  | .list items => (filledItems env settings items).map .list
  | .map entries => (filledEntries env settings entries).map .map
  | v => .ok v
  termination_by structural v => v

def filledItems (env : Environment) (settings : Node) : List Node → Except LoadFailure (List Node)
  | [] => .ok []
  | v :: rest => do return (← filled env settings v) :: (← filledItems env settings rest)
  termination_by structural vs => vs

def filledEntries (env : Environment) (settings : Node) :
    List (Key × Node) → Except LoadFailure (List (Key × Node))
  | [] => .ok []
  | (k, v) :: rest => do return (k, ← filled env settings v) :: (← filledEntries env settings rest)
  termination_by structural es => es

end

mutual

/-- The value that a node is in the end. What has no value of its own counts as none. -/
def datum : Node → Datum
  | .bool b => .bool b
  | .int i => .int i
  | .float d => .float d
  | .text s => .str s
  | .list items => .list .free (data items)
  | .map entries => .dict .free (dataEntries entries)
  | _ => .none
  termination_by structural v => v

def data : List Node → List Datum
  | [] => []
  | v :: rest => v.datum :: data rest
  termination_by structural vs => vs

def dataEntries : List (Key × Node) → List (Datum × Datum)
  | [] => []
  | (k, v) :: rest => (.str k.text, v.datum) :: dataEntries rest
  termination_by structural es => es

end
end Node
end TwoWay.Settings
