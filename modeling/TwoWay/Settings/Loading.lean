import TwoWay.Settings.Document
import TwoWay.Settings.Layer
import TwoWay.Settings.Template

/-!
# Loading settings

Settings come from a document. Variables of the environment override what it says: those whose
names start with `DYNACONF_` and after them those that start with `INVERTIBLE_`. The rest of the
name leads through the sections, which double underscores part. The case of keys does not matter.
Templates and placeholders are filled in at last, before the settings are read.
-/

namespace TwoWay.Settings

/-- What the names of overriding variables start with, in the order they are written. -/
def overrideMarks : List String := ["DYNACONF_", "INVERTIBLE_"]

/-- The key that a variable overrides, if its name starts with a mark. -/
def overrideKey? (mark name : String) : Option Key :=
  if mark.toList.isPrefixOf name.toList then
    some ⟨String.ofList (name.toList.drop mark.length), true⟩
  else none

/-- The value of an overriding variable. Truth values may start with a capital. -/
def overrideValue (text : String) : Except LoadFailure Node :=
  Node.ofText true (if ["True", "False"].contains (trim text) then Text.lower text else text)

/-- Settings with the overrides that start with a mark. -/
def override (env : Environment) (store : Layer.Settled) (mark : String) :
    Except LoadFailure Layer.Settled := do
  let written ← (env.filterMap fun e => (overrideKey? mark e.1).map fun k => (k, e.2)).mapM
    fun e => return (e.1, ← overrideValue e.2)
  Layer.writeAll store written

/-- The named values of a document. One with nothing in it has none. -/
def documentEntries (v : Node) : Except LoadFailure (List (Key × Node)) :=
  match v with
  | .map es => .ok (es.filter fun e => e.1 != ⟨"dynaconf_merge", true⟩)
  | v => if v.isVacant then .ok [] else .error (.notNamed v.typeName)

/-- Names that say how to load and are no settings. -/
def loadingNames : List String := ["LOAD_DOTENV", "ENVIRONMENTS", "SETTINGS_FILES"]

/-- The named values of a document after overrides, templates and placeholders. -/
def documentFields (env : Environment) (document : Node) : Except LoadFailure Fields := do
  let store ← Layer.writeAll [] (← documentEntries document)
  let store ← overrideMarks.foldlM (override env) store
  let filled ← (Node.map store).filled env (.map store)
  let own := filled.entries.filter fun e => !(e.1.isText && loadingNames.contains e.1.text)
  match expand env (lowerKeys (Node.map own).datum) with
  | .dict _ entries => return entries.map fun e => (e.1.text, e.2)
  | _ => return []

/-- Settings from the document at a place, if there is one, and an environment. -/
def load (place : String) (text : Option String) (env : Environment) :
    Except LoadFailure Settings := do
  let some text := text | throw (.missing place)
  let document ← (Node.ofDocument text).mapError (.ofDocument place)
  (ofFields (← documentFields env document)).mapError .invalid

end TwoWay.Settings
