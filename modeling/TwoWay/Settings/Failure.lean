import TwoWay.Settings.Json
import TwoWay.Settings.Scalar
import TwoWay.Settings.Validation

/-!
# Failures of loading

Why settings cannot be loaded, and what is said of it.
-/

namespace TwoWay.Settings

/-- What is wrong with a template. -/
inductive TemplateFault where
  | loneOpening
  | loneClosing
  | unclosed
  | emptyAttribute
  | unclosedItem
  /-- A place that is only counted. -/
  | counted (index : Nat)
  /-- What the template asks for is not there. -/
  | absent (reason : String)
  /-- A template of another kind. -/
  | foreign
  deriving DecidableEq, Repr

def TemplateFault.message : TemplateFault → String
  | .loneOpening => "Single '\x7b' encountered in format string"
  | .loneClosing => "Single '\x7d' encountered in format string"
  | .unclosed => "expected '\x7d' before end of string"
  | .emptyAttribute => "Empty attribute in format string"
  | .unclosedItem => "expected '\x7d' before end of string"
  | .counted i => "Replacement index " ++ toString i ++ " out of range for positional args tuple"
  | .absent reason => "Dynaconf can't interpolate variable because " ++ reason
  | .foreign => "jinja2 must be installed to enable '@jinja' settings in dynaconf"

inductive LoadFailure where
  | missing (place : String)
  | unreadable
  /-- A document at a place that breaks the rules of its notation. -/
  | flaw (place : String) (f : Flaw)
  /-- A document that holds something else than named values. -/
  | notNamed (typeName : String)
  | moment (f : MomentFault)
  | fault (f : Fault)
  | json (text : String) (f : JsonFault)
  | template (f : TemplateFault)
  | invalid (errors : List SettingsError)

namespace LoadFailure

def message : LoadFailure → String
  | .missing place => "Config file not found: " ++ place
  | .unreadable => "Config file cannot be read"
  | .flaw place f => f.message place
  | .notNamed t => (Fault.noAttribute t "get").message
  | .moment f => f.message
  | .fault f => f.message
  | .json text f => f.message text
  | .template f => f.message
  | .invalid errors => "\n".intercalate (errors.map (·.fault.message))

def ofDocument (place : String) : DocumentFault → LoadFailure
  | .unreadable => .unreadable
  | .flaw f => .flaw place f
  | .moment f => .moment f
  | .fault f => .fault f

end LoadFailure
end TwoWay.Settings
