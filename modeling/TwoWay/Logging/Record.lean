import TwoWay.Run
import TwoWay.Settings.Validation

/-!
# Log records

A record has a level, the name of an event, and named values. Inversions log on the
lowest level.
-/

namespace TwoWay

structure LogRecord where
  level : LogLevel
  event : String
  fields : Fields := []

/-- The word for a level in log lines. -/
def LogLevel.word : LogLevel → String
  | .debug => "debug"
  | .info => "info"
  | .warning => "warning"
  | .error => "error"
  | .critical => "critical"

/-- The record of an event of an inversion. -/
def InversionEvent.record : InversionEvent → LogRecord
  | .effectElided kind => ⟨.debug, "effect_elided", [("effect_type", .str kind.text)]⟩
  | .kindPassedThrough kind className =>
    ⟨.debug, "schema_kind_passthrough", [("kind", .str kind), ("schema_class", .str className)]⟩

/-- The records among what happened. -/
def logRecords (events : List Event) : List LogRecord :=
  events.filterMap fun
    | .logged e => some e.record
    | _ => none

/-- The entries that user functions noted. -/
def notes (events : List Event) : List Datum :=
  events.filterMap fun
    | .noted entry => some entry
    | _ => none

end TwoWay
