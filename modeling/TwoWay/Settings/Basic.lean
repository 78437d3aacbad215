/-!
# Settings

How inversion treats nodes that it does not know, and how log lines are written.
-/

namespace TwoWay

/-- What inversion does with nodes of a kind it does not know: leave them as they are,
like leaves, or fail. -/
inductive UnknownKindPolicy where
  | passthrough
  | error
  deriving DecidableEq, Repr, Inhabited

structure InversionSettings where
  unknownKind : UnknownKindPolicy := .passthrough
  /-- Whether every dropped effect is logged. -/
  logElisions : Bool := false
  deriving DecidableEq, Repr, Inhabited

/-- The levels of log records, in ascending order. -/
inductive LogLevel where
  | debug
  | info
  | warning
  | error
  | critical
  deriving DecidableEq, Repr, Inhabited

structure LoggingSettings where
  level : LogLevel := .warning
  /-- One JSON object a line instead of console text. -/
  jsonOutput : Bool := false
  deriving DecidableEq, Repr, Inhabited

structure Settings where
  logging : LoggingSettings := {}
  inversion : InversionSettings := {}
  deriving DecidableEq, Repr, Inhabited

end TwoWay
