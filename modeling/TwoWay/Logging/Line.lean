import TwoWay.Logging.Record
import TwoWay.Value.Quoted

/-!
# Log lines

A record at or above the level of the settings becomes an object of named values or console
text. Console text shows the level in brackets, the event, the name of the logger in brackets,
and the other values sorted by name; a stack and an exception follow on lines of their own.

* `LogLine.console`: the lines of a record as text;
* `LogLine.named?`: a record as an object, if all of its values have a form there.
-/

namespace TwoWay

inductive LogLine where
  | object (fields : Fields)
  | text (s : String)

namespace LogLine

/-- How wide the level and the event stand. -/
def levelWidth : Nat := 9

def eventWidth : Nat := 30

/-- A text filled up with blanks. -/
def padded (width : Nat) (s : String) : String := s ++ "".pushn ' ' (width - s.length)

/-- Whether a text needs quotes to be one word. -/
def needsQuotes (s : String) : Bool := s.toList.any [' ', '\t', '=', '\r', '\n', '"', '\''].contains

/-- A value behind its name; only texts that are no single word have quotes. -/
def valueText (v : Datum) : String :=
  match v with
  | .str s => if needsQuotes s then v.quoted else s
  | v => v.quoted

/-- The values sorted by name. -/
def sortFields (fields : Fields) : Fields :=
  fields.mergeSort fun a b => decide (a.1 ≤ b.1)

/-- The line without blanks at its end. -/
def trimmed (s : String) : String :=
  String.ofList ((s.toList.reverse.dropWhile (· = ' ')).reverse)

/-- Names that say how a record came about and are not written. -/
def hiddenNames : List String := ["level", "timestamp", "exc_info", "_record", "_from_structlog"]

/-- The values of a record besides its event that are written. -/
def others (r : LogRecord) : Fields := r.fields.filter fun f => !hiddenNames.contains f.1

/-- The names of loggers, which stand in brackets. -/
def loggerNames : List String := ["logger", "logger_name"]

/-- The names of what follows on lines of its own. -/
def trailingNames : List String := ["stack", "exception"]

/-- The first line of a record as text. -/
def heading (r : LogRecord) : String :=
  let fields := others r
  let loggers := loggerNames.filterMap fun n => (fields.lookup n).map fun v => "[" ++ v.text ++ "]"
  let rest := fields.filter fun f => !(loggerNames ++ trailingNames).contains f.1
  let values := (sortFields rest).map fun f => f.1 ++ "=" ++ valueText f.2
  trimmed (" ".intercalate (("[" ++ padded levelWidth r.level.word ++ "]") ::
    padded eventWidth r.event :: loggers ++ values))

/-- What stands between a stack and an exception. -/
def rule : String := "\n\n" ++ "".pushn '=' 79 ++ "\n"

/-- A text that follows on lines of its own. What is no text spoils the record. -/
def trailing? (r : LogRecord) (name : String) : Option (Option String) :=
  match r.fields.lookup name with
  | none | some .none => some none
  | some (.str s) => some (some s)
  | some _ => none

/-- The lines of a text. -/
def linesOf (s : String) : List String :=
  let isLineEnd (c : Char) : Bool :=
    ['\n', '\r', '\x0b', '\x0c', '\x1c', '\x1d', '\x1e', '\u0085', '\u2028', '\u2029'].contains c
  (String.ofList (s.toList.map fun c => if isLineEnd c then '\n' else c)).splitOn "\n"

/-- The lines of a record as text. -/
def console (r : LogRecord) : List String :=
  match trailing? r "stack", trailing? r "exception" with
  | some stack, some exception =>
    let failing := exception.isSome || ((r.fields.lookup "exc_info").map Value.truthy).getD false
    let below := match stack with
      | some s => "\n" ++ s ++ (if failing then rule else "")
      | none => ""
    let last := match exception with
      | some s => "\n" ++ s
      | none => ""
    (linesOf (heading r ++ below ++ last)).map trimmed
  | _, _ => []

/-- The name that a key has in an object. -/
def keyName? (key : Datum) : Option String :=
  match key with
  | .str s => some s
  | .bool b => some (if b then "true" else "false")
  | .none => some "null"
  | .int _ | .float _ => some key.quoted
  | _ => none

mutual

/-- The form of a value in an object: data as it is, all else as its quoted text. -/
def objectValue? : Datum → Option Datum
  | .list _ items => (objectValues? items).map (.list .free)
  | .tuple items => (objectValues? items).map (.list .free)
  | .dict .free entries => (objectEntries? entries).map (.dict .free)
  | .none => some .none
  | .bool b => some (.bool b)
  | .int i => some (.int i)
  | .float d => some (.float d)
  | .str s => some (.str s)
  | v => some (.str v.quoted)
  termination_by structural v => v

def objectValues? : List Datum → Option (List Datum)
  | [] => some []
  | v :: rest => do return (← objectValue? v) :: (← objectValues? rest)
  termination_by structural vs => vs

def objectEntries? : List (Datum × Datum) → Option (List (Datum × Datum))
  | [] => some []
  | (k, v) :: rest => do
    return (.str (← keyName? k), ← objectValue? v) :: (← objectEntries? rest)
  termination_by structural es => es

end

/-- Event and level among the other values. -/
def named? (r : LogRecord) : Option Fields := do
  let values ← (others r).mapM fun f => do return (f.1, ← objectValue? f.2)
  return ("event", .str r.event) :: ("level", .str r.level.word) :: values

end LogLine

namespace LoggingSettings

/-- Whether records of a level are written. -/
def writes (s : LoggingSettings) (level : LogLevel) : Bool := s.level.number ≤ level.number

/-- The lines of a record. -/
def linesOf (s : LoggingSettings) (r : LogRecord) : List LogLine :=
  if s.jsonOutput then ((LogLine.named? r).map LogLine.object).toList
  else (LogLine.console r).map .text

/-- The lines of records, in order. -/
def lines (s : LoggingSettings) (records : List LogRecord) : List LogLine :=
  (records.filter fun r => s.writes r.level).flatMap s.linesOf

end LoggingSettings

/-- The level that a method of a logger writes on. -/
def LogLevel.ofMethod? (method : String) : Option LogLevel :=
  match method with
  | "warn" => some .warning
  | "exception" => some .error
  | "fatal" => some .critical
  | m => LogLevel.all.find? (·.word = m)

end TwoWay
