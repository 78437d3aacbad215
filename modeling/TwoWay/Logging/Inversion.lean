import TwoWay.Logging.Record
import TwoWay.Session.Basic

/-!
# Logs of inversions

A schema is built and inverted; the records are those of the inversion, also when it
fails in the end.
-/

namespace TwoWay.Library

/-- Builds a schema and inverts it: how that ends, and the records. -/
def logInversion (lib : Library) (b : Blueprint) (settings : InversionSettings) :
    Except Failure Unit × List LogRecord :=
  match Session.start lib b with
  | .error f => (.error f, [])
  | .ok (session, _) =>
    let run := lib.invert session.depth session.steps settings session.current.schema
    match Session.observe run session.world with
    | (.ok _, _, events) => (.ok (), logRecords events)
    | (.error f, _, events) => (.error f, logRecords events)

end TwoWay.Library
