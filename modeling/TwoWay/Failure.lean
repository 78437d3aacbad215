import TwoWay.Issue.Report
import TwoWay.Schema.Basic
import TwoWay.Schema.Malformed

/-!
# Failures

What ends a run, an inversion or the building of a schema without a result.
-/

namespace TwoWay

inductive Failure where
  /-- The value was refused, for these reasons. -/
  | refused (issues : List (Issue Live))
  /-- A function waited for something during a synchronous parse. -/
  | suspended
  /-- Inversion met an effect that has no inverse and may not be dropped. -/
  | oneWay (kind : EffectKind)
  /-- Inversion met a node of a kind it does not know. -/
  | unknownKind (name : String)
  | malformed (reason : Malformed)
  | fault (fault : Fault)

namespace Failure

/-- The failure of refused values. Its report names every location, which a path may
prevent. -/
def ofIssues (issues : List (Issue Live)) : Failure :=
  match Issue.report issues with
  | .ok _ => .refused issues
  | .error f => .fault f

/-- What is said of an effect without an inverse. -/
def oneWayMessage (effect : String) : String := "effect not supported: " ++ effect

/-- What is said of a node of an unknown kind. -/
def unknownKindMessage (kind : String) : String :=
  "schema kind not supported by the inverter: " ++ kind

def message : Failure → String
  | .refused issues =>
    match Issue.report issues with
    | .ok text => text
    | .error f => f.message
  | .suspended =>
    "Asynchronous function encountered during synchronous parse, use parse_async()"
  | .oneWay kind => oneWayMessage kind.text
  | .unknownKind name => unknownKindMessage name
  | .malformed m => m.message
  | .fault f => f.message

end Failure
end TwoWay
