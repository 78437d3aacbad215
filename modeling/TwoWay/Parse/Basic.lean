import TwoWay.Run
import TwoWay.Value.Order

/-!
# Parse results

A node turns a value into an output and the issues it reports on the way. The output
`invalid` says that none could be produced. An output with issues is dirty: the parse
will fail, but refinements around the node still see it.
-/

namespace TwoWay

structure Parsed where
  value : Datum
  issues : List (Issue Live) := []

namespace Parsed

/-- An output without issues. -/
def isClean (r : Parsed) : Bool := !r.value.isInvalid && r.issues.isEmpty

/-- No output, for one reason. -/
def refused (issue : Issue Live) : Parsed := ⟨.invalid, [issue]⟩

/-- Goes on from a clean result only. -/
def andThen (r : Parsed) (next : Datum → Run Parsed) : Run Parsed :=
  if r.isClean then next r.value else pure r

/-- Whether one of the results has no output. -/
def anyInvalid (rs : List Parsed) : Bool := rs.any (·.value.isInvalid)

def values (rs : List Parsed) : List Datum := rs.map (·.value)

def allIssues (rs : List Parsed) : List (Issue Live) := rs.flatMap (·.issues)

/-- The output of a whole parse, or its failure. -/
def finish (r : Parsed) : Except Failure Datum :=
  if r.issues.isEmpty then
    if r.value.isInvalid then .error (.ofIssues [⟨.custom, "Invalid input", [], []⟩])
    else .ok r.value
  else .error (.ofIssues r.issues)

end Parsed

/-- Refuses a value of the wrong type. -/
def wrongType (path : Path Live) (expected message : String) (v : Datum) : Parsed :=
  .refused ⟨.invalidType, message, path,
    [("expected", .value (.str expected)), ("received", .value (.str v.received))]⟩

/-- Refuses a value that a leaf does not read. -/
def wrongLeaf (path : Path Live) (expected message : String) (v : Datum) : Parsed :=
  wrongType path expected (if v.isMissing then "Required" else message) v

/-- Refuses a value that is not the container a node reads. -/
def wrongContainer (path : Path Live) (expected : String) (v : Datum) : Parsed :=
  let message := if v.isMissing then "Required" else
    "Expected " ++ expected ++ ", received " ++ v.received
  wrongType path expected message v

/-- An issue about a bound that is exceeded. -/
def boundIssue (path : Path Live) (code : IssueCode) (message detail : String) (bound : Datum) :
    Issue Live :=
  ⟨code, message ++ bound.text, path, [(detail, .value bound)]⟩

/-- The issues of a length outside its bounds: the least length first. `noun` is what is
counted. -/
def lengthIssues (path : Path Live) (owner noun : String) (lengths : Lengths Live) (size : Nat) :
    Except Fault (List (Issue Live)) := do
  let suffix := " " ++ noun ++ "(s)"
  let issue (code : IssueCode) (least : String) (detail : String) (bound : Datum) : Issue Live :=
    let b := boundIssue path code (owner ++ " must contain at " ++ least ++ " ") detail bound
    { b with message := b.message ++ suffix }
  let short ← if lengths.least.isNone then pure false else Value.isLess (.int size) lengths.least
  let long ← if lengths.most.isNone then pure false else Value.isGreater (.int size) lengths.most
  return (if short then [issue .tooSmall "least" "minimum" lengths.least] else []) ++
    (if long then [issue .tooBig "most" "maximum" lengths.most] else [])

end TwoWay
