import TwoWay.Fault
import TwoWay.Issue.Basic
import TwoWay.Value.Quoted

/-!
# Issue reports

Issues are reported under their location, which is the path in dotted form: `a.b[0].c`.
A truth value or an integer becomes an index. The first other segment opens the location
as it is, so that a location need not be a text; what follows a segment that counts as
false replaces it. Appending to a location that is no text is a fault.
-/

namespace TwoWay

variable {κ : Type} [Handle κ]

/-- A text appended to a location. -/
def appendText (location : Value κ) (text : String) : Except Fault (Value κ) :=
  match location with
  | .str s => .ok (.str (s ++ text))
  | .list .free items => .ok (.list .free (items ++ text.toList.map fun c => .str c.toString))
  | .list (.readOnly _) _ => .error .readOnlyList
  | .tuple _ => .error .textAfterTuple
  | .bytes _ => .error .textAfterBytes
  | v => .error (.unappendable v.typeName)

/-- The location after one more segment. -/
def extendLocation (location segment : Value κ) : Except Fault (Value κ) :=
  match segment with
  | .int _ | .bool _ => appendText location ("[" ++ segment.text ++ "]")
  | _ => if location.truthy then appendText location ("." ++ segment.text) else .ok segment

/-- The dotted form of a path. -/
def location (path : Path κ) : Except Fault (Value κ) := path.foldlM extendLocation (.str "")

namespace Issue

/-- The line of a report about one issue. -/
def line (issue : Issue κ) : Except Fault String := do
  let place ← location issue.path
  let shown := if place.truthy then place.text else "<root>"
  return "  " ++ shown ++ ": " ++ issue.message ++ " [" ++ issue.code.text ++ "]"

/-- The report on a list of issues: their number, then a line for each. -/
def report (issues : List (Issue κ)) : Except Fault String := do
  let noun := if issues.length = 1 then "issue" else "issues"
  let lines ← issues.mapM line
  return "\n".intercalate ((toString issues.length ++ " validation " ++ noun) :: lines)

/-- Adds a message to the group of its location. -/
def addMessage : List (Value κ × List String) → Value κ → String → List (Value κ × List String)
  | [], place, message => [(place, [message])]
  | (p, ms) :: rest, place, message =>
    if p.agrees place then (p, ms ++ [message]) :: rest
    else (p, ms) :: addMessage rest place message

/-- The messages grouped by location, in the order the locations first occur. -/
def flatten (issues : List (Issue κ)) : Except Fault (List (Value κ × List String)) :=
  issues.foldlM (fun groups (issue : Issue κ) => do
    let place ← location issue.path
    match place.unhashable? with
    | some t => throw (.unhashable t)
    | none => return addMessage groups place issue.message) []

end Issue
end TwoWay
