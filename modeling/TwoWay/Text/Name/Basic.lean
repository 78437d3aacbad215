/-!
# Names of characters

Characters have names in capitals. Those of neighbours often start alike, so a table holds them
in runs: the first code point, what all names of the run start with, and how each goes on.
-/

namespace TwoWay.Text

/-- Names of code points in a row. -/
structure NameRun where
  first : Nat
  stem : String
  /-- How the names go on behind the stem, with semicolons between them. Blanks and line ends
  before one do not count. -/
  ends : String

namespace NameRun

/-- What follows a stem at the start of a name. -/
def behind? (stem name : String) : Option String :=
  if stem.toList.isPrefixOf name.toList then some (String.ofList (name.toList.drop stem.length))
  else none

/-- The code point of a run that a name belongs to. -/
def code? (run : NameRun) (name : String) : Option Nat := do
  let rest ← behind? run.stem name
  let index ← (run.ends.splitOn ";").findIdx? (own · = rest)
  return run.first + index
where
  own (s : String) : String :=
    String.ofList (s.toList.dropWhile fun c => c = ' ' || c = '\n')

end NameRun
end TwoWay.Text
