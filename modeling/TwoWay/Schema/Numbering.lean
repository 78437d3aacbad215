import TwoWay.Run

/-!
# Numbering

User functions make values without knowing of others. When a run takes such a value over, what
is new in it gets an identity.
-/

namespace TwoWay

/-- Gives something new an identity. -/
def Identity.numbered : Identity → Run Identity
  | .new => Run.identity
  | id => return id

def Double.numbered : Double → Run Double
  | .nan id => return .nan (← id.numbered)
  | d => return d

def Access.numbered : Access → Run Access
  | .readOnly id => return .readOnly (← id.numbered)
  | .free => return .free

def Live.numbered : Live → Run Live
  | .running id fn args => return .running (← id.numbered) fn args
  | .working id fn path v => return .working (← id.numbered) fn path v
  | x => return x

namespace Value

mutual

/-- Gives identities to what is new in a value. -/
def numbered : Datum → Run Datum
  | .float d => return .float (← d.numbered)
  | .list r items => return .list (← r.numbered) (← numberedItems items)
  | .tuple items => return .tuple (← numberedItems items)
  | .dict r entries => return .dict (← r.numbered) (← numberedEntries entries)
  | .set r items => return .set r (← numberedItems items)
  | .live x => return .live (← x.numbered)
  | v => return v
  termination_by structural v => v

def numberedItems : List Datum → Run (List Datum)
  | [] => return []
  | x :: rest => return (← numbered x) :: (← numberedItems rest)
  termination_by structural xs => xs

def numberedEntries : List (Datum × Datum) → Run (List (Datum × Datum))
  | [] => return []
  | (k, v) :: rest => return (← numbered k, ← numbered v) :: (← numberedEntries rest)
  termination_by structural es => es

end
end Value
end TwoWay
