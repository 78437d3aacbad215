import TwoWay.Text.Case

/-!
# Case in patterns

A pattern may take capitals and small letters for the same. It then compares small letters,
either of the plain alphabet alone or of every script. Some small letters share a capital,
and those count as the same, too.
-/

namespace TwoWay

/-- Which letters equal their capitals. -/
inductive Folding where
  | none
  /-- The letters from `a` to `z`. -/
  | plain
  /-- The letters of every script. -/
  | full
  deriving DecidableEq, Repr

namespace Folding

/-- Small letters with a common capital. -/
def companions : List (List Nat) := [
  [0x69, 0x131], [0x73, 0x17f], [0xb5, 0x3bc], [0x345, 0x3b9, 0x1fbe], [0x390, 0x1fd3],
  [0x3b0, 0x1fe3], [0x3b2, 0x3d0], [0x3b5, 0x3f5], [0x3b8, 0x3d1], [0x3ba, 0x3f0],
  [0x3c0, 0x3d6], [0x3c1, 0x3f1], [0x3c2, 0x3c3], [0x3c6, 0x3d5], [0x432, 0x1c80],
  [0x434, 0x1c81], [0x43e, 0x1c82], [0x441, 0x1c83], [0x442, 0x1c84, 0x1c85], [0x44a, 0x1c86],
  [0x463, 0x1c87], [0x1c88, 0xa64b], [0x1e61, 0x1e9b], [0xfb05, 0xfb06]]

/-- The capitals of the plain alphabet. -/
def plainRuns : List Text.CaseRun := [⟨0x41, 0x5a, 1, 32⟩]

/-- The moves from capitals to small letters that count. -/
def runs : Folding → List Text.CaseRun
  | .none => []
  | .plain => plainRuns
  | .full => Text.smallRuns

/-- The small letter of a code point. -/
def small (f : Folding) (code : Nat) : Nat := Text.CaseRun.move f.runs code

/-- The small letters that count as this one. -/
def forms (f : Folding) (small : Nat) : List Nat :=
  match f with
  | .full => (companions.find? (·.contains small)).getD [small]
  | _ => [small]

/-- The code points whose small letter counts as this one. -/
def variants (f : Folding) (small : Nat) : List Nat :=
  (f.forms small).flatMap fun form =>
    (if f.small form = form then [form] else []) ++ Text.CaseRun.origins f.runs form

/-- Whether a run has a code point between two others. -/
def meets (r : Text.CaseRun) (first last : Nat) : Bool :=
  let start := max first r.first
  let next := start + (r.step - (start - r.first) % r.step) % r.step
  next ≤ last && next ≤ r.last

/-- Whether one of the code points between two others is a letter with two forms. -/
def hasCased (f : Folding) (first last : Nat) : Bool :=
  match f with
  | .none => false
  | .plain => meets ⟨0x41, 0x5a, 1, 0⟩ first last || meets ⟨0x61, 0x7a, 1, 0⟩ first last
  | .full => (Text.smallRuns ++ Text.capitalRuns).any (meets · first last)

end Folding
end TwoWay
