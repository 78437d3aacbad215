import TwoWay.Schema.Basic
import TwoWay.Text.Lowercase
import TwoWay.Value.Equality
import TwoWay.Value.Quoted

/-!
# Placeholders

A text may hold placeholders for variables of the environment: `$` and a name in braces,
with or without a fallback. A text is read as a list of pieces; each placeholder gives way
to the value of its variable, also an empty one, or else to its fallback, or else it stays.
What takes its place is not read again.

* `Piece.written`: a piece as it stands in a text;
* `Piece.filled`: what the piece gives in an environment;
* `pieces`: the pieces of a text, whose written forms make up the text.
-/

namespace TwoWay.Settings

/-- The variables and their values. -/
abbrev Environment := List (String × String)

inductive Piece where
  /-- A single character that starts no placeholder. -/
  | plain (c : Char)
  | placeholder (name : List Char) (fallback : Option (List Char))
  deriving DecidableEq, Repr

/-- What stands between a name and the closing brace. -/
def writtenFallback : Option (List Char) → List Char
  | none => []
  | some fallback => ':' :: '-' :: fallback

def Piece.written : Piece → List Char
  | .plain c => [c]
  | .placeholder name fallback =>
    '$' :: '\x7b' :: (name ++ writtenFallback fallback) ++ ['\x7d']

def Piece.filled (env : Environment) : Piece → List Char
  | .plain c => [c]
  | .placeholder name fallback =>
    match env.lookup (String.ofList name), fallback with
    | some value, _ => value.toList
    | none, some text => text
    | none, none => (Piece.placeholder name none).written

/-- Names start with a capital letter or an underscore. -/
def startsName (c : Char) : Bool := c.isUpper || c = '_'

/-- Names go on with capital letters, digits and underscores. -/
def continuesName (c : Char) : Bool := startsName c || c.isDigit

/-- The fallback before the closing brace, and what follows the brace. -/
def readFallback? : List Char → Option (Option (List Char) × List Char)
  | '\x7d' :: rest => some (none, rest)
  | ':' :: '-' :: rest =>
    match rest.dropWhile (· != '\x7d') with
    | _ :: after => some (some (rest.takeWhile (· != '\x7d')), after)
    | [] => none
  | _ => none

/-- The placeholder that a text starts with, and what follows it. -/
def readPlaceholder? : List Char → Option (Piece × List Char)
  | '$' :: '\x7b' :: c :: rest =>
    if startsName c then
      (readFallback? (rest.dropWhile continuesName)).map fun r =>
        (.placeholder (c :: rest.takeWhile continuesName) r.1, r.2)
    else none
  | _ => none

theorem written_readFallback? {cs : List Char} {r : Option (List Char) × List Char}
    (h : readFallback? cs = some r) : writtenFallback r.1 ++ '\x7d' :: r.2 = cs := by
  unfold readFallback? at h
  split at h
  · cases h; rfl
  · next rest =>
    split at h
    · next c after found =>
      cases h
      have closing : c = '\x7d' := by
        have := List.head?_dropWhile_not (· != '\x7d') rest
        simpa [found] using this
      subst closing
      simp only [writtenFallback, List.cons_append, ← found, List.takeWhile_append_dropWhile]
    · cases h
  · cases h

theorem written_readPlaceholder? {cs : List Char} {r : Piece × List Char}
    (h : readPlaceholder? cs = some r) : r.1.written ++ r.2 = cs := by
  unfold readPlaceholder? at h
  split at h
  · next c rest =>
    split at h
    · obtain ⟨found, read, rfl⟩ := Option.map_eq_some_iff.1 h
      have after := written_readFallback? read
      simp only [Piece.written, List.cons_append, List.append_assoc, List.nil_append, after,
        List.takeWhile_append_dropWhile]
    · cases h
  · cases h

theorem length_readPlaceholder? {cs : List Char} {r : Piece × List Char}
    (h : readPlaceholder? cs = some r) : r.2.length < cs.length := by
  have whole := written_readPlaceholder? h
  have positive : 0 < r.1.written.length := by
    cases r.1 <;> simp [Piece.written]
  simp only [← whole, List.length_append]
  omega

/-- The pieces of a text. -/
def pieces (cs : List Char) : List Piece :=
  match h : readPlaceholder? cs with
  | some (piece, rest) =>
    have := length_readPlaceholder? h
    piece :: pieces rest
  | none =>
    match cs with
    | [] => []
    | c :: rest => .plain c :: pieces rest
  termination_by cs.length

/-- Nothing of a text is lost in its pieces. -/
theorem written_pieces (cs : List Char) : (pieces cs).flatMap Piece.written = cs := by
  fun_induction pieces cs with
  | case1 cs piece rest h this ih =>
    simp only [List.flatMap_cons, ih, written_readPlaceholder? h]
  | case2 => rfl
  | case3 c rest h ih => simp only [List.flatMap_cons, ih, Piece.written, List.cons_append,
      List.nil_append]

/-- A text with its placeholders filled in. -/
def expandText (env : Environment) (s : String) : String :=
  String.ofList ((pieces s.toList).flatMap (Piece.filled env))

mutual

/-- Fills in the texts of a document: the values of its mappings and the items of its
lists at every depth, but no keys. -/
def expand (env : Environment) : Datum → Datum
  | .str s => .str (expandText env s)
  | .list _ items => .list .free (expandItems env items)
  | .dict .free entries => .dict .free (expandEntries env entries)
  | v => v
  termination_by structural v => v

def expandItems (env : Environment) : List Datum → List Datum
  | [] => []
  | x :: rest => expand env x :: expandItems env rest
  termination_by structural xs => xs

def expandEntries (env : Environment) : List (Datum × Datum) → List (Datum × Datum)
  | [] => []
  | (k, v) :: rest => (k, expand env v) :: expandEntries env rest
  termination_by structural es => es

end

mutual

/-- A document with the keys of its nested mappings in lower case. Lists stay as they
are. -/
def lowerKeys : Datum → Datum
  | .dict .free entries => .dict .free (Entries.ofList (lowerEntries entries))
  | v => v
  termination_by structural v => v

def lowerEntries : List (Datum × Datum) → List (Datum × Datum)
  | [] => []
  | (k, v) :: rest => (.str (Text.lower k.text), lowerKeys v) :: lowerEntries rest
  termination_by structural es => es

end
end TwoWay.Settings
