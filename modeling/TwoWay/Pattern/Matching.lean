import TwoWay.Pattern.Basic

/-!
# Matching

`Pattern.run` moves over a match from a place in a text and hands the place it comes to to
a continuation; a continuation that fails makes it try the next way to match.
`Pattern.occursIn` looks for a match anywhere in a text.

The marks say where groups start and end. A way that fails may leave marks behind. Where a
choice is open, the marks made since are taken off before the next way is tried, so that
groups which were not reached before count as not reached; inside of a repetition that may
give rounds back all marks go back to what they were.
-/

namespace TwoWay

/-- Mark `2 n` is the start of group `n + 1` and mark `2 n + 1` its end. The marks after the
last one made are no part of the list. -/
abbrev Marks := List (Option Nat)

namespace Marks

/-- Makes a mark. Marks before it that were never made are empty. -/
def make (marks : Marks) (i place : Nat) : Marks :=
  if i < marks.length then marks.set i (some place)
  else marks ++ List.replicate (i - marks.length) none ++ [some place]

/-- Where the text of a group starts and ends, if the group has matched. -/
def group? (marks : Marks) (number : Nat) : Option (Nat × Nat) := do
  let start ← (marks[2 * (number - 1)]?).join
  let stop ← (marks[2 * (number - 1) + 1]?).join
  if start ≤ stop then some (start, stop) else none

/-- The marks for the next way after one that failed. -/
def restored (marks : Marks) (inside : Bool) (saved : Marks) : Marks :=
  if inside then saved else marks.take saved.length

end Marks

/-- What comes of a way to match. -/
inductive Attempt where
  | found (place : Nat) (marks : Marks)
  | failed (marks : Marks)

namespace Attempt

def isFound : Attempt → Bool
  | .found .. => true
  | .failed _ => false

/-- The next way after one that failed. -/
def otherwise (a : Attempt) (next : Marks → Attempt) : Attempt :=
  match a with
  | .found place marks => .found place marks
  | .failed marks => next marks

/-- Goes on from a match that is final. -/
def andThen (a : Attempt) (next : Nat → Marks → Attempt) : Attempt :=
  match a with
  | .found place marks => next place marks
  | .failed marks => .failed marks

end Attempt

/-- What follows a match. -/
abbrev Continuation := Nat → Marks → Attempt

/-- A way over a text from a place on. -/
abbrev Move := Nat → Marks → Continuation → Attempt

/-! ### Runs of single characters -/

/-- The end of the run of characters that pass a test, within a number of them. -/
def runEnd (text : Array Char) (test : CharTest) : Nat → Nat → Nat
  | 0, place => place
  | limit + 1, place =>
    match text[place]? with
    | some c => if test.holds c then runEnd text test limit (place + 1) else place
    | none => place

/-- Goes on from a place or, while that fails, from one character before it, a number of
times. -/
def backwards (inside : Bool) (saved : Marks) (k : Continuation) (least : Nat) :
    Nat → Marks → Attempt
  | 0, marks => (k least marks).otherwise fun m => .failed (m.restored inside saved)
  | extra + 1, marks =>
    (k (least + extra + 1) marks).otherwise fun m =>
      backwards inside saved k least extra (m.restored inside saved)

/-- Goes on from a place or, while that fails, from after the next character that passes the
test, a number of times. -/
def forwards (text : Array Char) (test : CharTest) (inside : Bool) (saved : Marks)
    (k : Continuation) : Nat → Nat → Marks → Attempt
  | 0, place, marks => (k place marks).otherwise fun m => .failed (m.restored inside saved)
  | extra + 1, place, marks =>
    (k place marks).otherwise fun m =>
      if (text[place]?).any test.holds then
        forwards text test inside saved k extra (place + 1) (m.restored inside saved)
      else .failed (m.restored inside saved)

/-- A run of at least and at most so many characters. -/
def runMany (text : Array Char) (inside : Bool) (least : Nat) (most : Option Nat) (greed : Greed)
    (test : CharTest) : Move := fun place marks k =>
  let room := text.size - place
  if room < least then .failed marks
  else
    let limit := min room (most.getD room)
    match greed with
    | .lazy =>
      if runEnd text test least place < place + least then .failed marks
      else forwards text test inside marks k (limit - least) (place + least) marks
    | .greedy =>
      let stop := runEnd text test limit place
      if stop < place + least then .failed marks
      else backwards inside marks k (place + least) (stop - (place + least)) marks
    | .possessive =>
      let stop := runEnd text test limit place
      if stop < place + least then .failed marks else k stop marks

/-! ### Repetitions -/

/-- Whether one round more is allowed after so many. -/
def allows (most : Option Nat) (count : Nat) : Bool := most.all (count < ·)

/-- The rounds of a repetition after `count` of them. A round that started at `last` and
comes back there is the last one. The fuel bounds the rounds. -/
def rounds (body : Move) (inside : Bool) (least : Nat) (most : Option Nat) (isLazy : Bool) :
    Nat → Nat → Option Nat → Move
  | 0, _, _, place, marks, k => k place marks
  | fuel + 1, count, last, place, marks, k =>
    let again (last : Option Nat) (marks : Marks) :=
      body place marks fun p m => rounds body inside least most isLazy fuel (count + 1) last p m k
    let mayRepeat := allows most count && last != some place
    if count < least then again last marks
    else if isLazy then
      (k place marks).otherwise fun m =>
        let m := m.restored inside marks
        if mayRepeat then again (some place) m else .failed m
    else if mayRepeat then (again (some place) marks).otherwise fun _ => k place marks
    else k place marks

/-- The rounds of a possessive repetition after `count` of them, each of them final. -/
def finalRounds (body : Move) (least : Nat) (most : Option Nat) :
    Nat → Nat → Option Nat → Nat → Marks → Attempt
  | 0, _, _, place, marks => .found place marks
  | fuel + 1, count, last, place, marks =>
    let round := body place marks .found
    if count < least then
      round.andThen fun p m => finalRounds body least most fuel (count + 1) last p m
    else if allows most count && last != some place then
      match round with
      | .found p m => finalRounds body least most fuel (count + 1) (some place) p m
      | .failed _ => .found place marks
    else .found place marks

/-! ### Places -/

/-- Whether exactly one of the neighbours of a place is a word character. Text without
characters has no such place, nor the opposite. -/
def isBoundary (text : Array Char) (ascii negated : Bool) (place : Nat) : Bool :=
  let word (c : Option Char) := c.any (CharClass.word.holds ascii)
  let before := if place = 0 then none else text[place - 1]?
  !text.isEmpty && ((word before != word text[place]?) != negated)

def isStart (text : Array Char) (multiline : Bool) (place : Nat) : Bool :=
  place = 0 || (multiline && text[place - 1]? = some '\n')

def isFinish (text : Array Char) (multiline : Bool) (place : Nat) : Bool :=
  place = text.size || (text[place]? = some '\n' && (multiline || place + 1 = text.size))

/-- Goes over a text that stands between two places once more. -/
def repeated (text : Array Char) (f : Folding) : Nat → Nat → Nat → Option Nat
  | 0, _, place => some place
  | count + 1, origin, place =>
    match text[origin]?, text[place]? with
    | some c, some d =>
      if f.small c.toNat = f.small d.toNat then repeated text f count (origin + 1) (place + 1)
      else none
    | _, _ => none

namespace Pattern

/-- Moves over a match and on. `inside` holds within a repetition that may give rounds back. -/
def run (text : Array Char) (inside : Bool) : Pattern → Move
  | .empty, place, marks, k => k place marks
  | .one test, place, marks, k =>
    if (text[place]?).any test.holds then k (place + 1) marks else .failed marks
  | .start multiline, place, marks, k =>
    if isStart text multiline place then k place marks else .failed marks
  | .finish multiline, place, marks, k =>
    if isFinish text multiline place then k place marks else .failed marks
  | .textStart, place, marks, k => if place = 0 then k place marks else .failed marks
  | .textEnd, place, marks, k => if place = text.size then k place marks else .failed marks
  | .boundary ascii negated, place, marks, k =>
    if isBoundary text ascii negated place then k place marks else .failed marks
  | .seq p q, place, marks, k =>
    p.run text inside place marks fun place marks => q.run text inside place marks k
  | .alt p q, place, marks, k =>
    (p.run text inside place marks k).otherwise fun m =>
      (q.run text inside place (m.restored inside marks) k).otherwise fun m =>
        .failed (m.restored inside marks)
  | .many least most greed test, place, marks, k =>
    runMany text inside least most greed test place marks k
  | .repetition least most greed body, place, marks, k =>
    let round (inside : Bool) : Move := fun place marks k => body.run text inside place marks k
    let fuel := least + (text.size - place) + 2
    match greed with
    | .possessive => (finalRounds (round inside) least most fuel 0 none place marks).andThen k
    | .lazy => rounds (round true) inside least most true fuel 0 none place marks k
    | .greedy => rounds (round true) inside least most false fuel 0 none place marks k
  | .group n body, place, marks, k =>
    body.run text inside place (marks.make (2 * (n - 1)) place) fun place marks =>
      k place (marks.make (2 * (n - 1) + 1) place)
  | .again n folding, place, marks, k =>
    match marks.group? n with
    | some (origin, stop) =>
      match repeated text folding (stop - origin) origin place with
      | some place => k place marks
      | none => .failed marks
    | none => .failed marks
  | .ahead false body, place, marks, k =>
    (body.run text inside place marks .found).andThen fun _ marks => k place marks
  | .ahead true body, place, marks, k =>
    match body.run text inside place marks .found with
    | .found _ m => .failed m
    | .failed m => k place (m.restored inside marks)
  | .behind false width body, place, marks, k =>
    if place < width then .failed marks
    else (body.run text inside (place - width) marks .found).andThen fun _ marks => k place marks
  | .behind true width body, place, marks, k =>
    if place < width then k place marks
    else
      match body.run text inside (place - width) marks .found with
      | .found _ m => .failed m
      | .failed m => k place (m.restored inside marks)
  | .atomic body, place, marks, k => (body.run text inside place marks .found).andThen k
  | .ifGroup n yes no, place, marks, k =>
    if (marks.group? n).isSome then yes.run text inside place marks k
    else no.run text inside place marks k

/-- Looks for a match from each of a number of places on. -/
def search (p : Pattern) (text : Array Char) : Nat → Nat → Bool
  | 0, place => (p.run text false place [] .found).isFound
  | count + 1, place =>
    (p.run text false place [] .found).isFound || p.search text count (place + 1)

/-- Whether a pattern matches anywhere in a text. -/
def occursIn (p : Pattern) (s : String) : Bool :=
  let text := s.toList.toArray
  p.search text text.size 0

end Pattern
end TwoWay
