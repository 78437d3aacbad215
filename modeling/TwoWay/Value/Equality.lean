import TwoWay.Value.Basic

/-!
# Equality, order and keys

`Value.equal` compares by content: numbers by their value across integers, doubles
and truth values, containers element by element with the read-only form ignored,
mappings and sets regardless of order. A `nan` differs from everything, but inside of
containers, where `Value.agrees` compares, it agrees with itself.
`Value.sameType` tells what `equal` joins. `Value.identical` is the finer relation of
values that cannot be told apart at all, by their identities either.

`Entries` are the entries of a mapping in order of insertion: writing an equal key
keeps the first key and its position.
-/

namespace TwoWay

/-- A place on the number line. -/
inductive Place where
  | below
  | at (units : Int)
  | above
  deriving DecidableEq

/-- Strict order on the number line. -/
def Place.before : Place → Place → Bool
  | .below, .at _ | .below, .above | .at _, .above => true
  | .at m, .at n => decide (m < n)
  | _, _ => false

/-- The place of a double; `nan` has none. -/
def Double.place? : Double → Option Place
  | .nan _ => none
  | .infinite negative => some (if negative then .below else .above)
  | .finite negative m e =>
    let n : Int := magnitude m e
    some (.at (if negative then -n else n))

namespace Value

variable {κ : Type}

/-- The place of a number or truth value. -/
def place? : Value κ → Option Place
  | .bool b => some (.at (if b then Double.unit else 0))
  | .int i => some (.at (i * Double.unit))
  | .float d => d.place?
  | _ => Option.none

/-- Values that compare by their place on the number line. -/
def isOrdered : Value κ → Bool
  | .bool _ | .int _ | .float _ => true
  | _ => false

/-- Numbers at the same place. -/
def samePlace (a b : Value κ) : Bool :=
  match a.place?, b.place? with
  | some p, some q => p = q
  | _, _ => false

/-- Whether both are the same `nan`. -/
def sameNan : Value κ → Value κ → Bool
  | .float d, .float e => d.sameNan e
  | _, _ => false

mutual

/-- Equality by content. -/
def equal [Handle κ] : Value κ → Value κ → Bool
  | .none, .none => true
  | .str s, .str t => s == t
  | .bytes s, .bytes t => s == t
  | .list _ xs, .list _ ys => equalItems xs ys
  | .tuple xs, .tuple ys => equalItems xs ys
  | .dict _ xs, .dict _ ys => xs.length == ys.length && entriesIn xs ys
  | .set _ xs, .set _ ys => xs.length == ys.length && itemsIn xs ys
  | .missing, .missing => true
  | .invalid, .invalid => true
  | .live x, .live y => Handle.same x y
  | a, b => samePlace a b
  termination_by structural a => a

def equalItems [Handle κ] : List (Value κ) → List (Value κ) → Bool
  | [], [] => true
  | x :: xs, y :: ys => (sameNan x y || equal x y) && equalItems xs ys
  | _, _ => false
  termination_by structural xs => xs

/-- Every entry has an equal one among the others. -/
def entriesIn [Handle κ] : List (Value κ × Value κ) → List (Value κ × Value κ) → Bool
  | [], _ => true
  | (k, v) :: rest, others =>
    others.any (fun e => (sameNan k e.1 || equal k e.1) && (sameNan v e.2 || equal v e.2)) &&
      entriesIn rest others
  termination_by structural es => es

/-- Every item has an equal one among the others. -/
def itemsIn [Handle κ] : List (Value κ) → List (Value κ) → Bool
  | [], _ => true
  | x :: rest, others => others.any (fun y => sameNan x y || equal x y) && itemsIn rest others
  termination_by structural xs => xs

end

mutual

/-- The same content, form and handles throughout. -/
def identical [Handle κ] : Value κ → Value κ → Bool
  | .none, .none | .missing, .missing | .invalid, .invalid => true
  | .bool a, .bool b => a == b
  | .int i, .int j => i == j
  | .float d, .float e => d.sameNan e || (decide (d = e) && d.place?.isSome)
  | .str s, .str t => s == t
  | .bytes s, .bytes t => s == t
  | .list r xs, .list q ys => r.same q && identicalItems xs ys
  | .tuple xs, .tuple ys => identicalItems xs ys
  | .dict r xs, .dict q ys => r.same q && identicalEntries xs ys
  | .set r xs, .set q ys => r == q && identicalItems xs ys
  | .live x, .live y => Handle.same x y
  | _, _ => false
  termination_by structural a => a

def identicalItems [Handle κ] : List (Value κ) → List (Value κ) → Bool
  | [], [] => true
  | x :: xs, y :: ys => identical x y && identicalItems xs ys
  | _, _ => false
  termination_by structural xs => xs

def identicalEntries [Handle κ] :
    List (Value κ × Value κ) → List (Value κ × Value κ) → Bool
  | [], [] => true
  | (k, v) :: xs, (l, w) :: ys => identical k l && identical v w && identicalEntries xs ys
  | _, _ => false
  termination_by structural es => es

end

/-- How containers compare their items. -/
def agrees [Handle κ] (a b : Value κ) : Bool := sameNan a b || equal a b

/-- Whether two values have one type. A truth value, an integer and a double never do,
nor do a list and its read-only form. -/
def sameType [Handle κ] (a b : Value κ) : Bool := a.typeName == b.typeName

/-- Equality that also asks for the same type: `true` is not `1`. -/
def isExactly [Handle κ] (a b : Value κ) : Bool := sameType a b && equal a b

mutual

/-- The type that keeps a value from being a key or a member of a set: a mutable
container, a read-only list or mapping, or one of these inside a tuple. -/
def unhashable? [Handle κ] : Value κ → Option String
  | .tuple items => unhashableItem? items
  | .set true _ => Option.none
  | .list r items => some (typeName (.list r items))
  | .dict r entries => some (typeName (.dict r entries))
  | .set false items => some (typeName (.set false items))
  | _ => Option.none
  termination_by structural v => v

def unhashableItem? [Handle κ] : List (Value κ) → Option String
  | [] => Option.none
  | x :: rest =>
    match unhashable? x with
    | some t => some t
    | Option.none => unhashableItem? rest
  termination_by structural xs => xs

end
end Value

/-- The entries of a mapping in order of insertion. -/
abbrev Entries (κ : Type) := List (Value κ × Value κ)

namespace Entries

variable {κ : Type} [Handle κ]

/-- The value under an equal key. -/
def get? (entries : Entries κ) (key : Value κ) : Option (Value κ) :=
  (entries.find? fun e => e.1.agrees key).map (·.2)

def hasKey (entries : Entries κ) (key : Value κ) : Bool := entries.any fun e => e.1.agrees key

/-- Writes under a key. -/
def put : Entries κ → Value κ → Value κ → Entries κ
  | [], key, value => [(key, value)]
  | (k, v) :: rest, key, value =>
    if k.agrees key then (k, value) :: rest else (k, v) :: put rest key value

/-- The entries of a mapping written one after the other. -/
def ofList (pairs : List (Value κ × Value κ)) : Entries κ :=
  pairs.foldl (fun es e => es.put e.1 e.2) []

end Entries

/-- The distinct items of a set; of equal ones the first stays. -/
def distinct {κ : Type} [Handle κ] (items : List (Value κ)) : List (Value κ) :=
  items.foldl (fun kept x => if kept.any (·.agrees x) then kept else kept ++ [x]) []

end TwoWay
