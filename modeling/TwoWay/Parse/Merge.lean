import TwoWay.Schema.Basic

/-!
# Merging

Both sides of an intersection give an output; `merge` makes one of them. Values that cannot be
told apart are one and merge with themselves, whatever they are. Mappings are joined and merged
under common keys, lists are merged item by item, and other values must be equal and of one type.
-/

namespace TwoWay

mutual

/-- The merged value, if there is one. -/
def merge : Datum → Datum → Option Datum
  | .list r xs, b =>
    if (Value.list r xs).identical b then some (.list r xs)
    else match b with
      | .list _ ys =>
        if xs.length = ys.length then (mergeItems xs ys).map (.list .free) else none
      | _ => none
  | .dict r xs, b =>
    if (Value.dict r xs).identical b then some (.dict r xs)
    else match b with
      | .dict _ ys =>
        (mergeEntries xs ys).map fun merged =>
          .dict .free (merged ++ ys.filter fun e => !xs.any fun x => x.1.agrees e.1)
      | _ => none
  | a, b => if a.identical b || a.isExactly b then some a else none
  termination_by structural a => a

def mergeItems : List Datum → List Datum → Option (List Datum)
  | x :: xs, y :: ys =>
    match merge x y, mergeItems xs ys with
    | some z, some zs => some (z :: zs)
    | _, _ => none
  | _, _ => some []
  termination_by structural xs => xs

/-- The entries of the left side, merged with those of the right under the same key. -/
def mergeEntries :
    List (Datum × Datum) → List (Datum × Datum) → Option (List (Datum × Datum))
  | [], _ => some []
  | (k, v) :: xs, ys =>
    let merged := match ys.find? fun e => k.agrees e.1 with
      | some e => merge v e.2
      | none => some v
    match merged, mergeEntries xs ys with
    | some w, some rest => some ((k, w) :: rest)
    | _, _ => none
  termination_by structural es => es

end
end TwoWay
