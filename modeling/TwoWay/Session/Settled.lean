import TwoWay.Execution

/-!
# Settled values

An answer shows what became of its awaitables. Settling awaits them depth first and in
order; one that fails is shown with its failure and stops nothing else. A value can also
be shown as it stands, with its awaitables waiting.
-/

namespace TwoWay

/-- A function or awaitable as an answer shows it. -/
inductive Settled where
  | function (name : String)
  | waiting
  | fulfilled (value : Value Settled)
  | rejected (failure : Failure)

/-- Shows a function, or an awaitable that is not awaited. -/
def Settled.ofLive (x : Live) : Settled :=
  match x.functionName? with
  | some name => .function name
  | none => .waiting

namespace Value

variable {κ : Type}

mutual

/-- The value with every handle changed. -/
def mapLive {μ : Type} (f : κ → μ) : Value κ → Value μ
  | .none => .none
  | .bool b => .bool b
  | .int i => .int i
  | .float d => .float d
  | .str s => .str s
  | .bytes bs => .bytes bs
  | .list r items => .list r (mapLiveItems f items)
  | .tuple items => .tuple (mapLiveItems f items)
  | .dict r entries => .dict r (mapLiveEntries f entries)
  | .set r items => .set r (mapLiveItems f items)
  | .missing => .missing
  | .invalid => .invalid
  | .live x => .live (f x)
  termination_by structural v => v

def mapLiveItems {μ : Type} (f : κ → μ) : List (Value κ) → List (Value μ)
  | [] => []
  | x :: rest => mapLive f x :: mapLiveItems f rest
  termination_by structural xs => xs

def mapLiveEntries {μ : Type} (f : κ → μ) :
    List (Value κ × Value κ) → List (Value μ × Value μ)
  | [] => []
  | (k, v) :: rest => (mapLive f k, mapLive f v) :: mapLiveEntries f rest
  termination_by structural es => es

end
end Value

/-- A value as it stands. -/
def Settled.shown (v : Datum) : Value Settled := v.mapLive Settled.ofLive

/-- The outcome of a run, which never fails itself. -/
def Run.outcome {α : Type} (run : Run α) : Run (Except Failure α) := fun w =>
  match run w with
  | .ok a w => .ok (.ok a) w
  | .error f w => .ok (.error f) w

mutual

/-- Settles the awaitables in a value; `settleLive` settles one of them. -/
def settleWith (settleLive : Live → Run Settled) : Datum → Run (Value Settled)
  | .list r items => return .list r (← settleItems settleLive items)
  | .tuple items => return .tuple (← settleItems settleLive items)
  | .set r items => return .set r (← settleItems settleLive items)
  | .dict r entries => return .dict r (← settleEntries settleLive entries)
  | .live x => return .live (← settleLive x)
  | v => return Settled.shown v
  termination_by structural v => v

def settleItems (settleLive : Live → Run Settled) : List Datum → Run (List (Value Settled))
  | [] => return []
  | x :: rest => do
    let y ← settleWith settleLive x
    return y :: (← settleItems settleLive rest)
  termination_by structural xs => xs

def settleEntries (settleLive : Live → Run Settled) :
    List (Datum × Datum) → Run (List (Value Settled × Value Settled))
  | [] => return []
  | (k, v) :: rest => do
    let l ← settleWith settleLive k
    let w ← settleWith settleLive v
    return (l, w) :: (← settleEntries settleLive rest)
  termination_by structural es => es

end

/-- Settles a function or awaitable, and what it gives, within a depth. -/
def Library.settleLive (lib : Library) (mode : Mode) (depth : Nat) : Nat → Live → Run Settled
  | 0, x => return .ofLive x
  | rounds + 1, x => do
    if x.isCallable then return .ofLive x
    else match ← ((lib.links mode depth).await x).outcome with
      | .ok r => return .fulfilled (← settleWith (settleLive lib mode depth rounds) r.value)
      | .error f => return .rejected f

/-- Settles the awaitables in a value. -/
def Library.settle (lib : Library) (mode : Mode) (depth : Nat) (v : Datum) :
    Run (Value Settled) :=
  settleWith (lib.settleLive mode depth depth) v

end TwoWay
