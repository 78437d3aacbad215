import TwoWay.Proofs.Forcing.Looking
import TwoWay.Schema.Numbering

/-!
# Quiet runs

A run is quiet if it waits for nothing and calls no function on a value (`Run.Quiet`). It may
force lazy nodes (`Plans.force_quiet`), which calls getters and logs what is inverted. A run that
does not even look at the memory and the journal of its world is blind (`Run.Blind`). It may give
out identities (`Value.numbered_blind`).
-/

namespace TwoWay

/-- A run that adds nothing to the journal but events that have `P`. -/
def Run.Adds (P : Event → Prop) {α : Type} (m : Run α) : Prop :=
  ∀ w, ∃ new, (m.final w).journal = new ++ w.journal ∧ ∀ e ∈ new, P e

namespace Run.Adds

variable {P : Event → Prop} {α β : Type}

/-- Nothing happens at all. -/
theorem still {m : Run α} (h : ∀ w, (m.final w).journal = w.journal) : m.Adds P :=
  fun w => ⟨[], h w, List.forall_mem_nil _⟩

theorem pure (a : α) : Run.Adds P (Pure.pure a) := still fun _ => rfl

theorem throw (f : Failure) : Run.Adds P (throw f : Run α) := still fun _ => rfl

theorem get : Run.Adds P (MonadState.get : Run World) := still fun _ => rfl

theorem record {e : Event} (h : P e) : Run.Adds P (Run.record e) :=
  fun _ => ⟨[e], rfl, List.forall_mem_singleton.2 h⟩

theorem lift (r : Except Failure α) : Run.Adds P (Run.lift r) := by
  cases r with
  | ok a => exact pure a
  | error f => exact throw f

theorem bind {m : Run α} {k : α → Run β} (hm : m.Adds P) (hk : ∀ a, (k a).Adds P) :
    (m >>= k).Adds P := by
  intro w
  obtain ⟨new, journal, first⟩ := hm w
  rw [Run.final_bind]
  cases m.result w with
  | error f => exact ⟨new, journal, first⟩
  | ok a =>
    obtain ⟨new', journal', second⟩ := hk a (m.final w)
    refine ⟨new' ++ new, ?_, List.forall_mem_append.2 ⟨second, first⟩⟩
    rw [List.append_assoc, ← journal]
    exact journal'

end Run.Adds

/-- A world with the memory and the journal of another. -/
def World.recalling (w u : World) : World :=
  { w with forced := u.forced, shared := u.shared, journal := u.journal }

/-- A run that does not see the memory and the journal of its world, and leaves them alone. -/
def Run.Blind {α : Type} (m : Run α) : Prop :=
  ∀ w u, m.result (w.recalling u) = m.result w ∧
    m.final (w.recalling u) = (m.final w).recalling u

namespace Run.Blind

variable {α β : Type}

theorem pure (a : α) : Run.Blind (Pure.pure a) := fun _ _ => ⟨rfl, rfl⟩

theorem throw (f : Failure) : Run.Blind (throw f : Run α) := fun _ _ => ⟨rfl, rfl⟩

theorem identity : Run.Blind Run.identity := fun _ _ => ⟨rfl, rfl⟩

theorem lift (r : Except Failure α) : Run.Blind (Run.lift r) := by
  cases r with
  | ok a => exact pure a
  | error f => exact throw f

theorem liftFault (r : Except Fault α) : Run.Blind (Run.liftFault r) := by
  cases r with
  | ok a => exact pure a
  | error f => exact throw _

theorem requireHashable (v : Datum) : Run.Blind (Run.requireHashable v) := by
  unfold Run.requireHashable
  cases v.unhashable? with
  | some t => exact throw _
  | none => exact pure ()

theorem bind {m : Run α} {k : α → Run β} (hm : m.Blind) (hk : ∀ a, (k a).Blind) :
    (m >>= k).Blind := by
  intro w u
  obtain ⟨result, final⟩ := hm w u
  simp only [Run.result_bind, Run.final_bind, result, final]
  cases m.result w with
  | error f => exact ⟨rfl, rfl⟩
  | ok a => exact hk a _ u

theorem awaitOnce (id : Identity) : Run.Blind (Run.awaitOnce id) := by
  intro w u
  have alike : (w.recalling u).awaited = w.awaited := rfl
  simp only [Run.awaitOnce, Run.result_bind, Run.final_bind, Run.result_get, Run.final_get, alike]
  split <;> exact ⟨rfl, rfl⟩

/-- What is seen by nobody stays as it is. -/
theorem final {m : Run α} (h : m.Blind) (w : World) : m.final w = (m.final w).recalling w :=
  (h w w).2

theorem adds {P : Event → Prop} {m : Run α} (h : m.Blind) : m.Adds P := by
  refine .still fun w => ?_
  rw [h.final w]
  rfl

end Run.Blind

/-- Events other than waiting and calling a function on a value. -/
def Event.isQuiet : Event → Bool
  | .called _ args => args.isEmpty
  | .noted _ | .yielded | .logged _ => true
  | .suspended => false

/-- Pausing and taking notes. -/
def Event.isIdle : Event → Bool
  | .noted _ | .yielded => true
  | _ => false

theorem Event.isQuiet_of_isIdle {e : Event} (h : e.isIdle) : e.isQuiet := by
  cases e with
  | noted | yielded => rfl
  | called | suspended | logged => cases h

/-- A run in which only quiet events happen. -/
def Run.Quiet {α : Type} (m : Run α) : Prop :=
  ∀ w, ∃ new, (m.final w).journal = new ++ w.journal ∧ ∀ e ∈ new, e.isQuiet

namespace Run.Quiet

variable {α β : Type}

theorem still {m : Run α} (h : ∀ w, (m.final w).journal = w.journal) : m.Quiet := Adds.still h

theorem pure (a : α) : Run.Quiet (Pure.pure a) := Adds.pure a

theorem throw (f : Failure) : Run.Quiet (throw f : Run α) := Adds.throw f

theorem get : Run.Quiet (MonadState.get : Run World) := Adds.get

theorem record {e : Event} (h : e.isQuiet) : Run.Quiet (Run.record e) := Adds.record h

theorem bind {m : Run α} {k : α → Run β} (hm : m.Quiet) (hk : ∀ a, (k a).Quiet) :
    (m >>= k).Quiet := Adds.bind hm hk

theorem lookUp {known : World → Option Schema} {m : Run Schema} {keep : Schema → World → World}
    (hm : m.Quiet) (hkeep : ∀ s w, (keep s w).journal = w.journal) :
    (Run.lookUp known m keep).Quiet := by
  refine .bind .get fun w => ?_
  split
  · exact .pure _
  · exact .bind hm fun s => .bind (.still fun u => hkeep s u) fun _ => .pure s

end Run.Quiet

/-- Runs are quiet however they are put together. -/
def Run.quietly : Run.Law Unit where
  Holds m := (m ()).Quiet
  pure := .pure
  fail := .throw
  log _ := .record rfl
  bind := .bind

/-! ## Forcing -/

namespace Plans

variable {plans : Plans}

section
variable {depth : Nat} (tagged : ∀ id origin, (plans.tagsBehind depth id origin).Quiet)
include tagged

/-- Building is quiet if tags and shared definitions are looked up quietly. -/
theorem build_quiet (defined : ∀ name, (plans.shared depth name).Quiet) (owner : LazyId)
    (b : Blueprint) :
    ((b.build ⟨⟨owner, plans.tagsBehind depth⟩, plans.shared depth⟩).run' 0).Quiet := by
  have tags : ∀ id origin, Run.quietly.Holds fun _ => plans.tagsBehind depth id origin := tagged
  have definitions : ∀ name, Run.quietly.Holds fun _ => plans.shared depth name := defined
  exact Run.Law.Makes.run (Run.Law.build tags definitions b)

theorem invert_quiet (owner : LazyId) (settings : InversionSettings) (s : Schema) :
    ((s.invertWith ⟨owner, plans.tagsBehind depth⟩ settings).run' 0).Quiet := by
  have tags : ∀ id origin, Run.quietly.Holds fun _ => plans.tagsBehind depth id origin := tagged
  exact Run.Law.Makes.run (Run.Law.invertWith tags s)

end

theorem announce_quiet (plans : Plans) (fn : FunctionRef) : (plans.announce fn).Quiet := by
  refine .bind (.record rfl) fun _ => ?_
  unfold noteLabel
  split
  · exact .record rfl
  · exact .pure ()

theorem quietly_recalls (plans : Plans) : Run.quietly.Recalls plans where
  getter _ fn _ h := .lookUp (.bind (plans.announce_quiet fn) fun _ => h) fun _ _ => rfl
  inverse _ _ _ _ _ h := .lookUp h fun _ _ => rfl
  shared _ _ h := .lookUp h fun _ _ => rfl

/-- Forcing calls getters only, and so does whatever else is looked up. -/
theorem looks_quiet (plans : Plans) (depth : Nat) :
    (∀ id origin, (plans.force depth id origin).Quiet) ∧
    (∀ id origin, (plans.tagsBehind depth id origin).Quiet) ∧
    ∀ name, (plans.shared depth name).Quiet := plans.quietly_recalls.looks depth

theorem force_quiet (plans : Plans) (depth : Nat) (id : LazyId) (origin : Origin) :
    (plans.force depth id origin).Quiet := (plans.looks_quiet depth).1 id origin

end Plans

/-! ## Numbering -/

theorem Identity.numbered_blind (id : Identity) : id.numbered.Blind := by
  cases id with
  | new => exact .identity
  | given n | made n => exact .pure _

theorem Double.numbered_blind (d : Double) : d.numbered.Blind := by
  cases d with
  | nan id => exact .bind (Identity.numbered_blind id) fun _ => .pure _
  | _ => exact .pure _

theorem Access.numbered_blind (r : Access) : r.numbered.Blind := by
  cases r with
  | free => exact .pure _
  | readOnly id => exact .bind (Identity.numbered_blind id) fun _ => .pure _

theorem Live.numbered_blind (x : Live) : x.numbered.Blind := by
  cases x with
  | running id | working id => exact .bind (Identity.numbered_blind id) fun _ => .pure _
  | _ => exact .pure _

namespace Value

mutual

theorem numbered_blind : ∀ v : Datum, v.numbered.Blind
  | .float d => .bind (Double.numbered_blind d) fun _ => .pure _
  | .list r items =>
    .bind (Access.numbered_blind r) fun _ => .bind (numberedItems_blind items) fun _ => .pure _
  | .tuple items => .bind (numberedItems_blind items) fun _ => .pure _
  | .dict r entries =>
    .bind (Access.numbered_blind r) fun _ => .bind (numberedEntries_blind entries) fun _ => .pure _
  | .set _ items => .bind (numberedItems_blind items) fun _ => .pure _
  | .live x => .bind (Live.numbered_blind x) fun _ => .pure _
  | .none | .bool _ | .int _ | .str _ | .bytes _ | .missing | .invalid => .pure _

theorem numberedItems_blind : ∀ items : List Datum, (numberedItems items).Blind
  | [] => .pure _
  | x :: rest =>
    .bind (numbered_blind x) fun _ => .bind (numberedItems_blind rest) fun _ => .pure _

theorem numberedEntries_blind : ∀ entries : Entries Live, (numberedEntries entries).Blind
  | [] => .pure _
  | (k, v) :: rest => .bind (numbered_blind k) fun _ => .bind (numbered_blind v) fun _ =>
    .bind (numberedEntries_blind rest) fun _ => .pure _

end

end Value
end TwoWay
