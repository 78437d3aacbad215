import TwoWay.Proofs.Forcing.Memory
import TwoWay.Proofs.Parse.Whole
import Mathlib.Data.Nat.Find

/-!
# Made once

While a lazy node is made, other nodes are forced, but not the node itself: whatever is forced on
the way can be made within less depth (`Plans.looks_modest`). So a node is remembered at most
once. Hence a getter that always gives a schema is called once for each of the lazy nodes that it
stands in and that have been forced (`World.Tallies`), whatever is looked up
(`Plans.looks_counted`).
-/

namespace TwoWay

/-! ## Less depth -/

namespace Plans

variable {plans : Plans}

/-- Made without memory, a lazy node that stands for a schema gives it, or goes too deep. -/
theorem Gives.result {id : LazyId} {origin : Origin} {s : Schema} (h : plans.Gives id origin s)
    (n : Nat) (w : World) : (plans.schemaOf n id origin).result w = Run.tooDeep ∨
      (plans.schemaOf n id origin).result w = .ok s := by
  obtain ⟨k, hk⟩ := h.deep
  have deeper := schemaOf_deeper plans (Nat.le_max_left n k) id origin w w
  rw [hk (max n k) (Nat.le_max_right n k) w] at deeper
  exact deeper.imp_right Eq.symm

theorem Defines.result {name : String} {s : Schema} (h : plans.Defines name s) (n : Nat)
    (w : World) : (plans.definitionOf n name).result w = Run.tooDeep ∨
      (plans.definitionOf n name).result w = .ok s := by
  obtain ⟨k, hk⟩ := h.deep
  have deeper := definitionOf_deeper plans (Nat.le_max_left n k) name w w
  rw [hk (max n k) (Nat.le_max_right n k) w] at deeper
  exact deeper.imp_right Eq.symm

theorem schemaOf_anywhere {n : Nat} {id : LazyId} {origin : Origin} {s : Schema} {w : World}
    (h : (plans.schemaOf n id origin).result w = .ok s) :
    (plans.schemaOf n id origin).result {} = .ok s := by
  have alike := schemaOf_deeper plans (Nat.le_refl n) id origin w {}
  rw [h] at alike
  exact alike.resolve_left (Run.ok_ne_tooDeep s)

theorem definitionOf_anywhere {n : Nat} {name : String} {s : Schema} {w : World}
    (h : (plans.definitionOf n name).result w = .ok s) :
    (plans.definitionOf n name).result {} = .ok s := by
  have alike := definitionOf_deeper plans (Nat.le_refl n) name w {}
  rw [h] at alike
  exact alike.resolve_left (Run.ok_ne_tooDeep s)

variable (plans)

/-- What a lazy node stands for can be made within a depth. -/
def Makeable (n : Nat) (node : LazyId × Origin) : Prop :=
  ∃ s, (plans.schemaOf n node.1 node.2).result {} = .ok s

variable {plans}

theorem Makeable.mono {m n : Nat} (h : m ≤ n) {node : LazyId × Origin}
    (hm : plans.Makeable m node) : plans.Makeable n node := by
  obtain ⟨s, hs⟩ := hm
  have deeper := schemaOf_deeper plans h node.1 node.2 {} {}
  rw [hs] at deeper
  exact ⟨s, deeper.resolve_left (Run.ok_ne_tooDeep s)⟩

variable (plans)

/-- A run that remembers, beside one that does not. Unless the latter goes too deep, the first one
ends like it or goes too deep itself, and what is new in the memory can be made within a depth. -/
def Modest (n : Nat) {α : Type} (m made : Run α) : Prop :=
  ∀ w w', plans.Faithful w → made.result w' = Run.tooDeep ∨
    plans.Faithful (m.final w) ∧ (m.result w = Run.tooDeep ∨ m.result w = made.result w') ∧
      ∀ e ∈ (m.final w).forced, e ∈ w.forced ∨ plans.Makeable n e.1

variable {plans}

namespace Modest

variable {n : Nat} {α β : Type} {m made : Run α}

theorem mono {n' : Nat} (h : plans.Modest n m made) (hn : n ≤ n') : plans.Modest n' m made :=
  fun w w' hw => (h w w' hw).imp_right fun ⟨faithful, ends, new⟩ =>
    ⟨faithful, ends, fun e he => (new e he).imp_right (.mono hn)⟩

theorem bind {k made' : α → Run β} (hm : plans.Modest n m made)
    (hk : ∀ a, plans.Modest n (k a) (made' a)) : plans.Modest n (m >>= k) (made >>= made') := by
  intro w w' hw
  simp only [Run.result_bind, Run.final_bind]
  rcases hm w w' hw with deep | ⟨faithful, ends, new⟩
  · rw [deep]
    exact .inl rfl
  · rcases ends with deep | same
    · rw [deep]
      exact .inr ⟨faithful, .inl rfl, new⟩
    · rw [← same]
      cases hr : m.result w with
      | error f => exact .inr ⟨faithful, .inr rfl, new⟩
      | ok a =>
        refine (hk a _ (made.final w') faithful).imp_right ?_
        rintro ⟨faithful', ends', new'⟩
        exact ⟨faithful', ends', fun e he => (new' e he).elim (new e) .inr⟩

/-- What is said beforehand does not matter. -/
theorem said {said : Run Unit} (hs : ∀ w, ∃ journal, said w = .ok () { w with journal := journal })
    (h : plans.Modest n m made) : plans.Modest n (do said; m) made := by
  intro w w' hw
  obtain ⟨journal, hsaid⟩ := hs w
  have same : (do said; m : Run α) w = m { w with journal := journal } := Run.bind_of_ok hsaid
  have := h { w with journal := journal } w' (hw.of_memory rfl rfl)
  simpa only [Run.result, Run.final, same] using this

end Modest

variable (plans) in
/-- What is made with a memory within a depth, however it is put together. -/
def modest (n : Nat) : Run.Law Bool where
  Holds m := plans.Modest n (m false) (m true)
  pure _ _ _ hw := .inr ⟨hw, .inr rfl, fun _ => .inl⟩
  fail _ _ _ hw := .inr ⟨hw, .inr rfl, fun _ => .inl⟩
  log _ _ _ hw := .inr ⟨hw.of_memory rfl rfl, .inr rfl, fun _ => .inl⟩
  bind := .bind

/-- What is remembered was made before, and what is made is remembered from then on. -/
theorem Modest.lookUp {n : Nat} {k : World → Option Schema} {m made : Run Schema}
    {keep : Schema → World → World} (h : plans.Modest n m made)
    (known : ∀ w s, plans.Faithful w → k w = some s → ∀ w',
      made.result w' = Run.tooDeep ∨ made.result w' = .ok s)
    (kept : ∀ w s w', plans.Faithful w → made.result w' = .ok s → plans.Faithful (keep s w) ∧
      ∀ e ∈ (keep s w).forced, e ∈ w.forced ∨ plans.Makeable (n + 1) e.1) :
    plans.Modest (n + 1) (do
      match k (← get) with
      | some s => return s
      | none => do
        let s ← m
        modify (keep s)
        return s) made := by
  intro w w' hw
  simp only [Run.result_bind, Run.final_bind, Run.result_get, Run.final_get]
  cases hmem : k w with
  | some s =>
    exact (known w s hw hmem w').imp_right fun given => ⟨hw, .inr given.symm, fun _ => .inl⟩
  | none =>
    simp only [Run.result_bind, Run.final_bind]
    refine (h w w' hw).imp_right ?_
    rintro ⟨faithful, ends, new⟩
    replace new := fun e he => (new e he).imp_right (Makeable.mono (Nat.le_succ n))
    cases hr : m.result w with
    | error f =>
      rw [hr] at ends
      exact ⟨faithful, ends, new⟩
    | ok s =>
      have same := ends.resolve_left (hr ▸ Run.ok_ne_tooDeep s)
      rw [hr] at same
      obtain ⟨faithful, more⟩ := kept _ s w' faithful same.symm
      exact ⟨faithful, .inr same, fun e he => (more e he).elim (new e) .inr⟩

theorem Modest.forced {n depth : Nat} {id : LazyId} {origin : Origin}
    (h : plans.Modest n (plans.unforced depth id origin) (plans.schemaOf (n + 1) id origin)) :
    plans.Modest (n + 1) (plans.force (depth + 1) id origin)
      (plans.schemaOf (n + 1) id origin) := by
  rw [force_succ]
  refine h.lookUp (fun w s hw known w' => (hw.gives known).result (n + 1) w') ?_
  intro w s w' hw made
  have given := schemaOf_anywhere made
  refine ⟨⟨List.forall_mem_cons.2 ⟨⟨n + 1, given⟩, hw.forced⟩, hw.shared⟩, ?_⟩
  exact List.forall_mem_cons.2 ⟨.inr ⟨s, given⟩, fun _ => .inl⟩

theorem Modest.shared {n depth : Nat} {name : String}
    (h : plans.Modest n (((plans.definition name).build
      ⟨⟨.shared name, plans.tagsBehind depth⟩, plans.shared depth⟩).run' 0)
      (plans.definitionOf (n + 1) name)) :
    plans.Modest (n + 1) (plans.shared (depth + 1) name) (plans.definitionOf (n + 1) name) := by
  rw [Plans.shared]
  refine h.lookUp (fun w s hw known w' => (hw.defines known).result (n + 1) w') ?_
  intro w s w' hw made
  have defines : plans.Defines name s := ⟨n + 1, definitionOf_anywhere made⟩
  exact ⟨⟨hw.forced, List.forall_mem_cons.2 ⟨defines, hw.shared⟩⟩, fun _ => .inl⟩

/-- A getter is called, and may note its label. -/
theorem announced (plans : Plans) (fn : FunctionRef) (w : World) :
    ∃ notes, (∀ e ∈ notes, ∃ entry, e = .noted entry) ∧
      (do Run.record (.called fn []); noteLabel (plans.getter fn) : Run Unit) w =
        .ok () { w with journal := notes ++ .called fn [] :: w.journal } := by
  cases hlabel : (plans.getter fn).label with
  | none =>
    refine ⟨[], List.forall_mem_nil _, ?_⟩
    simp only [noteLabel, hlabel]
    rfl
  | some label =>
    refine ⟨[.noted (.list .free [.str "getter", .str label])],
      List.forall_mem_singleton.2 ⟨_, rfl⟩, ?_⟩
    simp only [noteLabel, hlabel]
    rfl

section
variable {n depth : Nat} (ht : ∀ id origin, plans.Modest n (plans.tagsBehind depth id origin)
  (plans.tagsOf n id origin))
include ht

/-- Building stays within the depth in which tags and shared definitions are looked up. -/
theorem Modest.build
    (hs : ∀ name, plans.Modest n (plans.shared depth name) (plans.definitionOf n name))
    (owner : LazyId) (b : Blueprint) :
    plans.Modest n ((b.build ⟨⟨owner, plans.tagsBehind depth⟩, plans.shared depth⟩).run' 0)
      ((b.build ⟨⟨owner, plans.tagsOf n⟩, plans.definitionOf n⟩).run' 0) := by
  have tags : ∀ id origin, (plans.modest n).Holds fun made =>
      (bif made then plans.tagsOf n else plans.tagsBehind depth) id origin := ht
  have definitions : ∀ name, (plans.modest n).Holds fun made =>
      (bif made then plans.definitionOf n else plans.shared depth) name := hs
  exact Run.Law.Makes.run (Run.Law.build tags definitions b)

theorem Modest.invert (owner : LazyId) (settings : InversionSettings) (s : Schema) :
    plans.Modest n ((s.invertWith ⟨owner, plans.tagsBehind depth⟩ settings).run' 0)
      ((s.invertWith ⟨owner, plans.tagsOf n⟩ settings).run' 0) := by
  have tags : ∀ id origin, (plans.modest n).Holds fun made =>
      (bif made then plans.tagsOf n else plans.tagsBehind depth) id origin := ht
  exact Run.Law.Makes.run (Run.Law.invertWith tags s)

theorem Modest.tagValues (s : Schema) :
    plans.Modest n (s.tagValues (plans.tagsBehind depth)) (s.tagValues (plans.tagsOf n)) := by
  have tags : ∀ id origin, (plans.modest n).Holds fun made =>
      (bif made then plans.tagsOf n else plans.tagsBehind depth) id origin := ht
  exact Run.Law.tagValues tags s

end

/-- Every look-up that remembers stays within the depth of one that does not. -/
theorem looks_modest (plans : Plans) (depth : Nat) : ∀ n,
    (∀ id origin, plans.Modest n (plans.force depth id origin) (plans.schemaOf n id origin)) ∧
    (∀ id origin, plans.Modest n (plans.tagsBehind depth id origin) (plans.tagsOf n id origin)) ∧
    ∀ name, plans.Modest n (plans.shared depth name) (plans.definitionOf n name) := by
  induction depth with
  | zero =>
    have deep {α : Type} (n : Nat) (made : Run α) :
        plans.Modest n (throw (.fault .tooDeep)) made :=
      fun _ _ hw => .inr ⟨hw, .inl rfl, fun _ => .inl⟩
    exact fun n => ⟨fun _ _ => deep n _, fun _ _ => deep n _, fun _ => deep n _⟩
  | succ depth ih =>
    intro n
    cases n with
    | zero => exact ⟨fun _ _ _ _ _ => .inl rfl, fun _ _ _ _ _ => .inl rfl, fun _ _ _ _ => .inl rfl⟩
    | succ n =>
      obtain ⟨forced, tagged, defined⟩ := ih n
      refine ⟨fun id origin => .forced ?_, fun id origin => ?_,
        fun name => .shared (.build tagged defined _ _)⟩
      · cases origin with
        | getter fn =>
          refine .said (fun w => ?_) (.build tagged defined id _)
          obtain ⟨notes, -, said⟩ := plans.announced fn w
          exact ⟨_, said⟩
        | inverse settings base of =>
          exact (forced base of).bind fun s => .invert tagged id settings s
      · exact .mono (.bind (forced id origin) (.tagValues tagged)) (Nat.le_succ n)

end Plans

/-! ## Calls of getters -/

/-- Whether an event is a call of a getter. -/
def Event.isCallOf (fn : FunctionRef) : Event → Bool
  | .called g args => decide (g = fn) && args.isEmpty
  | _ => false

namespace World

/-- How often a getter was called. -/
def calls (w : World) (fn : FunctionRef) : Nat := w.journal.countP (·.isCallOf fn)

/-- The lazy nodes with a getter that have been forced. -/
def builtBy (w : World) (fn : FunctionRef) : List LazyId :=
  (w.forced.filter fun e => e.1.2 = .getter fn).map (·.1.1)

/-- Apart from some calls, a getter was called once for each lazy node that it was to build. -/
structure Tallies (w : World) (fn : FunctionRef) (others : Nat) : Prop where
  distinct : (w.builtBy fn).Nodup
  calls : w.calls fn = (w.builtBy fn).length + others

variable {w : World} {fn : FunctionRef} {others : Nat}

theorem mem_builtBy {id : LazyId} :
    id ∈ w.builtBy fn ↔ ∃ s, ((id, .getter fn), s) ∈ w.forced := by
  simp [builtBy]

theorem Tallies.empty (fn : FunctionRef) : ({} : World).Tallies fn 0 := ⟨.nil, rfl⟩

/-- The journal may go on with whatever is no call. -/
theorem Tallies.goesOn (h : w.Tallies fn others) {events : List Event}
    (he : ∀ e ∈ events, e.isCallOf fn = false) :
    { w with journal := events ++ w.journal : World }.Tallies fn others := by
  refine ⟨h.distinct, Eq.trans ?_ h.calls⟩
  have none : events.countP (·.isCallOf fn) = 0 := List.countP_eq_zero.2 fun e hmem => by
    simp [he e hmem]
  simp only [World.calls, List.countP_append, none, Nat.zero_add]

theorem Tallies.record (h : w.Tallies fn others) {e : Event} (he : e.isCallOf fn = false) :
    (w.record e).Tallies fn others := h.goesOn (List.forall_mem_singleton.2 he)

theorem Tallies.called (h : w.Tallies fn others) :
    (w.record (.called fn [])).Tallies fn (others + 1) := by
  refine ⟨h.distinct, ?_⟩
  have counted := h.calls
  simp only [World.calls, builtBy, World.record, Event.isCallOf, List.countP_cons, decide_true,
    List.isEmpty_nil, Bool.and_self, if_true] at counted ⊢
  omega

/-- What a getter has built when it was called is remembered. -/
theorem Tallies.built (h : w.Tallies fn (others + 1)) {id : LazyId} (new : id ∉ w.builtBy fn)
    (s : Schema) :
    { w with forced := ((id, .getter fn), s) :: w.forced : World }.Tallies fn others := by
  have extended : { w with forced := ((id, .getter fn), s) :: w.forced : World }.builtBy fn =
      id :: w.builtBy fn := by simp [builtBy]
  constructor
  · rw [extended]
    exact List.nodup_cons.2 ⟨new, h.distinct⟩
  · rw [extended, List.length_cons]
    have counted := h.calls
    simp only [World.calls] at counted ⊢
    omega

theorem Tallies.remembered (h : w.Tallies fn others) {id : LazyId} {origin : Origin}
    (other : origin ≠ .getter fn) (s : Schema) :
    { w with forced := ((id, origin), s) :: w.forced : World }.Tallies fn others := by
  have same : { w with forced := ((id, origin), s) :: w.forced : World }.builtBy fn =
      w.builtBy fn := by simp [builtBy, other]
  exact ⟨same ▸ h.distinct, same ▸ h.calls⟩

end World

namespace Plans

/-- A getter that gives a schema whenever it is called. -/
def Returns (plans : Plans) (fn : FunctionRef) : Prop := ∀ id, ∃ s, plans.Gives id (.getter fn) s

/-- A run that calls a getter only to build lazy nodes that were not built before, unless it goes
too deep. -/
def Counted (plans : Plans) (fn : FunctionRef) {α : Type} (m : Run α) : Prop :=
  ∀ w, plans.Faithful w → plans.Faithful (m.final w) ∧ (m.result w = Run.tooDeep ∨
    ∀ others, w.Tallies fn others → (m.final w).Tallies fn others)

variable {plans : Plans} {fn : FunctionRef}

namespace Counted

variable {α β : Type} {m : Run α}

/-- Runs that do not touch memory and journal. -/
theorem still (h : ∀ w, m.final w = w) : plans.Counted fn m :=
  fun w hw => by simpa only [h] using ⟨hw, .inr fun _ tallies => tallies⟩

theorem record {e : Event} (he : e.isCallOf fn = false) : plans.Counted fn (Run.record e) :=
  fun _ hw => ⟨hw.of_memory rfl rfl, .inr fun _ tallies => tallies.record he⟩

theorem bind {k : α → Run β} (hm : plans.Counted fn m) (hk : ∀ a, plans.Counted fn (k a)) :
    plans.Counted fn (m >>= k) := by
  intro w hw
  obtain ⟨faithful, counted⟩ := hm w hw
  simp only [Run.result_bind, Run.final_bind]
  cases hr : m.result w with
  | error f =>
    rw [hr] at counted
    exact ⟨faithful, counted.imp_left fun deep => by rw [Except.error.inj deep]⟩
  | ok a =>
    obtain ⟨faithful', counted'⟩ := hk a _ faithful
    refine ⟨faithful', counted'.imp_right fun next others tallies => ?_⟩
    exact next others (counted.resolve_left (hr ▸ Run.ok_ne_tooDeep a) others tallies)

end Counted

variable (plans fn) in
/-- Calls are counted however runs are put together. -/
def counting : Run.Law Unit where
  Holds m := plans.Counted fn (m ())
  pure _ := .still fun _ => rfl
  fail _ := .still fun _ => rfl
  log _ := .record rfl
  bind := .bind

/-- A lazy node that is forced was remembered, or it is made and remembered from then on. -/
theorem force_cases {depth : Nat} {id : LazyId} {origin : Origin} {w w' : World} {s : Schema}
    (h : plans.force (depth + 1) id origin w = .ok s w') :
    (w.forced? id origin = some s ∧ w' = w) ∨ w.forced? id origin = none ∧
      ∃ u, plans.unforced depth id origin w = .ok s u ∧
        w' = { u with forced := ((id, origin), s) :: u.forced } := by
  rw [force_succ] at h
  obtain ⟨_, _, hget, h⟩ := Run.bind_ok.1 h
  cases hget
  cases hmem : w.forced? id origin with
  | some t =>
    rw [hmem] at h
    cases h
    exact .inl ⟨rfl, rfl⟩
  | none =>
    rw [hmem] at h
    obtain ⟨t, u, made, h⟩ := Run.bind_ok.1 h
    cases h
    exact .inr ⟨rfl, u, made, rfl⟩

/-- A lazy node is not forced while it is made. -/
theorem not_forced_within {fn : FunctionRef} {id : LazyId} {depth : Nat} {s t : Schema}
    (gives : plans.Gives id (.getter fn) t) {w u : World} (hw : plans.Faithful w)
    (new : id ∉ w.builtBy fn)
    (made : ((plans.getter fn).schema.build
      ⟨⟨id, plans.tagsBehind depth⟩, plans.shared depth⟩).run' 0 w = .ok s u) :
    id ∉ u.builtBy fn := by
  classical
  have makeable : ∃ n, plans.Makeable n (id, .getter fn) := by
    obtain ⟨n, hn⟩ := gives
    exact ⟨n, t, hn⟩
  -- With the least depth in which the node can be made, nothing forced on the way is the node.
  obtain ⟨n, hn⟩ : ∃ n, Nat.find makeable = n + 1 := by
    refine Nat.exists_eq_succ_of_ne_zero fun zero => ?_
    obtain ⟨_, h⟩ := zero ▸ Nat.find_spec makeable
    cases h
  obtain ⟨t', ht'⟩ := hn ▸ Nat.find_spec makeable
  have less : ¬plans.Makeable n (id, .getter fn) := Nat.find_min makeable (by omega)
  obtain ⟨-, tagged, defined⟩ := plans.looks_modest depth n
  have ends := Modest.build tagged defined id (plans.getter fn).schema w {} hw
  obtain ⟨-, -, forced⟩ := ends.resolve_left fun deep => by
    cases ht'.symm.trans deep
  intro mem
  obtain ⟨r, hr⟩ := World.mem_builtBy.1 mem
  simp only [Run.final, made] at forced
  exact (forced _ hr).elim (fun old => new (World.mem_builtBy.2 ⟨r, old⟩)) less

namespace Counted

/-- A getter that gives a schema is called for a lazy node once. -/
theorem getter (hf : plans.Returns fn) {id : LazyId} {depth : Nat}
    (built : plans.Counted fn (((plans.getter fn).schema.build
      ⟨⟨id, plans.tagsBehind depth⟩, plans.shared depth⟩).run' 0)) :
    plans.Counted fn (plans.force (depth + 1) id (.getter fn)) := by
  intro w hw
  refine ⟨hw.force _ _ _, ?_⟩
  obtain ⟨t, gives⟩ := hf id
  cases h : plans.force (depth + 1) id (.getter fn) w with
  | error f w' =>
    refine .inl ?_
    rw [Run.result, h, gives.not_fails (force_error hw h).2]
  | ok s w' =>
    refine .inr fun others tallies => ?_
    rw [Run.final, h]
    rcases force_cases h with ⟨-, rfl⟩ | ⟨absent, u, made, rfl⟩
    · exact tallies
    · obtain ⟨notes, noted, said⟩ := plans.announced fn w
      have hv : plans.Faithful { w with journal := notes ++ .called fn [] :: w.journal } :=
        hw.of_memory rfl rfl
      have run := (Run.bind_of_ok said).symm.trans made
      have new : id ∉ w.builtBy fn := fun mem => by
        obtain ⟨r, hr⟩ := World.mem_builtBy.1 mem
        have differs := List.lookup_eq_none_iff.1 absent _ hr
        simp at differs
      have called : World.Tallies { w with journal := notes ++ .called fn [] :: w.journal } fn
          (others + 1) := tallies.called.goesOn fun e he => by
        obtain ⟨entry, rfl⟩ := noted e he
        rfl
      have counted := (built _ hv).2
      simp only [Run.result, Run.final, run, reduceCtorEq, false_or] at counted
      exact (counted _ called).built (not_forced_within gives hv new run) s

/-- What is remembered does not count, unless it comes from the getter. -/
theorem lookUp {k : World → Option Schema} {m : Run Schema} {keep : Schema → World → World}
    (made : plans.Counted fn m)
    (hk : ∀ s w others, w.Tallies fn others → (keep s w).Tallies fn others)
    (faithful : ∀ w, plans.Faithful w → plans.Faithful (Run.final (do
      match k (← get) with
      | some s => return s
      | none => do
        let s ← m
        modify (keep s)
        return s) w)) :
    plans.Counted fn (do
      match k (← get) with
      | some s => return s
      | none => do
        let s ← m
        modify (keep s)
        return s) := by
  intro w hw
  refine ⟨faithful w hw, ?_⟩
  simp only [Run.result_bind, Run.final_bind, Run.result_get, Run.final_get]
  cases k w with
  | some s => exact .inr fun _ tallies => tallies
  | none =>
    simp only [Run.result_bind, Run.final_bind]
    have counted := (made w hw).2
    cases hr : m.result w with
    | error f =>
      rw [hr] at counted
      exact counted
    | ok s =>
      refine .inr fun others tallies => ?_
      exact hk s _ others (counted.resolve_left (hr ▸ Run.ok_ne_tooDeep s) others tallies)

theorem forced {depth : Nat} {id : LazyId} {origin : Origin} (other : origin ≠ .getter fn)
    (made : plans.Counted fn (plans.unforced depth id origin)) :
    plans.Counted fn (plans.force (depth + 1) id origin) := by
  have faithful (w : World) (hw : plans.Faithful w) := hw.force (depth + 1) id origin
  simp only [force_succ] at faithful ⊢
  exact lookUp (k := (·.forced? id origin)) made
    (fun s _ _ tallies => tallies.remembered other s) faithful

end Counted

section
variable {depth : Nat} (ht : ∀ id origin, plans.Counted fn (plans.tagsBehind depth id origin))
include ht

theorem Counted.build (hs : ∀ name, plans.Counted fn (plans.shared depth name)) (owner : LazyId)
    (b : Blueprint) :
    plans.Counted fn ((b.build ⟨⟨owner, plans.tagsBehind depth⟩, plans.shared depth⟩).run' 0) := by
  have tags : ∀ id origin, (plans.counting fn).Holds fun _ => plans.tagsBehind depth id origin := ht
  have definitions : ∀ name, (plans.counting fn).Holds fun _ => plans.shared depth name := hs
  exact Run.Law.Makes.run (Run.Law.build tags definitions b)

theorem Counted.invert (owner : LazyId) (settings : InversionSettings) (s : Schema) :
    plans.Counted fn ((s.invertWith ⟨owner, plans.tagsBehind depth⟩ settings).run' 0) := by
  have tags : ∀ id origin, (plans.counting fn).Holds fun _ => plans.tagsBehind depth id origin := ht
  exact Run.Law.Makes.run (Run.Law.invertWith tags s)

theorem Counted.tagValues (s : Schema) :
    plans.Counted fn (s.tagValues (plans.tagsBehind depth)) := by
  have tags : ∀ id origin, (plans.counting fn).Holds fun _ => plans.tagsBehind depth id origin := ht
  exact Run.Law.tagValues tags s

end

/-- Whatever is looked up, a getter that gives a schema is called for each lazy node once. -/
theorem looks_counted (hf : plans.Returns fn) (depth : Nat) :
    (∀ id origin, plans.Counted fn (plans.force depth id origin)) ∧
    (∀ id origin, plans.Counted fn (plans.tagsBehind depth id origin)) ∧
    ∀ name, plans.Counted fn (plans.shared depth name) := by
  induction depth with
  | zero =>
    have deep {α : Type} : plans.Counted fn (throw (.fault .tooDeep) : Run α) := .still fun _ => rfl
    exact ⟨fun _ _ => deep, fun _ _ => deep, fun _ => deep⟩
  | succ depth ih =>
    obtain ⟨forced, tagged, defined⟩ := ih
    refine ⟨fun id origin => ?_, fun id origin => .bind (forced id origin) (.tagValues tagged),
      fun name => ?_⟩
    · cases origin with
      | getter g =>
        by_cases same : g = fn
        · exact same ▸ .getter hf (same ▸ .build tagged defined id _)
        · refine .forced (fun h => same (Origin.getter.inj h))
            (.bind ?_ fun _ => .build tagged defined id _)
          refine .bind (.record (by simp [Event.isCallOf, same])) fun _ => ?_
          unfold noteLabel
          split
          · exact .record rfl
          · exact .still fun _ => rfl
      | inverse settings base of =>
        exact .forced (by simp) (.bind (forced base of) fun s => .invert tagged id settings s)
    · have faithful (w : World) (hw : plans.Faithful w) :=
        ((remembers (depth + 1)).shared name w hw).1.faithful
      simp only [Plans.shared] at faithful ⊢
      exact .lookUp (.build tagged defined _ _)
        (fun _ _ _ tallies => ⟨tallies.distinct, tallies.calls⟩) faithful

end Plans
end TwoWay
