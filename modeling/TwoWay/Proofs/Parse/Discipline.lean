import TwoWay.Proofs.Forcing.Quiet
import TwoWay.Proofs.Parse.Nodes

/-!
# Disciplines of parses

A discipline is a property of families of runs, say of the same parse in both modes, that runs
have which see neither memory nor journal and that sequencing keeps. Whatever a node does beyond
its own tree it does through its channel, so that a discipline which the channels keep is kept by
every node (`Schema.parses`). The values that runs hand on keep to an allowance all the while.
-/

namespace TwoWay

/-- The schema whose output a node hands to a function, and the function. It is handed clean
outputs only. -/
def Schema.mapping? : Schema → Option (Schema × Action Live)
  | .effect .transform action _ inner => some (inner, action)
  | .invertible input parse _ _ => some (input, .custom parse)
  | _ => Option.none

/-- The function that a node runs on whatever it is given, clean or not. -/
def Schema.ungated? : Schema → Option (Action Live)
  | .effect .preprocess action _ _ | .effect .refinement action _ _ => some action
  | _ => Option.none

/-- A property of families of runs that start in faithful worlds. -/
structure Discipline (plans : Plans) (ι : Type) where
  Holds : ∀ {α : Type}, (ι → Run α) → Prop
  blind : ∀ {α : Type} {m : Run α}, m.Blind → Holds fun _ => m
  idle : ∀ {e : Event}, e.isIdle → Holds fun _ => Run.record e
  bind : ∀ {α β : Type} {m : ι → Run α} {k : ι → α → Run β} {Q : α → Prop},
    Holds m → (∀ i, plans.Ensures (m i) Q) → (∀ a, Q a → Holds fun i => k i a) →
    Holds fun i => m i >>= k i

variable {plans : Plans} {ι : Type}

/-- The runs keep to a discipline, and what they give has `Q`. -/
structure Discipline.Obeys (D : Discipline plans ι) {α : Type} (m : ι → Run α) (Q : α → Prop) :
    Prop where
  holds : D.Holds m
  ensures : ∀ i, plans.Ensures (m i) Q

namespace Discipline.Obeys

variable {D : Discipline plans ι} {α β : Type} {P : α → Prop} {Q : β → Prop}

theorem blind {m : Run α} (hb : m.Blind) (he : plans.Ensures m P) : D.Obeys (fun _ => m) P :=
  ⟨D.blind hb, fun _ => he⟩

theorem idle {e : Event} (h : e.isIdle) : D.Obeys (fun _ => Run.record e) fun _ => True :=
  ⟨D.idle h, fun _ => .record e⟩

theorem pure {a : α} (h : P a) : D.Obeys (fun _ => Pure.pure a) P := blind (.pure a) (.pure h)

theorem throw (f : Failure) : D.Obeys (fun _ => throw f) P := blind (.throw f) (.throw f P)

theorem bind {m : ι → Run α} {k : ι → α → Run β} (hm : D.Obeys m P)
    (hk : ∀ a, P a → D.Obeys (fun i => k i a) Q) : D.Obeys (fun i => m i >>= k i) Q :=
  ⟨D.bind hm.holds hm.ensures fun a ha => (hk a ha).holds,
    fun i => .bind (hm.ensures i) fun a ha => (hk a ha).ensures i⟩

theorem weaken {m : ι → Run α} {R : α → Prop} (h : D.Obeys m P) (hr : ∀ a, P a → R a) :
    D.Obeys m R := ⟨h.holds, fun i => (h.ensures i).weaken hr⟩

/-- What runs give does not matter. -/
theorem plain {m : ι → Run α} (h : D.Obeys m P) : D.Obeys m fun _ => True :=
  h.weaken fun _ _ => trivial

theorem map {m : ι → Run α} (f : α → β) (h : D.Obeys m P) (hf : ∀ a, P a → Q (f a)) :
    D.Obeys (fun i => f <$> m i) Q := by
  simpa only [bind_pure_comp] using h.bind (k := fun _ a => Pure.pure (f a)) fun a ha =>
    pure (hf a ha)

/-- Going on to give something else. -/
theorem give {m : ι → Run α} (h : D.Obeys m P) (f : α → β) (hf : ∀ a, P a → Q (f a)) :
    D.Obeys (fun i => do return f (← m i)) Q := h.bind fun a ha => pure (hf a ha)

end Discipline.Obeys

variable {D : Discipline plans ι}

/-! ## Lists of values -/

section
variable {parse key : ι → Path Live → Datum → Run Parsed}

theorem runItems_obeys {items : List Datum} (path : Path Live) (n : Nat)
    (h : ∀ p, ∀ x ∈ items, D.Obeys (fun i => parse i p x) fun _ => True) :
    D.Obeys (fun i => runItems (parse i) path n items) fun _ => True := by
  induction items generalizing n with
  | nil => exact .pure trivial
  | cons x rest ih =>
    refine .bind (h _ x (List.mem_cons_self ..)) fun r _ => ?_
    exact .give (ih (n + 1) fun p y hy => h p y (List.mem_cons_of_mem _ hy)) _ fun _ _ => trivial

theorem runValues_obeys {entries : Entries Live} (path : Path Live)
    (h : ∀ p, ∀ e ∈ entries, D.Obeys (fun i => parse i p e.2) fun _ => True) :
    D.Obeys (fun i => runValues (parse i) path entries) fun _ => True := by
  induction entries with
  | nil => exact .pure trivial
  | cons e rest ih =>
    refine .bind (h _ e (List.mem_cons_self ..)) fun r _ => ?_
    exact .give (ih fun p e he => h p e (List.mem_cons_of_mem _ he)) _ fun _ _ => trivial

theorem Rebuilt.add_obeys (b : Rebuilt) (key value : Parsed) :
    D.Obeys (fun _ => b.add key value) fun _ => True := by
  unfold Rebuilt.add
  dsimp only
  split
  · exact .pure trivial
  · exact .bind (.blind (.requireHashable _) (.requireHashable _)) fun _ _ => .pure trivial

theorem runEntries_obeys {entries : Entries Live} (keyPath valuePath : Nat → Datum → Path Live)
    (n : Nat) (b : Rebuilt)
    (hk : ∀ p, ∀ e ∈ entries, D.Obeys (fun i => key i p e.1) fun _ => True)
    (hv : ∀ p, ∀ e ∈ entries, D.Obeys (fun i => parse i p e.2) fun _ => True) :
    D.Obeys (fun i => runEntries (key i) (parse i) keyPath valuePath n entries b)
      fun _ => True := by
  induction entries generalizing n b with
  | nil => exact .pure trivial
  | cons e rest ih =>
    refine .bind (hk _ e (List.mem_cons_self ..)) fun k _ => ?_
    refine .bind (hv _ e (List.mem_cons_self ..)) fun v _ => ?_
    refine .bind (b.add_obeys k v) fun b' _ => ?_
    exact ih (n + 1) b' (fun p e he => hk p e (List.mem_cons_of_mem _ he))
      fun p e he => hv p e (List.mem_cons_of_mem _ he)

theorem requireEach_obeys (values : List Datum) :
    D.Obeys (fun _ => forIn values PUnit.unit fun v _ => do
      Run.requireHashable v
      pure (ForInStep.yield PUnit.unit)) fun _ => True := by
  induction values with
  | nil => exact .pure trivial
  | cons v rest ih =>
    simp only [List.forIn_cons, bind_assoc]
    exact .bind (.blind (.requireHashable v) (.requireHashable v)) fun _ _ => ih

theorem setResult_obeys (readOnly : Bool) (rs : List Parsed) :
    D.Obeys (fun _ => setResult readOnly rs) fun _ => True := by
  unfold setResult
  split
  · exact .pure trivial
  · exact .bind (requireEach_obeys _) fun _ _ => .pure trivial

end

/-- The output of a clean result. -/
theorem Parsed.Keeps.clean {a : Allowance} {path : Path Live} {absent : Prop} {r : Parsed}
    (h : r.Keeps a path absent) (clean : r.isClean) : r.value.KeepsOr a True :=
  (h.output (by simpa using (Bool.and_eq_true_iff.1 clean).1)).weaken fun _ => trivial

/-- Going on from a clean result. -/
theorem Parsed.andThen_obeys (r : Parsed) {next : ι → Datum → Run Parsed}
    (h : r.isClean → D.Obeys (fun i => next i r.value) fun _ => True) :
    D.Obeys (fun i => r.andThen (next i)) fun _ => True := by
  unfold Parsed.andThen
  split
  · exact h ‹_›
  · exact .pure trivial

/-! ## Lists of schemas -/

variable {a : Allowance} {ch : ι → Channel} {path : Path Live}

/-- A schema parses under a discipline, and its results keep to an allowance. -/
def Schema.Parses (D : Discipline plans ι) (a : Allowance) (ch : ι → Channel) (s : Schema) :
    Prop :=
  ∀ path v, v.KeepsOr a True → D.Obeys (fun i => s.runWith (ch i).links path v)
    (·.Keeps a path (v = .missing))

theorem runFields_obeys {shape : List (String × Schema)} {entries : Entries Live}
    (he : entries.Keeps a) (h : ∀ f ∈ shape, f.2.Parses D a ch) :
    D.Obeys (fun i => runFields (ch i).links shape path entries) fun _ => True := by
  induction shape with
  | nil => exact .pure trivial
  | cons f rest ih =>
    obtain ⟨hf, hrest⟩ := List.forall_mem_cons.1 h
    have arrives := (valueAt_keeps he f.1).imp_right fun h => And.intro trivial h
    exact .bind (hf _ _ arrives) fun r _ => .give (ih hrest) _ fun _ _ => trivial

theorem runOptions_obeys {options : List Schema} {v : Datum} (hv : v.KeepsOr a True)
    (h : ∀ s ∈ options, s.Parses D a ch) (tried : List Parsed) :
    D.Obeys (fun i => runOptions (ch i).links options path v tried) fun _ => True := by
  induction options generalizing tried with
  | nil => exact .pure trivial
  | cons s rest ih =>
    obtain ⟨hs, hrest⟩ := List.forall_mem_cons.1 h
    refine .bind (hs path v hv) fun r _ => ?_
    split
    · exact .pure trivial
    · exact ih hrest _

theorem runOption_obeys {options : List Schema} {v : Datum} (hv : v.KeepsOr a True) (n : Nat)
    (h : ∀ s ∈ options, s.Parses D a ch) :
    D.Obeys (fun i => runOption (ch i).links options n path v) fun _ => True := by
  induction options generalizing n with
  | nil => exact .pure trivial
  | cons s rest ih =>
    obtain ⟨hs, hrest⟩ := List.forall_mem_cons.1 h
    cases n with
    | zero => exact (hs path v hv).plain
    | succ n => exact ih n hrest

theorem runTupleItems_obeys {items : List Schema} {rest : ι → Path Live → Datum → Run Parsed}
    {vs : List Datum} (n : Nat) (hv : ∀ x ∈ vs, x.Keeps a) (h : ∀ s ∈ items, s.Parses D a ch)
    (hrest : ∀ p, ∀ x ∈ vs, D.Obeys (fun i => rest i p x) fun _ => True) :
    D.Obeys (fun i => runTupleItems (ch i).links items (rest i) path n vs) fun _ => True := by
  induction items generalizing n vs with
  | nil => exact runItems_obeys path n hrest
  | cons s ss ih =>
    cases vs with
    | nil => exact .pure trivial
    | cons x vs =>
      obtain ⟨hs, hss⟩ := List.forall_mem_cons.1 h
      obtain ⟨hx, hvs⟩ := List.forall_mem_cons.1 hv
      refine .bind (hs _ x (.inl hx)) fun r _ => ?_
      exact .give (ih (n + 1) hvs hss fun p y hy => hrest p y (List.mem_cons_of_mem _ hy)) _
        fun _ _ => trivial

/-! ## Nodes -/

/-- The functions that nodes run keep to a discipline. -/
structure Channel.Calls (D : Discipline plans ι) (a : Allowance) (ch : ι → Channel) : Prop where
  act : ∀ {s action}, a.schemas s → s.ungated? = some action → ∀ path v, v.KeepsOr a True →
    D.Holds fun i => (ch i).links.act action path v
  mapped : ∀ {s wrapped action}, a.schemas s → s.mapping? = some (wrapped, action) →
    wrapped.Parses D a ch → ∀ path v, v.KeepsOr a True → D.Holds fun i => do
      (← wrapped.runWith (ch i).links path v).andThen ((ch i).links.apply action path)

/-- Channels that follow an allowance and keep to a discipline. -/
structure Channel.Obey (D : Discipline plans ι) (a : Allowance) (ch : ι → Channel) : Prop
    extends Channel.Calls D a ch where
  follows : ∀ i, (ch i).Follows plans a
  factory : ∀ {inner fn}, a.schemas (.default inner (.factory fn)) →
    D.Holds fun i => (ch i).links.supply (.factory fn)
  rescue : ∀ {inner fn}, a.schemas (.catch inner (.factory fn)) →
    ∀ issues, D.Holds fun i => (ch i).links.rescue issues (.factory fn)
  enter : ∀ id origin path v, a.schemas (.lazy id origin) → v.KeepsOr a True →
    D.Holds fun i => (ch i).links.enter id origin path v

namespace Channel.Obey

variable (h : Channel.Obey D a ch)
include h

theorem act_obeys {s : Schema} {action : Action Live} (hs : a.schemas s)
    (ha : s.ungated? = some action) (path : Path Live) {v : Datum} (hv : v.KeepsOr a True) :
    D.Obeys (fun i => (ch i).links.act action path v) (·.Delivers a path (v = .missing)) :=
  ⟨h.act hs ha path v hv, fun i => ((h.follows i).act action path v hv).ensures⟩

theorem apply_obeys {s : Schema} {action : Action Live} (hs : a.schemas s)
    (ha : s.ungated? = some action) (path : Path Live) {v : Datum} (hv : v.KeepsOr a True) :
    D.Obeys (fun i => (ch i).links.apply action path v) (·.Delivers a path (v = .missing)) := by
  refine .bind (h.act_obeys hs ha path hv) fun r hr => ?_
  exact .give (.blind (Value.numbered_blind _) hr.1.numbered) _ fun x hx => ⟨hx, hr.2⟩

theorem mapped_obeys {s wrapped : Schema} {action : Action Live} (hs : a.schemas s)
    (hm : s.mapping? = some (wrapped, action)) (hw : wrapped.Parses D a ch)
    (hf : ∀ i, wrapped.Follows plans a (ch i)) (path : Path Live) {v : Datum}
    (hv : v.KeepsOr a True) :
    D.Obeys (fun i => do
        (← wrapped.runWith (ch i).links path v).andThen ((ch i).links.apply action path))
      (·.Keeps a path (v = .missing)) := by
  refine ⟨h.mapped hs hm hw path v hv, fun i => ?_⟩
  have tracked := (hf i path v hv).andThen fun x hx =>
    Tracks.weaken ((h.follows i).apply action path (hx.weaken fun _ => trivial))
      fun r hr => hr.keeps
  exact tracked.ensures

theorem supply_obeys {inner : Schema} {supply : Supply Live} (hc : a.Closed plans)
    (hs : a.schemas (.default inner supply)) :
    D.Obeys (fun i => (ch i).links.supply supply) (·.Keeps a) := by
  cases supply with
  | value x => exact .pure (hc.supplied hs (by simp [Schema.supplied]))
  | factory fn => exact ⟨h.factory hs, fun i => (h.follows i).factory fn⟩

theorem rescue_obeys {inner : Schema} {supply : Supply Live} (hc : a.Closed plans)
    (hs : a.schemas (.catch inner supply)) (issues : List (Issue Live)) :
    D.Obeys (fun i => (ch i).links.rescue issues supply) (·.Keeps a) := by
  cases supply with
  | value x => exact .pure (hc.supplied hs (by simp [Schema.supplied]))
  | factory fn => exact ⟨h.rescue hs issues, fun i => (h.follows i).rescue issues fn⟩

end Channel.Obey

theorem Schema.tuple_obeys {items : List Schema} {rest : Option Schema}
    (hi : ∀ s ∈ items, s.Parses D a ch) (hr : ∀ s, rest = some s → s.Parses D a ch)
    (path : Path Live) {v : Datum} (hv : v.KeepsOr a True) :
    D.Obeys (fun i => (tuple items rest).runWith (ch i).links path v) fun _ => True := by
  simp only [runWith]
  cases hseq : v.sequence? with
  | none => exact .pure trivial
  | some seq =>
    obtain ⟨isTuple, vs⟩ := seq
    have kept := sequence_keeps hseq hv
    dsimp only
    split
    · exact .pure trivial
    · cases rest with
      | some s =>
        exact .give (runTupleItems_obeys 0 kept hi fun p x hx =>
          (hr s rfl p x (.inl (kept x hx))).plain) _ fun _ _ => trivial
      | none =>
        dsimp only
        split
        · exact .pure trivial
        · exact .give (runTupleItems_obeys 0 kept hi fun p x hx => .pure trivial) _
            fun _ _ => trivial

theorem Schema.object_obeys {shape : List (String × Schema)} {catchall : Option Schema}
    {policy : UnknownKeys} (hf : ∀ f ∈ shape, f.2.Parses D a ch)
    (hr : ∀ s, catchall = some s → s.Parses D a ch) (path : Path Live) {v : Datum}
    (hv : v.KeepsOr a True) :
    D.Obeys (fun i => (object shape catchall policy).runWith (ch i).links path v)
      fun _ => True := by
  cases v
  case dict access entries =>
    have entries := Value.keeps_dict.1 (hv.present rfl)
    have extra : (extraEntries shape _).Keeps a := fun e he => entries e (List.mem_filter.1 he).1
    simp only [runWith, Value.entries?]
    refine .bind (runFields_obeys entries hf) fun fs _ => ?_
    cases catchall with
    | none => exact .pure trivial
    | some c =>
      exact .give (runValues_obeys path fun p e he =>
        (hr c rfl p e.2 (.inl (extra e he).2)).plain) _ fun _ _ => trivial
  all_goals exact .pure trivial

theorem Schema.effect_obeys (hl : Channel.Obey D a ch) {kind : EffectKind} {action : Action Live}
    {elidable : Bool} {inner : Schema} (hs : a.schemas (.effect kind action elidable inner))
    (h : inner.Parses D a ch) (hf : ∀ i, inner.Follows plans a (ch i)) (path : Path Live)
    {v : Datum} (hv : v.KeepsOr a True) :
    D.Obeys (fun i => (effect kind action elidable inner).runWith (ch i).links path v)
      fun _ => True := by
  cases kind with
  | preprocess =>
    refine .bind (hl.apply_obeys hs rfl path hv) fun r hr => ?_
    split
    · exact (h path _ (hr.1.weaken fun _ => trivial)).plain
    · exact .pure trivial
  | refinement =>
    refine .bind (h path v hv) fun r hr => ?_
    split
    · exact .pure trivial
    · rename_i valid
      have output := hr.output (eq_false_of_ne_true valid)
      exact .give (hl.act_obeys hs rfl path (output.weaken fun _ => trivial)) _
        fun _ _ => trivial
  | transform => exact (hl.mapped_obeys hs rfl h hf path hv).plain

/-- Every schema parses under a discipline that the channels keep to. -/
theorem Schema.parses (hc : a.Closed plans) (hl : Channel.Obey D a ch) {s : Schema}
    (hs : a.schemas s) : s.Parses D a ch := by
  induction s using Schema.child_induction with
  | step s ih =>
    have follow : ∀ c ∈ s.children, ∀ i, c.Follows plans a (ch i) := fun c hmem i =>
      Schema.parseIn_tracks hc (hl.follows i) (hc.child hs hmem)
    replace ih : ∀ c ∈ s.children, c.Parses D a ch := fun c hmem => ih c hmem (hc.child hs hmem)
    intro path v hv
    -- What the results are like is known from `parseIn_tracks`; what is left is the discipline.
    suffices h : D.Obeys (fun i => s.runWith (ch i).links path v) fun _ => True from
      ⟨h.holds, fun i => (Schema.parseIn_tracks hc (hl.follows i) hs path v hv).ensures⟩
    have checked (m : Except Fault Parsed) : D.Obeys (fun _ => Run.liftFault m) fun _ => True :=
      .blind (.liftFault m) (.liftFault fun _ _ => trivial)
    have identity : D.Obeys (fun _ => Run.identity) fun _ => True := .blind .identity .identity
    cases s
    case string | number => exact checked _
    case boolean | none | never | literal | enum | any | unknown | foreign => exact .pure trivial
    case raw => exact .throw _
    case array element lengths =>
      have element := ih element (by simp [children])
      cases v
      case list access items =>
        have items := Value.keeps_list.1 (hv.present rfl)
        refine .bind (.blind (.liftFault _) (.liftFault fun _ _ => trivial)) fun own _ => ?_
        exact .give (runItems_obeys path 0 fun p x hx =>
          (element p x (.inl (items x hx))).plain) _ fun _ _ => trivial
      all_goals exact .pure trivial
    case set element =>
      have element := ih element (by simp [children])
      cases v
      case set readOnly items =>
        have items := Value.keeps_set.1 (hv.present rfl)
        exact .bind (runItems_obeys path 0 fun p x hx => (element p x (.inl (items x hx))).plain)
          fun rs _ => setResult_obeys readOnly rs
      all_goals exact .pure trivial
    case object shape catchall policy =>
      exact object_obeys (fun f hf => ih f.2 (by simp [children]; exact .inl ⟨f.1, hf⟩))
        (fun c hc => ih c (by simp [children, hc])) path hv
    case union options => exact runOptions_obeys hv ih []
    case tagged key options table =>
      cases v
      case dict access entries =>
        simp only [runWith, Value.entries?]
        cases optionAt? table (valueAt entries key) with
        | some n => exact runOption_obeys hv n ih
        | none => exact .pure trivial
      all_goals exact .pure trivial
    case intersection left right =>
      refine .bind (ih left (by simp [children]) path v hv) fun l _ => ?_
      exact .give (ih right (by simp [children]) path v hv) _ fun _ _ => trivial
    case tuple items rest =>
      exact tuple_obeys (fun s hs => ih s (by simp [children, hs]))
        (fun s hs => ih s (by simp [children, hs])) path hv
    case record key value | map key value =>
      have key := ih key (by simp [children])
      have value := ih value (by simp [children])
      cases v
      case dict access entries =>
        have entries := Value.keeps_dict.1 (hv.present rfl)
        exact .give (runEntries_obeys _ _ 0 {} (fun p e he =>
          (key p e.1 (.inl (entries e he).1)).plain) fun p e he =>
          (value p e.2 (.inl (entries e he).2)).plain) _ fun _ _ => trivial
      all_goals exact .pure trivial
    case function | promise =>
      cases v
      case live x =>
        simp only [runWith]
        split
        · exact identity.bind fun _ _ => .pure trivial
        · exact .pure trivial
      all_goals exact .pure trivial
    case lazy id origin =>
      exact ⟨hl.enter id origin path v hs hv,
        fun i => (Tracks.ensures ((hl.follows i).enter id origin path v hs hv)).weaken
          fun _ _ => trivial⟩
    case effect kind action elidable inner =>
      have mem : inner ∈ (effect kind action elidable inner).children := by simp [children]
      exact effect_obeys hl hs (ih inner mem) (follow inner mem) path hv
    case optional inner | nullable inner =>
      simp only [runWith]
      split
      · exact .pure trivial
      · exact (ih inner (by simp [children]) path v hv).plain
    case default inner supply =>
      have inner := ih inner (by simp [children])
      simp only [runWith]
      split
      · exact (hl.supply_obeys hc hs).bind fun x hx => (inner path x (.inl hx)).plain
      · exact (inner path v hv).plain
    case «catch» inner supply =>
      refine .bind (ih inner (by simp [children]) path v hv) fun r _ => ?_
      split
      · exact .pure trivial
      · exact .give (hl.rescue_obeys hc hs r.issues) _ fun _ _ => trivial
    case branded inner name => exact (ih inner (by simp [children]) path v hv).plain
    case pipeline input output =>
      have output := ih output (by simp [children])
      refine .bind (ih input (by simp [children]) path v hv) fun r hr => ?_
      exact r.andThen_obeys fun clean => (output path _ (hr.clean clean)).plain
    case invertible input parse output format =>
      have mem : input ∈ (invertible input parse output format).children := by simp [children]
      have rest := ih output (by simp [children])
      have mapped := hl.mapped_obeys hs rfl (ih input mem) (follow input mem) path hv
      have whole := mapped.bind fun r hr =>
        r.andThen_obeys fun clean => (rest path _ (hr.clean clean)).plain
      simp only [bind_assoc] at whole
      exact whole
    case readonly inner =>
      refine .bind (ih inner (by simp [children]) path v hv) fun r hr => ?_
      exact .give (.blind (Value.numbered_blind _) hr.freeze) _ fun _ _ => trivial

end TwoWay
