import TwoWay.Proofs.Parse.Pace

/-!
# Nodes in step

Schemas that resemble each other parse values that resemble each other in step, if what they lead to
does: the user functions, the schemas behind lazy nodes, and the awaitables (`Links.InStep.node`).
What they lead to in a library is in step if lazy nodes of one name are forced in step.
-/

namespace TwoWay

variable {view : View} {pace : Pace view}

/-- Parses that are in step on values that look the same. -/
def Pace.Parses (pace : Pace view) (parse : Path Live → Datum → Run Parsed)
    (parse' : Nat → Path Live → Datum → Run Parsed) : Prop :=
  ∀ {path path' v v'}, List.Forall₂ (Value.Resembles view) path path' → v.Resembles view v' →
    Run.InStep pace (Parsed.Resembles view) (parse path v) fun i => parse' i path' v'

/-- Links on which schemas that resemble each other are in step. -/
structure Links.InStep (pace : Pace view) (links : Links) (links' : Nat → Links) : Prop where
  host : ∀ i, (links' i).host = links.host
  mode : ∀ i, (links' i).mode = links.mode
  discreet : links.host.Discreet view
  enter : ∀ {id id' origin origin'}, view.name id origin = view.name id' origin' →
    pace.Parses (links.enter id origin) fun i => (links' i).enter id' origin'
  await : ∀ {x x'}, x.Resembles view x' →
    Run.InStep pace (Parsed.Resembles view) (links.await x) fun i => (links' i).await x'

open Run.InStep

/-! ## User functions -/

namespace Links.InStep

variable {links : Links} {links' : Nat → Links} (h : links.InStep pace links')

include h

theorem suspend : Run.InStep pace Eq links.suspend fun i => (links' i).suspend := by
  unfold Links.suspend
  simp only [h.mode]
  cases links.mode with
  | sync => exact .throw .same
  | async => exact .record .same

theorem play {path path' : Path Live} (hp : List.Forall₂ (Value.Resembles view) path path')
    {happenings happenings' : List Happening}
    (hh : List.Forall₂ (Happening.Resembles view) happenings happenings') :
    Run.InStep pace (List.Forall₂ (Issue.Resembles view)) (links.play path happenings)
      fun i => (links' i).play path' happenings' := by
  induction hh with
  | nil => exact .pure .nil
  | @cons happening happening' rest rest' first _ ih =>
    have joined {before before' : List (Issue Live)}
        (hb : List.Forall₂ (Issue.Resembles view) before before') :
        Run.InStep pace (List.Forall₂ (Issue.Resembles view))
          (do return before ++ (← links.play path rest))
          fun i => do return before' ++ (← (links' i).play path' rest') :=
      .bind ih fun later => .pure (List.rel_append hb later)
    cases first with
    | noted alike => exact .bind (.record (.noted alike)) fun _ => joined .nil
    | yielded => exact .bind (.record .same) fun _ => joined .nil
    | suspended => exact .bind h.suspend fun _ => joined .nil
    | @reported code message below below' details details' hbelow hdetails =>
      have alike : Issue.Resembles view
          ⟨code, message, path ++ below, details.map fun d => (d.1, .value d.2)⟩
          ⟨code, message, path' ++ below', details'.map fun d => (d.1, .value d.2)⟩ := by
        refine .mk (List.rel_append hp hbelow) ?_
        rw [List.map_map, List.map_map, ← forall₂_iff_map]
        refine hdetails.imp fun d d' ⟨name, value⟩ => Prod.ext name ?_
        exact congrArg Detail.value value
      have reported := joined (.cons alike .nil)
      simpa [Links.play] using reported

theorem resolve {v v' : Datum} (hv : v.Resembles view v') :
    Run.InStep pace (Parsed.Resembles view) (links.resolve v) fun i => (links' i).resolve v' := by
  obtain ⟨x, x', rfl, rfl, hx⟩ | ⟨left, right⟩ := hv.handle_cases
  · simp only [Links.resolve, hx.isAwaitable]
    split
    · exact .bind hx.numbered fun alike => h.await alike
    · exact .pure (.clean hv)
  · have plain : links.resolve v = Pure.pure ⟨v, []⟩ := by
      cases v <;> first | rfl | exact absurd rfl (left _)
    have plain' (i : Nat) : (links' i).resolve v' = Pure.pure ⟨v', []⟩ := by
      cases v' <;> first | rfl | exact absurd rfl (right _)
    simp only [plain, plain']
    exact .pure (.clean hv)

theorem answer (fn : FunctionRef) {args args' : List Datum}
    (ha : List.Forall₂ (Value.Resembles view) args args') {path path' : Path Live}
    (hp : List.Forall₂ (Value.Resembles view) path path') {reply reply' : Reply}
    (hr : reply.Resembles view reply') :
    Run.InStep pace (Parsed.Resembles view) (links.answer fn args path reply)
      fun i => (links' i).answer fn args' path' reply' := by
  unfold Links.answer
  simp only [h.host]
  refine .bind (.record (.called ha)) fun _ => ?_
  refine .bind (h.play hp hr.happenings) fun issues => ?_
  refine .bind (.lift hr.outcome) fun value => ?_
  split
  · exact .pure (.of value issues)
  · exact .bind (h.resolve value) fun resolved =>
      .pure (.of resolved.value (List.rel_append issues resolved.issues))

theorem act (action : Action Live) :
    pace.Parses (links.act action) fun i => (links' i).act action := by
  intro path path' v v' hp hv
  cases action with
  | custom fn =>
    simp only [Links.act, h.host]
    exact h.answer fn (.cons hv .nil) hp (h.discreet.effect fn hv hp)
  | check fn message below =>
    simp only [Links.act, h.host]
    refine .bind (h.answer fn (.cons hv .nil) hp (h.discreet.check fn hv))
      fun {verdict verdict'} alike => ?_
    refine .pure (.of hv (List.rel_append alike.issues ?_))
    rw [alike.value.truthy]
    split
    · exact .nil
    · exact .cons (.mk (List.rel_append hp (List.forall₂_same.2 fun c _ => .refl c)) rfl) .nil

theorem apply (action : Action Live) :
    pace.Parses (links.apply action) fun i => (links' i).apply action :=
  fun hp hv => .bind (h.act action hp hv) fun alike =>
    .bind alike.value.numbered fun value => .pure (.of value alike.issues)

theorem factory (fn : FunctionRef) {reply reply' : Reply} (hr : reply.Resembles view reply') :
    Run.InStep pace (Value.Resembles view)
      (do
        Run.record (.called fn [])
        discard <| links.play [] reply.happenings
        Run.lift reply.outcome)
      fun i => (do
        Run.record (.called fn [])
        discard <| (links' i).play [] reply'.happenings
        Run.lift reply'.outcome) := by
  refine .bind (.record .same) fun _ => ?_
  refine .bind (R := Eq) (.map (h.play .nil hr.happenings) fun _ => rfl) fun _ => ?_
  exact .lift hr.outcome

theorem supply (supply : Supply Live) :
    Run.InStep pace (Value.Resembles view) (links.supply supply)
      fun i => (links' i).supply supply := by
  cases supply with
  | value v => exact .pure (.refl v)
  | factory fn =>
    simp only [Links.supply, h.host]
    exact h.factory fn (.refl _)

theorem rescue (supply : Supply Live) {issues issues' : List (Issue Live)}
    (hi : List.Forall₂ (Issue.Resembles view) issues issues') :
    Run.InStep pace (Value.Resembles view) (links.rescue issues supply)
      fun i => (links' i).rescue issues' supply := by
  cases supply with
  | value v => exact .pure (.refl v)
  | factory fn =>
    simp only [Links.rescue, Failure.ofIssues, Issue.report_resembles hi, h.host]
    cases Issue.report issues' with
    | error f => exact .throw .same
    | ok text => exact h.factory fn (h.discreet.rescue fn hi)

end Links.InStep

/-! ## Runs of children -/

section

theorem path_child {path path' : Path Live} (hp : List.Forall₂ (Value.Resembles view) path path')
    (below : Path Live) :
    List.Forall₂ (Value.Resembles view) (path ++ below) (path' ++ below) :=
  List.rel_append hp (List.forall₂_same.2 fun v _ => .refl v)

theorem parsed_clean :
    pace.Parses (fun _ v => Pure.pure ⟨v, []⟩) fun _ _ v => Pure.pure ⟨v, []⟩ :=
  fun _ hv => .pure (.clean hv)

section
variable {parse : Path Live → Datum → Run Parsed} {parse' : Nat → Path Live → Datum → Run Parsed}
  (h : pace.Parses parse parse')
  {path path' : Path Live} (hp : List.Forall₂ (Value.Resembles view) path path')

include h hp

theorem runItems_inStep {items items' : List Datum}
    (hi : List.Forall₂ (Value.Resembles view) items items') (i : Nat) :
    Run.InStep pace (List.Forall₂ (Parsed.Resembles view)) (runItems parse path i items)
      fun d => runItems (parse' d) path' i items' := by
  induction hi generalizing i with
  | nil => exact .pure .nil
  | cons first _ ih =>
    exact .bind (h (path_child hp _) first) fun r => .bind (ih (i + 1)) fun rs => .pure (.cons r rs)

theorem runValues_inStep {entries entries' : Entries Live}
    (he : List.Forall₂ (Value.EntryResembles view) entries entries') :
    Run.InStep pace (List.Forall₂ (KeyedResemble view)) (runValues parse path entries)
      fun d => runValues (parse' d) path' entries' := by
  induction he with
  | nil => exact .pure .nil
  | @cons e e' _ _ first _ ih =>
    obtain ⟨key, value⟩ := Value.entryResembles_iff.1 first
    refine .bind (h (List.rel_append hp (.cons key .nil)) value) fun r => ?_
    exact .bind ih fun rs => .pure (.cons (Prod.ext key r) rs)

end

theorem add_inStep {b b' : Rebuilt} (hb : b.Resembles view b') {key key' value value' : Parsed}
    (hk : key.Resembles view key') (hv : value.Resembles view value') :
    Run.InStep pace (Rebuilt.Resembles view) (b.add key value) fun _ => b'.add key' value' := by
  obtain ⟨entries, failed, issues⟩ := Rebuilt.resembles_iff.1 hb
  have reported := List.rel_append (List.rel_append issues hk.issues) hv.issues
  unfold Rebuilt.add
  rw [hk.value.isInvalid, hv.value.isInvalid]
  split
  · exact .pure (Rebuilt.resembles_iff.2 ⟨entries, rfl, reported⟩)
  · refine .bind (.requireHashable hk.value) fun _ => .pure ?_
    exact Rebuilt.resembles_iff.2 ⟨put_resembles entries hk.value hv.value, failed, reported⟩

theorem runEntries_inStep {key value : Path Live → Datum → Run Parsed}
    {key' value' : Nat → Path Live → Datum → Run Parsed}
    (hk : pace.Parses key key') (hv : pace.Parses value value')
    {keyPath keyPath' valuePath valuePath' : Nat → Datum → Path Live}
    (hkp : ∀ i {k k'}, k.Resembles view k' →
      List.Forall₂ (Value.Resembles view) (keyPath i k) (keyPath' i k'))
    (hvp : ∀ i {k k'}, k.Resembles view k' →
      List.Forall₂ (Value.Resembles view) (valuePath i k) (valuePath' i k'))
    {entries entries' : Entries Live}
    (he : List.Forall₂ (Value.EntryResembles view) entries entries') (i : Nat) {b b' : Rebuilt}
    (hb : b.Resembles view b') :
    Run.InStep pace (Rebuilt.Resembles view) (runEntries key value keyPath valuePath i entries b)
      fun d => runEntries (key' d) (value' d) keyPath' valuePath' i entries' b' := by
  induction he generalizing i b b' with
  | nil => exact .pure hb
  | @cons e e' _ _ first _ ih =>
    obtain ⟨alike, value⟩ := Value.entryResembles_iff.1 first
    exact .bind (hk (hkp i alike) alike) fun k => .bind (hv (hvp i alike) value) fun v =>
      .bind (add_inStep hb k v) fun added => ih (i + 1) added

theorem andThen_inStep {r r' : Parsed} (hr : r.Resembles view r') {next : Datum → Run Parsed}
    {next' : Nat → Datum → Run Parsed}
    (h : ∀ {v v'}, v.Resembles view v' →
      Run.InStep pace (Parsed.Resembles view) (next v) fun i => next' i v') :
    Run.InStep pace (Parsed.Resembles view) (r.andThen next) fun i => r'.andThen (next' i) := by
  unfold Parsed.andThen
  rw [hr.isClean]
  split
  · exact h hr.value
  · exact .pure hr

theorem requireEach_inStep {values values' : List Datum}
    (hv : List.Forall₂ (Value.Resembles view) values values') :
    Run.InStep pace Eq
      (forIn values PUnit.unit fun v _ => do
        Run.requireHashable v
        pure (ForInStep.yield PUnit.unit))
      fun _ => (forIn values' PUnit.unit fun v _ => do
        Run.requireHashable v
        pure (ForInStep.yield PUnit.unit)) := by
  induction hv with
  | nil => exact .pure rfl
  | cons first _ ih =>
    simp only [List.forIn_cons, bind_assoc]
    exact .bind (.requireHashable first) fun _ => ih

theorem setResult_inStep (readOnly : Bool) {rs rs' : List Parsed}
    (hr : List.Forall₂ (Parsed.Resembles view) rs rs') :
    Run.InStep pace (Parsed.Resembles view) (setResult readOnly rs)
      fun _ => setResult readOnly rs' := by
  have values := Parsed.values_resemble hr
  have issues := Parsed.allIssues_resemble hr
  unfold setResult
  rw [Parsed.anyInvalid_resembles hr]
  split
  · exact .pure (.of (.refl _) issues)
  · refine .bind (requireEach_inStep values) fun _ => .pure (.of ?_ issues)
    unfold Value.Resembles
    rw [Value.recast, Value.recast, Value.recastItems_eq, Value.recastItems_eq,
      Value.items_resemble.1 (distinct_resemble values)]

variable {links : Links} {links' : Nat → Links}

theorem runFields_inStep {shape shape' : List (String × Schema)}
    (h : Schema.Fieldwise
      (fun s s' => pace.Parses (s.runWith links) fun i => s'.runWith (links' i)) shape shape')
    {path path' : Path Live} (hp : List.Forall₂ (Value.Resembles view) path path')
    {entries entries' : Entries Live}
    (he : List.Forall₂ (Value.EntryResembles view) entries entries') :
    Run.InStep pace (List.Forall₂ (NamedResemble view)) (runFields links shape path entries)
      fun i => runFields (links' i) shape' path' entries' := by
  induction h with
  | nil => exact .pure .nil
  | cons first _ ih =>
    refine .bind (first (path_child hp _) (valueAt_resembles he _)) fun r => ?_
    exact .bind ih fun rs => .pure (.cons (Prod.ext rfl r) rs)

variable {options options' : List Schema}
  (h : List.Forall₂ (fun s s' => pace.Parses (s.runWith links) fun i => s'.runWith (links' i))
    options options')

include h

theorem runOptions_inStep {path path' : Path Live}
    (hp : List.Forall₂ (Value.Resembles view) path path') {v v' : Datum} (hv : v.Resembles view v')
    {tried tried' : List Parsed} (ht : List.Forall₂ (Parsed.Resembles view) tried tried') :
    Run.InStep pace (Parsed.Resembles view) (runOptions links options path v tried)
      fun i => runOptions (links' i) options' path' v' tried' := by
  induction h generalizing tried tried' with
  | nil => exact .pure (unionResult_resembles hp ht)
  | cons first _ ih =>
    refine .bind (first hp hv) fun r => ?_
    rw [r.isClean]
    split
    · exact .pure r
    · exact ih (List.rel_append ht (.cons r .nil))

theorem runOption_inStep (i : Nat) :
    pace.Parses (runOption links options i) fun d => runOption (links' d) options' i := by
  intro path path' v v' hp hv
  induction h generalizing i with
  | nil => exact .pure (.clean hv)
  | cons first _ ih =>
    cases i with
    | zero => exact first hp hv
    | succ i => exact ih i

theorem runTupleItems_inStep {rest : Path Live → Datum → Run Parsed}
    {rest' : Nat → Path Live → Datum → Run Parsed} (hr : pace.Parses rest rest')
    {path path' : Path Live} (hp : List.Forall₂ (Value.Resembles view) path path') (i : Nat)
    {values values' : List Datum} (hv : List.Forall₂ (Value.Resembles view) values values') :
    Run.InStep pace (List.Forall₂ (Parsed.Resembles view))
      (runTupleItems links options rest path i values)
      fun d => runTupleItems (links' d) options' (rest' d) path' i values' := by
  induction h generalizing i values values' with
  | nil => exact runItems_inStep hr hp hv i
  | cons first _ ih =>
    cases hv with
    | nil => exact .pure .nil
    | cons value others =>
      exact .bind (first (path_child hp _) value) fun r => .bind (ih (i + 1) others) fun rs =>
        .pure (.cons r rs)

end

/-! ## Nodes -/

/-- Schemas that resemble each other are in step on values that do. -/
theorem Links.InStep.node {links : Links} {links' : Nat → Links} (h : links.InStep pace links')
    {s s' : Schema} (hs : s.Resembles view s') :
    pace.Parses (s.runWith links) fun i => s'.runWith (links' i) := by
  induction s using Schema.child_induction generalizing s' with
  | step s ih =>
    intro path path' v v' hp hv
    cases hs.sameNode <;> simp only [Schema.children, List.mem_append, List.mem_cons, List.mem_map,
      Option.mem_toList, List.not_mem_nil, or_false, forall_eq, or_imp, forall_and] at ih
    case leaf leaf =>
      cases s
      case string lengths pattern => exact .liftFault (parseString_resembles hp lengths pattern hv)
      case number bounds integer => exact .liftFault (parseNumber_resembles hp bounds integer hv)
      case boolean => exact .pure (parseBoolean_resembles hp hv)
      case none => exact .pure (parseNone_resembles hp hv)
      case any | unknown | foreign => exact .pure (.clean hv)
      case never => exact .pure (parseNever_resembles hp hv)
      case literal value => exact .pure (parseLiteral_resembles hp value hv)
      case enum values => exact .pure (parseEnum_resembles hp values hv)
      case raw value => exact .throw .same
      all_goals cases leaf
    case array e e' lengths he =>
      have read := hv.listItems?
      simp only [Schema.runWith]
      generalize v.listItems? = items, v'.listItems? = items' at read ⊢
      cases read with
      | none => exact .pure (wrongContainer_resembles hp _ hv)
      | some hi =>
        dsimp only
        rw [hi.length_eq]
        refine .bind (.liftFault (lengthIssues_resemble hp _ _ lengths _)) fun own => ?_
        refine .bind (runItems_inStep (ih he) hp hi 0) fun rs => .pure ?_
        exact sequenceResult_resembles (fun items => by simp) (issues_resemble.2 own) rs
    case object shape shape' rest rest' policy hshape hrest =>
      have fields : Schema.Fieldwise
          (fun s s' => pace.Parses (s.runWith links) fun i => s'.runWith (links' i))
          shape shape' :=
        .of_mem (fun f hf => ih.1 f.2 ⟨f, hf, rfl⟩) hshape
      have read := hv.entries?
      simp only [Schema.runWith]
      generalize v.entries? = entries, v'.entries? = entries' at read ⊢
      cases read with
      | none => exact .pure (wrongContainer_resembles hp _ hv)
      | some he =>
        have extra := extraEntries_resemble he hshape
        refine .bind (runFields_inStep fields hp he) fun rs => ?_
        cases hrest with
        | none => exact .pure (closedObject_resembles hp policy rs extra)
        | some hr =>
          refine .bind (runValues_inStep (ih.2 _ rfl hr) hp extra) fun others => .pure ?_
          exact openObject_resembles rs others
    case union options options' ho =>
      exact runOptions_inStep (Schema.forall₂_of_mem ih ho) hp hv .nil
    case tagged key options options' table ho =>
      have all := Schema.forall₂_of_mem ih ho
      have read := hv.entries?
      simp only [Schema.runWith]
      generalize v.entries? = entries, v'.entries? = entries' at read ⊢
      cases read with
      | none => exact .pure (wrongContainer_resembles hp _ hv)
      | some he =>
        dsimp only
        rw [optionAt?_resembles table (valueAt_resembles he key)]
        cases optionAt? table (valueAt _ key) with
        | none => exact .pure (wrongTag_resembles hp key table)
        | some i => exact runOption_inStep all i hp hv
    case intersection l l' r r' hl hr =>
      refine .bind (ih.1 hl hp hv) fun left => .bind (ih.2 hr hp hv) fun right => .pure ?_
      exact intersectionResult_resembles hp left right
    case tuple items items' rest rest' hitems hrest =>
      have all := Schema.forall₂_of_mem ih.1 hitems
      have read := hv.sequence?
      simp only [Schema.runWith]
      generalize v.sequence? = sequence, v'.sequence? = sequence' at read ⊢
      cases read with
      | none => exact .pure (wrongContainer_resembles hp _ hv)
      | @some sequence sequence' hseq =>
        obtain ⟨isTuple, values⟩ := sequence
        obtain ⟨isTuple', values'⟩ := sequence'
        obtain ⟨rfl, hvalues⟩ : isTuple = isTuple' ∧ _ := hseq
        have made (items : List Datum) :
            (if isTuple then Value.tuple else Value.list .free)
                (items.map (Value.recast id (Schema.outline view))) =
              ((if isTuple then Value.tuple else Value.list .free) items).recast id
                (Schema.outline view) := by
          cases isTuple <;> simp
        dsimp only
        rw [hvalues.length_eq, hitems.length_eq]
        split
        · exact .pure (tupleBound_resembles hp _ _ _ _)
        · cases hrest with
          | some hr =>
            refine .bind (runTupleItems_inStep all (ih.2 _ rfl hr) hp 0 hvalues) fun rs => .pure ?_
            exact sequenceResult_resembles made .nil rs
          | none =>
            dsimp only
            split
            · exact .pure (tupleBound_resembles hp _ _ _ _)
            · refine .bind (runTupleItems_inStep all parsed_clean hp 0 hvalues) fun rs => .pure ?_
              exact sequenceResult_resembles made .nil rs
    case record k k' e e' hk he =>
      have read := hv.entries?
      simp only [Schema.runWith]
      generalize v.entries? = entries, v'.entries? = entries' at read ⊢
      cases read with
      | none => exact .pure (wrongContainer_resembles hp _ hv)
      | some hentries =>
        refine .bind (runEntries_inStep (ih.1 hk) (ih.2 he)
          (fun _ _ _ h => List.rel_append hp (.cons h .nil))
          (fun _ _ _ h => List.rel_append hp (.cons h .nil)) hentries 0 rfl) fun b => ?_
        exact .pure b.parsed
    case map k k' e e' hk he =>
      have read := hv.entries?
      simp only [Schema.runWith]
      generalize v.entries? = entries, v'.entries? = entries' at read ⊢
      cases read with
      | none => exact .pure (wrongContainer_resembles hp _ hv)
      | some hentries =>
        refine .bind (runEntries_inStep (ih.1 hk) (ih.2 he)
          (fun i _ _ _ => path_child hp [.int i, .str "key"])
          (fun i _ _ _ => path_child hp [.int i, .str "value"]) hentries 0 rfl) fun b => ?_
        exact .pure b.parsed
    case set e e' he =>
      have read := hv.setItems?
      simp only [Schema.runWith]
      generalize v.setItems? = items, v'.setItems? = items' at read ⊢
      cases read with
      | none => exact .pure (wrongContainer_resembles hp _ hv)
      | @some items items' hitems =>
        obtain ⟨same, hitems⟩ := hitems
        dsimp only
        rw [same]
        exact .bind (runItems_inStep (ih he) hp hitems 0) fun rs => setResult_inStep _ rs
    case function items items' rest rest' r r' hitems hrest hr =>
      obtain ⟨x, x', rfl, rfl, hx⟩ | ⟨left, right⟩ := hv.handle_cases
      · simp only [Schema.runWith, hx.isCallable]
        split
        · exact .bind .identity fun same =>
            .pure (.clean (same ▸ (hx.guarded _ hitems hrest hr).value))
        · exact .pure (wrongContainer_resembles hp _ hv)
      · have refused : (Schema.function items rest r).runWith links path v =
            Pure.pure (wrongContainer path "function" v) := by
          cases v <;> first | rfl | exact absurd rfl (left _)
        have refused' (i : Nat) : (Schema.function items' rest' r').runWith (links' i) path' v' =
            Pure.pure (wrongContainer path' "function" v') := by
          cases v' <;> first | rfl | exact absurd rfl (right _)
        simp only [refused, refused']
        exact .pure (wrongContainer_resembles hp _ hv)
    case lazy hname => exact h.enter hname hp hv
    case effect kind action elidable elidable' e e' _ he =>
      cases kind with
      | preprocess =>
        refine .bind (h.apply action hp hv) fun r => ?_
        rw [r.isEmpty]
        split
        · exact ih he hp r.value
        · exact .pure (.of (.refl _) r.issues)
      | refinement =>
        refine .bind (ih he hp hv) fun r => ?_
        rw [r.value.isInvalid]
        split
        · exact .pure r
        · exact .bind (h.act action hp r.value) fun c =>
            .pure (.of r.value (List.rel_append r.issues c.issues))
      | transform =>
        exact .bind (ih he hp hv) fun r => andThen_inStep r fun x => h.apply action hp x
    case optional e e' he =>
      simp only [Schema.runWith, hv.isMissing, hv.isNone]
      split
      · exact .pure (.clean hv)
      · exact ih he hp hv
    case nullable e e' he =>
      simp only [Schema.runWith, hv.isNone]
      split
      · exact .pure (.clean hv)
      · exact ih he hp hv
    case default e e' supply he =>
      simp only [Schema.runWith, hv.isMissing]
      split
      · exact .bind (h.supply supply) fun x => ih he hp x
      · exact .bind (.pure hv) fun x => ih he hp x
    case «catch» e e' supply he =>
      refine .bind (ih he hp hv) fun r => ?_
      rw [r.isClean]
      split
      · exact .pure r
      · exact .bind (h.rescue supply r.issues) fun x => .pure (.clean x)
    case promise e e' he =>
      obtain ⟨x, x', rfl, rfl, hx⟩ | ⟨left, right⟩ := hv.handle_cases
      · simp only [Schema.runWith, hx.isAwaitable]
        split
        · exact .bind .identity fun same =>
            .pure (.clean (same ▸ (Live.Resembles.pending _ he hx).value))
        · exact .pure (wrongAwaitable_resembles hp hv)
      · have refused : (Schema.promise e).runWith links path v =
            Pure.pure (wrongAwaitable path v) := by
          cases v <;> first | rfl | exact absurd rfl (left _)
        have refused' (i : Nat) : (Schema.promise e').runWith (links' i) path' v' =
            Pure.pure (wrongAwaitable path' v') := by
          cases v' <;> first | rfl | exact absurd rfl (right _)
        simp only [refused, refused']
        exact .pure (wrongAwaitable_resembles hp hv)
    case branded e e' name he => exact ih he hp hv
    case pipeline e e' f f' he hf =>
      exact .bind (ih.1 he hp hv) fun r => andThen_inStep r fun x => ih.2 hf hp x
    case invertible e e' f f' parse format he hf =>
      refine .bind (ih.1 he hp hv) fun r => ?_
      refine .bind (andThen_inStep r fun x => h.apply (.custom parse) hp x) fun r => ?_
      exact andThen_inStep r fun x => ih.2 hf hp x
    case readonly e e' he =>
      exact .bind (ih he hp hv) fun r =>
        .bind r.value.freeze.numbered fun x => .pure (.of x r.issues)

/-! ## Libraries -/

/-- Awaitables that look the same are awaited in step. -/
theorem Links.InStep.awaitWith {links : Links} {links' : Nat → Links}
    (h : links.InStep pace links') : ∀ {x x' : Live}, x.Resembles view x' →
      Run.InStep pace (Parsed.Resembles view) (x.awaitWith links)
        fun i => x'.awaitWith (links' i)
  | x, x', hx => by
    cases hx.sameHandle with
    | callable callable callable' =>
      have done {x : Live} (h : x.isCallable) (links : Links) :
          x.awaitWith links = Pure.pure ⟨.live x, []⟩ := by
        cases x <;> first | rfl | cases h
      simp only [done callable, done callable']
      exact .pure (.clean hx.value)
    | @promise id suspends v v' hv =>
      cases suspends with
      | true => exact .bind h.suspend fun _ => .pure (.clean hv)
      | false => exact .pure (.clean hv)
    | @pending id s t x x' hs alike =>
      refine .bind (.awaitOnce id) fun _ => .bind (awaitWith h alike) fun v => ?_
      refine .bind (h.node hs .nil v.value) fun r => ?_
      exact .bind (.lift r.finish) fun value => .pure (.of value v.issues)
    | @running id fn args args' hargs =>
      have reply := h.discreet.call fn hargs
      simp only [Live.awaitWith, h.host]
      refine .bind (.awaitOnce id) fun _ => .bind (.record (.called hargs)) fun _ => ?_
      refine .bind (R := Eq) (.map (h.play .nil reply.happenings) fun _ => rfl) fun _ => ?_
      exact .bind (.lift reply.outcome) fun v => .bind v.numbered fun v => .pure (.clean v)
    | @working id fn path path' v v' hpath hv =>
      have reply := h.discreet.effect fn hv hpath
      simp only [Live.awaitWith, h.host]
      refine .bind (.awaitOnce id) fun _ => ?_
      refine .bind (.record (.called (.cons hv .nil))) fun _ => ?_
      refine .bind (h.play hpath reply.happenings) fun issues => ?_
      exact .bind (.lift reply.outcome) fun v => .bind v.numbered fun v => .pure (.of v issues)
  termination_by structural x => x

/-- Lazy nodes of one name are forced in step within one depth. -/
def Pace.ForcesWithin (pace : Pace view) (plans : Plans) : Prop :=
  ∀ {m id id' origin origin'}, view.name id origin = view.name id' origin' →
    Run.InStep pace (Schema.Resembles view) (plans.force m id origin)
      fun _ => plans.force m id' origin'

/-- Lazy nodes of one name are forced in step beside those of all depths. Nobody has to keep step
with a run that goes too deep. -/
structure Pace.Forces (pace : Pace view) (plans : Plans) : Prop where
  stray : pace.stray (.fault .tooDeep)
  force : ∀ {m id id' origin origin'}, view.name id origin = view.name id' origin' →
    Run.InStep pace (Schema.Resembles view) (plans.force m id origin)
      fun n => plans.force n id' origin'

namespace Library

variable {lib : Library} (discreet : lib.host.Discreet view) (mode : Mode)

include discreet

theorem links_inStep_within (forces : pace.ForcesWithin lib.plans) (depth : Nat) :
    (lib.links mode depth).InStep pace fun _ => lib.links mode depth := by
  induction depth with
  | zero =>
    refine ⟨fun _ => rfl, fun _ => rfl, discreet, fun _ => ?_, fun _ => .throw .same⟩
    exact fun _ _ => .throw .same
  | succ depth ih =>
    refine ⟨fun _ => rfl, fun _ => rfl, discreet, fun name => ?_, ih.awaitWith⟩
    exact fun hp hv => .bind (forces name) fun hs => ih.node hs hp hv

/-- Schemas that resemble each other parse values that do in step, within one depth. -/
theorem runWith_inStep_within (forces : pace.ForcesWithin lib.plans) (depth : Nat) {s s' : Schema}
    (hs : s.Resembles view s') :
    pace.Parses (s.runWith (lib.links mode depth)) fun _ => s'.runWith (lib.links mode depth) :=
  (links_inStep_within discreet mode forces depth).node hs

theorem links_inStep (forces : pace.Forces lib.plans) (depth : Nat) :
    (lib.links mode depth).InStep pace (lib.links mode) := by
  have host (n : Nat) : (lib.links mode n).host = lib.host := by cases n <;> rfl
  have same (n : Nat) : (lib.links mode n).mode = mode := by cases n <;> rfl
  induction depth with
  | zero =>
    refine ⟨host, same, discreet, fun _ => ?_, fun _ => .stray forces.stray⟩
    exact fun _ _ => .stray forces.stray
  | succ depth ih =>
    refine ⟨host, same, discreet, fun name _ _ _ _ hp hv => .succ ?_,
      fun alike => .succ (ih.awaitWith alike)⟩
    exact .bind (forces.force name).later fun hs => ih.node hs hp hv

/-- Schemas that resemble each other parse values that do in step, beside runs of all depths. -/
theorem runWith_inStep (forces : pace.Forces lib.plans) (depth : Nat) {s s' : Schema}
    (hs : s.Resembles view s') :
    pace.Parses (s.runWith (lib.links mode depth)) fun n => s'.runWith (lib.links mode n) :=
  (links_inStep discreet mode forces depth).node hs

end Library
end TwoWay
