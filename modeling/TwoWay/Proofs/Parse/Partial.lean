import TwoWay.Proofs.Parse.Heedless
import TwoWay.Proofs.Parse.Pipelines
import TwoWay.Proofs.Parse.Required
import TwoWay.Proofs.Parse.Tags

/-!
# Partial objects

An object all of whose fields are made optional takes every mapping that the object takes, to the
same output (`Library.partial_widens`). For that its fields have to let a missing value and none
through unchanged, if they take them at all: whatever puts another value in their place would be
passed over.
-/

namespace TwoWay

/-! ## Runs that only tell -/

/-- A run that does nothing but add to the journal, when it gives a result, and gives results with
`Q`. -/
def Run.Tells {α : Type} (m : Run α) (Q : α → Prop) : Prop :=
  ∀ w a w', m w = .ok a w' → Q a ∧ ∃ new, w' = w.telling (new ++ w.journal)

namespace Run.Tells

variable {α β : Type} {P : α → Prop} {Q : β → Prop}

theorem pure {a : α} (h : P a) : Run.Tells (Pure.pure a) P := by
  intro w b w' hb
  cases hb
  exact ⟨h, [], rfl⟩

theorem throw (f : Failure) : Run.Tells (throw f : Run α) P := nofun

theorem record (e : Event) : Run.Tells (Run.record e) fun _ => True := by
  intro w a w' ha
  cases ha
  exact ⟨trivial, [e], rfl⟩

theorem lift (r : Except Failure α) : Run.Tells (Run.lift r) (r = .ok ·) := by
  cases r with
  | ok a => exact pure rfl
  | error f => exact throw f

theorem bind {m : Run α} {k : α → Run β} (hm : m.Tells P) (hk : ∀ a, P a → (k a).Tells Q) :
    (m >>= k).Tells Q := by
  intro w b w' h
  obtain ⟨a, u, ha, hb⟩ := Run.bind_ok.1 h
  obtain ⟨given, new, rfl⟩ := hm w a u ha
  obtain ⟨holds, later, rfl⟩ := hk a given _ b w' hb
  exact ⟨holds, later ++ new, by simp [World.telling]⟩

end Run.Tells

/-! ## Functions that hand over no calls -/

/-- A missing value, or none. -/
def Value.isVoid (v : Datum) : Bool := v.isMissing || v.isNone

theorem Value.eq_of_isVoid {v : Datum} (h : v.isVoid) : v = .missing ∨ v = .none := by
  cases v with
  | missing => exact .inl rfl
  | none => exact .inr rfl
  | _ => cases h

/-- What a function gives for a missing value or none to be waited for is a promise, which calls
nothing. -/
def Host.Settles (host : Host) (action : Action Live) : Prop :=
  host.isAsync action.function = false → ∀ v, v.isVoid → ∀ path x,
    (host.reply action v path).outcome = .ok (.live x) → x.isAwaitable →
      ∃ id suspends y, x = .promise id suspends y

namespace Links

variable (links : Links)

theorem suspend_tells : links.suspend.Tells fun _ => True := by
  unfold suspend
  split
  · exact .throw _
  · exact .record _

theorem play_tells (path : Path Live) (happenings : List Happening) :
    (links.play path happenings).Tells fun _ => True := by
  induction happenings with
  | nil => exact .pure trivial
  | cons h rest ih =>
    have joined (first : List (Issue Live)) :
        Run.Tells (do return first ++ (← links.play path rest)) fun _ => True :=
      .bind ih fun _ _ => .pure trivial
    cases h with
    | noted entry | yielded => exact .bind (.record _) fun _ _ => joined _
    | suspended => exact .bind links.suspend_tells fun _ _ => joined _
    | reported code message below details => exact joined _

end Links

namespace Library

variable {lib : Library} {mode : Mode} {depth : Nat}

theorem await_promise_tells (id : Nat) (suspends : Bool) (y : Datum) :
    ((lib.links mode depth).await (.promise id suspends y)).Tells fun _ => True := by
  cases depth with
  | zero => exact .throw _
  | succ depth =>
    cases suspends with
    | false => exact .pure trivial
    | true => exact .bind (lib.links mode depth).suspend_tells fun _ _ => .pure trivial

theorem resolve_tells {v : Datum}
    (h : ∀ x, v = .live x → x.isAwaitable → ∃ id suspends y, x = .promise id suspends y) :
    ((lib.links mode depth).resolve v).Tells fun _ => True := by
  cases v with
  | live x =>
    by_cases awaitable : x.isAwaitable
    · obtain ⟨id, suspends, y, rfl⟩ := h x rfl awaitable
      exact await_promise_tells id suspends y
    · simp only [Links.resolve, if_neg awaitable]
      exact .pure trivial
  | _ => exact .pure trivial

/-- Running a function that hands over no calls changes nothing but the journal. -/
theorem act_tells {action : Action Live} (h : lib.host.Settles action) (path : Path Live)
    {v : Datum} (hv : v.isVoid) :
    ((lib.links mode depth).act action path v).Tells fun _ => True := by
  rw [Links.act_eq]
  refine .bind (.record _) fun _ _ => .bind (P := fun _ => True) ?_ fun _ _ => .pure trivial
  have played := (lib.links mode depth).play_tells path
    ((lib.links mode depth).host.reply action v path).happenings
  refine .bind played fun issues _ => .bind (.lift _) fun x hx => ?_
  rw [links_host] at hx ⊢
  split
  · exact .pure trivial
  · rename_i plain
    refine .bind (resolve_tells fun y hy awaitable => ?_) fun _ _ => .pure trivial
    exact h (eq_false_of_ne_true plain) v hv path y (hy ▸ hx) awaitable

end Library

/-! ## What lets a value through -/

namespace Schema

/-- Nodes that put nothing else in the place of a missing value or none. -/
def letsThrough : Schema → Bool
  | .lazy .. | .effect .preprocess .. | .effect .transform .. | .default .. | .catch ..
  | .invertible .. | .raw _ => false
  | _ => true

/-- The parts of a node that see a missing value or none, if the node takes it. -/
def through : Schema → List Schema
  | .pipeline input output => [input, output]
  | s => s.asked

/-- A schema whose nodes let a missing value and none through, and whose refinements hand over no
calls. What stands in a container or behind an optional node does not matter. -/
inductive Plain (host : Host) : Schema → Prop
  | node {s : Schema} (lets : s.letsThrough)
    (settles : ∀ action elidable inner, s = .effect .refinement action elidable inner →
      host.Settles action)
    (parts : ∀ c ∈ s.through, Plain host c) : Plain host s

theorem Plain.isSchema {host : Host} {s : Schema} (h : s.Plain host) : s.isSchema := by
  obtain ⟨lets, -, -⟩ := h
  cases s with
  | raw => cases lets
  | _ => rfl

end Schema

/-- A result that is the value itself, or no output. -/
def Parsed.Passes (v : Datum) (r : Parsed) : Prop := r.value = v ∨ r.value = .invalid

theorem Parsed.Passes.value {v : Datum} {r : Parsed} (h : r.Passes v)
    (valid : r.value.isInvalid = false) : r.value = v := by
  refine h.resolve_right fun invalid => ?_
  rw [invalid] at valid
  cases valid

namespace Library

variable {lib : Library} {mode : Mode} {depth : Nat} {v : Datum}

/-- A schema that lets a value through, wherever that stands. -/
def LetsThrough (lib : Library) (mode : Mode) (depth : Nat) (v : Datum) (s : Schema) : Prop :=
  ∀ path, (s.runWith (lib.links mode depth) path v).Tells (Parsed.Passes v)

theorem unionResult_passes {path : Path Live} {tried : List Parsed}
    (h : ∀ r ∈ tried, r.Passes v) : (unionResult path tried).Passes v := by
  unfold unionResult
  split
  · exact h _ (List.mem_of_find?_eq_some ‹_›)
  · exact .inr rfl

theorem runOptions_tells {options : List Schema}
    (h : ∀ s ∈ options, lib.LetsThrough mode depth v s) (path : Path Live) {tried : List Parsed}
    (before : ∀ r ∈ tried, r.Passes v) :
    (runOptions (lib.links mode depth) options path v tried).Tells (Parsed.Passes v) := by
  induction options generalizing tried with
  | nil => exact .pure (unionResult_passes before)
  | cons s options ih =>
    obtain ⟨first, later⟩ := List.forall_mem_cons.1 h
    refine .bind (first path) fun r hr => ?_
    split
    · exact .pure hr
    · exact ih later (List.forall_mem_append.2 ⟨before, List.forall_mem_singleton.2 hr⟩)

theorem intersectionResult_passes {path : Path Live} {left right : Parsed}
    (same : merge v v = some v) (hl : left.Passes v) (hr : right.Passes v) :
    (intersectionResult path left right).Passes v := by
  unfold intersectionResult
  dsimp only
  split
  · exact .inr rfl
  · rename_i valid
    obtain ⟨validLeft, validRight⟩ := Bool.or_eq_false_iff.1 (Bool.eq_false_iff.2 valid)
    rw [hl.value validLeft, hr.value validRight, same]
    exact .inl rfl

/-- A clean result that passes a value is the value. -/
theorem andThen_tells {m : Run Parsed} (hm : m.Tells (Parsed.Passes v)) {next : Datum → Run Parsed}
    (hk : (next v).Tells (Parsed.Passes v)) :
    (m >>= fun r => r.andThen next).Tells (Parsed.Passes v) := by
  refine .bind hm fun r hr => ?_
  unfold Parsed.andThen
  split
  · rename_i clean
    rw [hr.value (Parsed.isClean_iff.1 clean).1]
    exact hk
  · exact .pure hr

/-- A node lets values through if its parts do and its function hands over no calls. -/
theorem node_lets_through {s : Schema} (lets : s.letsThrough)
    (settles : ∀ action elidable inner, s = .effect .refinement action elidable inner →
      lib.host.Settles action)
    (hv : v.isVoid) (parts : ∀ c ∈ s.through, lib.LetsThrough mode depth v c) :
    lib.LetsThrough mode depth v s := by
  intro path
  have given : Run.Tells (pure ⟨v, []⟩) (Parsed.Passes v) := .pure (.inl rfl)
  have refused {r : Parsed} (h : r.value = .invalid) : Run.Tells (pure r) (Parsed.Passes v) :=
    .pure (.inr h)
  cases s with
  | string | number | array | object | tagged | tuple | record | map | set | function | promise =>
    rcases Value.eq_of_isVoid hv with rfl | rfl <;> exact refused rfl
  | boolean | never => rcases Value.eq_of_isVoid hv with rfl | rfl <;> exact refused rfl
  | none =>
    rcases Value.eq_of_isVoid hv with rfl | rfl
    · exact refused rfl
    · exact given
  | any | unknown | foreign => exact given
  | literal value =>
    simp only [Schema.runWith, parseLiteral]
    split
    · exact given
    · exact refused rfl
  | enum values =>
    simp only [Schema.runWith, parseEnum]
    split
    · exact given
    · exact refused rfl
  | union options => exact runOptions_tells parts path (List.forall_mem_nil _)
  | intersection left right =>
    have same : merge v v = some v := by rcases Value.eq_of_isVoid hv with rfl | rfl <;> rfl
    have left := parts left (by simp [Schema.through, Schema.asked]) path
    have right := parts right (by simp [Schema.through, Schema.asked]) path
    refine .bind left fun l hl => .bind right fun r hr => ?_
    exact .pure (intersectionResult_passes same hl hr)
  | effect kind action elidable inner =>
    cases kind with
    | preprocess | transform => cases lets
    | refinement =>
      refine .bind (parts inner (List.mem_singleton_self _) path) fun r hr => ?_
      split
      · exact .pure hr
      · rename_i valid
        rw [hr.value (eq_false_of_ne_true valid)]
        have settles := settles action elidable inner rfl
        exact .bind (act_tells settles path hv) fun _ _ => .pure (.inl rfl)
  | optional inner =>
    have passed : (v.isMissing || v.isNone) = true := hv
    simp only [Schema.runWith, passed, if_true]
    exact given
  | nullable inner =>
    simp only [Schema.runWith]
    split
    · exact given
    · exact parts inner (List.mem_singleton_self _) path
  | branded inner name => exact parts inner (List.mem_singleton_self _) path
  | pipeline input output =>
    have input := parts input (by simp [Schema.through]) path
    have output := parts output (by simp [Schema.through]) path
    exact andThen_tells input output
  | readonly inner =>
    refine .bind (parts inner (List.mem_singleton_self _) path) fun r hr => ?_
    have frozen : r.value.freeze.numbered = pure r.value := by
      rcases hr with same | same <;> rw [same]
      · rcases Value.eq_of_isVoid hv with rfl | rfl <;> rfl
      · rfl
    rw [frozen]
    exact .pure hr
  | «lazy» | default | «catch» | invertible | raw => cases lets

theorem plain_lets_through {s : Schema} (plain : s.Plain lib.host) (hv : v.isVoid) :
    lib.LetsThrough mode depth v s := by
  induction plain with
  | node lets settles _ ih => exact node_lets_through lets settles hv ih

end Library

/-! ## Optional fields -/

/-- The fields of a shape, all of them optional. -/
def Schema.widened (shape : List (String × Schema)) : List (String × Schema) :=
  shape.map fun f => (f.1, .optional f.2)

theorem extraEntries_widened (shape : List (String × Schema)) (entries : Entries Live) :
    extraEntries (Schema.widened shape) entries = extraEntries shape entries := by
  simp only [extraEntries, Schema.widened, List.any_map, Function.comp_def]

namespace Schema

variable {shape : List (String × Schema)}

theorem optionalFields_eq (given : ∀ f ∈ shape, f.2.isSchema) :
    (optionalFields shape : Make _) = pure (widened shape) := by
  induction shape with
  | nil => rfl
  | cons f rest ih =>
    obtain ⟨first, later⟩ := List.forall_mem_cons.1 given
    unfold optionalFields requireMethod
    rw [if_pos first, pure_bind, ih later, pure_bind]
    rfl

theorem call_allOptional (maker : Maker) (given : ∀ f ∈ shape, f.2.isSchema)
    (catchall : Option Schema) (policy : UnknownKeys) :
    (Schema.object shape catchall policy).call maker .allOptional =
      (pure (.object (widened shape) catchall policy) : Make Schema) := by
  simp only [call, callOwn, optionalFields_eq given, isSchema, pure_bind]
  rfl

theorem widened_isSchema : ∀ f ∈ widened shape, f.2.isSchema := by
  intro f hf
  obtain ⟨g, -, rfl⟩ := List.mem_map.1 hf
  rfl

/-- Being optional twice makes no difference. -/
theorem optional_twice (links : Links) (s : Schema) :
    (Schema.optional (.optional s)).runWith links = (Schema.optional s).runWith links := by
  funext path v
  by_cases passed : (v.isMissing || v.isNone) = true
  · simp only [runWith, passed, if_true]
  · simp only [runWith, passed, if_false, Bool.false_eq_true]

theorem optional_twice_in (ch : Channel) (s : Schema) :
    (Schema.optional (.optional s)).parseIn ch = (Schema.optional s).parseIn ch := by
  funext path v
  by_cases passed : (v.isMissing || v.isNone) = true
  · simp only [parseIn, passed, if_true]
  · simp only [parseIn, passed, if_false, Bool.false_eq_true]

end Schema

theorem runFields_widened_twice (links : Links) (shape : List (String × Schema))
    (path : Path Live) (entries : Entries Live) :
    runFields links (Schema.widened (Schema.widened shape)) path entries =
      runFields links (Schema.widened shape) path entries := by
  induction shape with
  | nil => rfl
  | cons f rest ih =>
    have twice := congrFun (congrFun (Schema.optional_twice links f.2) (path ++ [.str f.1]))
      (valueAt entries f.1)
    have unfolded (s : Schema) (shape : List (String × Schema)) :
        runFields links ((f.1, s) :: shape) path entries = (do
          let r ← s.runWith links (path ++ [.str f.1]) (valueAt entries f.1)
          return (f.1, r) :: (← runFields links shape path entries)) := rfl
    simp only [Schema.widened, List.map_cons] at ih ⊢
    rw [unfolded, unfolded, twice, ih]

theorem fieldsIn_widened_twice (ch : Channel) (shape : List (String × Schema))
    (path : Path Live) (entries : Entries Live) :
    fieldsIn ch (Schema.widened (Schema.widened shape)) path entries =
      fieldsIn ch (Schema.widened shape) path entries := by
  induction shape with
  | nil => rfl
  | cons f rest ih =>
    have twice := congrFun (congrFun (Schema.optional_twice_in ch f.2) (path ++ [.str f.1]))
      (valueAt entries f.1)
    have unfolded (s : Schema) (shape : List (String × Schema)) :
        fieldsIn ch ((f.1, s) :: shape) path entries = (do
          let x ← s.parseIn ch (path ++ [.str f.1]) (valueAt entries f.1)
          return (f.1, x) :: (← fieldsIn ch shape path entries)) := rfl
    simp only [Schema.widened, List.map_cons] at ih ⊢
    rw [unfolded, unfolded, twice, ih]

namespace Library

variable {lib : Library} {mode : Mode} {depth : Nat} {shape : List (String × Schema)}
  {path : Path Live} {entries : Entries Live} {w w' : World}

theorem widened_twice (lib : Library) (shape : List (String × Schema)) (catchall : Option Schema)
    (policy : UnknownKeys) (v : Datum) :
    lib.Interchangeable (.object (Schema.widened (Schema.widened shape)) catchall policy)
      (.object (Schema.widened shape) catchall policy) v where
  alone mode depth path := by
    simp only [Schema.runWith, runFields_widened_twice, extraEntries_widened]
  inContext mode depth path w before _ := by
    simp only [Schema.parseIn, fieldsIn_widened_twice, extraEntries_widened]

/-- A field that takes a value takes it to the same output when it is optional. -/
theorem field_widened {s : Schema} (plain : s.Plain lib.host) (hw : lib.plans.Faithful w)
    {v : Datum} {r : Parsed} (run : s.runWith (lib.links mode depth) path v w = .ok r w')
    (clean : r.isClean) {journal : List Event} (sub : journal.Sublist w.journal) :
    ∃ later, later.Sublist w'.journal ∧
      (Schema.optional s).runWith (lib.links mode depth) path v (w.telling journal) =
        .ok r (w'.telling later) := by
  by_cases passed : (v.isMissing || v.isNone) = true
  · -- The value is let through, and what the field did is left out.
    obtain ⟨passes, new, rfl⟩ := plain_lets_through plain passed path w r w' run
    obtain ⟨valid, none⟩ := Parsed.isClean_iff.1 clean
    have same : r = ⟨v, []⟩ := by
      rw [← none, ← passes.value valid]
    refine ⟨journal, sub.trans (List.sublist_append_right new _), ?_⟩
    simp only [Schema.runWith, passed, if_true, same]
    rfl
  · have heedless : Run.Heedless (s.runWith (lib.links mode depth) path v) w :=
      (lib.runs_heedless mode depth s path v).holds w hw fun _ => False.elim
    obtain ⟨new, added, ends⟩ := heedless.ok run
    refine ⟨new ++ journal, added ▸ sub.append_left new, ?_⟩
    simp only [Schema.runWith, passed, if_false, Bool.false_eq_true]
    exact ends journal

theorem runFields_widened (plain : ∀ f ∈ shape, f.2.Plain lib.host) (hw : lib.plans.Faithful w)
    {fields : List (String × Parsed)}
    (run : runFields (lib.links mode depth) shape path entries w = .ok fields w')
    (clean : ∀ f ∈ fields, f.2.isClean) {journal : List Event}
    (sub : journal.Sublist w.journal) :
    ∃ later, later.Sublist w'.journal ∧
      runFields (lib.links mode depth) (Schema.widened shape) path entries (w.telling journal) =
        .ok fields (w'.telling later) := by
  induction shape generalizing w fields journal with
  | nil =>
    cases run
    exact ⟨journal, sub, rfl⟩
  | cons f rest ih =>
    obtain ⟨first, others⟩ := List.forall_mem_cons.1 plain
    obtain ⟨r, u, ofFirst, ofRest⟩ := Run.bind_ok.1 run
    obtain ⟨rs, u', ofOthers, ends⟩ := Run.bind_ok.1 ofRest
    cases ends
    obtain ⟨cleanFirst, cleanOthers⟩ := List.forall_mem_cons.1 clean
    obtain ⟨between, sub', wide⟩ := field_widened first hw ofFirst cleanFirst sub
    have faithful : lib.plans.Faithful u := runWith_faithful hw ofFirst
    obtain ⟨later, sub'', wides⟩ := ih others faithful ofOthers cleanOthers sub'
    refine ⟨later, sub'', ?_⟩
    refine (Run.bind_of_ok wide).trans ((Run.bind_of_ok wides).trans ?_)
    rfl

/-- An object that takes a value takes it to the same output when its fields are optional. -/
theorem object_widened (plain : ∀ f ∈ shape, f.2.Plain lib.host) {catchall : Option Schema}
    {policy : UnknownKeys} {v : Datum} (hw : lib.plans.Faithful w) {r : Parsed}
    (run : (Schema.object shape catchall policy).runWith (lib.links mode depth) path v w = .ok r w')
    (clean : r.isClean) :
    ∃ journal, journal.Sublist w'.journal ∧
      (Schema.object (Schema.widened shape) catchall policy).runWith (lib.links mode depth) path v
        w = .ok r (w'.telling journal) := by
  obtain ⟨entries, fields, u, hv, ofFields, cleanFields⟩ := object_accepts run clean
  obtain ⟨between, sub, wide⟩ : ∃ between, between.Sublist u.journal ∧
      runFields (lib.links mode depth) (Schema.widened shape) path entries w =
        .ok fields (u.telling between) :=
    runFields_widened plain hw ofFields cleanFields (List.Sublist.refl _)
  rw [Schema.object_run _ hv, Run.bind_of_ok ofFields] at run
  rw [Schema.object_run _ hv, extraEntries_widened, Run.bind_of_ok wide]
  cases catchall with
  | none =>
    cases run
    exact ⟨between, sub, rfl⟩
  | some t =>
    obtain ⟨rs, u', ofValues, ends⟩ := Run.bind_ok.1 run
    cases ends
    have obeys := lib.values_heedless mode depth t path (extraEntries shape entries)
    have heedless : Run.Heedless _ u :=
      obeys.holds u (runFields_faithful hw ofFields) fun _ => False.elim
    obtain ⟨new, added, others⟩ := heedless.ok ofValues
    refine ⟨new ++ between, added ▸ sub.append_left new, ?_⟩
    exact Run.bind_of_ok (others between)

theorem parse_widened (plain : ∀ f ∈ shape, f.2.Plain lib.host) {catchall : Option Schema}
    {policy : UnknownKeys} {v x : Datum} (hw : lib.plans.Faithful w)
    (h : lib.parse mode depth (.object shape catchall policy) v w = .ok x w') :
    ∃ journal, journal.Sublist w'.journal ∧
      lib.parse mode depth (.object (Schema.widened shape) catchall policy) v w =
        .ok x (w'.telling journal) := by
  obtain ⟨-, r, run, ends⟩ := parse_ok.1 h
  obtain ⟨none, valid, -⟩ := Parsed.finish_ok.1 ends
  obtain ⟨journal, sub, wide⟩ := object_widened plain hw run (Parsed.isClean_iff.2 ⟨valid, none⟩)
  exact ⟨journal, sub, parse_ok.2 ⟨rfl, r, wide, ends⟩⟩

/-- Making the fields of an object optional only widens it, if they let a missing value and none
through: what the object takes, alone or in a context, the partial object takes to the same output.
The same world is left, but that what fields called on missing values and none is not called. Making
the fields optional again makes no difference to any value. -/
theorem partial_widens {lib : Library} {shape : List (String × Schema)}
    (plain : ∀ f ∈ shape, f.2.Plain lib.host) (maker : Maker) (catchall : Option Schema)
    (policy : UnknownKeys) :
    ((Schema.object shape catchall policy).call maker .allOptional =
        (pure (.object (Schema.widened shape) catchall policy) : Make Schema) ∧
      ∀ mode depth w, lib.plans.Faithful w →
        (∀ path v r w', lib.Reports mode depth (.object shape catchall policy) path v w r w' →
          r.isClean → ∃ journal, journal.Sublist w'.journal ∧
            lib.Reports mode depth (.object (Schema.widened shape) catchall policy) path v w r
              (w'.telling journal)) ∧
        ∀ v x w', lib.parse mode depth (.object shape catchall policy) v w = .ok x w' →
          ∃ journal, journal.Sublist w'.journal ∧
            lib.parse mode depth (.object (Schema.widened shape) catchall policy) v w =
              .ok x (w'.telling journal)) ∧
    (Schema.object (Schema.widened shape) catchall policy).call maker .allOptional =
        (pure (.object (Schema.widened (Schema.widened shape)) catchall policy) : Make Schema) ∧
      ∀ v, lib.Interchangeable (.object (Schema.widened (Schema.widened shape)) catchall policy)
          (.object (Schema.widened shape) catchall policy) v ∧
        ∀ mode depth,
          lib.parse mode depth (.object (Schema.widened (Schema.widened shape)) catchall policy) v =
            lib.parse mode depth (.object (Schema.widened shape) catchall policy) v := by
  have given : ∀ f ∈ shape, f.2.isSchema := fun f hf => (plain f hf).isSchema
  refine ⟨⟨Schema.call_allOptional maker given catchall policy, fun mode depth w hw => ⟨?_, ?_⟩⟩,
    Schema.call_allOptional maker Schema.widened_isSchema catchall policy, fun v => ⟨?_, ?_⟩⟩
  · intro path v r w' reports clean
    obtain ⟨journal, sub, wide⟩ := object_widened plain hw reports.1 clean
    exact ⟨journal, sub, .of_run hw wide⟩
  · intro v x w' h
    exact parse_widened plain hw h
  · exact lib.widened_twice shape catchall policy v
  · intro mode depth
    funext w
    rw [parse_of_isSchema rfl, parse_of_isSchema rfl]
    exact Run.bind_of_eq (congrFun ((lib.widened_twice shape catchall policy v).alone mode depth [])
      w)

end Library

/-! A card has a name, which may be none, and a size, at which a function looks. -/

namespace Cards

def size : Schema := .effect .refinement (.custom Stray.same) false .any

def fields : List (String × Schema) := [("name", .nullable (.string {} none)), ("size", size)]

def card : Schema := .object fields none .passthrough

def sketch : Schema := .object (Schema.widened fields) none .passthrough

def nameless : Datum := .dict .free [(.str "name", .none), (.str "colour", .int 3)]

theorem fields_plain : ∀ f ∈ fields, f.2.Plain Stray.library.host := by
  have text : Schema.Plain Stray.library.host (.string {} none) := .node rfl nofun nofun
  have any : Schema.Plain Stray.library.host .any := .node rfl nofun nofun
  have settles : Stray.library.host.Settles (.custom Stray.same) := by
    intro _ v void path x given
    rcases Value.eq_of_isVoid void with rfl | rfl <;> cases given
  refine List.forall_mem_cons.2 ⟨.node rfl nofun ?_, List.forall_mem_singleton.2 (.node rfl ?_ ?_)⟩
  · exact List.forall_mem_singleton.2 text
  · intro action elidable inner same
    cases same
    exact settles
  · exact List.forall_mem_singleton.2 any

/-- A nameless card without a size is taken with and without the fields being optional, once or
twice, and the function looks at the missing size at most once. -/
theorem nameless_taken :
    Stray.library.parse .sync 0 card nameless {} =
      .ok nameless { journal := [.called Stray.same [.missing]] } ∧
    ∃ journal, journal.Sublist [.called Stray.same [.missing]] ∧
      Stray.library.parse .sync 0 sketch nameless {} = .ok nameless { journal := journal } ∧
      Stray.library.parse .sync 0 (.object (Schema.widened (Schema.widened fields)) none
        .passthrough) nameless {} = .ok nameless { journal := journal } := by
  have taken : Stray.library.parse .sync 0 card nameless {} =
      .ok nameless { journal := [.called Stray.same [.missing]] } := rfl
  obtain ⟨⟨-, once⟩, -, twice⟩ :=
    Library.partial_widens fields_plain (Stray.library.plans.maker 0 0) none .passthrough
  obtain ⟨-, parses⟩ := once .sync 0 {} .empty
  obtain ⟨journal, sub, wide⟩ := parses nameless nameless _ taken
  have again := congrFun ((twice nameless).2 .sync 0) {}
  exact ⟨taken, journal, sub, wide, again.trans wide⟩

end Cards
end TwoWay
