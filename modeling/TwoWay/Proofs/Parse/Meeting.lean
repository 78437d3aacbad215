import TwoWay.Proofs.Parse.Lookup
import TwoWay.Proofs.Value.Merging

/-!
# Intersections of data

What both sides of an intersection make of a value is merged. Where these are data, merging is a
join, and so neither the order of the sides nor their grouping shows in the outcome
(`Library.intersections_join`). The sides are run one after the other, in worlds that differ, so
this needs user functions that are pure and do not fail.
-/

namespace TwoWay

open Value (EqualIfAny)

/-! ## Outputs -/

/-- The output of a clean result. -/
def Parsed.output? (r : Parsed) : Option Datum := if r.isClean then some r.value else none

theorem Parsed.output?_eq_some {r : Parsed} {x : Datum} :
    r.output? = some x ↔ r.isClean ∧ r.value = x := by
  simp [output?]

theorem Parsed.output?_rename (ρ : Nat → Nat) (r : Parsed) :
    (r.rename ρ).output? = r.output?.map (Value.rename ρ) := by
  simp only [output?, isClean_rename]
  split <;> rfl

theorem Parsed.toOption_finish (r : Parsed) : r.finish.toOption = r.output? := by
  unfold finish output? isClean
  cases r.issues <;> cases r.value.isInvalid <;> rfl

/-- Nothing merges into `invalid` but `invalid`. -/
theorem isInvalid_of_merge {a b z : Datum} (h : merge a b = some z) :
    z.isInvalid = a.isInvalid := by
  cases a
  case list =>
    unfold merge at h
    split at h
    · cases h; rfl
    · cases b <;> simp only [reduceCtorEq] at h
      split at h
      · obtain ⟨_, -, rfl⟩ := Option.map_eq_some_iff.1 h
        rfl
      · cases h
  case dict =>
    unfold merge at h
    split at h
    · cases h; rfl
    · cases b <;> simp only [reduceCtorEq] at h
      obtain ⟨_, -, rfl⟩ := Option.map_eq_some_iff.1 h
      rfl
  all_goals
    rw [merge_single (by simp) (by simp)] at h
    split at h <;> cases h
    rfl

/-- An intersection gives what the outputs of its sides merge into. -/
theorem intersectionResult_output (path : Path Live) (l r : Parsed) :
    (intersectionResult path l r).output? =
      l.output?.bind fun a => r.output?.bind fun b => merge a b := by
  have refused : (Value.invalid : Datum).isInvalid := rfl
  unfold intersectionResult Parsed.output? Parsed.isClean
  cases hm : merge l.value r.value with
  | none =>
    cases l.value.isInvalid <;> cases r.value.isInvalid <;> cases l.issues <;> cases r.issues <;>
      simp [hm, refused]
  | some z =>
    have valid := isInvalid_of_merge hm
    cases hl : l.value.isInvalid <;> cases r.value.isInvalid <;> cases l.issues <;>
      cases r.issues <;> simp [hm, valid, hl, refused]

namespace Library

variable {lib : Library} {mode : Mode} {depth : Nat} {s : Schema} {v : Datum} {w : World}

/-- The output of a whole parse, if the value is accepted. -/
theorem parse_output (h : s.isSchema) :
    ((lib.parse mode depth s v).result w).toOption =
      match s.runWith (lib.links mode depth) [] v w with
      | .ok r _ => r.output?
      | .error _ _ => none := by
  unfold Run.result
  cases hr : s.runWith (lib.links mode depth) [] v w with
  | error f w' =>
    rw [(parse_error h).2 (.inl hr)]
    rfl
  | ok r w' =>
    dsimp only
    rw [← r.toOption_finish]
    cases hf : r.finish with
    | ok x => rw [parse_ok.2 ⟨h, r, hr, hf⟩]
    | error f => rw [(parse_error h).2 (.inr ⟨r, hr, hf⟩)]

/-- Run again later on, a schema does with a value what it does now, but for the identities that
are made. If only one of the runs fails, then as a `stray` does. -/
structure Steady (lib : Library) (stray : Failure → Prop) (mode : Mode) (depth : Nat) (s : Schema)
    (v : Datum) (w : World) : Prop where
  grows : ∀ {u r u'}, lib.plans.Faithful u → w.made ≤ u.made →
    s.runWith (lib.links mode depth) [] v u = .ok r u' → w.made ≤ u'.made
  again : ∀ {u}, lib.plans.Faithful u → w.made ≤ u.made → ∃ ρ, Function.Injective ρ ∧
    match s.runWith (lib.links mode depth) [] v w, s.runWith (lib.links mode depth) [] v u with
    | .ok r _, .ok t _ => t = r.rename ρ
    | .ok _ _, .error e _ => stray e
    | .error e _, .ok _ _ => stray e
    | .error _ _, .error _ _ => True

theorem Steady.of_shifts {stray : Failure → Prop}
    (h : ∀ k, lib.plans.ParseShifts stray w.made k (s.runWith (lib.links mode depth)))
    (hw : lib.plans.Faithful w) (hv : v.Before w.made) : lib.Steady stray mode depth s v w where
  grows {u r u'} hu since hr := by
    have same := h 0 [] v
    rw [hv.fixed 0] at same
    exact (same.ok ⟨hu, hu, since, rfl⟩ hr hr).1.since
  again {u} hu since := by
    obtain ⟨k, made⟩ := Nat.exists_eq_add_of_le since
    have later := h k [] v
    rw [hv.fixed k] at later
    refine ⟨shift w.made k, shift_injective _ _, ?_⟩
    have ends := later w u ⟨hw, hu, le_rfl, made⟩
    cases hr : s.runWith (lib.links mode depth) [] v w <;>
      cases ht : s.runWith (lib.links mode depth) [] v u <;>
      simp only [List.map_nil, hr, ht] at ends ⊢
    · exact ends.2
    · exact ends
    · exact ends

/-- The output of an intersection is what those of its sides merge into, where the one on the
right may have other identities. -/
theorem intersection_output {stray : Failure → Prop} {left right : Schema}
    (hl : lib.Steady stray mode depth left v w) (hr : lib.Steady stray mode depth right v w)
    (hw : lib.plans.Faithful w)
    (right_ends : ∀ f u, right.runWith (lib.links mode depth) [] v w = .error f u → ¬stray f)
    (ends : ∀ f, (lib.parse mode depth (.intersection left right) v).result w = .error f →
      ¬stray f) :
    ∃ ρ, Function.Injective ρ ∧
      ((lib.parse mode depth (.intersection left right) v).result w).toOption =
        match left.runWith (lib.links mode depth) [] v w,
          right.runWith (lib.links mode depth) [] v w with
        | .ok l _, .ok r _ =>
          l.output?.bind fun a => (r.output?.map (Value.rename ρ)).bind fun b => merge a b
        | _, _ => none := by
  rw [parse_output rfl]
  simp only [Schema.runWith]
  cases hrunl : left.runWith (lib.links mode depth) [] v w with
  | error f w' =>
    rw [Run.bind_of_error hrunl]
    exact ⟨id, Function.injective_id, rfl⟩
  | ok l w₁ =>
    rw [Run.bind_of_ok hrunl]
    obtain ⟨ρ, injective, again⟩ :=
      hr.again (runWith_faithful hw hrunl) (hl.grows hw le_rfl hrunl)
    refine ⟨ρ, injective, ?_⟩
    cases hrunr : right.runWith (lib.links mode depth) [] v w with
    | error f u =>
      cases hrun : right.runWith (lib.links mode depth) [] v w₁ with
      | error f' u' => rw [Run.bind_of_error hrun]
      | ok r u' =>
        simp only [hrunr, hrun] at again
        exact absurd again (right_ends f u hrunr)
    | ok r u =>
      cases hrun : right.runWith (lib.links mode depth) [] v w₁ with
      | error f u' =>
        simp only [hrunr, hrun] at again
        have failed : (Schema.intersection left right).runWith (lib.links mode depth) [] v w =
            .error f u' := by
          simp only [Schema.runWith]
          rw [Run.bind_of_ok hrunl, Run.bind_of_error hrun]
        refine absurd again (ends f ?_)
        rw [Run.result, (parse_error rfl).2 (.inl failed)]
      | ok t u' =>
        simp only [hrunr, hrun] at again
        rw [Run.bind_of_ok hrun, again]
        simp only [Pure.pure, EStateM.pure, intersectionResult_output, Parsed.output?_rename]

/-- What a schema accepts a value with is data, whatever has been made before. -/
def GivesData (lib : Library) (mode : Mode) (depth m : Nat) (s : Schema) (v : Datum) : Prop :=
  ∀ w x w', lib.plans.Faithful w → m ≤ w.made → lib.parse mode depth s v w = .ok x w' → x.IsData

theorem isSchema_of_runs {links : Links} {path : Path Live} {r : Parsed} {w' : World}
    (h : s.runWith links path v w = .ok r w') : s.isSchema := by
  cases s <;> first | rfl | cases h

theorem GivesData.output {m : Nat} (h : lib.GivesData mode depth m s v)
    (hw : lib.plans.Faithful w) (since : m ≤ w.made) {r : Parsed} {w' : World}
    (hr : s.runWith (lib.links mode depth) [] v w = .ok r w') {x : Datum}
    (hx : r.output? = some x) : x.IsData := by
  obtain ⟨clean, same⟩ := Parsed.output?_eq_some.1 hx
  exact h w x w' hw since ((parse_clean (isSchema_of_runs hr)).2 ⟨r, hr, clean, same⟩)

/-! ## Grouping and order -/

/-- Both parses refuse the value, or they give equal outputs. -/
def ParsesEqually (lib : Library) (mode : Mode) (depth : Nat) (s t : Schema) (v : Datum)
    (w : World) : Prop :=
  EqualIfAny ((lib.parse mode depth s v).result w).toOption
    ((lib.parse mode depth t v).result w).toOption

/-- The sides of nested intersections are run in one order, however they are grouped. -/
theorem parses_regrouped {left middle right : Schema}
    (hl : lib.GivesData mode depth w.made left v) (hm : lib.GivesData mode depth w.made middle v)
    (hr : lib.GivesData mode depth w.made right v) {stray : Failure → Prop}
    (hl' : lib.Steady stray mode depth left v w) (hm' : lib.Steady stray mode depth middle v w)
    (hw : lib.plans.Faithful w) :
    lib.ParsesEqually mode depth (.intersection (.intersection left middle) right)
      (.intersection left (.intersection middle right)) v w := by
  unfold ParsesEqually
  rw [parse_output rfl, parse_output rfl]
  simp only [Schema.runWith, bind_assoc, pure_bind]
  cases hrunl : left.runWith (lib.links mode depth) [] v w with
  | error f w' =>
    rw [Run.bind_of_error hrunl, Run.bind_of_error hrunl]
    exact .none
  | ok l w₁ =>
  rw [Run.bind_of_ok hrunl, Run.bind_of_ok hrunl]
  have faithful₁ := runWith_faithful hw hrunl
  cases hrunm : middle.runWith (lib.links mode depth) [] v w₁ with
  | error f w' =>
    rw [Run.bind_of_error hrunm, Run.bind_of_error hrunm]
    exact .none
  | ok m w₂ =>
  rw [Run.bind_of_ok hrunm, Run.bind_of_ok hrunm]
  have faithful₂ := runWith_faithful faithful₁ hrunm
  cases hrunr : right.runWith (lib.links mode depth) [] v w₂ with
  | error f w' =>
    rw [Run.bind_of_error hrunr, Run.bind_of_error hrunr]
    exact .none
  | ok r w₃ =>
  rw [Run.bind_of_ok hrunr, Run.bind_of_ok hrunr]
  simp only [Pure.pure, EStateM.pure, intersectionResult_output]
  cases hol : l.output? with
  | none => exact .none
  | some a =>
  cases hom : m.output? with
  | none => exact .none
  | some b =>
  cases hor : r.output? with
  | none =>
    cases hz : merge a b <;> simp [hz]
  | some c =>
  have since := hl'.grows hw le_rfl hrunl
  have since' := hm'.grows faithful₁ since hrunm
  exact Value.merge_assoc (hl.output hw le_rfl hrunl hol) (hm.output faithful₁ since hrunm hom)
    (hr.output faithful₂ since' hrunr hor)

/-- The order of the sides does not show, unless one of the parses goes too deep. -/
theorem parses_swapped {left right : Schema}
    (hl : lib.GivesData mode depth w.made left v) (hr : lib.GivesData mode depth w.made right v)
    (hl' : lib.Steady (.fault .tooDeep = ·) mode depth left v w)
    (hr' : lib.Steady (.fault .tooDeep = ·) mode depth right v w) (hw : lib.plans.Faithful w)
    (ends : (lib.parse mode depth (.intersection left right) v).result w ≠ Run.tooDeep)
    (ends' : (lib.parse mode depth (.intersection right left) v).result w ≠ Run.tooDeep) :
    lib.ParsesEqually mode depth (.intersection left right) (.intersection right left) v w := by
  -- The first side of either parse is run now, and so it does not go too deep.
  have first {s t : Schema} (ends : (lib.parse mode depth (.intersection s t) v).result w ≠
      Run.tooDeep) f u (h : s.runWith (lib.links mode depth) [] v w = .error f u) :
      .fault .tooDeep ≠ f := by
    rintro rfl
    have failed : (Schema.intersection s t).runWith (lib.links mode depth) [] v w =
        .error (.fault .tooDeep) u := by
      simp only [Schema.runWith]
      rw [Run.bind_of_error h]
    exact ends (by rw [Run.result, (parse_error rfl).2 (.inl failed)])
  obtain ⟨ρ, hρ, out⟩ := intersection_output hl' hr' hw (first ends')
    (fun f failed deep => ends (by rw [failed, ← deep]))
  obtain ⟨ρ', hρ', out'⟩ := intersection_output hr' hl' hw (first ends)
    (fun f failed deep => ends' (by rw [failed, ← deep]))
  unfold ParsesEqually
  rw [out, out']
  cases hrunl : left.runWith (lib.links mode depth) [] v w with
  | error f u => cases right.runWith (lib.links mode depth) [] v w <;> exact .none
  | ok l u =>
  cases hrunr : right.runWith (lib.links mode depth) [] v w with
  | error f u => exact .none
  | ok r u' =>
  dsimp only
  cases hol : l.output? with
  | none => cases r.output? <;> exact .none
  | some a =>
  cases hor : r.output? with
  | none => exact .none
  | some b =>
  exact Value.merge_comm_renamed (hl.output hw le_rfl hrunl hol) (hr.output hw le_rfl hrunr hor) hρ
    hρ'

/-- Merging data is commutative, associative and idempotent, up to equality, and that it fails is an
outcome, too. So for schemas that give data, with user functions that are pure and do not fail,
neither the order of the sides of an intersection shows in the outcome, unless a parse goes too
deep, nor does their grouping. -/
theorem intersections_join {schemas : Schema → Prop} {left middle right : Schema}
    (hs : lib.plans.Old w.made schemas) (pure : lib.host.Pure) (unfailing : lib.host.Unfailing)
    (hw : lib.plans.Faithful w) (hv : v.Before w.made) (hl : schemas left) (hm : schemas middle)
    (left_data : lib.GivesData mode depth w.made left v)
    (middle_data : lib.GivesData mode depth w.made middle v)
    (right_data : lib.GivesData mode depth w.made right v) :
    (∀ a b c : Datum, a.IsData → b.IsData → c.IsData →
      EqualIfAny (merge a b) (merge b a) ∧
      EqualIfAny ((merge a b).bind (merge · c)) ((merge b c).bind (merge a ·)) ∧
      EqualIfAny (merge a a) (some a)) ∧
    ((lib.parse mode depth (.intersection left middle) v).result w ≠ Run.tooDeep →
      (lib.parse mode depth (.intersection middle left) v).result w ≠ Run.tooDeep →
      lib.ParsesEqually mode depth (.intersection left middle) (.intersection middle left) v w) ∧
    lib.ParsesEqually mode depth (.intersection (.intersection left middle) right)
      (.intersection left (.intersection middle right)) v w := by
  have steady {s : Schema} (h : schemas s) : lib.Steady (.fault .tooDeep = ·) mode depth s v w :=
    .of_shifts (fun k => runWith_shifts hs rfl pure (.inr unfailing) k mode depth h) hw hv
  refine ⟨fun a b c ha hb hc => ?_, fun ends ends' => ?_, ?_⟩
  · exact ⟨Value.merge_comm ha hb, Value.merge_assoc ha hb hc, Value.merge_self ha⟩
  · exact parses_swapped left_data middle_data (steady hl) (steady hm) hw ends ends'
  · exact parses_regrouped left_data middle_data right_data (steady hl) (steady hm) hw

end Library

/-! Boxes, whose items are kept read-only. -/

namespace Packing

theorem unfailing : library.host.Unfailing :=
  ⟨fun _ _ _ => ⟨_, rfl⟩, fun _ _ => ⟨_, rfl⟩, fun _ => ⟨_, rfl⟩, fun _ _ => ⟨_, rfl⟩⟩

def packed : Schema := .readonly (.object [("items", items)] none .strip)

def labelled : Schema := .object [("kind", .any), ("items", .any)] none .strip

def boxed : Schema := .object [("kind", .literal (.str "box"))] none .strip

theorem any_plain : Plain .any := .leaf rfl (List.forall_mem_nil _) rfl

theorem packed_plain : Plain packed := .readonly (.object (List.forall_mem_singleton.2 items_plain))

theorem labelled_plain : Plain labelled :=
  .object (List.forall_mem_cons.2 ⟨any_plain, List.forall_mem_singleton.2 any_plain⟩)

theorem text_data (s : String) : (.str s : Datum).IsData := .single rfl rfl

theorem number_data (i : Int) : (.int i : Datum).IsData := .single rfl rfl

theorem packed_data : library.GivesData .sync 1 0 packed input := by
  intro w x w' _ _ h
  have run : ∃ i j u, library.parse .sync 1 packed input w = .ok
      (.dict (.readOnly (.made i)) [(.str "items", .list (.readOnly (.made j)) [.int 1])]) u :=
    ⟨_, _, _, rfl⟩
  obtain ⟨i, j, u, run⟩ := run
  cases run.symm.trans h
  simp [text_data, number_data]

theorem labelled_data : library.GivesData .sync 1 0 labelled input := by
  intro w x w' _ _ h
  have run : ∃ u, library.parse .sync 1 labelled input w = .ok input u := ⟨_, rfl⟩
  obtain ⟨u, run⟩ := run
  cases run.symm.trans h
  have differ : (.str "kind" : Datum).agrees (.str "items") = false := rfl
  simp [input, text_data, number_data, differ]

theorem boxed_data : library.GivesData .sync 1 0 boxed input := by
  intro w x w' _ _ h
  have run : ∃ u, library.parse .sync 1 boxed input w = .ok
      (.dict .free [(.str "kind", .str "box")]) u := ⟨_, rfl⟩
  obtain ⟨u, run⟩ := run
  cases run.symm.trans h
  simp [text_data]

/-- Swapping the sides changes the order of the entries and nothing else. -/
theorem sides_swapped :
    library.plans.Old 0 Plain ∧ library.host.Pure ∧ library.host.Unfailing ∧
    library.plans.Faithful {} ∧ input.Before 0 ∧ Plain packed ∧ Plain labelled ∧
    library.GivesData .sync 1 0 packed input ∧ library.GivesData .sync 1 0 labelled input ∧
    library.GivesData .sync 1 0 boxed input ∧
    EqualIfAny (merge (.int 1) (.bool true)) (merge (.bool true) (.int 1)) ∧
    (∃ x u y t, library.parse .sync 1 (.intersection packed labelled) input {} = .ok x u ∧
      library.parse .sync 1 (.intersection labelled packed) input {} = .ok y t ∧ x.equal y ∧
      x ≠ y) ∧
    library.ParsesEqually .sync 1 (.intersection (.intersection packed labelled) boxed)
      (.intersection packed (.intersection labelled boxed)) input {} := by
  obtain ⟨laws, swapped, regrouped⟩ := library.intersections_join (plain_old 0) pure unfailing
    .empty (input_before 0) packed_plain labelled_plain packed_data labelled_data boxed_data
  have given : ∃ u, library.parse .sync 1 (.intersection packed labelled) input {} = .ok
      (.dict .free [(.str "items", .list .free [.int 1]), (.str "kind", .str "box")]) u := ⟨_, rfl⟩
  have given' : ∃ u, library.parse .sync 1 (.intersection labelled packed) input {} = .ok
      (.dict .free [(.str "kind", .str "box"), (.str "items", .list .free [.int 1])]) u := ⟨_, rfl⟩
  obtain ⟨u, given⟩ := given
  obtain ⟨t, given'⟩ := given'
  have same := swapped (by simp [Run.result, given]) (by simp [Run.result, given'])
  simp only [Library.ParsesEqually, Run.result, given, given'] at same
  cases same with
  | some same =>
  refine ⟨plain_old 0, pure, unfailing, .empty, input_before 0, packed_plain, labelled_plain,
    packed_data, labelled_data, boxed_data, ?_, ⟨_, u, _, t, given, given', same, ?_⟩, regrouped⟩
  · exact (laws _ _ (.int 1) (number_data 1) (.single rfl rfl) (number_data 1)).1
  · simp

end Packing
end TwoWay
