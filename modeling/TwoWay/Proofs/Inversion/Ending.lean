import TwoWay.Proofs.Forcing.Ending
import TwoWay.Proofs.Inversion.Charting
import TwoWay.Proofs.Inversion.Making
import TwoWay.Proofs.Parse.Tags

/-!
# Inversion comes to an end

Inverting a tree enters no lazy node but those in the tag fields of discriminated unions, for the
tags behind their inverses. Such a node was looked behind before, when the table of the union was
made, and what stands behind it was made within less depth than the union. So these look-ups come
to an end (`Plans.Recursive.looks_end`), and with them inversion (`Library.invert_ends`), however
the lazy nodes lead back to each other.
-/

namespace TwoWay

namespace Schema

def isLazy : Schema → Bool
  | .lazy .. => true
  | _ => false

/-- Trees without lazy nodes. -/
inductive LazyFree : Schema → Prop
  | intro {s : Schema} (h : s.isLazy = false) (parts : ∀ c ∈ s.children, LazyFree c) : LazyFree s

/-- Nodes that hand on nothing but the value they are given and its parts, except to trees
without lazy nodes: there are no substitutes for a missing value, no one-way mappings and no
pipelines. -/
def IsStraight : Schema → Prop
  | .default .. | .pipeline .. => False
  | .effect kind .. => kind = .refinement
  | .invertible input _ output _ => input.LazyFree ∧ output.LazyFree
  | _ => True

theorem LazyFree.tagLazies {s : Schema} (h : s.LazyFree) : s.tagLazies = [] := by
  induction h with
  | @intro s node _ ih =>
    cases s
    case lazy => cases node
    case pipeline | invertible | effect | branded | readonly | default | «catch» | nullable
      | optional => simpa [children, Schema.tagLazies] using ih
    all_goals rfl

/-- A lazy node that has to be looked behind stands in the field of an option. -/
theorem TagLazy.declared {P : Schema → Prop} (child : ∀ s, P s → ∀ c ∈ s.children, P c)
    {s : Schema} {id : LazyId} {origin : Origin} (h : s.TagLazy id origin) (hs : P s) :
    ∃ key options table shape catchall policy field, P (.tagged key options table) ∧
      .object shape catchall policy ∈ options ∧ field? shape key = some field ∧
      (id, origin) ∈ field.tagLazies := by
  induction h with
  | union option declared ahead => exact ⟨_, _, _, _, _, _, _, hs, option, declared, ahead⟩
  | inside hc _ ih => exact ih (child _ hs _ hc)

theorem field?_mem {shape : List (String × Schema)} {key : String} {field : Schema}
    (h : field? shape key = some field) : field ∈ shape.map (·.2) := by
  obtain ⟨before, after, rfl, -⟩ := List.lookup_eq_some_iff.1 h
  simp

theorem tagLazies_within {P : Schema → Prop} (child : ∀ s, P s → ∀ c ∈ s.children, P c)
    {s : Schema} (hs : P s) {id : LazyId} {origin : Origin} (h : (id, origin) ∈ s.tagLazies) :
    P (.lazy id origin) := by
  induction s using child_induction with
  | step s ih =>
    replace ih := fun c hc => ih c hc (child s hs c hc)
    cases s
    case lazy =>
      cases List.mem_singleton.1 h
      exact hs
    case pipeline first second | invertible first _ second _ =>
      rcases List.mem_append.1 h with h | h
      · exact ih first (by simp [children]) h
      · exact ih second (by simp [children]) h
    case effect inner | branded inner _ | readonly inner | default inner _ | «catch» inner _
      | nullable inner | optional inner => exact ih inner (List.mem_singleton_self _) h
    all_goals cases h

end Schema

namespace Plans

/-- Schemas that refer to each other by lazy nodes: each of these stands for one of them, and
their discriminated unions were made with their tables. -/
structure Recursive (plans : Plans) (schemas : Schema → Prop) : Prop where
  child : ∀ s, schemas s → ∀ c ∈ s.children, schemas c
  gives : ∀ id origin, schemas (.lazy id origin) → ∃ s, plans.Gives id origin s ∧ schemas s
  tables : ∀ key options table, schemas (.tagged key options table) →
    plans.Tabulates key options table
  straight : ∀ s, schemas s → s.IsStraight

variable {plans : Plans} {settings : InversionSettings} {schemas : Schema → Prop}

/-- Runs that come to an end, as what can be said of making. -/
def ending (plans : Plans) (fails : Failure → Prop) : plans.Triple Nat where
  Holds := plans.Ends fails
  allows := fails
  logs _ := True
  pure := .pure
  fail h := .throw h
  log _ _ := .record _
  bind := .bind
  ensuring := .ensuring

theorem Tags.option {n : Nat} {key : String} {options : List Schema}
    (h : plans.Tags n key options) {s : Schema} (hs : s ∈ options) :
    ∃ shape catchall policy field values, s = .object shape catchall policy ∧
      Schema.field? shape key = some field ∧
      (field.tagValues (plans.tagsOf n)).Yields values := by
  obtain ⟨owner, table, made⟩ := h
  obtain ⟨i, hi⟩ := List.mem_iff_getElem?.1 hs
  obtain ⟨-, -, -, declared⟩ := tagTable_yields made List.Pairwise.nil
  obtain ⟨shape, catchall, policy, field, values, same, found, yields, -⟩ := declared i s hi
  exact ⟨shape, catchall, policy, field, values, same, found, yields⟩

/-- A lazy node that has to be forced can be forced, if making what it stands for comes to an
end. -/
theorem force_ends {fails : Failure → Prop} {id : LazyId} {origin : Origin} {Q : Schema → Prop}
    (hu : plans.Ends fails (fun depth => plans.unforced depth id origin) Q)
    (hg : ∀ s, plans.Gives id origin s → Q s) :
    plans.Ends fails (fun depth => plans.force depth id origin) Q := by
  refine .succ fun w hw => ?_
  have faithful (depth : Nat) := hw.force (depth + 1) id origin
  simp only [force_succ, Run.result_bind, Run.final_bind, Run.result_get, Run.final_get]
    at faithful ⊢
  cases hmem : w.forced? id origin with
  | some s =>
    refine ⟨0, .ok s, w, fun f same => ?_, fun t ht => Except.ok.inj ht ▸ hg s (hw.gives hmem),
      hw, fun _ _ => ⟨rfl, rfl⟩⟩
    cases same
  | none =>
    obtain ⟨depth, r, u, failed, given, hu, ends⟩ := hu w hw
    simp only [hmem, Run.result_bind, Run.final_bind] at faithful ⊢
    cases r with
    | error f =>
      refine ⟨depth, .error f, u, fun g same => failed g ?_, fun s same => ?_, hu,
        fun k hk => ?_⟩
      · cases same
        rfl
      · cases same
      · rw [(ends k hk).1]
        exact ⟨rfl, (ends k hk).2⟩
    | ok s =>
      have kept := faithful depth
      rw [(ends depth (Nat.le_refl depth)).1, (ends depth (Nat.le_refl depth)).2] at kept
      refine ⟨depth, .ok s, _, fun f same => ?_, fun t ht => given t (congrArg _ (Except.ok.inj ht)),
        kept, fun k hk => ?_⟩
      · cases same
      · rw [(ends k hk).1, (ends k hk).2]
        exact ⟨rfl, rfl⟩

namespace Recursive

variable {n : Nat}

theorem behind (h : plans.Recursive schemas) {id : LazyId} {origin : Origin} {s : Schema}
    (hs : schemas (.lazy id origin)) (hg : plans.Gives id origin s) : schemas s := by
  obtain ⟨t, ht, member⟩ := h.gives id origin hs
  exact hg.unique ht ▸ member

/-- Whatever is behind a tag field has been looked for. -/
theorem found (h : plans.Recursive schemas) {s : Schema} (hs : schemas s) {values : List Datum}
    (hv : (s.tagValues (plans.tagsOf n)).Yields values) {id : LazyId} {origin : Origin}
    (hl : (id, origin) ∈ s.tagLazies) : ∃ tags, (plans.tagsOf n id origin).Yields tags := by
  induction s using Schema.child_induction generalizing values with
  | step s ih =>
    have straight := h.straight s hs
    replace ih := fun c hc {values} => @ih c hc (h.child s hs c hc) values
    cases s
    case lazy =>
      cases List.mem_singleton.1 hl
      exact ⟨values, hv⟩
    case pipeline => cases straight
    case invertible first _ second _ =>
      simp [Schema.tagLazies, straight.1.tagLazies, straight.2.tagLazies] at hl
    case nullable inner | optional inner =>
      obtain ⟨own, hown, -⟩ := hv.bind
      exact ih inner (List.mem_singleton_self _) hown hl
    case effect inner | branded inner _ | readonly inner | default inner _ | «catch» inner _ =>
      exact ih inner (List.mem_singleton_self _) hv hl
    all_goals cases hl

/-- A lazy node in a tag field was looked behind when the table was made. -/
theorem option_found (h : plans.Recursive schemas) {key : String} {options : List Schema}
    {table : List (Datum × Nat)} (union : schemas (.tagged key options table))
    (made : plans.Tags n key options) {shape : List (String × Schema)}
    {catchall : Option Schema} {policy : UnknownKeys} {field : Schema}
    (option : .object shape catchall policy ∈ options)
    (declared : Schema.field? shape key = some field) {id : LazyId} {origin : Origin}
    (ahead : (id, origin) ∈ field.tagLazies) :
    schemas (.lazy id origin) ∧ ∃ tags, (plans.tagsOf n id origin).Yields tags := by
  obtain ⟨_, _, _, _, values, ⟨⟩, declared', yields⟩ := made.option option
  cases declared.symm.trans declared'
  have member := h.child _ (h.child _ union _ option) field
    (List.mem_append_left _ (Schema.field?_mem declared))
  exact ⟨Schema.tagLazies_within h.child member ahead, h.found member yields ahead⟩

theorem tagLazy_found (h : plans.Recursive schemas) {s : Schema} (hs : schemas s)
    (hc : plans.Charted n s) {id : LazyId} {origin : Origin} (hl : s.TagLazy id origin) :
    schemas (.lazy id origin) ∧ ∃ tags, (plans.tagsOf n id origin).Yields tags := by
  obtain ⟨key, options, table, shape, catchall, policy, field, ⟨member, charted⟩, option, declared,
    ahead⟩ := hl.declared (P := fun s => schemas s ∧ plans.Charted n s)
      (fun s hs c hc => ⟨h.child s hs.1 c hc, hs.2.parts hc⟩) ⟨hs, hc⟩
  exact h.option_found member charted.tags option declared ahead

/-- The effects are refinements, and options are objects. -/
theorem refined (h : plans.Recursive schemas) (settings : InversionSettings) :
    plans.Refined settings schemas where
  child := h.child
  refinement _ _ _ _ hs := h.straight _ hs
  objects key options table hs s ho _ _ _ _ := by
    obtain ⟨owner, n, made⟩ := h.tables key options table hs
    obtain ⟨_, _, _, _, _, rfl, -⟩ := Tags.option ⟨owner, table, made⟩ ho
    rfl

/-- What was looked behind within a depth can be looked behind when it is inverted, and what was
made within a depth can be inverted behind its lazy node. -/
theorem looks_end (h : plans.Recursive schemas) (settings : InversionSettings) (n : Nat) :
    (∀ id origin, schemas (.lazy id origin) →
      (∃ tags, (plans.tagsOf n id origin).Yields tags) → ∀ id', plans.Ends (·.isOfMaking)
        (fun depth => plans.tagsBehind depth id' (.inverse settings id origin)) fun _ => True) ∧
    ∀ id origin s, schemas (.lazy id origin) → (plans.schemaOf n id origin).Yields s →
      ∀ id', plans.Ends (·.isOfMaking)
        (fun depth => plans.force depth id' (.inverse settings id origin))
        (plans.Inverts settings s) := by
  induction n with
  | zero =>
    exact ⟨fun _ _ _ ⟨_, hv⟩ => absurd hv Run.not_yields_throw,
      fun _ _ _ _ hs => absurd hs Run.not_yields_throw⟩
  | succ n ih =>
    obtain ⟨looked, inverted⟩ := ih
    -- The tags of an inverse are behind the inverses of what the tags themselves were behind.
    have looks (id : LazyId) (origin : Origin) (hs : schemas (.lazy id origin))
        (hv : ∃ tags, (plans.tagsOf (n + 1) id origin).Yields tags) (id' : LazyId) :
        plans.Ends (·.isOfMaking)
          (fun depth => plans.tagsBehind depth id' (.inverse settings id origin))
          fun _ => True := by
      obtain ⟨tags, hv⟩ := hv
      obtain ⟨s, made, hv⟩ := Run.Yields.bind hv
      have member := h.behind hs (gives_of_yields made)
      refine .succ (Ends.bind (inverted id origin s hs made id') fun t ht => ?_)
      refine Triple.tagValues (T := plans.ending (·.isOfMaking)) fun id'' origin'' hl => ?_
      obtain ⟨base, of, ahead, rfl⟩ := ht.tagLazies hl
      exact looked base of (Schema.tagLazies_within h.child member ahead)
        (h.found member hv ahead) id''
    refine ⟨looks, fun id origin s hs made id' => ?_⟩
    have given := gives_of_yields made
    have member := h.behind hs given
    have charted := (made_charted plans (n + 1)).1 id origin s made
    refine force_ends (Q := plans.Inverts settings s) ?_ fun t ht => ?_
    · refine Ends.bind (k := fun depth t => (t.invertWith ⟨id', plans.tagsBehind depth⟩
        settings).run' 0) given.force_ends fun t ht => ?_
      subst ht
      refine Triple.Makes.run (T := plans.ending (·.isOfMaking)) ?_
      refine Triple.invertWith (T := plans.ending (·.isOfMaking)) (fun _ allowed => allowed)
        (fun _ _ => trivial)
        (h.refined settings) member fun base of hl id'' => ?_
      obtain ⟨inside, tags⟩ := h.tagLazy_found member charted hl
      exact looks base of inside tags id''
    · obtain ⟨t', given', inverts⟩ := ht.inverts
      exact given.unique given' ▸ inverts

/-- Forcing the inverse of a lazy node comes to an end. -/
theorem force_inverse (h : plans.Recursive schemas) {id : LazyId} {origin : Origin}
    (hs : schemas (.lazy id origin)) (settings : InversionSettings) (id' : LazyId) :
    plans.Ends (·.isOfMaking) (fun depth => plans.force depth id' (.inverse settings id origin))
      (plans.Gives id' (.inverse settings id origin)) := by
  obtain ⟨s, ⟨n, made⟩, -⟩ := h.gives id origin hs
  have ends := (h.looks_end settings n).2 id origin s hs (.of_result made) id'
  exact .ensuring ends fun depth => .force depth id' _

end Recursive
end Plans

end TwoWay
