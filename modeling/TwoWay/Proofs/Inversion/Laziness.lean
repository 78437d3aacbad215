import TwoWay.Proofs.Inversion.Backward
import TwoWay.Proofs.Inversion.Ending

/-!
# Laziness of inversion

Inverting forces no lazy node outside of the tag fields of discriminated unions
(`Library.invert_logs_only`). The inverse of a lazy node waits (`Plans.Inverts.lazy_waits`): it is
made when it is needed, under the settings under which the tree was inverted
(`Plans.force_inverse`).
-/

namespace TwoWay

/-! ## Lazy nodes of inverses -/

namespace Plans

variable {plans : Plans} {settings : InversionSettings} {s t u : Schema}

theorem Inverts.within (h : plans.Inverts settings s t) (hu : plans.Within t u) :
    plans.Reversal settings s u := by
  have closed : Allowance.Closed ⟨True, fun _ => True, plans.Reversal settings s⟩ plans :=
    Reversal.closed _ _
  induction hu with
  | self => exact .inverse .self h
  | child _ hc ih => exact closed.child ih hc
  | behind _ hg ih => exact closed.behind ih hg

/-- The lazy nodes in an inverse and behind its lazy nodes are the inverses of such nodes of the
schema, under the settings of the inversion. -/
theorem Inverts.lazy_waits (h : plans.Inverts settings s t) {id : LazyId} {origin : Origin}
    (ht : plans.Within t (.lazy id origin)) :
    ∃ base of, origin = .inverse settings base of ∧ plans.Within s (.lazy base of) := by
  cases h.within ht with
  | inverse hu h =>
    obtain ⟨b, hb, h, node⟩ := h.source hu
    cases h
    case lazy => exact ⟨_, _, rfl, hb⟩
    case leaf leaf => cases leaf
    all_goals cases node.resolve_right nofun

variable (plans) in
/-- How inverting a schema under settings ends, within some depth and without memory. -/
def InversionEnds (owner : LazyId) (settings : InversionSettings) (s : Schema)
    (r : Except Failure Schema) : Prop :=
  ∃ n, ((s.invertWith ⟨owner, plans.tagsOf n⟩ settings).run' 0).result {} = r

/-- The schema of an inverted lazy node is made by inverting that of the node, under the settings
that the inverted node was made with. -/
theorem force_inverse {w : World} (hw : plans.Faithful w) (depth : Nat) (id base : LazyId)
    (of : Origin) :
    (plans.force depth id (.inverse settings base of)).result w = Run.tooDeep ∨
    (∃ f, (plans.force depth id (.inverse settings base of)).result w = .error f ∧
      plans.Fails base of f) ∨
    ∃ r, plans.Gives base of r ∧ plans.InversionEnds id settings r
      ((plans.force depth id (.inverse settings base of)).result w) := by
  rcases ((remembers depth).force id (.inverse settings base of) w hw).2 with deep | ⟨n, hn⟩
  · exact .inl deep
  -- What is remembered is what is made anew within a greater depth.
  have made := hn (n + 1) (Nat.le_succ n) {}
  simp only [beside, schemaOf, Run.result_bind] at made
  rw [← made]
  cases hr : (plans.schemaOf n base of).result {} with
  | error f => exact .inr (.inl ⟨f, rfl, n, hr⟩)
  | ok r =>
    have alike : Run.deeper.Holds fun _ =>
        (r.invertWith ⟨id, plans.tagsOf n⟩ settings).run' 0 := by
      have same := @makes_deeper plans n 0
      simp only [Nat.add_zero, Bool.cond_self] at same
      exact Run.Law.Makes.run (Run.Law.invertWith same.tags r)
    refine (alike ((plans.schemaOf n base of).final {}) {}).imp_right fun same => .inr ?_
    exact ⟨r, ⟨n, hr⟩, n, same⟩

/-! ## Inverting alone -/

/-- Runs that do nothing but leave records of what inversion does. -/
def logging (plans : Plans) : plans.Triple Unit where
  Holds m Q := ∀ w, plans.Faithful w →
    (∃ records : List InversionEvent,
      (m ()).final w = { w with journal := records.map .logged ++ w.journal }) ∧
    ∀ a, (m ()).result w = .ok a → Q a
  allows _ := True
  logs _ := True
  pure h _ _ := ⟨⟨[], rfl⟩, fun _ ha => Except.ok.inj ha ▸ h⟩
  fail _ _ _ := ⟨⟨[], rfl⟩, nofun⟩
  log e _ _ _ := ⟨⟨[e], rfl⟩, fun _ _ => trivial⟩
  bind {α β m k P Q} hm hk w hw := by
    obtain ⟨⟨records, final⟩, given⟩ := hm w hw
    simp only [Run.result_bind, Run.final_bind]
    cases hr : (m ()).result w with
    | error f => exact ⟨⟨records, final⟩, nofun⟩
    | ok a =>
      have faithful : plans.Faithful ((m ()).final w) := by
        rw [final]
        exact hw.of_memory rfl rfl
      obtain ⟨⟨records', final'⟩, given'⟩ := hk a (given a hr) _ faithful
      refine ⟨⟨records' ++ records, final'.trans ?_⟩, given'⟩
      rw [final, List.map_append, List.append_assoc]
  ensuring hm he w hw := ⟨(hm w hw).1, (he () w hw).2⟩

end Plans

namespace Library

variable {lib : Library}

/-- Inverting forces no lazy node and calls no getter, as long as no lazy node stands in a tag field
of a discriminated union. -/
theorem invert_logs_only {schemas : Schema → Prop} {s : Schema} (hs : schemas s)
    (child : ∀ t, schemas t → ∀ c ∈ t.children, schemas c)
    (tables : ∀ key options table, schemas (.tagged key options table) →
      lib.plans.Tabulates key options table)
    (tags : ∀ id origin, ¬s.TagLazy id origin) (depth step : Nat) (settings : InversionSettings)
    {w : World} (hw : lib.plans.Faithful w) :
    ∃ records : List InversionEvent, (lib.invert depth step settings s).final w =
      { w with journal := records.map .logged ++ w.journal } := by
  let T := Plans.logging lib.plans
  have covers : T.Covers settings (fun t => schemas t ∧ ∀ id origin, ¬t.TagLazy id origin)
      fun _ => depth := {
    child := fun t ht c hc => ⟨child t ht.1 c hc, fun id origin h => ht.2 id origin (.inside hc h)⟩
    part := fun _ _ _ _ => .inr fun _ _ => trivial
    elided := fun _ _ elidable _ _ => .inr (by cases elidable <;> trivial)
    unknown := fun _ _ _ _ => ⟨trivial, trivial⟩
    union := fun key options table ht options' inverted owner => by
      refine T.bind (Plans.Triple.tagTable (fun _ _ => trivial) ?_ 0 []) fun _ _ => T.pure trivial
      -- A lazy node to look behind would be the inverse of one in a tag field.
      intro shape' catchall' policy' member field' found id' origin' behind
      obtain ⟨option, member, related⟩ := forall₂_right inverted member
      obtain ⟨owner, n, made⟩ := tables key options table ht.1
      obtain ⟨shape, catchall, policy, -, -, rfl, -, -⟩ :=
        Plans.Tags.option ⟨owner, table, made⟩ member
      obtain ⟨-, field, declared, related⟩ := related.fieldwise.swap.at_key found
      obtain ⟨id, origin, ahead, -⟩ := related.tagLazies behind
      exact absurd (.union member declared ahead) (ht.2 id origin) }
  have inverted : T.Makes (fun _ => s.invertWith (lib.plans.maker depth step) settings)
      (lib.plans.Inverts settings s) := Plans.Triple.inverting covers ⟨hs, tags⟩
  exact (inverted.run w hw).1

end Library

end TwoWay
