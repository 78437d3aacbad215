import TwoWay.Proofs.Parse.Sentinel

/-!
# The options of a union

A union runs its options in order, each with a list of issues of its own, up to the first clean
one. What becomes of them depends on how the options end that are run alone, one from the world
that the one before it left (`Library.union_outcome`).
-/

namespace TwoWay

namespace Library

variable (lib : Library) (mode : Mode) (depth : Nat)

/-- A parse comes to `r`. In a context it gives the value of `r` and adds the issues of `r` to
those reported before, so that `r` is what it comes to alone. -/
def Reports (s : Schema) (path : Path Live) (v : Datum) (w : World) (r : Parsed) (w' : World) :
    Prop :=
  s.runWith (lib.links mode depth) path v w = .ok r w' ∧
  ∀ before, s.parseIn (lib.channel mode depth) path v (w, before) =
    .ok r.value (w', before ++ r.issues)

/-- A parse fails, and in a context reports nothing before it does. -/
def Raises (s : Schema) (path : Path Live) (v : Datum) (w : World) (f : Failure) (w' : World) :
    Prop :=
  s.runWith (lib.links mode depth) path v w = .error f w' ∧
  ∀ before, s.parseIn (lib.channel mode depth) path v (w, before) = .error f (w', before)

/-- Schemas that are run one after the other, each alone at one path and from the world that the
one before it left, come to results none of which is clean. -/
inductive Tried (path : Path Live) (v : Datum) : List Schema → World → List Parsed → World → Prop
  | nil (w : World) : Tried path v [] w [] w
  | cons {s rest r rs w u w'} : lib.Reports mode depth s path v w r u → r.isClean = false →
      Tried path v rest u rs w' → Tried path v (s :: rest) w (r :: rs) w'

variable {lib mode depth} {path : Path Live} {v : Datum} {s : Schema} {options : List Schema}
  {w w' u : World}

/-- What a parse comes to does not depend on what was reported before. -/
theorem Reports.of_run (hw : lib.plans.Faithful w) {r : Parsed}
    (hr : s.runWith (lib.links mode depth) path v w = .ok r w') :
    lib.Reports mode depth s path v w r w' := by
  have tracked := parseIn_tracks (Allowance.all_closed lib.plans) lib.host.keeps_all mode depth
    (s := s) trivial path (.inl v.keeps_all)
  obtain ⟨new, appends, -⟩ := tracked.appends hw
  simp only [Appends, hr] at appends
  exact ⟨hr, appends.1 ▸ appends.2⟩

/-- The issues of the options stay behind when one of them fails. -/
theorem optionsIn_error {ch : Channel} {tried : List (Datum × List (Issue Live))} {f : Failure}
    {before after : List (Issue Live)}
    (h : optionsIn ch options path v tried (w, before) = .error f (w', after)) :
    after = before := by
  induction options generalizing tried w with
  | nil => cases h
  | cons s rest ih =>
    simp only [optionsIn, bind, EStateM.bind, Reporting.fork] at h
    cases hs : s.parseIn ch path v (w, []) with
    | error g c =>
      rw [hs] at h
      cases h
      rfl
    | ok x c =>
      rw [hs] at h
      dsimp only at h
      split at h
      · cases h
      · exact ih h

theorem Raises.of_union (hw : lib.plans.Faithful w) {f : Failure}
    (hr : (Schema.union options).runWith (lib.links mode depth) path v w = .error f w') :
    lib.Raises mode depth (.union options) path v w f w' := by
  have tracked := parseIn_tracks (Allowance.all_closed lib.plans) lib.host.keeps_all mode depth
    (s := .union options) trivial path (.inl v.keeps_all)
  obtain ⟨new, appends, -⟩ := tracked.appends hw
  simp only [Appends, hr] at appends
  have none : new = [] := optionsIn_error (appends [])
  refine ⟨hr, fun before => ?_⟩
  rw [appends before, none, List.append_nil]

namespace Tried

variable {tried : List Parsed}

theorem unclean (h : lib.Tried mode depth path v options w tried w') :
    ∀ r ∈ tried, r.isClean = false := by
  induction h with
  | nil w => exact nofun
  | cons _ unclean _ ih => exact List.forall_mem_cons.2 ⟨unclean, ih⟩

theorem faithful (h : lib.Tried mode depth path v options w tried w')
    (hw : lib.plans.Faithful w) : lib.plans.Faithful w' := by
  induction h with
  | nil w => exact hw
  | cons hr _ _ ih => exact ih (runWith_faithful hw hr.1)

/-- The options that have been tried are behind the run of a union. -/
theorem goes_on (h : lib.Tried mode depth path v options w tried u) (later : List Schema)
    (before : List Parsed) :
    runOptions (lib.links mode depth) (options ++ later) path v before w =
      runOptions (lib.links mode depth) later path v (before ++ tried) u := by
  induction h generalizing before with
  | nil w => rw [List.append_nil, List.nil_append]
  | cons hr unclean _ ih =>
    rw [List.cons_append, runOptions, Run.bind_of_ok hr.1, unclean, if_neg Bool.false_ne_true, ih,
      List.append_assoc, List.singleton_append]

/-- The options that have been tried are all there is to a union that has no others. -/
theorem run_union (h : lib.Tried mode depth path v options w tried w') :
    (Schema.union options).runWith (lib.links mode depth) path v w =
      .ok (unionResult path tried) w' := by
  have run := h.goes_on [] []
  rw [List.append_nil, List.nil_append] at run
  exact run

/-- Options that supply no sentinels give reasons for giving no output. -/
theorem reported {schemas : Schema → Prop} (hc : (lib.sentinelFree schemas).Closed lib.plans)
    (hh : lib.host.Keeps (lib.sentinelFree schemas))
    (hv : v.Keeps (lib.sentinelFree schemas) ∨ v = .missing) (hs : ∀ s ∈ options, schemas s)
    (hw : lib.plans.Faithful w) (h : lib.Tried mode depth path v options w tried w') :
    ∀ r ∈ tried, r.issues ≠ [] := by
  induction h with
  | nil w => exact nofun
  | @cons s rest r rs w u w' hr unclean _ ih =>
    obtain ⟨first, others⟩ := List.forall_mem_cons.1 hs
    refine List.forall_mem_cons.2 ⟨fun quiet => ?_, ih others (runWith_faithful hw hr.1)⟩
    have tracked := parseIn_tracks hc hh mode depth first path
      (hv.imp_right fun hv => ⟨trivial, hv⟩)
    have kept := (tracked.ensures.ok hw hr.1).2
    have invalid : r.value.isInvalid := by simpa [Parsed.isClean, quiet] using unclean
    exact (kept.excused invalid).resolve_left id quiet

end Tried

end Library

namespace Chain

def alternatives : List Schema := [.number {} false, .lazy (.step 0) (.getter getter)]

end Chain
end TwoWay
