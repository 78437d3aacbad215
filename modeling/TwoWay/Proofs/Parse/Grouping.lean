import TwoWay.Proofs.Parse.Alternatives
import TwoWay.Proofs.Parse.Lookup
import TwoWay.Schema.Method

/-!
# Nested unions

The same options can stand in one union or be nested into several, as chains of `or` do. Either
way the same options are run, in the same order and from the same worlds, and they come to the same
result. Only what a refusal says about the alternatives follows the nesting
(`Library.nests_concur`).
-/

namespace TwoWay

theorem Schema.call_or (maker : Maker) {s : Schema} (given : s.isSchema) (other : Schema) :
    s.call maker (.or other) = (pure (.union [s, other]) : Make Schema) := by
  unfold call
  rw [given]
  rfl

/-- The members of a union, in order: options, and unions of further options. -/
inductive Nest where
  | none
  | option (s : Schema) (rest : Nest)
  | union (inner rest : Nest)

namespace Nest

/-- The options, in order. -/
def options : Nest → List Schema
  | .none => []
  | .option s rest => s :: rest.options
  | .union inner rest => inner.options ++ rest.options

/-- The schemas of the members. -/
def members : Nest → List Schema
  | .none => []
  | .option s rest => s :: rest.members
  | .union inner rest => .union inner.members :: rest.members

/-- Options that are not nested. -/
def flat (options : List Schema) : Nest := options.foldr .option .none

/-- Adds options one by one, each beside a union of all those before. -/
def chain (nest : Nest) (options : List Schema) : Nest :=
  options.foldl (fun inner s => .union inner (.option s .none)) nest

theorem options_chain (nest : Nest) (options : List Schema) :
    (nest.chain options).options = nest.options ++ options := by
  induction options generalizing nest with
  | nil => exact (List.append_nil _).symm
  | cons s rest ih =>
    unfold chain at ih ⊢
    rw [List.foldl_cons, ih, Nest.options, List.append_assoc]
    rfl

/-- A chain of `or` that starts at a union. -/
theorem or_chain (maker : Maker) (nest : Nest) (options : List Schema) :
    options.foldlM (fun s t => s.call maker (.or t)) (.union nest.members) =
      (pure (.union (nest.chain options).members) : Make Schema) := by
  induction options generalizing nest with
  | nil => rfl
  | cons s rest ih => exact ih (.union nest (.option s .none))

end Nest

namespace Library

variable {lib : Library} {mode : Mode} {depth : Nat} {path : Path Live} {v : Datum} {s : Schema}
  {options later : List Schema} {w w' u : World}

/-! ## Options that are stopped at -/

variable (lib mode depth) in
/-- Schemas are run one after the other, as in `Tried`, up to one that is clean or fails: it ends
like `r`. -/
inductive Stops (path : Path Live) (v : Datum) :
    List Schema → World → EStateM.Result Failure World Parsed → Prop
  | here {s rest w r} : s.runWith (lib.links mode depth) path v w = r →
      (∀ t w', r = .ok t w' → t.isClean) → Stops path v (s :: rest) w r
  | later {s rest t w u r} : lib.Reports mode depth s path v w t u → t.isClean = false →
      Stops path v rest u r → Stops path v (s :: rest) w r

variable {tried : List Parsed} {r : EStateM.Result Failure World Parsed}

theorem Tried.append (h : lib.Tried mode depth path v options w tried u) {more : List Parsed}
    (h' : lib.Tried mode depth path v later u more w') :
    lib.Tried mode depth path v (options ++ later) w (tried ++ more) w' := by
  induction h with
  | nil w => exact h'
  | cons alone unclean _ ih => exact .cons alone unclean (ih h')

theorem Tried.stops (h : lib.Tried mode depth path v options w tried u)
    (h' : lib.Stops mode depth path v later u r) :
    lib.Stops mode depth path v (options ++ later) w r := by
  induction h with
  | nil w => exact h'
  | cons alone unclean _ ih => exact .later alone unclean (ih h')

namespace Stops

theorem clean_of_ok (h : lib.Stops mode depth path v options w r) :
    ∀ t w', r = .ok t w' → t.isClean := by
  induction h with
  | here _ clean => exact clean
  | later _ _ _ ih => exact ih

theorem append (h : lib.Stops mode depth path v options w r) (later : List Schema) :
    lib.Stops mode depth path v (options ++ later) w r := by
  induction h with
  | here run clean => exact .here run clean
  | later alone unclean _ ih => exact .later alone unclean ih

/-- A union ends as the option it stops at. -/
theorem run_options (h : lib.Stops mode depth path v options w r) (before : List Parsed) :
    runOptions (lib.links mode depth) options path v before w = r := by
  induction h generalizing before with
  | @here s rest w r run clean =>
    rw [runOptions]
    cases r with
    | ok t w' =>
      rw [Run.bind_of_ok run, clean t w' rfl]
      rfl
    | error f w' => exact Run.bind_of_error run
  | later alone unclean _ ih =>
    rw [runOptions, Run.bind_of_ok alone.1, unclean, if_neg Bool.false_ne_true, ih]

end Stops

/-! ## Ending alike -/

/-- The first result with an output. -/
def firstOutput (tried : List Parsed) : Option Parsed := tried.find? fun r => !r.value.isInvalid

theorem firstOutput_unionResult (path : Path Live) (tried later : List Parsed) :
    firstOutput (unionResult path tried :: later) =
      (firstOutput tried).or (firstOutput later) := by
  unfold firstOutput unionResult
  cases found : tried.find? fun r => !r.value.isInvalid with
  | none => rfl
  | some r =>
    have valid := List.find?_some found
    rw [List.find?_cons, valid]
    rfl

variable (lib mode depth path v) in
/-- The members of a nest are all tried in vain, as its options are, and then their first output is
that of the options; or both stop alike. -/
theorem ends_alike (nest : Nest) {w : World} (hw : lib.plans.Faithful w) :
    (∃ ofMembers ofOptions w', lib.Tried mode depth path v nest.members w ofMembers w' ∧
      lib.Tried mode depth path v nest.options w ofOptions w' ∧
      firstOutput ofMembers = firstOutput ofOptions) ∨
    ∃ r, lib.Stops mode depth path v nest.members w r ∧
      lib.Stops mode depth path v nest.options w r := by
  induction nest generalizing w with
  | none => exact .inl ⟨[], [], w, .nil w, .nil w, rfl⟩
  | option s rest ih =>
    cases run : s.runWith (lib.links mode depth) path v w with
    | error f w' => exact .inr ⟨_, .here run nofun, .here run nofun⟩
    | ok t u =>
      cases clean : t.isClean with
      | true =>
        have ends t' u' (same : (.ok t u : EStateM.Result Failure World Parsed) = .ok t' u') :
            t'.isClean := by
          cases same
          exact clean
        exact .inr ⟨_, .here run ends, .here run ends⟩
      | false =>
        have alone := Reports.of_run hw run
        obtain ⟨ts, us, w', members, options, same⟩ | ⟨r, members, options⟩ :=
          ih (runWith_faithful hw run)
        · refine .inl ⟨t :: ts, t :: us, w', .cons alone clean members, .cons alone clean options,
            ?_⟩
          unfold firstOutput at same ⊢
          rw [List.find?_cons, List.find?_cons, same]
        · exact .inr ⟨r, .later alone clean members, .later alone clean options⟩
  | union inner rest innerAlike restAlike =>
    obtain ⟨ts, us, u, members, options, same⟩ | ⟨r, members, options⟩ := innerAlike hw
    · -- The inner union stands for its options, with their first output if there is one.
      have alone := Reports.of_run hw members.run_union
      have unclean : (unionResult path ts).isClean = false := unionResult_unclean members.unclean
      obtain ⟨ts', us', w', members', options', same'⟩ | ⟨r, members', options'⟩ :=
        restAlike (members.faithful hw)
      · refine .inl ⟨unionResult path ts :: ts', us ++ us', w', .cons alone unclean members',
          options.append options', ?_⟩
        rw [firstOutput_unionResult, same, same']
        exact List.find?_append.symm
      · exact .inr ⟨r, .later alone unclean members', options.stops options'⟩
    · exact .inr ⟨r, .here (members.run_options []) members.clean_of_ok, options.append _⟩

/-! ## The options that are run -/

/-- What is run after one run has ended: nothing, if it was clean or failed. -/
def goingOn {α : Type} (ended : EStateM.Result Failure World Parsed) (later : World → List α) :
    List α :=
  match ended with
  | .ok r w => if r.isClean then [] else later w
  | .error .. => []

variable (lib mode depth path v) in
/-- The options that the union of a nest runs, in order, each with the world it is run from. -/
def ran : Nest → World → List (Schema × World)
  | .none, _ => []
  | .option s rest, w =>
    (s, w) :: goingOn (s.runWith (lib.links mode depth) path v w) (ran rest)
  | .union inner rest, w =>
    ran inner w ++
      goingOn ((Schema.union inner.members).runWith (lib.links mode depth) path v w) (ran rest)

/-- Schemas are run one after the other, each from the world that the one before it left. -/
inductive Linked (lib : Library) (mode : Mode) (depth : Nat) (path : Path Live) (v : Datum) :
    List (Schema × World) → World → World → Prop
  | nil (w : World) : Linked lib mode depth path v [] w w
  | cons {s rest w w'} : Linked lib mode depth path v rest
      (Run.final (s.runWith (lib.links mode depth) path v) w) w' →
      Linked lib mode depth path v ((s, w) :: rest) w w'

theorem goingOn_unclean {α : Type} {t : Parsed} (unclean : t.isClean = false) (w : World)
    (later : World → List α) : goingOn (.ok t w) later = later w := by
  rw [goingOn, unclean, if_neg Bool.false_ne_true]

theorem goingOn_stopped {α : Type} (ends : ∀ t w', r = .ok t w' → t.isClean)
    (later : World → List α) : goingOn r later = [] := by
  cases r with
  | ok t w' => rw [goingOn, if_pos (ends t w' rfl)]
  | error f w' => rfl

theorem Linked.append {first second : List (Schema × World)}
    (h : lib.Linked mode depth path v first w u) (h' : lib.Linked mode depth path v second u w') :
    lib.Linked mode depth path v (first ++ second) w w' := by
  induction h with
  | nil w => exact h'
  | cons _ ih => exact .cons (ih h')

/-- What is run for a member of a union links to what is run for the members after it. -/
theorem Linked.goesOn {first : List (Schema × World)} {later : World → List (Schema × World)}
    {members : List Schema}
    (h : lib.Linked mode depth path v first w
      (Run.final (s.runWith (lib.links mode depth) path v) w))
    (rest : ∀ before u, lib.Linked mode depth path v (later u) u
      (Run.final (runOptions (lib.links mode depth) members path v before) u))
    (before : List Parsed) :
    lib.Linked mode depth path v
      (first ++ goingOn (s.runWith (lib.links mode depth) path v w) later) w
      (Run.final (runOptions (lib.links mode depth) (s :: members) path v before) w) := by
  unfold Run.final at h ⊢
  rw [runOptions]
  cases run : s.runWith (lib.links mode depth) path v w with
  | error f u =>
    rw [run] at h
    rw [Run.bind_of_error run, goingOn, List.append_nil]
    exact h
  | ok t u =>
    rw [run] at h
    rw [Run.bind_of_ok run, goingOn]
    cases t.isClean with
    | true =>
      rw [if_pos rfl, List.append_nil]
      exact h
    | false =>
      rw [if_neg Bool.false_ne_true]
      exact h.append (rest _ u)

variable (lib mode depth path v) in
/-- What is run for a nest leads to the world that the union of the nest leaves. -/
theorem ran_linked (nest : Nest) (before : List Parsed) (w : World) :
    lib.Linked mode depth path v (lib.ran mode depth path v nest w) w
      (Run.final (runOptions (lib.links mode depth) nest.members path v before) w) := by
  induction nest generalizing before w with
  | none => exact .nil w
  | option s rest ih =>
    have first : lib.Linked mode depth path v [(s, w)] w _ := .cons (.nil _)
    exact first.goesOn ih before
  | union inner rest innerLinked restLinked =>
    have first : lib.Linked mode depth path v (lib.ran mode depth path v inner w) w (Run.final
        ((Schema.union inner.members).runWith (lib.links mode depth) path v) w) :=
      innerLinked [] w
    exact first.goesOn restLinked before

theorem Tried.ran (h : lib.Tried mode depth path v options w tried u) (later : List Schema) :
    lib.ran mode depth path v (.flat (options ++ later)) w =
      lib.ran mode depth path v (.flat options) w ++
        lib.ran mode depth path v (.flat later) u := by
  induction h with
  | nil w => rfl
  | @cons s rest t ts w u w' alone unclean _ ih =>
    change (s, w) :: goingOn _ _ = (s, w) :: goingOn _ _ ++ _
    rw [alone.1, goingOn_unclean unclean, goingOn_unclean unclean, List.cons_append]
    exact congrArg _ ih

theorem Stops.ran (h : lib.Stops mode depth path v options w r) (later : List Schema) :
    lib.ran mode depth path v (.flat (options ++ later)) w =
      lib.ran mode depth path v (.flat options) w := by
  induction h with
  | @here s rest w r run clean =>
    change (s, w) :: goingOn _ _ = (s, w) :: goingOn _ _
    rw [run, goingOn_stopped clean, goingOn_stopped clean]
  | @later s rest t w u r alone unclean _ ih =>
    change (s, w) :: goingOn _ _ = (s, w) :: goingOn _ _
    rw [alone.1, goingOn_unclean unclean, goingOn_unclean unclean]
    exact congrArg _ ih

variable (lib mode depth path v) in
/-- However options are nested, the same ones are run. -/
theorem ran_flat (nest : Nest) {w : World} (hw : lib.plans.Faithful w) :
    lib.ran mode depth path v nest w = lib.ran mode depth path v (.flat nest.options) w := by
  induction nest generalizing w with
  | none => rfl
  | option s rest ih =>
    change (s, w) :: goingOn _ _ = (s, w) :: goingOn _ _
    cases run : s.runWith (lib.links mode depth) path v w with
    | error f w' => rfl
    | ok t u =>
      have same := ih (runWith_faithful hw run)
      unfold goingOn
      dsimp only
      rw [same]
      rfl
  | union inner rest innerAlike restAlike =>
    rw [Library.ran, Nest.options, innerAlike hw]
    obtain ⟨ts, us, u, members, options, same⟩ | ⟨r, members, options⟩ :=
      lib.ends_alike mode depth path v inner hw
    · rw [members.run_union, goingOn_unclean (unionResult_unclean members.unclean),
        restAlike (members.faithful hw), options.ran]
    · have run : (Schema.union inner.members).runWith (lib.links mode depth) path v w = r :=
        members.run_options []
      rw [run, goingOn_stopped members.clean_of_ok, List.append_nil, options.ran]

/-- Chains of `or` nest options. However options are nested into unions, the same ones are run in
the same order, one from the world another left up to the world that the union leaves. In every
context the nested union and the flat one come to the same result with the same issues, or both
refuse the value for a single reason at their path, or both fail and report nothing. -/
theorem nests_concur (lib : Library) (mode : Mode) (depth : Nat) (nest : Nest) (path : Path Live)
    (v : Datum) {w : World} (hw : lib.plans.Faithful w) :
    (∀ maker first second rest, first.isSchema → ∃ chain : Nest,
      chain.options = first :: second :: rest ∧
      (second :: rest).foldlM (fun s t => s.call maker (.or t)) first =
        (pure (.union chain.members) : Make Schema)) ∧
    lib.ran mode depth path v nest w = lib.ran mode depth path v (.flat nest.options) w ∧
    lib.Linked mode depth path v (lib.ran mode depth path v nest w) w
      (Run.final ((Schema.union nest.members).runWith (lib.links mode depth) path v) w) ∧
    ((∃ r w', r.value.isInvalid = false ∧
        lib.Reports mode depth (.union nest.members) path v w r w' ∧
        lib.Reports mode depth (.union nest.options) path v w r w') ∨
      (∃ branches branches' w',
        lib.Reports mode depth (.union nest.members) path v w (.refused ⟨.invalidUnion,
          "Invalid input", path, [("union_issues", .branches branches)]⟩) w' ∧
        lib.Reports mode depth (.union nest.options) path v w (.refused ⟨.invalidUnion,
          "Invalid input", path, [("union_issues", .branches branches')]⟩) w') ∨
      ∃ f w', lib.Raises mode depth (.union nest.members) path v w f w' ∧
        lib.Raises mode depth (.union nest.options) path v w f w') := by
  refine ⟨fun maker first second rest given => ?chained, lib.ran_flat mode depth path v nest hw,
    lib.ran_linked mode depth path v nest [] w, ?_⟩
  case chained =>
    let pair : Nest := .option first (.option second .none)
    refine ⟨pair.chain rest, pair.options_chain rest, ?_⟩
    rw [List.foldlM_cons, Schema.call_or maker given, pure_bind]
    exact Nest.or_chain maker pair rest
  obtain ⟨ts, us, w', members, options, same⟩ | ⟨r, members, options⟩ :=
    lib.ends_alike mode depth path v nest hw
  · have ofMembers := Reports.of_run hw members.run_union
    have ofOptions := Reports.of_run hw options.run_union
    unfold unionResult at ofMembers ofOptions
    unfold firstOutput at same
    rw [same] at ofMembers
    cases found : us.find? fun r => !r.value.isInvalid with
    | some r =>
      rw [found] at ofMembers ofOptions
      have valid : r.value.isInvalid = false := by simpa using List.find?_some found
      exact .inl ⟨r, w', valid, ofMembers, ofOptions⟩
    | none =>
      rw [found] at ofMembers ofOptions
      exact .inr (.inl ⟨_, _, w', ofMembers, ofOptions⟩)
  · have ofMembers := members.run_options []
    have ofOptions := options.run_options []
    cases r with
    | ok t w' =>
      have valid := (Parsed.isClean_iff.1 (members.clean_of_ok t w' rfl)).1
      exact .inl ⟨t, w', valid, .of_run hw ofMembers, .of_run hw ofOptions⟩
    | error f w' => exact .inr (.inr ⟨f, w', .of_union hw ofMembers, .of_union hw ofOptions⟩)

end Library

namespace Chain

/-- Numbers or else empty mappings, or else mappings with a name. -/
def shapes : Nest :=
  .union (.option (.number {} false) (.option (.object [] none .strict) .none))
    (.option (.object [("name", .any)] none .strict) .none)

def sizes : Entries Live := [(.str "name", .str "a"), (.str "size", .int 2)]

def notEmpty : Parsed := ⟨.dict .free [], [unrecognizedKeys [] sizes]⟩

/-- No option is clean, so that all of them are run. The nested union comes to what the first one
that reads mappings comes to, as the flat one does. -/
theorem first_shape_counts :
    (library.ran .sync 0 [] (.dict .free sizes) shapes {}).map (·.1) = shapes.options ∧
    library.Reports .sync 0 (.union shapes.members) [] (.dict .free sizes) {} notEmpty {} ∧
    library.Reports .sync 0 (.union shapes.options) [] (.dict .free sizes) {} notEmpty {} := by
  obtain ⟨-, same, -, outcome⟩ := library.nests_concur .sync 0 shapes [] (.dict .free sizes) .empty
  have run : (Schema.union shapes.members).runWith (library.links .sync 0) [] (.dict .free sizes)
      {} = .ok notEmpty {} := rfl
  refine ⟨?_, ?_⟩
  · rw [same]
    rfl
  · obtain ⟨r, w, -, nested, flat⟩ | ⟨_, _, _, nested, -⟩ | ⟨_, _, nested, -⟩ := outcome
    · cases run.symm.trans nested.1
      exact ⟨nested, flat⟩
    · cases run.symm.trans nested.1
    · cases run.symm.trans nested.1

end Chain
end TwoWay
