import TwoWay.Proofs.Inversion.Parsing

/-!
# Inverting twice gives the parse back

A symmetric schema and what two inversions make of it parse alike
(`Library.inverted_twice_parses_alike`). A lazy node of the latter inverts twice when it is first
used, and it may turn out then that what it stands for cannot be inverted twice
(`Clash.loses_value`).
-/

namespace TwoWay

namespace Plans

variable {plans : Plans} {first second : InversionSettings} {schemas : Schema → Prop}

theorem Mirrors.isSchema (hs : plans.Symmetric schemas) {s u : Schema} (h : schemas s)
    (hu : plans.Mirrors first second s u) : u.isSchema := by
  induction s using Schema.child_induction generalizing u with
  | step s ih =>
    have symmetric := hs.node h
    cases hu
    case branded s name hu =>
      have child : s ∈ (Schema.branded s name).children := List.mem_singleton.2 rfl
      exact ih s child (hs.child h child) hu
    case leaf leaf =>
      cases s
      case raw => cases symmetric
      all_goals rfl
    all_goals rfl

variable (plans first second schemas)

/-- Going too deep, and the failures of the inversions that a lazy node of a mirror waits for,
where the lazy node that it mirrors stands for a schema. -/
def Stray (f : Failure) : Prop :=
  f = .fault .tooDeep ∨ ∃ id id' id'' origin s, schemas (.lazy id origin) ∧
    plans.Gives id origin s ∧ plans.Fails id'' (.inverse second id' (.inverse first id origin)) f

variable {plans first second schemas}

theorem force_alike (hs : plans.Symmetric schemas) (m n : Nat) {id id' id'' : LazyId}
    {origin : Origin} (h : schemas (.lazy id origin)) :
    plans.Alike (plans.Stray first second schemas) (plans.force m id origin)
      (plans.force n id'' (.inverse second id' (.inverse first id origin)))
      fun s u => schemas s ∧ plans.Mirrors first second s u := by
  intro w u level
  cases hm : plans.force m id origin w with
  | ok s w' =>
    obtain ⟨leads, given⟩ := force_ok level.left hm
    cases hn : plans.force n id'' _ u with
    | ok t u' =>
      obtain ⟨leads', given'⟩ := force_ok level.right hn
      obtain ⟨s', same, member, mirrors⟩ := given'.mirrors hs h
      cases given.unique same
      have made := leads.made.trans (level.made.trans leads'.made.symm)
      exact ⟨⟨leads.faithful, leads'.faithful, made⟩, member, mirrors⟩
    | error g u' =>
      exact .inr ⟨id, id', id'', origin, s, h, given, (force_error level.right hn).2⟩
  | error f w' =>
    cases hn : plans.force n id'' _ u with
    | ok t u' =>
      obtain ⟨s, given, -, -⟩ := (force_ok level.right hn).2.mirrors hs h
      exact given.not_fails (force_error level.left hm).2
    | error g u' => trivial

end Plans

variable {lib : Library} {schemas : Schema → Prop} {first second : InversionSettings}

/-- The links of parses at all depths are twins. -/
theorem Library.links_twins (hs : lib.plans.Symmetric schemas) (hc : lib.host.CalmOn schemas)
    (mode : Mode) (m n : Nat) :
    lib.plans.Twins (lib.plans.Stray first second schemas) first second schemas
      (lib.links mode m) (lib.links mode n) := by
  induction m generalizing n with
  | zero =>
    exact ⟨.inl rfl, lib.links_host mode n, lib.links_ready mode 0, lib.links_ready mode n,
      fun _ _ _ => .tooDeepLeft⟩
  | succ m ih =>
    refine ⟨.inl rfl, lib.links_host mode n, lib.links_ready mode _, lib.links_ready mode n, ?_⟩
    intro id id' id'' origin h path v
    cases n with
    | zero => exact .tooDeepRight (.inl rfl)
    | succ n =>
      refine .bind (Plans.force_alike hs _ _ h) fun s u hu => ?_
      have calm := (lib.links_host mode m).symm ▸ hc
      exact hu.2.parseAlike hs calm (ih n) hu.1 path v

theorem finish_alike {plans : Plans} {stray : Failure → Prop} {r t : Parsed} (h : r.Agrees t) :
    plans.Alike stray (Run.lift r.finish) (Run.lift t.finish) Eq := by
  unfold Parsed.finish
  rw [h.clean, h.value]
  split
  · split
    · exact .throw _ _ Eq
    · exact .pure rfl
  · exact .throw _ _ Eq

theorem Library.parse_alike (hs : lib.plans.Symmetric schemas) (hc : lib.host.CalmOn schemas)
    (mode : Mode) (m n : Nat) {s u : Schema} (h : schemas s)
    (hu : lib.plans.Mirrors first second s u) (v : Datum) :
    lib.plans.Alike (lib.plans.Stray first second schemas) (lib.parse mode m s v)
      (lib.parse mode n u v) Eq := by
  intro w w' level
  have isSchema : s.isSchema := by
    have symmetric := hs.node h
    cases s <;> first | rfl | cases symmetric
  have calm := (lib.links_host mode m).symm ▸ hc
  rw [Library.parse_of_isSchema isSchema, Library.parse_of_isSchema (hu.isSchema hs h)]
  have parsed := hu.parseAlike hs calm (Library.links_twins hs hc mode m n) h [] v
  exact Plans.Alike.bind parsed (fun _ _ hr => finish_alike hr) w w' level

/-- Of a symmetric schema that can be inverted twice, the parse with the result gives a value
exactly if the parse with the schema gives that value, unless either goes too deep or the
inversion fails that a lazy node has been waiting for. -/
theorem Library.inverted_twice_parses_alike (hs : lib.plans.Symmetric schemas)
    (hc : lib.host.CalmOn schemas) {s t u : Schema} (h : schemas s) {d d' k k' : Nat}
    {w₁ w₁' w₂ w₂' : World} (hw₁ : lib.plans.Faithful w₁) (hw₂ : lib.plans.Faithful w₂)
    (ht : lib.invert d k first s w₁ = .ok t w₁') (hu : lib.invert d' k' second t w₂ = .ok u w₂')
    (mode : Mode) (m n : Nat) (v : Datum) {w w' : World} (level : lib.plans.Level w w')
    (ends : (lib.parse mode m s v).result w ≠ Run.tooDeep)
    (inverts : ∀ f, (lib.parse mode n u v).result w' = .error f →
      ¬lib.plans.Stray first second schemas f) (x : Datum) :
    (lib.parse mode m s v).result w = .ok x ↔ (lib.parse mode n u v).result w' = .ok x := by
  have mirrors := (Library.invert_inverts hw₁ ht).mirrors hs h (Library.invert_inverts hw₂ hu)
  have alike := Library.parse_alike hs hc mode m n h mirrors v w w' level
  unfold Run.result at *
  cases hm : lib.parse mode m s v w <;> cases hn : lib.parse mode n u v w' <;>
    simp only [hm, hn] at alike ends inverts ⊢
  · rw [alike.2]
  · exact absurd alike (inverts _ rfl)
  · exact absurd (congrArg Except.error alike) ends
  · exact ⟨nofun, nofun⟩

/-! A ladder: mappings with an even height, marked as such, that may lead to a next one. -/

namespace Ladder

def getter : FunctionRef := ⟨0, "ladder"⟩

def even : FunctionRef := ⟨1, "even"⟩

def library : Library where
  host := {
    effect := fun _ v _ => ⟨[], .ok v⟩
    check := fun _ v => ⟨[], .ok (.bool (v.asInteger?.getD 1 % 2 == 0))⟩
    supply := fun _ => ⟨[], .ok .none⟩
    rescue := fun _ _ => ⟨[], .ok .none⟩
    call := fun _ _ => ⟨[], .ok .none⟩
    isAsync := fun _ => false }
  plans := {
    getter := fun _ => { schema := .object [
      ("height", .call (.call (.number {}) (.refine even "odd" [])) (.brand (.str "Even"))),
      ("next", .call (.lazy getter) .optional)] none none }
    definition := fun _ => .any }

def ladder (id : LazyId) : Schema := .lazy id (.getter getter)

def height : Schema := .effect .refinement (.check even "odd" []) false (.number {} false)

/-- What a lazy node of the ladder stands for. -/
def rung (id : LazyId) : Schema :=
  .object [("height", .branded height (.str "Even")), ("next", .optional (ladder (.within id 0)))]
    none .strip

inductive Part : Schema → Prop
  | ladder (id : LazyId) : Part (ladder id)
  | rung (id : LazyId) : Part (rung id)
  | next (id : LazyId) : Part (.optional (Ladder.ladder id))
  | mark : Part (.branded height (.str "Even"))
  | height : Part height
  | number : Part (.number {} false)

theorem gives (id : LazyId) : library.plans.Gives id (.getter getter) (rung id) := ⟨1, rfl⟩

theorem symmetric : library.plans.Symmetric Part where
  child hs hc := by
    cases hs with
    | ladder | number => cases hc
    | rung id =>
      simp only [Schema.children, rung, List.map_cons, List.map_nil, Option.toList_none,
        List.append_nil, List.mem_cons, List.not_mem_nil, or_false] at hc
      rcases hc with rfl | rfl
      · exact .mark
      · exact .next _
    | next id => exact List.mem_singleton.1 hc ▸ .ladder id
    | mark => exact List.mem_singleton.1 hc ▸ .height
    | height => exact List.mem_singleton.1 hc ▸ .number
  behind {id _ _} hs hg := by
    cases hs
    exact (gives id).unique hg ▸ .rung id
  node hs := by cases hs <;> rfl
  table hs := by cases hs

theorem calm : library.host.CalmOn Part where
  effect hs := by
    cases hs
    exact fun v => ⟨List.not_mem_nil, _, rfl, fun _ => nofun⟩
  map hs := by cases hs

def once : Schema :=
  .lazy (.within (.step 1) 0) (.inverse {} (.step 0) (.getter getter))

def twice : Schema :=
  .lazy (.within (.step 2) 0)
    (.inverse {} (.within (.step 1) 0) (.inverse {} (.step 0) (.getter getter)))

def two : Datum := .dict .free [(.str "height", .int 2), (.str "next",
  .dict .free [(.str "height", .int 4)])]

/-- Two rungs of even height pass through the ladder inverted twice as through the ladder. -/
theorem climbs_alike : (library.parse .sync 9 twice two).result {} = .ok two := by
  have parsed : (library.parse .sync 9 (ladder (.step 0)) two).result {} = .ok two := rfl
  have ends : (library.parse .sync 9 twice two).result {} = .ok two := rfl
  have faithful : library.plans.Faithful {} := .empty
  have first : library.invert 9 1 {} (ladder (.step 0)) {} = .ok once {} := rfl
  have second : library.invert 9 2 {} once {} = .ok twice {} := rfl
  refine (Library.inverted_twice_parses_alike symmetric calm (.ladder _) faithful faithful first
    second .sync 9 9 two ⟨faithful, faithful, rfl⟩ ?_ ?_ two).1 parsed
  · rw [parsed]
    exact nofun
  · rw [ends]
    exact nofun

end Ladder

/-! Both options of a union change their tags into one. -/

namespace Clash

def getter : FunctionRef := ⟨0, "clash"⟩

def forward : FunctionRef := ⟨1, "forward"⟩

def back (tag : String) : FunctionRef := ⟨2, tag⟩

def field (tag : String) : Blueprint :=
  .invertible (.literal (.str tag)) (some forward) (.literal (.str "x")) (some (back tag))

def library : Library where
  host := {
    effect := fun fn _ _ => ⟨[], .ok (.str (if fn = forward then "x" else fn.name))⟩
    check := fun _ _ => ⟨[], .ok (.bool true)⟩
    supply := fun _ => ⟨[], .ok .none⟩
    rescue := fun _ _ => ⟨[], .ok .none⟩
    call := fun _ _ => ⟨[], .ok .none⟩
    isAsync := fun _ => false }
  plans := {
    getter := fun _ => { schema := .tagged "t" [
      .object [("t", field "a")] none none, .object [("t", field "b")] none none] }
    definition := fun _ => .any }

def clash : Schema := .lazy (.step 0) (.getter getter)

def tag (t : String) : Schema :=
  .invertible (.literal (.str t)) forward (.literal (.str "x")) (back t)

def option (t : String) : Schema := .object [("t", tag t)] none .strip

def union : Schema := .tagged "t" [option "a", option "b"] [(.str "a", 0), (.str "b", 1)]

inductive Part : Schema → Prop
  | clash : Part clash
  | union : Part union
  | option (t : String) : Part (option t)
  | tag (t : String) : Part (tag t)
  | literal (t : String) : Part (.literal (.str t))

theorem gives : library.plans.Gives (.step 0) (.getter getter) union := ⟨1, rfl⟩

theorem symmetric : library.plans.Symmetric Part where
  child hs hc := by
    cases hs with
    | clash | literal => cases hc
    | union =>
      simp only [Schema.children, union, List.mem_cons, List.not_mem_nil, or_false] at hc
      rcases hc with rfl | rfl <;> exact .option _
    | option t =>
      simp only [Schema.children, option, List.map_cons, List.map_nil, Option.toList_none,
        List.append_nil, List.mem_singleton] at hc
      exact hc ▸ .tag t
    | tag t =>
      simp only [Schema.children, tag, List.mem_cons, List.not_mem_nil, or_false] at hc
      rcases hc with rfl | rfl <;> exact .literal _
  behind hs hg := by
    cases hs
    exact gives.unique hg ▸ .union
  node hs := by cases hs <;> rfl
  table hs := by
    cases hs
    exact ⟨.step 0, 1, {}, {}, rfl⟩

theorem calm : library.host.CalmOn Part where
  effect hs := by cases hs
  map hs := by
    cases hs
    exact fun v path => ⟨List.not_mem_nil, _, rfl, fun _ => nofun⟩

def once : Schema := .lazy (.within (.step 1) 0) (.inverse {} (.step 0) (.getter getter))

def twice : Schema :=
  .lazy (.within (.step 2) 0)
    (.inverse {} (.within (.step 1) 0) (.inverse {} (.step 0) (.getter getter)))

def given : Datum := .dict .free [(.str "t", .str "a")]

def parsed : Datum := .dict .free [(.str "t", .str "x")]

/-- Inverting the lazy node succeeds twice, but using the result makes a union of which both
options have the same tag. -/
theorem loses_value :
    library.plans.Symmetric Part ∧ library.host.CalmOn Part ∧ Part clash ∧
    library.invert 9 1 {} clash {} = .ok once {} ∧ library.invert 9 2 {} once {} = .ok twice {} ∧
    (library.parse .sync 9 clash given).result {} = .ok parsed ∧
    ∃ key value, (library.parse .sync 9 twice given).result {} =
      .error (.malformed (.repeatedTagValue key value)) :=
  ⟨symmetric, calm, .clash, rfl, rfl, rfl, _, _, rfl⟩

end Clash
end TwoWay
