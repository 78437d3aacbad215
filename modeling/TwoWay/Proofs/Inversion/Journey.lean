import TwoWay.Proofs.Inversion.Laziness
import TwoWay.Proofs.Parse.Calls
import TwoWay.Proofs.Parse.Getters
import TwoWay.Proofs.Parse.Oblivious

/-!
# Journeys

Schemas are built and inverted, inverses are inverted again, values are parsed and sent round, in
any order (`Library.Reaches`). All the while a getter is called once for each lazy node that it
stands in and that is needed, and no more (`Library.Reaches.tallies`). Inverting alone needs no lazy
node outside of tag fields, and what was needed before shows nowhere
(`Library.lazy_nodes_wait`).
-/

namespace TwoWay

/-- What is done with schemas. -/
inductive Deed where
  | build (b : Blueprint)
  | invert (settings : InversionSettings) (s : Schema)
  | parse (mode : Mode) (s : Schema) (v : Datum)
  | roundTrip (mode : Mode) (settings : InversionSettings) (s : Schema) (v : Datum)

/-- What comes of it. -/
inductive Product where
  | schema (s : Schema)
  | value (v : Datum)

/-- Does it. -/
def Library.perform (lib : Library) (depth step : Nat) : Deed → Run Product
  | .build b => .schema <$> (b.build (lib.plans.builder depth step)).run' 0
  | .invert settings s => .schema <$> lib.invert depth step settings s
  | .parse mode s v => .value <$> lib.parse mode depth s v
  | .roundTrip mode settings s v => .value <$> lib.roundTrip mode depth step settings s v

/-- How far a journey has got: what was made, and the world it has led to. -/
structure Stage where
  schemas : List Schema := []
  world : World := {}
  /-- The number of deeds done. -/
  deeds : Nat := 0

/-- The next stage. One that fails makes nothing, but what it has forced stays forced. -/
def Stage.after (t : Stage) (lib : Library) (depth : Nat) (deed : Deed) : Stage where
  schemas := match (lib.perform depth t.deeds deed).result t.world with
    | .ok (.schema s) => s :: t.schemas
    | _ => t.schemas
  world := (lib.perform depth t.deeds deed).final t.world
  deeds := t.deeds + 1

namespace Library

/-- Schemas along with everything that inverting them and parsing with them leads to. -/
structure Family (lib : Library) (schemas : Schema → Prop) : Prop where
  closed : (Allowance.over schemas).Closed lib.plans
  keeps : lib.host.Keeps (.over schemas)
  inverse : ∀ {settings s t}, schemas s → lib.plans.Inverts settings s t → schemas t
  tables : ∀ key options table, schemas (.tagged key options table) →
    lib.plans.Tabulates key options table

/-- Deeds are done with schemas of a stage. What is built belongs to the family, and awaitables in
values parse with schemas of the family. -/
def Allows (lib : Library) (family : Schema → Prop) (t : Stage) (depth : Nat) : Deed → Prop
  | .build b => ∀ s, ((b.build (lib.plans.builder depth t.deeds)).run' 0).result t.world = .ok s →
    family s
  | .invert _ s => s ∈ t.schemas
  | .parse _ s v | .roundTrip _ _ s v => s ∈ t.schemas ∧ v.Keeps (.over family)

/-- The stages that any deeds lead to, none of which goes too deep. -/
inductive Reaches (lib : Library) (family : Schema → Prop) : Stage → Prop
  | start : Reaches lib family {}
  | next {t : Stage} {depth : Nat} {deed : Deed} (h : Reaches lib family t)
    (allowed : lib.Allows family t depth deed)
    (ends : (lib.perform depth t.deeds deed).result t.world ≠ Run.tooDeep) :
    Reaches lib family (t.after lib depth deed)

variable {lib : Library} {family : Schema → Prop}

theorem perform_oblivious (lib : Library) (depth step : Nat) (deed : Deed) :
    lib.plans.obliviously.Obeys (fun _ => lib.perform depth step deed) fun _ => True := by
  cases deed with
  | build b => exact (lib.build_oblivious depth step b).map _ fun _ _ => trivial
  | invert settings s => exact (lib.invert_oblivious depth step settings s).map _ fun _ _ => trivial
  | parse mode s v => exact (lib.parse_oblivious mode depth s v).map _ fun _ _ => trivial
  | roundTrip mode settings s v =>
    exact (lib.roundTrip_oblivious mode depth step settings s v).map _ fun _ _ => trivial

theorem perform_faithful (depth step : Nat) (deed : Deed) {w : World} (hw : lib.plans.Faithful w) :
    lib.plans.Faithful ((lib.perform depth step deed).final w) :=
  ((lib.perform_oblivious depth step deed).ensures () w hw).1

/-- What is made belongs to the family. -/
theorem Family.made (hf : lib.Family family) {t : Stage} (hw : lib.plans.Faithful t.world)
    (ht : ∀ s ∈ t.schemas, family s) {depth : Nat} {deed : Deed}
    (allowed : lib.Allows family t depth deed) {s : Schema}
    (h : (lib.perform depth t.deeds deed).result t.world = .ok (.schema s)) : family s := by
  obtain ⟨w, h⟩ := Run.result_ok.1 h
  cases deed with
  | build b =>
    obtain ⟨r, built, same⟩ := Run.map_ok.1 h
    cases same
    exact allowed s (Run.result_ok.2 ⟨_, built⟩)
  | invert settings r =>
    obtain ⟨r', inverted, same⟩ := Run.map_ok.1 h
    cases same
    exact hf.inverse (ht r allowed) (invert_inverts hw inverted)
  | parse mode r v | roundTrip mode settings r v =>
    obtain ⟨x, -, same⟩ := Run.map_ok.1 h
    cases same

theorem Reaches.holds (hf : lib.Family family) {t : Stage} (h : lib.Reaches family t) :
    lib.plans.Faithful t.world ∧ ∀ s ∈ t.schemas, family s := by
  induction h with
  | start => exact ⟨.empty, nofun⟩
  | @next t depth deed _ allowed _ ih =>
    obtain ⟨faithful, members⟩ := ih
    refine ⟨perform_faithful depth t.deeds deed faithful, fun s hs => ?_⟩
    unfold Stage.after at hs
    dsimp only at hs
    split at hs
    · rename_i r made
      rcases List.mem_cons.1 hs with rfl | hs
      · exact hf.made faithful members allowed made
      · exact members s hs
    · exact members s hs

/-! ## Calls of getters -/

section
variable {fn : FunctionRef} (hr : lib.plans.Returns fn)
include hr

theorem build_tallies (depth step : Nat) (b : Blueprint) :
    ((lib.host.tallying fn).after lib.plans fun _ => False).Obeys
      (fun _ => (b.build (lib.plans.builder depth step)).run' 0) fun _ => True := by
  obtain ⟨-, tagged, defined⟩ := lib.plans.looks_quiet depth
  have quiet := Plans.build_quiet tagged defined (.step step) b
  obtain ⟨-, tagged, defined⟩ := lib.plans.looks_counted hr depth
  exact ⟨fun _ hw _ => Host.tallying_quiet quiet (.build tagged defined _ b) hw,
    (lib.build_oblivious depth step b).ensures⟩

theorem invert_tallies (depth step : Nat) (settings : InversionSettings) (s : Schema) :
    ((lib.host.tallying fn).after lib.plans fun _ => False).Obeys
      (fun _ => lib.invert depth step settings s) (lib.plans.Inverts settings s) := by
  obtain ⟨-, tagged, -⟩ := lib.plans.looks_quiet depth
  have quiet := Plans.invert_quiet tagged (.step step) settings s
  obtain ⟨-, tagged, -⟩ := lib.plans.looks_counted hr depth
  have faithful := (lib.invert_oblivious depth step settings s).ensures ()
  refine ⟨fun _ hw _ => Host.tallying_quiet quiet (.invert tagged _ settings s) hw,
    fun _ w hw => ⟨(faithful w hw).1, fun t ht => ?_⟩⟩
  obtain ⟨u, inverted⟩ := Run.result_ok.1 ht
  exact invert_inverts hw inverted

/-- Whatever is done, a getter is called only to build lazy nodes that were not built before. -/
theorem perform_tallies (hf : lib.Family family) (alone : ∀ s, family s → s.factory? ≠ some fn)
    {t : Stage} (ht : ∀ s ∈ t.schemas, family s) {depth : Nat} {deed : Deed}
    (allowed : lib.Allows family t depth deed) :
    ((lib.host.tallying fn).after lib.plans fun _ => False).Obeys
      (fun _ => lib.perform depth t.deeds deed) fun _ => True := by
  have parsed (mode : Mode) {s : Schema} (hs : family s) {v : Datum}
      (hv : v.Keeps (.over family)) :=
    parse_tallies hf.closed hf.keeps hr alone mode depth (s := s) hs hv
  have inverted := @invert_tallies lib fn hr depth t.deeds
  cases deed with
  | build b => exact (build_tallies hr depth t.deeds b).map _ fun _ _ => trivial
  | invert settings s => exact (inverted settings s).map _ fun _ _ => trivial
  | parse mode s v => exact (parsed mode (ht s allowed.1) allowed.2).map _ fun _ _ => trivial
  | roundTrip mode settings s v =>
    have hs := ht s allowed.1
    refine .map (P := fun _ => True) _ ?_ fun _ _ => trivial
    cases mode with
    | sync =>
      refine .bind (inverted settings s) fun inverse inverts => ?_
      refine .bind (parsed .sync hs allowed.2) fun output kept => ?_
      exact (parsed .sync (hf.inverse hs inverts) kept).plain
    | async =>
      refine .bind (parsed .async hs allowed.2) fun output kept => ?_
      refine .bind (inverted settings s) fun inverse inverts => ?_
      exact (parsed .async (hf.inverse hs inverts) kept).plain

/-- At every stage, a getter was called once for each lazy node that it has built, and these are
different, unless some function has handed over a call of the getter itself. -/
theorem Reaches.tallies (hf : lib.Family family) (alone : ∀ s, family s → s.factory? ≠ some fn)
    {t : Stage} (h : lib.Reaches family t) :
    lib.host.Lends fn t.world.journal ∨ t.world.Tallies fn 0 := by
  induction h with
  | start => exact .inr (.empty fn)
  | @next t depth deed reached allowed ends ih =>
    obtain ⟨faithful, members⟩ := reached.holds hf
    obtain ⟨grows, counted⟩ :=
      (perform_tallies hr hf alone members allowed).holds t.world faithful fun _ => False.elim
    rcases counted.resolve_left ends with lent | next
    · exact .inl lent
    · exact ih.imp (·.mono grows.subset) (next 0)

end

/-! ## Waiting -/

/-- Whatever a journey does, in whichever order, lazy nodes wait until they are needed. By then the
getter of a node has been called once. Inverting calls no getter, unless a lazy node stands in a tag
field. The inverse of a lazy node is made under the settings of the inversion that has left it
behind. And nothing ends in another way for what has been forced before. -/
theorem lazy_nodes_wait (hf : lib.Family family) {t : Stage} (ht : lib.Reaches family t) :
    (∀ fn, lib.plans.Returns fn → (∀ s, family s → s.factory? ≠ some fn) →
      lib.host.Lends fn t.world.journal ∨
        (t.world.builtBy fn).Nodup ∧ t.world.calls fn = (t.world.builtBy fn).length) ∧
    (∀ s ∈ t.schemas, (∀ id origin, ¬s.TagLazy id origin) → ∀ depth settings,
      ∃ records : List InversionEvent, (lib.invert depth t.deeds settings s).final t.world =
        { t.world with journal := records.map .logged ++ t.world.journal }) ∧
    (∀ s ∈ t.schemas, ∀ depth settings inverse,
      (lib.invert depth t.deeds settings s).result t.world = .ok inverse →
      ∀ id origin, lib.plans.Within inverse (.lazy id origin) →
        ∃ base of, origin = .inverse settings base of ∧ lib.plans.Within s (.lazy base of) ∧
          ∀ depth w, lib.plans.Faithful w →
            (lib.plans.force depth id origin).result w = Run.tooDeep ∨
            (∃ f, (lib.plans.force depth id origin).result w = .error f ∧
              lib.plans.Fails base of f) ∨
            ∃ r, lib.plans.Gives base of r ∧
              lib.plans.InversionEnds id settings r ((lib.plans.force depth id origin).result w)) ∧
    ∀ depth deed u, lib.plans.Faithful u →
      (lib.perform depth t.deeds deed).result t.world = Run.tooDeep ∨
      (lib.perform depth t.deeds deed).result (t.world.recalling u) = Run.tooDeep ∨
      (lib.perform depth t.deeds deed).result (t.world.recalling u) =
        (lib.perform depth t.deeds deed).result t.world := by
  obtain ⟨faithful, members⟩ := ht.holds hf
  refine ⟨fun fn hr alone => ?_, fun s hs tags depth settings => ?_,
    fun s hs depth settings inverse inverted id origin inside => ?_, fun depth deed u hu => ?_⟩
  · exact (ht.tallies hr hf alone).imp_right fun tallies => ⟨tallies.distinct, tallies.calls⟩
  · exact invert_logs_only (members s hs) (fun _ ht _ hc => hf.closed.child ht hc) hf.tables tags
      depth t.deeds settings faithful
  · obtain ⟨w, inverted⟩ := Run.result_ok.1 inverted
    obtain ⟨base, of, rfl, before⟩ := (invert_inverts faithful inverted).lazy_waits inside
    exact ⟨base, of, rfl, before, fun depth w hw => Plans.force_inverse hw depth id base of⟩
  · have even : lib.plans.Even t.world (t.world.recalling u) :=
      ⟨⟨faithful, hu.of_memory rfl rfl, rfl⟩, rfl⟩
    exact ((lib.perform_oblivious depth t.deeds deed).1 _ _ even).imp_right fun h =>
      h.imp_right fun ⟨same, _⟩ => same.symm

end Library

/-! Nests: arrays of nests. The journey goes there and back again, by way of inverses of
inverses. -/

namespace Nests

def nest : FunctionRef := ⟨0, "nest"⟩

def library : Library where
  host := {
    effect := fun _ _ _ => ⟨[], .ok .none⟩
    check := fun _ _ => ⟨[], .ok .none⟩
    supply := fun _ => ⟨[], .ok .none⟩
    rescue := fun _ _ => ⟨[], .ok .none⟩
    call := fun _ _ => ⟨[], .ok .none⟩
    isAsync := fun _ => false }
  plans := {
    getter := fun _ => { schema := .array (.shared "nest") }
    definition := fun _ => .lazy nest }

/-- The node of the shared definition. -/
def origin : LazyId × Origin := (.within (.shared "nest") 0, .getter nest)

def root : Schema := .lazy origin.1 origin.2

def once : Schema := .lazy (.within (.step 2) 0) (.inverse {} origin.1 origin.2)

def twice : Schema :=
  .lazy (.within (.step 4) 0) (.inverse {} (.within (.step 2) 0) (.inverse {} origin.1 origin.2))

def empty : Datum := .list .free []

def two : Datum := .list .free [empty, .list .free [empty]]

def journey : Stage :=
  [.build (.shared "nest"), .parse .sync root two, .invert {} root, .parse .sync once two,
    .invert {} once, .roundTrip .sync {} twice two].foldl (·.after library 9) {}

inductive Part : Schema → Prop
  | node (id : LazyId) (origin : Origin) : Part (.lazy id origin)
  | nests {s : Schema} (h : Part s) : Part (.array s {})

theorem gives (id : LazyId) (fn : FunctionRef) :
    library.plans.Gives id (.getter fn) (.array root {}) := ⟨2, rfl⟩

theorem Part.inverse {settings : InversionSettings} {s t : Schema} (h : Part s)
    (inverts : library.plans.Inverts settings s t) : Part t := by
  induction h generalizing t with
  | node =>
    cases inverts
    case lazy => exact .node ..
    case leaf leaf => cases leaf
  | nests _ ih =>
    cases inverts
    case array inner => exact .nests (ih inner)
    case leaf leaf => cases leaf

theorem Part.behind {id : LazyId} {origin : Origin} {s : Schema}
    (given : library.plans.Gives id origin s) : Part s := by
  induction origin generalizing id s with
  | getter fn => exact (gives id fn).unique given ▸ .nests (.node ..)
  | inverse settings base of ih =>
    obtain ⟨r, before, inverts⟩ := given.inverts
    exact (ih before).inverse inverts

theorem family : library.Family Part where
  closed := {
    child := fun hs hc => by
      cases hs with
      | node => cases hc
      | nests h => exact List.mem_singleton.1 hc ▸ h
    behind := fun _ => .behind
    supplied := fun hs hv => by cases hs <;> cases hv }
  keeps :=
    ⟨fun _ _ _ _ _ h => .inl (.inl (Except.ok.inj h ▸ .none)),
      fun _ _ _ _ _ h => .inl (.inl (Except.ok.inj h ▸ .none)),
      fun _ _ h => Except.ok.inj h ▸ .none, fun _ _ _ h => Except.ok.inj h ▸ .none,
      fun _ _ _ _ h => Except.ok.inj h ▸ .none⟩
  inverse := .inverse
  tables _ _ _ h := by cases h

theorem keeps_two : two.Keeps (.over Part) := by
  have emptied : empty.Keeps (.over Part) := .list nofun
  simp [two, Value.keeps_list, emptied]

theorem reaches : library.Reaches Part journey := by
  have ends {r : Except Failure Product} {p : Product} (h : r = .ok p) : r ≠ Run.tooDeep :=
    h ▸ Run.ok_ne_tooDeep p
  have built : library.Reaches Part (Stage.after {} library 9 (.build (.shared "nest"))) := by
    refine .next .start (fun s h => ?_) (ends (p := .schema root) rfl)
    have made : Except.ok root = .ok s := h
    exact Except.ok.inj made ▸ .node ..
  have read : library.Reaches Part (Stage.after _ library 9 (.parse .sync root two)) :=
    .next built ⟨List.mem_singleton.2 rfl, keeps_two⟩ (ends (p := .value two) rfl)
  have turned : library.Reaches Part (Stage.after _ library 9 (.invert {} root)) :=
    .next read (List.mem_singleton.2 rfl) (ends (p := .schema once) rfl)
  have written : library.Reaches Part (Stage.after _ library 9 (.parse .sync once two)) :=
    .next turned ⟨List.mem_cons_self .., keeps_two⟩ (ends (p := .value two) rfl)
  have turnedBack : library.Reaches Part (Stage.after _ library 9 (.invert {} once)) :=
    .next written (List.mem_cons_self ..) (ends (p := .schema twice) rfl)
  have sent : library.Reaches Part (Stage.after _ library 9 (.roundTrip .sync {} twice two)) :=
    .next turnedBack ⟨List.mem_cons_self .., keeps_two⟩ (ends (p := .value two) rfl)
  exact sent

theorem lends_nothing (journal : List Event) : ¬library.host.Lends nest journal := by
  rintro ⟨-, -, given, -⟩
  rename_i action _ _ _
  cases action <;> cases given

/-- Though it is there and back again, and inverses that share the node are forced, its getter is
called once. Another inversion would force nothing, and a parse would end alike if nothing was
remembered. -/
theorem called_once : library.Reaches Part journey ∧ journey.schemas = [twice, once, root] ∧
    journey.world.builtBy nest = [origin.1] ∧ journey.world.calls nest = 1 ∧
    ((library.invert 9 journey.deeds {} twice).final journey.world).forced =
      journey.world.forced ∧
    (library.perform 9 journey.deeds (.parse .sync twice two)).result
      (journey.world.recalling {}) = .ok (.value two) := by
  have returns : library.plans.Returns nest := fun id => ⟨_, gives id nest⟩
  have alone (s : Schema) (h : Part s) : s.factory? ≠ some nest := by cases h <;> nofun
  have untagged (id : LazyId) (origin : Origin) : ¬twice.TagLazy id origin := nofun
  have only : journey.world.builtBy nest = [origin.1] := rfl
  have ends : (library.perform 9 journey.deeds (.parse .sync twice two)).result
    journey.world = .ok (.value two) := rfl
  have shallow : (library.perform 9 journey.deeds (.parse .sync twice two)).result
    (journey.world.recalling {}) ≠ Run.tooDeep := nofun
  obtain ⟨counted, idle, -, alike⟩ := library.lazy_nodes_wait family reaches
  obtain ⟨-, calls⟩ := (counted nest returns alone).resolve_left (lends_nothing _)
  refine ⟨reaches, rfl, only, by rw [calls, only]; rfl, ?_, ?_⟩
  · obtain ⟨records, final⟩ := idle twice (List.mem_cons_self ..) untagged 9 {}
    rw [final]
  · have same := alike 9 (.parse .sync twice two) {} .empty
    rw [ends] at same
    exact (same.resolve_left nofun).resolve_left shallow

end Nests
end TwoWay
