import TwoWay.Proofs.Inversion.Eliding
import TwoWay.Proofs.Inversion.RoundTrip
import TwoWay.Proofs.Parse.Paces

/-!
# Eliding is erasing

A schema may be stripped of the transforms and preprocesses that inversion drops before it is
inverted, behind lazy nodes as well (`Plans.Erasing`). Inverting either fails then as it does
otherwise, or gives an inverse that resembles the other one, as do the schemas behind their lazy
nodes, and the two parse all values alike (`Library.eliding_is_erasing`). The marks of effects are
for inversion only: schemas that differ in them parse all values alike, too.
-/

namespace TwoWay

/-! ## Inverses -/

namespace Plans

variable {plans : Plans} {view : View}

variable (plans view) in
/-- Schemas that are the same once all transforms and preprocesses that inversion may drop are
erased, in them and behind lazy nodes: lazy nodes of one name stand for schemas that are the same
once that is done. -/
structure Erasing (s e : Schema) : Prop where
  marks : Function.Injective view.mark
  tree : s.erased.Resembles view e.erased
  behind : plans.Consistent view fun s s' => s.erased.Resembles view s'.erased

theorem Erasing.symm {s e : Schema} (h : plans.Erasing view s e) : plans.Erasing view e s :=
  ⟨h.marks, h.tree.symm, h.behind⟩

/-- Of a schema the same is left as of what is left of it. -/
theorem Erasing.erased (marks : Function.Injective view.mark)
    (behind : plans.Consistent view fun s s' => s.erased.Resembles view s'.erased) (s : Schema) :
    plans.Erasing view s s.erased := ⟨marks, congrArg _ s.erased_erased.symm, behind⟩

/-- The inverses of lazy nodes of one name resemble each other. -/
theorem Erasing.inverses {s e : Schema} (h : plans.Erasing view s e) :
    plans.Consistent view.inverse (Schema.Resembles view.inverse) where
  gives {_ _ _ _ t} name gives := by
    obtain ⟨d, gives⟩ := gives
    obtain ⟨t', alike, n, ends⟩ := ((inverses_named h.behind h.marks d name).1 {}).1 t gives
    exact ⟨t', ⟨n, ends n (Nat.le_refl n) {}⟩, alike⟩
  fails {_ _ _ _ f} name fails shallow := by
    obtain ⟨d, fails⟩ := fails
    have ends := ((inverses_named h.behind h.marks d name).1 {}).2 f fails
    obtain ⟨n, ends⟩ := ends.resolve_left shallow
    exact ⟨n, ends n (Nat.le_refl n) {}⟩

end Plans

namespace Library

variable (lib : Library) (view : View)

/-- From some depth on, inverting a schema in a numbered step ends in one way, whatever lazy nodes
have been forced before. -/
def InvertsTo (step : Nat) (settings : InversionSettings) (s : Schema) (r : Except Failure Schema) :
    Prop :=
  ∃ n, ∀ k ≥ n, ∀ w, lib.plans.Faithful w → (lib.invert k step settings s).result w = r

/-- What inverting a schema comes to, inverting another one does, too: an inverse that resembles its
inverse, or the same failure. -/
structure InvertsLike (settings : InversionSettings) (s e : Schema) : Prop where
  inverse : ∀ {depth step w t}, lib.plans.Faithful w →
    (lib.invert depth step settings s).result w = .ok t →
    ∀ step', ∃ t', t.Resembles view t' ∧ lib.InvertsTo step' settings e (.ok t')
  failure : ∀ {depth step w f}, lib.plans.Faithful w →
    (lib.invert depth step settings s).result w = .error f → f ≠ .fault .tooDeep →
    ∀ step', lib.InvertsTo step' settings e (.error f)

/-- Schemas parse values that look the same alike, whatever lazy nodes have been forced before: what
parsing with the one comes to, parsing with the other does from some depth on, and the same happens
on the way but for the forcing of lazy nodes. -/
def ParsesLike (s s' : Schema) : Prop := ∀ mode depth {v v' w u}, v.Resembles view v' →
  lib.plans.Faithful w → lib.plans.Faithful u → w.made = u.made → w.awaited = u.awaited →
    (lib.plans.pace view w u).End (Value.Resembles view) (lib.parse mode depth s v w)
      fun k => lib.parse mode k s' v' u

/-- Schemas parse values that look the same alike in worlds of one memory, within each depth. -/
def ParsesEvenly (s s' : Schema) : Prop := ∀ mode depth {v v' w u}, v.Resembles view v' →
  w.Matches view u → (Pace.exact view).End (Value.Resembles view) (lib.parse mode depth s v w)
    fun _ => lib.parse mode depth s' v' u

variable {lib view}

/-- What inverting comes to from some depth on without a memory, it comes to with one. -/
theorem invertsTo_of_settles {step : Nat} {settings : InversionSettings} {s : Schema}
    {r : Except Failure Schema} (shallow : r ≠ Run.tooDeep) (h : Run.Settles
      (fun k => (s.invertWith ⟨.step step, lib.plans.tagsOf k⟩ settings).run' 0) r) :
    lib.InvertsTo step settings s r := by
  obtain ⟨n, ends⟩ := h
  have made := ends n (Nat.le_refl n) {}
  have settles : lib.plans.Settles (Plans.beside
      ((s.invertWith ⟨.step step, lib.plans.tagsOf n⟩ settings).run' 0)
      fun k => lib.invert (n + k) step settings s) :=
    Plans.settles_beside (Run.Law.Makes.run
      (Run.Law.invertWith (Plans.settles lib.plans n).tagsBehind s))
  refine ⟨n, fun k hk w hw => ?_⟩
  obtain ⟨u, -, ends⟩ := Plans.Settles.beyond (m := fun k => lib.invert k step settings s) settles
    (made ▸ shallow) hw
  exact (ends k hk).1.trans made

/-- Inverses of schemas of which the same is left resemble each other. -/
theorem invertsLike {s e : Schema} (h : lib.plans.Erasing view s e) (settings : InversionSettings) :
    lib.InvertsLike view.inverse settings s e := by
  have tags {d : Nat} {id id' origin origin'}
      (name : view.inverse.name id origin = view.inverse.name id' origin') :
      Run.Converge d Eq (fun k => lib.plans.tagsOf k id origin)
        fun k => lib.plans.tagsOf k id' origin' :=
    ⟨(Plans.inverses_named h.behind h.marks d name).2,
      (Plans.inverses_named h.behind h.marks d name.symm).2.weaken Eq.symm⟩
  have follows (d step step' : Nat) := Plans.inverses_follow (d := d)
    (Plans.inverse_goesWith settings view (.step step) (.step step')) h.marks tags h.tree
  constructor
  · intro depth step w t hw ends step'
    obtain ⟨-, deep | ⟨n, alone⟩⟩ := lib.invert_retraces depth step settings s w hw
    · cases ends.symm.trans deep
    · have made := (alone n (Nat.le_refl n) {}).trans ends
      obtain ⟨t', alike, settled⟩ := ((follows n step step') {}).1 t made
      exact ⟨t', alike, invertsTo_of_settles (Run.ok_ne_tooDeep t') settled⟩
  · intro depth step w f hw ends shallow step'
    obtain ⟨-, deep | ⟨n, alone⟩⟩ := lib.invert_retraces depth step settings s w hw
    · exact absurd (Except.error.inj (ends.symm.trans deep)) shallow
    · have made := (alone n (Nat.le_refl n) {}).trans ends
      have settled := (((follows n step step') {}).2 f made).resolve_left shallow
      exact invertsTo_of_settles (fun same => shallow (Except.error.inj same)) settled

/-! ## Parses -/

/-- What `ignore_effect` gives looks the same where marks are not seen. -/
theorem ignored_resembles {maker : Maker} {s t : Schema} {n m : Nat} {w u : World}
    (h : Schema.call maker .ignoreEffect s n w = .ok (t, m) u) : s.Resembles view.unmarked t := by
  cases s
  case effect kind action elidable inner =>
    cases h
    rfl
  all_goals cases h

theorem requireSchema_inStep {pace : Pace view} (mode : Mode) (method : String) {s s' : Schema}
    (h : s.Resembles view s') : Run.InStep pace Eq (requireSchema mode method s)
      fun _ => requireSchema mode method s' := by
  unfold requireSchema
  rw [h.isSchema, h.className]
  dsimp only
  split
  · exact .throw .same
  · exact .pure rfl

/-- Schemas that resemble each other parse alike what looks the same. -/
theorem parsesLike (discreet : lib.host.Discreet view)
    (consistent : lib.plans.Consistent view (Schema.Resembles view)) {s s' : Schema}
    (h : s.Resembles view s') : lib.ParsesLike view s s' := by
  intro mode depth v v' w u hv left right made awaited
  have parsed : Run.InStep (lib.plans.pace view w u) (Value.Resembles view)
      (lib.parse mode depth s v) fun k => lib.parse mode k s' v' :=
    .bind (requireSchema_inStep mode _ h) fun _ =>
      .bind (runWith_inStep discreet mode consistent.forces depth h .nil hv) fun r =>
        .lift r.finish
  exact parsed w u (.start left right made awaited)

theorem parsesEvenly (discreet : lib.host.Discreet view)
    (own : ∀ id origin, view.name id origin = (id, origin)) {s s' : Schema}
    (h : s.Resembles view s') : lib.ParsesEvenly view s s' := by
  intro mode depth v v' w u hv level
  have parsed : Run.InStep (Pace.exact view) (Value.Resembles view)
      (lib.parse mode depth s v) fun _ => lib.parse mode depth s' v' :=
    .bind (requireSchema_inStep mode _ h) fun _ =>
      .bind (runWith_inStep_within discreet mode (Pace.exact_forces own lib.plans) depth h .nil hv)
        fun r => .lift r.finish
  exact parsed w u level

/-- Inverting a schema comes to what inverting it comes to once all that inversion may drop is
erased: to the same failure, or to inverses that resemble each other as what is behind their lazy
nodes does, and that parse all values alike. The marks of effects make no difference to parsing, be
they in a schema or behind its lazy nodes, and where lazy nodes are the same, not even to how often
getters are called. User functions are not to look into the schemas that values hold. -/
theorem eliding_is_erasing (lib : Library) (view : View) :
    (∀ {s e}, lib.plans.Erasing view s e →
      (∀ settings, lib.InvertsLike view.inverse settings s e ∧
        lib.InvertsLike view.inverse settings e s) ∧
      lib.plans.Consistent view.inverse (Schema.Resembles view.inverse) ∧
      (lib.host.Discreet view.inverse → ∀ {t t'}, t.Resembles view.inverse t' →
        lib.ParsesLike view.inverse t t')) ∧
    (lib.host.Discreet view.unmarked →
      lib.plans.Consistent view.unmarked (Schema.Resembles view.unmarked) →
      ∀ {s s'}, s.Resembles view.unmarked s' → lib.ParsesLike view.unmarked s s') ∧
    (lib.host.Discreet View.plain.unmarked → ∀ {s s'}, s.Resembles View.plain.unmarked s' →
      lib.ParsesEvenly View.plain.unmarked s s') := by
  refine ⟨fun erasing => ⟨fun settings => ?_, erasing.inverses, fun discreet t t' alike => ?_⟩,
    fun discreet consistent s s' alike => parsesLike discreet consistent alike,
    fun discreet s s' alike => parsesEvenly discreet (fun _ _ => rfl) alike⟩
  · exact ⟨invertsLike erasing settings, invertsLike erasing.symm settings⟩
  · exact parsesLike discreet erasing.inverses alike

end Library

/-! A chain of links with names, of which each is stripped before it is read, and the same chain
where none is. -/

namespace Stripping

def stripped : FunctionRef := ⟨0, "stripped"⟩

def bare : FunctionRef := ⟨1, "bare"⟩

def strip : FunctionRef := ⟨2, "strip"⟩

def name (elidable : Bool) : Schema :=
  .effect .preprocess (.custom strip) elidable (.string {} none)

def chain (id : Nat) (getter : FunctionRef) : Schema := .lazy (.step id) (.getter getter)

def library : Library where
  host := {
    effect := fun _ v _ => ⟨[], .ok v⟩
    check := fun _ _ => ⟨[], .ok (.bool true)⟩
    supply := fun _ => ⟨[], .ok .none⟩
    rescue := fun _ _ => ⟨[], .ok .none⟩
    call := fun _ _ => ⟨[], .ok .none⟩
    isAsync := fun _ => false }
  plans := {
    getter := fun fn => { schema := match fn.id with
      | 0 => .object [("next", .call (.lazy stripped) .optional),
        ("name", .preprocess strip .string true)] none none
      | _ => .object [("next", .call (.lazy bare) .optional), ("name", .string)] none none }
    definition := fun _ => .any }

/-- All chains go by one name. -/
def view : View where
  name id
    | .getter _ => (default, .getter bare)
    | origin => (id, origin)

def link (id : LazyId) (fn : FunctionRef) : Schema :=
  match fn.id with
  | 0 => .object [("next", .optional (.lazy (.within id 0) (.getter stripped))),
    ("name", name true)] none .strip
  | _ => .object [("next", .optional (.lazy (.within id 0) (.getter bare))),
    ("name", .string {} none)] none .strip

theorem gives (id : LazyId) (fn : FunctionRef) :
    library.plans.Gives id (.getter fn) (link id fn) := by
  obtain ⟨n, name⟩ := fn
  cases n <;> exact ⟨1, rfl⟩

theorem links_alike (id id' : LazyId) (fn fn' : FunctionRef) :
    (link id fn).erased.Resembles view (link id' fn').erased := by
  obtain ⟨n, name⟩ := fn
  obtain ⟨n', name'⟩ := fn'
  cases n <;> cases n' <;> rfl

theorem consistent :
    library.plans.Consistent view fun s s' => s.erased.Resembles view s'.erased where
  gives {id id' origin origin' s} name given := by
    cases origin with
    | getter fn =>
      cases origin' with
      | getter fn' =>
        exact ⟨_, gives id' fn', (gives id fn).unique given ▸ links_alike id id' fn fn'⟩
      | inverse => cases name
    | inverse =>
      cases origin' with
      | getter => cases name
      | inverse =>
        cases name
        exact ⟨s, given, rfl⟩
  fails {id id' origin origin' f} name fails shallow := by
    cases origin with
    | getter fn => exact absurd ((gives id fn).not_fails fails) shallow
    | inverse =>
      cases origin' with
      | getter => cases name
      | inverse =>
        cases name
        exact fails

theorem discreet (view : View) : library.host.Discreet view where
  effect _ _ _ _ _ hv _ := ⟨.nil, .ok hv⟩
  check _ _ _ _ := .refl _
  rescue _ _ _ _ := .refl _
  call _ _ _ _ := .refl _

def whole : Schema := .object [("head", chain 0 stripped), ("name", name true)] none .strip

def erased : Schema := .object [("head", chain 1 bare), ("name", .string {} none)] none .strip

theorem erasing : library.plans.Erasing view whole erased :=
  ⟨Function.injective_id, rfl, consistent⟩

def inverse (step : Nat) (of : LazyId) (getter : FunctionRef) : Schema :=
  .object [("head", .lazy (.within (.step step) 0) (.inverse {} of (.getter getter))),
    ("name", .string {} none)] none .strip

/-- The inverses parse alike, though not even their lazy nodes are the same, and so do names with
and without a mark. -/
theorem erased_alike :
    library.plans.Erasing view whole erased ∧ library.host.Discreet view.inverse ∧
    library.invert 5 2 {} whole {} = .ok (inverse 2 (.step 0) stripped) {} ∧
    library.InvertsTo 3 {} erased (.ok (inverse 3 (.step 1) bare)) ∧
    library.ParsesLike view.inverse (inverse 2 (.step 0) stripped) (inverse 3 (.step 1) bare) ∧
    Schema.call (library.plans.maker 5 4) .ignoreEffect (name false) 0 {} = .ok (name true, 0) {} ∧
    library.ParsesEvenly View.plain.unmarked (name false) (name true) ∧
    (library.parse .sync 5 (name true) (.str "a")).result {} = .ok (.str "a") := by
  obtain ⟨inverting, -, parsing⟩ := (library.eliding_is_erasing view).1 erasing
  have inverted : library.invert 5 2 {} whole {} = .ok (inverse 2 (.step 0) stripped) {} := rfl
  have result : (library.invert 5 2 {} whole).result {} = .ok (inverse 2 (.step 0) stripped) := rfl
  obtain ⟨t', alike, ends⟩ := (inverting {}).1.inverse .empty result 3
  obtain ⟨n, settled⟩ := ends
  have given : (library.invert n 3 {} erased).result {} = .ok (inverse 3 (.step 1) bare) := rfl
  cases given.symm.trans (settled n (Nat.le_refl n) {} .empty)
  have ignored : Schema.call (library.plans.maker 5 4) .ignoreEffect (name false) 0 {} =
      .ok (name true, 0) {} := rfl
  exact ⟨erasing, discreet _, inverted, ⟨n, settled⟩, parsing (discreet _) alike, ignored,
    (library.eliding_is_erasing view).2.2 (discreet _) (Library.ignored_resembles ignored), rfl⟩

end Stripping
end TwoWay
