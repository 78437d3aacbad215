import TwoWay.Proofs.Parse.Shifting
import TwoWay.Proofs.Parse.Tags
import TwoWay.Proofs.Parse.Total

/-!
# Looking an option up

A discriminated union looks its option up in a table, a union tries its options one after the
other. They concur (`Library.lookup_concurs`): the option that is selected is the only one that
can accept the value, and options that were tried in vain only give out identities.
-/

namespace TwoWay

/-- The same value, but for identities that are not older than the `m`-th one made. -/
def Value.SameSince (m : Nat) (v x : Datum) : Prop :=
  ∃ ρ, Function.Injective ρ ∧ (∀ n < m, ρ n = n) ∧ x = v.rename ρ

theorem Value.Before.fixed {m : Nat} {v : Datum} (h : v.Before m) (k : Nat) :
    v.rename (shift m k) = v := h _ fun _ => shift_of_lt k

/-- A union is not clean if none of its options is. -/
theorem unionResult_unclean {path : Path Live} {tried : List Parsed}
    (h : ∀ r ∈ tried, r.isClean = false) : (unionResult path tried).isClean = false := by
  unfold unionResult
  cases found : tried.find? fun r => !r.value.isInvalid with
  | some r => exact h r (List.mem_of_find?_eq_some found)
  | none => rfl

namespace Library

/-- All options come to a result for a value, from every world that has given out `m` identities
or more. -/
def Tries (lib : Library) (mode : Mode) (depth m : Nat) (options : List Schema) (v : Datum) :
    Prop :=
  ∀ s ∈ options, ∀ w, lib.plans.Faithful w → m ≤ w.made →
    ∃ r w', s.runWith (lib.links mode depth) [] v w = .ok r w'

variable {lib : Library} {schemas : Schema → Prop} {mode : Mode} {depth m : Nat} {s : Schema}
  {options : List Schema} {v : Datum}

section

variable (hs : lib.plans.Old m schemas) (pure : lib.host.Pure) (hv : v.Before m)

include hs pure hv

/-- The later of two parses gives the same, but for identities. -/
theorem later_result (h : schemas s) {w u w' u' : World} {r t : Parsed}
    (hw : lib.plans.Faithful w) (hu : lib.plans.Faithful u) (since : m ≤ w.made) {k : Nat}
    (made : u.made = w.made + k)
    (hr : s.runWith (lib.links mode depth) [] v w = .ok r w')
    (ht : s.runWith (lib.links mode depth) [] v u = .ok t u') :
    t = r.rename (shift m k) ∧ m ≤ w'.made := by
  have later := runWith_shifts hs trivial pure (.inl fun _ => trivial) k mode depth h [] v
  rw [hv.fixed k] at later
  obtain ⟨ahead, same⟩ := later.ok ⟨hw, hu, since, made⟩ hr ht
  exact ⟨same, ahead.since⟩

/-- After an option has been tried, the next one starts in a world like it. -/
theorem tried_made (h : schemas s) {w w' : World} {r : Parsed} (hw : lib.plans.Faithful w)
    (since : m ≤ w.made) (hr : s.runWith (lib.links mode depth) [] v w = .ok r w') :
    m ≤ w'.made := (later_result hs pure hv h hw hw since (Nat.add_zero _).symm hr hr).2

/-- A clean union has found an option that is clean. -/
theorem option_of_union (h : ∀ s ∈ options, schemas s) {tried : List Parsed}
    (ht : ∀ r ∈ tried, r.isClean = false) {w w' : World} {r : Parsed}
    (hw : lib.plans.Faithful w) (since : m ≤ w.made)
    (hr : runOptions (lib.links mode depth) options [] v tried w = .ok r w') (clean : r.isClean) :
    ∃ (j : Nat) (s : Schema) (u : World), options[j]? = some s ∧ lib.plans.Faithful u ∧
      m ≤ u.made ∧ s.runWith (lib.links mode depth) [] v u = .ok r w' := by
  induction options generalizing tried w with
  | nil =>
    cases hr
    rw [unionResult_unclean ht] at clean
    cases clean
  | cons s rest ih =>
    obtain ⟨first, others⟩ := List.forall_mem_cons.1 h
    obtain ⟨t, u, ht', hr⟩ := Run.bind_ok.1 hr
    split at hr
    · cases hr
      exact ⟨0, s, w, rfl, hw, since, ht'⟩
    · have unclean : ∀ r ∈ tried ++ [t], r.isClean = false :=
        List.forall_mem_append.2
          ⟨ht, List.forall_mem_singleton.2 (Bool.eq_false_iff.2 ‹¬t.isClean = true›)⟩
      obtain ⟨j, found⟩ := ih others unclean (runWith_faithful hw ht')
        (tried_made hs pure hv first hw since ht') hr
      exact ⟨j + 1, found⟩

/-- A union with an option that is clean is clean. -/
theorem union_of_option (h : ∀ s ∈ options, schemas s) (tries : lib.Tries mode depth m options v)
    (hclean : ∃ s ∈ options, ∀ w r w', lib.plans.Faithful w → m ≤ w.made →
      s.runWith (lib.links mode depth) [] v w = .ok r w' → r.isClean)
    (tried : List Parsed) {w : World} (hw : lib.plans.Faithful w) (since : m ≤ w.made) :
    ∃ r w', runOptions (lib.links mode depth) options [] v tried w = .ok r w' ∧ r.isClean := by
  induction options generalizing tried w with
  | nil =>
    obtain ⟨s, member, -⟩ := hclean
    cases member
  | cons s rest ih =>
    obtain ⟨first, others⟩ := List.forall_mem_cons.1 h
    obtain ⟨runs, further⟩ := List.forall_mem_cons.1 tries
    obtain ⟨r, u, hr⟩ := runs w hw since
    by_cases clean : r.isClean
    · exact ⟨r, u, Run.bind_ok.2 ⟨r, u, hr, by rw [if_pos clean]; rfl⟩, clean⟩
    · have left : ∃ t ∈ rest, ∀ w r w', lib.plans.Faithful w → m ≤ w.made →
          t.runWith (lib.links mode depth) [] v w = .ok r w' → r.isClean := by
        obtain ⟨t, member, always⟩ := hclean
        rcases List.mem_cons.1 member with rfl | member
        · exact absurd (always w r u hw since hr) clean
        · exact ⟨t, member, always⟩
      obtain ⟨t, u', ht, found⟩ := ih others further left (tried ++ [r])
        (runWith_faithful hw hr) (tried_made hs pure hv first hw since hr)
      exact ⟨t, u', Run.bind_ok.2 ⟨r, u, hr, by rw [if_neg clean]; exact ht⟩, found⟩

end

/-- A parse succeeds if its result is clean. -/
theorem parse_clean (h : s.isSchema) {x : Datum} {w w' : World} :
    lib.parse mode depth s v w = .ok x w' ↔
      ∃ r, s.runWith (lib.links mode depth) [] v w = .ok r w' ∧ r.isClean ∧ r.value = x := by
  rw [parse_ok]
  simp only [h, true_and, Parsed.finish_ok, Parsed.isClean, Bool.and_eq_true, List.isEmpty_iff,
    Bool.not_eq_true']
  grind

/-- What a discriminated union accepts it accepts with an option. -/
theorem tagged_ok {key : String} {table : List (Datum × Nat)}
    (hd : lib.plans.Discriminates key options table) {w w' : World} {r : Parsed}
    (hr : (Schema.tagged key options table).runWith (lib.links mode depth) [] v w = .ok r w')
    (clean : r.isClean) :
    ∃ s ∈ options, s.runWith (lib.links mode depth) [] v w = .ok r w' := by
  simp only [Schema.runWith] at hr
  cases hv : v.entries? with
  | none =>
    rw [hv] at hr
    cases hr
    cases clean
  | some entries =>
    simp only [hv] at hr
    cases selected : optionAt? table (valueAt entries key) with
    | none =>
      rw [selected] at hr
      cases hr
      cases clean
    | some i =>
      obtain ⟨s, hs⟩ := hd.selected selected
      rw [selected] at hr
      simp only [runOption_eq _ hs] at hr
      exact ⟨s, List.mem_of_getElem? hs, hr⟩

/-- Looking up concurs with trying: a discriminated union succeeds exactly when the union of its
options does, with the same output. The user functions are pure, the options come to a result, and
the tag of the value can be looked up. -/
theorem lookup_concurs {key : String} {table : List (Datum × Nat)} {w : World}
    (hd : lib.plans.Discriminates key options table) (hs : lib.plans.Old w.made schemas)
    (ho : ∀ s ∈ options, schemas s) (pure : lib.host.Pure) (hw : lib.plans.Faithful w)
    (hv : v.Before w.made) (tries : lib.Tries mode depth w.made options v)
    (selector : ∀ entries, v.entries? = some entries → (valueAt entries key).IsSelector) :
    ((∃ x u, lib.parse mode depth (.tagged key options table) v w = .ok x u) ↔
      ∃ y t, lib.parse mode depth (.union options) v w = .ok y t) ∧
    ∀ x u y t, lib.parse mode depth (.tagged key options table) v w = .ok x u →
      lib.parse mode depth (.union options) v w = .ok y t → x.SameSince w.made y := by
  have since : w.made ≤ w.made := Nat.le_refl _
  -- An option that the union accepts with is selected, and gives the same without the others.
  have fromUnion {r : Parsed} {t : World}
      (hr : (Schema.union options).runWith (lib.links mode depth) [] v w = .ok r t)
      (clean : r.isClean) : ∃ r' t', (Schema.tagged key options table).runWith
        (lib.links mode depth) [] v w = .ok r' t' ∧ r'.isClean ∧
        r'.value.SameSince w.made r.value := by
    obtain ⟨j, s, u, hj, hu, made, hrun⟩ :=
      option_of_union hs pure hv ho (List.forall_mem_nil _) hw since hr clean
    have member := List.mem_of_getElem? hj
    obtain ⟨r', t', hrun'⟩ := tries s member w hw since
    obtain ⟨k, hk⟩ := Nat.exists_eq_add_of_le made
    obtain ⟨rfl, -⟩ := later_result hs pure hv (ho s member) hw hu since hk hrun' hrun
    rw [Parsed.isClean_rename] at clean
    obtain ⟨entries, hentries, selects⟩ := selects_accepting hd hj hw hrun' clean
    refine ⟨r', t', ?_, clean, shift w.made k, shift_injective _ _, fun n => shift_of_lt k, rfl⟩
    simp only [Schema.runWith, hentries, selects (selector entries hentries), runOption_eq _ hj]
    exact hrun'
  have fromTagged {r : Parsed} {u : World}
      (hr : (Schema.tagged key options table).runWith (lib.links mode depth) [] v w = .ok r u)
      (clean : r.isClean) : ∃ r' t, (Schema.union options).runWith (lib.links mode depth) [] v w =
        .ok r' t ∧ r'.isClean := by
    obtain ⟨s, member, hrun⟩ := tagged_ok hd hr clean
    refine union_of_option hs pure hv ho tries ⟨s, member, fun u' r' t hu' made hr' => ?_⟩ [] hw
      since
    obtain ⟨k, hk⟩ := Nat.exists_eq_add_of_le made
    obtain ⟨rfl, -⟩ := later_result hs pure hv (ho s member) hw hu' since hk hrun hr'
    rwa [Parsed.isClean_rename]
  refine ⟨⟨?_, ?_⟩, ?_⟩
  · rintro ⟨x, u, hx⟩
    obtain ⟨r, hr, clean, -⟩ := (parse_clean rfl).1 hx
    obtain ⟨r', t, hr', clean'⟩ := fromTagged hr clean
    exact ⟨r'.value, t, (parse_clean rfl).2 ⟨r', hr', clean', rfl⟩⟩
  · rintro ⟨y, t, hy⟩
    obtain ⟨r, hr, clean, -⟩ := (parse_clean rfl).1 hy
    obtain ⟨r', t', hr', clean', -⟩ := fromUnion hr clean
    exact ⟨r'.value, t', (parse_clean rfl).2 ⟨r', hr', clean', rfl⟩⟩
  · intro x u y t hx hy
    obtain ⟨r, hr, -, rfl⟩ := (parse_clean rfl).1 hx
    obtain ⟨q, hq, clean, rfl⟩ := (parse_clean rfl).1 hy
    obtain ⟨r', t', hr', -, same⟩ := fromUnion hq clean
    rw [hr] at hr'
    cases hr'
    exact same

end Library

/-! Packing: bags and boxes, with items that are kept read-only. What is in a box has been made
read-only for a bag before. -/

namespace Packing

def library : Library where
  host := {
    effect := fun _ _ _ => ⟨[], .ok .none⟩
    check := fun _ _ => ⟨[], .ok (.bool true)⟩
    supply := fun _ => ⟨[], .ok .none⟩
    rescue := fun _ _ => ⟨[], .ok .none⟩
    call := fun _ _ => ⟨[], .ok .none⟩
    isAsync := fun _ => false }
  plans := { getter := fun _ => { schema := .any }, definition := fun _ => .any }

theorem pure : library.host.Pure where
  effect _ _ _ _ := ⟨rfl, fun _ _ h h' => by cases h; cases h'; rfl⟩
  check _ _ _ := ⟨rfl, fun _ _ h h' => by cases h; cases h'; rfl⟩
  supply _ _ := ⟨rfl, fun _ _ h h' => by cases h; cases h'; rfl⟩
  rescue _ _ _ := ⟨rfl, fun _ _ h h' => by cases h; cases h'; rfl⟩
  effect_prompt _ _ _ _ _ h x hx := by cases h; cases hx
  check_prompt _ _ _ _ h x hx := by cases h; cases hx

/-- Inert nodes whose values have no identities. -/
inductive Plain : Schema → Prop
  | intro {s : Schema} (node : s.isInertNode)
    (constants : ∀ c ∈ s.constants, ∀ ρ, c.rename ρ = c) (parts : ∀ c ∈ s.children, Plain c) :
    Plain s

theorem plain_old (m : Nat) : library.plans.Old m Plain where
  child h hc := by
    cases h with
    | intro _ _ parts => exact parts _ hc
  behind h := by
    cases h with
    | intro node => cases node
  constants h hc := by
    cases h with
    | intro _ constants => exact fun ρ _ => constants _ hc ρ

theorem Plain.inert {s : Schema} (h : Plain s) : s.Inert := by
  induction h with
  | intro node _ _ ih => exact ⟨node, ih⟩

namespace Plain

theorem leaf {s : Schema} (node : s.isInertNode)
    (constants : ∀ c ∈ s.constants, ∀ ρ, c.rename ρ = c) (single : s.children = []) : Plain s :=
  ⟨node, constants, by simp [single]⟩

theorem literal {value : Datum} (h : ∀ ρ, value.rename ρ = value) : Plain (.literal value) :=
  .leaf rfl (List.forall_mem_singleton.2 h) rfl

theorem readonly {s : Schema} (h : Plain s) : Plain (.readonly s) :=
  ⟨rfl, List.forall_mem_nil _, List.forall_mem_singleton.2 h⟩

theorem nullable {s : Schema} (h : Plain s) : Plain (.nullable s) :=
  ⟨rfl, List.forall_mem_nil _, List.forall_mem_singleton.2 h⟩

theorem object {shape : List (String × Schema)} (h : ∀ f ∈ shape, Plain f.2)
    {policy : UnknownKeys} : Plain (.object shape none policy) :=
  ⟨rfl, List.forall_mem_nil _, by simpa [Schema.children] using fun c key hc => h (key, c) hc⟩

end Plain

/-- Inert options come to a result for every regular value. -/
theorem plain_tries {options : List Schema} (h : ∀ s ∈ options, Plain s) {v : Datum}
    (hv : v.Regular) (m : Nat) : library.Tries .sync 1 m options v := by
  intro s hs w _ _
  obtain ⟨r, w', hr, -⟩ := (h s hs).inert.settles (library.links .sync 1) [] v .root hv w
  exact ⟨r, w', hr⟩

def items : Schema := .readonly (.array .any {})

theorem items_plain : Plain items := by
  refine .readonly ⟨rfl, by simp [Schema.constants], List.forall_mem_singleton.2 ?_⟩
  exact .leaf rfl (List.forall_mem_nil _) rfl

def options : List Schema := [
  .object [("kind", .readonly (.literal (.str "bag"))), ("items", items)] none .strip,
  .object [("kind", .nullable (.enum [.str "box", .str "crate"])), ("items", items)] none .strip]

def table : List (Datum × Nat) := [(.str "bag", 0), (.str "box", 1), (.str "crate", 1), (.none, 1)]

def input : Datum := .dict .free [(.str "kind", .str "box"), (.str "items", .list .free [.int 1])]

theorem discriminates : library.plans.Discriminates "kind" options table where
  made := ⟨.step 0, 0, {}, {}, rfl⟩
  keys := by
    have single (s : String) : (Value.str s : Datum).IsProperKey := .single rfl
    have none : (Value.none : Datum).IsProperKey := .single rfl
    simp [table, single, none]
  fields := by
    intro shape catchall policy field member hfield
    simp only [options, List.mem_cons, List.not_mem_nil, or_false] at member
    rcases member with member | member <;> cases member <;> cases hfield
    · exact .readonly .literal
    · exact .nullable .enum

theorem plain : ∀ s ∈ options, Plain s := by
  simp only [options, List.forall_mem_cons]
  refine ⟨.object ?_, .object ?_, List.forall_mem_nil _⟩ <;>
    simp only [List.forall_mem_cons, List.not_mem_nil, false_imp_iff, implies_true, and_true]
  · exact ⟨.readonly (.literal fun _ => rfl), items_plain⟩
  · exact ⟨.nullable (.leaf rfl (by simp [Schema.constants]) rfl), items_plain⟩

theorem input_before (m : Nat) : input.Before m := fun _ _ => rfl

theorem input_regular : input.Regular := by
  have text : (Value.str "box" : Datum).Regular := .single rfl
  have number : (Value.int 1 : Datum).Regular := .single rfl
  simp [input, Entries.Regular, Value.IsKey, text, number]

theorem input_selector (entries : Entries Live) (h : input.entries? = some entries) :
    (valueAt entries "kind").IsSelector := by
  cases h
  exact ⟨fun _ => .single rfl, fun _ h => by cases h⟩

/-- The box is found, and what is in it is the same but for its identity. -/
theorem box_found :
    library.plans.Discriminates "kind" options table ∧ library.plans.Old 0 Plain ∧
    (∀ s ∈ options, Plain s) ∧ library.host.Pure ∧ library.plans.Faithful {} ∧
    input.Before 0 ∧ library.Tries .sync 1 0 options input ∧
    (∀ entries, input.entries? = some entries → (valueAt entries "kind").IsSelector) ∧
    ∃ x u y t, library.parse .sync 1 (.tagged "kind" options table) input {} = .ok x u ∧
      library.parse .sync 1 (.union options) input {} = .ok y t ∧ x.SameSince 0 y ∧ x ≠ y := by
  have tries := plain_tries plain input_regular 0
  obtain ⟨-, same⟩ := library.lookup_concurs discriminates (plain_old 0) plain pure .empty
    (input_before 0) tries input_selector
  have tagged : ∃ u, library.parse .sync 1 (.tagged "kind" options table) input {} = .ok
      (.dict .free [(.str "kind", .str "box"),
        (.str "items", .list (.readOnly (.made 0)) [.int 1])]) u := ⟨_, rfl⟩
  have tried : ∃ t, library.parse .sync 1 (.union options) input {} = .ok
      (.dict .free [(.str "kind", .str "box"),
        (.str "items", .list (.readOnly (.made 1)) [.int 1])]) t := ⟨_, rfl⟩
  obtain ⟨u, tagged⟩ := tagged
  obtain ⟨t, tried⟩ := tried
  refine ⟨discriminates, plain_old 0, plain, pure, .empty, input_before 0, tries, input_selector,
    _, u, _, t, tagged, tried, same _ _ _ _ tagged tried, ?_⟩
  intro h
  cases h

end Packing

/-! A tag is the tuple of a read-only set, and the tuple of a set is equal to it. -/

namespace Nested

def options : List Schema := [
  .object [("t", .literal (.tuple [.set true [.str "x"]]))] none .strip,
  .object [("t", .literal (.str "b"))] none .strip]

def table : List (Datum × Nat) := [(.tuple [.set true [.str "x"]], 0), (.str "b", 1)]

def input : Datum := .dict .free [(.str "t", .tuple [.set false [.str "x"]])]

theorem discriminates : Packing.library.plans.Discriminates "t" options table where
  made := ⟨.step 0, 0, {}, {}, rfl⟩
  keys := by
    have tuple : (Value.tuple [.set true [.str "x"]] : Datum).IsProperKey := by
      refine .tuple (List.forall_mem_singleton.2 (.set ?_ (List.pairwise_singleton ..)))
      exact List.forall_mem_singleton.2 (.single rfl)
    have text : (Value.str "b" : Datum).IsProperKey := .single rfl
    simp [table, tuple, text]
  fields := by
    intro shape catchall policy field member hfield
    simp only [options, List.mem_cons, List.not_mem_nil, or_false] at member
    rcases member with member | member <;> cases member <;> cases hfield <;> exact .literal

theorem plain : ∀ s ∈ options, Packing.Plain s := by
  simp only [options, List.forall_mem_cons]
  refine ⟨.object ?_, .object ?_, List.forall_mem_nil _⟩ <;>
    simp only [List.forall_mem_cons, List.not_mem_nil, false_imp_iff, implies_true, and_true]
  · exact .literal fun _ => by simp
  · exact .literal fun _ => rfl

theorem input_regular : input.Regular := by
  have text : (Value.str "x" : Datum).Regular := .single rfl
  simp [input, Entries.Regular, Value.IsKey, Value.unhashable?, text]

/-- The union accepts the tuple, and the discriminated union, whose options are the same, cannot
look it up. -/
theorem looked_up_in_vain :
    Packing.library.plans.Discriminates "t" options table ∧
    Packing.library.plans.Old 0 Packing.Plain ∧ (∀ s ∈ options, Packing.Plain s) ∧
    Packing.library.host.Pure ∧ Packing.library.plans.Faithful {} ∧ input.Before 0 ∧
    Packing.library.Tries .sync 1 0 options input ∧
    ¬((∃ x u, Packing.library.parse .sync 1 (.tagged "t" options table) input {} = .ok x u) ↔
      ∃ y t, Packing.library.parse .sync 1 (.union options) input {} = .ok y t) := by
  refine ⟨discriminates, Packing.plain_old 0, plain, Packing.pure, .empty, fun _ _ => rfl,
    Packing.plain_tries plain input_regular 0, fun concur => ?_⟩
  have tried : ∃ y t, Packing.library.parse .sync 1 (.union options) input {} = .ok y t :=
    ⟨_, _, rfl⟩
  obtain ⟨x, u, looked⟩ := concur.2 tried
  have refused : ∃ f u, Packing.library.parse .sync 1 (.tagged "t" options table) input {} =
      .error f u := ⟨_, _, rfl⟩
  obtain ⟨f, u', refused⟩ := refused
  rw [refused] at looked
  cases looked

end Nested
end TwoWay
