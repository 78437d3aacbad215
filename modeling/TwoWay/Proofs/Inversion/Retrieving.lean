import TwoWay.Proofs.Inversion.Outcome
import TwoWay.Proofs.Inversion.Routing
import TwoWay.Proofs.Parse.Reliable
import Mathlib.Logic.Relation

/-!
# Ways back

What a parse makes of a value can be made into the value again by the inverse, if every node that
the value meets on its way spares what the inverse needs (`Library.Spares`): nothing is stripped,
supplied or substituted, keys and members do not fall together, the inverses of the options before
the one that is taken refuse what it gives, and the functions of two-way nodes undo each other.
-/

namespace TwoWay

/-! ## What meets what on the way -/

/-- Runs that all give something from some depth on. -/
abbrev Plans.Attains (plans : Plans) {α : Type} (m : Nat → Run α) (Q : α → Prop) : Prop :=
  plans.Ends (fun _ => False) m Q

namespace Library

variable (lib : Library)

/-- What a parse of a value can result in, in whatever place and faithful world. -/
def Results (mode : Mode) (depth : Nat) (s : Schema) (v : Datum) (r : Parsed) : Prop :=
  ∃ path w w', lib.plans.Faithful w ∧ s.runWith (lib.links mode depth) path v w = .ok r w'

/-- What a schema can read a value as. -/
def Reads (s : Schema) (v x : Datum) : Prop :=
  ∃ mode depth r, lib.Results mode depth s v r ∧ r.isClean ∧ r.value = x

/-- A schema that can refuse a value or report issues about it. -/
def Declines (s : Schema) (v : Datum) : Prop :=
  ∃ mode depth r, lib.Results mode depth s v r ∧ r.isClean = false

/-- What the function of a two-way node can map a value to. -/
def Maps (fn : FunctionRef) (x y : Datum) : Prop :=
  ∃ mode depth path w r w', (lib.links mode depth).map fn path x w = .ok r w' ∧
    r.issues = [] ∧ r.value = y

/-- A function that has nothing to report about a value, and gives the other back for it. -/
def Undoes (fn : FunctionRef) (y x : Datum) : Prop :=
  ∀ path, (lib.host.effect fn y path).reports = false ∧
    ∀ o, (lib.host.effect fn y path).outcome = .ok o → x.Alike o

/-- A schema that refuses a value, or reports issues about it, wherever it is parsed. -/
def TurnsDown (t : Schema) (u : Datum) : Prop :=
  ∀ mode path, lib.plans.Attains (fun depth => t.runWith (lib.links mode depth) path u)
    fun r => r.isClean = false

/-- In the parse of a value with a schema, a value is handed to a schema that stands in it or
behind it. Of the options of a union only the one that is taken counts. -/
inductive Hands : Schema → Datum → Schema → Datum → Prop
  | element {e lengths v items x} : v.listItems? = some items → x ∈ items →
    Hands (.array e lengths) v e x
  | field {shape catchall policy v entries key s} : v.entries? = some entries →
    (key, s) ∈ shape → Hands (.object shape catchall policy) v s (valueAt entries key)
  | extra {shape c policy v entries e} : v.entries? = some entries →
    e ∈ extraEntries shape entries → Hands (.object shape (some c) policy) v c e.2
  | option {options before after s v x} : options = before ++ s :: after →
    (∀ t ∈ before, lib.Declines t v) → lib.Reads s v x → Hands (.union options) v s v
  | tagged {key options table v entries s} {i : Nat} : v.entries? = some entries →
    optionAt? table (valueAt entries key) = some i → options[i]? = some s →
    Hands (.tagged key options table) v s v
  | item {items rest v isTuple vs s x} {i : Nat} : v.sequence? = some (isTuple, vs) →
    items[i]? = some s → vs[i]? = some x → Hands (.tuple items rest) v s x
  | rest {items s v isTuple vs x} : v.sequence? = some (isTuple, vs) →
    x ∈ vs.drop items.length → Hands (.tuple items (some s)) v s x
  | recordKey {k s v entries e} : v.entries? = some entries → e ∈ entries →
    Hands (.record k s) v k e.1
  | recordValue {k s v entries e} : v.entries? = some entries → e ∈ entries →
    Hands (.record k s) v s e.2
  | mapKey {k s v entries e} : v.entries? = some entries → e ∈ entries →
    Hands (.map k s) v k e.1
  | mapValue {k s v entries e} : v.entries? = some entries → e ∈ entries →
    Hands (.map k s) v s e.2
  | member {e v readOnly items x} : v.setItems? = some (readOnly, items) → x ∈ items →
    Hands (.set e) v e x
  | behind {id origin s v} : lib.plans.Gives id origin s → Hands (.lazy id origin) v s v
  | effect {kind action elidable s v} : Hands (.effect kind action elidable s) v s v
  | optional {s v} : v.isMissing = false → v.isNone = false → Hands (.optional s) v s v
  | nullable {s v} : v.isNone = false → Hands (.nullable s) v s v
  | default {s supply v} : Hands (.default s supply) v s v
  | catch {s supply v} : Hands (.catch s supply) v s v
  | branded {s name v} : Hands (.branded s name) v s v
  | readonly {s v} : Hands (.readonly s) v s v
  | input {s t v} : Hands (.pipeline s t) v s v
  | output {s t v x} : lib.Reads s v x → Hands (.pipeline s t) v t x
  | source {s parse t format v} : Hands (.invertible s parse t format) v s v
  | target {s parse t format v x y} : lib.Reads s v x → lib.Maps parse x y →
    Hands (.invertible s parse t format) v t y

/-- Outputs of different keys, or of different members of a set, do not agree. -/
def Distinguishes (s : Schema) (vs : List Datum) : Prop :=
  vs.Pairwise fun v v' => ∀ x x', lib.Reads s v x → lib.Reads s v' x' → x.agrees x' = false

/-- What a node needs so that its inverse can make the value again: nothing is stripped,
supplied or substituted, nothing becomes `none` under a node that lets `none` pass, keys and
members do not fall together, an earlier option of a union does not take what a later one gave, and
a two-way node goes back to where it came from. -/
def Spares (settings : InversionSettings) : Schema → Datum → Prop
  | .object shape none .strip, v => ∀ entries, v.entries? = some entries →
    extraEntries shape entries = []
  | .default _ _, v => v.isMissing = false
  | .catch s _, v => ¬lib.Declines s v
  | .optional s, v | .nullable s, v => ∀ x, lib.Reads s v x → x.isNone → v.isNone
  | .union options, v => ∀ before s after x, options = before ++ s :: after →
    (∀ t ∈ before, lib.Declines t v) → lib.Reads s v x →
    ∀ t ∈ before, ∀ t', lib.plans.Inverts settings t t' →
      ∀ u, x.Alike u → u.Given False → lib.TurnsDown t' u
  | .record key _, v | .map key _, v => ∀ entries, v.entries? = some entries →
    lib.Distinguishes key (entries.map (·.1))
  | .set element, v => ∀ readOnly items, v.setItems? = some (readOnly, items) →
    lib.Distinguishes element items
  | .invertible input parse _ format, v => ∀ x y, lib.Reads input v x → lib.Maps parse x y →
    lib.Undoes format y x
  | _, _ => True

/-- Every value that meets a schema in the parse of a value is spared. -/
def Smooth (settings : InversionSettings) (s : Schema) (v : Datum) : Prop :=
  ∀ q : Schema × Datum,
    Relation.ReflTransGen (fun p q => lib.Hands p.1 p.2 q.1 q.2) (s, v) q →
    lib.Spares settings q.1 q.2

variable {lib} {settings : InversionSettings}

theorem Smooth.here {s : Schema} {v : Datum} (h : lib.Smooth settings s v) :
    lib.Spares settings s v := h (s, v) .refl

theorem Smooth.hand {s c : Schema} {v x : Datum} (h : lib.Smooth settings s v)
    (hands : lib.Hands s v c x) : lib.Smooth settings c x :=
  fun q reached => h q (.head hands reached)

/-- What holds of a schema and a value and is handed on, holds of all that meet. -/
theorem Smooth.of_closed {P : Schema → Datum → Prop}
    (step : ∀ {s v c x}, P s v → lib.Hands s v c x → P c x)
    (spares : ∀ {s v}, P s v → lib.Spares settings s v) {s : Schema} {v : Datum} (h : P s v) :
    lib.Smooth settings s v := by
  intro q reached
  refine spares (s := q.1) (v := q.2) ?_
  induction reached with
  | refl => exact h
  | tail _ hands ih => exact step ih hands

end Library

/-! ## Coming back -/

/-- A clean result that is like a value. -/
structure Parsed.Returns (v : Datum) (r : Parsed) : Prop where
  issues : r.issues = []
  alike : v.Alike r.value
  given : r.value.Given False

namespace Library

variable (lib : Library) (settings : InversionSettings)

/-- Parsing gives back a value, in every mode and place. -/
def ComesBack (t : Schema) (u v : Datum) : Prop :=
  ∀ mode path, lib.plans.Attains (fun depth => t.runWith (lib.links mode depth) path u)
    (Parsed.Returns v)

/-- All inverses of a schema give back a value for whatever is like an output. -/
structure Retrieves (s : Schema) (v x : Datum) : Prop where
  given : x.Given False
  missing : x.isMissing = v.isMissing
  back : ∀ t, lib.plans.Inverts settings s t → ∀ u, x.Alike u → u.Given False →
    lib.ComesBack t u v

/-- Of what a schema reads smoothly, its inverses give back the value. -/
def Reversible (mode : Mode) (depth : Nat) (s : Schema) : Prop :=
  ∀ v r, v.Given False → lib.Results mode depth s v r → r.isClean → lib.Smooth settings s v →
    lib.Retrieves settings s v r.value

end Library

/-! ## Leaves -/

section
variable (path path' : Path Live)

/-- What is reported somewhere else. -/
def moved (path : Path Live) (issues : List (Issue Live)) : List (Issue Live) :=
  issues.map fun i => { i with path := path }

theorem lengthIssues_moved (owner noun : String) (lengths : Lengths Live) (size : Nat) :
    lengthIssues path' owner noun lengths size =
      moved path' <$> lengthIssues path owner noun lengths size := by
  unfold lengthIssues
  dsimp only
  split <;> rw [map_bind] <;> refine bind_congr fun short => ?_
  all_goals
    split <;> rw [map_bind] <;> refine bind_congr fun long => ?_
    all_goals cases short <;> cases long <;> rfl

theorem patternIssues_moved (pattern : Option WrittenPattern) (text : String) :
    patternIssues path' pattern text = moved path' <$> patternIssues path pattern text := by
  unfold patternIssues
  split
  · rfl
  · rfl
  · split
    · split <;> rfl
    · rfl

theorem numberBound_moved (code : IssueCode) (relation detail : String)
    (holds : Datum → Datum → Except Fault Bool) (v bound : Datum) :
    numberBound path' code relation detail holds v bound =
      moved path' <$> numberBound path code relation detail holds v bound := by
  unfold numberBound
  split
  · rfl
  · rw [map_bind]
    refine bind_congr fun held => ?_
    cases held <;> rfl

theorem parseString_moved (lengths : Lengths Live) (pattern : Option WrittenPattern) (s : String) :
    parseString lengths pattern path' (.str s) =
      (fun r => ⟨r.value, moved path' r.issues⟩) <$>
        parseString lengths pattern path (.str s) := by
  simp only [parseString, lengthIssues_moved path path',
    patternIssues_moved path path', map_bind, bind_map_left, map_pure, moved,
    List.map_append]

theorem parseString_str (lengths : Lengths Live) (pattern : Option WrittenPattern) (s : String) :
    Sound (parseString lengths pattern path (.str s)) (·.value = .str s) :=
  .bind (.any _) fun _ _ => .bind (.any _) fun _ _ => .pure rfl

theorem parseNumber_moved (bounds : Bounds Live) (integer : Bool) {v : Datum}
    (readable : isReadableNumber v) :
    parseNumber bounds integer path' v =
      (fun r => ⟨r.value, moved path' r.issues⟩) <$> parseNumber bounds integer path v := by
  unfold parseNumber
  simp only [readable, Bool.not_true, Bool.false_eq_true, if_false,
    numberBound_moved path path', map_bind, bind_map_left, map_pure, moved,
    List.map_append]
  refine bind_congr fun above => bind_congr fun atLeast => bind_congr fun below =>
    bind_congr fun atMost => ?_
  split <;> first | rfl | split <;> rfl

/-- What is given without issues at one place is given at all. -/
theorem liftFault_moved {m m' : Except Fault Parsed}
    (h : m' = (fun r => ⟨r.value, moved path' r.issues⟩) <$> m) {v : Datum}
    (given : Sound m fun r => r.isClean → r.value = v) {r : Parsed} {w w' : World}
    (hm : Run.liftFault m w = .ok r w') (clean : r.isClean) :
    r.value = v ∧ ∀ u, Run.liftFault m' u = .ok ⟨v, []⟩ u := by
  cases m with
  | error f => cases hm
  | ok t =>
    cases hm
    have same := given _ rfl clean
    refine ⟨same, fun u => ?_⟩
    rw [h, ← same]
    simp only [Functor.map, Except.map, Parsed.issues_of_isClean clean]
    rfl

end

/-- Leaves that read nothing but definite values. -/
def Schema.isDefinite : Schema → Bool
  | .string .. | .number .. | .boolean | .none | .never => true
  | .literal value => value.isDefinite
  | .enum values => values.all (·.isDefinite)
  | _ => false

/-- A leaf that reads definite values gives what it reads, wherever it stands. -/
theorem definite_reads {s : Schema} (hs : s.isDefinite) {links : Links} {path : Path Live}
    {v : Datum} {r : Parsed} {w w' : World} (h : s.runWith links path v w = .ok r w')
    (clean : r.isClean) : v.isDefinite ∧ r.value = v ∧
      ∀ links' path' u, s.runWith links' path' v u = .ok ⟨v, []⟩ u := by
  cases s <;> try cases hs
  case string lengths pattern =>
    simp only [Schema.runWith] at h
    cases v
    case str t =>
      have moved (path' : Path Live) := liftFault_moved path'
        (parseString_moved path path' lengths pattern t)
        (fun r hr _ => parseString_str path lengths pattern t r hr) h clean
      exact ⟨rfl, (moved path).1, fun _ path' u => (moved path').2 u⟩
    all_goals
      cases h
      cases clean
  case number bounds integer =>
    simp only [Schema.runWith] at h
    cases readable : isReadableNumber v with
    | false =>
      unfold parseNumber at h
      rw [readable] at h
      cases h
      cases clean
    | true =>
      have moved (path' : Path Live) := liftFault_moved path'
        (parseNumber_moved path path' bounds integer readable)
        (fun r hr clean => (parseNumber_leaf bounds integer r hr).value.resolve_right
          fun none => none.2 (Parsed.issues_of_isClean clean)) h clean
      refine ⟨?_, (moved path).1, fun _ path' u => (moved path').2 u⟩
      rcases v with _ | _ | _ | (_ | _ | _) | _ | _ | _ | _ | _ | _ | _ | _ | _ <;>
        first | rfl | cases readable
  case boolean =>
    cases v
    case bool b =>
      cases h
      exact ⟨rfl, rfl, fun _ _ _ => rfl⟩
    all_goals
      cases h
      cases clean
  case none =>
    cases v
    case none =>
      cases h
      exact ⟨rfl, rfl, fun _ _ _ => rfl⟩
    all_goals
      cases h
      cases clean
  case never =>
    cases h
    cases clean
  case literal value =>
    cases h
    unfold parseLiteral at clean ⊢
    split at clean
    · rename_i exactly
      rw [if_pos exactly]
      refine ⟨Value.isDefinite_of_isExactly exactly hs, rfl, fun links' path' u => ?_⟩
      simp only [Schema.runWith, parseLiteral, if_pos exactly]
      rfl
    · cases clean
  case enum values =>
    cases h
    unfold parseEnum at clean ⊢
    split at clean
    · rename_i found
      rw [if_pos found]
      obtain ⟨t, ht, exactly⟩ := List.any_eq_true.1 (Bool.and_eq_true_iff.1 found).2
      refine ⟨Value.isDefinite_of_isExactly exactly (List.all_eq_true.1 hs t ht), rfl,
        fun links' path' u => ?_⟩
      simp only [Schema.runWith, parseEnum, if_pos found]
      rfl
    · cases clean

theorem Plans.Inverts.of_leaf {plans : Plans} {settings : InversionSettings} {s t : Schema}
    (h : plans.Inverts settings s t) (leaf : s.isLeaf) : t = s := by
  cases h with
  | leaf => rfl
  | _ => cases leaf

namespace Library

variable {lib : Library} {settings : InversionSettings} {mode : Mode} {depth : Nat}

/-- Every parse has its results. -/
theorem results (lib : Library) (mode : Mode) (depth : Nat) (s : Schema) (path : Path Live)
    (v : Datum) :
    lib.plans.Ensures (s.runWith (lib.links mode depth) path v) (lib.Results mode depth s v) := by
  intro w hw
  have tracked := (parseIn_tracks (Allowance.all_closed lib.plans) lib.host.keeps_all mode depth
    (s := s) trivial path (.inl v.keeps_all)).ensures
  refine ⟨(tracked w hw).1, fun r hr => ?_⟩
  obtain ⟨w', ran⟩ := Run.result_ok.1 hr
  exact ⟨path, w, w', hw, ran⟩

variable {s : Schema} {v x : Datum} {r : Parsed}

theorem Results.reads (h : lib.Results mode depth s v r) (clean : r.isClean) :
    lib.Reads s v r.value := ⟨mode, depth, r, h, clean, rfl⟩

theorem Results.declines (h : lib.Results mode depth s v r) (clean : r.isClean = false) :
    lib.Declines s v := ⟨mode, depth, r, h, clean⟩

/-- A leaf that reads definite values is reversible. -/
theorem reversible_definite (hs : s.isDefinite) : lib.Reversible settings mode depth s := by
  rintro v r - ⟨path, w, w', -, h⟩ clean -
  obtain ⟨definite, same, again⟩ := definite_reads hs h clean
  rw [same]
  refine ⟨.inl (Value.IsDefinite.natural definite), rfl, fun t ht u alike _ mode path => ?_⟩
  have leaf : s.isLeaf := by cases s <;> first | rfl | cases hs
  rw [ht.of_leaf leaf, alike.eq_of_isDefinite definite]
  exact .given (fun _ _ => again _ _ _) ⟨rfl, .same v, .inl (Value.IsDefinite.natural definite)⟩

/-- A leaf that reads everything hands on what it is given. -/
theorem reversible_any (hs : s = .any ∨ s = .unknown) : lib.Reversible settings mode depth s := by
  have run (links : Links) (path : Path Live) (v : Datum) (w : World) :
      s.runWith links path v w = .ok ⟨v, []⟩ w := by
    rcases hs with rfl | rfl <;> rfl
  rintro v r hv ⟨path, w, w', -, h⟩ - -
  rw [run] at h
  cases h
  refine ⟨hv, rfl, fun t ht u alike hu mode path => ?_⟩
  have leaf : s.isLeaf := by rcases hs with rfl | rfl <;> rfl
  rw [ht.of_leaf leaf]
  exact .given (fun _ _ => run _ _ _ _) ⟨rfl, alike, hu⟩

/-! ## Nodes that hand on the value -/

/-- A node whose inverses are those of the inner schema, and that gives what this one gives. -/
theorem Retrieves.ofInner {c : Schema} (h : lib.Retrieves settings c v x)
    (inverts : ∀ t, lib.plans.Inverts settings s t → lib.plans.Inverts settings c t) :
    lib.Retrieves settings s v x :=
  ⟨h.given, h.missing, fun t ht => h.back t (inverts t ht)⟩

theorem reversible_branded {name : Datum} (h : lib.Reversible settings mode depth s) :
    lib.Reversible settings mode depth (.branded s name) := by
  rintro v r hv ⟨path, w, w', hw, ran⟩ clean smooth
  refine (h v r hv ⟨path, w, w', hw, ran⟩ clean (smooth.hand .branded)).ofInner fun t ht => ?_
  cases ht with
  | leaf leaf => cases leaf
  | branded inverts => exact inverts

theorem reversible_default {supply : Supply Live} (h : lib.Reversible settings mode depth s) :
    lib.Reversible settings mode depth (.default s supply) := by
  rintro v r hv ⟨path, w, w', hw, ran⟩ clean smooth
  have present : v.isMissing = false := smooth.here
  simp only [Schema.runWith, present, Bool.false_eq_true, if_false, pure_bind] at ran
  refine (h v r hv ⟨path, w, w', hw, ran⟩ clean (smooth.hand .default)).ofInner fun t ht => ?_
  cases ht with
  | leaf leaf => cases leaf
  | default inverts => exact inverts

theorem reversible_catch {supply : Supply Live} (h : lib.Reversible settings mode depth s) :
    lib.Reversible settings mode depth (.catch s supply) := by
  rintro v r hv ⟨path, w, w', hw, ran⟩ clean smooth
  obtain ⟨t, u, ht, ran⟩ := Run.bind_ok.1 ran
  have taken : lib.Results mode depth s v t := ⟨path, w, u, hw, ht⟩
  have accepted : t.isClean := by
    by_contra declined
    exact smooth.here (taken.declines (eq_false_of_ne_true declined))
  rw [if_pos accepted] at ran
  cases ran
  refine (h v r hv taken accepted (smooth.hand .catch)).ofInner fun t ht => ?_
  cases ht with
  | leaf leaf => cases leaf
  | «catch» inverts => exact inverts

/-- What is read as `none` was `none`. -/
theorem not_none (spares : ∀ x, lib.Reads s v x → x.isNone → v.isNone) (reads : lib.Reads s v x)
    (present : v.isNone = false) : x.isNone = false := by
  by_contra none
  exact Bool.false_ne_true (present.symm.trans (spares x reads (eq_true_of_ne_false none)))

theorem reversible_optional (h : lib.Reversible settings mode depth s) :
    lib.Reversible settings mode depth (.optional s) := by
  rintro v r hv ⟨path, w, w', hw, ran⟩ clean smooth
  simp only [Schema.runWith] at ran
  split at ran
  · rename_i absent
    cases ran
    refine ⟨hv, rfl, fun t ht u alike hu mode path => ?_⟩
    cases ht with
    | leaf leaf => cases leaf
    | optional =>
      rw [alike.isMissing, alike.isNone] at absent
      simp only [Schema.runWith, absent, if_true]
      exact .pure ⟨rfl, alike, hu⟩
  · rename_i present
    simp only [Bool.or_eq_true, not_or, Bool.not_eq_true] at present
    have result : lib.Results mode depth s v r := ⟨path, w, w', hw, ran⟩
    have inner := h v r hv result clean (smooth.hand (.optional present.1 present.2))
    have missing := inner.missing.trans present.1
    have none := not_none smooth.here (result.reads clean) present.2
    refine ⟨inner.given, inner.missing, fun t ht u alike hu mode path => ?_⟩
    cases ht with
    | leaf leaf => cases leaf
    | optional inverts =>
      rw [alike.isMissing] at missing
      rw [alike.isNone] at none
      simp only [Schema.runWith, missing, none, Bool.or_self, Bool.false_eq_true, if_false]
      exact inner.back _ inverts u alike hu mode path

theorem reversible_nullable (h : lib.Reversible settings mode depth s) :
    lib.Reversible settings mode depth (.nullable s) := by
  rintro v r hv ⟨path, w, w', hw, ran⟩ clean smooth
  simp only [Schema.runWith] at ran
  split at ran
  · rename_i absent
    cases ran
    refine ⟨hv, rfl, fun t ht u alike hu mode path => ?_⟩
    cases ht with
    | leaf leaf => cases leaf
    | nullable =>
      rw [alike.isNone] at absent
      simp only [Schema.runWith, absent, if_true]
      exact .pure ⟨rfl, alike, hu⟩
  · rename_i present
    rw [Bool.not_eq_true] at present
    have result : lib.Results mode depth s v r := ⟨path, w, w', hw, ran⟩
    have inner := h v r hv result clean (smooth.hand (.nullable present))
    have none := not_none smooth.here (result.reads clean) present
    refine ⟨inner.given, inner.missing, fun t ht u alike hu mode path => ?_⟩
    cases ht with
    | leaf leaf => cases leaf
    | nullable inverts =>
      rw [alike.isNone] at none
      simp only [Schema.runWith, none, Bool.false_eq_true, if_false]
      exact inner.back _ inverts u alike hu mode path

/-! ## Nodes in a row -/

/-- What is clean in the end was clean before. -/
theorem clean_of_andThen {t : Parsed} {next : Datum → Run Parsed} {w w' : World}
    (h : t.andThen next w = .ok r w') (clean : r.isClean) :
    t.isClean ∧ next t.value w = .ok r w' := by
  unfold Parsed.andThen at h
  split at h
  · exact ⟨‹_›, h⟩
  · cases h
    exact absurd clean ‹_›

theorem Given.isInvalid {v : Datum} (h : v.Given False) : v.isInvalid = false := by
  rcases h with h | rfl
  · cases h <;> first | rfl | contradiction
  · rfl

theorem Returns.isClean (h : Parsed.Returns v r) : r.isClean :=
  Parsed.isClean_iff.2 ⟨Given.isInvalid h.given, h.issues⟩

/-- What returns is handed on. -/
theorem Returns.andThen {next : Nat → Datum → Run Parsed} {Q : Parsed → Prop}
    (h : Parsed.Returns v r) (hn : lib.plans.Attains (fun depth => next depth r.value) Q) :
    lib.plans.Attains (fun depth => r.andThen (next depth)) Q := by
  unfold Parsed.andThen
  simp only [Returns.isClean h, if_true]
  exact hn

theorem reversible_pipeline {t : Schema} (hs : lib.Reversible settings mode depth s)
    (ht : lib.Reversible settings mode depth t) :
    lib.Reversible settings mode depth (.pipeline s t) := by
  rintro v r hv ⟨path, w, w', hw, ran⟩ clean smooth
  obtain ⟨r₁, u₁, first, ran⟩ := Run.bind_ok.1 ran
  obtain ⟨clean₁, second⟩ := clean_of_andThen ran clean
  have result : lib.Results mode depth s v r₁ := ⟨path, w, u₁, hw, first⟩
  have hu₁ := runWith_faithful hw first
  have input := hs v r₁ hv result clean₁ (smooth.hand .input)
  have output := ht r₁.value r input.given ⟨path, u₁, w', hu₁, second⟩ clean
    (smooth.hand (.output (result.reads clean₁)))
  refine ⟨output.given, output.missing.trans input.missing, fun p hp u alike hu mode path => ?_⟩
  cases hp with
  | leaf leaf => cases leaf
  | pipeline hs' ht' =>
    refine .bind (output.back _ ht' u alike hu mode path) fun r' back => ?_
    exact Returns.andThen back (input.back _ hs' r'.value back.alike back.given mode path)

theorem reversible_refinement {action : Action Live} {elidable : Bool}
    (reliable : lib.host.Reliable action) (h : lib.Reversible settings mode depth s) :
    lib.Reversible settings mode depth (.effect .refinement action elidable s) := by
  rintro v r hv ⟨path, w, w', hw, ran⟩ clean smooth
  obtain ⟨t, u, ht, ran⟩ := Run.bind_ok.1 ran
  have clean' := clean_of_refined ran clean
  have inner := h v t hv ⟨path, w, u, hw, ht⟩ clean' (smooth.hand .effect)
  have valid := Given.isInvalid inner.given
  rw [if_neg (by simp [valid])] at ran
  obtain ⟨c, u', hc, ran⟩ := Run.bind_ok.1 ran
  cases ran
  -- The function has passed what the inner schema gave, and passes all that is like it.
  obtain ⟨y, issues, -, silent, acts⟩ := reliable.act inner.given path (ι := Unit)
  have checked := (acts (fun _ => lib.links mode depth) fun _ => links_host lib mode depth).unique
    (i := ()) hc
  have passes : lib.host.Passes action t.value path := by
    have none := (List.append_eq_nil_iff.1 (Parsed.issues_of_isClean clean)).2
    rw [checked] at none
    exact silent.1 none
  refine ⟨inner.given, inner.missing, fun p hp x alike hx mode path => ?_⟩
  cases hp with
  | leaf leaf => cases leaf
  | elided other => exact absurd rfl other
  | refinement inverts =>
    obtain ⟨y, issues, -, silent, acts⟩ := reliable.act hx path (ι := Nat)
    have none := silent.2 (reliable.passes inner.given hx alike passes)
    let gate : Schema := .effect .refinement action false .any
    have passed : lib.plans.Attains (fun depth => gate.runWith (lib.links mode depth) path x)
        (Parsed.Returns x) := by
      simp only [gate, Schema.runWith, pure_bind, Given.isInvalid hx, Bool.false_eq_true, if_false]
      refine .bind ((acts (lib.links mode ·) fun k => links_host lib mode k).attains rfl) ?_
      rintro _ rfl
      exact .pure ⟨none, .same x, hx⟩
    refine .bind passed fun r' back => ?_
    exact Returns.andThen back (inner.back _ inverts r'.value (alike.trans back.alike) back.given
      mode path)

/-! ## Two-way nodes -/

/-- What waits for identities gets them. -/
theorem numbered_attains (plans : Plans) (v : Datum) :
    plans.Attains (fun _ => v.numbered) v.numbered.Yields := by
  refine .of_ensures (fun w hw => ⟨(Value.numbered_ensures v v.keeps_all w hw).1,
    fun x hx => .of_result hx⟩) fun w f failed => ?_
  obtain ⟨x, w', given, -⟩ := Value.numbered_returns v w
  cases (Run.result_ok.2 ⟨w', given⟩).symm.trans failed

/-- What a reliable function maps a value to is what it gives, once this has its identities. -/
theorem Maps.numbers {fn : FunctionRef} {y : Datum} (reliable : lib.host.Reliable (.custom fn))
    (hx : x.Given False) (h : lib.Maps fn x y) :
    ∃ path o, (lib.host.effect fn x path).outcome = .ok o ∧ o.numbered.Yields y := by
  obtain ⟨mode, depth, path, w, r, w', ran, -, rfl⟩ := h
  obtain ⟨o, issues, given, -, acts⟩ := reliable.act hx path (ι := Unit)
  obtain ⟨c, u, hc, ran⟩ := Run.bind_ok.1 ran
  obtain ⟨z, u', hz, ran⟩ := Run.bind_ok.1 ran
  cases ran
  have same := (acts (fun _ => lib.links mode depth) fun _ => links_host lib mode depth).unique
    (i := ()) hc
  rw [same] at hz
  exact ⟨path, o, given, u, _, hz⟩

theorem Maps.genuine {fn : FunctionRef} {y : Datum} (reliable : lib.host.Reliable (.custom fn))
    (hx : x.Given False) (h : lib.Maps fn x y) : y.Genuine := by
  obtain ⟨path, o, given, w, w', numbered⟩ := h.numbers reliable hx
  obtain ⟨o', given', -, genuine⟩ := (reliable.replies x path hx).gives
  cases given.symm.trans given'
  exact (genuine _ _ _ numbered).1

/-- A reliable function that undoes a step takes what is like the result back to what is like the
start. -/
theorem Undoes.map_attains {fn : FunctionRef} {u y : Datum}
    (reliable : lib.host.Reliable (.custom fn)) (h : lib.Undoes fn y x) (hy : y.Given False)
    (hu : u.Given False) (alike : y.Alike u) (mode : Mode) (path : Path Live) :
    lib.plans.Attains (fun depth => (lib.links mode depth).map fn path u) (Parsed.Returns x) := by
  obtain ⟨o, issues, given, silent, acts⟩ := reliable.act hu path (ι := Nat)
  obtain ⟨o', given', -, genuine⟩ := (reliable.replies u path hu).gives
  cases given.symm.trans given'
  obtain ⟨reports, back⟩ := h path
  have same := reliable.alike y u path path hy hu alike
  have none : issues = [] := silent.2 ⟨same.reports.symm.trans reports, nofun⟩
  obtain ⟨p, began, -⟩ := (reliable.replies y path hy).gives
  have returned : x.Alike o := (back p began).trans (same.outcome p o began given)
  refine .bind ((acts (lib.links mode ·) fun k => links_host lib mode k).attains rfl) ?_
  rintro _ rfl
  refine .bind (numbered_attains _ o) fun z hz => .pure ?_
  obtain ⟨w, w', hz⟩ := hz
  exact ⟨none, returned.trans (genuine w z w' hz).2, .inl (genuine w z w' hz).1.natural⟩

theorem map_ensures (lib : Library) (mode : Mode) (depth : Nat) (fn : FunctionRef)
    (path : Path Live) (v : Datum) :
    lib.plans.Ensures ((lib.links mode depth).map fn path v) fun _ => True :=
  .bind (links_act lib mode depth _ path v) fun r _ =>
    .bind (Value.numbered_ensures r.value r.value.keeps_all) fun _ _ => .pure trivial

theorem reversible_invertible {t : Schema} {parse format : FunctionRef}
    (hp : lib.host.Reliable (.custom parse)) (hf : lib.host.Reliable (.custom format))
    (insists : ∀ x, ¬lib.Reads s .missing x) (hs : lib.Reversible settings mode depth s)
    (ht : lib.Reversible settings mode depth t) :
    lib.Reversible settings mode depth (.invertible s parse t format) := by
  rintro v r hv ⟨path, w, w', hw, ran⟩ clean smooth
  obtain ⟨r₁, u₁, first, ran⟩ := Run.bind_ok.1 ran
  obtain ⟨r₂, u₂, second, ran⟩ := Run.bind_ok.1 ran
  obtain ⟨clean₂, third⟩ := clean_of_andThen ran clean
  obtain ⟨clean₁, mapped⟩ := clean_of_andThen second clean₂
  have result : lib.Results mode depth s v r₁ := ⟨path, w, u₁, hw, first⟩
  have hu₁ := runWith_faithful hw first
  have input := hs v r₁ hv result clean₁ (smooth.hand .source)
  have maps : lib.Maps parse r₁.value r₂.value :=
    ⟨mode, depth, path, u₁, r₂, u₂, mapped, Parsed.issues_of_isClean clean₂, rfl⟩
  have genuine := maps.genuine hp input.given
  have hu₂ : lib.plans.Faithful u₂ := ((map_ensures lib mode depth parse path _).ok hu₁ mapped).1
  have output := ht r₂.value r (.inl genuine.natural) ⟨path, u₂, w', hu₂, third⟩ clean
    (smooth.hand (.target (result.reads clean₁) maps))
  have present : v.isMissing = false := by
    by_contra missing
    rw [Value.eq_missing (eq_true_of_ne_false missing)] at result
    exact insists _ (result.reads clean₁)
  refine ⟨output.given, ?_, fun p hp' u alike hu mode path => ?_⟩
  · rw [output.missing, present]
    exact genuine.natural.isMissing not_false
  cases hp' with
  | leaf leaf => cases leaf
  | invertible hs' ht' =>
    have undoes := smooth.here _ _ (result.reads clean₁) maps
    refine .bind (output.back _ ht' u alike hu mode path) fun r' back => ?_
    refine .bind (Returns.andThen back (undoes.map_attains hf (.inl genuine.natural) back.given
      back.alike mode path)) fun r'' back' => ?_
    exact Returns.andThen back' (input.back _ hs' r''.value back'.alike back'.given mode path)

/-! ## Read-only forms -/

theorem Given.frozen {plans : Plans} {v : Datum} (h : v.Given False) :
    plans.Ensures v.freeze.numbered fun x => x.Given False ∧ v.Alike x := by
  rcases h with h | rfl
  · exact h.frozen.weaken fun x hx => ⟨.inl hx.1, hx.2⟩
  · exact .pure ⟨.inr rfl, .same _⟩

theorem reversible_readonly (h : lib.Reversible settings mode depth s) :
    lib.Reversible settings mode depth (.readonly s) := by
  rintro v r hv ⟨path, w, w', hw, ran⟩ clean smooth
  obtain ⟨t, u, ht, ran⟩ := Run.bind_ok.1 ran
  have inner := h v t hv ⟨path, w, u, hw, ht⟩ (clean_of_readonly ran clean) (smooth.hand .readonly)
  obtain ⟨x, u', hx, ran⟩ := Run.bind_ok.1 ran
  cases ran
  obtain ⟨-, given, frozen⟩ := (Given.frozen inner.given).ok (runWith_faithful hw ht) hx
  refine ⟨given, frozen.isMissing.symm.trans inner.missing, fun p hp y alike hy mode path => ?_⟩
  cases hp with
  | leaf leaf => cases leaf
  | readonly inverts =>
    refine .bind (inner.back _ inverts y (frozen.trans alike) hy mode path) fun r' back => ?_
    refine .bind ((numbered_attains lib.plans r'.value.freeze).ensuring fun _ =>
      Given.frozen back.given) fun z hz => .pure ?_
    exact ⟨back.issues, back.alike.trans hz.2, hz.1⟩

/-! ## Lazy nodes -/

theorem reversible_lazy_zero {id : LazyId} {origin : Origin} :
    lib.Reversible settings mode 0 (.lazy id origin) := by
  rintro v r - ⟨path, w, w', -, ran⟩
  cases ran

theorem reversible_lazy {id : LazyId} {origin : Origin}
    (h : ∀ s, lib.plans.Gives id origin s → lib.Reversible settings mode depth s)
    (hf : ∀ s, lib.plans.Gives id origin s → ∀ id', lib.plans.Attains
      (fun depth => lib.plans.force depth id' (.inverse settings id origin))
      (lib.plans.Inverts settings s)) :
    lib.Reversible settings mode (depth + 1) (.lazy id origin) := by
  rintro v r hv ⟨path, w, w', hw, ran⟩ clean smooth
  obtain ⟨s, u, hs, ran⟩ := Run.bind_ok.1 ran
  obtain ⟨leads, gives⟩ := Plans.force_ok hw hs
  have inner := h s gives v r hv ⟨path, u, w', leads.faithful, ran⟩ clean
    (smooth.hand (.behind gives))
  refine ⟨inner.given, inner.missing, fun p hp x alike hx mode path => ?_⟩
  cases hp with
  | leaf leaf => cases leaf
  | @lazy _ id' =>
    refine .succ ?_
    refine .bind (k := fun depth t => t.runWith (lib.links mode depth) path x)
      (hf s gives id').later fun t ht => ?_
    exact inner.back t ht x alike hx mode path

/-! ## Unions -/

/-- Of a clean result of a union, the first option that did not decline is the origin. -/
theorem runOptions_taken {options : List Schema} {tried : List Parsed} {path : Path Live}
    {w w' : World} (hw : lib.plans.Faithful w) (declined : ∀ t ∈ tried, t.isClean = false)
    (h : runOptions (lib.links mode depth) options path v tried w = .ok r w') (clean : r.isClean) :
    ∃ before s after, options = before ++ s :: after ∧ (∀ t ∈ before, lib.Declines t v) ∧
      lib.Results mode depth s v r := by
  induction options generalizing tried w with
  | nil =>
    cases h
    unfold unionResult at clean
    split at clean
    · rename_i found
      exact absurd clean (by simp [declined _ (List.mem_of_find?_eq_some found)])
    · cases clean
  | cons s rest ih =>
    obtain ⟨t, u, ht, h⟩ := Run.bind_ok.1 h
    have result : lib.Results mode depth s v t := ⟨path, w, u, hw, ht⟩
    split at h
    · cases h
      exact ⟨[], s, rest, rfl, List.forall_mem_nil _, result⟩
    · rename_i other
      have first := eq_false_of_ne_true other
      have declined' : ∀ t' ∈ tried ++ [t], t'.isClean = false :=
        List.forall_mem_append.2 ⟨declined, List.forall_mem_singleton.2 first⟩
      obtain ⟨before, s', after, rfl, earlier, taken⟩ :=
        ih (runWith_faithful hw ht) declined' h
      exact ⟨s :: before, s', after, rfl, List.forall_mem_cons.2 ⟨result.declines first, earlier⟩,
        taken⟩

/-- A union gives back what an option gives back, if the options before it refuse. -/
theorem runOptions_attains {before after options' : List Schema} {u : Datum}
    (inverted : List.Forall₂ (lib.plans.Inverts settings) (before ++ s :: after) options')
    (refused : ∀ t ∈ before, ∀ t', lib.plans.Inverts settings t t' → lib.TurnsDown t' u)
    (back : ∀ t, lib.plans.Inverts settings s t → lib.ComesBack t u v) (mode : Mode)
    (path : Path Live) (tried : List Parsed) :
    lib.plans.Attains (fun depth => runOptions (lib.links mode depth) options' path u tried)
      (Parsed.Returns v) := by
  induction before generalizing options' tried with
  | nil =>
    cases inverted with
    | cons first _ =>
      refine .bind (back _ first mode path) fun t returned => ?_
      simp only [Returns.isClean returned, if_true]
      exact .pure returned
  | cons t before ih =>
    cases inverted with
    | cons first rest =>
      obtain ⟨refuses, refused⟩ := List.forall_mem_cons.1 refused
      refine .bind (refuses _ first mode path) fun t declined => ?_
      simp only [declined, Bool.false_eq_true, if_false]
      exact ih rest refused (tried ++ [t])

theorem reversible_union {options : List Schema}
    (h : ∀ s ∈ options, lib.Reversible settings mode depth s) :
    lib.Reversible settings mode depth (.union options) := by
  rintro v r hv ⟨path, w, w', hw, ran⟩ clean smooth
  obtain ⟨before, s, after, rfl, declined, taken⟩ :=
    runOptions_taken hw (List.forall_mem_nil _) ran clean
  have reads := taken.reads clean
  have inner := h s (by simp) v r hv taken clean (smooth.hand (.option rfl declined reads))
  refine ⟨inner.given, inner.missing, fun p hp u alike hu mode path => ?_⟩
  cases hp with
  | leaf leaf => cases leaf
  | union inverted =>
    refine runOptions_attains inverted (fun t ht t' inverts => ?_)
      (fun t ht => inner.back t ht u alike hu) mode path []
    exact smooth.here before s after _ rfl declined reads t ht t' inverts u alike hu

end Library
end TwoWay
