import TwoWay.Proofs.Inversion.Rekeying

/-!
# What is read comes back

Of a schema whose nodes go back (`Library.GoesBack`), the inverse can be made, and it gives back
every value that the schema reads smoothly (`Library.inverse_gives_back`): a value that is the
same but for the order of entries and for read-only forms. Lazy nodes may lead back to
each other.
-/

namespace TwoWay

/-- Leaves in which tags are written. -/
def Schema.isTag : Schema → Bool
  | .literal value => value.isDefinite
  | .enum values => values.all (·.isDefinite)
  | _ => false

section
variable {s : Schema}

theorem isDefinite_of_isTag (h : s.isTag) : s.isDefinite := by
  cases s <;> first | exact h | cases h

theorem isScalar_of_isDefinite {v : Datum} (h : v.isDefinite) : v.isScalar := by
  cases v <;> first | rfl | cases h

theorem tagStack_of_isTag {plans : Plans} (h : s.isTag) : plans.TagStack s := by
  cases s
  case literal => exact .literal (isScalar_of_isDefinite h)
  case enum values =>
    exact .enum fun v hv => isScalar_of_isDefinite (List.all_eq_true.1 h v hv)
  all_goals cases h

end

namespace Library

variable (lib : Library)

/-- Nodes that can go back, as far as this is up to the node. Intersections, functions, promises
and one-way mappings cannot. -/
def GoesBack : Schema → Prop
  | .literal value => value.isDefinite
  | .enum values => values.all (·.isDefinite)
  | .object shape _ _ => (shape.map (·.1)).Nodup
  | .record key _ | .map key _ => key.IsKey
  | .set element => element.IsKey
  | .tagged key options table => lib.plans.Tabulates key options table ∧
    ∀ shape catchall policy field, .object shape catchall policy ∈ options →
      Schema.field? shape key = some field → field.isTag
  | .effect kind action _ _ => kind = .refinement ∧ lib.host.Reliable action
  | .invertible input parse _ format => lib.host.Reliable (.custom parse) ∧
    lib.host.Reliable (.custom format) ∧ ∀ x, ¬lib.Reads input .missing x
  | .intersection .. | .function .. | .promise _ | .foreign _ | .raw _ => False
  | _ => True

/-- Schemas whose nodes go back, with all that stands in them and behind their lazy nodes. -/
structure Returning (schemas : Schema → Prop) : Prop where
  child : ∀ {s c}, schemas s → c ∈ s.children → schemas c
  behind : ∀ {id origin s}, schemas (.lazy id origin) → lib.plans.Gives id origin s → schemas s
  node : ∀ {s}, schemas s → lib.GoesBack s

variable {lib} {schemas : Schema → Prop} {settings : InversionSettings}

namespace Returning

variable (h : lib.Returning schemas)
include h

theorem isSchema {s : Schema} (hs : schemas s) : s.isSchema := by
  cases s <;> first | rfl | exact (h.node hs).elim

/-- What is inverted is a schema again. -/
theorem inverse_isSchema {s t : Schema} (hs : schemas s) (ht : lib.plans.Inverts settings s t) :
    t.isSchema := by
  induction s using Schema.child_induction generalizing t with
  | step s ih =>
    cases ht with
    | leaf => exact h.isSchema hs
    | elided other => exact absurd (h.node hs).1 other
    | @default c _ _ inner | @«catch» c _ _ inner | @branded c _ _ inner =>
      have child := List.mem_singleton_self c
      exact ih c child (h.child hs child) inner
    | _ => rfl

theorem distinct {shape : List (String × Schema)} {catchall : Option Schema}
    {policy : UnknownKeys} (hs : schemas (.object shape catchall policy)) :
    (shape.map (·.1)).Nodup := h.node hs

section
variable {key : String} {options : List Schema} {table : List (Datum × Nat)}
  (hs : schemas (.tagged key options table))
include hs

theorem routes : lib.plans.Routes key options table where
  made := (h.node hs).1
  distinct member := h.distinct (h.child hs member)
  fields member declared := tagStack_of_isTag ((h.node hs).2 _ _ _ _ member declared)

theorem tags : TagsWritten key options := fun member declared =>
  isDefinite_of_isTag ((h.node hs).2 _ _ _ _ member declared)

end

/-! ## Inverses are made -/

theorem covers (settings : InversionSettings) :
    (lib.plans.ending fun _ => False).Covers settings schemas id where
  child _ hs _ hc := h.child hs hc
  part _ _ hs ht := .inl (h.inverse_isSchema hs ht)
  elided _ _ _ _ hs := .inl (h.node hs).1
  unknown s hs unknown := by
    cases s <;> first | cases unknown; done | exact (h.node hs).elim
  union key options table hs options' inverted owner := by
    have routes := h.routes hs
    obtain ⟨owner', n, made⟩ := routes.made
    exact .bind (Plans.tagTable_ends inverted routes.fields made owner) fun _ _ => .pure trivial

/-- Making the inverse comes to an end. -/
theorem inverse_made {s : Schema} (hs : schemas s) (settings : InversionSettings)
    (owner : LazyId) : lib.plans.Attains
      (fun depth => (s.invertWith ⟨owner, lib.plans.tagsBehind depth⟩ settings).run' 0)
      (lib.plans.Inverts settings s) :=
  (Plans.Triple.inverting (h.covers settings) hs).run

/-- So does forcing the inverse of a lazy node. -/
theorem force_inverse {id : LazyId} {origin : Origin} {s : Schema}
    (hs : schemas (.lazy id origin)) (given : lib.plans.Gives id origin s)
    (settings : InversionSettings) (id' : LazyId) : lib.plans.Attains
      (fun depth => lib.plans.force depth id' (.inverse settings id origin))
      (lib.plans.Inverts settings s) := by
  refine Plans.force_ends (.bind given.force_ends fun _ same => ?_) fun t ht => ?_
  · subst same
    exact h.inverse_made (h.behind hs given) settings id'
  · obtain ⟨base, givenBase, inverts⟩ := ht.inverts
    exact given.unique givenBase ▸ inverts

/-! ## Inverses give back -/

/-- All schemas of the family are reversible, at any depth. -/
theorem reversible {mode : Mode} {depth : Nat} {s : Schema} (hs : schemas s) :
    lib.Reversible settings mode depth s := by
  induction depth using Nat.strongRecOn generalizing s with
  | ind depth deeper =>
  induction s using Schema.child_induction with
  | step s ih =>
    have node := h.node hs
    replace ih := fun c hc => ih c hc (h.child hs hc)
    cases s
    case lazy id origin =>
      -- What stands behind the node was parsed within less depth.
      cases depth with
      | zero => exact reversible_lazy_zero
      | succ depth =>
        refine reversible_lazy (fun s given => ?_) fun s given => h.force_inverse hs given settings
        exact deeper depth (Nat.lt_succ_self depth) (h.behind hs given)
    case tagged => exact reversible_tagged (h.routes hs) (h.tags hs) ih
    all_goals
      simp only [Schema.children, List.mem_append, List.mem_cons, List.mem_map,
        Option.mem_toList, List.not_mem_nil, or_false, forall_eq, or_imp, forall_and] at ih
    case any => exact reversible_any (.inl rfl)
    case unknown => exact reversible_any (.inr rfl)
    case string | number | boolean | none | never => exact reversible_definite rfl
    case literal | enum => exact reversible_definite node
    case array => exact reversible_array ih
    case object =>
      exact reversible_object node (fun f hf => ih.1 f.2 ⟨f, hf, rfl⟩) fun c hc => ih.2 c hc
    case union => exact reversible_union ih
    case tuple => exact reversible_tuple ih.1 ih.2
    case record => exact reversible_record node ih.1 ih.2
    case map => exact reversible_map node ih.1 ih.2
    case set => exact reversible_set node ih
    case effect =>
      obtain ⟨rfl, reliable⟩ := node
      exact reversible_refinement reliable ih
    case optional => exact reversible_optional ih
    case nullable => exact reversible_nullable ih
    case default => exact reversible_default ih
    case «catch» => exact reversible_catch ih
    case branded => exact reversible_branded ih
    case pipeline => exact reversible_pipeline ih.1 ih.2
    case invertible => exact reversible_invertible node.1 node.2.1 node.2.2 ih.1 ih.2
    case readonly => exact reversible_readonly ih
    all_goals exact node.elim

/-- What a schema hands a value to is in the family as well. -/
theorem hand {s c : Schema} {v x : Datum} (hs : schemas s) (hands : lib.Hands s v c x) :
    schemas c := by
  cases hands with
  | behind given => exact h.behind hs given
  | option same => exact h.child hs (by simp [same, Schema.children])
  | tagged _ _ chosen | item _ chosen =>
    refine h.child hs ?_
    simp [Schema.children, List.mem_of_getElem? chosen]
  | field _ declared =>
    exact h.child hs (List.mem_append_left _ (List.mem_map.2 ⟨_, declared, rfl⟩))
  | _ => exact h.child hs (by simp [Schema.children])

/-- A family whose nodes spare all values is smooth. -/
theorem smooth (spared : ∀ s v, schemas s → lib.Spares settings s v) {s : Schema} (hs : schemas s)
    (v : Datum) : lib.Smooth settings s v :=
  Smooth.of_closed (P := fun s _ => schemas s) (fun hs hands => h.hand hs hands)
    (fun hs => spared _ _ hs) hs

end Returning

/-- A parse comes to an end with what a clean result holds. -/
theorem parse_attains {t : Schema} {x : Datum} {Q : Datum → Prop} (ht : t.isSchema) (mode : Mode)
    (h : lib.plans.Attains (fun depth => t.runWith (lib.links mode depth) [] x)
      fun r => r.isClean ∧ Q r.value) :
    lib.plans.Attains (fun depth => lib.parse mode depth t x) Q := by
  have same : (fun depth => lib.parse mode depth t x) =
      fun depth => t.runWith (lib.links mode depth) [] x >>= fun r => Run.lift r.finish := by
    funext depth w
    exact parse_of_isSchema ht mode depth x w
  rw [same]
  refine .bind h fun r ⟨clean, hq⟩ => ?_
  obtain ⟨valid, silent⟩ := Parsed.isClean_iff.1 clean
  rw [Parsed.finish_ok.2 ⟨silent, valid, rfl⟩]
  exact .pure hq

/-- Let the nodes of a schema go back: its leaves read values that can be told apart, its functions
are reliable, keys are read by leaves or by two-way nodes between leaves, the input of a two-way
node insists on a value, and there are no intersections, functions, promises and one-way mappings.
Then the inverse can be made. If the schema reads a value as another one, and the value is spared
whatever the inverse needs wherever it meets a node, the inverse reads the other one, in every
mode and from every world, as a value that is like the first. -/
theorem inverse_gives_back (h : lib.Returning schemas) {s : Schema} (hs : schemas s)
    (settings : InversionSettings) (step : Nat) {mode : Mode} {depth : Nat} {v x : Datum}
    {w w' : World} (genuine : v.Genuine) (smooth : lib.Smooth settings s v)
    (hw : lib.plans.Faithful w) (read : lib.parse mode depth s v w = .ok x w') :
    lib.plans.Ends (fun _ => False) (fun depth => lib.invert depth step settings s) fun t =>
      ∀ mode, lib.plans.Ends (fun _ => False) (fun depth => lib.parse mode depth t x)
        (v.Alike ·) := by
  obtain ⟨r, ran, clean, rfl⟩ := (parse_clean (h.isSchema hs)).1 read
  have retrieved := h.reversible hs v r (.inl genuine.natural) ⟨[], w, w', hw, ran⟩ clean smooth
  refine Plans.Ends.weaken (h.inverse_made hs settings (.step step)) fun t inverts mode => ?_
  refine parse_attains (h.inverse_isSchema hs inverts) mode ?_
  refine (retrieved.back t inverts r.value (.same _) retrieved.given mode []).weaken ?_
  exact fun r back => ⟨Returns.isClean back, back.alike⟩

end Library

/-! Accounts are written with the opposite sign, and so are those that they are parts of. -/

namespace Ledger

def account : FunctionRef := ⟨0, "account"⟩

def negate : FunctionRef := ⟨1, "negate"⟩

def negated : Datum → Datum
  | .int i => .int (-i)
  | .float (.finite negative significand exponent) =>
    .float (.finite (!negative) significand exponent)
  | _ => .none

def library : Library where
  host := {
    effect := fun _ v _ => ⟨[], .ok (negated v)⟩
    check := fun _ _ => ⟨[], .ok (.bool true)⟩
    supply := fun _ => ⟨[], .ok .none⟩
    rescue := fun _ _ => ⟨[], .ok .none⟩
    call := fun _ _ => ⟨[], .ok .none⟩
    isAsync := fun _ => false }
  plans := {
    getter := fun _ => { schema := .shared "account" }
    definition := fun _ => .object [
      ("balance", .invertible (.number {}) (some negate) (.number {}) (some negate)),
      ("note", .call .string .optional),
      ("parts", .call (.array (.lazy account)) .readonly)] none (some "strict") }

def number : Schema := .number {} false

def balance : Schema := .invertible number negate number negate

def note : Schema := .optional (.string {} none)

def part : Schema := .lazy (.within (.shared "account") 0) (.getter account)

def ledger : Schema := .object [("balance", balance), ("note", note),
  ("parts", .readonly (.array part {}))] none .strict

theorem gives (id : LazyId) : library.plans.Gives id (.getter account) ledger := ⟨2, rfl⟩

def nodes : List Schema := [ledger, balance, number, note, .string {} none,
  .readonly (.array part {}), .array part {}, part]

theorem negated_genuine (v : Datum) : (negated v).Genuine ∧
    (∀ w, (negated v).numbered w = .ok (negated v) w) ∧ ∀ x, negated v ≠ .live x := by
  rcases v with _ | _ | _ | (_ | _ | _) | _ | _ | _ | _ | _ | _ | _ | _ | _ <;>
    first | exact ⟨.none, fun _ => rfl, nofun⟩ | exact ⟨.int _, fun _ => rfl, nofun⟩ |
      exact ⟨.float rfl, fun _ => rfl, nofun⟩

theorem reliable : library.host.Reliable (.custom negate) where
  plain := rfl
  replies v path _ := by
    obtain ⟨genuine, numbered, plain⟩ := negated_genuine v
    refine ⟨List.not_mem_nil, negated v, rfl, fun x same => absurd same (plain x), ?_⟩
    intro w x w' h
    cases (numbered w).symm.trans h
    exact ⟨genuine, .same _⟩
  alike v u path path' _ _ alike := by
    refine ⟨?_, rfl⟩
    rintro _ _ ⟨⟩ ⟨⟩
    cases alike <;> exact .same _

theorem parts_listed : ∀ s ∈ nodes, ∀ c ∈ s.children, c ∈ nodes := by
  simp [nodes, ledger, balance, number, note, part, Schema.children]

theorem returning : library.Returning (· ∈ nodes) where
  child hs hc := parts_listed _ hs _ hc
  behind {id origin s} hs given := by
    have same : origin = .getter account := by
      simp [nodes, ledger, balance, number, note, part] at hs
      exact hs.2
    subst same
    exact given.unique (gives id) ▸ List.mem_cons_self
  node := by
    have insists (x : Datum) : ¬library.Reads number .missing x := by
      rintro ⟨mode, depth, r, ⟨path, w, w', -, ran⟩, clean, -⟩
      cases ran
      cases clean
    have all : ∀ s ∈ nodes, library.GoesBack s := by
      simp [nodes, ledger, balance, note, part, Library.GoesBack, reliable, insists]
      simp [number]
    exact fun {s} hs => all s hs

/-- A number that has its sign changed twice is the number again. -/
theorem negates_back {v x y : Datum} (h : library.Reads number v x)
    (maps : library.Maps negate x y) : library.Undoes negate y x := by
  obtain ⟨mode, depth, r, ⟨path, w, w', -, ran⟩, clean, rfl⟩ := h
  have readable : isReadableNumber v := by
    by_contra other
    simp only [number, Schema.runWith, parseNumber, eq_false_of_ne_true other, Bool.not_false,
      if_true] at ran
    cases ran
    cases clean
  obtain ⟨definite, same, -⟩ := definite_reads (s := number) rfl ran clean
  rw [same] at maps ⊢
  obtain ⟨path', o, ⟨⟩, u, u', numbered⟩ :=
    maps.numbers reliable (.inl (Value.IsDefinite.natural definite))
  cases ((negated_genuine v).2.1 u).symm.trans numbered
  refine fun path => ⟨rfl, ?_⟩
  rintro _ ⟨⟩
  rcases v with _ | _ | _ | (_ | _ | _) | _ | _ | _ | _ | _ | _ | _ | _ | _ <;>
    first | cases readable; done | skip
  · simp only [negated, Int.neg_neg]
    exact .same _
  · simp only [negated, Bool.not_not]
    exact .same _

/-- A note that is read as `none` would have to be `none`. -/
theorem spared (s : Schema) (v : Datum) (hs : s ∈ nodes) : library.Spares {} s v := by
  have back (x y : Datum) (h : library.Reads number v x) (maps : library.Maps negate x y) :
      library.Undoes negate y x := negates_back h maps
  have texts (x : Datum) (h : library.Reads (.string {} none) v x) (none : x.isNone) :
      v.isNone := by
    obtain ⟨mode, depth, r, result, clean, rfl⟩ := h
    exact Library.key_handed rfl result clean ▸ none
  simp only [nodes, List.mem_cons, List.not_mem_nil, or_false] at hs
  rcases hs with rfl | rfl | rfl | rfl | rfl | rfl | rfl | rfl
  all_goals first | exact back | exact texts | exact trivial

def input : Datum := .dict .free [
  (.str "parts", .list .free [
    .dict .free [(.str "balance", .int (-2)), (.str "parts", .list .free [])]]),
  (.str "note", .str "dues"), (.str "balance", .int 3)]

def output : Datum := .dict .free [
  (.str "balance", .int (-3)), (.str "note", .str "dues"),
  (.str "parts", .list (.readOnly (.made 1)) [
    .dict .free [(.str "balance", .int 2), (.str "parts", .list (.readOnly (.made 0)) [])]])]

theorem input_genuine : input.Genuine := by
  have inner : (Value.dict .free
      [(.str "balance", .int (-2)), (.str "parts", .list .free [])] : Datum).Genuine := by
    refine .dict rfl (.ofTexts (show ["balance", "parts"].Nodup by decide))
      (by simp [Value.Genuine.str]) ?_
    simpa [Value.Genuine.int] using Value.Genuine.list rfl (List.forall_mem_nil _)
  refine .dict rfl (.ofTexts (show ["parts", "note", "balance"].Nodup by decide))
    (by simp [Value.Genuine.str]) ?_
  simpa [Value.Genuine.int, Value.Genuine.str] using
    Value.Genuine.list rfl (List.forall_mem_singleton.2 inner)

/-- An account with a part is written with the opposite signs, and read again as it was. -/
theorem account_comes_back :
    library.Returning (· ∈ nodes) ∧ ledger ∈ nodes ∧ input.Genuine ∧
    library.Smooth {} ledger input ∧
    (∃ w, library.parse .sync 5 ledger input {} = .ok output w) ∧
    library.plans.Ends (fun _ => False) (fun depth => library.invert depth 1 {} ledger) fun t =>
      ∀ mode, library.plans.Ends (fun _ => False) (fun depth => library.parse mode depth t output)
        (input.Alike ·) := by
  have listed : ledger ∈ nodes := List.mem_cons_self
  have smooth : library.Smooth {} ledger input := returning.smooth spared listed input
  have read : ∃ w, library.parse .sync 5 ledger input {} = .ok output w := ⟨_, rfl⟩
  refine ⟨returning, listed, input_genuine, smooth, read, ?_⟩
  obtain ⟨w, read⟩ := read
  exact Library.inverse_gives_back returning listed {} 1 input_genuine smooth .empty read

end Ledger
end TwoWay
