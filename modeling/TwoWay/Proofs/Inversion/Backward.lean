import TwoWay.Proofs.Inversion.Lossless
import TwoWay.Proofs.Parse.Conduct

/-!
# What inverses run

A parse with an inverse runs the formats and the refinements of the schema, its getters, and
what these hand over to be awaited. Nothing else of the schema is ever called, and so it does
not matter what it would do: two hosts that agree on the formats and the refinements cannot be
told apart by a parse with the inverse (`Library.parse_confined`). Lazy nodes are included,
which are inverted while the parse runs.
-/

namespace TwoWay

namespace Schema

variable {s : Schema}

theorem supplies_nothing (h : s.isOneWay = false) : s.supplied = [] := by
  cases s <;> first | rfl | cases h

theorem runs_nothing (h : s.isOneWay = false) : s.ungated? = Option.none := by
  cases s <;> first | rfl | cases h

end Schema

namespace Plans

variable (plans : Plans)

/-- What stands in a schema or behind its lazy nodes. -/
inductive Within (s : Schema) : Schema → Prop
  | self : Within s s
  | child {u c : Schema} (h : Within s u) (hc : c ∈ u.children) : Within s c
  | behind {id : LazyId} {origin : Origin} {u : Schema} (h : Within s (.lazy id origin))
    (hg : plans.Gives id origin u) : Within s u

/-- The effects of a schema that its inverse runs. -/
inductive Reverts (s : Schema) : Action Live → Prop
  | format {input output : Schema} {parse format : FunctionRef}
    (h : plans.Within s (.invertible input parse output format)) : Reverts s (.custom format)
  | refinement {action : Action Live} {elidable : Bool} {inner : Schema}
    (h : plans.Within s (.effect .refinement action elidable inner)) : Reverts s action

/-- What stands in the inverse of a schema or behind its lazy nodes. -/
inductive Reversal (settings : InversionSettings) (s : Schema) : Schema → Prop
  | inverse {u t : Schema} (hu : plans.Within s u) (h : plans.Inverts settings u t) :
    Reversal settings s t
  | gate {action : Action Live} {elidable : Bool} {inner : Schema}
    (h : plans.Within s (.effect .refinement action elidable inner)) :
    Reversal settings s (.effect .refinement action false .any)
  | any : Reversal settings s .any

variable {plans} {settings : InversionSettings} {s t u : Schema}

/-- What inversion drops can be passed over. -/
theorem Inverts.source (h : plans.Inverts settings u t) (hu : plans.Within s u) :
    ∃ b, plans.Within s b ∧ plans.Inverts settings b t ∧
      (b.isOneWay = false ∨ ∃ first second, t = .pipeline first second) := by
  induction u using Schema.child_induction generalizing t with
  | step u ih =>
    cases h
    case elided inner | default inner | «catch» inner | branded inner =>
      exact ih _ (by simp [Schema.children]) inner (hu.child (by simp [Schema.children]))
    case refinement inner => exact ⟨_, hu, .refinement inner, .inr ⟨_, _, rfl⟩⟩
    case leaf leaf => exact ⟨_, hu, .leaf leaf, .inl (Schema.leaf_alone leaf).1⟩
    all_goals exact ⟨_, hu, by constructor <;> assumption, .inl rfl⟩

/-- An invertible node of an inverse maps by a format. -/
theorem Inverts.reverts {input output : Schema} {parse format : FunctionRef}
    (h : plans.Inverts settings u (.invertible input parse output format))
    (hu : plans.Within s u) : plans.Reverts s (.custom parse) := by
  obtain ⟨b, hb, h, node⟩ := h.source hu
  have node := node.resolve_right nofun
  cases h
  case invertible => exact .format hb
  case leaf leaf => cases leaf
  all_goals cases node

theorem Inverts.part (h : plans.Inverts settings u t) (hu : plans.Within s u) {c : Schema}
    (hc : c ∈ t.children) : plans.Reversal settings s c := by
  induction u using Schema.child_induction generalizing t with
  | step u ih =>
    rcases h.form with ⟨-, parts⟩ | ⟨action, elidable, b, c', rfl, inner, rfl⟩ | ⟨b, hb, inner⟩
    · obtain ⟨b, hb, related⟩ := parts c hc
      exact .inverse (hu.child hb) related
    · simp only [Schema.children, List.mem_cons, List.not_mem_nil, or_false] at hc
      rcases hc with rfl | rfl
      · exact .gate hu
      · exact .inverse (hu.child (List.mem_singleton_self _)) inner
    · exact ih b hb inner (hu.child hb) hc

namespace Reversal

/-- What the inverse of a schema consists of is closed under parts, and nothing in it supplies a
value. -/
theorem closed (sentinels : Prop) (effects : FunctionRef → Prop) :
    Allowance.Closed ⟨sentinels, effects, plans.Reversal settings s⟩ plans where
  child hs hc := by
    cases hs with
    | inverse hu h => exact h.part hu hc
    | gate => exact List.mem_singleton.1 hc ▸ .any
    | any => cases hc
  behind {id origin v} hs hg := by
    cases hs with
    | inverse hu h =>
      obtain ⟨b, hb, h, node⟩ := h.source hu
      have node := node.resolve_right nofun
      cases h
      case lazy =>
        obtain ⟨b', hg', related⟩ := Gives.inverts hg
        exact .inverse (hb.behind hg') related
      case leaf leaf => cases leaf
      all_goals cases node
  supplied {t v} hs hv := by
    cases hs with
    | inverse _ h =>
      cases h.reversed with
      | refined => cases hv
      | node node => exact absurd hv (by simp [Schema.supplies_nothing node])
    | gate | any => cases hv

theorem of_ungated (h : plans.Reversal settings s t) {action : Action Live}
    (ht : t.ungated? = some action) : plans.Reverts s action := by
  cases h with
  | inverse _ h =>
    cases h.reversed with
    | refined => cases ht
    | node node =>
      exact absurd ht (by simp only [Schema.runs_nothing node, reduceCtorEq, not_false_eq_true])
  | gate h =>
    cases ht
    exact .refinement h
  | any => cases ht

theorem of_mapping (h : plans.Reversal settings s t) {wrapped : Schema} {action : Action Live}
    (ht : t.mapping? = some (wrapped, action)) : plans.Reverts s action := by
  cases h with
  | inverse hu h =>
    cases t
    case invertible =>
      cases ht
      exact h.reverts hu
    case effect =>
      cases h.reversed with
      | node node => cases node
    all_goals cases ht
  | gate | any => cases ht

theorem not_default {inner : Schema} {supply : Supply Live} :
    ¬plans.Reversal settings s (.default inner supply)
  | .inverse _ h => by cases h.reversed with | node node => cases node

theorem not_catch {inner : Schema} {supply : Supply Live} :
    ¬plans.Reversal settings s (.catch inner supply)
  | .inverse _ h => by cases h.reversed with | node node => cases node

end Reversal

/-! ## Calls -/

/-- What happens during a quiet run calls getters only. -/
theorem quiet_calls {α : Type} {m : Run α} (h : m.Quiet) (called : FunctionRef → Prop) (w : World) :
    ∃ new, (m.final w).journal = new ++ w.journal ∧
      ∀ fn args, .called fn args ∈ new → args = [] ∨ called fn := by
  obtain ⟨new, journal, quiet⟩ := h w
  refine ⟨new, journal, fun fn args hmem => .inl ?_⟩
  simpa [Event.isQuiet] using quiet _ hmem

/-- Runs that are the same for all hosts of a family and call only certain functions, getters
aside. -/
def confined (plans : Plans) (ι : Type) (called : FunctionRef → Prop) : Discipline plans ι where
  Holds m := ∀ i w, plans.Faithful w → (∀ j, m j w = m i w) ∧
    ∃ new, ((m i).final w).journal = new ++ w.journal ∧
      ∀ fn args, .called fn args ∈ new → args = [] ∨ called fn
  blind h _ w _ := ⟨fun _ => rfl, quiet_calls h.adds called w⟩
  idle h _ w _ := ⟨fun _ => rfl, quiet_calls (.record (Event.isQuiet_of_isIdle h)) called w⟩
  bind {α β m k Q} hm he hk i w hw := by
    obtain ⟨same, new, journal, calls⟩ := hm i w hw
    obtain ⟨hfinal, hresult⟩ := he i w hw
    rw [Run.final_bind]
    simp only [Bind.bind, EStateM.bind, same]
    cases hr : m i w with
    | error f u =>
      rw [Run.final, hr] at journal
      refine ⟨fun _ => rfl, new, ?_, calls⟩
      rwa [Run.result, Run.final, hr]
    | ok a u =>
      rw [Run.final, hr] at journal hfinal
      obtain ⟨same', new', journal', calls'⟩ := hk a (hresult a (by rw [Run.result, hr])) i u hfinal
      refine ⟨same', new' ++ new, ?_, fun fn args hmem => ?_⟩
      · rw [Run.result, Run.final, hr]
        exact journal'.trans (by rw [journal, List.append_assoc])
      · exact (List.mem_append.1 hmem).elim (calls' fn args) (calls fn args)

end Plans

/-- Hosts that cannot be told apart by certain effects and by awaiting the calls of certain
functions. -/
structure Host.Agrees (runs : Action Live → Prop) (handed : FunctionRef → Prop)
    (host host' : Host) : Prop where
  isAsync : host'.isAsync = host.isAsync
  call : host'.call = host.call
  reply : ∀ action, runs action → ∀ v path, host'.reply action v path = host.reply action v path
  resumed : ∀ fn, handed fn → ∀ v path, host'.effect fn v path = host.effect fn v path

theorem Host.Agrees.refl (runs : Action Live → Prop) (handed : FunctionRef → Prop)
    (host : Host) : host.Agrees runs handed host :=
  ⟨rfl, rfl, fun _ _ _ _ => rfl, fun _ _ _ _ => rfl⟩

/-- Awaiting what the functions of certain effects give at once calls only functions whose
awaitables are allowed in values. -/
def Host.HandsOver (runs : Action Live → Prop) (a : Allowance) (host : Host) : Prop :=
  ∀ action, runs action → host.isAsync action.function = false → ∀ v path x, v.KeepsOr a True →
    (host.reply action v path).outcome = .ok (.live x) → ∀ fn args, x.Starts fn args → a.effects fn

namespace Library

variable {plans : Plans} {settings : InversionSettings} {s t : Schema} {ι : Type} {host : Host}
  {hosts : ι → Host} {handed : FunctionRef → Prop} {mode : Mode}

/-- What a parse with an inverse may find in values. -/
def reverting (plans : Plans) (settings : InversionSettings) (s : Schema)
    (handed : FunctionRef → Prop) : Allowance :=
  ⟨True, handed, plans.Reversal settings s⟩

/-- The functions that a parse with an inverse calls. -/
def MayCall (plans : Plans) (s : Schema) (handed : FunctionRef → Prop) (fn : FunctionRef) : Prop :=
  handed fn ∨ ∃ action, plans.Reverts s action ∧ action.function = fn

theorem called_confined {fn : FunctionRef} (h : MayCall plans s handed fn) (args : List Datum) :
    (plans.confined ι (MayCall plans s handed)).Obeys (fun _ => Run.record (.called fn args))
      fun _ => True := by
  refine ⟨fun i w _ => ⟨fun _ => rfl, [.called fn args], rfl, fun fn' args' hmem => ?_⟩,
    fun _ => .record _⟩
  cases List.mem_singleton.1 hmem
  exact .inr h

theorem suspend_confined (depth : Nat) :
    (plans.confined ι (MayCall plans s handed)).Holds fun i =>
      ((Library.mk (hosts i) plans).channel mode depth).links.suspend := by
  simp only [Links.suspend, links_mode]
  cases mode with
  | sync => exact Discipline.blind _ (.throw _)
  | async =>
    refine fun i w _ => ⟨fun _ => rfl, [.suspended], rfl, fun fn args hmem => ?_⟩
    cases List.mem_singleton.1 hmem

/-- Awaiting what hands over certain functions only is confined to what may be called. -/
def AwaitConfined (plans : Plans) (settings : InversionSettings) (s : Schema)
    (handed : FunctionRef → Prop) (host : Host) (ch : ι → Channel) : Prop :=
  ∀ path absent x, Live.Answers (reverting plans settings s handed) host path absent x →
    (∀ fn args, x.Starts fn args → handed fn) →
    (plans.confined ι (MayCall plans s handed)).Obeys (fun i => (ch i).links.await x)
      fun _ => True

variable (hh : host.Keeps (reverting plans settings s handed))
  (hgive : host.HandsOver (plans.Reverts s) (reverting plans settings s handed))
  (hhs : ∀ i, (hosts i).Keeps (reverting plans settings s handed))
  (agree : ∀ i, host.Agrees (plans.Reverts s) handed (hosts i))
include hh hgive agree

/-- What is run backward is confined to what may be called, once waiting is. -/
theorem act_confined {depth : Nat} (awaiting : AwaitConfined plans settings s handed host
      fun i => (Library.mk (hosts i) plans).channel mode depth)
    {action : Action Live} (ha : plans.Reverts s action) (path : Path Live) {v : Datum}
    (hv : v.KeepsOr (reverting plans settings s handed) True) :
    (plans.confined ι (MayCall plans s handed)).Obeys
      (fun i => ((Library.mk (hosts i) plans).channel mode depth).links.act action path v)
      fun _ => True := by
  obtain ⟨absent, outcome⟩ := hh.reply action path hv
  simp only [Links.act_eq, channel_host, (agree _).reply action ha]
  refine (called_confined (.inr ⟨action, ha, rfl⟩) _).bind fun _ _ => ?_
  refine .give (Links.finishCall_obeys (suspend_confined depth) (fun i => ?_) outcome
    fun x hx plain _ y hy starts => ?_) _ fun _ _ => trivial
  · rw [channel_host]
    exact (agree i).isAsync
  · exact awaiting path absent y hy fun fn args h =>
      hgive action ha plain v path x hv hx fn args (starts fn args h)

include hhs

/-- Channels are confined to what may be called, once waiting and lazy nodes are. -/
theorem obey_confined {depth : Nat} (awaiting : AwaitConfined plans settings s handed host
      fun i => (Library.mk (hosts i) plans).channel mode depth)
    (enter : ∀ id origin path v, plans.Reversal settings s (.lazy id origin) →
      v.KeepsOr (reverting plans settings s handed) True →
      (plans.confined ι (MayCall plans s handed)).Holds fun i =>
        ((Library.mk (hosts i) plans).channel mode depth).links.enter id origin path v) :
    Channel.Obey (plans.confined ι (MayCall plans s handed)) (reverting plans settings s handed)
      fun i => (Library.mk (hosts i) plans).channel mode depth where
  toCalls := .of_act fun hs ha path _ hv =>
    act_confined hh hgive agree awaiting
      (ha.elim hs.of_ungated fun ⟨_, hm⟩ => hs.of_mapping hm) path hv
  follows i := (Library.mk (hosts i) plans).channel_follows (Plans.Reversal.closed True handed)
    (hhs i) mode depth
  factory hs := absurd hs Plans.Reversal.not_default
  rescue hs := absurd hs Plans.Reversal.not_catch
  enter := enter

/-- The channels of all the hosts are confined to what may be called, at every depth. -/
theorem channels_confined (depth : Nat) :
    AwaitConfined plans settings s handed host
      (fun i => (Library.mk (hosts i) plans).channel mode depth) ∧
    Channel.Obey (plans.confined ι (MayCall plans s handed)) (reverting plans settings s handed)
      fun i => (Library.mk (hosts i) plans).channel mode depth := by
  have closed : (reverting plans settings s handed).Closed plans :=
    Plans.Reversal.closed True handed
  have serves : (plans.confined ι (MayCall plans s handed)).Serves
      (reverting plans settings s handed) :=
    .of_quiet fun h _ w _ => ⟨fun _ => rfl, Plans.quiet_calls h _ w⟩
  induction depth with
  | zero =>
    have awaiting : AwaitConfined plans settings s handed host
        fun i => (Library.mk (hosts i) plans).channel mode 0 := fun _ _ _ _ _ => .throw _
    exact ⟨awaiting, obey_confined hh hgive hhs agree awaiting
      fun _ _ _ _ _ _ => Discipline.blind _ (.throw _)⟩
  | succ depth ih =>
    have parses u (hu : plans.Reversal settings s u) :
        u.Parses (plans.confined ι (MayCall plans s handed)) (reverting plans settings s handed)
          fun i => (Library.mk (hosts i) plans).channel mode depth := Schema.parses closed ih.2 hu
    have awaiting : AwaitConfined plans settings s handed host
        fun i => (Library.mk (hosts i) plans).channel mode (depth + 1) :=
      fun path absent x hx starts => await_obeys closed hhs (fun i => (agree i).isAsync)
        (fun i => (agree i).call) (suspend_confined depth) parses hx
        (fun fn args h => (called_confined (.inl (starts fn args h)) args).holds)
        fun fn v h i place => (agree i).resumed fn (starts fn [v] h) v place
    exact ⟨awaiting, obey_confined hh hgive hhs agree awaiting (enter_obeys closed serves parses)⟩

omit hh hgive hhs agree

/-- A parse with the inverse of a schema calls the formats and the refinements of the schema,
what these hand over, and getters. Hosts that agree on these cannot be told apart. -/
theorem parse_confined {lib : Library} (ht : lib.plans.Inverts settings s t)
    (hh : lib.host.Keeps (reverting lib.plans settings s handed))
    (hgive : lib.host.HandsOver (lib.plans.Reverts s) (reverting lib.plans settings s handed))
    (mode : Mode) (depth : Nat) {v : Datum}
    (hv : v.Keeps (reverting lib.plans settings s handed)) {w : World}
    (hw : lib.plans.Faithful w) :
    (∃ new, ((lib.parse mode depth t v).final w).journal = new ++ w.journal ∧
      ∀ fn args, .called fn args ∈ new → args = [] ∨ MayCall lib.plans s handed fn) ∧
    ∀ host, host.Keeps (reverting lib.plans settings s handed) →
      lib.host.Agrees (lib.plans.Reverts s) handed host →
      Library.parse ⟨host, lib.plans⟩ mode depth t v w = lib.parse mode depth t v w := by
  -- The family of the hosts that agree.
  let Agreeing := { host : Host // host.Keeps (reverting lib.plans settings s handed) ∧
    lib.host.Agrees (lib.plans.Reverts s) handed host }
  let itself : Agreeing := ⟨lib.host, hh, .refl ..⟩
  have obeyed : Channel.Obey (lib.plans.confined Agreeing (MayCall lib.plans s handed))
      (reverting lib.plans settings s handed)
      fun i : Agreeing => (Library.mk i.1 lib.plans).channel mode depth :=
    (channels_confined hh hgive (fun i => i.2.1) (fun i => i.2.2) depth).2
  have parsed := Schema.parses (Plans.Reversal.closed True handed) obeyed (.inverse .self ht)
  have whole : (lib.plans.confined Agreeing (MayCall lib.plans s handed)).Obeys
      (fun i => Library.parse ⟨i.1, lib.plans⟩ mode depth t v) fun _ => True :=
    (parse_obeys parsed hv).plain
  obtain ⟨same, calls⟩ := whole.holds itself w hw
  exact ⟨calls, fun host keeps agrees => same ⟨host, keeps, agrees⟩⟩

/-- The inverse of a schema has the shape of inverses. Inverting it again meets no effect that
may not be dropped and drops none, whatever the settings, as long as looking behind the lazy
nodes in tag fields of discriminated unions does not. A parse with it calls the formats and the
refinements of the schema, what these hand over, and getters; it does not matter what any
other function would do. -/
theorem invert_backward {lib : Library} {depth step : Nat} {settings : InversionSettings}
    {s t : Schema} {w w' : World} (hw : lib.plans.Faithful w)
    (h : lib.invert depth step settings s w = .ok t w') :
    t.Reversed ∧
    (∀ depth step settings u, lib.plans.Faithful u →
      (∀ id origin, t.TagLazy id origin → ∀ id', lib.plans.Lossless
        (lib.plans.tagsBehind depth id' (.inverse settings id origin)) fun _ => True) →
      (∀ kind, (lib.invert depth step settings t).result u ≠ .error (.oneWay kind)) ∧
      ∃ new, ((lib.invert depth step settings t).final u).journal = new ++ u.journal ∧
        ∀ kind, .logged (.effectElided kind) ∉ new) ∧
    (∀ handed, lib.host.Keeps (reverting lib.plans settings s handed) →
      lib.host.HandsOver (lib.plans.Reverts s) (reverting lib.plans settings s handed) →
      ∀ mode depth v u, v.Keeps (reverting lib.plans settings s handed) → lib.plans.Faithful u →
      (∃ new, ((lib.parse mode depth t v).final u).journal = new ++ u.journal ∧
        ∀ fn args, .called fn args ∈ new → args = [] ∨ MayCall lib.plans s handed fn) ∧
      ∀ host, host.Keeps (reverting lib.plans settings s handed) →
        lib.host.Agrees (lib.plans.Reverts s) handed host →
        Library.parse ⟨host, lib.plans⟩ mode depth t v u = lib.parse mode depth t v u) := by
  have inverts := invert_inverts hw h
  refine ⟨inverts.reversed, fun depth step settings u hu behind => ?_,
    fun handed hh hgive mode depth v u hv hu => parse_confined inverts hh hgive mode depth hv hu⟩
  have lossless : lib.plans.Lossless (lib.invert depth step settings t) fun _ => True :=
    .bind (Plans.reversed_lossless inverts.reversed behind 0) fun _ _ => .pure trivial
  exact ⟨lossless.passes u hu, lossless.silent u hu⟩

end Library

/-! A choice between a text that can be read and an awaitable of changed texts, and a fallback in
place of an unreadable text. Below it a union of which one tag field lets a lazy node see the value
first: inverting that node is put off, so that what stands in the way of it is only met when the
tags of the inverse of the inverse are looked up. -/

namespace Deferred

def getter : FunctionRef := ⟨0, "letter"⟩

def change : FunctionRef := ⟨1, "change"⟩

def read : FunctionRef := ⟨2, "read"⟩

def write : FunctionRef := ⟨3, "write"⟩

def pass : FunctionRef := ⟨4, "pass"⟩

def library : Library where
  host := {
    effect := fun fn v _ => ⟨[], .ok (if fn = write then .str "" else v)⟩
    check := fun _ _ => ⟨[], .ok (.bool true)⟩
    supply := fun _ => ⟨[], .ok .none⟩
    rescue := fun _ _ => ⟨[], .ok .none⟩
    call := fun _ _ => ⟨[], .ok .none⟩
    isAsync := fun _ => false }
  plans := {
    getter := fun _ => { schema := .call (.literal (.str "a")) (.transform change false) }
    definition := fun _ => .any }

theorem host_keeps (a : Allowance) {rescue : FunctionRef → List (Issue Live) → Reply}
    (h : ∀ fn issues x, (rescue fn issues).outcome = .ok x → x.Keeps a) :
    ({ library.host with rescue := rescue } : Host).Keeps a where
  effect fn v _ x hv hx := by
    refine .inl (Except.ok.inj hx ▸ ?_)
    split
    · exact .inl (.str "")
    · exact hv.self
  check _ _ _ _ _ hx := .inl (.inl (Except.ok.inj hx ▸ .bool true))
  supply _ _ hx := Except.ok.inj hx ▸ .none
  rescue := h
  call _ _ _ _ hx := Except.ok.inj hx ▸ .none

def text : Schema := .string {} none

def node : Schema := .invertible text read .any write

def awkward : Schema := .catch node (.factory change)

def plain : Schema := .invertible .any write text read

theorem plain_alone (id : LazyId) (origin : Origin) : ¬plain.TagLazy id origin := by
  rintro (_ | ⟨hc, h⟩)
  simp only [plain, Schema.children, List.mem_cons, List.not_mem_nil, or_false] at hc
  rcases hc with rfl | rfl <;> cases h with | inside hc => cases hc

theorem within_awkward {u : Schema} (h : library.plans.Within awkward u) :
    u = awkward ∨ u = node ∨ u = text ∨ u = .any := by
  induction h with
  | self => exact .inl rfl
  | child _ hc ih =>
    rcases ih with rfl | rfl | rfl | rfl
    · exact .inr (.inl (List.mem_singleton.1 hc))
    · simp only [node, Schema.children, List.mem_cons, List.not_mem_nil, or_false] at hc
      exact .inr (.inr hc)
    · cases hc
    · cases hc
  | behind _ _ ih => rcases ih with h | h | h | h <;> cases h

theorem reverts_awkward {action : Action Live} (h : library.plans.Reverts awkward action) :
    action = .custom write := by
  cases h with
  | format h =>
    rcases within_awkward h with h | h | h | h <;> cases h
    rfl
  | refinement h => rcases within_awkward h with h | h | h | h <;> cases h

/-- The inverse of the awkward schema writes, and does nothing else: the fallback may well fail. -/
theorem writes_only :
    library.invert 9 1 {} awkward {} = .ok plain {} ∧ plain.Reversed ∧
    (∀ kind, (library.invert 9 2 {} plain).result {} ≠ .error (.oneWay kind)) ∧
    (∃ new, ((library.parse .sync 9 plain (.int 1)).final {}).journal = new ++ [] ∧
      ∀ fn args, .called fn args ∈ new → args = [] ∨ fn = write) ∧
    Library.parse ⟨{ library.host with rescue := fun _ _ => ⟨[], .error .suspended⟩ },
      library.plans⟩ .sync 9 plain (.int 1) {} = library.parse .sync 9 plain (.int 1) {} := by
  have inverted : library.invert 9 1 {} awkward {} = .ok plain {} := rfl
  have fresh : library.plans.Faithful {} := .empty
  obtain ⟨shape, again, runs⟩ := Library.invert_backward fresh inverted
  obtain ⟨passes, -⟩ := again 9 2 {} {} .empty fun id origin h => absurd h (plain_alone id origin)
  have hgive : library.host.HandsOver (library.plans.Reverts awkward)
      (Library.reverting library.plans {} awkward fun _ => False) := by
    intro action ha _ v path x _ given
    cases reverts_awkward ha
    cases given
  have kept : library.host.Keeps (Library.reverting library.plans {} awkward fun _ => False) :=
    host_keeps _ fun _ _ _ hx => Except.ok.inj hx ▸ .none
  obtain ⟨⟨new, journal, calls⟩, same⟩ :=
    runs (fun _ => False) kept hgive .sync 9 (.int 1) {} (.int 1) .empty
  refine ⟨inverted, shape, passes, ⟨new, journal, fun fn args h => ?_⟩, ?_⟩
  · refine (calls fn args h).imp_right ?_
    rintro (⟨⟨⟩⟩ | ⟨action, ha, rfl⟩)
    rw [reverts_awkward ha]
    rfl
  · exact same _ (host_keeps _ nofun) ⟨rfl, rfl, fun _ _ _ _ => rfl, fun _ _ _ _ => rfl⟩

def option (field : Schema) : Schema := .object [("t", field)] none .strip

def table : List (Datum × Nat) := [(.str "a", 0), (.str "b", 1)]

def letter : Schema := .lazy (.step 0) (.getter getter)

def union : Schema :=
  .tagged "t" [option (.pipeline letter (.literal (.str "a"))), option (.literal (.str "b"))] table

/-- The inverse of the union, whose lazy node waits to be inverted. -/
def union' : Schema :=
  .tagged "t" [option (.pipeline (.literal (.str "a"))
    (.lazy (.within (.step 1) 0) (.inverse {} (.step 0) (.getter getter)))),
    option (.literal (.str "b"))] table

def changed : Schema := .effect .transform (.custom change) true text

def choice : Schema := .union [.invertible text read .any pass, .promise changed]

def choice' : Schema := .union [.invertible .any pass text read, .promise text]

/-- What the choice gives for an awaitable of a text. -/
def coroutine : Datum := .live (.pending (.made 0) changed (.promise 0 false (.str "x")))

/-- Looking for tags runs into the effect that was put off. And a format that gives back an
awaitable of changed texts has it awaited, which changes the text. -/
theorem runs_into_effect :
    library.invert 9 1 {} union {} = .ok union' {} ∧
    (library.invert 9 2 {} union').result {} = .error (.oneWay .transform) ∧
    library.invert 9 1 {} choice {} = .ok choice' {} ∧
    (library.parse .sync 9 choice (.live (.promise 0 false (.str "x")))).result {} =
      .ok coroutine ∧
    (library.parse .sync 9 choice' coroutine).result {} = .ok (.str "x") ∧
    ((library.parse .sync 9 choice' coroutine).final {}).history =
      [.called pass [coroutine], .called change [.str "x"]] :=
  ⟨rfl, rfl, rfl, rfl, rfl, rfl⟩

end Deferred
end TwoWay
