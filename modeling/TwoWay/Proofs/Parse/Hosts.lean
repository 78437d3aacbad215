import TwoWay.Proofs.Parse.Nodes

/-!
# Hosts that keep to an allowance

What is asked of the user functions: given what keeps to the allowance they give what keeps to
it, or an awaitable that does once it is awaited (`Host.Keeps`). Then what a node needs beyond
its tree is the same in a context and keeps to the allowance, at every depth
(`Library.channel_follows`), and so does every parse (`Library.parseIn_tracks`).
-/

namespace TwoWay

open Reporting

/-- An awaitable that is awaited at a path as soon as a function gives it. It may report at
that path, and it may give `missing` if `absent` holds. -/
inductive Live.Answers (a : Allowance) (host : Host) (path : Path Live) (absent : Prop) :
    Live → Prop
  | keeps {x : Live} (h : x.Keeps a) : Answers a host path absent x
  | promise {id : Nat} {suspends : Bool} (h : absent) :
    Answers a host path absent (.promise id suspends .missing)
  | pending {id : Identity} {inner : Schema} {awaited : Live} (hs : a.schemas inner)
    (h : Answers a host path absent awaited) :
    Answers a host path absent (.pending id inner awaited)
  | working {id : Identity} {fn : FunctionRef} {place : Path Live} {v : Datum}
    (hp : (∃ g, a.effects g) ∨ place = path) (ha : host.isAsync fn) (h : v.KeepsOr a absent) :
    Answers a host path absent (.working id fn place v)

/-- What a function gives: only an awaitable that it does not wait for itself may be more than
a value that keeps to the allowance. -/
def Value.IsOutcome (a : Allowance) (host : Host) (fn : FunctionRef) (path : Path Live)
    (absent : Prop) (x : Datum) : Prop :=
  x.KeepsOr a absent ∨ host.isAsync fn = false ∧ ¬a.effects fn ∧
    ∃ y, x = .live y ∧ y.Answers a host path absent

/-- An outcome that is a handle answers. -/
theorem Value.IsOutcome.answers {a : Allowance} {host : Host} {fn : FunctionRef}
    {path : Path Live} {absent : Prop} {x : Live}
    (h : Value.IsOutcome a host fn path absent (.live x)) : x.Answers a host path absent := by
  rcases h with (h | h) | ⟨-, -, y, hy, answers⟩
  · exact .keeps (Value.keeps_live.1 h)
  · cases h.2
  · cases hy
    exact answers

/-- The user functions keep to an allowance. -/
structure Host.Keeps (a : Allowance) (host : Host) : Prop where
  effect : ∀ fn v path x, v.KeepsOr a True → (host.effect fn v path).outcome = .ok x →
    x.IsOutcome a host fn path (v = .missing)
  check : ∀ fn v path x, v.KeepsOr a True → (host.check fn v).outcome = .ok x →
    x.IsOutcome a host fn path True
  supply : ∀ fn x, (host.supply fn).outcome = .ok x → x.Keeps a
  rescue : ∀ fn issues x, (host.rescue fn issues).outcome = .ok x → x.Keeps a
  call : ∀ fn args x, (∀ y ∈ args, y.Keeps a) → (host.call fn args).outcome = .ok x → x.Keeps a

variable {plans : Plans} {a : Allowance} {ch : Channel} {path : Path Live} {absent : Prop}
  {pre : List (Issue Live)}

theorem Live.Answers.numbered {host : Host} {x : Live} (h : x.Answers a host path absent) :
    plans.Ensures x.numbered (·.Answers a host path absent) := by
  cases h with
  | keeps h => exact h.numbered.weaken fun _ => .keeps
  | promise h => exact .pure (.promise h)
  | pending hs h => exact .pure (.pending hs h)
  | working hp ha h =>
    exact .bind (Identity.numbered_ensures _) fun _ _ => .pure (.working hp ha h)

namespace Links

variable {links : Links}

theorem suspend_ensures : plans.Ensures links.suspend fun _ => True := by
  unfold suspend
  split
  · exact .throw _ _
  · exact .record _

theorem play_ensures (path : Path Live) (happenings : List Happening) :
    plans.Ensures (links.play path happenings) fun _ => True := by
  induction happenings with
  | nil => exact .pure trivial
  | cons h rest ih =>
    have joined (first : List (Issue Live)) :
        plans.Ensures (do return first ++ (← links.play path rest)) fun _ => True :=
      .andThen ih fun _ => .pure trivial
    cases h with
    | noted entry => exact .andThen (.record _) fun _ => joined _
    | yielded => exact .andThen (.record _) fun _ => joined _
    | suspended => exact .andThen suspend_ensures fun _ => joined _
    | reported code message below details => exact joined _

theorem factory_ensures (hh : links.host.Keeps a) (fn : FunctionRef) :
    plans.Ensures (links.supply (.factory fn)) (·.Keeps a) :=
  .andThen (.record _) fun _ => .andThen (.map (Q := fun _ => True) (play_ensures _ _)
    fun _ _ => trivial) fun _ => .lift (hh.supply fn)

theorem rescue_ensures (hh : links.host.Keeps a) (issues : List (Issue Live)) (fn : FunctionRef) :
    plans.Ensures (links.rescue issues (.factory fn)) (·.Keeps a) := by
  unfold Links.rescue
  cases Failure.ofIssues issues with
  | refused issues =>
    exact .andThen (.record _) fun _ => .andThen (.map (Q := fun _ => True) (play_ensures _ _)
      fun _ _ => trivial) fun _ => .lift (hh.rescue fn issues)
  | _ => exact .throw _ _

end Links

namespace Channel

/-- Reports are made where the function runs. -/
theorem play_tracks (happenings : List Happening) (hp : Located a path pre) :
    Tracks plans a path pre (ch.play path happenings) (ch.links.play path happenings)
      (fun _ => ()) (fun is => pre ++ is) fun is => ∀ i ∈ is, i.Below path := by
  induction happenings generalizing pre with
  | nil => exact .pure nofun rfl (List.append_nil _).symm
  | cons h rest ih =>
    have joined (first : List (Issue Live)) (hf : ∀ i ∈ first, i.Below path) :
        Tracks plans a path (pre ++ first) (ch.play path rest)
          (do return first ++ (← ch.links.play path rest)) (fun _ => ()) (fun is => pre ++ is)
          fun is => ∀ i ∈ is, i.Below path := by
      have := ih (hp.append (.of_below hf))
      rw [← bind_pure (ch.play path rest)]
      exact .bind this fun is his =>
        .pure (List.forall_mem_append.2 ⟨hf, his⟩) rfl (List.append_assoc ..)
    have plain := joined [] nofun
    rw [List.append_nil] at plain
    cases h with
    | noted entry => exact .bind (.silent (.record _) hp) fun _ _ => plain
    | yielded => exact .bind (.silent (.record _) hp) fun _ _ => plain
    | suspended => exact .bind (.silent Links.suspend_ensures hp) fun _ _ => plain
    | reported code message below details =>
      refine .report (joined _ (List.forall_mem_singleton.2 ?_))
      refine .of_plain (List.prefix_append _ _) fun d hd => ?_
      obtain ⟨e, -, rfl⟩ := List.mem_map.1 hd
      exact ⟨e.2, rfl⟩

/-- Awaiting what answers is the same in a context, and delivers what keeps to the
allowance. -/
def Awaits (plans : Plans) (a : Allowance) (ch : Channel) : Prop :=
  ∀ path absent x, Live.Answers a ch.links.host path absent x →
    Tracks plans a path [] (ch.await x) (ch.links.await x) Parsed.value Parsed.issues
      (·.Delivers a path absent)

theorem Awaits.resolve (h : ch.Awaits plans a) {fn : FunctionRef} {v : Datum}
    (hv : v.IsOutcome a ch.links.host fn path absent) :
    Tracks plans a path [] (ch.resolve v) (ch.links.resolve v) Parsed.value Parsed.issues
      (·.Delivers a path absent) := by
  cases v
  case live x =>
    have answers := hv.answers
    simp only [Channel.resolve, Links.resolve]
    split
    · exact .bind (.silent answers.numbered .nil) fun y hy => h path absent y hy
    · rename_i callable
      refine .pure ⟨.inl (.live ?_), .nil⟩ rfl rfl
      cases answers with
      | keeps h => exact h
      | promise | pending | working => exact absurd rfl callable
  all_goals
    refine .pure ⟨hv.resolve_right ?_, .nil⟩ rfl rfl
    rintro ⟨-, -, x, hx, -⟩
    cases hx

theorem Awaits.answer (h : ch.Awaits plans a) {fn : FunctionRef} {args : List Datum}
    {reply : Reply} (hr : ∀ x, reply.outcome = .ok x → x.IsOutcome a ch.links.host fn path absent) :
    Tracks plans a path [] (ch.answer fn args path reply) (ch.links.answer fn args path reply)
      Parsed.value Parsed.issues (·.Delivers a path absent) := by
  refine .bind (.silent (.record _) .nil) fun _ _ => .bind (play_tracks _ .nil) fun is his => ?_
  have located : Located a path is := .of_below his
  refine .bind (.silent (.lift hr) located) fun x hx => ?_
  split
  · rename_i hasync
    have hx := hx.resolve_right fun h => by simp [h.1] at hasync
    exact .pure ⟨hx, located⟩ rfl rfl
  · rw [← bind_pure (ch.resolve _)]
    exact .bind ((h.resolve hx).after located) fun r hr => .pure ⟨hr.1, located.append hr.2⟩ rfl rfl

theorem Awaits.act (h : ch.Awaits plans a) (hh : ch.links.host.Keeps a) (action : Action Live)
    (path : Path Live) {v : Datum} (hv : v.KeepsOr a True) :
    Tracks plans a path [] (ch.act action path v) (ch.links.act action path v) Parsed.value
      Parsed.issues (·.Delivers a path (v = .missing)) := by
  cases action with
  | custom fn => exact h.answer fun x hx => hh.effect fn v path x hv hx
  | check fn message below =>
    refine .bind (h.answer fun x hx => hh.check fn v path x hv hx) fun r hr => ?_
    refine .report (.pure ⟨hv.self, hr.2.append (.of_below ?_)⟩ rfl rfl)
    split
    · exact nofun
    · exact List.forall_mem_singleton.2 (.of_plain (List.prefix_append _ _) nofun)

end Channel

/-! ## Every depth -/

theorem Live.awaitIn_tracks (hs : ∀ s, a.schemas s → s.Follows plans a ch)
    (hh : ch.links.host.Keeps a) : ∀ {x : Live}, x.Answers a ch.links.host path absent →
      Tracks plans a path [] (x.awaitIn ch) (x.awaitWith ch.links) Parsed.value Parsed.issues
        (·.Delivers a path absent)
  | .function fn, h => by
    cases h with
    | keeps h => exact .pure ⟨.inl (.live h), .nil⟩ rfl rfl
  | .guarded .., h => by
    cases h with
    | keeps h => exact .pure ⟨.inl (.live h), .nil⟩ rfl rfl
  | .promise id suspends v, h => by
    have kept : v.KeepsOr a absent := by
      cases h with
      | promise habsent => exact .inr ⟨habsent, rfl⟩
      | keeps h =>
        cases h with
        | promise h => exact .inl h
    simp only [Live.awaitWith, Live.awaitIn]
    split
    · exact .bind (.silent Links.suspend_ensures .nil) fun _ _ => .pure ⟨kept, .nil⟩ rfl rfl
    · exact .pure ⟨kept, .nil⟩ rfl rfl
  | .pending id inner awaited, h => by
    have parts : a.schemas inner ∧ awaited.Answers a ch.links.host path absent := by
      cases h with
      | pending hs h => exact ⟨hs, h⟩
      | keeps h =>
        cases h with
        | pending hs h => exact ⟨hs, .keeps h⟩
    refine .bind (.silent (.awaitOnce id) .nil) fun _ _ => ?_
    refine .bind (awaitIn_tracks hs hh parts.2) fun v hv => ?_
    have entered := hs inner parts.1 [] v.value (hv.1.weaken fun _ => trivial)
    refine .bind (.fork entered hv.2) fun r hr => ?_
    have finished : plans.Ensures (Run.lift r.finish) (·.KeepsOr a absent) := by
      refine .lift fun x hx => ?_
      obtain ⟨-, valid, rfl⟩ := Parsed.finish_ok.1 hx
      rcases hr.output valid with h | h
      · exact .inl h
      · exact hv.1.imp (fun hv => h.2 ▸ h.1 ▸ hv) fun hv => ⟨hv.1, h.2⟩
    change Tracks plans a path v.issues (silent (Run.lift r.finish)) _ _ _ _
    rw [← bind_pure (silent _)]
    exact .bind (.silent finished hv.2) fun x hx => .pure ⟨hx, hv.2⟩ rfl rfl
  | .running id fn args, h => by
    have kept : ∀ y ∈ args, y.Keeps a := by
      cases h with
      | keeps h =>
        cases h with
        | running h => exact h
    refine .bind (.silent (.awaitOnce id) .nil) fun _ _ => ?_
    refine .bind (.silent (.record _) .nil) fun _ _ => ?_
    refine .bind (.silent (.map (Q := fun _ => True) (Links.play_ensures _ _) fun _ _ => trivial)
      .nil) fun _ _ => ?_
    refine .bind (.silent (.lift (hh.call fn args · kept)) .nil) fun x hx => ?_
    rw [← bind_pure (silent _)]
    exact .bind (.silent (Value.numbered_ensures x hx) .nil) fun x hx =>
      .pure ⟨.inl hx, .nil⟩ rfl rfl
  | .working id fn place v, h => by
    have parts : ((∃ g, a.effects g) ∨ place = path) ∧ v.KeepsOr a absent ∧
        ¬(ch.links.host.isAsync fn = false ∧ ¬a.effects fn) := by
      cases h with
      | working hp ha h => exact ⟨hp, h, fun hn => by simp [hn.1] at ha⟩
      | keeps h =>
        cases h with
        | working he h => exact ⟨.inl ⟨fn, he⟩, .inl h, fun hn => hn.2 he⟩
    obtain ⟨hp, hv, known⟩ := parts
    have outcome : plans.Ensures (Run.lift (ch.links.host.effect fn v place).outcome)
        (·.KeepsOr a absent) := .lift fun x hx => by
      have := hh.effect fn v place x (hv.weaken fun _ => trivial) hx
      rcases this.resolve_right fun h => known ⟨h.1, h.2.1⟩ with hx | hx
      · exact .inl hx
      · exact hv.imp (fun h => hx.2 ▸ hx.1 ▸ h) fun h => ⟨h.1, hx.2⟩
    have there : Tracks plans a place [] ((Live.working id fn place v).awaitIn ch)
        ((Live.working id fn place v).awaitWith ch.links) Parsed.value Parsed.issues
        (·.Delivers a place absent) := by
      refine .bind (.silent (.awaitOnce id) .nil) fun _ _ => ?_
      refine .bind (.silent (.record _) .nil) fun _ _ => ?_
      refine .bind (Channel.play_tracks _ .nil) fun is his => ?_
      have located : Located a place is := .of_below his
      refine .bind (.silent outcome located) fun x hx => ?_
      rw [← bind_pure (silent _)]
      exact .bind (.silent hx.numbered located) fun x hx => .pure ⟨hx, located⟩ rfl rfl
    rcases hp with ⟨g, hg⟩ | rfl
    · exact (there.anywhere hg).weaken fun r hr => ⟨hr.1, .anywhere hg⟩
    · exact there

namespace Library

variable {lib : Library}

theorem channel_links (mode : Mode) (depth : Nat) :
    (lib.channel mode depth).links = lib.links mode depth := by
  cases depth <;> rfl

theorem channel_host (mode : Mode) (depth : Nat) :
    (lib.channel mode depth).links.host = lib.host := by
  cases depth <;> rfl

theorem channel_follows (hc : a.Closed lib.plans) (hh : lib.host.Keeps a) (mode : Mode)
    (depth : Nat) : (lib.channel mode depth).Follows lib.plans a := by
  have follows {ch : Channel} (hhost : ch.links.host = lib.host) (hawait : ch.Awaits lib.plans a)
      (henter : ∀ id origin path v, a.schemas (.lazy id origin) → v.KeepsOr a True →
        TracksParse lib.plans a path [] (ch.enter id origin path v)
          (ch.links.enter id origin path v) (v = .missing)) :
      ch.Follows lib.plans a :=
    have hh := hhost ▸ hh
    ⟨fun action path v hv => hawait.act hh action path hv, Links.factory_ensures hh,
      Links.rescue_ensures hh, henter⟩
  induction depth with
  | zero =>
    exact follows rfl (fun _ _ _ _ => .throw _ .nil) fun _ _ _ _ _ _ => .throw _ .nil
  | succ depth ih =>
    have nodes s (hs : a.schemas s) := Schema.parseIn_tracks hc ih hs
    refine follows rfl (fun path absent x hx => ?_) fun id origin path v hs hv => ?_
    · have host : (lib.channel mode depth).links.host = lib.host := channel_host mode depth
      have awaited := Live.awaitIn_tracks nodes (host.symm ▸ hh)
        (host.symm ▸ channel_host mode (depth + 1) ▸ hx)
      rwa [channel_links] at awaited
    · refine .bind (.silent (.force _ _ _) .nil) fun s hgives => ?_
      have entered := nodes s (hc.behind hs hgives) path v hv
      rwa [channel_links] at entered

/-- At every depth a parse in a context ends as it does without, and its result keeps to the
allowance. -/
theorem parseIn_tracks (hc : a.Closed lib.plans) (hh : lib.host.Keeps a) (mode : Mode)
    (depth : Nat) {s : Schema} (hs : a.schemas s) (path : Path Live) {v : Datum}
    (hv : v.KeepsOr a True) :
    TracksParse lib.plans a path [] (s.parseIn (lib.channel mode depth) path v)
      (s.runWith (lib.links mode depth) path v) (v = .missing) := by
  have := Schema.parseIn_tracks hc (channel_follows hc hh mode depth) hs path v hv
  rwa [channel_links] at this

end Library

/-! ## A chain

Mappings that may have a next one, and a count that is zero if it is no number: a schema that
refers to itself and supplies values, with user functions that keep to every allowance. -/

namespace Chain

def getter : FunctionRef := ⟨0, "chain"⟩

def library : Library where
  host := {
    effect := fun _ v _ => ⟨[], .ok v⟩
    check := fun _ _ => ⟨[], .ok (.bool true)⟩
    supply := fun _ => ⟨[], .ok .none⟩
    rescue := fun _ _ => ⟨[], .ok .none⟩
    call := fun _ _ => ⟨[], .ok .none⟩
    isAsync := fun _ => false }
  plans := {
    getter := fun _ => { schema := .object [
      ("count", .call (.number {}) (.catch (some (.int 0)) none)),
      ("next", .call (.lazy getter) .optional)] none none }
    definition := fun _ => .any }

/-- What a lazy node of the chain stands for. -/
def link (id : LazyId) : Schema :=
  .object [("count", .catch (.number {} false) (.value (.int 0))),
    ("next", .optional (.lazy (.within id 0) (.getter getter)))] none .strip

inductive Part : Schema → Prop
  | chain (id : LazyId) : Part (.lazy id (.getter getter))
  | link (id : LazyId) : Part (link id)
  | count : Part (.catch (.number {} false) (.value (.int 0)))
  | number : Part (.number {} false)
  | next (id : LazyId) : Part (.optional (.lazy id (.getter getter)))

theorem gives (id : LazyId) : library.plans.Gives id (.getter getter) (link id) := ⟨1, rfl⟩

theorem closed (sentinels : Prop) (effects : FunctionRef → Prop) :
    Allowance.Closed ⟨sentinels, effects, Part⟩ library.plans where
  child hs hc := by
    cases hs with
    | chain id => cases hc
    | link id =>
      simp only [Schema.children, Chain.link, List.map_cons, List.map_nil, Option.toList_none,
        List.append_nil, List.mem_cons, List.not_mem_nil, or_false] at hc
      rcases hc with rfl | rfl
      · exact .count
      · exact .next _
    | count => exact List.mem_singleton.1 hc ▸ .number
    | number => cases hc
    | next id => exact List.mem_singleton.1 hc ▸ .chain id
  behind {id _ _} hs hg := by
    cases hs
    exact (gives id).unique hg ▸ .link id
  supplied hs hv := by
    cases hs with
    | count => exact List.mem_singleton.1 hv ▸ .int 0
    | chain id | link id | number | next id => cases hv

theorem host_keeps (a : Allowance) : library.host.Keeps a where
  effect _ _ _ _ hv hx := .inl (Except.ok.inj hx ▸ hv.self)
  check _ _ _ _ _ hx := .inl (.inl (Except.ok.inj hx ▸ .bool true))
  supply _ _ hx := Except.ok.inj hx ▸ .none
  rescue _ _ _ hx := Except.ok.inj hx ▸ .none
  call _ _ _ _ hx := Except.ok.inj hx ▸ .none

end Chain
end TwoWay
