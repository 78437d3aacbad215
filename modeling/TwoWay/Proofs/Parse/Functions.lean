import TwoWay.Proofs.Inversion.Rules
import TwoWay.Proofs.Parse.Calls
import TwoWay.Proofs.Parse.Independence
import TwoWay.Proofs.Parse.Whole

/-!
# Functions behind schemas

A call of a function behind schemas parses the arguments, calls what is behind, and parses the
result; whatever is refused on the way ends the call. The inverse of a function schema inverts the
schemas of the arguments and of the result in their places, so that a function behind a schema and
behind its inverse sees its own arguments again, and its caller the function's own results
(`Library.functions_round_trip`).
-/

namespace TwoWay

/-- What a call ends with if its arguments or its result give rise to issues. -/
def Failure.ofCall (code : IssueCode) (what : String) (issues : List (Issue Live)) : Failure :=
  .refused [⟨code, "Invalid function " ++ what, [], [("issues", .issues issues)]⟩]

namespace Failure

def wrongArguments : List (Issue Live) → Failure := ofCall .invalidArguments "arguments"

def wrongResult : List (Issue Live) → Failure := ofCall .invalidReturnType "return type"

end Failure

/-- Events that are no calls. -/
def Event.isNoCall : Event → Prop
  | .called .. => False
  | _ => True

/-- Playing what a function does calls no function. -/
theorem Links.play_adds (links : Links) (path : Path Live) (happenings : List Happening) :
    (links.play path happenings).Adds Event.isNoCall := by
  induction happenings with
  | nil => exact .pure []
  | cons h rest ih =>
    have joined (first : List (Issue Live)) :
        Run.Adds Event.isNoCall (do return first ++ (← links.play path rest)) :=
      .bind ih fun _ => .pure _
    cases h with
    | noted entry => exact .bind (.record trivial) fun _ => joined _
    | yielded => exact .bind (.record trivial) fun _ => joined _
    | reported code message below details => exact joined _
    | suspended =>
      have waits : links.suspend.Adds Event.isNoCall := by
        unfold Links.suspend
        cases links.mode with
        | sync => exact .throw _
        | async => exact .record trivial
      exact .bind waits fun _ => joined _

namespace Library

variable (lib : Library)

/-- A schema that is run alone on a value gives a clean output. -/
structure Accepts (depth : Nat) (s : Schema) (v : Datum) (u : World) (x : Datum) (u' : World) :
    Prop where
  run : s.runWith (lib.links .sync depth) [] v u = .ok ⟨x, []⟩ u'
  valid : x.isInvalid = false

/-- A schema that is run alone on a value reports these issues, or gives no output. -/
structure Refuses (depth : Nat) (s : Schema) (v : Datum) (u : World) (issues : List (Issue Live))
    (u' : World) : Prop where
  run : ∃ x, s.runWith (lib.links .sync depth) [] v u = .ok ⟨x, issues⟩ u' ∧
    (issues = [] → x.isInvalid)

variable {lib} {depth : Nat} {s : Schema} {v x : Datum} {u u' : World} {issues : List (Issue Live)}

theorem Accepts.checkCall (h : lib.Accepts depth s v u x u') (code : IssueCode) (what : String) :
    lib.checkCall depth code what s v u = .ok x u' := by
  obtain ⟨run, valid⟩ := h
  unfold Library.checkCall
  rw [Run.bind_of_ok run]
  simp only [List.isEmpty_nil, valid, Bool.not_false, Bool.and_self, if_true]
  rfl

theorem Refuses.checkCall (h : lib.Refuses depth s v u issues u') (code : IssueCode)
    (what : String) :
    lib.checkCall depth code what s v u = .error (.ofCall code what issues) u' := by
  obtain ⟨x, run, invalid⟩ := h.run
  unfold Library.checkCall
  rw [Run.bind_of_ok run]
  have dirty : (issues.isEmpty && !x.isInvalid) = false := by
    cases issues with
    | nil => simp [invalid rfl]
    | cons i rest => rfl
  simp only [dirty]
  rfl

/-- What a tuple reads from a list is a list. -/
theorem Accepts.tuple {items : List Schema} {rest : Option Schema} {args : List Datum}
    (h : lib.Accepts depth (.tuple items rest) (.list .free args) u x u') :
    ∃ passed, x = .list .free passed := by
  have listed (m : Run (List Parsed))
      (hm : (do return sequenceResult (.list .free) [] (← m) : Run Parsed) u = .ok ⟨x, []⟩ u') :
      ∃ passed, x = .list .free passed := by
    obtain ⟨rs, between, -, given⟩ := Run.bind_ok.1 hm
    have result : sequenceResult (.list .free) [] rs = ⟨x, []⟩ := (EStateM.Result.ok.inj given).1
    unfold sequenceResult at result
    have output := congrArg Parsed.value result
    split at output
    · have valid := h.valid
      cases output
      cases valid
    · exact ⟨_, output.symm⟩
  have run := h.run
  simp only [Schema.runWith, Value.sequence?] at run
  split at run
  · cases run
  · cases rest with
    | some s => exact listed _ run
    | none =>
      dsimp only at run
      split at run
      · cases run
      · exact listed _ run

/-! ## One layer -/

section

variable {id : Identity} {items : List Schema} {rest : Option Schema} {returns : Schema}
  {target : Live} {args passed : List Datum}

theorem guarded_refuses
    (h : lib.Refuses depth (.tuple items rest) (.list .free args) u issues u') :
    lib.callLive depth (.guarded id items rest returns target) args u =
      .error (.wrongArguments issues) u' := by
  rw [callLive]
  exact Run.bind_of_error (h.checkCall _ _)

theorem call_live (f : Live) : lib.call depth (.live f) args = lib.callLive depth f args := rfl

/-- Once the arguments are accepted the function behind is called, and its result is parsed. -/
theorem guarded_passes
    (h : lib.Accepts depth (.tuple items rest) (.list .free args) u (.list .free passed) u') :
    lib.callLive depth (.guarded id items rest returns target) args u = (do
      let result ← lib.callLive depth target passed
      lib.checkCall depth .invalidReturnType "return type" returns result) u' := by
  rw [callLive]
  exact Run.bind_of_ok (h.checkCall _ _)

/-- A function schema puts every function behind it. -/
theorem parse_function {f : Live} (h : f.isCallable) (mode : Mode) (depth : Nat) (u : World) :
    lib.parse mode depth (.function items rest returns) (.live f) u =
      .ok (.live (.guarded (.made u.made) items rest returns f))
        { u with made := u.made + 1 } := by
  rw [parse_of_isSchema rfl]
  simp only [Schema.runWith, h, if_true]
  rfl

end

/-! ## Two layers -/

variable (lib) in
/-- One schema gives a clean output, and from that another one does. -/
def AcceptsThrough (depth : Nat) (first second : Schema) (v : Datum) (u : World) (x : Datum)
    (u' : World) : Prop :=
  ∃ y between, lib.Accepts depth first v u y between ∧ lib.Accepts depth second y between x u'

variable (lib) in
/-- One schema refuses a value, or another one refuses what the first gives. -/
def RefusesThrough (depth : Nat) (first second : Schema) (v : Datum) (u : World)
    (issues : List (Issue Live)) (u' : World) : Prop :=
  lib.Refuses depth first v u issues u' ∨
    ∃ y between, lib.Accepts depth first v u y between ∧
      lib.Refuses depth second y between issues u'

section

variable {id id' : Identity} {items items' : List Schema} {rest rest' : Option Schema}
  {returns returns' : Schema} {target : Live} {args received : List Datum} {r : Datum}

/-- A failure of the inner layer is that of the outer one. -/
theorem twice_refuses_arguments
    (h : lib.RefusesThrough depth (.tuple items' rest') (.tuple items rest) (.list .free args) u
      issues u') :
    lib.callLive depth (.guarded id' items' rest' returns' (.guarded id items rest returns target))
      args u = .error (.wrongArguments issues) u' := by
  rcases h with outer | ⟨y, between, outer, inner⟩
  · exact guarded_refuses outer
  · obtain ⟨passed, rfl⟩ := outer.tuple
    rw [guarded_passes outer]
    exact Run.bind_of_error (guarded_refuses inner)

/-- Once both layers have accepted the arguments the function behind them is called, and the inner
layer is the first to parse the result. -/
theorem twice_passes
    (h : lib.AcceptsThrough depth (.tuple items' rest') (.tuple items rest) (.list .free args) u
      (.list .free received) u') :
    lib.callLive depth (.guarded id' items' rest' returns' (.guarded id items rest returns target))
      args u = (do
        let r ← lib.callLive depth target received
        let y ← lib.checkCall depth .invalidReturnType "return type" returns r
        lib.checkCall depth .invalidReturnType "return type" returns' y) u' := by
  obtain ⟨y, between, outer, inner⟩ := h
  obtain ⟨passed, rfl⟩ := outer.tuple
  rw [guarded_passes outer, ← bind_assoc]
  exact Run.bind_of_eq (guarded_passes inner)

/-- The inner layer parses the result before the outer one does. -/
theorem results_refused {r : Datum} (h : lib.RefusesThrough depth returns returns' r u issues u') :
    (do
      let y ← lib.checkCall depth .invalidReturnType "return type" returns r
      lib.checkCall depth .invalidReturnType "return type" returns' y) u =
        .error (.wrongResult issues) u' := by
  rcases h with inner | ⟨y, between, inner, outer⟩
  · exact Run.bind_of_error (inner.checkCall _ _)
  · exact (Run.bind_of_ok (inner.checkCall _ _)).trans (outer.checkCall _ _)

theorem results_accepted {r : Datum} (h : lib.AcceptsThrough depth returns returns' r u x u') :
    (do
      let y ← lib.checkCall depth .invalidReturnType "return type" returns r
      lib.checkCall depth .invalidReturnType "return type" returns' y) u = .ok x u' := by
  obtain ⟨y, between, inner, outer⟩ := h
  exact (Run.bind_of_ok (inner.checkCall _ _)).trans (outer.checkCall _ _)

end

/-! ## What happens during a call -/

/-- A parse extends the journal, and stays among faithful worlds. -/
theorem Accepts.extends (h : lib.Accepts depth s v u x u') (hu : lib.plans.Faithful u) :
    lib.plans.Faithful u' ∧ u.journal <:+ u'.journal := by
  have closed : (Allowance.over fun _ => True).Closed lib.plans := Allowance.all_closed lib.plans
  have host : lib.host.Keeps (.over fun _ => True) := lib.host.keeps_all
  have node := Schema.parses closed (channels_account closed host .sync depth).2 (s := s) trivial
    [] v (.inl (Value.keeps_all v))
  simp only [channel_links] at node
  have extended := (node.holds u hu fun _ h => h.elim).suffix
  rw [Run.final, h.run] at extended
  exact ⟨((node.ensures ()).ok hu h.run).1, extended⟩

theorem AcceptsThrough.extends {first second : Schema}
    (h : lib.AcceptsThrough depth first second v u x u') (hu : lib.plans.Faithful u) :
    lib.plans.Faithful u' ∧ u.journal <:+ u'.journal := by
  obtain ⟨y, between, h₁, h₂⟩ := h
  obtain ⟨faithful, suffix⟩ := h₁.extends hu
  obtain ⟨faithful', suffix'⟩ := h₂.extends faithful
  exact ⟨faithful', suffix.trans suffix'⟩

/-- A call of a plain function is noted, and while it runs no other function is called. -/
theorem callLive_function {fn : FunctionRef} {args : List Datum} {r : Datum}
    (plain : lib.host.isAsync fn = false) (hu : lib.plans.Faithful u)
    (h : lib.callLive depth (.function fn) args u = .ok r u') :
    lib.plans.Faithful u' ∧ ∃ during, u'.journal = during ++ .called fn args :: u.journal ∧
      ∀ e ∈ during, e.isNoCall := by
  let answer : Run Datum := do
    discard <| (lib.links .sync depth).play [] (lib.host.call fn args).happenings
    (← Run.lift (lib.host.call fn args).outcome).numbered
  have adds : answer.Adds Event.isNoCall :=
    .bind (.bind (Links.play_adds _ _ _) fun _ => .pure _) fun _ =>
      .bind (.lift _) fun _ => (Value.numbered_blind _).adds
  have ensures : lib.plans.Ensures answer fun _ => True :=
    .andThen (.map (Q := fun _ => True) (Links.play_ensures _ _) fun _ _ => trivial) fun _ =>
      .andThen (P := fun _ => True) (.lift fun _ _ => trivial) fun x =>
        (Value.numbered_ensures x (Value.keeps_all x)).weaken fun _ _ => trivial
  have ends : lib.callLive depth (.function fn) args u = answer (u.record (.called fn args)) := by
    simp only [callLive, plain]
    rfl
  have noted : lib.plans.Faithful (u.record (.called fn args)) := hu.of_memory rfl rfl
  rw [ends] at h
  obtain ⟨during, journal, nothing⟩ := adds (u.record (.called fn args))
  rw [Run.final, h] at journal
  exact ⟨(ensures.ok noted h).1, during, journal, nothing⟩

/-- A function schema puts a function behind it, and its inverse puts that behind it in turn. What
the outer argument tuple refuses, or the inner one, is refused as wrong arguments with the issues
that this tuple alone reports, and the function is not called: the call ends in the world that the
tuple left. Otherwise the function is called, once, on what the inner tuple gives, and fails as it
does by itself. What the inner schema of the result refuses, or the outer one, is refused as a wrong
result. Otherwise the call gives what the outer one gives. -/
theorem functions_round_trip {items : List Schema} {rest : Option Schema} {returns inverse : Schema}
    {settings : InversionSettings} {step : Nat} {w w' : World} (hw : lib.plans.Faithful w)
    (inverted : lib.invert depth step settings (.function items rest returns) w = .ok inverse w')
    {f : Live} (callable : f.isCallable) (mode : Mode) (deep : Nat) (v : World) :
    ∃ items' rest' returns', inverse = .function items' rest' returns' ∧
      List.Forall₂ (lib.plans.Inverts settings) items items' ∧
      Option.Rel (lib.plans.Inverts settings) rest rest' ∧
      lib.plans.Inverts settings returns returns' ∧
      ∃ once twice v₁ v₂,
        lib.parse mode deep (.function items rest returns) (.live f) v = .ok once v₁ ∧
        lib.parse mode deep inverse once v₁ = .ok twice v₂ ∧
        ∀ depth args u, lib.plans.Faithful u →
          (∀ issues u', lib.RefusesThrough depth (.tuple items' rest') (.tuple items rest)
              (.list .free args) u issues u' →
            lib.call depth twice args u = .error (.wrongArguments issues) u') ∧
          ∀ received u₁, lib.AcceptsThrough depth (.tuple items' rest') (.tuple items rest)
              (.list .free args) u (.list .free received) u₁ →
            (∀ failure u', lib.callLive depth f received u₁ = .error failure u' →
              lib.call depth twice args u = .error failure u') ∧
            ∀ r u₂, lib.callLive depth f received u₁ = .ok r u₂ →
              (∀ issues u', lib.RefusesThrough depth returns returns' r u₂ issues u' →
                lib.call depth twice args u = .error (.wrongResult issues) u') ∧
              ∀ x u', lib.AcceptsThrough depth returns returns' r u₂ x u' →
                lib.call depth twice args u = .ok x u' ∧
                ∀ fn, f = .function fn → lib.host.isAsync fn = false →
                  ∃ before during after, u₁.journal = before ++ u.journal ∧
                    u₂.journal = during ++ .called fn received :: u₁.journal ∧
                    u'.journal = after ++ u₂.journal ∧ ∀ e ∈ during, e.isNoCall := by
  obtain ⟨items', rest', returns', rfl, hitems, hrest, hreturns⟩ :
      ∃ items' rest' returns', inverse = .function items' rest' returns' ∧
        List.Forall₂ (lib.plans.Inverts settings) items items' ∧
        Option.Rel (lib.plans.Inverts settings) rest rest' ∧
        lib.plans.Inverts settings returns returns' := by
    cases invert_inverts hw inverted with
    | leaf h => cases h
    | function hitems hrest hreturns => exact ⟨_, _, _, rfl, hitems, hrest, hreturns⟩
  refine ⟨items', rest', returns', rfl, hitems, hrest, hreturns, _, _, _, _,
    parse_function callable mode deep v, parse_function rfl mode deep _, ?_⟩
  intro depth args u hu
  simp only [call_live]
  constructor
  · intro issues u' refuses
    exact twice_refuses_arguments refuses
  intro received u₁ arrives
  constructor
  · intro failure u' fails
    exact (twice_passes arrives).trans (Run.bind_of_error fails)
  intro r u₂ called
  constructor
  · intro issues u' refuses
    exact (twice_passes arrives).trans
      ((Run.bind_of_ok called).trans (results_refused refuses))
  intro x u' accepts
  constructor
  · exact (twice_passes arrives).trans
      ((Run.bind_of_ok called).trans (results_accepted accepts))
  rintro fn rfl plain
  obtain ⟨hu₁, before, hbefore⟩ := arrives.extends hu
  obtain ⟨hu₂, during, hduring, nothing⟩ := callLive_function plain hu₁ called
  obtain ⟨-, after, hafter⟩ := accepts.extends hu₂
  exact ⟨before, during, after, hbefore.symm, hduring, hafter.symm, nothing⟩

end Library

/-! ## A switch

A function on numbers behind a schema that lets its callers speak of truth values. -/

namespace Switch

def toNumber : FunctionRef := ⟨0, "to_number"⟩

def toTruth : FunctionRef := ⟨1, "to_truth"⟩

def isOff : FunctionRef := ⟨2, "is_off"⟩

def library : Library where
  host := {
    effect := fun _ v _ => ⟨[], .ok (match v with
      | .bool b => .int (if b then 1 else 0)
      | .int i => .bool (i != 0)
      | v => v)⟩
    check := fun _ _ => ⟨[], .ok (.bool true)⟩
    supply := fun _ => ⟨[], .ok .none⟩
    rescue := fun _ _ => ⟨[], .ok .none⟩
    call := fun _ args => ⟨[], .ok (.bool (args.any (· matches .int 0)))⟩
    isAsync := fun _ => false }
  plans := { getter := fun _ => { schema := .any }, definition := fun _ => .any }

def position : Schema := .invertible .boolean toNumber (.number {} false) toTruth

def schema : Schema := .function [position] none position

/-- Numbers again, which become truth values. -/
def back : Schema := .invertible (.number {} false) toTruth .boolean toNumber

/-- What has happened when the arguments of a call have got to the function. -/
def arrived : List Event := [.called toNumber [.bool true], .called toTruth [.int 1]]

/-- What has happened when the result has got back. -/
def answered : List Event :=
  .called toTruth [.int 0] :: .called toNumber [.bool false] :: .called isOff [.int 1] :: arrived

/-- What is wrong with a truth value. -/
def refusal : Issue Live := ⟨.invalidType, "Input should be a valid integer", [.int 0],
  [("expected", .value (.str "number")), ("received", .value (.str "bool"))]⟩

/-- The function gets the number that is given to the outer layer, and what it gives comes back. A
truth value is refused, and nothing happens. -/
theorem keeps_its_own_language :
    ∃ twice v, library.parse .sync 0 (.function [back] none back)
        (.live (.guarded (.made 0) [position] none position (.function isOff))) { made := 1 } =
          .ok twice v ∧
      library.call 0 twice [.int 1] {} = .ok (.bool false) { journal := answered } ∧
      library.call 0 twice [.bool true] {} = .error (.wrongArguments [refusal]) {} := by
  have inverted : library.invert 0 0 {} schema {} = .ok (.function [back] none back) {} := rfl
  obtain ⟨items', rest', returns', same, -, -, -, once, twice, v₁, v₂, first, second, calls⟩ :=
    Library.functions_round_trip .empty inverted (rfl : (Live.function isOff).isCallable) .sync 0 {}
  cases same
  cases first
  refine ⟨twice, v₂, second, ?_, ?_⟩
  · have arrives : library.AcceptsThrough 0 (.tuple [back] none) (.tuple [position] none)
        (.list .free [.int 1]) {} (.list .free [.int 1]) { journal := arrived } :=
      ⟨.list .free [.bool true], { journal := [.called toTruth [.int 1]] }, ⟨rfl, rfl⟩, ⟨rfl, rfl⟩⟩
    have comesBack : library.AcceptsThrough 0 position back (.bool false)
        { journal := .called isOff [.int 1] :: arrived } (.bool false) { journal := answered } :=
      ⟨.int 0, { journal := .called toNumber [.bool false] :: .called isOff [.int 1] :: arrived },
        ⟨rfl, rfl⟩, ⟨rfl, rfl⟩⟩
    obtain ⟨-, passed⟩ := calls 0 [.int 1] {} .empty
    obtain ⟨-, returned⟩ := passed [.int 1] { journal := arrived } arrives
    obtain ⟨-, given⟩ := returned (.bool false) _ rfl
    exact (given (.bool false) { journal := answered } comesBack).1
  · have refuses : library.Refuses 0 (.tuple [back] none) (.list .free [.bool true]) {} [refusal]
        {} := ⟨.invalid, rfl, nofun⟩
    exact (calls 0 [.bool true] {} .empty).1 [refusal] {} (.inl refuses)

end Switch
end TwoWay
