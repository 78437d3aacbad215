import TwoWay.Proofs.Inversion.Mirror
import TwoWay.Proofs.Parse.Calm

/-!
# Parsing with a mirror

A schema and its mirror parse every value alike (`Plans.Mirrors.parseAlike`), if the user
functions are calm. The one place where they do different things is a refinement of a dirty
result, which the mirror skips; the result is dirty anyway.
-/

namespace TwoWay

open Parsed

/-- The user functions that a parse with schemas runs are calm. -/
structure Host.CalmOn (host : Host) (schemas : Schema → Prop) : Prop where
  effect : ∀ {kind action elidable s}, schemas (.effect kind action elidable s) → host.Calm action
  map : ∀ {s parse t format}, schemas (.invertible s parse t format) → host.Calm (.custom parse)

namespace Plans

variable (plans : Plans) (stray : Failure → Prop)

/-- Both schemas parse every value at every path alike. -/
def ParseAlike (links links' : Links) (s u : Schema) : Prop :=
  ∀ path v, plans.Alike stray (s.runWith links path v) (u.runWith links' path v) Agrees

variable (first second : InversionSettings) (schemas : Schema → Prop)

/-- Links for a schema and for its mirror: waiting lazy nodes parse like the lazy nodes that they
wait for. -/
structure Twins (links links' : Links) : Prop where
  deep : stray (.fault .tooDeep)
  host : links'.host = links.host
  ready : links.Ready
  ready' : links'.Ready
  enter : ∀ {id id' id'' origin}, schemas (.lazy id origin) → ∀ path v,
    plans.Alike stray (links.enter id origin path v)
      (links'.enter id'' (.inverse second id' (.inverse first id origin)) path v) Agrees

variable {plans stray first second schemas} {links links' : Links}

theorem runFields_alike {shape shape' : List (String × Schema)}
    (h : Schema.Fieldwise (plans.ParseAlike stray links links') shape shape') (path : Path Live)
    (entries : Entries Live) :
    plans.Alike stray (runFields links shape path entries) (runFields links' shape' path entries)
      (List.Forall₂ Named) := by
  induction h with
  | nil => exact .pure .nil
  | cons hs _ ih =>
    refine .bind (hs _ _) fun r r' hr => ?_
    refine .bind ih fun rs rs' hrs => ?_
    exact .pure (.cons ⟨rfl, hr⟩ hrs)

theorem runOptions_alike {options options' : List Schema}
    (h : List.Forall₂ (plans.ParseAlike stray links links') options options') (path : Path Live)
    (v : Datum) {tried tried' : List Parsed} (ht : List.Forall₂ Agrees tried tried') :
    plans.Alike stray (runOptions links options path v tried)
      (runOptions links' options' path v tried') Agrees := by
  induction h generalizing tried tried' with
  | nil => exact .pure (unionResult_agrees path ht)
  | cons hs _ ih =>
    refine .bind (hs path v) fun r r' hr => ?_
    rw [hr.isClean]
    split
    · exact .pure hr
    · exact ih (List.rel_append ht (.cons hr .nil))

theorem runOption_alike {options options' : List Schema}
    (h : List.Forall₂ (plans.ParseAlike stray links links') options options') (i : Nat)
    (path : Path Live) (v : Datum) :
    plans.Alike stray (runOption links options i path v) (runOption links' options' i path v)
      Agrees := by
  induction h generalizing i with
  | nil => exact .pure .rfl
  | cons hs _ ih =>
    cases i with
    | zero => exact hs path v
    | succ i => exact ih i

theorem runTupleItems_alike {items items' : List Schema}
    (h : List.Forall₂ (plans.ParseAlike stray links links') items items')
    {rest rest' : Path Live → Datum → Run Parsed}
    (hr : ∀ path v, plans.Alike stray (rest path v) (rest' path v) Agrees) (path : Path Live)
    (i : Nat) (values : List Datum) :
    plans.Alike stray (runTupleItems links items rest path i values)
      (runTupleItems links' items' rest' path i values) (List.Forall₂ Agrees) := by
  induction h generalizing i values with
  | nil => exact runItems_alike hr path i values
  | cons hs _ ih =>
    cases values with
    | nil => exact .pure .nil
    | cons v values =>
      refine .bind (hs _ v) fun r r' hr => ?_
      refine .bind (ih (i + 1) values) fun rs rs' hrs => ?_
      exact .pure (.cons hr hrs)

/-- The refinement at the end of a mirror gives what it gets. -/
theorem refined_calm {action : Action Live} {path : Path Live} {x : Datum} {c : Parsed}
    (h : (links.act action path x).Calm c) (valid : x.isInvalid = false) :
    ((Schema.pipeline (.effect .refinement action false .any) .any).runWith links path x).Calm
      ⟨x, c.issues⟩ := by
  have checked : ((Schema.effect .refinement action false .any).runWith links path x).Calm
      ⟨x, c.issues⟩ := by
    refine .bind (.pure (⟨x, []⟩ : Parsed)) ?_
    dsimp only
    rw [valid]
    exact .bind h (.pure _)
  refine .bind checked ?_
  unfold Parsed.andThen
  split
  · rename_i clean
    rw [Parsed.issues_of_isClean clean]
    exact .pure _
  · exact .pure _

/-- A refinement sees every output, that of the mirror clean ones only; either way what is
dirty stays dirty. -/
theorem refinement_alike (twins : plans.Twins stray first second schemas links links')
    {action : Action Live} (calm : links.host.Calm action) {elidable : Bool} {s u : Schema}
    (h : plans.ParseAlike stray links links' s u) :
    plans.ParseAlike stray links links' (.effect .refinement action elidable s)
      (.pipeline u (.pipeline (.effect .refinement action false .any) .any)) := by
  intro path v
  refine .bind (h path v) fun r t hr => ?_
  obtain ⟨c, hc⟩ := Links.act_calm calm path r.value
  have seen := hc links rfl twins.ready
  have seen' := hc links' twins.host twins.ready'
  unfold Parsed.andThen
  rw [← hr.isClean, ← hr.value]
  cases valid : r.value.isInvalid with
  | true =>
    have dirty : r.isClean = false := by simp [Parsed.isClean, valid]
    rw [dirty]
    exact .pure hr
  | false =>
    cases clean : r.isClean with
    | true =>
      refine .calm twins.deep (.bind seen (.pure _)) (refined_calm seen' valid) ?_
      rw [Parsed.issues_of_isClean clean]
      exact .rfl
    | false =>
      refine .calmLeft seen (.pure ⟨hr.value, ?_⟩)
      have dirty : r.issues.isEmpty = false := by simpa [Parsed.isClean, valid] using clean
      rw [isEmpty_append, ← hr.clean, dirty]
      rfl

/-- A schema and its mirror parse alike. -/
theorem Mirrors.parseAlike (hs : plans.Symmetric schemas) (hc : links.host.CalmOn schemas)
    (twins : plans.Twins stray first second schemas links links') {s u : Schema}
    (h : schemas s) (hu : plans.Mirrors first second s u) :
    plans.ParseAlike stray links links' s u := by
  induction s using Schema.child_induction generalizing u with
  | step s ih =>
    replace ih := fun c hc {u} => @ih c hc u (hs.child h hc)
    intro path v
    cases hu <;> simp only [Schema.children, List.mem_append, List.mem_cons, List.mem_map,
      Option.mem_toList, List.not_mem_nil, or_false, forall_eq, or_imp, forall_and] at ih
    case leaf leaf =>
      cases s
      case string | number => exact .liftFault fun _ _ => .rfl
      case raw => exact .throw _ _ _
      all_goals first | exact .pure .rfl | cases leaf
    case array e e' lengths hu =>
      simp only [Schema.runWith]
      cases v.listItems? with
      | none => exact .pure .rfl
      | some items =>
        refine .bind (.liftFault (R := Eq) fun _ _ => rfl) fun own own' same => ?_
        subst same
        refine .bind (runItems_alike (ih hu) path 0 items) fun rs rs' hrs => ?_
        exact .pure (sequenceResult_agrees _ _ hrs)
    case object shape shape' rest rest' policy hshape hrest =>
      have fields : Schema.Fieldwise (plans.ParseAlike stray links links') shape shape' :=
        Schema.Fieldwise.of_mem (fun f hf => ih.1 f.2 ⟨f, hf, rfl⟩) hshape
      simp only [Schema.runWith]
      cases v.entries? with
      | none => exact .pure .rfl
      | some entries =>
        dsimp only
        rw [← hshape.extraEntries_eq]
        refine .bind (runFields_alike fields path entries) fun fs gs hf => ?_
        cases hrest with
        | none => exact .pure (closedObject_agrees path policy _ hf)
        | some hr =>
          refine .bind (runValues_alike (ih.2 _ rfl hr) path _) fun es es' he => ?_
          exact .pure (openObject_agrees hf he)
    case union options options' hu =>
      have all : List.Forall₂ (plans.ParseAlike stray links links') options options' :=
        Schema.forall₂_of_mem ih hu
      exact runOptions_alike all path v .nil
    case tagged key options options' table table' hu htable =>
      have all : List.Forall₂ (plans.ParseAlike stray links links') options options' :=
        Schema.forall₂_of_mem ih hu
      have members : ∀ s ∈ options, schemas s := fun s hm => hs.child h hm
      cases (hs.table h).mirrors hs members hu htable
      simp only [Schema.runWith]
      cases v.entries? with
      | none => exact .pure .rfl
      | some entries =>
        dsimp only
        cases optionAt? table (valueAt entries key) with
        | none => exact .pure .rfl
        | some i => exact runOption_alike all i path v
    case intersection l l' r r' hl hr =>
      refine .bind (ih.1 hl path v) fun p p' hl => ?_
      refine .bind (ih.2 hr path v) fun q q' hr => ?_
      exact .pure (intersectionResult_agrees path hl hr)
    case tuple items items' rest rest' hitems hrest =>
      have all : List.Forall₂ (plans.ParseAlike stray links links') items items' :=
        Schema.forall₂_of_mem ih.1 hitems
      simp only [Schema.runWith]
      cases v.sequence? with
      | none => exact .pure .rfl
      | some sequence =>
        dsimp only
        rw [← hitems.length_eq]
        split
        · exact .pure .rfl
        · cases hrest with
          | some hr =>
            refine .bind (runTupleItems_alike all (ih.2 _ rfl hr) path 0 _) fun rs rs' hrs => ?_
            exact .pure (sequenceResult_agrees _ _ hrs)
          | none =>
            dsimp only
            split
            · exact .pure .rfl
            · have unread (_ : Path Live) (v : Datum) :
                  plans.Alike stray (pure (⟨v, []⟩ : Parsed)) (pure ⟨v, []⟩) Agrees := .pure .rfl
              refine .bind (runTupleItems_alike all unread path 0 _) fun rs rs' hrs => ?_
              exact .pure (sequenceResult_agrees _ _ hrs)
    case record k k' x x' hk hx =>
      simp only [Schema.runWith]
      cases v.entries? with
      | none => exact .pure .rfl
      | some entries =>
        have start : Rebuilt.Agrees {} {} := ⟨rfl, rfl, rfl⟩
        refine .bind (runEntries_alike (ih.2 hx) (ih.1 hk) _ _ 0 entries start) fun b b' hb => ?_
        exact .pure hb.parsed
    case map k k' x x' hk hx =>
      simp only [Schema.runWith]
      cases v.entries? with
      | none => exact .pure .rfl
      | some entries =>
        have start : Rebuilt.Agrees {} {} := ⟨rfl, rfl, rfl⟩
        refine .bind (runEntries_alike (ih.2 hx) (ih.1 hk) _ _ 0 entries start) fun b b' hb => ?_
        exact .pure hb.parsed
    case set e e' hu =>
      simp only [Schema.runWith]
      cases v.setItems? with
      | none => exact .pure .rfl
      | some items =>
        refine .bind (runItems_alike (ih hu) path 0 items.2) fun rs rs' hrs => ?_
        exact setResult_alike items.1 hrs
    case lazy => exact twins.enter h path v
    case refinement hu => exact refinement_alike twins (hc.effect h) (ih hu) path v
    case optional s s' hu =>
      simp only [Schema.runWith]
      split
      · exact .pure .rfl
      · exact ih hu path v
    case nullable s s' hu =>
      simp only [Schema.runWith]
      split
      · exact .pure .rfl
      · exact ih hu path v
    case readonly s s' hu =>
      refine .bind (ih hu path v) fun r t hr => ?_
      rw [hr.value]
      refine .bind (value_numbered _) fun x x' same => ?_
      exact .pure ⟨same, hr.clean⟩
    case branded s name hu => exact ih hu path v
    case pipeline s s' t t' hu hu' =>
      refine .bind (ih.1 hu path v) fun r r' hr => ?_
      exact andThen_alike hr fun x => ih.2 hu' path x
    case invertible s s' t t' parse format hu hu' =>
      have mapped x : plans.Alike stray (links.map parse path x) (links'.map parse path x) Agrees :=
        Links.apply_alike twins.deep twins.host twins.ready twins.ready' (hc.map h) path x
      refine .bind (ih.1 hu path v) fun r r' hr => ?_
      refine .bind (andThen_alike hr mapped) fun q q' hq => ?_
      exact andThen_alike hq fun x => ih.2 hu' path x

end Plans
end TwoWay
