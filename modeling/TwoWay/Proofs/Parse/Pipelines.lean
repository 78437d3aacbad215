import TwoWay.Proofs.Parse.Alternatives
import TwoWay.Proofs.Parse.Clean
import TwoWay.Schema.Method

/-!
# Pipelines

How pipelines of the same stages are nested makes no difference, and `any` is a stage that makes
none, before or after the others. This holds in every context, whichever stage gives no output or a
dirty one, and whatever was reported before (`Library.pipelines_form_monoid`).
-/

namespace TwoWay

open Reporting

theorem Schema.call_pipe (maker : Maker) {s : Schema} (given : s.isSchema) (next : Schema) :
    s.call maker (.pipe next) = (pure (.pipeline s next) : Make Schema) := by
  unfold call
  rw [given]
  rfl

/-- Stages that each go on from clean results only. -/
theorem Parsed.andThen_assoc (m : Run Parsed) (f g : Datum → Run Parsed) :
    ((m >>= fun r => r.andThen f) >>= fun r => r.andThen g) =
      m >>= fun r => r.andThen fun x => f x >>= fun r => r.andThen g := by
  rw [bind_assoc]
  refine bind_congr fun r => ?_
  by_cases clean : r.isClean = true
  · simp only [andThen, clean, if_true]
  · simp only [andThen, clean, Bool.false_eq_true, if_false, pure_bind]

/-- Going on without doing anything. -/
theorem Parsed.andThen_pure (r : Parsed) : (r.andThen fun x => return ⟨x, []⟩) = pure r := by
  unfold andThen
  by_cases clean : r.isClean = true
  · rw [if_pos clean]
    obtain ⟨x, issues⟩ := r
    obtain ⟨-, none⟩ := Parsed.isClean_iff.1 clean
    cases none
    rfl
  · rw [if_neg clean]

theorem Reporting.andThen_pure (m : Reporting Datum) : andThen m pure = m := by
  funext c
  rw [andThen_run]
  cases m c with
  | error f d => rfl
  | ok x d => exact ite_self _

/-- Going on from a value that is there. -/
theorem Reporting.pure_andThen {v : Datum} (valid : v.isInvalid = false)
    (next : Datum → Reporting Datum) : andThen (pure v) next = next v := by
  funext c
  have clean : (v.isInvalid || decide (c.2.length < c.2.length)) = false := by simp [valid]
  exact (andThen_run _ _ _).trans (if_neg (Bool.eq_false_iff.1 clean))

namespace Library

variable {lib : Library} {a b c s t : Schema} {v : Datum}

/-- Two schemas do the same with a value: they come to the same result from the same world, and in a
context they report the same issues and leave the same world, also when they fail. -/
structure Interchangeable (lib : Library) (s t : Schema) (v : Datum) : Prop where
  alone : ∀ mode depth path, s.runWith (lib.links mode depth) path v =
    t.runWith (lib.links mode depth) path v
  inContext : ∀ mode depth path w before, lib.plans.Faithful w →
    s.parseIn (lib.channel mode depth) path v (w, before) =
      t.parseIn (lib.channel mode depth) path v (w, before)

/-- No issue is lost in a parse that gives a result, and it leads to a faithful world. -/
theorem parseIn_grows {mode : Mode} {depth : Nat} {path : Path Live} {x : Datum} {w w' : World}
    {before after : List (Issue Live)} (hw : lib.plans.Faithful w)
    (h : s.parseIn (lib.channel mode depth) path v (w, before) = .ok x (w', after)) :
    lib.plans.Faithful w' ∧ before.length ≤ after.length := by
  obtain ⟨new, appends⟩ := lib.parse_appends mode depth s path v hw
  obtain ⟨r, run, -, rfl⟩ := appends.ok h
  exact ⟨runWith_faithful hw run, by simp⟩

theorem Interchangeable.pipeline (hs : ∀ v, lib.Interchangeable s t v)
    (ha : ∀ v, lib.Interchangeable a b v) (v : Datum) :
    lib.Interchangeable (.pipeline s a) (.pipeline t b) v where
  alone mode depth path := by
    have next (x : Datum) := (ha x).alone mode depth path
    simp only [Schema.runWith, (hs v).alone, next]
  inContext mode depth path w before hw := by
    simp only [Schema.parseIn, andThen_run, (hs v).inContext mode depth path w before hw]
    cases first : t.parseIn (lib.channel mode depth) path v (w, before) with
    | error f d => rfl
    | ok x d =>
      have later := (ha x).inContext mode depth path d.1 d.2 (parseIn_grows hw first).1
      dsimp only
      rw [later]

theorem pipeline_assoc (lib : Library) (a b c : Schema) (v : Datum) :
    lib.Interchangeable (.pipeline (.pipeline a b) c) (.pipeline a (.pipeline b c)) v where
  alone mode depth path := by
    simp only [Schema.runWith]
    exact Parsed.andThen_assoc _ _ _
  inContext mode depth path w before hw := by
    simp only [Schema.parseIn]
    refine andThen_assoc _ _ _ _ fun x d first => ?_
    exact (parseIn_grows hw first).2

theorem pipeline_any (lib : Library) (s : Schema) (v : Datum) :
    lib.Interchangeable (.pipeline s .any) s v where
  alone mode depth path := by
    simp only [Schema.runWith, Parsed.andThen_pure]
    exact bind_pure _
  inContext mode depth path w before _ := by
    simp only [Schema.parseIn]
    exact congrFun (andThen_pure _) _

theorem any_pipeline (lib : Library) (s : Schema) (valid : v.isInvalid = false) :
    lib.Interchangeable (.pipeline .any s) s v where
  alone mode depth path := by
    have clean : Parsed.isClean ⟨v, []⟩ = true := Parsed.isClean_iff.2 ⟨valid, rfl⟩
    simp only [Schema.runWith, pure_bind, Parsed.andThen, clean, if_true]
  inContext mode depth path w before _ := by
    simp only [Schema.parseIn]
    exact congrFun (pure_andThen valid _) _

/-- The methods that chain stages make a monoid: chains of three schemas do the same however they
are nested, `any` behind a schema changes nothing, and neither does `any` before it, on values that
are there. -/
theorem pipelines_form_monoid (lib : Library) (maker : Maker) (given : a.isSchema)
    (next : b.isSchema) (c : Schema) :
    ((do (← a.call maker (.pipe b)).call maker (.pipe c) : Make Schema) =
        pure (.pipeline (.pipeline a b) c) ∧
      (do a.call maker (.pipe (← b.call maker (.pipe c))) : Make Schema) =
        pure (.pipeline a (.pipeline b c)) ∧
      ∀ v, lib.Interchangeable (.pipeline (.pipeline a b) c) (.pipeline a (.pipeline b c)) v) ∧
    (a.call maker (.pipe .any) = (pure (.pipeline a .any) : Make Schema) ∧
      ∀ v, lib.Interchangeable (.pipeline a .any) a v) ∧
    Schema.any.call maker (.pipe a) = (pure (.pipeline .any a) : Make Schema) ∧
      ∀ v, v.isInvalid = false → lib.Interchangeable (.pipeline .any a) a v := by
  have toLeft : (do (← a.call maker (.pipe b)).call maker (.pipe c) : Make Schema) =
      pure (.pipeline (.pipeline a b) c) := by
    rw [a.call_pipe maker given, pure_bind]
    exact Schema.call_pipe maker rfl c
  have toRight : (do a.call maker (.pipe (← b.call maker (.pipe c))) : Make Schema) =
      pure (.pipeline a (.pipeline b c)) := by
    rw [b.call_pipe maker next, pure_bind]
    exact a.call_pipe maker given _
  refine ⟨⟨toLeft, toRight, lib.pipeline_assoc a b c⟩,
    ⟨a.call_pipe maker given .any, lib.pipeline_any a⟩, Schema.call_pipe maker rfl a, ?_⟩
  intro v valid
  exact lib.any_pipeline a valid

end Library

/-! The second of three stages reports an issue, after one that was reported before. -/

namespace Stages

def mapped : Schema := .effect .transform (.custom Stray.same) false .any

def doubtful : Schema := .effect .refinement (.custom Stray.report) false .any

def before : Issue Live := ⟨.custom, "before", [], []⟩

def boom : Issue Live := ⟨.custom, "boom", [], []⟩

def maker : Maker := Stray.library.plans.maker 0 0

/-- However the stages are nested, the mapping of the first one is called and that of the third one
is not, and the dirty output of the second one is the result. -/
theorem third_stage_skipped :
    (do (← mapped.call maker (.pipe doubtful)).call maker (.pipe mapped)) =
      (pure (.pipeline (.pipeline mapped doubtful) mapped) : Make Schema) ∧
    (Schema.pipeline (.pipeline mapped doubtful) mapped).parseIn
        (Stray.library.channel .sync 0) [] (.int 4) ({}, [before]) =
      .ok (.int 4) ({ journal := [.called Stray.report [.int 4], .called Stray.same [.int 4]] },
        [before, boom]) ∧
    (Schema.pipeline .any mapped).parseIn (Stray.library.channel .sync 0) [] (.int 4)
        ({}, [before]) =
      .ok (.int 4) ({ journal := [.called Stray.same [.int 4]] }, [before]) := by
  have given : mapped.isSchema = true := rfl
  have next : doubtful.isSchema = true := rfl
  obtain ⟨⟨toLeft, -, nested⟩, -, -, first⟩ :=
    Stray.library.pipelines_form_monoid maker given next mapped
  have right : (Schema.pipeline mapped (.pipeline doubtful mapped)).parseIn
      (Stray.library.channel .sync 0) [] (.int 4) ({}, [before]) =
      .ok (.int 4) ({ journal := [.called Stray.report [.int 4], .called Stray.same [.int 4]] },
        [before, boom]) := rfl
  have alone : mapped.parseIn (Stray.library.channel .sync 0) [] (.int 4) ({}, [before]) =
      .ok (.int 4) ({ journal := [.called Stray.same [.int 4]] }, [before]) := rfl
  refine ⟨toLeft, ?_, ?_⟩
  · exact ((nested (.int 4)).inContext .sync 0 [] {} [before] .empty).trans right
  · exact ((first (.int 4) rfl).inContext .sync 0 [] {} [before] .empty).trans alone

end Stages
end TwoWay
