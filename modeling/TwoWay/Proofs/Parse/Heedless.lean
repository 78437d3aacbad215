import TwoWay.Proofs.Parse.Conduct

/-!
# The journal is not read

What has happened before a parse has no influence on it: with another journal it ends in the same
way, adds the same events and leaves the same world but for the journal (`Library.runs_heedless`).
-/

namespace TwoWay

/-- A world in which something else has happened. -/
def World.telling (w : World) (journal : List Event) : World := { w with journal := journal }

/-- A run from a world ends in the same way whatever has happened before, and adds the same to
that. -/
def Run.Heedless {α : Type} (m : Run α) (w : World) : Prop :=
  ∃ new, ∀ journal, m.result (w.telling journal) = m.result w ∧
    m.final (w.telling journal) = (m.final w).telling (new ++ journal)

namespace Run.Heedless

variable {α β : Type} {m : Run α} {w : World}

theorem adds (h : m.Heedless w) : ∃ new, (m.final w).journal = new ++ w.journal ∧
    ∀ journal, m.result (w.telling journal) = m.result w ∧
      m.final (w.telling journal) = (m.final w).telling (new ++ journal) := by
  obtain ⟨new, ends⟩ := h
  exact ⟨new, congrArg World.journal (ends w.journal).2, ends⟩

/-- What a heedless run comes to it comes to with another journal too. -/
theorem ok (h : m.Heedless w) {a : α} {w' : World} (ha : m w = .ok a w') :
    ∃ new, w'.journal = new ++ w.journal ∧
      ∀ journal, m (w.telling journal) = .ok a (w'.telling (new ++ journal)) := by
  obtain ⟨new, added, ends⟩ := h.adds
  have result : m.result w = .ok a := Run.result_ok.2 ⟨w', ha⟩
  have final : m.final w = w' := by rw [Run.final, ha]
  refine ⟨new, final ▸ added, fun journal => ?_⟩
  obtain ⟨same, leads⟩ := ends journal
  obtain ⟨u, hu⟩ := Run.result_ok.1 (same.trans result)
  have there : m.final (w.telling journal) = u := by rw [Run.final, hu]
  rw [hu, ← there, leads, final]

theorem pure (a : α) (w : World) : Run.Heedless (Pure.pure a) w := ⟨[], fun _ => ⟨rfl, rfl⟩⟩

theorem throw (f : Failure) (w : World) : Run.Heedless (throw f : Run α) w :=
  ⟨[], fun _ => ⟨rfl, rfl⟩⟩

theorem record (e : Event) (w : World) : Run.Heedless (Run.record e) w :=
  ⟨[e], fun _ => ⟨rfl, rfl⟩⟩

theorem blind (h : m.Blind) (w : World) : m.Heedless w := by
  refine ⟨[], fun journal => ?_⟩
  obtain ⟨result, final⟩ := h w (w.telling journal)
  refine ⟨result, final.trans ?_⟩
  rw [h.final w]
  rfl

theorem bind {k : α → Run β} (hm : m.Heedless w)
    (hk : ∀ a, m.result w = .ok a → (k a).Heedless (m.final w)) : (m >>= k).Heedless w := by
  obtain ⟨new, ends⟩ := hm
  cases result : m.result w with
  | error f =>
    refine ⟨new, fun journal => ?_⟩
    obtain ⟨same, leads⟩ := ends journal
    simp only [Run.result_bind, Run.final_bind, same, result, true_and]
    exact leads
  | ok a =>
    obtain ⟨later, ends'⟩ := hk a result
    refine ⟨later ++ new, fun journal => ?_⟩
    obtain ⟨same, leads⟩ := ends journal
    simp only [Run.result_bind, Run.final_bind, same, result, leads, List.append_assoc]
    exact ends' (new ++ journal)

/-- Neither what is known nor what is kept depends on what has happened. -/
theorem lookUp {known : World → Option Schema} {m : Run Schema} {keep : Schema → World → World}
    (hm : ∀ w, m.Heedless w) (hknown : ∀ w journal, known (w.telling journal) = known w)
    (hkeep : ∀ s w journal, keep s (w.telling journal) = (keep s w).telling journal) (w : World) :
    (Run.lookUp known m keep).Heedless w := by
  have kept (s : Schema) (u : World) :
      Run.Heedless (do modify (keep s); return s : Run Schema) u :=
    ⟨[], fun journal => ⟨rfl, hkeep s u journal⟩⟩
  cases found : known w with
  | some s =>
    refine ⟨[], fun journal => ?_⟩
    simp only [Run.lookUp, Run.result_bind, Run.final_bind, Run.result_get, Run.final_get, hknown,
      found]
    exact ⟨rfl, rfl⟩
  | none =>
    obtain ⟨new, ends⟩ := (hm w).bind fun s _ => kept s _
    refine ⟨new, fun journal => ?_⟩
    have made := ends journal
    simp only [Run.lookUp, Run.result_bind (get : Run World), Run.final_bind (get : Run World),
      Run.result_get, Run.final_get, hknown, found]
    exact made

end Run.Heedless

/-- Runs are heedless however they are put together. -/
def Run.heedlessly : Run.Law Unit where
  Holds m := ∀ w, (m ()).Heedless w
  pure := .pure
  fail := .throw
  log _ := .record _
  bind hm hk w := .bind (hm w) fun a _ => hk a _

namespace Plans

theorem announce_heedless (plans : Plans) (fn : FunctionRef) (w : World) :
    (plans.announce fn).Heedless w := by
  refine (Run.Heedless.record _ w).bind fun _ _ => ?_
  unfold noteLabel
  split
  · exact .record _ _
  · exact .pure () _

theorem heedlessly_recalls (plans : Plans) : Run.heedlessly.Recalls plans where
  getter _ fn _ h := .lookUp (fun w => (plans.announce_heedless fn w).bind fun _ _ => h _)
    (fun _ _ => rfl) fun _ _ _ => rfl
  inverse _ _ _ _ _ h := .lookUp h (fun _ _ => rfl) fun _ _ _ => rfl
  shared _ _ h := .lookUp h (fun _ _ => rfl) fun _ _ _ => rfl

theorem force_heedless (plans : Plans) (depth : Nat) (id : LazyId) (origin : Origin) (w : World) :
    (plans.force depth id origin).Heedless w := (plans.heedlessly_recalls.looks depth).1 id origin w

end Plans

/-- Parses are heedless from world to world. -/
def Run.heeding : Course where
  Holds m w := m.Heedless w
  blind h := .blind h _
  idle _ := .record _ _
  bind := .bind
  grows h := by
    obtain ⟨new, added, -⟩ := h.adds
    exact ⟨new, added.symm⟩

namespace Library

variable (lib : Library)

theorem channels_heedless (mode : Mode) (depth : Nat) :
    Channel.Obey (Run.heeding.after lib.plans fun _ => False) .all
      fun _ => lib.channel mode depth :=
  channels_calling (fun fn args w _ _ => .record (.called fn args) w)
    (fun depth id origin w _ _ => lib.plans.force_heedless depth id origin w) (fun _ => mode)
    (fun _ => Run.heeding.after_suspend _ _) depth

/-- A parse ends in the same way whatever has happened before. -/
theorem runs_heedless (mode : Mode) (depth : Nat) (s : Schema) (path : Path Live) (v : Datum) :
    (Run.heeding.after lib.plans fun _ => False).Obeys
      (fun _ => s.runWith (lib.links mode depth) path v) fun _ => True := by
  have parses := Schema.parses (Allowance.all_closed _) (lib.channels_heedless mode depth)
    (s := s) trivial path v (.inl v.keeps_all)
  simpa only [channel_links] using parses.plain

theorem values_heedless (mode : Mode) (depth : Nat) (s : Schema) (path : Path Live)
    (entries : Entries Live) : (Run.heeding.after lib.plans fun _ => False).Obeys
      (fun _ => runValues (fun p x => s.runWith (lib.links mode depth) p x) path entries)
      fun _ => True :=
  runValues_obeys path fun p e _ => lib.runs_heedless mode depth s p e.2

end Library
end TwoWay
