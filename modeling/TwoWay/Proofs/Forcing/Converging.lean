import TwoWay.Proofs.Forcing.Memory

/-!
# Runs that converge

What is made without memory is made within a depth. Two families of such runs converge if what the
one comes to within a depth, other than going too deep, the other comes to from some depth on, in
relation or with the same failure, and the other way round. All ways of putting runs together keep
that.
-/

namespace TwoWay

namespace Run

variable {α β γ δ : Type}

/-- From some depth on a run ends in one way in all worlds. -/
def Settles (n : Nat → Run α) (r : Except Failure α) : Prop := ∃ d, ∀ k ≥ d, ∀ w, (n k).result w = r

/-- What a run comes to, unless it goes too deep, others come to from some depth on. -/
def Follows (R : α → β → Prop) (m : Run α) (n : Nat → Run β) : Prop := ∀ w,
  (∀ a, m.result w = .ok a → ∃ b, R a b ∧ Settles n (.ok b)) ∧
    ∀ f, m.result w = .error f → f = .fault .tooDeep ∨ Settles n (.error f)

theorem Settles.unique {n : Nat → Run α} {r t : Except Failure α} (hr : Settles n r)
    (ht : Settles n t) : r = t := by
  obtain ⟨d, hd⟩ := hr
  obtain ⟨e, he⟩ := ht
  exact (hd (max d e) (Nat.le_max_left ..) {}).symm.trans (he (max d e) (Nat.le_max_right ..) {})

theorem Settles.pure (a : α) : Settles (fun _ => Pure.pure a) (.ok a) := ⟨0, fun _ _ _ => rfl⟩

theorem Settles.throw (f : Failure) : Settles (fun _ => (MonadExcept.throw f : Run α)) (.error f) :=
  ⟨0, fun _ _ _ => rfl⟩

theorem Settles.bind {n : Nat → Run α} {l : Nat → α → Run β} {a : α} {r : Except Failure β}
    (hn : Settles n (.ok a)) (hl : Settles (fun i => l i a) r) :
    Settles (fun i => n i >>= l i) r := by
  obtain ⟨d, hd⟩ := hn
  obtain ⟨e, he⟩ := hl
  refine ⟨max d e, fun k hk w => ?_⟩
  rw [result_bind, hd k (by omega)]
  exact he k (by omega) _

theorem Settles.bind_error {n : Nat → Run α} {l : Nat → α → Run β} {f : Failure}
    (hn : Settles n (.error f)) : Settles (fun i => n i >>= l i) (.error f) := by
  obtain ⟨d, hd⟩ := hn
  exact ⟨d, fun k hk w => by rw [result_bind, hd k hk]⟩

/-- What is settled at a depth is settled one further, too. -/
theorem Settles.succ {n n' : Nat → Run α} {r : Except Failure α} (h : Settles n r)
    (hn : ∀ k w, (n' (k + 1)).result w = (n k).result w) : Settles n' r := by
  obtain ⟨d, hd⟩ := h
  refine ⟨d + 1, fun k hk w => ?_⟩
  cases k with
  | zero => omega
  | succ k => rw [hn, hd k (by omega)]

namespace Follows

variable {R : α → β → Prop} {Q : γ → δ → Prop} {m : Run α} {n : Nat → Run β}

theorem pure {a : α} {b : β} (h : R a b) : Follows R (Pure.pure a) fun _ => Pure.pure b := by
  intro w
  refine ⟨?_, nofun⟩
  rintro _ ⟨⟩
  exact ⟨b, h, .pure b⟩

theorem throw (f : Failure) : Follows R (MonadExcept.throw f) fun _ => MonadExcept.throw f := by
  intro w
  refine ⟨nofun, ?_⟩
  rintro _ ⟨⟩
  exact .inr (.throw f)

theorem deep : Follows R (MonadExcept.throw (.fault .tooDeep)) n := by
  intro w
  refine ⟨nofun, ?_⟩
  rintro _ ⟨⟩
  exact .inl rfl

theorem bind {k : α → Run γ} {l : Nat → β → Run δ} (h : Follows R m n)
    (hk : ∀ {a b}, R a b → Follows Q (k a) fun i => l i b) :
    Follows Q (m >>= k) fun i => n i >>= l i := by
  intro w
  obtain ⟨good, bad⟩ := h w
  rw [result_bind]
  cases hm : m.result w with
  | ok a =>
    obtain ⟨b, related, settled⟩ := good a hm
    obtain ⟨good', bad'⟩ := hk related (m.final w)
    refine ⟨fun c hc => ?_, fun f hf => (bad' f hf).imp_right settled.bind⟩
    obtain ⟨d, related', settled'⟩ := good' c hc
    exact ⟨d, related', settled.bind settled'⟩
  | error f =>
    refine ⟨nofun, ?_⟩
    rintro _ ⟨⟩
    exact (bad f hm).imp_right Settles.bind_error

theorem weaken {R' : α → β → Prop} (h : Follows R m n) (hr : ∀ {a b}, R a b → R' a b) :
    Follows R' m n := by
  intro w
  obtain ⟨good, bad⟩ := h w
  exact ⟨fun a ha => (good a ha).imp fun _ => And.imp_left hr, bad⟩

/-- What is said on the way does not matter. -/
theorem said {said : Run Unit} (hs : ∀ w, said.result w = .ok ()) (h : Follows R m n) :
    Follows R (do said; m : Run α) n := by
  intro w
  rw [result_bind, hs]
  exact h _

theorem said_right {said : Run Unit} (hs : ∀ w, said.result w = .ok ()) (h : Follows R m n) :
    Follows R m fun i => (do said; n i : Run β) := by
  have go {r : Except Failure β} (hr : Settles n r) :
      Settles (fun i => (do said; n i : Run β)) r := by
    obtain ⟨d, hd⟩ := hr
    exact ⟨d, fun k hk w => by rw [result_bind, hs, hd k hk]⟩
  intro w
  obtain ⟨good, bad⟩ := h w
  exact ⟨fun a ha => (good a ha).imp fun _ => And.imp_right go, fun f hf => (bad f hf).imp_right go⟩

/-- What is followed at a depth is followed one further, too. -/
theorem succ {n' : Nat → Run β} (h : Follows R m n)
    (hn : ∀ k w, (n' (k + 1)).result w = (n k).result w) : Follows R m n' := by
  intro w
  obtain ⟨good, bad⟩ := h w
  exact ⟨fun a ha => (good a ha).imp fun _ => And.imp_right (·.succ hn),
    fun f hf => (bad f hf).imp_right (·.succ hn)⟩

theorem trans {S : β → γ → Prop} {p : Nat → Run γ} (h : Follows R m n)
    (h' : ∀ i, Follows S (n i) p) : Follows (fun a c => ∃ b, R a b ∧ S b c) m p := by
  intro w
  obtain ⟨good, bad⟩ := h w
  refine ⟨fun a ha => ?_, fun f hf => ?_⟩
  · obtain ⟨b, related, d, hd⟩ := good a ha
    obtain ⟨c, related', settled⟩ := (h' d {}).1 b (hd d (Nat.le_refl d) {})
    exact ⟨c, ⟨b, related, related'⟩, settled⟩
  · refine (bad f hf).elim .inl fun ⟨d, hd⟩ => ?_
    exact (h' d {}).2 f (hd d (Nat.le_refl d) {})

/-- A run that more depth does not change follows itself. -/
theorem of_deeper {n : Nat → Run α} {R : α → α → Prop} (refl : ∀ a, R a a) {d : Nat}
    (h : ∀ k ≥ d, ∀ w w', (n d).result w = tooDeep ∨ (n k).result w' = (n d).result w) :
    Follows R (n d) n := by
  intro w
  refine ⟨fun a ha => ⟨a, refl a, d, fun k hk w' => ?_⟩, fun f hf => ?_⟩
  · exact ((h k hk w w').resolve_left (ha ▸ ok_ne_tooDeep a)).trans ha
  · by_cases deep : f = .fault .tooDeep
    · exact .inl deep
    · refine .inr ⟨d, fun k hk w' => ?_⟩
      have shallow : (n d).result w ≠ tooDeep :=
        fun same => deep (Except.error.inj (hf.symm.trans same))
      exact ((h k hk w w').resolve_left shallow).trans hf

end Follows

/-- Within a depth each of two families of runs comes to what the other one does. -/
structure Converge (d : Nat) (R : α → β → Prop) (m : Nat → Run α) (n : Nat → Run β) : Prop where
  left : Follows R (m d) n
  right : Follows (flip R) (n d) m

namespace Converge

variable {d : Nat} {R : α → β → Prop} {Q : γ → δ → Prop} {m : Nat → Run α} {n : Nat → Run β}

theorem pure {a : α} {b : β} (h : R a b) :
    Converge d R (fun _ => Pure.pure a) fun _ => Pure.pure b := ⟨.pure h, .pure h⟩

theorem throw (f : Failure) :
    Converge d R (fun _ => MonadExcept.throw f) fun _ => MonadExcept.throw f :=
  ⟨.throw f, .throw f⟩

theorem bind {k : Nat → α → Run γ} {l : Nat → β → Run δ} (h : Converge d R m n)
    (hk : ∀ {a b}, R a b → Converge d Q (fun i => k i a) fun i => l i b) :
    Converge d Q (fun i => m i >>= k i) fun i => n i >>= l i :=
  ⟨h.left.bind fun related => (hk related).left, h.right.bind fun related => (hk related).right⟩

theorem weaken {R' : α → β → Prop} (h : Converge d R m n) (hr : ∀ {a b}, R a b → R' a b) :
    Converge d R' m n := ⟨h.left.weaken hr, h.right.weaken hr⟩

theorem said {said : Run Unit} (hs : ∀ w, said.result w = .ok ()) (h : Converge d R m n) :
    Converge d R (fun i => (do said; m i : Run α)) n := ⟨h.left.said hs, h.right.said_right hs⟩

/-- What more depth does not change converges with itself. -/
theorem self {n : Nat → Run α}
    (h : ∀ k ≥ d, ∀ w w', (n d).result w = tooDeep ∨ (n k).result w' = (n d).result w) :
    Converge d Eq n n :=
  ⟨.of_deeper (fun _ => rfl) h, .of_deeper (R := flip Eq) (fun _ => rfl) h⟩

/-- What does not depend on the depth or on the world converges with itself. -/
theorem same {m : Run α} (h : deeper.Holds fun _ => m) :
    Converge d Eq (fun _ => m) fun _ => m := by
  exact .self (n := fun _ => m) fun _ _ => h

end Converge
end Run

/-- What is made converges, whatever was counted before. -/
def Make.Converge {α β : Type} (d : Nat) (R : α → β → Prop) (m : Nat → Make α)
    (n : Nat → Make β) : Prop :=
  ∀ i, Run.Converge d (fun p q => R p.1 q.1 ∧ p.2 = q.2) (fun k => m k i) fun k => n k i

namespace Make.Converge

variable {α β γ δ : Type} {d : Nat} {R : α → β → Prop} {Q : γ → δ → Prop} {m : Nat → Make α}
  {n : Nat → Make β}

theorem pure {a : α} {b : β} (h : R a b) :
    Converge d R (fun _ => Pure.pure a) fun _ => Pure.pure b := fun _ => .pure ⟨h, rfl⟩

theorem fail (f : Failure) : Converge d R (fun _ => Make.fail f) fun _ => Make.fail f :=
  fun _ => .throw f

theorem bind {k : Nat → α → Make γ} {l : Nat → β → Make δ} (h : Converge d R m n)
    (hk : ∀ {a b}, R a b → Converge d Q (fun i => k i a) fun i => l i b) :
    Converge d Q (fun i => m i >>= k i) fun i => n i >>= l i := by
  refine fun i => .bind (h i) fun {p q} related => ?_
  obtain ⟨a, i⟩ := p
  obtain ⟨b, j⟩ := q
  obtain ⟨related, rfl⟩ : R a b ∧ i = j := related
  exact hk related i

theorem map {f : α → γ} {g : β → δ} (h : Converge d R m n) (hr : ∀ {a b}, R a b → Q (f a) (g b)) :
    Converge d Q (fun i => f <$> m i) fun i => g <$> n i :=
  .bind h fun related => .pure (hr related)

theorem lift {m : Nat → Run α} {n : Nat → Run β} (h : Run.Converge d R m n) :
    Converge d R (fun i => (liftM (m i) : Make α)) fun i => (liftM (n i) : Make β) :=
  fun _ => .bind h fun related => .pure ⟨related, rfl⟩

/-- What is said on the way does not matter. -/
theorem said {said : Run Unit} (hs : ∀ w, said.result w = .ok ()) (h : Converge d R m n) :
    Converge d R (fun i => (do (liftM said : Make Unit); m i : Make α)) n := by
  intro i
  have same (k : Nat) : (do (liftM said : Make Unit); m k : Make α) i =
      (do said; m k i : Run (α × Nat)) := by
    change (do let u ← said; return (u, i)) >>= _ = _
    rw [bind_assoc]
    rfl
  simp only [same]
  exact .said hs (h i)

/-- What is made counts from zero. -/
theorem run (h : Converge d R m n) :
    Run.Converge d R (fun i => (m i).run' 0) fun i => (n i).run' 0 := by
  simp only [StateT.run', ← bind_pure_comp]
  exact .bind (h 0) fun related => .pure related.1

end Make.Converge
end TwoWay
