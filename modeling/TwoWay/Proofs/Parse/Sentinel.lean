import TwoWay.Proofs.Parse.Independence

/-!
# Sentinels stay inside

The sentinel `invalid` stands for an output that could not be produced, and `missing` for the
value of an absent key. Neither shows in what a parse gives, but for `missing` itself where
there was no value to begin with, and there is always a reason for `invalid`.
-/

namespace TwoWay

/-- Values free of sentinels. Their awaitables give such values and parse with `schemas`. -/
def Library.sentinelFree (lib : Library) (schemas : Schema → Prop) : Allowance :=
  ⟨False, (lib.host.isAsync ·), schemas⟩

/-- Of schemas that supply no sentinels, a node gives `invalid` only with an issue, and
otherwise a value free of sentinels, or `missing` for `missing`. In a context that issue comes
after those that were there. A whole parse gives such a value or fails. It fails as the node
does, or for being asked of what is no schema, or for the issues of the node, of which there
are some: the issue that stands in for a missing reason is never needed. -/
theorem Library.sentinels_stay_inside {lib : Library} {schemas : Schema → Prop}
    (hc : (lib.sentinelFree schemas).Closed lib.plans)
    (hh : lib.host.Keeps (lib.sentinelFree schemas)) {s : Schema} (hs : schemas s) {v : Datum}
    (hv : v.Keeps (lib.sentinelFree schemas) ∨ v = .missing) (mode : Mode) (depth : Nat)
    {w : World} (hw : lib.plans.Faithful w) :
    (∀ path r w', s.runWith (lib.links mode depth) path v w = .ok r w' →
      (r.value = .invalid → r.issues ≠ []) ∧
      (r.value ≠ .invalid →
        r.value.Keeps (lib.sentinelFree schemas) ∨ v = .missing ∧ r.value = .missing)) ∧
    (∀ path before x w' after,
      s.parseIn (lib.channel mode depth) path v (w, before) = .ok x (w', after) →
      (x = .invalid → ∃ new, new ≠ [] ∧ after = before ++ new) ∧
      (x ≠ .invalid →
        x.Keeps (lib.sentinelFree schemas) ∨ v = .missing ∧ x = .missing)) ∧
    (∀ x w', lib.parse mode depth s v w = .ok x w' →
      x.Keeps (lib.sentinelFree schemas) ∨ v = .missing ∧ x = .missing) ∧
    ∀ f w', lib.parse mode depth s v w = .error f w' →
      s.runWith (lib.links mode depth) [] v w = .error f w' ∨ s.isSchema = false ∨
      ∃ r, s.runWith (lib.links mode depth) [] v w = .ok r w' ∧ r.issues ≠ [] ∧
        f = .ofIssues r.issues := by
  have tracked path := Library.parseIn_tracks hc hh mode depth hs path
    (hv.imp_right fun hv => ⟨trivial, hv⟩)
  have node {path r w'} (h : s.runWith (lib.links mode depth) path v w = .ok r w') :
      (r.value = .invalid → r.issues ≠ []) ∧
      (r.value ≠ .invalid →
        r.value.Keeps (lib.sentinelFree schemas) ∨ v = .missing ∧ r.value = .missing) := by
    have result := ((tracked path).ensures.ok hw h).2
    refine ⟨fun hr => ?_, fun hr => result.value.resolve_right fun h => hr h.1⟩
    exact (result.excused (by rw [hr]; rfl)).resolve_left id
  refine ⟨fun path r w' h => node h, fun path before x w' after h => ?_, fun x w' h => ?_,
    fun f w' h => ?_⟩
  · obtain ⟨new, appends, -⟩ := (tracked path).appends hw
    obtain ⟨r, hr, rfl, rfl⟩ := appends.ok h
    obtain ⟨reported, output⟩ := node hr
    exact ⟨fun invalid => ⟨r.issues, reported invalid, rfl⟩, output⟩
  · obtain ⟨-, r, hr, hx⟩ := Library.parse_ok.1 h
    obtain ⟨-, valid, rfl⟩ := Parsed.finish_ok.1 hx
    exact (node hr).2 fun hn => by simp [hn, Value.isInvalid] at valid
  · cases hschema : s.isSchema with
    | false => exact .inr (.inl rfl)
    | true =>
      refine ((Library.parse_error hschema).1 h).imp_right ?_
      rintro ⟨r, hr, hf⟩
      refine .inr ⟨r, hr, (Parsed.finish_error.1 hf).resolve_right ?_⟩
      rintro ⟨quiet, invalid, -⟩
      refine (node hr).1 ?_ quiet
      cases hv : r.value <;> simp_all [Value.isInvalid]

namespace Chain

def input : Datum := .dict .free [(.str "next", .dict .free [(.str "count", .int 2)])]

def output : Datum := .dict .free [(.str "count", .int 0),
  (.str "next", .dict .free [(.str "count", .int 2)])]

/-- No sentinel tells of the count and the next mapping that are missing. -/
theorem output_sentinel_free :
    (∃ w, library.parse .sync 3 (.lazy (.step 0) (.getter getter)) input {} = .ok output w) ∧
      (output.Keeps (library.sentinelFree Part) ∨ input = .missing ∧ output = .missing) := by
  have kept : input.Keeps (library.sentinelFree Part) := by
    simp [input, Entries.Keeps, Value.Keeps.str, Value.Keeps.int]
  have parsed : ∃ w, library.parse .sync 3 (.lazy (.step 0) (.getter getter)) input {} =
      .ok output w := ⟨_, rfl⟩
  obtain ⟨w, hw⟩ := parsed
  exact ⟨⟨w, hw⟩, (Library.sentinels_stay_inside (closed _ _) (host_keeps _) (.chain (.step 0))
    (.inl kept) .sync 3 .empty).2.2.1 output w hw⟩

end Chain
end TwoWay
