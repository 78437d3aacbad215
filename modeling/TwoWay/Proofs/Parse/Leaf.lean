import TwoWay.Parse.Leaf
import TwoWay.Proofs.Issue.Below

/-!
# Leaves

A leaf gives the value itself or refuses it, and it reports at its path (`Parsed.OfLeaf`).
-/

namespace TwoWay

/-- What a computation gives, if it is without a fault, has `Q`. -/
def Sound {α : Type} (m : Except Fault α) (Q : α → Prop) : Prop := ∀ a, m = .ok a → Q a

namespace Sound

variable {α β : Type}

theorem pure {a : α} {Q : α → Prop} (h : Q a) : Sound (Pure.pure a) Q :=
  fun _ ha => Except.ok.inj ha ▸ h

theorem throw (f : Fault) (Q : α → Prop) : Sound (throw f) Q := nofun

theorem any (m : Except Fault α) : Sound m fun _ => True := fun _ _ => trivial

theorem bind {m : Except Fault α} {k : α → Except Fault β} {P : α → Prop} {Q : β → Prop}
    (hm : Sound m P) (hk : ∀ a, P a → Sound (k a) Q) : Sound (m >>= k) Q := by
  cases m with
  | ok a => exact hk a (hm a rfl)
  | error f => exact nofun

end Sound

section
variable {path : Path Live}

theorem boundIssue_at (code : IssueCode) (message detail : String) (bound : Datum) :
    (boundIssue path code message detail bound).At path := ⟨rfl, by simp [Issue.Plain, boundIssue]⟩

theorem at_of_mem_if {c : Bool} {i : Issue Live} (h : i.At path) :
    ∀ j ∈ if c then [i] else [], j.At path := by
  cases c with
  | true => exact List.forall_mem_singleton.2 h
  | false => exact nofun

theorem lengthIssues_at (owner noun : String) (lengths : Lengths Live) (size : Nat) :
    Sound (lengthIssues path owner noun lengths size) fun issues => ∀ i ∈ issues, i.At path := by
  unfold lengthIssues
  dsimp only
  split <;> refine .bind (.any _) fun short _ => ?_
  all_goals
    split <;> refine .bind (.any _) fun long _ => .pure (List.forall_mem_append.2 ⟨?_, ?_⟩)
    all_goals exact at_of_mem_if ⟨rfl, by simp [Issue.Plain, boundIssue]⟩

theorem patternIssues_at (pattern : Option WrittenPattern) (text : String) :
    Sound (patternIssues path pattern text) fun issues => ∀ i ∈ issues, i.At path := by
  have refused (message : String) :
      ∀ i ∈ [(⟨.invalidString, message, path, []⟩ : Issue Live)], i.At path :=
    List.forall_mem_singleton.2 ⟨rfl, nofun⟩
  unfold patternIssues
  split
  · exact .pure nofun
  · exact .throw _ _
  · split
    · split
      · exact .pure nofun
      · exact .pure (refused _)
    · exact .pure (refused _)

theorem numberBound_at (code : IssueCode) (relation detail : String)
    (holds : Datum → Datum → Except Fault Bool) (v bound : Datum) :
    Sound (numberBound path code relation detail holds v bound) fun issues =>
      ∀ i ∈ issues, i.At path := by
  unfold numberBound
  split
  · exact .pure nofun
  · refine .bind (.any _) fun held _ => ?_
    split
    · exact .pure nofun
    · exact .pure (List.forall_mem_singleton.2 (boundIssue_at ..))

end

/-- The result of a leaf. -/
structure Parsed.OfLeaf (path : Path Live) (v : Datum) (r : Parsed) : Prop where
  value : r.value = v ∨ r.value = .invalid ∧ r.issues ≠ []
  issues : ∀ i ∈ r.issues, i.At path

namespace Parsed.OfLeaf

variable {path : Path Live} {v : Datum}

theorem accepted {issues : List (Issue Live)} (h : ∀ i ∈ issues, i.At path) :
    OfLeaf path v ⟨v, issues⟩ := ⟨.inl rfl, h⟩

theorem refused {i : Issue Live} (h : i.At path) : OfLeaf path v (.refused i) :=
  ⟨.inr ⟨rfl, List.cons_ne_nil _ _⟩, List.forall_mem_singleton.2 h⟩

theorem wrongType (expected message : String) (received : Datum) :
    OfLeaf path v (wrongType path expected message received) :=
  refused ⟨rfl, by simp [Issue.Plain]⟩

end Parsed.OfLeaf

section
variable {path : Path Live} {v : Datum}

theorem parseNumber_leaf (bounds : Bounds Live) (integer : Bool) :
    Sound (parseNumber bounds integer path v) (Parsed.OfLeaf path v) := by
  unfold parseNumber
  split
  · exact .pure (.wrongType ..)
  · have fraction (whole : Bool) (message : String) :
        ∀ i ∈ if whole then [] else [(⟨.notInteger, message, path, []⟩ : Issue Live)],
          i.At path := by
      cases whole with
      | true => exact nofun
      | false => exact List.forall_mem_singleton.2 ⟨rfl, nofun⟩
    refine .bind (numberBound_at _ _ _ _ _ _) fun above hab => ?_
    refine .bind (numberBound_at _ _ _ _ _ _) fun atLeast hal => ?_
    refine .bind (numberBound_at _ _ _ _ _ _) fun below hbe => ?_
    refine .bind (numberBound_at _ _ _ _ _ _) fun atMost ham => ?_
    refine .pure (.accepted ?_)
    simp only [List.forall_mem_append]
    exact ⟨⟨⟨⟨fraction _ _, hab⟩, hal⟩, hbe⟩, ham⟩

theorem parseBoolean_leaf : (parseBoolean path v).OfLeaf path v := by
  unfold parseBoolean
  split
  · exact .accepted nofun
  · exact .wrongType ..

theorem parseNone_leaf : (parseNone path v).OfLeaf path v := by
  unfold parseNone
  split
  · exact .accepted nofun
  · exact .wrongType ..

theorem parseNever_leaf : (parseNever path v).OfLeaf path v := .wrongType ..

theorem parseLiteral_leaf (value : Datum) : (parseLiteral value path v).OfLeaf path v := by
  unfold parseLiteral
  split
  · exact .accepted nofun
  · exact .refused ⟨rfl, by simp [Issue.Plain]⟩

theorem parseEnum_leaf (values : List Datum) : (parseEnum values path v).OfLeaf path v := by
  unfold parseEnum
  split
  · exact .accepted nofun
  · exact .refused ⟨rfl, by simp [Issue.Plain]⟩

end
end TwoWay
