import TwoWay.Proofs.Inversion.Routing
import TwoWay.Proofs.Parse.Extending
import TwoWay.Proofs.Parse.Pipelines

/-!
# Containers that coincide

A record whose keys are texts and an object without fields that has a schema for other keys go
through a mapping each in a loop of its own, as do an array and a tuple without items of its own
that has a schema for further ones. On what both of them read they do the same
(`Library.containers_coincide`).
-/

namespace TwoWay

open Reporting

/-- Writes an entry whose key stays as it is. -/
def Rebuilt.keep (b : Rebuilt) (e : Datum × Parsed) : Rebuilt where
  entries := if e.2.value.isInvalid then b.entries else b.entries.put e.1 e.2.value
  failed := b.failed || e.2.value.isInvalid
  issues := b.issues ++ e.2.issues

namespace Rebuilt

theorem add_text (b : Rebuilt) (name : String) (r : Parsed) :
    b.add ⟨.str name, []⟩ r = pure (b.keep (.str name, r)) := by
  obtain ⟨x, issues⟩ := r
  have valid : (Value.str name : Datum).isInvalid = false := rfl
  simp only [add, keep, valid, Bool.false_or, List.append_nil]
  cases x.isInvalid
  · simp only [Bool.false_eq_true, if_false, Bool.or_false]
    rfl
  · simp only [if_true, Bool.or_true]

/-- Entries under keys of their own are written one after the other, but for those without a
value. -/
theorem foldl_keep {rs : List (Datum × Parsed)} {b : Rebuilt}
    (apart : (b.entries.map (·.1) ++ rs.map (·.1)).Pairwise fun k l => k.agrees l = false) :
    rs.foldl keep b = {
      entries := b.entries ++
        (rs.filter fun e => !e.2.value.isInvalid).map fun e => (e.1, e.2.value)
      failed := b.failed || Parsed.anyInvalid (rs.map (·.2))
      issues := b.issues ++ Parsed.allIssues (rs.map (·.2)) } := by
  induction rs generalizing b with
  | nil => simp [Parsed.anyInvalid, Parsed.allIssues]
  | cons e rs ih =>
    obtain ⟨k, r⟩ := e
    rw [List.foldl_cons]
    cases invalid : r.value.isInvalid with
    | true =>
      have entries : (b.keep (k, r)).entries = b.entries := if_pos invalid
      rw [ih (by
        rw [entries]
        refine apart.sublist (List.Sublist.append (.refl _) ?_)
        exact List.sublist_cons_self ..), entries]
      simp [keep, Parsed.anyInvalid, Parsed.allIssues, invalid]
    | false =>
      have entries : (b.keep (k, r)).entries = b.entries ++ [(k, r.value)] := by
        rw [keep, if_neg (Bool.eq_false_iff.1 invalid)]
        refine put_new _ fun l hl => ?_
        exact (List.pairwise_append.1 apart).2.2 l hl k (List.mem_cons_self ..)
      rw [ih (by simpa [entries] using apart), entries]
      simp [keep, Parsed.anyInvalid, Parsed.allIssues, invalid]

end Rebuilt

/-- Keys that are texts, each of them once. -/
structure AreTexts (keys : List Datum) : Prop where
  nodup : keys.Nodup
  texts : ∀ k ∈ keys, ∃ name, k = .str name

namespace AreTexts

theorem apart {keys : List Datum} (h : AreTexts keys) :
    keys.Pairwise fun k l => k.agrees l = false := by
  refine h.nodup.imp_of_mem fun {k l} _ hl differ => Bool.eq_false_iff.2 fun same => differ ?_
  obtain ⟨name, rfl⟩ := h.texts l hl
  exact agrees_str.1 same

theorem tail {k : Datum} {keys : List Datum} (h : AreTexts (k :: keys)) : AreTexts keys :=
  ⟨(List.nodup_cons.1 h.nodup).2, fun l hl => h.texts l (List.mem_cons_of_mem _ hl)⟩

end AreTexts

/-- The results of a record are put together as those of an object. -/
theorem Rebuilt.parsed_keep {rs : List (Datum × Parsed)} (texts : AreTexts (rs.map (·.1))) :
    (rs.foldl Rebuilt.keep {}).parsed = openObject [] rs := by
  rw [Rebuilt.foldl_keep (b := {}) texts.apart, openObject, objectResult_eq]
  simp only [Rebuilt.parsed, fieldEntries, Parsed.anyInvalid, Parsed.allIssues, List.map_nil,
    List.any_nil, List.flatMap_nil, List.filterMap_nil, List.nil_append, Bool.false_or,
    Bool.or_false]
  cases failed : (rs.map (·.2)).any (·.value.isInvalid) with
  | true => rfl
  | false =>
    have all : rs.filter (fun e => !e.2.value.isInvalid) = rs := by
      refine List.filter_eq_self.2 fun e he => ?_
      rw [isInvalid_of_anyInvalid failed (List.mem_map_of_mem he)]
      rfl
    rw [all]

/-! ## The loops -/

variable {path : Path Live} {entries : Entries Live}

theorem Schema.runWith_text (links : Links) (path : Path Live) (name : String) :
    (Schema.string {} .none).runWith links path (.str name) = pure ⟨.str name, []⟩ := rfl

theorem Reporting.check_none : check (.ok []) = pure () := by
  funext c
  change EStateM.Result.ok () (c.1, c.2 ++ []) = .ok () c
  rw [List.append_nil]

theorem lengthIn_unbounded (path : Path Live) (owner noun : String) (size : Nat) :
    lengthIn path owner noun {} size = pure () := by
  change (do check (.ok []); check (.ok [])) = _
  rw [check_none, pure_bind]

theorem Schema.parseIn_text (ch : Channel) (path : Path Live) (name : String) :
    (Schema.string {} .none).parseIn ch path (.str name) = pure (.str name) := by
  change (do
    lengthIn path "String" "character" {} name.length
    check (.ok [])
    return (.str name : Datum)) = _
  rw [lengthIn_unbounded, check_none, pure_bind, pure_bind]

/-- A record looks at a key, which is a text, and then goes on as an object does. -/
theorem runEntries_texts {key value : Path Live → Datum → Run Parsed}
    (takes : ∀ path name, key path (.str name) = pure ⟨.str name, []⟩)
    (texts : AreTexts (entries.map (·.1))) (i : Nat) (b : Rebuilt) :
    runEntries key value (fun _ k => path ++ [k]) (fun _ k => path ++ [k]) i entries b = (do
      let rs ← runValues value path entries
      return rs.foldl Rebuilt.keep b) := by
  induction entries generalizing i b with
  | nil => rfl
  | cons e rest ih =>
    obtain ⟨k, v⟩ := e
    obtain ⟨name, rfl⟩ := texts.texts k (List.mem_cons_self ..)
    simp only [runEntries, runValues, takes, Rebuilt.add_text, ih texts.tail, bind_assoc,
      pure_bind, List.foldl_cons]

theorem entriesIn_texts {key value : Path Live → Datum → Reporting Datum}
    (takes : ∀ path name, key path (.str name) = pure (.str name))
    (texts : AreTexts (entries.map (·.1))) (i : Nat) (b : Rebuilt) :
    entriesIn key value (fun _ k => path ++ [k]) (fun _ k => path ++ [k]) i entries b = (do
      let xs ← valuesIn value path entries
      return (xs.map fun e => (e.1, (⟨e.2, []⟩ : Parsed))).foldl Rebuilt.keep b) := by
  induction entries generalizing i b with
  | nil => rfl
  | cons e rest ih =>
    obtain ⟨k, v⟩ := e
    obtain ⟨name, rfl⟩ := texts.texts k (List.mem_cons_self ..)
    have added (x : Datum) : silent (b.add ⟨.str name, []⟩ ⟨x, []⟩) =
        pure (b.keep (.str name, ⟨x, []⟩)) := by
      rw [Rebuilt.add_text]
      rfl
    simp only [entriesIn, valuesIn, takes, added, ih texts.tail, bind_assoc, pure_bind,
      List.map_cons, List.foldl_cons]

theorem valuesIn_keys {parse : Path Live → Datum → Reporting Datum} {xs : Entries Live}
    {c c' : World × List (Issue Live)} (h : valuesIn parse path entries c = .ok xs c') :
    xs.map (·.1) = entries.map (·.1) := by
  induction entries generalizing xs c with
  | nil =>
    cases h
    rfl
  | cons e rest ih =>
    simp only [valuesIn, bind, EStateM.bind] at h
    split at h
    · rename_i x d hx
      split at h
      · rename_i others d' hothers
        cases h
        exact congrArg (e.1 :: ·) (ih hothers)
      · cases h
    · cases h

namespace Library

theorem record_coincides (lib : Library) (s : Schema) (policy : UnknownKeys) (access : Access)
    (texts : AreTexts (entries.map (·.1))) :
    lib.Interchangeable (.record (.string {} .none) s) (.object [] (some s) policy)
      (.dict access entries) where
  alone mode depth path := by
    have extra : extraEntries [] entries = entries := List.filter_eq_self.2 fun _ _ => rfl
    have takes := Schema.runWith_text (lib.links mode depth)
    rw [Schema.runWith, Schema.runWith]
    simp only [runFields, Value.entries?, runEntries_texts takes texts, extra, bind_assoc,
      pure_bind]
    funext w
    refine bind_eq_of_ok (fun w rs w' h => ?_) w
    rw [Rebuilt.parsed_keep ((runValues_keys h).symm ▸ texts)]
  inContext mode depth path w before _ := by
    have extra : extraEntries [] entries = entries := List.filter_eq_self.2 fun _ _ => rfl
    have takes := Schema.parseIn_text (lib.channel mode depth)
    rw [Schema.parseIn, Schema.parseIn]
    simp only [fieldsIn, Value.entries?, entriesIn_texts takes texts, extra, bind_assoc,
      pure_bind]
    refine bind_eq_of_ok (fun c xs c' h => ?_) _
    have keys : (xs.map fun e => (e.1, (⟨e.2, []⟩ : Parsed))).map (·.1) = entries.map (·.1) := by
      rw [← valuesIn_keys h, List.map_map]
      rfl
    rw [Rebuilt.parsed_keep (keys.symm ▸ texts)]
    simp [openObject, objectOutput, objectResult_eq, Parsed.anyInvalid, Function.comp_def]

theorem array_coincides (lib : Library) (s : Schema) (access : Access) (items : List Datum) :
    lib.Interchangeable (.array s {}) (.tuple [] (some s)) (.list access items) where
  alone mode depth path := by
    have unbounded : Run.liftFault (lengthIssues path "Array" "element" {} items.length) =
        pure [] := rfl
    simp only [Schema.runWith, Value.listItems?, Value.sequence?, runTupleItems, unbounded,
      pure_bind, List.length_nil, Nat.not_lt_zero, if_false, Bool.false_eq_true]
  inContext mode depth path w before _ := by
    simp only [Schema.parseIn, Value.listItems?, Value.sequence?, tupleItemsIn,
      lengthIn_unbounded, pure_bind, List.length_nil, Nat.not_lt_zero, if_false,
      Bool.false_eq_true]

/-- On a mapping whose keys are texts a record of texts does the same as an object without fields
whose catchall is the schema of the values, whatever its policy: it comes to the same mapping in the
same order or to none, reports the same issues in the same order and calls the same functions. So do
an array and a tuple that has a schema for further items only, on a list or its read-only form. -/
theorem containers_coincide (lib : Library) :
    (∀ (s : Schema) (policy : UnknownKeys) (access : Access) (entries : Entries Live),
      (∀ e ∈ entries, ∃ name, e.1 = .str name) → (entries.map (·.1)).Nodup →
      lib.Interchangeable (.record (.string {} .none) s) (.object [] (some s) policy)
        (.dict access entries)) ∧
    ∀ (s : Schema) (access : Access) (items : List Datum),
      lib.Interchangeable (.array s {}) (.tuple [] (some s)) (.list access items) := by
  refine ⟨fun s policy access entries texts nodup => ?_, lib.array_coincides⟩
  exact lib.record_coincides s policy access ⟨nodup, List.forall_mem_map.2 texts⟩

end Library

/-! A schema doubts the first of two values and refuses the second. -/

namespace Stages

def counted : Schema := .effect .refinement (.custom Stray.report) false (.number {} false)

def counts : Entries Live := [(.str "a", .int 1), (.str "b", .str "two")]

/-- A record and a strict object report both values and give nothing, and only the first value is
looked at by the refinement. -/
theorem counts_refused :
    (∀ e ∈ counts, ∃ name, e.1 = .str name) ∧ (counts.map (·.1)).Nodup ∧
    (Schema.object [] (some counted) .strict).parseIn (Stray.library.channel .sync 0) []
        (.dict .free counts) ({}, [before]) =
      .ok .invalid ({ journal := [.called Stray.report [.int 1]] },
        [before, ⟨.custom, "boom", [.str "a"], []⟩,
          ⟨.invalidType, "Input should be a valid integer", [.str "b"],
            [("expected", .value (.str "number")), ("received", .value (.str "str"))]⟩]) := by
  have texts : ∀ e ∈ counts, ∃ name, e.1 = .str name := by simp [counts]
  have nodup : (counts.map (·.1)).Nodup := by simp [counts]
  have same := Stray.library.containers_coincide.1 counted .strict .free counts texts nodup
  refine ⟨texts, nodup, ?_⟩
  rw [← same.inContext .sync 0 [] {} [before] .empty]
  rfl

end Stages
end TwoWay
