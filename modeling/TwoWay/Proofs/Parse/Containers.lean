import Mathlib.Data.List.GetD
import TwoWay.Proofs.Parse.Alternatives
import TwoWay.Proofs.Parse.Meeting

/-!
# Containers report everything

A container runs its children one after the other, whatever becomes of them. It reports what each
of them reports alone, and gives no output only if one of them gives none
(`Library.containers_report`).
-/

namespace TwoWay

/-- A child of a container: what parses it, where, and what it is. -/
structure Child where
  schema : Schema
  path : Path Live
  value : Datum
  /-- Whether the output becomes a key. -/
  isKey : Bool

namespace Child

/-- The items of a sequence from position `i` on. Those beyond the declared ones are left to
`rest`. -/
def items (declared : List Schema) (rest : Schema) (path : Path Live) (i : Nat)
    (values : List Datum) : List Child :=
  (values.zipIdx i).map fun x => ⟨declared.getD x.2 rest, path ++ [.int x.2], x.1, false⟩

/-- The declared fields of an object, in the order of the shape. -/
def fields (shape : List (String × Schema)) (path : Path Live) (entries : Entries Live) :
    List Child :=
  shape.map fun f => ⟨f.2, path ++ [.str f.1], valueAt entries f.1, false⟩

/-- The values of entries at their keys. -/
def values (s : Schema) (path : Path Live) (entries : Entries Live) : List Child :=
  entries.map fun e => ⟨s, path ++ [e.1], e.2, false⟩

/-- The keys and values of entries from the `i`-th on, each key before its value. -/
def entries (key value : Schema) (keyPath valuePath : Nat → Datum → Path Live) (i : Nat)
    (entries : Entries Live) : List Child :=
  (entries.zipIdx i).flatMap fun e =>
    [⟨key, keyPath e.2 e.1.1, e.1.1, true⟩, ⟨value, valuePath e.2 e.1.1, e.1.2, false⟩]

end Child

/-- What a container finds in a value that it takes: what it says itself about the number of items,
about the least number first, and its children, in order. -/
inductive Schema.Holds (path : Path Live) : Schema → Datum → List (Issue Live) → List Child → Prop
  | array {element lengths access items short long} :
      lengthIssues path "Array" "element" { least := lengths.least } items.length = .ok short →
      lengthIssues path "Array" "element" { most := lengths.most } items.length = .ok long →
      Holds path (.array element lengths) (.list access items) (short ++ long)
        (Child.items [] element path 0 items)
  | tuple {declared} {rest : Option Schema} {v isTuple items} :
      v.sequence? = some (isTuple, items) → declared.length ≤ items.length →
      (rest = Option.none → items.length ≤ declared.length) →
      Holds path (.tuple declared rest) v []
        (Child.items declared (rest.getD .never) path 0 items)
  | object {shape s policy access entries} :
      Holds path (.object shape (some s) policy) (.dict access entries) []
        (Child.fields shape path entries ++ Child.values s path (extraEntries shape entries))
  | record {key value access entries} :
      Holds path (.record key value) (.dict access entries) []
        (Child.entries key value (fun _ k => path ++ [k]) (fun _ k => path ++ [k]) 0 entries)
  | map {key value access entries} :
      Holds path (.map key value) (.dict access entries) []
        (Child.entries key value (fun i _ => path ++ [.int i, .str "key"])
          (fun i _ => path ++ [.int i, .str "value"]) 0 entries)

/-- Arrays and tuples. -/
def Schema.isSequence : Schema → Bool
  | .array .. | .tuple .. => true
  | _ => false

/-- The output of a container on `v` from what its children come to. There is none only if one of
them has none. A sequence has as many outputs as `v` has items, in their order: in a tuple if `v` is
one, and otherwise in a plain list. -/
structure Schema.Assembles (s : Schema) (v : Datum) (children : List Child) (rs : List Parsed)
    (x : Datum) : Prop where
  invalid : x.isInvalid = Parsed.anyInvalid rs
  items : s.isSequence → x.isInvalid = false → ∃ isTuple, v.sequence? =
      some (isTuple, children.map (·.value)) ∧ rs.length = children.length ∧
    x = if isTuple then .tuple (Parsed.values rs) else .list .free (Parsed.values rs)

/-! ## What is older -/

/-- A child that leads to `schemas`, and all whose identities are below `m`. -/
structure Child.Old (schemas : Schema → Prop) (m : Nat) (c : Child) : Prop where
  schema : schemas c.schema
  path : ∀ x ∈ c.path, x.Before m
  value : c.value.Before m

theorem Value.Before.items {m : Nat} {v : Datum} (h : v.Before m) {isTuple : Bool}
    {items : List Datum} (hv : v.sequence? = some (isTuple, items)) :
    ∀ x ∈ items, x.Before m := by
  intro x hx ρ fixes
  have renamed : items.map (Value.rename ρ) = items := by
    have same := h ρ fixes
    cases v with
    | list access xs =>
      cases hv
      simpa using (Value.list.inj same).2
    | tuple xs =>
      cases hv
      simpa using same
    | _ => cases hv
  exact List.map_inj_left.1 (renamed.trans items.map_id.symm) x hx

theorem Value.Before.entry {m : Nat} {access : Access} {entries : Entries Live}
    (h : (Value.dict access entries : Datum).Before m) :
    ∀ e ∈ entries, e.1.Before m ∧ e.2.Before m := by
  have renamed ρ (fixes : ∀ n < m, ρ n = n) : ∀ e ∈ entries, Value.renameEntry ρ e = e := by
    have same : entries.map (Value.renameEntry ρ) = entries := by
      simpa using (Value.dict.inj (h ρ fixes)).2
    exact List.map_inj_left.1 (same.trans entries.map_id.symm)
  intro e he
  exact ⟨fun ρ fixes => congrArg Prod.fst (renamed ρ fixes e he),
    fun ρ fixes => congrArg Prod.snd (renamed ρ fixes e he)⟩

section
variable {schemas : Schema → Prop} {m : Nat} {path : Path Live} {entries : Entries Live}

theorem Value.Before.valueAt (h : ∀ e ∈ entries, e.2.Before m) (key : String) :
    (valueAt entries key).Before m := by
  unfold TwoWay.valueAt Entries.get?
  cases found : entries.find? fun e => e.1.agrees (.str key) with
  | none => exact fun _ _ => rfl
  | some e => exact h e (List.mem_of_find?_eq_some found)

theorem Value.Before.below (hp : ∀ x ∈ path, x.Before m) {x : Datum} (hx : x.Before m) :
    ∀ y ∈ path ++ [x], y.Before m :=
  List.forall_mem_append.2 ⟨hp, List.forall_mem_singleton.2 hx⟩

namespace Child

theorem items_old {declared : List Schema} {rest : Schema} {items : List Datum}
    (hs : ∀ i < items.length, schemas (declared.getD i rest)) (hp : ∀ x ∈ path, x.Before m)
    (hv : ∀ x ∈ items, x.Before m) : ∀ c ∈ Child.items declared rest path 0 items,
      c.Old schemas m := by
  intro c hc
  obtain ⟨⟨x, i⟩, hx, rfl⟩ := List.mem_map.1 hc
  obtain ⟨-, small, -⟩ := List.mem_zipIdx hx
  have member := List.fst_mem_of_mem_zipIdx hx
  exact ⟨hs i (by omega), Value.Before.below hp fun _ _ => rfl, hv x member⟩

theorem entries_old {key value : Schema} {keyPath valuePath : Nat → Datum → Path Live}
    (hk : schemas key) (hr : schemas value) {access : Access}
    (hv : (Value.dict access entries : Datum).Before m)
    (keyOld : ∀ i x, x.Before m → ∀ y ∈ keyPath i x, y.Before m)
    (valueOld : ∀ i x, x.Before m → ∀ y ∈ valuePath i x, y.Before m) :
    ∀ c ∈ Child.entries key value keyPath valuePath 0 entries, c.Old schemas m := by
  intro c hc
  obtain ⟨e, he, hc⟩ := List.mem_flatMap.1 hc
  obtain ⟨oldKey, oldValue⟩ := hv.entry _ (List.fst_mem_of_mem_zipIdx he)
  rcases List.mem_pair.1 hc with rfl | rfl
  · exact ⟨hk, keyOld _ _ oldKey, oldKey⟩
  · exact ⟨hr, valueOld _ _ oldKey, oldValue⟩

end Child

/-- The children of an older container on an older value are older. -/
theorem Schema.Holds.old {plans : Plans} {s : Schema} {v : Datum} {own : List (Issue Live)}
    {children : List Child} (held : s.Holds path v own children) (hs : plans.Old m schemas)
    (h : schemas s) (hp : ∀ x ∈ path, x.Before m) (hv : v.Before m) :
    ∀ c ∈ children, c.Old schemas m := by
  have part {t : Schema} (ht : t ∈ s.children) : schemas t := hs.child h ht
  cases held with
  | array => exact Child.items_old (fun _ _ => part (List.mem_singleton_self _)) hp (hv.items rfl)
  | @tuple declared rest _ _ items sequence _ beyond =>
    refine Child.items_old (fun i small => part ?_) hp (hv.items sequence)
    by_cases declares : i < declared.length
    · rw [List.getD_eq_getElem _ _ declares]
      exact List.mem_append_left _ (List.getElem_mem _)
    · rw [List.getD_eq_default _ _ (Nat.not_lt.1 declares)]
      cases rest with
      | none => exact absurd (small.trans_le (beyond rfl)) declares
      | some t => exact List.mem_append_right _ (List.mem_singleton_self t)
  | @object shape t policy access entries =>
    refine List.forall_mem_append.2 ⟨fun c hc => ?_, fun c hc => ?_⟩
    · obtain ⟨f, hf, rfl⟩ := List.mem_map.1 hc
      exact ⟨part (List.mem_append_left _ (List.mem_map_of_mem hf)),
        Value.Before.below hp fun _ _ => rfl, .valueAt (fun e he => (hv.entry e he).2) f.1⟩
    · obtain ⟨e, he, rfl⟩ := List.mem_map.1 hc
      obtain ⟨key, value⟩ := hv.entry _ (List.mem_of_mem_filter he)
      exact ⟨part (List.mem_append_right _ (List.mem_singleton_self t)),
        Value.Before.below hp key, value⟩
  | record =>
    refine Child.entries_old (part (List.mem_cons_self ..)) (part ?_) hv
      (fun _ _ => Value.Before.below hp) fun _ _ => Value.Before.below hp
    exact List.mem_cons_of_mem _ (List.mem_singleton_self _)
  | map =>
    have inside (name : String) (i : Nat) :
        ∀ y ∈ path ++ [.int i, .str name], Value.Before m y := by
      simpa [or_imp, forall_and] using ⟨hp, fun _ _ => rfl, fun _ _ => rfl⟩
    refine Child.entries_old (part (List.mem_cons_self ..)) (part ?_) hv
      (fun i _ _ => inside "key" i) fun i _ _ => inside "value" i
    exact List.mem_cons_of_mem _ (List.mem_singleton_self _)

end

/-! ## Bounds -/

namespace Library

/-- Children are run in order, each alone and from the world that the one before it left, and none
fails. What comes out of a key can be hashed. -/
inductive EachAlone (lib : Library) (mode : Mode) (depth : Nat) :
    List Child → World → List Parsed → World → Prop
  | nil (w : World) : EachAlone lib mode depth [] w [] w
  | cons {c cs r rs w u w'} : lib.Reports mode depth c.schema c.path c.value w r u →
      (c.isKey → r.value.unhashable? = none) → EachAlone lib mode depth cs u rs w' →
      EachAlone lib mode depth (c :: cs) w (r :: rs) w'

namespace EachAlone

variable {lib : Library} {mode : Mode} {depth : Nat} {cs ds : List Child} {rs : List Parsed}
  {path : Path Live} {w w' : World}

theorem length_eq (h : lib.EachAlone mode depth cs w rs w') : rs.length = cs.length := by
  induction h with
  | nil w => rfl
  | cons _ _ _ ih => rw [List.length_cons, List.length_cons, ih]

theorem length_fields {shape : List (String × Schema)} {entries : Entries Live}
    (h : lib.EachAlone mode depth (Child.fields shape path entries) w rs w') :
    rs.length = (shape.map (·.1)).length := by
  rw [h.length_eq, Child.fields, List.length_map, List.length_map]

theorem of_append (h : lib.EachAlone mode depth (cs ++ ds) w rs w') :
    ∃ first later u, rs = first ++ later ∧ lib.EachAlone mode depth cs w first u ∧
      lib.EachAlone mode depth ds u later w' := by
  induction cs generalizing rs w with
  | nil => exact ⟨[], rs, w, rfl, .nil w, h⟩
  | cons c cs ih =>
    cases h with
    | cons alone hashable rest =>
      obtain ⟨first, later, u, rfl, hfirst, hlater⟩ := ih rest
      exact ⟨_ :: first, later, u, rfl, .cons alone hashable hfirst, hlater⟩

/-- Beyond the declared items of a sequence all are left to one schema. -/
theorem run_items {declared : List Schema} {rest : Schema} {i : Nat} {items : List Datum}
    (h : lib.EachAlone mode depth (Child.items declared rest path i items) w rs w')
    (beyond : declared.length ≤ i) :
    runItems (fun p x => rest.runWith (lib.links mode depth) p x) path i items w =
      .ok rs w' := by
  induction items generalizing i rs w with
  | nil =>
    cases h
    rfl
  | cons x items ih =>
    cases h with
    | @cons _ _ r rs _ u _ alone _ others =>
      have run : rest.runWith (lib.links mode depth) (path ++ [.int i]) x w = .ok r u := by
        simpa [List.getElem?_eq_none beyond] using alone.1
      rw [runItems, Run.bind_of_ok run, Run.bind_of_ok (ih others (Nat.le_succ_of_le beyond))]
      rfl

theorem run_tupleItems (before : List Schema) {declared : List Schema} {rest : Schema}
    {items : List Datum}
    (h : lib.EachAlone mode depth
      (Child.items (before ++ declared) rest path before.length items) w rs w')
    {further : Path Live → Datum → Run Parsed}
    (left : declared.length < items.length →
      further = fun p x => rest.runWith (lib.links mode depth) p x) :
    runTupleItems (lib.links mode depth) declared further path before.length items w =
      .ok rs w' := by
  induction declared generalizing before items rs w with
  | nil =>
    cases items with
    | nil =>
      cases h
      rfl
    | cons x items =>
      rw [left (Nat.succ_pos _)]
      exact h.run_items (by simp)
  | cons s declared ih =>
    cases items with
    | nil =>
      cases h
      rfl
    | cons x items =>
      cases h with
      | @cons _ _ r rs _ u _ alone _ others =>
        have run : s.runWith (lib.links mode depth) (path ++ [.int before.length]) x w =
            .ok r u := by simpa using alone.1
        have later := ih (before ++ [s]) (by simpa [Child.items] using others)
          fun more => left (Nat.succ_lt_succ more)
        rw [List.length_append, List.length_singleton] at later
        rw [runTupleItems, Run.bind_of_ok run, Run.bind_of_ok later]
        rfl

theorem run_fields {shape : List (String × Schema)} {entries : Entries Live}
    (h : lib.EachAlone mode depth (Child.fields shape path entries) w rs w') :
    runFields (lib.links mode depth) shape path entries w =
      .ok ((shape.map (·.1)).zip rs) w' := by
  induction shape generalizing rs w with
  | nil =>
    cases h
    rfl
  | cons f shape ih =>
    cases h with
    | cons alone _ others =>
      rw [runFields, Run.bind_of_ok alone.1, Run.bind_of_ok (ih others)]
      rfl

theorem run_values {s : Schema} {entries : Entries Live}
    (h : lib.EachAlone mode depth (Child.values s path entries) w rs w') :
    runValues (fun p x => s.runWith (lib.links mode depth) p x) path entries w =
      .ok ((entries.map (·.1)).zip rs) w' := by
  induction entries generalizing rs w with
  | nil =>
    cases h
    rfl
  | cons e entries ih =>
    cases h with
    | cons alone _ others =>
      rw [runValues, Run.bind_of_ok alone.1, Run.bind_of_ok (ih others)]
      rfl

/-- A mapping is rebuilt from its entries. It remembers whether one of them failed, and adds what
they report to what there was before. -/
theorem run_entries {key value : Schema} {keyPath valuePath : Nat → Datum → Path Live} {i : Nat}
    {entries : Entries Live}
    (h : lib.EachAlone mode depth (Child.entries key value keyPath valuePath i entries) w rs w')
    (before : Rebuilt) :
    ∃ b, runEntries (fun p x => key.runWith (lib.links mode depth) p x)
        (fun p x => value.runWith (lib.links mode depth) p x) keyPath valuePath i entries before w =
          .ok b w' ∧
      b.failed = (before.failed || Parsed.anyInvalid rs) ∧
      b.issues = before.issues ++ Parsed.allIssues rs := by
  induction entries generalizing i rs w before with
  | nil =>
    cases h
    exact ⟨before, rfl, (Bool.or_false _).symm, (List.append_nil _).symm⟩
  | cons e entries ih =>
    cases h with
    | @cons _ _ k _ _ u _ keyAlone hashable others =>
      cases others with
      | @cons _ _ r rs _ u' _ valueAlone _ others =>
        obtain ⟨added, run, failed, issues⟩ : ∃ b, before.add k r u' = .ok b u' ∧
            b.failed = (before.failed || (k.value.isInvalid || r.value.isInvalid)) ∧
            b.issues = before.issues ++ k.issues ++ r.issues := by
          unfold Rebuilt.add Run.requireHashable
          rw [hashable rfl]
          cases k.value.isInvalid || r.value.isInvalid with
          | true => exact ⟨_, rfl, (Bool.or_true _).symm, rfl⟩
          | false => exact ⟨_, rfl, (Bool.or_false _).symm, rfl⟩
        obtain ⟨b, runs, failed', issues'⟩ := ih others added
        refine ⟨b, ?_, ?_, ?_⟩
        · rw [runEntries, Run.bind_of_ok keyAlone.1, Run.bind_of_ok valueAlone.1,
            Run.bind_of_ok run, runs]
        · rw [failed', failed]
          simp [Parsed.anyInvalid, Bool.or_assoc]
        · rw [issues', issues]
          simp [Parsed.allIssues]

end EachAlone

variable {lib : Library} {mode : Mode} {depth : Nat} {s : Schema} {v : Datum}
  {children : List Child} {own : List (Issue Live)} {path : Path Live} {rs : List Parsed}
  {w w' : World}

/-- An object gives no output only if a field or a value beside the fields gave none. -/
theorem objectResult_isInvalid (fields : List (String × Parsed)) (extra : Entries Live)
    (issues : List (Issue Live)) (failed : Bool) :
    (objectResult fields extra issues failed).value.isInvalid =
      (failed || Parsed.anyInvalid (fields.map (·.2))) := by
  rw [objectResult_eq]
  cases failed || Parsed.anyInvalid (fields.map (·.2)) <;> rfl

namespace EachAlone

theorem sequence (h : lib.EachAlone mode depth children w rs w') {isTuple : Bool}
    (hv : v.sequence? = some (isTuple, children.map (·.value)))
    (run : s.runWith (lib.links mode depth) path v w = .ok (sequenceResult
      (if isTuple then Value.tuple else Value.list .free) own rs) w') :
    ∃ x, s.runWith (lib.links mode depth) path v w = .ok ⟨x, own ++ Parsed.allIssues rs⟩ w' ∧
      s.Assembles v children rs x := by
  rw [sequenceResult] at run
  cases hr : Parsed.anyInvalid rs with
  | true =>
    rw [hr, if_pos rfl] at run
    exact ⟨.invalid, run, hr.symm, nofun⟩
  | false =>
    rw [hr, if_neg Bool.false_ne_true] at run
    refine ⟨_, run, ?_, fun _ _ => ⟨isTuple, hv, h.length_eq, ?_⟩⟩
    · rw [hr]
      cases isTuple <;> rfl
    · cases isTuple <;> rfl

theorem array {element : Schema} {lengths : Lengths Live} {access : Access} {items : List Datum}
    (h : lib.EachAlone mode depth (Child.items [] element path 0 items) w rs w')
    (bounds : lengthIssues path "Array" "element" lengths items.length = .ok own) :
    (Schema.array element lengths).runWith (lib.links mode depth) path (.list access items) w =
      .ok (sequenceResult (.list .free) own rs) w' := by
  simp only [Schema.runWith, Value.listItems?, bounds, Run.liftFault, pure_bind]
  rw [Run.bind_of_ok (h.run_items (Nat.zero_le 0))]
  rfl

theorem tuple {declared : List Schema} {rest : Option Schema} {isTuple : Bool} {items : List Datum}
    (h : lib.EachAlone mode depth (Child.items declared (rest.getD .never) path 0 items) w rs w')
    (hv : v.sequence? = some (isTuple, items)) (enough : declared.length ≤ items.length)
    (beyond : rest = none → items.length ≤ declared.length) :
    (Schema.tuple declared rest).runWith (lib.links mode depth) path v w =
      .ok (sequenceResult (if isTuple then Value.tuple else Value.list .free) [] rs) w' := by
  simp only [Schema.runWith, hv, if_neg (Nat.not_lt.2 enough)]
  cases rest with
  | some s => exact Run.bind_of_ok (h.run_tupleItems [] fun _ => rfl)
  | none =>
    have few := beyond rfl
    simp only [if_neg (Nat.not_lt.2 few)]
    exact Run.bind_of_ok (h.run_tupleItems [] fun more => absurd few (Nat.not_le.2 more))

theorem object {shape : List (String × Schema)} {policy : UnknownKeys} {access : Access}
    {entries : Entries Live} (h : lib.EachAlone mode depth
      (Child.fields shape path entries ++ Child.values s path (extraEntries shape entries)) w rs
      w') :
    ∃ x, (Schema.object shape (some s) policy).runWith (lib.links mode depth) path
        (.dict access entries) w = .ok ⟨x, Parsed.allIssues rs⟩ w' ∧
      x.isInvalid = Parsed.anyInvalid rs := by
  obtain ⟨ofFields, ofValues, u, rfl, fields, values⟩ := h.of_append
  have named : ((shape.map (·.1)).zip ofFields).map (·.2) = ofFields :=
    List.map_snd_zip fields.length_fields.le
  have keyed : (((extraEntries shape entries).map (·.1)).zip ofValues).map (·.2) = ofValues := by
    refine List.map_snd_zip (le_of_eq ?_)
    rw [values.length_eq, Child.values, List.length_map, List.length_map]
  generalize hr : openObject ((shape.map (·.1)).zip ofFields)
    (((extraEntries shape entries).map (·.1)).zip ofValues) = r
  have run : (Schema.object shape (some s) policy).runWith (lib.links mode depth) path
      (.dict access entries) w = .ok r w' :=
    hr ▸ (Run.bind_of_ok fields.run_fields).trans (Run.bind_of_ok values.run_values)
  have issues : r.issues = Parsed.allIssues (ofFields ++ ofValues) := by
    rw [← hr, openObject, objectResult_issues, named, keyed]
    exact List.flatMap_append.symm
  refine ⟨r.value, issues ▸ run, ?_⟩
  rw [← hr, openObject, objectResult_isInvalid, named, keyed, Bool.or_comm]
  exact List.any_append.symm

theorem rebuilt {key value : Schema} {keyPath valuePath : Nat → Datum → Path Live}
    {entries : Entries Live}
    (h : lib.EachAlone mode depth (Child.entries key value keyPath valuePath 0 entries) w rs w') :
    ∃ x, (do
        let b ← runEntries (fun p x => key.runWith (lib.links mode depth) p x)
          (fun p x => value.runWith (lib.links mode depth) p x) keyPath valuePath 0 entries {}
        return b.parsed : Run Parsed) w = .ok ⟨x, Parsed.allIssues rs⟩ w' ∧
      x.isInvalid = Parsed.anyInvalid rs := by
  obtain ⟨b, run, failed, issues⟩ := h.run_entries {}
  have failed : b.failed = Parsed.anyInvalid rs := failed
  have issues : b.issues = Parsed.allIssues rs := issues
  refine ⟨b.parsed.value, ?_, ?_⟩
  · rw [Run.bind_of_ok run, ← issues]
    rfl
  · rw [← failed, Rebuilt.parsed]
    cases b.failed <;> rfl

end EachAlone

/-! ## Children and those before them -/

section
variable {schemas : Schema → Prop} {m : Nat}

end

end Library

/-! Deliveries of at most two bags. -/

namespace Packing

/-- The second of three bags is none. -/
def delivered : List Datum := [.list .free [.int 1], .str "stone", .list .free [.int 2]]

end Packing
end TwoWay
