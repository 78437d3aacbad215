import TwoWay.Proofs.Inversion.Backward
import TwoWay.Proofs.Parse.Independence
import TwoWay.Proofs.Parse.Trimming

/-!
# Paths of issues are addresses

The path of an issue leads on from the path of the parse by segments that can be followed in the
value, along the schema: positions of sequences, keys of mappings, positions of entries and their
sides, and at the very end the name of a field or a tag that is not there. This holds of what is
reported by a parse that fails, too, and of the issues that others sum up
(`Library.issues_address_value`).
-/

namespace TwoWay

open Reporting

namespace Schema

/-- The nodes that report where in the value they found something. -/
def isLocating : Schema → Bool
  | .array .. | .object .. | .union _ | .tagged .. | .intersection .. | .tuple .. | .record ..
  | .map .. | .lazy .. | .optional _ | .nullable _ | .branded .. | .readonly _ => true
  | s => s.isLeaf

end Schema

namespace Plans

/-- The segments that can be followed in a value along a schema. -/
inductive Addresses (plans : Plans) : Schema → Datum → Path Live → Prop
  | here (s : Schema) (v : Datum) : Addresses plans s v []
  | element {s : Schema} {lengths : Lengths Live} {access : Access} {items : List Datum} {i : Nat}
    {x : Datum} {rest : Path Live} (hx : items[i]? = some x) (h : Addresses plans s x rest) :
    Addresses plans (.array s lengths) (.list access items) (.int i :: rest)
  /-- The items of a tuple have schemas of their own, or that for further ones. -/
  | item {items : List Schema} {further : Option Schema} {v : Datum} {isTuple : Bool}
    {xs : List Datum} {i : Nat} {s : Schema} {x : Datum} {rest : Path Live}
    (hv : v.sequence? = some (isTuple, xs)) (hs : items[i]?.or further = some s)
    (hx : xs[i]? = some x) (h : Addresses plans s x rest) :
    Addresses plans (.tuple items further) v (.int i :: rest)
  | field {shape : List (String × Schema)} {catchall : Option Schema} {policy : UnknownKeys}
    {access : Access} {entries : Entries Live} {name : String} {s : Schema} {x : Datum}
    {rest : Path Live} (hs : (name, s) ∈ shape) (hx : (.str name, x) ∈ entries)
    (h : Addresses plans s x rest) :
    Addresses plans (.object shape catchall policy) (.dict access entries) (.str name :: rest)
  /-- A declared field that is not there; nothing can be followed beyond it. -/
  | absent {shape : List (String × Schema)} {catchall : Option Schema} {policy : UnknownKeys}
    {access : Access} {entries : Entries Live} {name : String} {s : Schema}
    (hs : (name, s) ∈ shape) (hx : ∀ e ∈ entries, e.1 ≠ .str name) :
    Addresses plans (.object shape catchall policy) (.dict access entries) [.str name]
  | extra {shape : List (String × Schema)} {s : Schema} {policy : UnknownKeys} {access : Access}
    {entries : Entries Live} {k x : Datum} {rest : Path Live} (hx : (k, x) ∈ entries)
    (hk : ∀ f ∈ shape, k ≠ .str f.1) (h : Addresses plans s x rest) :
    Addresses plans (.object shape (some s) policy) (.dict access entries) (k :: rest)
  | option {options : List Schema} {s : Schema} {v : Datum} {rest : Path Live} (hs : s ∈ options)
    (h : Addresses plans s v rest) : Addresses plans (.union options) v rest
  | selected {tag : String} {options : List Schema} {table : List (Datum × Nat)} {s : Schema}
    {v : Datum} {rest : Path Live} (hs : s ∈ options) (h : Addresses plans s v rest) :
    Addresses plans (.tagged tag options table) v rest
  /-- The tag of a mapping, whether it is there or not; nothing is followed beyond it. -/
  | tag {tag : String} {options : List Schema} {table : List (Datum × Nat)} {access : Access}
    {entries : Entries Live} :
    Addresses plans (.tagged tag options table) (.dict access entries) [.str tag]
  | left {s t : Schema} {v : Datum} {rest : Path Live} (h : Addresses plans s v rest) :
    Addresses plans (.intersection s t) v rest
  | right {s t : Schema} {v : Datum} {rest : Path Live} (h : Addresses plans t v rest) :
    Addresses plans (.intersection s t) v rest
  /-- A key, in which something may be followed along its schema, if that is not a leaf. -/
  | recordKey {key value : Schema} {access : Access} {entries : Entries Live} {k x : Datum}
    {rest : Path Live} (hx : (k, x) ∈ entries) (h : Addresses plans key k rest) :
    Addresses plans (.record key value) (.dict access entries) (k :: rest)
  | recordValue {key value : Schema} {access : Access} {entries : Entries Live} {k x : Datum}
    {rest : Path Live} (hx : (k, x) ∈ entries) (h : Addresses plans value x rest) :
    Addresses plans (.record key value) (.dict access entries) (k :: rest)
  | mapKey {key value : Schema} {access : Access} {entries : Entries Live} {i : Nat} {k x : Datum}
    {rest : Path Live} (hx : entries[i]? = some (k, x)) (h : Addresses plans key k rest) :
    Addresses plans (.map key value) (.dict access entries) (.int i :: .str "key" :: rest)
  | mapValue {key value : Schema} {access : Access} {entries : Entries Live} {i : Nat}
    {k x : Datum} {rest : Path Live} (hx : entries[i]? = some (k, x))
    (h : Addresses plans value x rest) :
    Addresses plans (.map key value) (.dict access entries) (.int i :: .str "value" :: rest)
  | optional {s : Schema} {v : Datum} {rest : Path Live} (h : Addresses plans s v rest) :
    Addresses plans (.optional s) v rest
  | nullable {s : Schema} {v : Datum} {rest : Path Live} (h : Addresses plans s v rest) :
    Addresses plans (.nullable s) v rest
  | branded {s : Schema} {name v : Datum} {rest : Path Live} (h : Addresses plans s v rest) :
    Addresses plans (.branded s name) v rest
  | readonly {s : Schema} {v : Datum} {rest : Path Live} (h : Addresses plans s v rest) :
    Addresses plans (.readonly s) v rest
  | behind {id : LazyId} {origin : Origin} {s : Schema} {v : Datum} {rest : Path Live}
    (hs : plans.Gives id origin s) (h : Addresses plans s v rest) :
    Addresses plans (.lazy id origin) v rest

variable {plans : Plans}

/-- Nothing can be followed in what a leaf reads. So an address ends with the key, where leaves read
the keys. -/
theorem Addresses.of_leaf {s : Schema} {v : Datum} {segments : Path Live}
    (h : plans.Addresses s v segments) (leaf : s.isLeaf = true) : segments = [] := by
  cases h <;> first | rfl | cases leaf

/-- Nothing can be followed in what is missing. -/
theorem Addresses.of_missing {s : Schema} {v : Datum} {segments : Path Live}
    (h : plans.Addresses s v segments) (missing : v.isMissing = true) : segments = [] := by
  induction h with
  | here => rfl
  | element | field | absent | extra | tag | recordKey | recordValue | mapKey | mapValue =>
    cases missing
  | @item _ _ v _ _ _ _ _ _ hv =>
    cases v
    case missing => cases hv
    all_goals cases missing
  | option _ _ ih | selected _ _ ih | behind _ _ ih => exact ih missing
  | left _ ih | right _ ih | optional _ ih | nullable _ ih | branded _ ih | readonly _ ih =>
    exact ih missing

end Plans

/-- An issue whose path leads on from `path` by segments with a property, as do the paths of the
issues it sums up. -/
inductive Issue.Points (path : Path Live) (Q : Path Live → Prop) : Issue Live → Prop
  | intro {i : Issue Live} (segments : Path Live) (h : i.path = path ++ segments) (hq : Q segments)
    (branches : ∀ name lists, (name, Detail.branches lists) ∈ i.details →
      ∀ list ∈ lists, ∀ j ∈ list, Issue.Points path Q j) : Issue.Points path Q i

namespace Issue

variable {path : Path Live} {Q Q' : Path Live → Prop} {i : Issue Live}

theorem At.points (segments : Path Live) (h : i.At (path ++ segments)) (hq : Q segments) :
    i.Points path Q :=
  .intro segments h.1 hq fun name lists hd => by
    obtain ⟨v, hv⟩ := h.2 _ hd
    cases hv

theorem At.points_here (h : i.At path) (hq : Q []) : i.Points path Q :=
  At.points [] ((List.append_nil path).symm ▸ h) hq

/-- What points from further down points from further up. -/
theorem Points.above (below : Path Live) (h : i.Points (path ++ below) Q)
    (hq : ∀ segments, Q segments → Q' (below ++ segments)) : i.Points path Q' := by
  induction h with
  | intro segments h hs _ ih =>
    exact .intro (below ++ segments) (by rw [h, List.append_assoc]) (hq segments hs) ih

theorem Points.weaken (h : i.Points path Q) (hq : ∀ segments, Q segments → Q' segments) :
    i.Points path Q' :=
  .above [] ((List.append_nil path).symm ▸ h) hq

end Issue

/-! ## Runs that only add issues -/

/-- From faithful worlds a run in a context, whether it fails or not, adds issues with `P` to those
that are there; what it gives has `Q`. -/
def Plans.Adds (plans : Plans) {α : Type} (P : Issue Live → Prop) (m : Reporting α)
    (Q : α → Prop) : Prop :=
  ∀ c, plans.Faithful c.1 →
    match m c with
    | .ok a d => plans.Faithful d.1 ∧ Q a ∧ ∃ new, d.2 = c.2 ++ new ∧ ∀ i ∈ new, P i
    | .error _ d => ∃ new, d.2 = c.2 ++ new ∧ ∀ i ∈ new, P i

namespace Plans.Adds

variable {plans : Plans} {α β : Type} {P P' : Issue Live → Prop} {m : Reporting α} {Q : α → Prop}

theorem pure {a : α} (h : Q a) : plans.Adds P (Pure.pure a) Q :=
  fun _ hw => ⟨hw, h, [], by simp⟩

theorem throw (f : Failure) : plans.Adds P (throw f : Reporting α) Q :=
  fun c _ => ⟨[], (List.append_nil c.2).symm, List.forall_mem_nil _⟩

theorem bind {k : α → Reporting β} {R : β → Prop} (hm : plans.Adds P m Q)
    (hk : ∀ a, Q a → plans.Adds P (k a) R) : plans.Adds P (m >>= k) R := by
  intro c hw
  have first := hm c hw
  simp only [Bind.bind, EStateM.bind]
  cases run : m c with
  | error f d => simpa only [run] using first
  | ok a d =>
    simp only [run] at first ⊢
    obtain ⟨faithful, ha, new, added, hnew⟩ := first
    have second := hk a ha d faithful
    cases after : k a d with
    | error f e =>
      simp only [after] at second ⊢
      obtain ⟨others, added', hothers⟩ := second
      exact ⟨new ++ others, by rw [added', added, List.append_assoc],
        List.forall_mem_append.2 ⟨hnew, hothers⟩⟩
    | ok b e =>
      simp only [after] at second ⊢
      obtain ⟨faithful', hb, others, added', hothers⟩ := second
      exact ⟨faithful', hb, new ++ others, by rw [added', added, List.append_assoc],
        List.forall_mem_append.2 ⟨hnew, hothers⟩⟩

theorem weaken (h : plans.Adds P m Q) (hp : ∀ i, P i → P' i) : plans.Adds P' m Q := by
  intro c hw
  have := h c hw
  cases run : m c with
  | error f d =>
    simp only [run] at this ⊢
    obtain ⟨new, added, hnew⟩ := this
    exact ⟨new, added, fun i hi => hp i (hnew i hi)⟩
  | ok a d =>
    simp only [run] at this ⊢
    obtain ⟨faithful, ha, new, added, hnew⟩ := this
    exact ⟨faithful, ha, new, added, fun i hi => hp i (hnew i hi)⟩

theorem silent {r : Run α} (h : plans.Ensures r Q) : plans.Adds P (silent r) Q := by
  intro c hw
  cases run : r c.1 with
  | error f w =>
    simp only [Reporting.silent, run]
    exact ⟨[], (List.append_nil c.2).symm, List.forall_mem_nil _⟩
  | ok a w =>
    obtain ⟨faithful, ha⟩ := h.ok hw run
    simp only [Reporting.silent, run]
    exact ⟨faithful, ha, [], (List.append_nil c.2).symm, List.forall_mem_nil _⟩

theorem report {issues : List (Issue Live)} (h : ∀ i ∈ issues, P i) :
    plans.Adds P (report issues) fun _ => True :=
  fun _ hw => ⟨hw, trivial, issues, rfl, h⟩

theorem settle {r : Parsed} (h : ∀ i ∈ r.issues, P i) : plans.Adds P (settle r) fun _ => True :=
  bind (report h) fun _ _ => pure trivial

theorem check {issues : Except Fault (List (Issue Live))}
    (h : Sound issues fun is => ∀ i ∈ is, P i) : plans.Adds P (check issues) fun _ => True :=
  bind (silent (.liftFault h)) fun _ => report

/-- A run with a list of its own leaves the list alone. -/
theorem fork (h : plans.Adds P m Q) :
    plans.Adds P' (fork m) fun p => Q p.1 ∧ ∀ i ∈ p.2, P i := by
  intro c hw
  have := h (c.1, []) hw
  cases run : m (c.1, []) with
  | error f d =>
    simp only [Reporting.fork, run]
    exact ⟨[], (List.append_nil c.2).symm, List.forall_mem_nil _⟩
  | ok a d =>
    simp only [Reporting.fork, run] at this ⊢
    obtain ⟨faithful, ha, new, added, hnew⟩ := this
    have all : ∀ i ∈ d.2, P i := by
      rw [added, List.nil_append]
      exact hnew
    exact ⟨faithful, ⟨ha, all⟩, [], (List.append_nil c.2).symm, List.forall_mem_nil _⟩

end Plans.Adds

section
variable {plans : Plans} {P : Issue Live → Prop} {path : Path Live} {ch : Channel}

/-! ## Loops -/

theorem itemsIn_adds {parse : Path Live → Datum → Reporting Datum} {items : List Datum}
    {start : Nat} (h : ∀ (n : Nat) (x : Datum), items[n]? = some x →
      plans.Adds P (parse (path ++ [.int ((start + n : Nat) : Int)]) x) fun _ => True) :
    plans.Adds P (itemsIn parse path start items) fun _ => True := by
  induction items generalizing start with
  | nil => exact .pure trivial
  | cons v rest ih =>
    refine .bind (h 0 v rfl) fun x _ => .bind (ih fun n y hy => ?_) fun xs _ => .pure trivial
    rw [Nat.add_right_comm]
    exact h (n + 1) y hy

theorem valuesIn_adds {parse : Path Live → Datum → Reporting Datum} {entries : Entries Live}
    (h : ∀ e ∈ entries, plans.Adds P (parse (path ++ [e.1]) e.2) fun _ => True) :
    plans.Adds P (valuesIn parse path entries) fun _ => True := by
  induction entries with
  | nil => exact .pure trivial
  | cons e rest ih =>
    obtain ⟨head, others⟩ := List.forall_mem_cons.1 h
    exact .bind head fun x _ => .bind (ih others) fun xs _ => .pure trivial

theorem entriesIn_adds {key value : Path Live → Datum → Reporting Datum}
    {keyPath valuePath : Nat → Datum → Path Live} {entries : Entries Live} {start : Nat}
    (b : Rebuilt) (h : ∀ (n : Nat) (e : Datum × Datum), entries[n]? = some e →
      plans.Adds P (key (keyPath (start + n) e.1) e.1) (fun _ => True) ∧
      plans.Adds P (value (valuePath (start + n) e.1) e.2) fun _ => True) :
    plans.Adds P (entriesIn key value keyPath valuePath start entries b) fun _ => True := by
  induction entries generalizing start b with
  | nil => exact .pure trivial
  | cons e rest ih =>
    obtain ⟨ofKey, ofValue⟩ := h 0 e rfl
    have adding (k v : Parsed) : plans.Ensures (b.add k v) fun _ => True := by
      unfold Rebuilt.add
      dsimp only
      split
      · exact .pure trivial
      · exact .andThen (.requireHashable _) fun _ => .pure trivial
    refine .bind ofKey fun k _ => .bind ofValue fun v _ => ?_
    refine .bind (.silent (adding _ _)) fun b _ => ?_
    refine ih b fun n e he => ?_
    rw [Nat.add_right_comm]
    exact h (n + 1) e he

theorem fieldsIn_adds {shape : List (String × Schema)} {entries : Entries Live}
    (h : ∀ f ∈ shape, plans.Adds P
      (f.2.parseIn ch (path ++ [.str f.1]) (valueAt entries f.1)) fun _ => True) :
    plans.Adds P (fieldsIn ch shape path entries) fun _ => True := by
  induction shape with
  | nil => exact .pure trivial
  | cons f rest ih =>
    obtain ⟨head, others⟩ := List.forall_mem_cons.1 h
    exact .bind head fun x _ => .bind (ih others) fun xs _ => .pure trivial

theorem tupleItemsIn_adds {items : List Schema} {further : Path Live → Datum → Reporting Datum}
    {xs : List Datum} {start : Nat} (h : ∀ (n : Nat) (x : Datum), xs[n]? = some x →
      (∀ s, items[n]? = some s → plans.Adds P
        (s.parseIn ch (path ++ [.int ((start + n : Nat) : Int)]) x) fun _ => True) ∧
      (items[n]? = none → plans.Adds P
        (further (path ++ [.int ((start + n : Nat) : Int)]) x) fun _ => True)) :
    plans.Adds P (tupleItemsIn ch items further path start xs) fun _ => True := by
  induction items generalizing xs start with
  | nil => exact itemsIn_adds fun n x hx => (h n x hx).2 rfl
  | cons s items ih =>
    cases xs with
    | nil => exact .pure trivial
    | cons x xs =>
      refine .bind ((h 0 x rfl).1 s rfl) fun y _ => .bind (ih fun n z hz => ?_) fun ys _ =>
        .pure trivial
      rw [Nat.add_right_comm]
      exact h (n + 1) z hz

theorem optionIn_adds {options : List Schema} {v : Datum} (i : Nat)
    (h : ∀ s ∈ options, plans.Adds P (s.parseIn ch path v) fun _ => True) :
    plans.Adds P (optionIn ch options i path v) fun _ => True := by
  induction options generalizing i with
  | nil => exact .pure trivial
  | cons s rest ih =>
    obtain ⟨head, others⟩ := List.forall_mem_cons.1 h
    cases i with
    | zero => exact head
    | succ i => exact ih i others

variable {Q : Path Live → Prop}

theorem unionResult_points {tried : List Parsed} (hq : Q [])
    (h : ∀ r ∈ tried, ∀ i ∈ r.issues, i.Points path Q) :
    ∀ i ∈ (unionResult path tried).issues, i.Points path Q := by
  unfold unionResult
  split
  · rename_i r found
    exact h r (List.mem_of_find?_eq_some found)
  · refine List.forall_mem_singleton.2 (.intro [] (List.append_nil path).symm hq ?_)
    intro name lists hd list hlist j hj
    cases List.mem_singleton.1 hd
    obtain ⟨r, hr, rfl⟩ := List.mem_map.1 hlist
    exact h r hr j hj

theorem optionsIn_adds {options : List Schema} {v : Datum}
    {tried : List (Datum × List (Issue Live))} (hq : Q [])
    (h : ∀ s ∈ options, plans.Adds (·.Points path Q) (s.parseIn ch path v) fun _ => True)
    (before : ∀ t ∈ tried, ∀ i ∈ t.2, i.Points path Q) :
    plans.Adds (·.Points path Q) (optionsIn ch options path v tried) fun _ => True := by
  induction options generalizing tried with
  | nil => exact .settle (unionResult_points hq (List.forall_mem_map.2 before))
  | cons s rest ih =>
    obtain ⟨head, others⟩ := List.forall_mem_cons.1 h
    refine .bind (.fork head) fun p hp => ?_
    dsimp only
    split
    · exact .pure trivial
    · exact ih others (List.forall_mem_append.2 ⟨before, List.forall_mem_singleton.2 hp.2⟩)

/-! ## Nodes -/

theorem lengthIn_adds (hq : Q []) (owner noun : String) (lengths : Lengths Live) (size : Nat) :
    plans.Adds (·.Points path Q) (lengthIn path owner noun lengths size) fun _ => True := by
  have bounded (lengths : Lengths Live) :
      Sound (lengthIssues path owner noun lengths size) fun is => ∀ i ∈ is, i.Points path Q :=
    fun is his i hi => (lengthIssues_at _ _ _ _ is his i hi).points_here hq
  exact .bind (.check (bounded _)) fun _ _ => .check (bounded _)

theorem ofLeaf_points (hq : Q []) {v : Datum} {r : Parsed} (h : r.OfLeaf path v) :
    ∀ i ∈ r.issues, i.Points path Q :=
  fun i hi => (h.issues i hi).points_here hq

theorem wrongContainer_points (hq : Q []) (expected : String) (v : Datum) :
    ∀ i ∈ (wrongContainer path expected v).issues, i.Points path Q :=
  ofLeaf_points hq (v := v) (.wrongType ..)

theorem stringIn_adds (hq : Q []) (lengths : Lengths Live) (pattern : Option WrittenPattern)
    (v : Datum) :
    plans.Adds (·.Points path Q) (stringIn lengths pattern path v) fun _ => True := by
  unfold stringIn
  split
  · refine .bind (lengthIn_adds hq _ _ _ _) fun _ _ => .bind (.check ?_) fun _ _ => .pure trivial
    exact fun is his i hi => (patternIssues_at _ _ is his i hi).points_here hq
  · exact .settle (ofLeaf_points hq (v := v) (.wrongType ..))

theorem numberIn_adds (hq : Q []) (bounds : Bounds Live) (integer : Bool) (v : Datum) :
    plans.Adds (·.Points path Q) (numberIn bounds integer path v) fun _ => True := by
  unfold numberIn
  split
  · have fraction : Sound ((·.issues) <$> parseNumber {} integer path v) fun is =>
        ∀ i ∈ is, i.Points path Q := by
      rw [map_eq_pure_bind]
      exact .bind (parseNumber_leaf _ _) fun r hr => .pure (ofLeaf_points hq hr)
    have bounded (code : IssueCode) (relation detail : String)
        (holds : Datum → Datum → Except Fault Bool) (bound : Datum) :
        Sound (numberBound path code relation detail holds v bound) fun is =>
          ∀ i ∈ is, i.Points path Q := by
      intro is his i hi
      exact (numberBound_at _ _ _ _ _ _ is his i hi).points_here hq
    refine .bind (.check fraction) fun _ _ => .bind (.check (bounded _ _ _ _ _)) fun _ _ => ?_
    refine .bind (.check (bounded _ _ _ _ _)) fun _ _ => ?_
    refine .bind (.check (bounded _ _ _ _ _)) fun _ _ => ?_
    exact .bind (.check (bounded _ _ _ _ _)) fun _ _ => .pure trivial
  · exact .settle (ofLeaf_points hq (v := v) (.wrongType ..))

theorem leaf_adds {s : Schema} (leaf : s.isLeaf = true) (hq : Q []) (v : Datum) :
    plans.Adds (·.Points path Q) (s.parseIn ch path v) fun _ => True := by
  cases s <;> try cases leaf
  case string lengths pattern => exact stringIn_adds hq lengths pattern v
  case number bounds integer => exact numberIn_adds hq bounds integer v
  case boolean => exact .settle (ofLeaf_points hq (parseBoolean_leaf (v := v)))
  case none => exact .settle (ofLeaf_points hq (parseNone_leaf (v := v)))
  case never => exact .settle (ofLeaf_points hq (parseNever_leaf (v := v)))
  case literal value => exact .settle (ofLeaf_points hq (parseLiteral_leaf (v := v) value))
  case enum values => exact .settle (ofLeaf_points hq (parseEnum_leaf (v := v) values))
  case raw value => exact .throw _
  all_goals exact .pure trivial

end

/-- What a schema reports on a value points to where it can be followed in the value. -/
def Schema.Locates (plans : Plans) (ch : Channel) (s : Schema) : Prop :=
  ∀ path v, plans.Adds (·.Points path (plans.Addresses s v)) (s.parseIn ch path v) fun _ => True

namespace Schema.Locates

variable {plans : Plans} {ch : Channel} {s t : Schema} {path : Path Live}

/-- A schema in the place of another one, perhaps further down in the value. -/
theorem at_below (h : s.Locates plans ch) {below : Path Live} {v x : Datum}
    (hq : ∀ rest, plans.Addresses s x rest → plans.Addresses t v (below ++ rest)) :
    plans.Adds (·.Points path (plans.Addresses t v)) (s.parseIn ch (path ++ below) x)
      fun _ => True :=
  (h _ _).weaken fun _ hi => hi.above _ hq

theorem at_here (h : s.Locates plans ch) {v : Datum}
    (hq : ∀ rest, plans.Addresses s v rest → plans.Addresses t v rest) :
    plans.Adds (·.Points path (plans.Addresses t v)) (s.parseIn ch path v) fun _ => True :=
  (h _ _).weaken fun _ hi => hi.weaken hq

theorem array (h : s.Locates plans ch) (lengths : Lengths Live) :
    (Schema.array s lengths).Locates plans ch := by
  intro path v
  rw [parseIn]
  split
  · rename_i items hitems
    refine .bind (lengthIn_adds (.here _ _) _ _ _ _) fun _ _ => ?_
    refine .bind (itemsIn_adds fun n x hx => h.at_below fun rest hrest => ?_) fun xs _ =>
      .pure trivial
    cases v <;> cases hitems
    rw [Nat.zero_add]
    exact .element hx hrest
  · exact .settle (wrongContainer_points (.here _ _) _ _)

/-- An object itself only reports at its path. -/
theorem closedObject_at {fields : List (String × Datum)} {extra : Entries Live}
    {policy : UnknownKeys} {i : Issue Live} (h : i ∈ (closedObject path policy
      (fields.map fun f => (f.1, (⟨f.2, []⟩ : Parsed))) extra).issues) : i.At path := by
  have silent : Parsed.allIssues
      ((fields.map fun f => (f.1, (⟨f.2, []⟩ : Parsed))).map (·.2)) = [] := by
    rw [Parsed.allIssues, List.map_map, List.flatMap_map]
    exact List.flatMap_eq_nil_iff.2 fun _ _ => rfl
  cases policy with
  | strip | passthrough =>
    rw [closedObject, objectResult_issues, silent] at h
    cases h
  | strict =>
    rw [closedObject, objectResult_issues, silent, List.nil_append] at h
    split at h
    · cases h
    · cases List.mem_singleton.1 h
      exact ⟨rfl, by simp [Issue.Plain, unrecognizedKeys]⟩

theorem intersectionResult_at {x y : Datum} {i : Issue Live}
    (h : i ∈ (intersectionResult path ⟨x, []⟩ ⟨y, []⟩).issues) : i.At path := by
  unfold intersectionResult at h
  dsimp only at h
  split at h
  · cases h
  · split at h
    · cases h
    · cases List.mem_singleton.1 h
      exact ⟨rfl, nofun⟩

theorem field {shape : List (String × Schema)} {catchall : Option Schema} {policy : UnknownKeys}
    {access : Access} {entries : Entries Live} {f : String × Schema} (hf : f ∈ shape)
    {rest : Path Live} (h : plans.Addresses f.2 (valueAt entries f.1) rest) :
    plans.Addresses (.object shape catchall policy) (.dict access entries) (.str f.1 :: rest) := by
  cases missing : (valueAt entries f.1).isMissing with
  | false => exact .field hf (valueAt_mem missing) h
  | true =>
    obtain rfl := h.of_missing missing
    by_cases there : ∃ e ∈ entries, e.1 = .str f.1
    · obtain ⟨⟨k, x⟩, hx, rfl⟩ := there
      exact .field hf hx (.here _ _)
    · exact .absent hf fun e he same => there ⟨e, he, same⟩

theorem object {shape : List (String × Schema)} {catchall : Option Schema}
    (hs : ∀ f ∈ shape, f.2.Locates plans ch) (hc : ∀ s, catchall = some s → s.Locates plans ch)
    (policy : UnknownKeys) : (Schema.object shape catchall policy).Locates plans ch := by
  intro path v
  rw [parseIn]
  split
  · rename_i entries hentries
    cases v <;> cases hentries
    rename_i access
    refine .bind (fieldsIn_adds fun f hf => (hs f hf).at_below fun rest hrest => field hf hrest)
      fun fields _ => ?_
    dsimp only
    split
    · rename_i s
      refine .bind (valuesIn_adds fun e he => (hc s rfl).at_below fun rest hrest => ?_)
        fun xs _ => .pure trivial
      obtain ⟨hx, hk⟩ := mem_extraEntries.1 he
      exact .extra hx hk hrest
    · exact .settle fun i hi => (closedObject_at hi).points_here (.here _ _)
  · exact .settle (wrongContainer_points (.here _ _) _ _)

theorem union {options : List Schema} (h : ∀ s ∈ options, s.Locates plans ch) :
    (Schema.union options).Locates plans ch := by
  intro path v
  rw [parseIn]
  exact optionsIn_adds (.here _ _) (fun s hs => (h s hs).at_here fun rest => .option hs)
    (List.forall_mem_nil _)

theorem tagged {options : List Schema} (h : ∀ s ∈ options, s.Locates plans ch) (tag : String)
    (table : List (Datum × Nat)) : (Schema.tagged tag options table).Locates plans ch := by
  intro path v
  rw [parseIn]
  split
  · rename_i entries hentries
    split
    · exact optionIn_adds _ fun s hs => (h s hs).at_here fun rest => .selected hs
    · cases v <;> cases hentries
      refine .settle (List.forall_mem_singleton.2 (Issue.At.points [.str tag] ?_ .tag))
      exact ⟨rfl, by simp [Issue.Plain]⟩
  · exact .settle (wrongContainer_points (.here _ _) _ _)

theorem intersection (hs : s.Locates plans ch) (ht : t.Locates plans ch) :
    (Schema.intersection s t).Locates plans ch := by
  intro path v
  rw [parseIn]
  refine .bind (hs.at_here fun rest => .left) fun x _ => ?_
  refine .bind (ht.at_here fun rest => .right) fun y _ => .settle fun i hi => ?_
  exact (intersectionResult_at hi).points_here (.here _ _)

theorem tuple {items : List Schema} {further : Option Schema}
    (hs : ∀ s ∈ items, s.Locates plans ch) (hf : ∀ s, further = some s → s.Locates plans ch) :
    (Schema.tuple items further).Locates plans ch := by
  intro path v
  rw [parseIn]
  split
  · rename_i isTuple xs hxs
    have bound (code : IssueCode) (text detail : String) (count : Nat) :
        plans.Adds (·.Points path (plans.Addresses (.tuple items further) v))
          (settle (tupleBound path code text detail count)) fun _ => True := by
      refine .settle (List.forall_mem_singleton.2 (Issue.At.points_here ⟨rfl, ?_⟩ (.here _ _)))
      simp [Issue.Plain]
    have declared {n : Nat} {x : Datum} (hx : xs[n]? = some x) (s : Schema)
        (hn : items[n]? = some s) :
        plans.Adds (·.Points path (plans.Addresses (.tuple items further) v))
          (s.parseIn ch (path ++ [.int ((0 + n : Nat) : Int)]) x) fun _ => True := by
      refine (hs s (List.mem_of_getElem? hn)).at_below fun rest hrest => ?_
      rw [Nat.zero_add]
      exact .item hxs (by rw [hn, Option.some_or]) hx hrest
    split
    · exact bound _ _ _ _
    · dsimp only
      split
      · rename_i s
        refine .bind (tupleItemsIn_adds fun n x hx => ⟨declared hx, fun hn => ?_⟩) fun _ _ =>
          .pure trivial
        refine (hf s rfl).at_below fun rest hrest => ?_
        rw [Nat.zero_add]
        exact .item hxs (by rw [hn, Option.none_or]) hx hrest
      · split
        · exact bound _ _ _ _
        · exact .bind (tupleItemsIn_adds fun n x hx => ⟨declared hx, fun _ => .pure trivial⟩)
            fun _ _ => .pure trivial
  · exact .settle (wrongContainer_points (.here _ _) _ _)

theorem record {key value : Schema} (hk : key.Locates plans ch) (h : value.Locates plans ch) :
    (Schema.record key value).Locates plans ch := by
  intro path v
  rw [parseIn]
  split
  · rename_i entries hentries
    cases v <;> cases hentries
    rename_i access
    refine .bind (entriesIn_adds {} fun n e he => ⟨?_, ?_⟩) fun b _ => .pure trivial
    · exact hk.at_below fun rest => .recordKey (List.mem_of_getElem? he)
    · exact h.at_below fun rest => .recordValue (List.mem_of_getElem? he)
  · exact .settle (wrongContainer_points (.here _ _) _ _)

theorem map {key value : Schema} (hk : key.Locates plans ch) (h : value.Locates plans ch) :
    (Schema.map key value).Locates plans ch := by
  intro path v
  rw [parseIn]
  split
  · rename_i entries hentries
    cases v <;> cases hentries
    rename_i access
    refine .bind (entriesIn_adds {} fun n e he => ⟨?_, ?_⟩) fun b _ => .pure trivial
    · refine hk.at_below fun rest hrest => ?_
      rw [Nat.zero_add]
      exact .mapKey he hrest
    · refine h.at_below fun rest hrest => ?_
      rw [Nat.zero_add]
      exact .mapValue he hrest
  · exact .settle (wrongContainer_points (.here _ _) _ _)

theorem readonly (h : s.Locates plans ch) : (Schema.readonly s).Locates plans ch := by
  intro path v
  rw [parseIn]
  refine .bind (h.at_here fun rest => .readonly) fun x _ => .silent ?_
  exact (Value.numbered_ensures _ (Value.keeps_all _)).weaken fun _ _ => trivial

end Schema.Locates

/-- A node points to where it reports if its parts do, and what lazy nodes stand for. -/
theorem Schema.node_locates {plans : Plans} {ch : Channel} {s : Schema}
    (locating : s.isLocating = true)
    (enter : ∀ id origin, s = .lazy id origin → s.Locates plans ch)
    (h : ∀ c ∈ s.children, c.Locates plans ch) : s.Locates plans ch := by
  cases s
  case array element lengths => exact .array (h _ (List.mem_singleton_self _)) lengths
  case object shape catchall policy =>
    refine .object (fun f hf => h _ ?_) (fun s hs => h _ ?_) policy
    · exact List.mem_append_left _ (List.mem_map_of_mem hf)
    · exact List.mem_append_right _ (Option.mem_toList.2 hs)
  case union options => exact .union h
  case tagged tag options table => exact .tagged h tag table
  case intersection left right =>
    exact .intersection (h _ (List.mem_cons_self ..)) (h _ (by simp [children]))
  case tuple items further =>
    refine .tuple (fun s hs => h _ (List.mem_append_left _ hs)) fun s hs => h _ ?_
    exact List.mem_append_right _ (Option.mem_toList.2 hs)
  case record key value => exact .record (h _ (by simp [children])) (h _ (by simp [children]))
  case map key value => exact .map (h _ (by simp [children])) (h _ (by simp [children]))
  case lazy id origin => exact enter id origin rfl
  case optional inner =>
    intro path v
    rw [parseIn]
    split
    · exact .pure trivial
    · exact (h inner (List.mem_singleton_self _)).at_here fun rest => .optional
  case nullable inner =>
    intro path v
    rw [parseIn]
    split
    · exact .pure trivial
    · exact (h inner (List.mem_singleton_self _)).at_here fun rest => .nullable
  case branded inner name =>
    exact fun path v => (h inner (List.mem_singleton_self _)).at_here fun rest => .branded
  case readonly inner => exact .readonly (h _ (List.mem_singleton_self _))
  all_goals
    first
    | exact fun path v => leaf_adds rfl (.here _ _) v
    | cases locating

namespace Library

variable {lib : Library} {root s : Schema}

theorem within_locates {ch : Channel}
    (locating : ∀ u, lib.plans.Within root u → u.isLocating = true)
    (enter : ∀ id origin, lib.plans.Within root (.lazy id origin) →
      (Schema.lazy id origin).Locates lib.plans ch)
    (hs : lib.plans.Within root s) : s.Locates lib.plans ch := by
  induction s using Schema.child_induction with
  | step s ih =>
    refine Schema.node_locates (locating s hs) ?_ fun c hc => ih c hc (hs.child hc)
    rintro id origin rfl
    exact enter id origin hs

theorem parseIn_locates (mode : Mode) (depth : Nat)
    (locating : ∀ u, lib.plans.Within root u → u.isLocating = true)
    (hs : lib.plans.Within root s) : s.Locates lib.plans (lib.channel mode depth) := by
  induction depth generalizing s with
  | zero => exact within_locates locating (fun _ _ _ _ _ => .throw _) hs
  | succ depth ih =>
    refine within_locates locating (fun id origin hl path v => ?_) hs
    refine .bind (.silent (.force (depth + 1) id origin)) fun s gives => ?_
    exact (ih (hl.behind gives)).at_here fun rest => .behind gives

theorem Appends.points {mode : Mode} {depth : Nat} {path : Path Live} {v : Datum} {w : World}
    {new : List (Issue Live)} (h : lib.Appends mode depth s path v w new)
    (locating : ∀ u, lib.plans.Within s u → u.isLocating = true) (hw : lib.plans.Faithful w) :
    ∀ i ∈ new, i.Points path (lib.plans.Addresses s v) := by
  have located := parseIn_locates mode depth locating .self path v (w, []) hw
  unfold Appends at h
  cases run : s.runWith (lib.links mode depth) path v w with
  | ok r w' =>
    simp only [run] at h
    simp only [h.2 [], List.nil_append] at located
    obtain ⟨-, -, reported, rfl, points⟩ := located
    exact points
  | error f w' =>
    simp only [run] at h
    simp only [h [], List.nil_append] at located
    obtain ⟨reported, rfl, points⟩ := located
    exact points

/-- Whatever a schema that only looks at plain data reports, also before it fails, and whatever is
summed up in what it reports, has a path that leads on from that of the parse by segments that can
be followed in the value along the schema, also behind lazy nodes. -/
theorem issues_address_value (lib : Library) {s : Schema}
    (locating : ∀ u, lib.plans.Within s u → u.isLocating = true) (mode : Mode) (depth : Nat)
    (path : Path Live) (v : Datum) {w : World} (hw : lib.plans.Faithful w) :
    ∃ new, lib.Appends mode depth s path v w new ∧
      ∀ i ∈ new, i.Points path (lib.plans.Addresses s v) := by
  obtain ⟨new, appends⟩ := lib.parse_appends mode depth s path v hw
  exact ⟨new, appends, appends.points locating hw⟩

end Library

/-! An outline has a title and parts, which are outlines or nothing. A part has a number for its
title. -/

namespace Outline

def getter : FunctionRef := ⟨0, "outline"⟩

def library : Library := { Chain.library with
  plans := {
    getter := fun _ => { schema := .object [("title", .string),
      ("parts", .call (.map .string (.union [.none, .lazy getter])) .optional)] none none }
    definition := fun _ => .any } }

/-- What a lazy node of an outline stands for. -/
def outline (id : LazyId) : Schema :=
  .object [("title", .string {} none), ("parts", .optional (.map (.string {} none)
    (.union [.none, .lazy (.within id 0) (.getter getter)])))] none .strip

theorem gives (id : LazyId) : library.plans.Gives id (.getter getter) (outline id) := ⟨1, rfl⟩

/-- The schemas in an outline. -/
inductive Part : Schema → Prop
  | lazy (id : LazyId) : Part (.lazy id (.getter getter))
  | outline (id : LazyId) : Part (outline id)
  | text : Part (.string {} none)
  | nothing : Part .none
  | parts {s : Schema} (h : Part s) : Part (.optional s)
  | map {s : Schema} (h : Part s) : Part (.map (.string {} none) s)
  | union {options : List Schema} (h : ∀ s ∈ options, Part s) : Part (.union options)

theorem within_part {s u : Schema} (hs : Part s) (h : library.plans.Within s u) : Part u := by
  induction h with
  | self => exact hs
  | child _ hc ih =>
    cases ih with
    | lazy | text | nothing => cases hc
    | outline id =>
      simp only [outline, Schema.children, List.map_cons, List.map_nil, Option.toList_none,
        List.append_nil, List.mem_cons, List.not_mem_nil, or_false] at hc
      obtain rfl | rfl := hc
      · exact .text
      · refine .parts (.map (.union fun s hs => ?_))
        simp only [List.mem_cons, List.not_mem_nil, or_false] at hs
        obtain rfl | rfl := hs
        · exact .nothing
        · exact .lazy _
    | parts h => exact List.mem_singleton.1 hc ▸ h
    | map h =>
      simp only [Schema.children, List.mem_cons, List.not_mem_nil, or_false] at hc
      obtain rfl | rfl := hc
      · exact .text
      · exact h
    | union h => exact h _ hc
  | behind _ hg ih =>
    cases ih with
    | lazy => exact (gives _).unique hg ▸ .outline _

theorem part_locates {s : Schema} (h : Part s) : s.isLocating = true := by
  cases h <;> rfl

def numbered : Datum :=
  .dict .free [(.str "title", .str "a"),
    (.str "parts", .dict .free [(.str "x", .dict .free [(.str "title", .int 1)])])]

def part : Path Live := [.str "book", .str "parts", .int 0, .str "value"]

def wrongTitle : Issue Live :=
  ⟨.invalidType, "Input should be a valid string", part ++ [.str "title"],
    [("expected", .value (.str "string")), ("received", .value (.str "int"))]⟩

def notNothing : Issue Live :=
  ⟨.invalidType, "Input should be None", part,
    [("expected", .value (.str "none")), ("received", .value (.str "dict"))]⟩

def wrongPart : Issue Live :=
  ⟨.invalidUnion, "Invalid input", part,
    [("union_issues", .branches [[notNothing], [wrongTitle]])]⟩

/-- The issue about the title is summed up in that about the part, and its path can be followed to
the title. -/
theorem title_addressed :
    (∀ u, library.plans.Within (.lazy (.step 0) (.getter getter)) u → u.isLocating = true) ∧
    library.Appends .sync 2 (.lazy (.step 0) (.getter getter)) [.str "book"] numbered {}
      [wrongPart] ∧
    library.plans.Addresses (.lazy (.step 0) (.getter getter)) numbered
      [.str "parts", .int 0, .str "value", .str "title"] := by
  have locating : ∀ u, library.plans.Within (.lazy (.step 0) (.getter getter)) u →
      u.isLocating = true := fun u hu => part_locates (within_part (.lazy _) hu)
  obtain ⟨new, appends, points⟩ :=
    library.issues_address_value locating .sync 2 [.str "book"] numbered .empty
  have reported : new = [wrongPart] := appends.1
  subst reported
  obtain ⟨-, -, -, summed⟩ := points _ (List.mem_singleton_self _)
  have ofPart : [wrongTitle] ∈ [[notNothing], [wrongTitle]] := List.mem_cons_of_mem _ (.head _)
  obtain ⟨segments, same, address, -⟩ :=
    summed _ _ (List.mem_singleton_self _) _ ofPart _ (List.mem_singleton_self _)
  cases (List.cons.inj same).2
  exact ⟨locating, appends, address⟩

end Outline
end TwoWay
