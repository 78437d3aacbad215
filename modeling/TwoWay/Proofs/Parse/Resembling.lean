import TwoWay.Proofs.Parse.Recasting
import TwoWay.Proofs.Value.Resembling

/-!
# Results that look the same

What nodes make of values that resemble each other resembles, issues included: nothing that a node
does depends on the schemas in the value it is given. It is demanded of user functions
(`Host.Discreet`), too.
-/

namespace TwoWay

/-- Issues that look the same. -/
def Issue.Resembles (view : View) (i i' : Issue Live) : Prop :=
  i.recast id (Schema.outline view) = i'.recast id (Schema.outline view)

/-- Results that look the same. -/
def Parsed.Resembles (view : View) (r r' : Parsed) : Prop :=
  r.recast id (Schema.outline view) = r'.recast id (Schema.outline view)

/-- Results of fields of one name that look the same. -/
def NamedResemble (view : View) (f f' : String × Parsed) : Prop :=
  recastNamed id (Schema.outline view) f = recastNamed id (Schema.outline view) f'

/-- Results that look the same, beside keys that do. -/
def KeyedResemble (view : View) (e e' : Datum × Parsed) : Prop :=
  recastKeyed id (Schema.outline view) e = recastKeyed id (Schema.outline view) e'

/-- Mappings under construction that look the same. -/
def Rebuilt.Resembles (view : View) (b b' : Rebuilt) : Prop :=
  b.recast id (Schema.outline view) = b'.recast id (Schema.outline view)

variable {view : View}

theorem issues_resemble {issues issues' : List (Issue Live)} :
    List.Forall₂ (Issue.Resembles view) issues issues' ↔
      issues.map (Issue.recast id (Schema.outline view)) =
        issues'.map (Issue.recast id (Schema.outline view)) := forall₂_iff_map

theorem results_resemble {rs rs' : List Parsed} :
    List.Forall₂ (Parsed.Resembles view) rs rs' ↔
      rs.map (Parsed.recast id (Schema.outline view)) =
        rs'.map (Parsed.recast id (Schema.outline view)) := forall₂_iff_map

theorem fields_resemble {fields fields' : List (String × Parsed)} :
    List.Forall₂ (NamedResemble view) fields fields' ↔
      fields.map (recastNamed id (Schema.outline view)) =
        fields'.map (recastNamed id (Schema.outline view)) := forall₂_iff_map

theorem keyed_resemble {extra extra' : List (Datum × Parsed)} :
    List.Forall₂ (KeyedResemble view) extra extra' ↔
      extra.map (recastKeyed id (Schema.outline view)) =
        extra'.map (recastKeyed id (Schema.outline view)) := forall₂_iff_map

theorem Issue.Resembles.mk {code : IssueCode} {message : String} {path path' : Path Live}
    {details details' : List (String × Detail Live (Issue Live))}
    (hp : List.Forall₂ (Value.Resembles view) path path')
    (hd : details.map (fun d => (d.1, recastDetail id (Schema.outline view) d.2)) =
      details'.map fun d => (d.1, recastDetail id (Schema.outline view) d.2)) :
    Issue.Resembles view ⟨code, message, path, details⟩ ⟨code, message, path', details'⟩ := by
  unfold Resembles
  rw [recast, recast, recastDetails_eq, recastDetails_eq, Value.items_resemble.1 hp, hd]

/-- Issues that look the same are reported alike. -/
theorem Issue.report_resembles {issues issues' : List (Issue Live)}
    (h : List.Forall₂ (Issue.Resembles view) issues issues') :
    Issue.report issues = Issue.report issues' := by
  rw [← report_recast (ρ := id) (σ := Schema.outline view) issues, issues_resemble.1 h,
    report_recast]

namespace Parsed

variable {r r' : Parsed}

theorem resembles_iff :
    r.Resembles view r' ↔ r.value.Resembles view r'.value ∧
      List.Forall₂ (Issue.Resembles view) r.issues r'.issues := by
  rw [Resembles, recast, recast, mk.injEq, issues_resemble, Value.Resembles]

theorem Resembles.of {v v' : Datum} {issues issues' : List (Issue Live)}
    (hv : v.Resembles view v') (hi : List.Forall₂ (Issue.Resembles view) issues issues') :
    Parsed.Resembles view ⟨v, issues⟩ ⟨v', issues'⟩ := resembles_iff.2 ⟨hv, hi⟩

theorem Resembles.clean {v v' : Datum} (hv : v.Resembles view v') :
    Parsed.Resembles view ⟨v, []⟩ ⟨v', []⟩ := .of hv .nil

theorem Resembles.value (h : r.Resembles view r') : r.value.Resembles view r'.value :=
  (resembles_iff.1 h).1

theorem Resembles.issues (h : r.Resembles view r') :
    List.Forall₂ (Issue.Resembles view) r.issues r'.issues := (resembles_iff.1 h).2

theorem Resembles.isClean (h : r.Resembles view r') : r.isClean = r'.isClean := by
  simpa only [isClean_recast] using congrArg Parsed.isClean h

theorem Resembles.isEmpty (h : r.Resembles view r') : r.issues.isEmpty = r'.issues.isEmpty := by
  cases r
  cases r'
  cases h.issues <;> rfl

variable {rs rs' : List Parsed} (h : List.Forall₂ (Parsed.Resembles view) rs rs')

include h

theorem anyInvalid_resembles : anyInvalid rs = anyInvalid rs' := by
  rw [← anyInvalid_recast (ρ := id) (σ := Schema.outline view) rs, results_resemble.1 h,
    anyInvalid_recast]

theorem values_resemble : List.Forall₂ (Value.Resembles view) (values rs) (values rs') := by
  rw [Value.items_resemble, ← values_recast, ← values_recast, results_resemble.1 h]

theorem allIssues_resemble :
    List.Forall₂ (Issue.Resembles view) (allIssues rs) (allIssues rs') := by
  rw [issues_resemble, ← allIssues_recast, ← allIssues_recast, results_resemble.1 h]

end Parsed

/-! ## Containers and their entries -/

section
variable {v v' : Datum}

theorem Value.Resembles.listItems? (h : v.Resembles view v') :
    Option.Rel (List.Forall₂ (Value.Resembles view)) v.listItems? v'.listItems? := by
  refine rel_of_map items_resemble.2 ?_
  rw [← listItems?_recast, ← listItems?_recast, h]

theorem Value.Resembles.entries? (h : v.Resembles view v') :
    Option.Rel (List.Forall₂ (EntryResembles view)) v.entries? v'.entries? := by
  refine rel_of_map entries_resemble.2 ?_
  rw [← entries?_recast, ← entries?_recast, h]

theorem Value.Resembles.sequence? (h : v.Resembles view v') :
    Option.Rel (fun s s' => s.1 = s'.1 ∧ List.Forall₂ (Value.Resembles view) s.2 s'.2)
      v.sequence? v'.sequence? := by
  refine rel_of_map (fun e => ?_) ((sequence?_recast v).symm.trans (h ▸ sequence?_recast v'))
  exact (Prod.mk.inj e).imp_right items_resemble.2

theorem Value.Resembles.setItems? (h : v.Resembles view v') :
    Option.Rel (fun s s' => s.1 = s'.1 ∧ List.Forall₂ (Value.Resembles view) s.2 s'.2)
      v.setItems? v'.setItems? := by
  refine rel_of_map (fun e => ?_) ((setItems?_recast v).symm.trans (h ▸ setItems?_recast v'))
  exact (Prod.mk.inj e).imp_right items_resemble.2

end

section
variable {entries entries' : Entries Live}
  (h : List.Forall₂ (Value.EntryResembles view) entries entries')

include h

theorem valueAt_resembles (key : String) :
    (valueAt entries key).Resembles view (valueAt entries' key) := by
  unfold Value.Resembles
  rw [← valueAt_recast Function.injective_id, ← valueAt_recast Function.injective_id,
    Value.entries_resemble.1 h]

theorem extraEntries_resemble {R : Schema → Schema → Prop} {shape shape' : List (String × Schema)}
    (hs : Schema.Fieldwise R shape shape') :
    List.Forall₂ (Value.EntryResembles view) (extraEntries shape entries)
      (extraEntries shape' entries') := by
  rw [Value.entries_resemble, ← hs.extraEntries_eq, ← extraEntries_recast Function.injective_id,
    ← extraEntries_recast Function.injective_id, Value.entries_resemble.1 h]

theorem put_resembles {k k' v v' : Datum} (hk : k.Resembles view k') (hv : v.Resembles view v') :
    List.Forall₂ (Value.EntryResembles view) (entries.put k v) (entries'.put k' v') := by
  rw [Value.entries_resemble, ← Entries.put_recast Function.injective_id,
    ← Entries.put_recast Function.injective_id, Value.entries_resemble.1 h, hk, hv]

end

theorem Rebuilt.resembles_iff {b b' : Rebuilt} :
    b.Resembles view b' ↔ List.Forall₂ (Value.EntryResembles view) b.entries b'.entries ∧
      b.failed = b'.failed ∧ List.Forall₂ (Issue.Resembles view) b.issues b'.issues := by
  rw [Resembles, recast, recast, mk.injEq, issues_resemble, Value.entries_resemble]

theorem Rebuilt.Resembles.parsed {b b' : Rebuilt} (h : b.Resembles view b') :
    b.parsed.Resembles view b'.parsed := by
  unfold Parsed.Resembles
  rw [← parsed_recast, ← parsed_recast, h]

theorem distinct_resemble {items items' : List Datum}
    (h : List.Forall₂ (Value.Resembles view) items items') :
    List.Forall₂ (Value.Resembles view) (distinct items) (distinct items') := by
  rw [Value.items_resemble, ← distinct_recast Function.injective_id,
    ← distinct_recast Function.injective_id, Value.items_resemble.1 h]

theorem optionAt?_resembles (table : List (Datum × Nat)) {tag tag' : Datum}
    (h : tag.Resembles view tag') : optionAt? table tag = optionAt? table tag' := by
  rw [← optionAt?_recast (σ := Schema.outline view) Function.injective_id table tag, h,
    optionAt?_recast Function.injective_id]

/-! ## Results of nodes -/

theorem sequenceResult_resembles {ofItems : List Datum → Datum}
    (h : ∀ items, ofItems (items.map (Value.recast id (Schema.outline view))) =
      (ofItems items).recast id (Schema.outline view)) {own own' : List (Issue Live)}
    (ho : List.Forall₂ (Issue.Resembles view) own own') {rs rs' : List Parsed}
    (hr : List.Forall₂ (Parsed.Resembles view) rs rs') :
    (sequenceResult ofItems own rs).Resembles view (sequenceResult ofItems own' rs') := by
  unfold Parsed.Resembles
  rw [← sequenceResult_recast h, ← sequenceResult_recast h, issues_resemble.1 ho,
    results_resemble.1 hr]

theorem openObject_resembles {fields fields' : List (String × Parsed)}
    (hf : List.Forall₂ (NamedResemble view) fields fields') {extra extra' : List (Datum × Parsed)}
    (he : List.Forall₂ (KeyedResemble view) extra extra') :
    (openObject fields extra).Resembles view (openObject fields' extra') := by
  unfold Parsed.Resembles
  rw [← openObject_recast, ← openObject_recast, fields_resemble.1 hf, keyed_resemble.1 he]

section
variable {path path' : Path Live} (hp : List.Forall₂ (Value.Resembles view) path path')

include hp

theorem wrongContainer_resembles (expected : String) {v v' : Datum} (h : v.Resembles view v') :
    (wrongContainer path expected v).Resembles view (wrongContainer path' expected v') := by
  unfold Parsed.Resembles
  rw [← wrongContainer_recast, ← wrongContainer_recast, Value.items_resemble.1 hp, h]

theorem wrongAwaitable_resembles {v v' : Datum} (h : v.Resembles view v') :
    (wrongAwaitable path v).Resembles view (wrongAwaitable path' v') := by
  unfold Parsed.Resembles
  rw [← wrongAwaitable_recast, ← wrongAwaitable_recast, Value.items_resemble.1 hp, h]

theorem lengthIssues_resemble (owner noun : String) (lengths : Lengths Live) (size : Nat) :
    List.map (Issue.recast id (Schema.outline view)) <$>
        lengthIssues path owner noun lengths size =
      List.map (Issue.recast id (Schema.outline view)) <$>
        lengthIssues path' owner noun lengths size := by
  rw [← lengthIssues_recast, ← lengthIssues_recast, Value.items_resemble.1 hp]

theorem parseString_resembles (lengths : Lengths Live) (pattern : Option WrittenPattern)
    {v v' : Datum} (h : v.Resembles view v') :
    Parsed.recast id (Schema.outline view) <$> parseString lengths pattern path v =
      Parsed.recast id (Schema.outline view) <$> parseString lengths pattern path' v' := by
  rw [← parseString_recast, ← parseString_recast, Value.items_resemble.1 hp, h]

theorem parseNumber_resembles (bounds : Bounds Live) (integer : Bool) {v v' : Datum}
    (h : v.Resembles view v') :
    Parsed.recast id (Schema.outline view) <$> parseNumber bounds integer path v =
      Parsed.recast id (Schema.outline view) <$> parseNumber bounds integer path' v' := by
  rw [← parseNumber_recast, ← parseNumber_recast, Value.items_resemble.1 hp, h]

theorem parseBoolean_resembles {v v' : Datum} (h : v.Resembles view v') :
    (parseBoolean path v).Resembles view (parseBoolean path' v') := by
  unfold Parsed.Resembles
  rw [← parseBoolean_recast, ← parseBoolean_recast, Value.items_resemble.1 hp, h]

theorem parseNone_resembles {v v' : Datum} (h : v.Resembles view v') :
    (parseNone path v).Resembles view (parseNone path' v') := by
  unfold Parsed.Resembles
  rw [← parseNone_recast, ← parseNone_recast, Value.items_resemble.1 hp, h]

theorem parseNever_resembles {v v' : Datum} (h : v.Resembles view v') :
    (parseNever path v).Resembles view (parseNever path' v') := by
  unfold Parsed.Resembles
  rw [← parseNever_recast, ← parseNever_recast, Value.items_resemble.1 hp, h]

theorem parseLiteral_resembles (value : Datum) {v v' : Datum} (h : v.Resembles view v') :
    (parseLiteral value path v).Resembles view (parseLiteral value path' v') := by
  unfold Parsed.Resembles
  rw [← parseLiteral_recast path Function.injective_id,
    ← parseLiteral_recast path' Function.injective_id, Value.items_resemble.1 hp, h]

theorem parseEnum_resembles (values : List Datum) {v v' : Datum} (h : v.Resembles view v') :
    (parseEnum values path v).Resembles view (parseEnum values path' v') := by
  unfold Parsed.Resembles
  rw [← parseEnum_recast path Function.injective_id,
    ← parseEnum_recast path' Function.injective_id, Value.items_resemble.1 hp, h]

theorem unionResult_resembles {rs rs' : List Parsed}
    (hr : List.Forall₂ (Parsed.Resembles view) rs rs') :
    (unionResult path rs).Resembles view (unionResult path' rs') := by
  unfold Parsed.Resembles
  rw [← unionResult_recast, ← unionResult_recast, Value.items_resemble.1 hp, results_resemble.1 hr]

theorem tupleBound_resembles (code : IssueCode) (bound detail : String) (count : Nat) :
    (tupleBound path code bound detail count).Resembles view
      (tupleBound path' code bound detail count) := by
  unfold Parsed.Resembles
  rw [← tupleBound_recast, ← tupleBound_recast, Value.items_resemble.1 hp]

theorem wrongTag_resembles (key : String) (table : List (Datum × Nat)) :
    (wrongTag path key table).Resembles view (wrongTag path' key table) := by
  unfold Parsed.Resembles
  rw [← wrongTag_recast, ← wrongTag_recast, Value.items_resemble.1 hp]

theorem closedObject_resembles (policy : UnknownKeys) {fields fields' : List (String × Parsed)}
    (hf : List.Forall₂ (NamedResemble view) fields fields') {extra extra' : Entries Live}
    (he : List.Forall₂ (Value.EntryResembles view) extra extra') :
    (closedObject path policy fields extra).Resembles view
      (closedObject path' policy fields' extra') := by
  unfold Parsed.Resembles
  rw [← closedObject_recast, ← closedObject_recast, Value.items_resemble.1 hp,
    fields_resemble.1 hf, Value.entries_resemble.1 he]

theorem intersectionResult_resembles {l l' r r' : Parsed} (hl : l.Resembles view l')
    (hr : r.Resembles view r') :
    (intersectionResult path l r).Resembles view (intersectionResult path' l' r') := by
  unfold Parsed.Resembles
  rw [← intersectionResult_recast path Function.injective_id,
    ← intersectionResult_recast path' Function.injective_id, Value.items_resemble.1 hp, hl, hr]

end

/-! ## Failures, events and replies -/

/-- Failures that look the same. -/
inductive Failure.Resembles (view : View) : Failure → Failure → Prop
  | same {f} : Resembles view f f
  | refused {issues issues'} : List.Forall₂ (Issue.Resembles view) issues issues' →
    Resembles view (.refused issues) (.refused issues')

theorem Failure.ofIssues_resembles {issues issues' : List (Issue Live)}
    (h : List.Forall₂ (Issue.Resembles view) issues issues') :
    (Failure.ofIssues issues).Resembles view (.ofIssues issues') := by
  unfold ofIssues
  rw [Issue.report_resembles h]
  cases Issue.report issues' with
  | ok text => exact .refused h
  | error f => exact .same

/-- Runs that end alike: with results in relation, or with failures that look the same. -/
inductive SameEnd (view : View) {α β : Type} (R : α → β → Prop) :
    Except Failure α → Except Failure β → Prop
  | ok {a b} : R a b → SameEnd view R (.ok a) (.ok b)
  | error {f g} : f.Resembles view g → SameEnd view R (.error f) (.error g)

theorem Parsed.Resembles.finish {r r' : Parsed} (h : r.Resembles view r') :
    SameEnd view (Value.Resembles view) r.finish r'.finish := by
  unfold Parsed.finish
  rw [h.isEmpty, h.value.isInvalid]
  split
  · split
    · exact .error .same
    · exact .ok h.value
  · exact .error (Failure.ofIssues_resembles h.issues)

/-- Events that look the same. -/
inductive Event.Resembles (view : View) : Event → Event → Prop
  | same {e} : Resembles view e e
  | called {fn args args'} : List.Forall₂ (Value.Resembles view) args args' →
    Resembles view (.called fn args) (.called fn args')
  | noted {entry entry'} : entry.Resembles view entry' →
    Resembles view (.noted entry) (.noted entry')

/-- Happenings that look the same. -/
inductive Happening.Resembles (view : View) : Happening → Happening → Prop
  | noted {entry entry'} : entry.Resembles view entry' →
    Resembles view (.noted entry) (.noted entry')
  | yielded : Resembles view .yielded .yielded
  | suspended : Resembles view .suspended .suspended
  | reported {code message below below' details details'} :
    List.Forall₂ (Value.Resembles view) below below' →
    List.Forall₂ (fun d d' => d.1 = d'.1 ∧ d.2.Resembles view d'.2) details details' →
    Resembles view (.reported code message below details) (.reported code message below' details')

/-- Replies that look the same. -/
structure Reply.Resembles (view : View) (reply reply' : Reply) : Prop where
  happenings : List.Forall₂ (Happening.Resembles view) reply.happenings reply'.happenings
  outcome : SameEnd view (Value.Resembles view) reply.outcome reply'.outcome

theorem Happening.Resembles.refl (h : Happening) : h.Resembles view h := by
  cases h with
  | noted entry => exact .noted (.refl entry)
  | yielded => exact .yielded
  | suspended => exact .suspended
  | reported code message below details =>
    exact .reported (List.forall₂_same.2 fun v _ => .refl v)
      (List.forall₂_same.2 fun d _ => ⟨rfl, .refl d.2⟩)

theorem Reply.Resembles.refl (reply : Reply) : reply.Resembles view reply := by
  refine ⟨List.forall₂_same.2 fun h _ => .refl h, ?_⟩
  cases reply.outcome with
  | ok v => exact .ok (.refl v)
  | error f => exact .error .same

/-- User functions that tell no values apart that look the same. -/
structure Host.Discreet (view : View) (host : Host) : Prop where
  effect : ∀ fn {v v' path path'}, v.Resembles view v' →
    List.Forall₂ (Value.Resembles view) path path' →
    (host.effect fn v path).Resembles view (host.effect fn v' path')
  check : ∀ fn {v v'}, v.Resembles view v' → (host.check fn v).Resembles view (host.check fn v')
  rescue : ∀ fn {issues issues'}, List.Forall₂ (Issue.Resembles view) issues issues' →
    (host.rescue fn issues).Resembles view (host.rescue fn issues')
  call : ∀ fn {args args'}, List.Forall₂ (Value.Resembles view) args args' →
    (host.call fn args).Resembles view (host.call fn args')

end TwoWay
