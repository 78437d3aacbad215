import Mathlib.Data.List.TakeWhile
import TwoWay.Settings.Placeholder

/-!
# How placeholders are filled in

A text is gone through once, from left to right: where a placeholder starts it is read as a whole,
and otherwise one character is. `Reads` states this without an algorithm, and `pieces_eq_iff` that
it is what `pieces` does. What is filled in is no part of what is read, and so it is never looked at
again.

* `readPlaceholder?_eq_some_iff`: a placeholder is read exactly where its written form stands;
* `pieces_eq_iff`: the pieces of a text are those that it reads as;
* `shape_expand`, `texts_expand`: in a document nothing but its texts is filled in;
* `expansion_is_single_pass`: fragments are filled in each by itself.
-/

namespace TwoWay.Settings

/-! ## Placeholders as they are written -/

/-- A capital letter or an underscore, and after it these and digits. -/
def IsVariable : List Char → Prop
  | [] => False
  | c :: rest => (c.isUpper ∨ c = '_') ∧ ∀ d ∈ rest, d.isUpper ∨ d = '_' ∨ d.isDigit

instance : DecidablePred IsVariable
  | [] => inferInstanceAs (Decidable False)
  | _ :: rest =>
    -- Only the characters of the text are gone through, and not those of the whole alphabet.
    @instDecidableAnd _ _ inferInstance (List.decidableBAll _ rest)

/-- There is no closing brace in a fallback: the first one ends it. -/
def IsUnclosed (fallback : Option (List Char)) : Prop := ∀ text ∈ fallback, '\x7d' ∉ text

def Piece.IsPlaceholder : Piece → Prop
  | .plain _ => False
  | .placeholder name fallback => IsVariable name ∧ IsUnclosed fallback

theorem startsName_iff {c : Char} : startsName c = true ↔ c.isUpper ∨ c = '_' := by
  simp [startsName]

theorem continuesName_iff {c : Char} :
    continuesName c = true ↔ c.isUpper ∨ c = '_' ∨ c.isDigit := by
  simp [continuesName, startsName, or_assoc]

/-- What is taken while a condition holds ends at the first character that breaks it. -/
theorem span_append {p : Char → Bool} {cs : List Char} (h : ∀ c ∈ cs, p c = true) {stop : Char}
    (stops : p stop = false) (rest : List Char) :
    (cs ++ stop :: rest).takeWhile p = cs ∧ (cs ++ stop :: rest).dropWhile p = stop :: rest := by
  rw [List.takeWhile_append_of_pos h, List.dropWhile_append_of_pos h]
  simp [stops]

theorem readFallback?_unclosed {cs : List Char} {r : Option (List Char) × List Char}
    (h : readFallback? cs = some r) : IsUnclosed r.1 := by
  unfold readFallback? at h
  split at h
  · cases h
    exact nofun
  · split at h
    · cases h
      rintro _ ⟨⟩ closing
      simpa using List.mem_takeWhile_imp closing
    · cases h
  · cases h

theorem readFallback?_written {fallback : Option (List Char)} (h : IsUnclosed fallback)
    (rest : List Char) :
    readFallback? (writtenFallback fallback ++ '\x7d' :: rest) = some (fallback, rest) := by
  cases fallback with
  | none => rfl
  | some text =>
    have unclosed : ∀ c ∈ text, (c != '\x7d') = true := fun c hc =>
      bne_iff_ne.2 fun closing => h text rfl (closing ▸ hc)
    obtain ⟨taken, dropped⟩ := span_append unclosed (bne_self_eq_false _) rest
    simp [writtenFallback, readFallback?, taken, dropped]

theorem readPlaceholder?_isPlaceholder {cs : List Char} {r : Piece × List Char}
    (h : readPlaceholder? cs = some r) : r.1.IsPlaceholder := by
  unfold readPlaceholder? at h
  split at h
  · next c rest =>
    split at h
    · rename_i starts
      obtain ⟨found, read, rfl⟩ := Option.map_eq_some_iff.1 h
      have continues : ∀ d ∈ rest.takeWhile continuesName, d.isUpper ∨ d = '_' ∨ d.isDigit :=
        fun d hd => continuesName_iff.1 (List.mem_takeWhile_imp hd)
      exact ⟨⟨startsName_iff.1 starts, continues⟩, readFallback?_unclosed read⟩
    · cases h
  · cases h

/-- A name is not mistaken for a longer one: neither of the characters that can follow it goes on
with a name. -/
theorem readPlaceholder?_written {p : Piece} (h : p.IsPlaceholder) (rest : List Char) :
    readPlaceholder? (p.written ++ rest) = some (p, rest) := by
  cases p with
  | plain c => exact h.elim
  | placeholder name fallback =>
    cases name with
    | nil => exact h.1.elim
    | cons c more =>
      obtain ⟨⟨starts, continues⟩, unclosed⟩ := h
      have continues : ∀ d ∈ more, continuesName d = true := fun d hd =>
        continuesName_iff.2 (continues d hd)
      have nameEnds : ∃ stop after, writtenFallback fallback ++ '\x7d' :: rest = stop :: after ∧
          continuesName stop = false := by
        cases fallback with
        | none => exact ⟨_, _, rfl, by decide⟩
        | some text => exact ⟨_, _, rfl, by decide⟩
      obtain ⟨stop, after, follows, stops⟩ := nameEnds
      obtain ⟨taken, dropped⟩ := span_append continues stops after
      have read := readFallback?_written unclosed rest
      rw [follows] at read
      simp [Piece.written, readPlaceholder?, startsName_iff.2 starts, follows, taken, dropped, read]

/-- A placeholder is read exactly where its written form stands. -/
theorem readPlaceholder?_eq_some_iff {cs rest : List Char} {p : Piece} :
    readPlaceholder? cs = some (p, rest) ↔ p.IsPlaceholder ∧ cs = p.written ++ rest := by
  constructor
  · exact fun read =>
      ⟨readPlaceholder?_isPlaceholder read, (written_readPlaceholder? read).symm⟩
  · rintro ⟨placeholder, rfl⟩
    exact readPlaceholder?_written placeholder rest

/-! ## Texts gone through -/

/-- A placeholder stands at the start of a text. -/
def Opens (cs : List Char) : Prop := ∃ p : Piece, p.IsPlaceholder ∧ p.written <+: cs

theorem readPlaceholder?_eq_none_iff {cs : List Char} :
    readPlaceholder? cs = none ↔ ¬Opens cs := by
  rw [Option.eq_none_iff_forall_ne_some, Opens]
  constructor
  · rintro unread ⟨p, placeholder, rest, rfl⟩
    exact unread _ (readPlaceholder?_written placeholder rest)
  · rintro closed ⟨p, rest⟩ read
    obtain ⟨placeholder, rfl⟩ := readPlaceholder?_eq_some_iff.1 read
    exact closed ⟨p, placeholder, List.prefix_append ..⟩

/-- A placeholder starts with a dollar sign. -/
theorem Opens.head {c : Char} {cs : List Char} (h : Opens (c :: cs)) : c = '$' := by
  obtain ⟨p, placeholder, rest, same⟩ := h
  cases p with
  | plain => exact placeholder.elim
  | placeholder => exact (List.cons.inj same).1.symm

/-- From left to right, a text is a placeholder where one starts, and a character elsewhere. -/
inductive Reads : List Piece → List Char → Prop
  | done : Reads [] []
  | plain {c : Char} {cs : List Char} {ps : List Piece} (h : ¬Opens (c :: cs))
    (rest : Reads ps cs) : Reads (.plain c :: ps) (c :: cs)
  | placeholder {p : Piece} {cs : List Char} {ps : List Piece} (h : p.IsPlaceholder)
    (rest : Reads ps cs) : Reads (p :: ps) (p.written ++ cs)

theorem pieces_of_some {cs rest : List Char} {p : Piece}
    (h : readPlaceholder? cs = some (p, rest)) : pieces cs = p :: pieces rest := by
  rw [pieces]
  split
  · rename_i found
    cases h.symm.trans found
    rfl
  · rename_i found
    cases h.symm.trans found

theorem pieces_of_none {c : Char} {cs : List Char} (h : readPlaceholder? (c :: cs) = none) :
    pieces (c :: cs) = .plain c :: pieces cs := by
  rw [pieces]
  split
  · rename_i found
    cases h.symm.trans found
  · rfl

theorem reads_pieces (cs : List Char) : Reads (pieces cs) cs := by
  fun_induction pieces cs with
  | case1 cs p rest h _ ih =>
    obtain ⟨placeholder, rfl⟩ := readPlaceholder?_eq_some_iff.1 h
    exact .placeholder placeholder ih
  | case2 => exact .done
  | case3 c rest h ih => exact .plain (readPlaceholder?_eq_none_iff.1 h) ih

theorem Reads.pieces_eq {ps : List Piece} {cs : List Char} (h : Reads ps cs) : pieces cs = ps := by
  induction h with
  | done =>
    rw [pieces]
    rfl
  | plain closed _ ih => rw [pieces_of_none (readPlaceholder?_eq_none_iff.2 closed), ih]
  | placeholder placeholder _ ih => rw [pieces_of_some (readPlaceholder?_written placeholder _), ih]

/-- There is one way to read a text, and its pieces follow it. -/
theorem pieces_eq_iff {ps : List Piece} {cs : List Char} : pieces cs = ps ↔ Reads ps cs :=
  ⟨fun same => same ▸ reads_pieces cs, Reads.pieces_eq⟩

theorem expandText_of_reads {ps : List Piece} {s : String} (h : Reads ps s.toList)
    (env : Environment) : expandText env s = String.ofList (ps.flatMap (Piece.filled env)) := by
  rw [expandText, h.pieces_eq]

/-- Characters before which no placeholder starts are read one by one. -/
theorem Reads.append {cs rest : List Char} {ps : List Piece} (h : Reads ps rest)
    (closed : ∀ before after, cs = before ++ after → after ≠ [] → ¬Opens (after ++ rest)) :
    Reads (cs.map .plain ++ ps) (cs ++ rest) := by
  induction cs with
  | nil => exact h
  | cons c cs ih =>
    refine .plain (closed [] (c :: cs) rfl (List.cons_ne_nil c cs)) (ih fun before after same => ?_)
    exact closed (c :: before) after (congrArg (c :: ·) same)

/-! ## Fragments -/

/-- A part of a text: what stands for itself, or a placeholder. -/
inductive Fragment where
  | text (s : String)
  | placeholder (name : String) (fallback : Option String)

namespace Fragment

def IsProper : Fragment → Prop
  | .text s => '$' ∉ s.toList
  | .placeholder name fallback =>
    IsVariable name.toList ∧ ∀ text ∈ fallback, '\x7d' ∉ text.toList

def written : Fragment → String
  | .text s => s
  | .placeholder name none => "$\x7b" ++ name ++ "\x7d"
  | .placeholder name (some fallback) => "$\x7b" ++ name ++ ":-" ++ fallback ++ "\x7d"

/-- The value of the variable, or else the fallback, or else the placeholder itself. -/
def expanded (env : Environment) : Fragment → String
  | .text s => s
  | .placeholder name fallback =>
    (env.lookup name).getD (fallback.getD (written (.placeholder name fallback)))

instance : DecidablePred IsProper
  | .text s => inferInstanceAs (Decidable ('$' ∉ s.toList))
  | .placeholder name fallback => inferInstanceAs (Decidable (IsVariable name.toList ∧
      ∀ text ∈ fallback, '\x7d' ∉ text.toList))

/-- What a fragment is read as. -/
def pieces : Fragment → List Piece
  | .text s => s.toList.map .plain
  | .placeholder name fallback => [.placeholder name.toList (fallback.map String.toList)]

theorem flatMap_written (f : Fragment) : f.pieces.flatMap Piece.written = f.written.toList := by
  cases f with
  | text s => simp [pieces, written, List.flatMap_map, Piece.written]
  | placeholder name fallback =>
    cases fallback <;> simp [pieces, written, Piece.written, writtenFallback]

theorem flatMap_filled (env : Environment) (f : Fragment) :
    f.pieces.flatMap (Piece.filled env) = (f.expanded env).toList := by
  cases f with
  | text s => simp [pieces, expanded, List.flatMap_map, Piece.filled]
  | placeholder name fallback =>
    simp only [pieces, List.flatMap_cons, List.flatMap_nil, List.append_nil, Piece.filled, expanded,
      String.ofList_toList]
    cases env.lookup name with
    | some value => rfl
    | none => cases fallback <;> simp [written, Piece.written, writtenFallback]

theorem IsProper.isPlaceholder {name : String} {fallback : Option String}
    (h : (placeholder name fallback).IsProper) :
    (Piece.placeholder name.toList (fallback.map String.toList)).IsPlaceholder := by
  refine ⟨h.1, ?_⟩
  cases fallback with
  | none => exact nofun
  | some text =>
    rintro _ ⟨⟩
    exact h.2 text rfl

theorem reads {fragments : List Fragment} (proper : ∀ f ∈ fragments, f.IsProper) :
    Reads (fragments.flatMap pieces) (fragments.flatMap fun f => f.written.toList) := by
  induction fragments with
  | nil => exact .done
  | cons f rest ih =>
    obtain ⟨hf, hrest⟩ := List.forall_mem_cons.1 proper
    rw [List.flatMap_cons, List.flatMap_cons]
    cases f with
    | text s =>
      refine (ih hrest).append fun before after same there opens => ?_
      cases after with
      | nil => exact there rfl
      | cons c after =>
        have dollar : c = '$' := opens.head
        exact hf (same ▸ dollar ▸ List.mem_append_right _ (List.mem_cons_self ..))
    | placeholder name fallback =>
      have read := Reads.placeholder hf.isPlaceholder (ih hrest)
      rw [← flatMap_written]
      simpa [pieces] using read

/-- Each fragment is filled in by itself, whatever stands around it. -/
theorem expandText_join {fragments : List Fragment} (proper : ∀ f ∈ fragments, f.IsProper)
    (env : Environment) :
    expandText env (String.join (fragments.map written)) =
      String.join (fragments.map (expanded env)) := by
  have written : (String.join (fragments.map written)).toList =
      fragments.flatMap fun f => f.written.toList := by
    rw [String.toList_join, List.flatMap_map]
  rw [expandText_of_reads (written ▸ reads proper), ← String.toList_inj, String.toList_ofList,
    String.toList_join, List.flatMap_assoc, List.flatMap_map]
  exact congrArg (fragments.flatMap ·) (funext fun f => flatMap_filled env f)

/-- A text in which no placeholder occurs is read one character at a time. -/
theorem reads_of_absent {s : String} (absent : ∀ name fallback before after,
    (placeholder name fallback).IsProper →
      s ≠ before ++ (placeholder name fallback).written ++ after) :
    Reads (s.toList.map .plain) s.toList := by
  have closed : ∀ before after, s.toList = before ++ after → ¬Opens after := by
    rintro before after same ⟨p, proper, rest, rfl⟩
    cases p with
    | plain => exact proper.elim
    | placeholder name fallback =>
      have named : (placeholder (String.ofList name) (fallback.map String.ofList)).IsProper := by
        refine ⟨by simpa using proper.1, ?_⟩
        cases fallback with
        | none => exact nofun
        | some text =>
          rintro _ ⟨⟩
          simpa using proper.2 text rfl
      refine absent _ _ (String.ofList before) (String.ofList rest) named ?_
      rw [← String.toList_inj, same]
      simp [← flatMap_written, pieces, Function.comp_def]
  simpa using Reads.append .done fun before after same _ => by simpa using closed before after same

theorem expandText_of_absent {s : String} (absent : ∀ name fallback before after,
    (placeholder name fallback).IsProper →
      s ≠ before ++ (placeholder name fallback).written ++ after) (env : Environment) :
    expandText env s = s := by
  rw [expandText_of_reads (reads_of_absent absent), List.flatMap_map, ← String.toList_inj]
  simp [Piece.filled]

end Fragment

/-! ## Documents gone through -/

mutual

/-- What a document is beside its texts, whose places are kept. Its lists are as `lists` says. -/
def shape (lists : Access → Access) : Datum → Datum
  | .str _ => .str ""
  | .list access items => .list (lists access) (shapes lists items)
  | .dict .free entries => .dict .free (entryShapes lists entries)
  | v => v
  termination_by structural v => v

def shapes (lists : Access → Access) : List Datum → List Datum
  | [] => []
  | x :: rest => shape lists x :: shapes lists rest
  termination_by structural xs => xs

def entryShapes (lists : Access → Access) : List (Datum × Datum) → List (Datum × Datum)
  | [] => []
  | (k, v) :: rest => (k, shape lists v) :: entryShapes lists rest
  termination_by structural es => es

end

mutual

/-- The texts of a document in their order. Its keys are not among them. -/
def texts : Datum → List String
  | .str s => [s]
  | .list _ items => itemTexts items
  | .dict .free entries => entryTexts entries
  | _ => []
  termination_by structural v => v

def itemTexts : List Datum → List String
  | [] => []
  | x :: rest => texts x ++ itemTexts rest
  termination_by structural xs => xs

def entryTexts : List (Datum × Datum) → List String
  | [] => []
  | (_, v) :: rest => texts v ++ entryTexts rest
  termination_by structural es => es

end

mutual

/-- Filling in keeps everything but the texts, and lists come out plain. -/
theorem shape_expand (env : Environment) :
    ∀ v : Datum, shape id (expand env v) = shape (fun _ => .free) v
  | .list _ items => by simp [expand, shape, shapes_expand env items]
  | .dict .free entries => by simp [expand, shape, entryShapes_expand env entries]
  | .dict (.readOnly _) _ => rfl
  | .str _ | .none | .bool _ | .int _ | .float _ | .bytes _ | .tuple _ | .set .. | .missing
  | .invalid | .live _ => rfl

theorem shapes_expand (env : Environment) : ∀ items : List Datum,
    shapes id (expandItems env items) = shapes (fun _ => .free) items
  | [] => rfl
  | x :: rest => by simp [expandItems, shapes, shape_expand env x, shapes_expand env rest]

theorem entryShapes_expand (env : Environment) : ∀ entries : List (Datum × Datum),
    entryShapes id (expandEntries env entries) = entryShapes (fun _ => .free) entries
  | [] => rfl
  | (k, v) :: rest => by
    simp [expandEntries, entryShapes, shape_expand env v, entryShapes_expand env rest]

end

mutual

/-- Filling in goes through the texts one by one. -/
theorem texts_expand (env : Environment) :
    ∀ v : Datum, texts (expand env v) = (texts v).map (expandText env)
  | .list _ items => by simp [expand, texts, itemTexts_expand env items]
  | .dict .free entries => by simp [expand, texts, entryTexts_expand env entries]
  | .dict (.readOnly _) _ => rfl
  | .str _ | .none | .bool _ | .int _ | .float _ | .bytes _ | .tuple _ | .set .. | .missing
  | .invalid | .live _ => rfl

theorem itemTexts_expand (env : Environment) :
    ∀ items : List Datum, itemTexts (expandItems env items) = (itemTexts items).map (expandText env)
  | [] => rfl
  | x :: rest => by simp [expandItems, itemTexts, texts_expand env x, itemTexts_expand env rest]

theorem entryTexts_expand (env : Environment) : ∀ entries : List (Datum × Datum),
    entryTexts (expandEntries env entries) = (entryTexts entries).map (expandText env)
  | [] => rfl
  | (_, v) :: rest => by
    simp [expandEntries, entryTexts, texts_expand env v, entryTexts_expand env rest]

end

mutual

/-- The shape of a document has room for as many texts. -/
theorem length_texts_shape (lists : Access → Access) :
    ∀ v : Datum, (texts (shape lists v)).length = (texts v).length
  | .list _ items => by simp [shape, texts, length_itemTexts_shape lists items]
  | .dict .free entries => by simp [shape, texts, length_entryTexts_shape lists entries]
  | .dict (.readOnly _) _ => rfl
  | .str _ | .none | .bool _ | .int _ | .float _ | .bytes _ | .tuple _ | .set .. | .missing
  | .invalid | .live _ => rfl

theorem length_itemTexts_shape (lists : Access → Access) :
    ∀ items : List Datum, (itemTexts (shapes lists items)).length = (itemTexts items).length
  | [] => rfl
  | x :: rest => by
    simp [shapes, itemTexts, length_texts_shape lists x, length_itemTexts_shape lists rest]

theorem length_entryTexts_shape (lists : Access → Access) : ∀ entries : List (Datum × Datum),
    (entryTexts (entryShapes lists entries)).length = (entryTexts entries).length
  | [] => rfl
  | (_, v) :: rest => by
    simp [entryShapes, entryTexts, length_texts_shape lists v, length_entryTexts_shape lists rest]

end

/-- Where shapes are the same, texts in a row are those of the first parts and those of the rest. -/
theorem texts_append_inj {v w : Datum} (same : shape id v = shape id w) {ss ts : List String}
    (h : texts v ++ ss = texts w ++ ts) : texts v = texts w ∧ ss = ts := by
  refine List.append_inj h ?_
  rw [← length_texts_shape id v, same, length_texts_shape]

mutual

/-- A document is made up of its shape and its texts. -/
theorem eq_of_shape : ∀ v w : Datum, shape id v = shape id w → texts v = texts w → v = w
  | .str s, w => by
    cases w
    case str t => simp [texts]
    case dict access entries => cases access <;> simp [shape]
    all_goals simp [shape]
  | .list access items, w => by
    cases w
    case list access' items' =>
      intro same all
      simp only [shape, id, Value.list.injEq] at same
      rw [same.1, eq_of_shapes items items' same.2 all]
    case dict access entries => cases access <;> simp [shape]
    all_goals simp [shape]
  | .dict .free entries, w => by
    cases w
    case dict access entries' =>
      intro same all
      cases access with
      | free =>
        simp only [shape, Value.dict.injEq, true_and] at same
        rw [eq_of_entryShapes entries entries' same all]
      | readOnly => simp [shape] at same
    all_goals simp [shape]
  | .dict (.readOnly _) _, w => by
    cases w
    case dict access entries => cases access <;> simp +contextual [shape]
    all_goals simp [shape]
  | .none, w | .bool _, w | .int _, w | .float _, w | .bytes _, w | .tuple _, w | .set .., w
  | .missing, w | .invalid, w | .live _, w => by
    cases w
    case dict access entries => cases access <;> simp [shape]
    all_goals simp +contextual [shape]

theorem eq_of_shapes : ∀ xs ys : List Datum,
    shapes id xs = shapes id ys → itemTexts xs = itemTexts ys → xs = ys
  | [], ys => by cases ys <;> simp [shapes]
  | x :: xs, ys => by
    cases ys with
    | nil => simp [shapes]
    | cons y ys =>
      intro same all
      obtain ⟨first, rest⟩ := List.cons.inj same
      obtain ⟨own, others⟩ := texts_append_inj first all
      rw [eq_of_shape x y first own, eq_of_shapes xs ys rest others]

theorem eq_of_entryShapes : ∀ xs ys : List (Datum × Datum),
    entryShapes id xs = entryShapes id ys → entryTexts xs = entryTexts ys → xs = ys
  | [], ys => by cases ys <;> simp [entryShapes]
  | (k, v) :: xs, ys => by
    cases ys with
    | nil => simp [entryShapes]
    | cons y ys =>
      obtain ⟨l, w⟩ := y
      intro same all
      obtain ⟨entry, rest⟩ := List.cons.inj same
      obtain ⟨key, first⟩ := Prod.mk.inj entry
      obtain ⟨own, others⟩ := texts_append_inj first all
      rw [key, eq_of_shape v w first own, eq_of_entryShapes xs ys rest others]

end

/-- A document is filled in by filling in its texts: everything else about it stays, but for a
read-only list, which comes out as a plain one. -/
theorem expand_eq_iff {env : Environment} {v w : Datum} :
    expand env v = w ↔
      shape id w = shape (fun _ => .free) v ∧ texts w = (texts v).map (expandText env) := by
  constructor
  · rintro rfl
    exact ⟨shape_expand env v, texts_expand env v⟩
  · rintro ⟨same, all⟩
    exact eq_of_shape _ w ((shape_expand env v).trans same.symm)
      ((texts_expand env v).trans all.symm)

/-- A text is read in one way, in which placeholders are found from left to right, and filled in
piece by piece. So fragments are filled in each by itself: a text stays, and a placeholder gives way
to the value of its variable, or else to its fallback, or else it stays; what takes its place is not
looked at again. A text in which no placeholder occurs stays as it is. A document is filled in by
filling in its texts: everything else about it stays, but for a read-only list, which comes out as a
plain one. -/
theorem expansion_is_single_pass (env : Environment) :
    (∀ s : String, ∃ ps, (∀ qs, Reads qs s.toList ↔ qs = ps) ∧
      expandText env s = String.ofList (ps.flatMap (Piece.filled env))) ∧
    (∀ fragments : List Fragment, (∀ f ∈ fragments, f.IsProper) →
      expandText env (String.join (fragments.map Fragment.written)) =
        String.join (fragments.map (Fragment.expanded env))) ∧
    (∀ s : String, (∀ name fallback before after,
        (Fragment.placeholder name fallback).IsProper →
          s ≠ before ++ (Fragment.placeholder name fallback).written ++ after) →
      expandText env s = s) ∧
    ∀ v w : Datum, expand env v = w ↔
      shape id w = shape (fun _ => .free) v ∧ texts w = (texts v).map (expandText env) :=
  ⟨fun s => ⟨pieces s.toList, fun _ => pieces_eq_iff.symm.trans eq_comm, rfl⟩,
    fun _ proper => Fragment.expandText_join proper env,
    fun _ absent => Fragment.expandText_of_absent absent env, fun _ _ => expand_eq_iff⟩

namespace Motto

def env : Environment := [("HOME", "$\x7bUSER\x7d"), ("EMPTY", ""), ("USER", "ann")]

def fragments : List Fragment := [
  .text "to\n", .placeholder "HOME" none, .placeholder "EMPTY" (some "x"), .text "\x7d\x7b",
  .placeholder "PORT" none, .placeholder "_N1" (some "$\x7bUSER"), .text "\x7bUSER\x7d"]

def document : Datum := .dict .free [
  (.str "$\x7bUSER\x7d", .list .free [
    .str "$\x7bUSER\x7d!", .int 3, .dict .free [(.int 1, .str "")]]),
  (.str "rest", .tuple [.str "$\x7bUSER\x7d"])]

/-- A value and a fallback that hold a placeholder, or a part of one, are not filled in again, and
neither is a key, a tuple, or a placeholder that is not closed. -/
theorem motto_filled :
    (∀ f ∈ fragments, f.IsProper) ∧
    expandText env
      "to\n$\x7bHOME\x7d$\x7bEMPTY:-x\x7d\x7d\x7b$\x7bPORT\x7d$\x7b_N1:-$\x7bUSER\x7d\x7bUSER\x7d" =
        "to\n$\x7bUSER\x7d\x7d\x7b$\x7bPORT\x7d$\x7bUSER\x7bUSER\x7d" ∧
    expandText env "$5 $\x7bUSER" = "$5 $\x7bUSER" ∧
    expand env document = .dict .free [
      (.str "$\x7bUSER\x7d", .list .free [.str "ann!", .int 3, .dict .free [(.int 1, .str "")]]),
      (.str "rest", .tuple [.str "$\x7bUSER\x7d"])] := by
  obtain ⟨-, joined, closed, filled⟩ := expansion_is_single_pass env
  have proper : ∀ f ∈ fragments, f.IsProper := by decide
  refine ⟨proper, joined fragments proper, closed _ ?_, (filled document _).2 ⟨rfl, ?_⟩⟩
  · rintro name fallback before after - same
    have closing : '\x7d' ∈ "$5 $\x7bUSER".toList := by
      rw [same]
      cases fallback <;> simp [Fragment.written]
    exact absurd closing (by decide)
  · have greeting : expandText env "$\x7bUSER\x7d!" = "ann!" :=
      joined [.placeholder "USER" none, .text "!"] (by decide)
    have blank : expandText env "" = "" := joined [] nofun
    change ["ann!", ""] = [expandText env "$\x7bUSER\x7d!", expandText env ""]
    rw [greeting, blank]

end Motto
end TwoWay.Settings
