import TwoWay.Proofs.Forcing.Law

/-!
# Laws of building

A law passes from the look-ups of building to the methods that are called and to the schema
that a blueprint gives (`Run.Law.build`).
-/

namespace TwoWay.Run.Law

variable {ι : Type} {L : Run.Law ι} {owner : LazyId}
variable {tags : ι → LazyId → Origin → Run (List Datum)}

/-! ## Methods -/

theorem checkPattern (pattern : Datum) : L.Makes fun _ => Schema.checkPattern pattern := by
  have read (written : WrittenPattern) :
      L.Makes fun _ => Schema.checkPattern.read written := by
    unfold Schema.checkPattern.read
    split
    · exact Makes.pure _
    · exact Makes.refuse _
  unfold Schema.checkPattern
  split
  · exact read _
  · exact read _
  · split
    · exact Makes.fail _
    · exact Makes.refuse _

theorem optionalFields (shape : List (String × Schema)) :
    L.Makes fun _ => Schema.optionalFields shape := by
  induction shape with
  | nil => exact Makes.pure []
  | cons f rest ih =>
    exact Makes.bind (requireMethod _ _) fun _ => Makes.bind ih fun _ => Makes.pure _

theorem callCommon (m : Method Schema) (s : Schema) :
    L.Makes fun _ => Schema.callCommon m s := by
  cases m
  case default value factory =>
    simp only [Schema.callCommon]
    split
    · exact Makes.pure _
    · exact Makes.refuse _
  case «catch» value factory =>
    simp only [Schema.callCommon]
    split
    · exact Makes.pure _
    · exact Makes.refuse _
  all_goals exact Makes.pure _

theorem callOwn (ht : ∀ id origin, L.Holds fun i => tags i id origin) (m : Method Schema)
    (s : Schema) : L.Makes fun i => Schema.callOwn ⟨owner, tags i⟩ m s := by
  unfold Schema.callOwn
  split
  case h_3 => exact Makes.bind (checkPattern _) fun _ => Makes.pure _
  case h_16 => exact Makes.bind (optionalFields _) fun _ => Makes.pure _
  case h_20 => exact Makes.map _ (invertWith ht _)
  all_goals exact Makes.pure _

theorem call (ht : ∀ id origin, L.Holds fun i => tags i id origin) (m : Method Schema)
    (s : Schema) : L.Makes fun i => Schema.call ⟨owner, tags i⟩ m s := by
  unfold Schema.call
  split
  · exact Makes.pure _
  · exact Makes.refuse _
  · dsimp only
    split
    · exact Makes.fail _
    · refine Makes.bind (callOwn ht _ _) fun own => ?_
      cases own with
      | some t => exact Makes.pure t
      | none =>
        refine Makes.bind (callCommon _ _) fun common => ?_
        cases common with
        | some t => exact Makes.pure t
        | none => exact Makes.fail _

/-! ## Blueprints -/

theorem declaredKind (kind : Datum) (isMember : Bool) :
    L.Makes fun _ => Blueprint.declaredKind kind isMember := by
  unfold Blueprint.declaredKind
  split
  · dsimp only
    split
    · exact Makes.pure _
    · exact Makes.refuse _
  · exact Makes.pure _

theorem twoWay (input : Schema) (parse : Option FunctionRef) (output : Schema)
    (format : Option FunctionRef) :
    L.Makes fun _ => Blueprint.twoWay input parse output format := by
  unfold Blueprint.twoWay
  split
  · split
    · exact Makes.pure _
    · exact Makes.refuse _
  · exact Makes.refuse _

theorem functionOfTuple (args returns : Schema) :
    L.Makes fun _ => Blueprint.functionOfTuple args returns := by
  unfold Blueprint.functionOfTuple
  split
  · exact Makes.pure _
  · exact Makes.pure _
  · split
    · exact Makes.pure _
    · exact Makes.fail _
  · exact Makes.fail _

theorem unknownKeysOf (name : Option String) : L.Makes fun _ => Blueprint.unknownKeysOf name := by
  unfold Blueprint.unknownKeysOf
  split
  · exact Makes.pure _
  · split
    · exact Makes.pure _
    · exact Makes.refuse _

theorem ofUnion (options : List Schema) : L.Makes fun _ => Schema.ofUnion options := by
  unfold Schema.ofUnion
  split
  · exact Makes.refuse _
  · exact Makes.pure _

variable {shared : ι → String → Run Schema}

mutual

theorem build (ht : ∀ id origin, L.Holds fun i => tags i id origin)
    (hs : ∀ name, L.Holds fun i => shared i name) :
    ∀ b : Blueprint, L.Makes fun i => b.build ⟨⟨owner, tags i⟩, shared i⟩
  | .array element | .set element | .promise element | .preprocess _ element _ => by
    simp only [Blueprint.build]
    exact Makes.bind (build ht hs element) fun _ => Makes.pure _
  | .object shape catchall policy => by
    simp only [Blueprint.build]
    have rest (fields catchall) := Makes.bind (L := L) (unknownKeysOf policy) fun p =>
      Makes.pure (Schema.object (Schema.putFields [] fields) catchall p)
    refine Makes.bind (buildFields ht hs shape) fun _ => ?_
    match catchall with
    | none => exact Makes.bind (Makes.pure none) fun _ => rest _ _
    | some c => exact Makes.bind (Makes.map Schema.given (build ht hs c)) fun _ => rest _ _
  | .union options => by
    simp only [Blueprint.build]
    exact Makes.bind (buildAll ht hs options) fun _ => ofUnion _
  | .tagged key options => by
    simp only [Blueprint.build]
    exact Makes.bind (buildAll ht hs options) fun _ => Makes.lift (ofTagged ht _ _)
  | .intersection left right | .map left right => by
    simp only [Blueprint.build]
    exact Makes.bind (build ht hs left) fun _ => Makes.bind (build ht hs right) fun _ =>
      Makes.pure _
  | .tuple items rest => by
    simp only [Blueprint.build]
    refine Makes.bind (buildAll ht hs items) fun _ => ?_
    match rest with
    | none => exact Makes.bind (Makes.pure none) fun _ => Makes.pure _
    | some r => exact Makes.bind (Makes.map Schema.given (build ht hs r)) fun _ => Makes.pure _
  | .record key value => by
    unfold Blueprint.build
    match key with
    | none => exact Makes.bind (build ht hs value) fun _ => Makes.pure _
    | some k =>
      exact Makes.bind (build ht hs k) fun _ => Makes.bind (build ht hs value) fun _ =>
        Makes.pure _
  | .function args returns => by
    unfold Blueprint.build
    have result (items : List Schema) (rest : Option Schema) : L.Makes fun i => (match returns with
        | some r => do
          let s ← (fun s => s.given.getD Schema.unknown) <$> r.build ⟨⟨owner, tags i⟩, shared i⟩
          Pure.pure (Schema.function items rest s)
        | none => do
          let s ← Pure.pure Schema.unknown
          Pure.pure (Schema.function items rest s) : Make Schema) := by
      match returns with
      | none => exact Makes.bind (Makes.pure _) fun _ => Makes.pure _
      | some r => exact Makes.bind (Makes.map _ (build ht hs r)) fun _ => Makes.pure _
    match args with
    | none => exact Makes.bind (Makes.pure ([], some Schema.unknown)) fun _ => result _ _
    | some items =>
      refine Makes.bind (buildAll ht hs items) fun xs => ?_
      exact Makes.bind (Makes.pure (xs, none)) fun _ => result _ _
  | .functionOf args returns => by
    unfold Blueprint.build
    refine Makes.bind (build ht hs args) fun _ => ?_
    match returns with
    | none => exact Makes.bind (Makes.pure _) fun _ => functionOfTuple _ _
    | some r => exact Makes.bind (Makes.map _ (build ht hs r)) fun _ => functionOfTuple _ _
  | .lazy getter => by
    simp only [Blueprint.build]
    exact fun n => L.pure (Schema.lazy (.within owner n) (.getter getter), n + 1)
  | .invertible input parse output format => by
    simp only [Blueprint.build]
    exact Makes.bind (build ht hs input) fun _ => Makes.bind (build ht hs output) fun _ =>
      twoWay _ _ _ _
  | .foreign kind isMember => by
    simp only [Blueprint.build]
    exact Makes.bind (declaredKind _ _) fun _ => Makes.pure _
  | .shared name => by
    simp only [Blueprint.build]
    exact Makes.lift (hs name)
  | .call base method => by
    simp only [Blueprint.build]
    refine Makes.bind (build ht hs base) fun _ => ?_
    exact Makes.bind (buildMethod ht hs method) fun _ => call ht _ _
  | .enum values => by
    simp only [Blueprint.build]
    split
    · exact Makes.refuse _
    · exact Makes.pure _
  | .string | .number _ | .boolean | .none | .any | .unknown | .never | .literal _ | .kindless
  | .raw _ => Makes.pure _

theorem buildAll (ht : ∀ id origin, L.Holds fun i => tags i id origin)
    (hs : ∀ name, L.Holds fun i => shared i name) :
    ∀ bs : List Blueprint, L.Makes fun i => Blueprint.buildAll ⟨⟨owner, tags i⟩, shared i⟩ bs
  | [] => Makes.pure []
  | b :: rest => Makes.bind (build ht hs b) fun _ => Makes.bind (buildAll ht hs rest) fun _ =>
    Makes.pure _

theorem buildFields (ht : ∀ id origin, L.Holds fun i => tags i id origin)
    (hs : ∀ name, L.Holds fun i => shared i name) :
    ∀ fields : List (String × Blueprint),
      L.Makes fun i => Blueprint.buildFields ⟨⟨owner, tags i⟩, shared i⟩ fields
  | [] => Makes.pure []
  | (_, b) :: rest => Makes.bind (build ht hs b) fun _ =>
    Makes.bind (buildFields ht hs rest) fun _ => Makes.pure _

theorem buildMethod (ht : ∀ id origin, L.Holds fun i => tags i id origin)
    (hs : ∀ name, L.Holds fun i => shared i name) :
    ∀ m : Method Blueprint, L.Makes fun i => Blueprint.buildMethod ⟨⟨owner, tags i⟩, shared i⟩ m
  | .pipe s | .or s | .and s | .withCatchall s | .withRest s | .withReturns s => by
    simp only [Blueprint.buildMethod]
    exact Makes.bind (build ht hs s) fun _ => Makes.pure _
  | .withArgs ss => by
    simp only [Blueprint.buildMethod]
    exact Makes.bind (buildAll ht hs ss) fun _ => Makes.pure _
  | .extend fields => by
    simp only [Blueprint.buildMethod]
    exact Makes.bind (buildFields ht hs fields) fun _ => Makes.pure _
  | .min _ | .max _ | .regex _ | .brand _ | .nonempty | .positive | .negative | .nonnegative
  | .integer | .policy _ | .allOptional | .optional | .nullable | .readonly | .promise | .array
  | .inverse | .unwrap | .removeDefault | .removeCatch | .ignoreEffect | .inner | .superRefine _
  | .transform _ _ | .refine _ _ _ | .default _ _ | .catch _ _ => Makes.pure _

end
end TwoWay.Run.Law
