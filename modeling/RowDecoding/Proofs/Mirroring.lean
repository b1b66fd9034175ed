import Mathlib.Data.List.Nodup
import RowDecoding.Proofs.Absence
import RowDecoding.Proofs.Supplied

/-!
# Plans mirror schemas

What a compiled plan has of the schema of its target: one step for each field, in the order of
declaration, of the kind that the directives of the field ask for and with the key that the
addressing of the schema gives it; and as requirements those of the steps, each of them once.

The fields of a schema come from a tuple type, a built-in class, or one of four kinds of declared
classes. `introspect_ordinal` and `introspect_names` say for all of them that they are numbered and
named as declared.
-/

namespace RowDecoding

/-! ## Requirements without repetition -/

namespace Requirement

/-- What a requirement is told apart by. -/
def identity (r : Requirement) : Capability × List Key :=
  (r.capability, keysOfTypes r.types)

theorem same_iff {a b : Requirement} : a.same b = true ↔ a.identity = b.identity := by
  simp [same, identity]

/-- The requirements that are kept, last one first, when one more is met. -/
def keep (kept : List Requirement) (r : Requirement) : List Requirement :=
  if kept.any (r.same ·) then kept else r :: kept

theorem keep_identities (kept : List Requirement) (r : Requirement) (k : Capability × List Key) :
    k ∈ (keep kept r).map identity ↔ k ∈ kept.map identity ∨ k = r.identity := by
  unfold keep
  split
  next hkept =>
    obtain ⟨q, hq, hsame⟩ := List.any_eq_true.mp hkept
    have hmem : r.identity ∈ kept.map identity := by
      rw [same_iff.mp hsame]
      exact List.mem_map_of_mem hq
    exact ⟨Or.inl, fun h => h.elim id fun h => h ▸ hmem⟩
  next => rw [List.map_cons, List.mem_cons, or_comm]

theorem keep_nodup {kept : List Requirement} (r : Requirement)
    (h : (kept.map identity).Nodup) : ((keep kept r).map identity).Nodup := by
  unfold keep
  split
  next => exact h
  next hnew =>
    refine List.nodup_cons.mpr ⟨fun hmem => hnew ?_, h⟩
    obtain ⟨q, hq, hsame⟩ := List.mem_map.mp hmem
    exact List.any_eq_true.mpr ⟨q, hq, same_iff.mpr hsame.symm⟩

theorem foldl_keep_identities (requirements kept : List Requirement)
    (k : Capability × List Key) :
    k ∈ (requirements.foldl keep kept).map identity ↔
      k ∈ kept.map identity ∨ k ∈ requirements.map identity := by
  induction requirements generalizing kept with
  | nil => simp
  | cons r requirements ih =>
    rw [List.foldl_cons, ih, keep_identities, List.map_cons, List.mem_cons, or_assoc]

theorem foldl_keep_nodup (requirements : List Requirement) {kept : List Requirement}
    (h : (kept.map identity).Nodup) : ((requirements.foldl keep kept).map identity).Nodup := by
  induction requirements generalizing kept with
  | nil => exact h
  | cons r requirements ih => exact ih (keep_nodup r h)

theorem distinct_eq (requirements : List Requirement) :
    distinct requirements = (requirements.foldl keep []).reverse := rfl

/-- No requirement is lost and none is added. -/
theorem mem_distinct_identities {requirements : List Requirement} {k : Capability × List Key} :
    k ∈ (distinct requirements).map identity ↔ k ∈ requirements.map identity := by
  rw [distinct_eq, List.map_reverse, List.mem_reverse, foldl_keep_identities]
  exact or_iff_right List.not_mem_nil

/-- No two requirements are the same. -/
theorem distinct_nodup (requirements : List Requirement) :
    ((distinct requirements).map identity).Nodup := by
  rw [distinct_eq, List.map_reverse, List.nodup_reverse]
  exact foldl_keep_nodup requirements List.nodup_nil

end Requirement

/-! ## The fields of a schema -/

/-- The parameters of the constructor of a class that may be given one by one, apart from the
instance. -/
def Constructor.fieldNames (maker : Constructor) : List String :=
  (if maker.receiver == "self" then [] else [maker.receiver]) ++
    ((maker.parameters.filter fun f => f.name != "self" && !f.kind.isSpread).map (·.name))

/-- The names of the fields of a built-in class: what an identifier is made from. -/
def Builtin.fieldNames : Builtin → List String
  | .uuid => ["hex", "bytes", "bytes_le", "fields", "int", "version", "is_safe"]
  | _ => []

/-- The items of a tuple type. -/
def TypeExpr.items : TypeExpr → List TypeExpr
  | .tupleOf _ items => items
  | _ => []

/-- The names of the fields of a class that has some: those that a record is made from, and all of
a validating record or of a tuple class. -/
def ClassInfo.ownNames (info : ClassInfo) : List String :=
  match info.ref.form with
  | .namedTuple | .model _ => info.fields.map (·.name)
  | _ => (info.fields.filter (·.inConstructor)).map (·.name)

/-- The names of the fields of a class that has none of its own: the parameters of its constructor,
or what the built-in class that it extends is made from. -/
def ClassInfo.constructorNames (info : ClassInfo) : List String :=
  match info.replaced, info.constructor?, info.ref.form with
  | none, some maker, _ => maker.fieldNames
  | none, none, .extension b => b.fieldNames
  | _, _, _ => []

/-- The names of the fields of a class in the order of their declaration. -/
def ClassTable.fieldNames (table : ClassTable) (c : ClassRef) : List String :=
  match table.schemaOf? c with
  | some info => info.ownNames
  | none => (table.info c).constructorNames

section

variable {fields : List (String × TypeExpr × Attributes × Option Supply)} {table : ClassTable}
  {name : String} {schemas : List FieldSchema}

theorem numbered_ordinals (fields : List (String × TypeExpr × Attributes × Option Supply)) :
    (numbered fields).map (·.ordinal) = List.range fields.length := by
  rw [numbered, List.map_map, List.range_eq_range', ← List.zipIdx_map_snd 0 fields]
  rfl

theorem numbered_names (fields : List (String × TypeExpr × Attributes × Option Supply)) :
    (numbered fields).map (·.name) = fields.map fun field => some field.1 := by
  rw [numbered, List.map_map]
  conv_rhs => rw [← List.zipIdx_map_fst 0 fields, List.map_map]
  rfl

/-- Fields that are numbered as they stand and called by these names. -/
structure Ordered (schemas : List FieldSchema) (names : List (Option String)) : Prop where
  ordinals : schemas.map (·.ordinal) = List.range schemas.length
  names : schemas.map (·.name) = names

theorem Ordered.nil : Ordered [] [] :=
  ⟨rfl, rfl⟩

theorem ordered_numbered (fields : List (String × TypeExpr × Attributes × Option Supply)) :
    Ordered (numbered fields) (fields.map fun field => some field.1) := by
  refine ⟨?_, numbered_names fields⟩
  rw [numbered_ordinals, numbered, List.length_map, List.length_zipIdx]

/-- Fields that are read off declared ones have their names. -/
theorem ordered_declared (declared : List FieldDeclaration)
    (rest : FieldDeclaration → TypeExpr × Attributes × Option Supply) :
    Ordered (numbered (declared.map fun f => (f.name, rest f)))
      ((declared.map (·.name)).map some) := by
  have hordered := ordered_numbered (declared.map fun f => (f.name, rest f))
  rwa [List.map_map] at hordered ⊢

end

section

variable {table : ClassTable} {name : String} {info : ClassInfo} {schemas : List FieldSchema}

theorem ordered_recordFields (h : recordFields table name info = .ok schemas) :
    Ordered schemas (((info.fields.filter (·.inConstructor)).map (·.name)).map some) := by
  unfold recordFields at h
  obtain ⟨annotations, -, h⟩ := Running.bind_eq_ok.mp h
  cases h
  exact ordered_declared _ _

theorem ordered_tupleClassFields (h : tupleClassFields table name info = .ok schemas) :
    Ordered schemas ((info.fields.map (·.name)).map some) := by
  unfold tupleClassFields at h
  obtain ⟨annotations, -, h⟩ := Running.bind_eq_ok.mp h
  cases h
  exact ordered_declared _ _

theorem ordered_constructorFields {maker : Constructor}
    (h : constructorFields table name maker = .ok schemas) :
    Ordered schemas (maker.fieldNames.map some) := by
  unfold constructorFields at h
  dsimp only at h
  generalize hreceiver : (if maker.receiver == "self" then []
    else [{ (default : FieldDeclaration) with name := maker.receiver }]) = receiver at h
  generalize hparameters : (receiver ++ maker.parameters).filter
    (fun f => f.name != "self" && !f.kind.isSpread) = parameters at h
  -- The receiver is a parameter like the others unless it is called `self`.
  have hfirst : (receiver.filter fun f => f.name != "self" && !f.kind.isSpread).map (·.name) =
      if maker.receiver == "self" then [] else [maker.receiver] := by
    rw [← hreceiver]
    cases hself : maker.receiver == "self" with
    | true => rfl
    | false =>
      rw [if_neg Bool.false_ne_true, if_neg Bool.false_ne_true, List.filter_cons_of_pos]
      · rfl
      · show (!(maker.receiver == "self") && true) = true
        rw [hself]
        rfl
  have hnames : parameters.map (·.name) = maker.fieldNames := by
    rw [← hparameters, List.filter_append, List.map_append, hfirst]
    rfl
  rw [← hnames]
  split at h
  next hempty =>
    cases h
    rw [List.isEmpty_iff.mp hempty]
    exact Ordered.nil
  next =>
    obtain ⟨annotations, -, h⟩ := Running.bind_eq_ok.mp h
    cases h
    exact ordered_declared _ _

theorem ordered_builtinFields (b : Builtin) :
    Ordered (builtinFields b) (b.fieldNames.map some) := by
  cases b with
  | uuid => exact ordered_numbered _
  | _ => exact Ordered.nil

theorem ordered_plainFields (h : plainFields table info = .ok schemas) :
    Ordered schemas (info.constructorNames.map some) := by
  unfold plainFields at h
  split at h
  next maker hreplaced hmaker =>
    have hnames : info.constructorNames = maker.fieldNames := by
      unfold ClassInfo.constructorNames
      rw [hreplaced, hmaker]
    rw [hnames]
    exact ordered_constructorFields h
  next b hreplaced hmaker hform =>
    have hnames : info.constructorNames = b.fieldNames := by
      unfold ClassInfo.constructorNames
      rw [hreplaced, hmaker, hform]
    cases h
    rw [hnames]
    exact ordered_builtinFields b
  next hmaker hbuiltin =>
    have hnames : info.constructorNames = [] := by
      unfold ClassInfo.constructorNames
      split
      next maker hreplaced hfound => exact absurd hfound (hmaker maker hreplaced)
      next b hreplaced hfound hform => exact absurd hform (hbuiltin b hreplaced hfound)
      next => rfl
    cases h
    rw [hnames]
    exact Ordered.nil

theorem ordered_declaredFields {c : ClassRef} {addressing : Addressing}
    (h : declaredFields table c = .ok (addressing, schemas)) :
    Ordered schemas ((table.fieldNames c).map some) := by
  unfold declaredFields at h
  unfold ClassTable.fieldNames
  cases hschema : table.schemaOf? c with
  | none =>
    rw [hschema] at h
    obtain ⟨fields, hfields, h⟩ := Running.bind_eq_ok.mp h
    cases h
    exact ordered_plainFields hfields
  | some info =>
    rw [hschema] at h
    dsimp only at h ⊢
    cases hform : info.ref.form with
    | namedTuple =>
      rw [hform] at h
      obtain ⟨fields, hfields, h⟩ := Running.bind_eq_ok.mp h
      cases h
      rw [ClassInfo.ownNames, hform]
      exact ordered_tupleClassFields hfields
    | model keys =>
      rw [hform] at h
      cases h
      rw [ClassInfo.ownNames, hform]
      exact ordered_declared _ _
    | _ =>
      rw [hform] at h
      obtain ⟨fields, hfields, h⟩ := Running.bind_eq_ok.mp h
      cases h
      rw [ClassInfo.ownNames, hform]
      exact ordered_recordFields hfields

theorem ordered_aliasFields {t : TypeExpr} (h : aliasFields t = .ok schemas) :
    Ordered schemas (t.items.map fun _ => none) := by
  unfold aliasFields at h
  split at h
  · cases h
  next form items =>
    cases h
    refine ⟨?_, ?_⟩
    · rw [List.map_map, List.length_map, List.length_zipIdx, List.range_eq_range',
        ← List.zipIdx_map_snd 0 items]
      rfl
    · rw [List.map_map]
      conv_rhs => rw [TypeExpr.items, ← List.zipIdx_map_fst 0 items, List.map_map]
      rfl
  next hany hitems =>
    cases h
    have hnone : t.items = [] := by
      unfold TypeExpr.items
      split
      next form items => exact absurd rfl (hitems form items)
      next => rfl
    rw [hnone]
    exact Ordered.nil

/-- The names of the fields of a target in the order of their declaration; those of a tuple type
have none. -/
def ClassTable.declaredNames (table : ClassTable) (target : TypeExpr) : List (Option String) :=
  match target with
  | .builtin b => b.fieldNames.map some
  | .declared c => (table.fieldNames c).map some
  | t => t.items.map fun _ => none

/-- **Schemas keep the order of declaration.** Whatever a target is, its fields are numbered as they
stand and have the names of the declared ones, in order. -/
theorem introspect_ordered {target : TypeExpr} {schema : Schema}
    (h : introspect table target = .ok schema) :
    Ordered schema.fields (table.declaredNames target) := by
  rcases (introspect_ok h).2 with ⟨hform, -, halias⟩ | ⟨b, rfl, -, hb⟩ | ⟨c, rfl, hfields⟩
  · cases target with
    | tupleOf form items => exact ordered_aliasFields halias
    | tupleOfAny t => exact ordered_aliasFields halias
    | _ => exact absurd hform Bool.false_ne_true
  · rw [hb]
    exact ordered_builtinFields b
  · exact ordered_declaredFields hfields

end

/-! ## Steps -/

/-- The name of the kind of step that directives ask for: a flattened field has no column, one that
is read as another type is converted, and all others are read as they are addressed. -/
def FieldDirectives.kind (d : FieldDirectives) (addressing : Addressing) : String :=
  if d.flatten then "Flatten"
  else if d.tryFrom.isSome then "DirectThenConvert"
  else
    match addressing with
    | .byName => "DirectByName"
    | .byPosition => "DirectByIndex"

/-- A step as its field and the directives of the field ask for it. -/
structure StepMirrors (schema : Schema) (container : ContainerDirectives) (f : FieldSchema)
    (d : FieldDirectives) (s : DecodeStep) : Prop where
  fieldName : s.fieldName = f.name
  ordinal : s.ordinal = f.ordinal
  fieldType : s.fieldType = f.fieldType
  sourceType : s.sourceType = d.tryFrom.getD f.fieldType
  kind : s.strategy.title = d.kind schema.addressing
  /-- A flattened field reads no column. -/
  flattened : d.flatten = true → s.strategy.key? = none
  /-- By name, a field is read from the column that its directives and those of the container give
  it. -/
  named : d.flatten = false → schema.addressing = .byName →
    s.strategy.key? = some (.text (columnName (f.name.getD "") d container))
  /-- By position, it is read from its own place whatever the directives say. -/
  positioned : d.flatten = false → schema.addressing = .byPosition →
    s.strategy.key? = some (.int f.ordinal)

/-- What a step needs of its types. -/
inductive Needs (d : FieldDirectives) (s : DecodeStep) : Requirement → Prop where
  | nestedMapping (h : s.strategy.title = "Flatten") : Needs d s ⟨.nestedMapping, [s.sourceType]⟩
  | decode (h : s.strategy.title ≠ "Flatten") : Needs d s ⟨.decode, [s.sourceType]⟩
  | typeCompatible (h : s.strategy.title ≠ "Flatten") :
    Needs d s ⟨.typeCompatible, [s.sourceType]⟩
  | convertible (h : d.tryFrom.isSome = true) : Needs d s ⟨.convertible, [s.sourceType, s.fieldType]⟩

section

variable {q : Lookups Outcomes} {table : ClassTable} {schema : Schema}
  {container : ContainerDirectives} {overrides : Overrides} {f : FieldSchema}
  {d : FieldDirectives} {owner : String} {s : DecodeStep}

/-- A field that is not flattened is read by its key, in the way that its directives ask for. -/
theorem columnStrategy_spec (decoder : Option Transform) (h : d.flatten = false) :
    (Compile.columnStrategy schema container f d decoder).title = d.kind schema.addressing ∧
      (Compile.columnStrategy schema container f d decoder).key? =
        some (Compile.keyOf schema container f d) := by
  unfold Compile.columnStrategy FieldDirectives.kind
  dsimp only
  rw [h, if_neg Bool.false_ne_true]
  split
  · exact ⟨rfl, rfl⟩
  · cases schema.addressing <;> exact ⟨rfl, rfl⟩

/-- The step of a field mirrors it. -/
theorem stepMirrors_of_stepOf (h : Compile.stepOf q table schema container f d owner (.ok s)) :
    StepMirrors schema container f d s := by
  obtain ⟨-, -, hstrategy, hmade⟩ := Compile.stepOf_ok.mp h
  have hname : s.fieldName = f.name := congrArg Step.fieldName hmade
  have hordinal : s.ordinal = f.ordinal := congrArg Step.ordinal hmade
  have htype : s.fieldType = f.fieldType := congrArg Step.fieldType hmade
  have hsource : s.sourceType = Compile.sourceOf f d := congrArg Step.sourceType hmade
  unfold Compile.strategyOf at hstrategy
  cases hflat : d.flatten with
  | true =>
    rw [hflat, if_pos rfl] at hstrategy
    obtain ⟨mapper, -, hmapper⟩ := Outcomes.bind_ok.mp hstrategy
    have hs : s.strategy = .flatten mapper := Except.ok.inj hmapper
    refine ⟨hname, hordinal, htype, hsource, ?_, fun _ => ?_, fun h => ?_, fun h => ?_⟩
    · rw [hs]
      unfold FieldDirectives.kind
      rw [if_pos hflat]
      rfl
    · rw [hs]
      rfl
    · exact absurd (hflat.symm.trans h) (by decide)
    · exact absurd (hflat.symm.trans h) (by decide)
  | false =>
    rw [hflat, if_neg Bool.false_ne_true] at hstrategy
    obtain ⟨decoder, -, hdecoder⟩ := Outcomes.bind_ok.mp hstrategy
    have hs : s.strategy = Compile.columnStrategy schema container f d decoder :=
      Except.ok.inj hdecoder
    obtain ⟨htitle, hkey⟩ : (s.strategy.title = d.kind schema.addressing) ∧
        s.strategy.key? = some (Compile.keyOf schema container f d) := by
      rw [hs]
      exact columnStrategy_spec decoder hflat
    refine ⟨hname, hordinal, htype, hsource, htitle, fun h => ?_, fun _ hby => ?_, fun _ hby => ?_⟩
    · exact absurd (hflat.symm.trans h) (by decide)
    · rw [hkey, Compile.keyOf, hby]
    · rw [hkey, Compile.keyOf, hby]

theorem FieldDirectives.kind_eq_flatten_iff (addressing : Addressing) :
    d.kind addressing = "Flatten" ↔ d.flatten = true := by
  unfold FieldDirectives.kind
  cases d.flatten <;> cases d.tryFrom.isSome <;> cases addressing <;> decide

/-- The requirements of a field are what its step needs. -/
theorem mem_requirementsOf_iff (h : StepMirrors schema container f d s) {r : Requirement} :
    r ∈ Compile.requirementsOf f d ↔ Needs d s r := by
  have hflat : s.strategy.title = "Flatten" ↔ d.flatten = true := by
    rw [h.kind]
    exact FieldDirectives.kind_eq_flatten_iff _
  have hsource : Compile.sourceOf f d = s.sourceType := h.sourceType.symm
  rw [Compile.requirementsOf, hsource, ← h.fieldType, List.mem_append]
  constructor
  · rintro (hreading | hconverting)
    · split at hreading
      next hd =>
        rw [List.mem_singleton.mp hreading]
        exact .nestedMapping (hflat.mpr hd)
      next hd =>
        rcases List.mem_pair.mp hreading with rfl | rfl
        · exact .decode fun htitle => hd (hflat.mp htitle)
        · exact .typeCompatible fun htitle => hd (hflat.mp htitle)
    · split at hconverting
      next hd =>
        rw [List.mem_singleton.mp hconverting]
        exact .convertible hd
      next => exact absurd hconverting List.not_mem_nil
  · rintro (htitle | htitle | htitle | hd)
    · rw [if_pos (hflat.mp htitle)]
      exact Or.inl (List.mem_singleton_self _)
    · rw [if_neg fun hd => htitle (hflat.mpr hd)]
      exact Or.inl (List.mem_cons_self ..)
    · rw [if_neg fun hd => htitle (hflat.mpr hd)]
      exact Or.inl (List.mem_cons_of_mem _ (List.mem_singleton_self _))
    · rw [if_pos hd]
      exact Or.inr (List.mem_singleton_self _)

end

/-! ## Plans -/

/-- What a compiled plan has of the schema of its target: its steps are those of the fields, one by
one, and its requirements are what the steps need, each of them once. -/
structure PlanMirrors (schema : Schema) (container : ContainerDirectives) (overrides : Overrides)
    (p : DecodePlan) : Prop where
  target : p.target = schema.target
  addressing : p.addressing = schema.addressing
  length : p.steps.length = schema.fields.length
  step : ∀ (i : Nat) f, schema.fields[i]? = some f → ∃ s d, p.steps[i]? = some s ∧
    s.ordinal = i ∧
    resolveField (Compile.rawDirectives overrides f) (Compile.ownerName schema f) = .ok d ∧
    StepMirrors schema container f d s
  requirements : ∀ k, k ∈ p.requirements.map (·.identity) ↔
    ∃ (i : Nat) (f : FieldSchema) (s : DecodeStep) (d : FieldDirectives) (r : Requirement),
      schema.fields[i]? = some f ∧ p.steps[i]? = some s ∧
      resolveField (Compile.rawDirectives overrides f) (Compile.ownerName schema f) = .ok d ∧
      Needs d s r ∧ r.identity = k
  distinct : (p.requirements.map (·.identity)).Nodup
  /-- All keys are texts, or each one is the place of its step. -/
  keys : (∀ s ∈ p.steps, ∀ key ∈ s.strategy.key?, ∃ name, key = .text name) ∨
    ∀ s ∈ p.steps, ∀ key ∈ s.strategy.key?, key = .int s.ordinal

namespace Compile

variable {q : Lookups Outcomes} {table : ClassTable} {schema : Schema}
  {container : ContainerDirectives} {overrides : Overrides} {target : TypeExpr} {p : DecodePlan}

/-- The directives of a field with its step and what it requires. -/
def FieldCompiled (schema : Schema) (container : ContainerDirectives) (overrides : Overrides)
    (f : FieldSchema) (c : DecodeStep × List Requirement) : Prop :=
  ∃ d, resolveField (rawDirectives overrides f) (ownerName schema f) = .ok d ∧
    StepMirrors schema container f d c.1 ∧ c.2 = requirementsOf f d

theorem fieldCompiled_of_compileField {f : FieldSchema} {c : DecodeStep × List Requirement}
    (h : compileField q table schema container overrides f (.ok c)) :
    FieldCompiled schema container overrides f c := by
  simp only [compileField, Outcomes.bind_ok, Outcomes.lift_apply, Outcomes.pure_apply] at h
  obtain ⟨d, hd, -, -, step, hstep, hc⟩ := h
  cases hc
  exact ⟨d, hd.symm, stepMirrors_of_stepOf hstep, rfl⟩

theorem buildWith_compiled (h : buildWith q table target overrides (.ok p)) :
    ∃ schema container compiled mark,
      introspect table target = .ok schema ∧
      resolveContainer (overrides.onContainer schema.container) schema.name = .ok container ∧
      List.Forall₂ (FieldCompiled schema container overrides) schema.fields compiled ∧
      p = planOf schema compiled mark := by
  simp only [buildWith, Outcomes.bind_ok, Outcomes.lift_apply, Outcomes.pure_apply] at h
  obtain ⟨schema, hschema, container, hcontainer, -, -, compiled, hall, mark, -, hp⟩ := h
  refine ⟨schema, container, compiled, mark, hschema.symm, hcontainer.symm, ?_, Except.ok.inj hp⟩
  exact (Outcomes.mapM_ok.mp hall).imp fun _ _ => fieldCompiled_of_compileField

/-- What stands at a place on one side has something at that place on the other. -/
theorem getElem?_of_forall₂ {α β : Type} {R : α → β → Prop} {l : List α} {l' : List β}
    (h : List.Forall₂ R l l') {i : Nat} {a : α} (ha : l[i]? = some a) :
    ∃ b, l'[i]? = some b ∧ R a b := by
  induction h generalizing i with
  | nil => exact absurd ha (by simp)
  | cons hr _ ih =>
    cases i with
    | zero => exact ⟨_, rfl, Option.some.inj ha ▸ hr⟩
    | succ i => exact ih ha

/-- The plan of compiled fields mirrors their schema. -/
theorem planMirrors {compiled : List (DecodeStep × List Requirement)} {names : List (Option String)}
    (hordered : Ordered schema.fields names)
    (hall : List.Forall₂ (FieldCompiled schema container overrides) schema.fields compiled)
    (mark : String × Nat) :
    PlanMirrors schema container overrides (planOf schema compiled mark) := by
  have hplace : ∀ (i : Nat) f, schema.fields[i]? = some f → f.ordinal = i := by
    intro i f hf
    have hi : (schema.fields.map (·.ordinal))[i]? = some f.ordinal := by
      rw [List.getElem?_map, hf]
      rfl
    rw [hordered.ordinals, List.getElem?_eq_some_iff] at hi
    obtain ⟨hlt, hi⟩ := hi
    rw [← hi, List.getElem_range]
  have hstep : ∀ (i : Nat) f, schema.fields[i]? = some f → ∃ c, compiled[i]? = some c ∧
      FieldCompiled schema container overrides f c := fun i f hf => getElem?_of_forall₂ hall hf
  constructor
  case target => rfl
  case addressing => rfl
  case length => rw [planOf, List.length_map, hall.length_eq]
  case step =>
    intro i f hf
    obtain ⟨c, hc, d, hd, hmirrors, -⟩ := hstep i f hf
    refine ⟨c.1, d, ?_, ?_, hd, hmirrors⟩
    · rw [planOf, List.getElem?_map, hc]
      rfl
    · rw [hmirrors.ordinal, hplace i f hf]
  case requirements =>
    intro k
    rw [planOf, Requirement.mem_distinct_identities, List.mem_map]
    constructor
    · rintro ⟨r, hr, hk⟩
      obtain ⟨c, hc, hr⟩ := List.mem_flatMap.mp hr
      obtain ⟨i, hi⟩ := List.getElem?_of_mem hc
      obtain ⟨f, hf, d, hd, hmirrors, hrequired⟩ := getElem?_of_forall₂ hall.flip hi
      rw [hrequired, mem_requirementsOf_iff hmirrors] at hr
      refine ⟨i, f, c.1, d, r, hf, ?_, hd, hr, hk⟩
      rw [List.getElem?_map, hi]
      rfl
    · rintro ⟨i, f, s, d, r, hf, hs, hd, hr, hk⟩
      obtain ⟨c, hc, d', hd', hmirrors, hrequired⟩ := hstep i f hf
      rw [List.getElem?_map, hc] at hs
      obtain rfl : c.1 = s := Option.some.inj hs
      obtain rfl : d' = d := Except.ok.inj (hd'.symm.trans hd)
      refine ⟨r, List.mem_flatMap.mpr ⟨c, List.mem_of_getElem? hc, ?_⟩, hk⟩
      rw [hrequired]
      exact (mem_requirementsOf_iff hmirrors).mpr hr
  case distinct => exact Requirement.distinct_nodup _
  case keys =>
    have hsteps : ∀ s ∈ (planOf schema compiled mark).steps,
        ∃ f d, StepMirrors schema container f d s := by
      intro s hs
      obtain ⟨c, hc, rfl⟩ := List.mem_map.mp hs
      obtain ⟨f, -, d, -, hmirrors, -⟩ := Forall₂.exists_left hall hc
      exact ⟨f, d, hmirrors⟩
    cases haddressing : schema.addressing with
    | byName =>
      refine Or.inl fun s hs key hkey => ?_
      obtain ⟨f, d, hmirrors⟩ := hsteps s hs
      cases hflat : d.flatten with
      | true => exact absurd ((hmirrors.flattened hflat).symm.trans hkey) (by simp)
      | false =>
        exact ⟨_, Option.some.inj (hkey.symm.trans (hmirrors.named hflat haddressing))⟩
    | byPosition =>
      refine Or.inr fun s hs key hkey => ?_
      obtain ⟨f, d, hmirrors⟩ := hsteps s hs
      cases hflat : d.flatten with
      | true => exact absurd ((hmirrors.flattened hflat).symm.trans hkey) (by simp)
      | false =>
        rw [hmirrors.ordinal]
        exact Option.some.inj (hkey.symm.trans (hmirrors.positioned hflat haddressing))

end Compile

/-- **Plans mirror schemas.** A target that a registry compiles, with any directives from outside,
has a schema, numbered and named as declared, and its plan mirrors it. -/
theorem planMirrors_of_build {table : ClassTable} {target : TypeExpr} {overrides : Overrides}
    {r r' : Registry} {p : DecodePlan}
    (built : (Compile.build table target overrides).run r = (.ok p, r')) :
    ∃ schema container,
      introspect table target = .ok schema ∧ schema.target = target ∧
      Ordered schema.fields (table.declaredNames target) ∧
      resolveContainer (overrides.onContainer schema.container) schema.name = .ok container ∧
      PlanMirrors schema container overrides p := by
  obtain ⟨schema, container, compiled, mark, hschema, hcontainer, hall, rfl⟩ :=
    Compile.buildWith_compiled (buildWith_possible built)
  have hordered := introspect_ordered hschema
  exact ⟨schema, container, hschema, (introspect_ok hschema).1, hordered, hcontainer,
    Compile.planMirrors hordered hall mark⟩

namespace Mirrored

/-- A pair of a number, which is renamed in vain, and a time that is read from a text. -/
def target : TypeExpr :=
  .tupleOf .plain
    [.annotated (.builtin .int) [.marker [("rename", .text "n")]],
      .annotated (.builtin .datetime) [.marker [("try_from", .type (.builtin .str))]]]

theorem build_ok : ∃ p r',
    (Compile.build default target (Overrides.none.renameAll (.text "camelCase"))).run
      (Registry.create "main" .standard) = (.ok p, r') := by
  have hok : ((Compile.build default target (Overrides.none.renameAll (.text "camelCase"))).run
      (Registry.create "main" .standard)).1.isOk = true := by
    decide
  exact Running.exists_of_isOk hok

/-- The plan of the pair mirrors its schema. -/
theorem planMirrors_target : ∃ p r' schema container,
    (Compile.build default target (Overrides.none.renameAll (.text "camelCase"))).run
      (Registry.create "main" .standard) = (.ok p, r') ∧
    introspect default target = .ok schema ∧
    PlanMirrors schema container (Overrides.none.renameAll (.text "camelCase")) p := by
  obtain ⟨p, r', hbuilt⟩ := build_ok
  obtain ⟨schema, container, hschema, -, -, -, hmirrors⟩ := planMirrors_of_build hbuilt
  exact ⟨p, r', schema, container, hbuilt, hschema, hmirrors⟩

end Mirrored

end RowDecoding
