import RowDecoding.Proofs.Caching
import RowDecoding.Proofs.Confined

/-!
# Where the hooks of a plan come from

Every hook in a compiled plan is registered, or belongs to a class. So if the hooks of the
registrations and those of the classes are allowed, then those of every step are. The proof takes
the ways by which a lookup finds its answer one by one: decoders, converters, defaults of types, and
the defaults that the fields of a target declare.

> `stepFrom_allowed`: the hooks of a compiled step are allowed.
-/

namespace RowDecoding

/-! ## Classes without hooks -/

/-- Neither the default nor the check of a field is a hook. -/
def FieldDeclaration.isPlain (f : FieldDeclaration) : Bool :=
  (match f.default with
    | some (.hook ..) => false
    | _ => true) && f.validator.isNone

/-- A constructor runs no hook, and its parameters have none. -/
def Constructor.isPlain (maker : Constructor) : Bool :=
  maker.parameters.all (·.isPlain) &&
    match maker.making with
    | .written (some _) => false
    | _ => true

/-- An attribute is no hook. -/
def ClassAttribute.isPlain : ClassAttribute → Bool
  | hook _ => false
  | _ => true

/-- A class has no hooks at all. -/
def ClassInfo.isPlain (info : ClassInfo) : Bool :=
  info.fields.all (·.isPlain) && info.constructor?.all (·.isPlain) &&
    info.attributes.all (·.2.isPlain)

theorem FieldDeclaration.allowed_of_isPlain {A : Allowance} {f : FieldDeclaration}
    (h : f.isPlain = true) : f.Allowed A := by
  unfold isPlain at h
  rw [Bool.and_eq_true] at h
  refine ⟨fun s hs => ?_, fun v hv => ?_⟩
  · cases s with
    | hook owner hook => rw [hs] at h; cases h.1
    | _ => trivial
  · rw [hv] at h
    cases h.2

/-- A class without hooks has allowed hooks only. -/
theorem ClassInfo.allowed_of_isPlain {A : Allowance} {info : ClassInfo}
    (h : info.isPlain = true) : info.Allowed A := by
  unfold isPlain at h
  rw [Bool.and_eq_true, Bool.and_eq_true] at h
  obtain ⟨⟨hfields, hmaker⟩, hattributes⟩ := h
  refine ⟨fun f hf => ?_, fun maker hm f hf => ?_, fun maker v hm hv => ?_, fun name v hv => ?_⟩
  · exact FieldDeclaration.allowed_of_isPlain (List.all_eq_true.mp hfields f hf)
  · rw [hm, Option.all_some, Constructor.isPlain, Bool.and_eq_true] at hmaker
    exact FieldDeclaration.allowed_of_isPlain (List.all_eq_true.mp hmaker.1 f hf)
  · rw [hm, Option.all_some, Constructor.isPlain, Bool.and_eq_true, hv] at hmaker
    cases hmaker.2
  · cases List.all_eq_true.mp hattributes _ (mem_of_lookup hv)

/-- The hooks that a registry was given are allowed. -/
structure Registry.Allowed (A : Allowance) (r : Registry) : Prop where
  decoders : ∀ key d, r.decoders.lookup key = some d → d.Allowed A
  converters : ∀ keys c, r.converters.lookup keys = some c → c.Allowed A
  defaults : ∀ key s, r.defaults.lookup key = some s → s.Allowed A

/-- The hooks that lookups answer are allowed. -/
structure Lookups.Allowed (A : Allowance) (q : Lookups Outcomes) : Prop where
  decoder : ∀ t d, q.decoder t (.ok (some d)) → d.Allowed A
  converter : ∀ s t c, q.converter s t (.ok (some c)) → c.Allowed A
  default : ∀ t s, q.default t (.ok (some s)) → s.Allowed A

section

variable {A : Allowance} {r : Registry} {table : ClassTable}

/-! ## Registrations -/

namespace Registry

theorem allowed_anything (r : Registry) : r.Allowed .anything where
  decoders _ d _ := d.allowed_anything
  converters _ c _ := c.allowed_anything
  defaults _ s _ := s.allowed_anything

/-- What every registry starts with has no hooks. -/
theorem create_allowed (name : String) (config : RegistryConfig) :
    (create name config).Allowed A := by
  refine ⟨fun key d hd => ?_, fun keys c hc => ?_, fun key s hs => ?_⟩
  · obtain ⟨⟨t, d'⟩, hmem, heq⟩ := List.mem_map.mp (mem_of_lookup hd)
    obtain ⟨-, rfl⟩ := Prod.mk.inj heq
    simp only [standardDecoders, List.mem_cons, Prod.mk.injEq, List.not_mem_nil, or_false] at hmem
    rcases hmem with h | h | h | h | h | h | h | h | h | h | h | h <;> rw [h.2] <;> trivial
  · obtain ⟨_, -, heq⟩ := List.mem_map.mp (mem_of_lookup hc)
    obtain ⟨-, rfl⟩ := Prod.mk.inj heq
    trivial
  · obtain ⟨⟨b, s'⟩, hmem, heq⟩ := List.mem_map.mp (mem_of_lookup hs)
    obtain ⟨-, rfl⟩ := Prod.mk.inj heq
    rcases List.mem_cons.mp hmem with h | h
    · cases h
      trivial
    · obtain ⟨b', -, h⟩ := List.mem_map.mp h
      cases h
      trivial

end Registry

/-! ## Decoders -/

namespace Registry

/-- A decoder that is not registered has no hook. -/
theorem derivedDecoder_allowed {t : TypeExpr} {d : Transform}
    (h : r.derivedDecoder table t = .ok (some d)) : d.Allowed A := by
  have hstructural : r.structuralDecoder table t = .ok (some d) → d.Allowed A := by
    intro h
    unfold structuralDecoder at h
    dsimp only at h
    split at h
    · cases h
    · split at h
      · cases h
        trivial
      · cases h
        trivial
      · cases h
      · split at h <;> cases h
  unfold derivedDecoder at h
  split at h
  · split at h
    · cases h
      trivial
    · exact hstructural h
  · exact hstructural h

theorem ownDecoder_allowed (hr : r.Allowed A) {t : TypeExpr} {d : Transform}
    (h : r.ownDecoder table t = .ok (some d)) : d.Allowed A := by
  unfold ownDecoder at h
  split at h
  · next d' hlookup =>
    cases h
    exact hr.decoders _ _ hlookup
  · exact derivedDecoder_allowed h

end Registry

theorem Decodes.allowed (hr : r.Allowed A) {t : TypeExpr} {x : Except Failure (Option Transform)}
    (h : Decodes r table t x) : ∀ d, x = .ok (some d) → d.Allowed A := by
  induction h with
  | own h => exact fun d hd => Registry.ownDecoder_allowed hr hd
  | @optional t inner x h hinner hx ih =>
    intro d hd
    cases x with
    | error f => cases hd
    | ok found =>
      cases found with
      | none => cases hd
      | some d' =>
        cases hd
        exact ih d' rfl
  | equal h hd ih => exact fun d hd => ih d hd

/-! ## Converters -/

namespace Registry

theorem derivedConverter_allowed (htable : table.Allowed A) {source target : TypeExpr}
    {c : Transform} (h : derivedConverter table source target = some c) : c.Allowed A := by
  unfold derivedConverter at h
  split at h
  · cases h
    trivial
  · split at h
    · cases h
    · split at h
      · next hook hattribute =>
        cases h
        obtain ⟨a, hattribute, hhook⟩ := Option.bind_eq_some_iff.mp hattribute
        exact htable.attribute? hattribute hhook
      · split at h
        · cases h
          trivial
        · cases h

theorem converterFor_allowed (hr : r.Allowed A) (htable : table.Allowed A)
    {source target : TypeExpr} {c : Transform}
    (h : r.converterFor table source target = .ok (some c)) : c.Allowed A := by
  unfold converterFor at h
  obtain ⟨s, -, h⟩ := Running.bind_eq_ok.mp h
  obtain ⟨t, -, h⟩ := Running.bind_eq_ok.mp h
  split at h
  · next hlookup =>
    cases h
    exact hr.converters _ _ hlookup
  · split at h
    · next hderived =>
      cases h
      exact derivedConverter_allowed htable hderived
    · split at h
      · cases h
      · next inner _ =>
        -- A converter to the rest of a union is one for the whole with the same hooks.
        split at h
        · next c' hlookup =>
          cases h
          have hc : c'.Allowed A := hr.converters _ _ hlookup
          exact hc
        · obtain ⟨c', hderived, rfl⟩ := Option.map_eq_some_iff.mp (Except.ok.inj h)
          have hc : c'.Allowed A := derivedConverter_allowed htable hderived
          exact hc

/-! ## Defaults -/

theorem defaultFor_allowed (hr : r.Allowed A) {t : TypeExpr} {s : Supply}
    (h : r.defaultFor table t = .ok (some s)) : s.Allowed A := by
  unfold defaultFor at h
  obtain ⟨key, -, h⟩ := Running.bind_eq_ok.mp h
  split at h
  · next hlookup =>
    cases h
    exact hr.defaults _ _ hlookup
  · split at h
    · cases h
      trivial
    · split at h
      · next s' horigin =>
        cases h
        obtain ⟨origin, -, hlookup⟩ := Option.bind_eq_some_iff.mp horigin
        exact hr.defaults _ _ hlookup
      · split at h
        · split at h
          · cases h
            trivial
          · cases h
        · cases h

end Registry

/-- What follows from allowed registrations and classes is allowed. -/
theorem Uncached.lookups_allowed (hr : r.Allowed A) (htable : table.Allowed A)
    (plan : TypeExpr → Outcomes DecodePlan) : (lookups r table plan).Allowed A where
  decoder t d h := by
    obtain ⟨_, -, h⟩ := Outcomes.bind_ok.mp h
    exact Decodes.allowed hr h d rfl
  converter s t c h := Registry.converterFor_allowed hr htable (Outcomes.lift_apply.mp h).symm
  default t s h := Registry.defaultFor_allowed hr (Outcomes.lift_apply.mp h).symm

/-! ## Declared defaults -/

/-- The defaults that fields declare are allowed. -/
def AllowedFields (A : Allowance) (fields : List FieldSchema) : Prop :=
  ∀ f ∈ fields, ∀ s, f.declaredDefault = some s → s.Allowed A

theorem numbered_allowed {fields : List (String × TypeExpr × Attributes × Option Supply)}
    (h : ∀ f ∈ fields, ∀ s, f.2.2.2 = some s → s.Allowed A) :
    AllowedFields A (numbered fields) := by
  intro f hf
  obtain ⟨⟨field, i⟩, hmem, rfl⟩ := List.mem_map.mp hf
  exact h field (List.fst_mem_of_mem_zipIdx hmem)

/-- Fields of a schema that are read off declared fields have their defaults. -/
theorem numbered_map_allowed {declared : List FieldDeclaration}
    (h : ∀ f ∈ declared, f.Allowed A)
    (typeOf : FieldDeclaration → TypeExpr) (attributesOf : FieldDeclaration → Attributes) :
    AllowedFields A (numbered (declared.map fun f =>
      (f.name, typeOf f, attributesOf f, f.default))) := by
  refine numbered_allowed fun field hfield => ?_
  obtain ⟨f, hf, rfl⟩ := List.mem_map.mp hfield
  exact (h f hf).default

theorem recordFields_allowed {info : ClassInfo} (hinfo : info.Allowed A) {name : String}
    {fields : List FieldSchema} (h : recordFields table name info = .ok fields) :
    AllowedFields A fields := by
  unfold recordFields at h
  obtain ⟨annotations, -, h⟩ := Running.bind_eq_ok.mp h
  cases h
  exact numbered_map_allowed (fun f hf => hinfo.fields f (List.mem_of_mem_filter hf)) _ _

theorem tupleClassFields_allowed {info : ClassInfo} (hinfo : info.Allowed A) {name : String}
    {fields : List FieldSchema} (h : tupleClassFields table name info = .ok fields) :
    AllowedFields A fields := by
  unfold tupleClassFields at h
  obtain ⟨annotations, -, h⟩ := Running.bind_eq_ok.mp h
  cases h
  exact numbered_map_allowed hinfo.fields _ _

theorem constructorFields_allowed {maker : Constructor}
    (hmaker : ∀ f ∈ maker.parameters, f.Allowed A) {name : String} {fields : List FieldSchema}
    (h : constructorFields table name maker = .ok fields) : AllowedFields A fields := by
  unfold constructorFields at h
  dsimp only at h
  -- The receiver has no default, and whether it is a field at all does not matter.
  generalize hreceiver : (if maker.receiver == "self" then []
    else [{ (default : FieldDeclaration) with name := maker.receiver }]) = receiver at h
  have hparameters : ∀ f ∈ receiver ++ maker.parameters, f.Allowed A := by
    intro f hf
    rcases List.mem_append.mp hf with hf | hf
    · subst hreceiver
      split at hf
      · cases hf
      · cases List.mem_singleton.mp hf
        exact ⟨fun _ h => (nomatch h), fun _ h => (nomatch h)⟩
    · exact hmaker f hf
  split at h
  · cases h
    exact fun _ hf => nomatch hf
  · obtain ⟨annotations, -, h⟩ := Running.bind_eq_ok.mp h
    cases h
    exact numbered_map_allowed (fun f hf => hparameters f (List.mem_of_mem_filter hf)) _ _

theorem builtinFields_allowed (b : Builtin) : AllowedFields A (builtinFields b) := by
  unfold builtinFields
  split
  · refine numbered_allowed fun f hf s hs => ?_
    rcases List.mem_append.mp hf with hf | hf
    · obtain ⟨name, -, rfl⟩ := List.mem_map.mp hf
      cases hs
      trivial
    · cases List.mem_singleton.mp hf
      cases hs
      trivial
  · exact fun _ hf => nomatch hf

theorem plainFields_allowed {info : ClassInfo} (hinfo : info.Allowed A)
    {fields : List FieldSchema} (h : plainFields table info = .ok fields) :
    AllowedFields A fields := by
  unfold plainFields at h
  split at h
  · next maker _ hmaker => exact constructorFields_allowed (hinfo.parameters maker hmaker) h
  · cases h
    exact builtinFields_allowed _
  · cases h
    exact fun _ hf => nomatch hf

theorem aliasFields_allowed {t : TypeExpr} {fields : List FieldSchema}
    (h : aliasFields t = .ok fields) : AllowedFields A fields := by
  unfold aliasFields at h
  split at h
  · cases h
  · cases h
    intro f hf s hs
    obtain ⟨x, -, rfl⟩ := List.mem_map.mp hf
    cases hs
  · cases h
    exact fun _ hf => nomatch hf

theorem declaredFields_allowed (htable : table.Allowed A) {c : ClassRef} {addressing : Addressing}
    {fields : List FieldSchema} (h : declaredFields table c = .ok (addressing, fields)) :
    AllowedFields A fields := by
  unfold declaredFields at h
  split at h
  · obtain ⟨found, hplain, h⟩ := Running.bind_eq_ok.mp h
    cases h
    exact plainFields_allowed (htable.info c) hplain
  · next info hschema =>
    have hinfo := htable.schemaOf? hschema
    split at h
    · obtain ⟨found, hfields, h⟩ := Running.bind_eq_ok.mp h
      cases h
      exact tupleClassFields_allowed hinfo hfields
    · cases h
      exact numbered_map_allowed hinfo.fields _ _
    · obtain ⟨found, hfields, h⟩ := Running.bind_eq_ok.mp h
      cases h
      exact recordFields_allowed hinfo hfields

theorem nonEmpty_eq_ok_iff {s schema : Schema} :
    nonEmpty s = .ok schema ↔ s.fields ≠ [] ∧ schema = s := by
  unfold nonEmpty
  rw [← List.isEmpty_eq_false_iff]
  cases s.fields.isEmpty with
  | true => exact iff_of_false nofun fun h => nomatch h.1
  | false => exact ⟨fun h => ⟨rfl, (Except.ok.inj h).symm⟩, fun h => h.2 ▸ rfl⟩

/-- Where the fields of a schema come from: a tuple type, a built-in class, or a declared one. -/
theorem introspect_ok {t : TypeExpr} {schema : Schema} (h : introspect table t = .ok schema) :
    schema.target = t ∧
      ((t.isTupleAlias = true ∧ schema.addressing = .byPosition ∧
          aliasFields t = .ok schema.fields) ∨
        (∃ b, t = .builtin b ∧ schema.addressing = .byName ∧ schema.fields = builtinFields b) ∨
        ∃ c, t = .declared c ∧
          declaredFields table c = .ok (schema.addressing, schema.fields)) := by
  unfold introspect at h
  split at h
  · cases h
  · split at h
    next halias =>
      obtain ⟨fields, hfields, h⟩ := Running.bind_eq_ok.mp h
      obtain ⟨-, rfl⟩ := nonEmpty_eq_ok_iff.mp h
      exact ⟨rfl, Or.inl ⟨halias, rfl, hfields⟩⟩
    · split at h
      · next b _ _ =>
        obtain ⟨-, rfl⟩ := nonEmpty_eq_ok_iff.mp h
        exact ⟨rfl, Or.inr (Or.inl ⟨b, rfl, rfl, rfl⟩)⟩
      · next c _ _ =>
        split at h
        · cases h
        · obtain ⟨container, -, h⟩ := Running.bind_eq_ok.mp h
          obtain ⟨⟨addressing, fields⟩, hfields, h⟩ := Running.bind_eq_ok.mp h
          obtain ⟨-, rfl⟩ := nonEmpty_eq_ok_iff.mp h
          exact ⟨rfl, Or.inr (Or.inr ⟨c, rfl, hfields⟩)⟩
      · cases h

/-- The defaults that the fields of a target declare are allowed if its class is. -/
theorem introspect_allowed (htable : table.Allowed A) {t : TypeExpr} {schema : Schema}
    (h : introspect table t = .ok schema) : AllowedFields A schema.fields := by
  rcases (introspect_ok h).2 with ⟨-, -, halias⟩ | ⟨b, -, -, hb⟩ | ⟨c, -, hfields⟩
  · exact aliasFields_allowed halias
  · rw [hb]
    exact builtinFields_allowed b
  · exact declaredFields_allowed htable hfields

/-! ## Steps -/

/-- **The hooks of a step are registered or belong to a class.** -/
theorem stepFrom_allowed {q : Lookups Outcomes} (hq : q.Allowed A) {schema : Schema}
    (hfields : AllowedFields A schema.fields) {container : ContainerDirectives}
    {overrides : Overrides} {f : FieldSchema} (hf : f ∈ schema.fields) {s : DecodeStep}
    (h : Compile.StepFrom q table schema container overrides f s) : s.Allowed A := by
  obtain ⟨directives, -, -, hstep⟩ := h
  obtain ⟨hdefault, hconverter, hstrategy, -⟩ := Compile.stepOf_ok.mp hstep
  refine ⟨fun d hd => ?_, fun c hc => ?_, fun supply hsupply => ?_⟩
  · unfold Compile.strategyOf at hstrategy
    split at hstrategy
    · obtain ⟨mapper, -, hmade⟩ := Outcomes.bind_ok.mp hstrategy
      rw [Except.ok.inj hmade] at hd
      cases hd
    · obtain ⟨decoder, hdecoder, hmade⟩ := Outcomes.bind_ok.mp hstrategy
      rw [Except.ok.inj hmade] at hd
      have hkept : decoder = some d := by
        unfold Compile.columnStrategy at hd
        dsimp only at hd
        split at hd
        · exact hd
        · split at hd <;> exact hd
      rw [hkept] at hdecoder
      exact hq.decoder _ d hdecoder
  · unfold Compile.conversionOf at hconverter
    rw [hc] at hconverter
    split at hconverter
    · exact hq.converter _ _ c hconverter
    · cases hconverter
  · unfold Compile.replacementOf at hdefault
    rw [hsupply] at hdefault
    split at hdefault
    · obtain ⟨found, hfound, hmade⟩ := Outcomes.bind_ok.mp hdefault
      cases hmade
      unfold Compile.defaultOf at hfound
      cases hdeclared : f.declaredDefault with
      | some declared =>
        rw [hdeclared] at hfound
        cases hfound
        exact hfields f hf _ hdeclared
      | none =>
        rw [hdeclared] at hfound
        obtain ⟨answer, hanswer, hmade⟩ := Outcomes.bind_ok.mp hfound
        cases answer with
        | none => cases hmade
        | some supply' =>
          cases hmade
          exact hq.default _ _ hanswer
    · cases hdefault

end

end RowDecoding
