import RowDecoding.Proofs.Confined
import RowDecoding.Proofs.Recursion
import RowDecoding.Proofs.Requiring

/-!
# How compiling fails

A target that cannot be compiled is meant to be reported as such, by a schema failure. This file
finds every other way in which compiling can fail, for any target, any directives from outside and
any registry.

`Raises` says where failures come from, with one case for each source: the target, a field, or a
class that the target flattens, where the cases repeat. That nothing is missing from it is
`build_raises`. What a registry answers depends on what is registered and cached; here it is left
open (`possible`), so all that a lookup can fail with is counted. Two of the sources are left once
the classes are sound (`Sound`):

* a type that can be no key. Decoders are looked up by the type that is read for a field, and
  conversions by that type and the annotation (`lookedUp`). Such a type has no answer, although its
  decoder could be worked out without a key;
* a type that cannot be written where a failure describes it.

> `build_fails`: compiling fails by a schema failure, or because of one of these types.
-/

namespace RowDecoding

/-! ## Failures that are schema failures -/

theorem resolveField_error {raw : Attributes} {owner : String} {e : Failure}
    (h : resolveField raw owner = .error e) : e.isSchema = true := by
  unfold resolveField at h
  dsimp only at h
  split at h
  · split at h
    · cases h
      rfl
    · cases h
  · cases h
    rfl

theorem resolveContainer_error {raw : Entries} {owner : String} {e : Failure}
    (h : resolveContainer raw owner = .error e) : e.isSchema = true := by
  unfold resolveContainer at h
  dsimp only at h
  split at h
  · cases h
  · cases h
    rfl

namespace Compile

theorem checkOverrides_error {schema : Schema} {overrides : Overrides} {e : Failure}
    (h : checkOverrides schema overrides = .error e) : e.isSchema = true := by
  unfold checkOverrides at h
  dsimp only at h
  split at h
  · cases h
  · cases h
    rfl

/-! ## Where failures come from -/

section

variable (table : ClassTable)

/-- A field of a target, with what is said about it. -/
def HasField (overrides : Overrides) (target : TypeExpr) (f : FieldSchema) (d : FieldDirectives) :
    Prop :=
  ∃ schema, introspect table target = .ok schema ∧ f ∈ schema.fields ∧
    resolveField (rawDirectives overrides f) (ownerName schema f) = .ok d

/-- A field that compiling a target comes to: one of its own, or one of a class that it flattens. -/
inductive Meets : Overrides → TypeExpr → FieldSchema → FieldDirectives → Prop
  | own {overrides : Overrides} {t : TypeExpr} {f : FieldSchema} {d : FieldDirectives}
    (h : HasField table overrides t f d) : Meets overrides t f d
  | nested {overrides : Overrides} {t u : TypeExpr} {f : FieldSchema} {d : FieldDirectives}
    (h : Flattens table overrides t u) (hu : Meets Overrides.none u f d) : Meets overrides t f d

/-- The types under which something is looked up for a field: the one that is read, unless the field
is built from the whole row, and the annotation, if there is a conversion to it. -/
def lookedUp (f : FieldSchema) (d : FieldDirectives) : List TypeExpr :=
  (if d.flatten then [] else [sourceOf f d]) ++ (if d.tryFrom.isSome then [f.fieldType] else [])

/-- What compiling a field can fail with other than schema failures, apart from what a class that it
flattens fails with. -/
inductive FieldRaises (f : FieldSchema) (d : FieldDirectives) : Failure → Prop
  /-- A type that is looked up can be no key. -/
  | unhashable {t : TypeExpr} {e : Failure} (ht : t ∈ lookedUp f d)
    (h : Registry.keyOf t = .error e) : FieldRaises f d e
  /-- A type that a failure describes cannot be written. -/
  | unwritable {t : TypeExpr} (ht : t = sourceOf f d ∨ t = f.fieldType)
    (h : t.isUnwritable = true) : FieldRaises f d Fault.tooLongToWrite
  /-- The structure of the type that is read cannot be looked at. -/
  | jammed {t : TypeExpr} {g : Fault} (hflat : d.flatten = false)
    (ht : t = sourceOf f d ∨ (sourceOf f d).optionalInner? = some t)
    (h : table.structureOf t = .error (.failed g)) (hg : g.isType = false) :
    FieldRaises f d (.fault g)

/-- What compiling a target can fail with. -/
inductive Raises : Overrides → TypeExpr → Failure → Prop
  | schema {overrides : Overrides} {t : TypeExpr} {e : Failure} (h : e.isSchema = true) :
    Raises overrides t e
  /-- The target is described first. -/
  | unwritable {overrides : Overrides} {t : TypeExpr} (h : t.isUnwritable = true) :
    Raises overrides t Fault.tooLongToWrite
  /-- What the class says about all its fields cannot be read. -/
  | container {overrides : Overrides} {c : ClassRef} {e : Failure}
    (h : containerOf table c = .error e) : Raises overrides (.declared c) e
  /-- The fields of the class cannot be read. -/
  | fields {overrides : Overrides} {c : ClassRef} {e : Failure}
    (h : declaredFields table c = .error e) : Raises overrides (.declared c) e
  | field {overrides : Overrides} {t : TypeExpr} {f : FieldSchema} {d : FieldDirectives}
    {e : Failure} (hf : HasField table overrides t f d) (h : FieldRaises table f d e) :
    Raises overrides t e
  | nested {overrides : Overrides} {t u : TypeExpr} {e : Failure}
    (h : Flattens table overrides t u) (hu : Raises Overrides.none u e) : Raises overrides t e

end

/-! ## Lookups -/

section

variable {table : ClassTable} {f : FieldSchema} {d : FieldDirectives} {r : Registry} {e : Failure}

/-- A type that can be no key has no decoder that could be looked up, whatever is registered. -/
theorem decoderFor_of_unhashable {t : TypeExpr} (h : Registry.keyOf t = .error e) :
    r.decoderFor table t = (.error e, r) := by
  unfold Registry.decoderFor
  rw [h]

/-- A decoder cannot be looked up for a type that can be no key, nor for one whose structure cannot
be looked at. -/
theorem decoderFor_error {t : TypeExpr} (h : (r.decoderFor table t).1 = .error e) :
    Registry.keyOf t = .error e ∨ ∃ u g, (u = t ∨ t.optionalInner? = some u) ∧
      table.structureOf u = .error (.failed g) ∧ g.isType = false ∧ e = .fault g := by
  cases hkey : Registry.keyOf t with
  | error e' =>
    rw [decoderFor_of_unhashable hkey] at h
    cases h
    exact Or.inl rfl
  | ok key =>
    obtain ⟨-, rfl⟩ := Uncached.keyOf_ok.mp hkey
    exact Or.inr (structureOf_of_decoderFor hkey h)

theorem raises_of_decoderFor (hflat : d.flatten = false)
    (h : (r.decoderFor table (sourceOf f d)).1 = .error e) : FieldRaises table f d e := by
  rcases decoderFor_error h with hkey | ⟨t, g, ht, hg, htype, rfl⟩
  · exact .unhashable (by simp [lookedUp, hflat]) hkey
  · exact .jammed hflat ht hg htype

/-- A conversion that is looked up has two types that can be keys. -/
theorem hashable_of_converterFor {s t : TypeExpr} {x : Option Transform}
    (h : r.converterFor table s t = .ok x) : Hashable s ∧ Hashable t := by
  obtain ⟨s', hs, h⟩ := Running.bind_eq_ok.mp h
  obtain ⟨t', ht, -⟩ := Running.bind_eq_ok.mp h
  obtain ⟨-, rfl⟩ := Uncached.keyOf_ok.mp hs
  obtain ⟨-, rfl⟩ := Uncached.keyOf_ok.mp ht
  exact ⟨hs, ht⟩

/-- A type that rows are mapped to can be a key, since it is a class. -/
theorem hashable_of_mappingOf {t : TypeExpr} (h : mappingOf table t ≠ .none) : Hashable t := by
  cases t with
  | declared c => rfl
  | _ => exact absurd rfl h

/-- A conversion cannot be looked up if one of its types can be no key. -/
theorem raises_of_converterFor (hread : d.flatten = true → Hashable (sourceOf f d))
    (htry : d.tryFrom.isSome = true)
    (h : r.converterFor table (sourceOf f d) f.fieldType = .error e) : FieldRaises table f d e := by
  cases hsource : Registry.keyOf (sourceOf f d) with
  | error e' =>
    have hflat : d.flatten = false := by
      rw [← Bool.not_eq_true]
      intro hflat
      rw [hread hflat] at hsource
      cases hsource
    unfold Registry.converterFor at h
    rw [hsource] at h
    cases h
    exact .unhashable (by simp [lookedUp, hflat]) hsource
  | ok s =>
    cases htype : Registry.keyOf f.fieldType with
    | error e' =>
      unfold Registry.converterFor at h
      rw [hsource, htype] at h
      cases h
      exact .unhashable (by simp [lookedUp, htry]) htype
    | ok t =>
      obtain ⟨-, rfl⟩ := Uncached.keyOf_ok.mp hsource
      obtain ⟨-, rfl⟩ := Uncached.keyOf_ok.mp htype
      obtain ⟨x, hx⟩ := converterFor_ok table hsource htype r
      rw [hx] at h
      cases h

/-- So can a default of the annotation, which is what is read if there is no conversion. -/
theorem raises_of_defaultFor (hread : d.flatten = true → Hashable (sourceOf f d))
    (h : r.defaultFor table f.fieldType = .error e) : FieldRaises table f d e := by
  cases htype : Registry.keyOf f.fieldType with
  | error e' =>
    have hmem : f.fieldType ∈ lookedUp f d := by
      cases htry : d.tryFrom with
      | some t => simp [lookedUp, htry]
      | none =>
        have hsource : sourceOf f d = f.fieldType := by
          unfold sourceOf
          rw [htry]
          rfl
        cases hflat : d.flatten with
        | true =>
          have hkey : Registry.keyOf f.fieldType = .ok f.fieldType.key := by
            rw [← hsource]
            exact hread hflat
          rw [htype] at hkey
          cases hkey
        | false => simp [lookedUp, hflat, hsource]
    unfold Registry.defaultFor at h
    rw [htype] at h
    cases h
    exact .unhashable hmem htype
  | ok t =>
    obtain ⟨-, rfl⟩ := Uncached.keyOf_ok.mp htype
    obtain ⟨x, hx⟩ := defaultFor_ok table htype r
    rw [hx] at h
    cases h

theorem raises_of_missingDefault (owner : String) (he : e = missingDefault owner f.fieldType) :
    e.isSchema = true ∨ FieldRaises table f d e := by
  subst he
  unfold missingDefault
  split
  next h => exact Or.inr (.unwritable (Or.inr rfl) h)
  next => exact Or.inl rfl

theorem raises_of_missingCapability (owner : String) {requirement : Requirement}
    (hmem : requirement ∈ requirementsOf f d) (he : e = missingCapability owner requirement) :
    e.isSchema = true ∨ FieldRaises table f d e := by
  subst he
  have htypes : ∀ t ∈ requirement.types, t = sourceOf f d ∨ t = f.fieldType := by
    intro t ht
    simp only [requirementsOf, List.mem_append] at hmem
    rcases hmem with hmem | hmem
    · split at hmem
      · obtain rfl := List.mem_singleton.mp hmem
        exact Or.inl (List.mem_singleton.mp ht)
      · rcases List.mem_pair.mp hmem with rfl | rfl <;> exact Or.inl (List.mem_singleton.mp ht)
    · split at hmem
      · obtain rfl := List.mem_singleton.mp hmem
        exact List.mem_pair.mp ht
      · cases hmem
  unfold missingCapability
  split
  next h =>
    obtain ⟨t, ht, hlong⟩ := List.any_eq_true.mp h
    exact Or.inr (.unwritable (htypes t ht) hlong)
  next => exact Or.inl rfl

end

/-! ## Fields -/

/-- What lookups can answer, whatever is registered and cached. -/
def possible (table : ClassTable) (plan : TypeExpr → Outcomes DecodePlan) : Lookups Outcomes where
  decoder t x := ∃ r : Registry, x = (r.decoderFor table t).1
  converter s t x := ∃ r : Registry, x = r.converterFor table s t
  default t x := ∃ r : Registry, x = r.defaultFor table t
  plan
  mark x := ∃ mark, x = .ok mark

/-- Computations in a registry with what they may come to, whatever the registry is. -/
def anyRegistry : Lifting Compile Outcomes :=
  Lifting.inRegistry (fun _ => True) (fun _ _ => True) (fun _ => trivial) fun _ _ => trivial

theorem anyRegistry_iff {α : Type} {m : Compile α} {x : Outcomes α} :
    anyRegistry.Rel m x ↔ ∀ r, x (m.run r).1 :=
  ⟨fun h r => (h r trivial).2.2, fun h r _ => ⟨trivial, trivial, h r⟩⟩

/-- A registry gives possible answers. -/
theorem lookups_possible {table : ClassTable} {Asked : TypeExpr → Prop}
    {plan : TypeExpr → Compile DecodePlan} {plan' : TypeExpr → Outcomes DecodePlan}
    (h : ∀ v, Asked v → ∀ r, plan' v ((plan v).run r).1) :
    (lookups table plan).Related anyRegistry Asked (possible table plan') where
  decoder t := anyRegistry_iff.mpr fun r => ⟨r, congrArg Prod.fst (run_decoderFor table t r)⟩
  converter s t := anyRegistry_iff.mpr fun r => ⟨r, congrArg Prod.fst (run_converterFor table s t r)⟩
  default t := anyRegistry_iff.mpr fun r => ⟨r, congrArg Prod.fst (run_defaultFor table t r)⟩
  plan v hv := anyRegistry_iff.mpr (h v hv)
  mark := anyRegistry_iff.mpr fun _ => ⟨_, rfl⟩

section

variable {table : ClassTable} {plan : TypeExpr → Outcomes DecodePlan} {schema : Schema}
  {container : ContainerDirectives} {overrides : Overrides} {f : FieldSchema} {d : FieldDirectives}
  {owner : String} {e : Failure}

/-- A failure of a field, of its own or of the class that it flattens. -/
def FieldFails (table : ClassTable) (plan : TypeExpr → Outcomes DecodePlan) (f : FieldSchema)
    (d : FieldDirectives) (e : Failure) : Prop :=
  (e.isSchema = true ∨ FieldRaises table f d e) ∨
    d.flatten = true ∧ mappingOf table (sourceOf f d) = .byPlan ∧ plan (sourceOf f d) (.error e)

/-- A mapper cannot be looked up if the plan of the class cannot. -/
theorem possible_mapperFor_error {t : TypeExpr}
    (h : mapperFor (possible table plan) table t (.error e)) :
    mappingOf table t = .byPlan ∧ plan t (.error e) := by
  unfold mapperFor at h
  cases hmap : mappingOf table t with
  | none =>
    rw [hmap] at h
    cases h
  | own mapper =>
    rw [hmap] at h
    cases h
  | byPlan =>
    rw [hmap] at h
    rcases Outcomes.bind_error.mp h with h | ⟨p, -, h⟩
    · exact ⟨rfl, h⟩
    · cases h

/-- A requirement that is checked is satisfied, or it is missing, or it cannot be looked up. -/
theorem require_error {q : Lookups Outcomes} {requirement : Requirement}
    (h : require q table owner requirement (.error e)) :
    satisfies q table requirement (.error e) ∨ e = missingCapability owner requirement := by
  rcases Outcomes.bind_error.mp h with h | ⟨b, -, h⟩
  · exact Or.inl h
  · cases b with
    | true => cases h
    | false =>
      cases h
      exact Or.inr rfl

theorem satisfies_of_require {q : Lookups Outcomes} {requirement : Requirement}
    (h : require q table owner requirement (.ok ⟨⟩)) : satisfies q table requirement (.ok true) := by
  obtain ⟨b, hb, h⟩ := Outcomes.bind_ok.mp h
  cases b with
  | true => exact hb
  | false => cases h

/-- What is satisfied has been found. -/
theorem found_of_bind {α : Type} {m : Outcomes (Option α)}
    (h : (do return (← m).isSome : Outcomes Bool) (.ok true)) : ∃ a, m (.ok (some a)) := by
  obtain ⟨a?, ha, hsome⟩ := Outcomes.bind_ok.mp h
  cases a? with
  | none => cases hsome
  | some a => exact ⟨a, ha⟩

/-- Whether something is found cannot be told if it cannot be looked up. -/
theorem error_of_bind {α : Type} {m : Outcomes (Option α)}
    (h : (do return (← m).isSome : Outcomes Bool) (.error e)) : m (.error e) := by
  rcases Outcomes.bind_error.mp h with h | ⟨_, -, h⟩
  · exact h
  · cases h

/-- Once the whole row is known to be mapped to the source, the source is known to be a class. -/
theorem hashable_of_nested
    (h : require (possible table plan) table owner ⟨.nestedMapping, [sourceOf f d]⟩ (.ok ⟨⟩)) :
    Hashable (sourceOf f d) := by
  obtain ⟨mapper, hmapper⟩ := found_of_bind (satisfies_of_require h)
  have hmapped : mappingOf table (sourceOf f d) ≠ .none := by
    intro hnone
    unfold mapperFor at hmapper
    rw [hnone] at hmapper
    cases hmapper
  exact hashable_of_mappingOf hmapped

/-- What the lookup of a requirement fails with. The conversion is looked up last, so the source is
known to be a class by then if the field is built from the whole row. -/
theorem fails_of_satisfies {requirement : Requirement} (hmem : requirement ∈ requirementsOf f d)
    (hread : requirement.capability = .convertible → d.flatten = true → Hashable (sourceOf f d))
    (h : satisfies (possible table plan) table requirement (.error e)) :
    FieldFails table plan f d e := by
  simp only [requirementsOf, List.mem_append] at hmem
  rcases hmem with hmem | hmem
  · split at hmem
    next hflat =>
      obtain rfl := List.mem_singleton.mp hmem
      obtain ⟨hmap, hplan⟩ := possible_mapperFor_error (error_of_bind h)
      exact Or.inr ⟨hflat, hmap, hplan⟩
    next hflat =>
      have hdecoder : ∃ r : Registry, .error e = (r.decoderFor table (sourceOf f d)).1 := by
        rcases List.mem_pair.mp hmem with rfl | rfl <;> exact error_of_bind h
      obtain ⟨r, hr⟩ := hdecoder
      exact Or.inl (Or.inr (raises_of_decoderFor (by simpa using hflat) hr.symm))
  · split at hmem
    next htry =>
      obtain rfl := List.mem_singleton.mp hmem
      obtain ⟨r, hr⟩ : ∃ r : Registry, .error e = r.converterFor table (sourceOf f d) f.fieldType :=
        error_of_bind h
      exact Or.inl (Or.inr (raises_of_converterFor (hread rfl) htry hr.symm))
    next => cases hmem

/-- If a field is built from the whole row, that is what is checked first. -/
theorem nested_before {met rest : List Requirement} {requirement : Requirement}
    (hsplit : requirementsOf f d = met ++ requirement :: rest)
    (hconvertible : requirement.capability = .convertible) (hflat : d.flatten = true) :
    ⟨.nestedMapping, [sourceOf f d]⟩ ∈ met := by
  simp only [requirementsOf, hflat] at hsplit
  cases met with
  | nil =>
    obtain ⟨hfirst, -⟩ := List.cons.inj hsplit
    rw [← hfirst] at hconvertible
    cases hconvertible
  | cons first met =>
    obtain ⟨hfirst, -⟩ := List.cons.inj hsplit
    rw [← hfirst]
    exact List.mem_cons_self ..

/-- What the checks of the requirements fail with. -/
theorem fails_of_requirements
    (h : (requirementsOf f d).forM (require (possible table plan) table owner) (.error e)) :
    FieldFails table plan f d e := by
  obtain ⟨met, requirement, rest, hsplit, hmet, herror⟩ := Outcomes.forM_error h
  have hmem : requirement ∈ requirementsOf f d := by simp [hsplit]
  rcases require_error herror with herror | hmissing
  · refine fails_of_satisfies hmem (fun hconvertible hflat => ?_) herror
    exact hashable_of_nested (hmet _ (nested_before hsplit hconvertible hflat))
  · exact Or.inl (raises_of_missingCapability owner hmem hmissing)

/-- What the step of a field fails with, its requirements being satisfied. -/
theorem fails_of_stepOf
    (hmet : ∀ b ∈ requirementsOf f d, require (possible table plan) table owner b (.ok ⟨⟩))
    (h : stepOf (possible table plan) table schema container f d owner (.error e)) :
    FieldFails table plan f d e := by
  have hread : d.flatten = true → Hashable (sourceOf f d) := by
    intro hflat
    exact hashable_of_nested (hmet _ (by simp [requirementsOf, hflat]))
  rcases Outcomes.bind_error.mp h with h | ⟨default, -, h⟩
  · -- The default that is asked for is missing, or it cannot be looked up.
    unfold replacementOf at h
    split at h
    next hasks =>
      rcases Outcomes.bind_error.mp h with h | ⟨_, -, h⟩
      · unfold defaultOf at h
        cases hdeclared : f.declaredDefault with
        | some supply =>
          rw [hdeclared] at h
          cases h
        | none =>
          rw [hdeclared] at h
          rcases Outcomes.bind_error.mp h with ⟨r, hr⟩ | ⟨supply?, -, h⟩
          · exact Or.inl (Or.inr (raises_of_defaultFor hread hr.symm))
          · cases supply? with
            | some supply => cases h
            | none => exact Or.inl (raises_of_missingDefault owner (Except.error.inj h))
      · cases h
    next => cases h
  rcases Outcomes.bind_error.mp h with h | ⟨converter, -, h⟩
  · unfold conversionOf at h
    split at h
    next htry =>
      obtain ⟨r, hr⟩ := h
      exact Or.inl (Or.inr (raises_of_converterFor hread htry hr.symm))
    next => cases h
  rcases Outcomes.bind_error.mp h with h | ⟨strategy, -, h⟩
  · unfold strategyOf at h
    split at h
    next hflat =>
      rcases Outcomes.bind_error.mp h with h | ⟨_, -, h⟩
      · obtain ⟨hmap, hplan⟩ := possible_mapperFor_error h
        exact Or.inr ⟨hflat, hmap, hplan⟩
      · cases h
    next hflat =>
      rcases Outcomes.bind_error.mp h with ⟨r, hr⟩ | ⟨_, -, h⟩
      · exact Or.inl (Or.inr (raises_of_decoderFor (by simpa using hflat) hr.symm))
      · cases h
  · cases h

/-- What compiling a field fails with. -/
theorem fails_of_compileField
    (h : compileField (possible table plan) table schema container overrides f (.error e)) :
    e.isSchema = true ∨ ∃ d,
      resolveField (rawDirectives overrides f) (ownerName schema f) = .ok d ∧
        FieldFails table plan f d e := by
  unfold compileField at h
  dsimp only at h
  cases hd : resolveField (rawDirectives overrides f) (ownerName schema f) with
  | error e' =>
    rw [hd, Outcomes.lift_error_bind] at h
    cases h
    exact Or.inl (resolveField_error hd)
  | ok d =>
    rw [hd, Outcomes.lift_ok_bind] at h
    refine Or.inr ⟨d, rfl, ?_⟩
    rcases Outcomes.bind_error.mp h with h | ⟨_, hmet, h⟩
    · exact fails_of_requirements h
    rcases Outcomes.bind_error.mp h with h | ⟨_, -, h⟩
    · exact fails_of_stepOf (Outcomes.forM_ok.mp hmet) h
    · cases h

end

/-! ## Targets -/

section

variable {table : ClassTable} {overrides : Overrides} {t : TypeExpr} {e : Failure}

theorem nonEmpty_error {s : Schema} (h : nonEmpty s = .error e) : e.isSchema = true := by
  unfold nonEmpty at h
  split at h
  · cases h
    rfl
  · cases h

theorem aliasFields_error (h : aliasFields t = .error e) : e.isSchema = true := by
  unfold aliasFields at h
  split at h
  · cases h
    rfl
  · cases h
  · cases h

/-- What reading the schema of a target fails with. -/
theorem raises_of_introspect (h : introspect table t = .error e) : Raises table overrides t e := by
  unfold introspect at h
  split at h
  next hlong =>
    cases h
    exact .unwritable hlong
  split at h
  · rcases Running.bind_eq_error.mp h with h | ⟨fields, -, h⟩
    · exact .schema (aliasFields_error h)
    · exact .schema (nonEmpty_error h)
  split at h
  · exact .schema (nonEmpty_error h)
  next c _ _ =>
    split at h
    · cases h
      exact .schema rfl
    · rcases Running.bind_eq_error.mp h with h | ⟨entries, -, h⟩
      · exact .container h
      rcases Running.bind_eq_error.mp h with h | ⟨fields, -, h⟩
      · exact .fields h
      · exact .schema (nonEmpty_error h)
  · cases h
    exact .schema rfl

/-- What compiling a target fails with, given what its classes fail with. -/
theorem raises_of_buildWith {plan : TypeExpr → Outcomes DecodePlan}
    (hplan : ∀ u, Flattens table overrides t u → plan u (.error e) → Raises table Overrides.none u e)
    (h : buildWith (possible table plan) table t overrides (.error e)) :
    Raises table overrides t e := by
  unfold buildWith at h
  cases hschema : introspect table t with
  | error e' =>
    rw [hschema, Outcomes.lift_error_bind] at h
    cases h
    exact raises_of_introspect hschema
  | ok schema =>
  rw [hschema, Outcomes.lift_ok_bind] at h
  rcases Outcomes.bind_error.mp h with h | ⟨container, -, h⟩
  · exact .schema (resolveContainer_error (Outcomes.lift_apply.mp h).symm)
  rcases Outcomes.bind_error.mp h with h | ⟨_, -, h⟩
  · exact .schema (checkOverrides_error (Outcomes.lift_apply.mp h).symm)
  rcases Outcomes.bind_error.mp h with h | ⟨compiled, -, h⟩
  · obtain ⟨f, hf, herror⟩ := Outcomes.mapM_error h
    rcases fails_of_compileField herror with hreport | ⟨d, hd, (hreport | hraises) | hnested⟩
    · exact .schema hreport
    · exact .schema hreport
    · exact .field ⟨schema, hschema, hf, hd⟩ hraises
    · obtain ⟨hflat, hmap, herror⟩ := hnested
      have hflattens : Flattens table overrides t (sourceOf f d) :=
        ⟨⟨schema, f, d, hschema, hf, hd, hflat, rfl⟩, hmap⟩
      exact .nested hflattens (hplan _ hflattens herror)
  rcases Outcomes.bind_error.mp h with ⟨mark, hmark⟩ | ⟨_, -, h⟩
  · cases hmark
  · cases h

/-- The same for a compilation in a registry. -/
theorem raises_of_run {plan : TypeExpr → Compile DecodePlan}
    (hplan : ∀ u, Flattens table overrides t u → ∀ r e,
      ((plan u).run r).1 = .error e → Raises table Overrides.none u e) {r : Registry}
    (h : ((buildWith (lookups table plan) table t overrides).run r).1 = .error e) :
    Raises table overrides t e := by
  have hanswers : (lookups table plan).Related anyRegistry (Flattens table overrides t)
      (possible table fun u x => ∀ e, x = .error e → Raises table Overrides.none u e) :=
    lookups_possible fun u hu r e he => hplan u hu r e he
  have hbuild := anyRegistry_iff.mp (buildWith_related hanswers fun _ hu => hu) r
  rw [h] at hbuild
  exact raises_of_buildWith (fun u _ hu => hu e rfl) hbuild

/-- What one level of compiling plans fails with. -/
theorem raises_of_planStep {nested : TypeExpr → Compile DecodePlan}
    (hnested : ∀ u, Flattens table Overrides.none t u → ∀ r e,
      ((nested u).run r).1 = .error e → Raises table Overrides.none u e)
    (ht : Hashable t) {r : Registry}
    (h : ((planStep table refuse nested t).run r).1 = .error e) :
    Raises table Overrides.none t e := by
  rw [run_planStep, ht] at h
  dsimp only at h
  cases hcached : r.plans.lookup t.key with
  | some p =>
    rw [hcached] at h
    cases h
  | none =>
    rw [hcached] at h
    dsimp only at h
    split at h
    · cases h
      exact .schema rfl
    · rw [run_whileBuilding] at h
      dsimp only at h
      have hbuild : ((buildWith (lookups table nested) table t Overrides.none).run
          { r with building := t.key :: r.building }).1 = .error e := by
        split at h
        next hrun => cases h
        next hrun =>
          cases h
          exact congrArg Prod.fst hrun
      exact raises_of_run hnested hbuild

/-- What compiling a class fails with. The induction is on the levels; what stands below the last one
is never asked for. -/
theorem raises_of_planFor {c : ClassRef} {r : Registry}
    (h : ((planFor table (.declared c)).run r).1 = .error e) :
    Raises table Overrides.none (.declared c) e := by
  have hlevels : ∀ (n : Nat) (c : ClassRef) (r : Registry) (e : Failure),
      (((planStep table refuse)^[n] refuse (.declared c)).run r).1 = .error e →
      Raises table Overrides.none (.declared c) e := by
    intro n
    induction n with
    | zero =>
      intro c r e h
      cases h
      exact .schema rfl
    | succ n ih =>
      intro c r e h
      rw [Function.iterate_succ_apply'] at h
      refine raises_of_planStep (fun u hu r e h => ?_) rfl h
      obtain ⟨d, rfl, -⟩ := hu.known
      exact ih d r e h
  rw [← (planFor_terminates (Nat.le_refl _) refuse _ r).1] at h
  exact hlevels _ c r e h

/-- **What compiling fails with.** Nothing is missing from the list of sources. -/
theorem build_raises {r : Registry} (h : ((build table t overrides).run r).1 = .error e) :
    Raises table overrides t e := by
  refine raises_of_run (fun u hu r e hplan => ?_) h
  obtain ⟨c, rfl, -⟩ := hu.known
  exact raises_of_planFor hplan

end

end Compile

/-! ## Sound classes -/

/-- The annotations of a class: those of its fields and those of the parameters of its constructor. -/
def ClassInfo.allAnnotations (info : ClassInfo) : List (String × TypeExpr) :=
  info.annotations ++ (info.constructor?.map fun c => annotationsOf c.parameters).getD []

/-- Whether what a class says about all its fields has entries, if it says anything. -/
def ClassInfo.saysEntries (info : ClassInfo) : Bool :=
  match info.config with
  | none | some (.dict _) => true
  | _ => false

namespace ClassTable

variable (table : ClassTable)

/-- Whether the names in an annotation stand for something, or fail as names or as types do. -/
def isResolvable (t : TypeExpr) : Bool :=
  match table.lookUp t.ofNone with
  | .ok _ => true
  | .error g => g.isType || g.isName

/-- Whether the structure of a type, and of what remains of it without nothing, can be looked at, or
is refused as a type. -/
def isExaminable (t : TypeExpr) : Bool :=
  (t :: t.optionalInner?.toList).all fun u =>
    match table.structureOf u with
    | .error (.failed g) => g.isType
    | _ => true

variable {table}

theorem isExaminable_spec {t u : TypeExpr} (h : table.isExaminable t = true)
    (hu : u = t ∨ t.optionalInner? = some u) {g : Fault}
    (hg : table.structureOf u = .error (.failed g)) : g.isType = true := by
  have hmem : u ∈ t :: t.optionalInner?.toList := by
    rcases hu with rfl | hu
    · exact List.mem_cons_self ..
    · exact List.mem_cons_of_mem _ (Option.mem_toList.mpr hu)
  have hall := List.all_eq_true.mp h u hmem
  rw [hg] at hall
  exact hall

theorem resolveAnnotations_error {name : String} {annotations : List (String × TypeExpr)}
    {e : Failure} (hall : ∀ a ∈ annotations, table.isResolvable a.2 = true)
    (h : resolveAnnotations table name annotations = .error e) : e.isSchema = true := by
  unfold resolveAnnotations at h
  split at h
  next => cases h
  next g hg =>
    -- The first annotation that fails is the one that is reported.
    obtain ⟨a, ha, herror⟩ := Running.exists_of_mapM_eq_error hg
    have hlookUp : table.lookUp a.2.ofNone = .error g := by
      cases hname : table.lookUp a.2.ofNone with
      | error g' =>
        dsimp only at herror
        rw [hname] at herror
        cases herror
        rfl
      | ok u =>
        dsimp only at herror
        rw [hname] at herror
        cases herror
    have hkind := hall a ha
    unfold isResolvable at hkind
    rw [hlookUp] at hkind
    dsimp only at hkind
    rw [if_pos hkind] at h
    cases h
    rfl

theorem constructorFields_error {name : String} {c : Constructor} {e : Failure}
    (hall : ∀ a ∈ annotationsOf c.parameters, table.isResolvable a.2 = true)
    (h : constructorFields table name c = .error e) : e.isSchema = true := by
  unfold constructorFields at h
  dsimp only at h
  generalize List.filter _ _ = parameters at h
  split at h
  · cases h
  · rcases Running.bind_eq_error.mp h with h | ⟨_, -, h⟩
    · exact resolveAnnotations_error hall h
    · cases h

/-- The fields of a class can be read or are reported as such, if its annotations are. -/
theorem declaredFields_error {c : ClassRef} {e : Failure}
    (hall : ∀ info ∈ table.classes, ∀ a ∈ info.allAnnotations, table.isResolvable a.2 = true)
    (h : declaredFields table c = .error e) : e.isSchema = true := by
  unfold declaredFields at h
  cases hschema : table.schemaOf? c with
  | none =>
    rw [hschema] at h
    rcases Running.bind_eq_error.mp h with h | ⟨fields, -, h⟩
    · unfold plainFields at h
      split at h
      next hconstructor =>
        refine constructorFields_error (fun a ha => ?_) h
        -- A class that is not one of the table's has no constructor.
        cases hinfo : table.known? c with
        | none =>
          rw [show table.info c = default by unfold info; rw [hinfo]; rfl] at hconstructor
          cases hconstructor
        | some info =>
          rw [info_of_known hinfo] at hconstructor
          refine hall info (mem_of_known? hinfo) a (List.mem_append_right _ ?_)
          rw [hconstructor]
          exact ha
      next => cases h
      next => cases h
    · cases h
  | some info =>
    have hinfo : info ∈ table.classes := mem_of_lineage (List.mem_of_find?_eq_some hschema)
    have hannotations : ∀ a ∈ info.annotations, table.isResolvable a.2 = true :=
      fun a ha => hall info hinfo a (List.mem_append_left _ ha)
    rw [hschema] at h
    dsimp only at h
    split at h
    · rcases Running.bind_eq_error.mp h with h | ⟨fields, -, h⟩
      · rcases Running.bind_eq_error.mp h with h | ⟨_, -, h⟩
        · exact resolveAnnotations_error hannotations h
        · cases h
      · cases h
    · cases h
    · rcases Running.bind_eq_error.mp h with h | ⟨fields, -, h⟩
      · rcases Running.bind_eq_error.mp h with h | ⟨_, -, h⟩
        · exact resolveAnnotations_error hannotations h
        · cases h
      · cases h

/-- What a class says about all its fields can be read, if it has entries. -/
theorem containerOf_error {c : ClassRef} {e : Failure}
    (hall : ∀ info ∈ table.classes, info.saysEntries = true) : containerOf table c ≠ .error e := by
  intro h
  unfold containerOf at h
  split at h
  next => cases h
  next v hv =>
    obtain ⟨info, hinfo, hconfig⟩ := List.exists_of_findSome?_eq_some hv
    have hsays := hall info (mem_of_lineage hinfo)
    unfold ClassInfo.saysEntries at hsays
    rw [hconfig] at hsays
    split at hsays
    next hnone => cases hnone
    next entries hentries =>
      cases hentries
      split at h <;> cases h
    next => cases hsays

end ClassTable

namespace Compile

/-- What compiling a target relies on: the names in the annotations of the classes stand for something
or fail as names and types do, what classes say about their fields has entries, and the structure of
a type that is read can be looked at or is refused as a type. -/
structure Sound (table : ClassTable) (overrides : Overrides) (target : TypeExpr) : Prop where
  annotations : ∀ info ∈ table.classes, ∀ a ∈ info.allAnnotations, table.isResolvable a.2 = true
  containers : ∀ info ∈ table.classes, info.saysEntries = true
  structures : ∀ f d, Meets table overrides target f d → d.flatten = false →
    table.isExaminable (sourceOf f d) = true

section

variable {table : ClassTable} {overrides : Overrides} {target : TypeExpr} {r : Registry}

/-- A class that is flattened is as sound as the target. -/
theorem Sound.nested {u : TypeExpr} (h : Sound table overrides target)
    (hu : Flattens table overrides target u) : Sound table Overrides.none u where
  annotations := h.annotations
  containers := h.containers
  structures f d hf := h.structures f d (.nested hu hf)

/-- A field that compiling a target comes to has a type that is looked up and can be no key. -/
def MeetsUnhashable (table : ClassTable) (overrides : Overrides) (target : TypeExpr) (e : Failure) :
    Prop :=
  ∃ f d, Meets table overrides target f d ∧ ∃ t ∈ lookedUp f d, Registry.keyOf t = .error e

/-- The target, or a type of a field that compiling it comes to, cannot be written. -/
def MeetsUnwritable (table : ClassTable) (overrides : Overrides) (target : TypeExpr) : Prop :=
  target.isUnwritable = true ∨ ∃ f d, Meets table overrides target f d ∧
    ((sourceOf f d).isUnwritable || f.fieldType.isUnwritable) = true

/-- What compiling can fail with where the classes are sound. The induction is on where the failure
comes from. -/
theorem Raises.spec {e : Failure} (h : Raises table overrides target e)
    (hsound : Sound table overrides target) :
    e.isSchema = true ∨ MeetsUnhashable table overrides target e ∨
      (e = .fault Fault.tooLongToWrite ∧ MeetsUnwritable table overrides target) := by
  induction h with
  | schema h => exact Or.inl h
  | unwritable h => exact Or.inr (Or.inr ⟨rfl, Or.inl h⟩)
  | container h => exact absurd h (ClassTable.containerOf_error hsound.containers)
  | fields h => exact Or.inl (ClassTable.declaredFields_error hsound.annotations h)
  | @field overrides t f d e hf h =>
    have hmeets : Meets table overrides t f d := .own hf
    cases h with
    | unhashable ht h => exact Or.inr (Or.inl ⟨f, d, hmeets, _, ht, h⟩)
    | unwritable ht h =>
      refine Or.inr (Or.inr ⟨rfl, Or.inr ⟨f, d, hmeets, ?_⟩⟩)
      rw [Bool.or_eq_true]
      rcases ht with rfl | rfl
      · exact Or.inl h
      · exact Or.inr h
    | jammed hflat ht h hg =>
      have htype := ClassTable.isExaminable_spec (hsound.structures f d hmeets hflat) ht h
      rw [hg] at htype
      cases htype
  | @nested overrides t u e hu _ ih =>
    rcases ih (hsound.nested hu) with hschema | ⟨f, d, hf, h⟩ | ⟨he, hlong⟩
    · exact Or.inl hschema
    · exact Or.inr (Or.inl ⟨f, d, .nested hu hf, h⟩)
    · refine Or.inr (Or.inr ⟨he, Or.inr ?_⟩)
      obtain ⟨c, rfl, -⟩ := hu.known
      -- A class itself can always be written.
      rcases hlong with hclass | ⟨f, d, hf, h⟩
      · cases hclass
      · exact ⟨f, d, .nested hu hf, h⟩

/-- A target that compiles has only fields whose types can be keys. -/
theorem hashable_of_build {p : DecodePlan}
    (h : ((build table target overrides).run r).1 = .ok p) {f : FieldSchema} {d : FieldDirectives}
    (hf : HasField table overrides target f d) {t : TypeExpr} (ht : t ∈ lookedUp f d) :
    Hashable t := by
  have hanswers : (answers table).Related anyRegistry (Flattens table overrides target)
      (possible table fun _ _ => True) :=
    lookups_possible fun _ _ _ => trivial
  have hbuild := anyRegistry_iff.mp (buildWith_related hanswers fun _ hu => hu) r
  rw [show ((buildWith (answers table) table target overrides).run r).1 = .ok p from h] at hbuild
  obtain ⟨schema, hschema, hmem, hd⟩ := hf
  obtain ⟨schema', _, hschema', -, -, hall⟩ := buildWith_ok hbuild
  rw [hschema] at hschema'
  cases hschema'
  obtain ⟨s, -, d', hd', hmet, -⟩ := Forall₂.exists_right hall hmem
  rw [hd] at hd'
  cases hd'
  simp only [lookedUp, List.mem_append] at ht
  rcases ht with ht | ht
  · split at ht
    next => cases ht
    next hflat =>
      obtain rfl := List.mem_singleton.mp ht
      have hdecode := hmet ⟨.decode, [sourceOf f d]⟩ (by simp [requirementsOf, hflat])
      obtain ⟨decoder, r', hr'⟩ := found_of_bind (satisfies_of_require hdecode)
      cases hkey : Registry.keyOf (sourceOf f d) with
      | error e =>
        rw [decoderFor_of_unhashable hkey] at hr'
        cases hr'
      | ok key =>
        obtain ⟨-, rfl⟩ := Uncached.keyOf_ok.mp hkey
        exact hkey
  · split at ht
    next htry =>
      obtain rfl := List.mem_singleton.mp ht
      have hconvert := hmet ⟨.convertible, [sourceOf f d, f.fieldType]⟩
        (by simp [requirementsOf, htry])
      obtain ⟨converter, r', hr'⟩ := found_of_bind (satisfies_of_require hconvert)
      exact (hashable_of_converterFor hr'.symm).2
    next => cases ht

/-- **How compiling fails.** Take a target that is sound, with any directives from outside and in any
registry. A failure of compiling it is a schema failure, or it says that a type that is looked up can
be no key, or that a type cannot be written. A target with a field for which a type is looked up that
can be no key does not compile. For such a type looking up a decoder fails in every registry, and for
no other type whose structure can be looked at. -/
theorem build_fails (hsound : Sound table overrides target) (r : Registry) :
    (∀ e, ((build table target overrides).run r).1 = .error e →
      e.isSchema = true ∨ MeetsUnhashable table overrides target e ∨
        (e = .fault Fault.tooLongToWrite ∧ MeetsUnwritable table overrides target)) ∧
    (∀ p, ((build table target overrides).run r).1 = .ok p → ∀ f d,
      HasField table overrides target f d → ∀ t ∈ lookedUp f d, Hashable t) ∧
    ∀ t, table.isExaminable t = true → ∀ e,
      (r.decoderFor table t).1 = .error e ↔ Registry.keyOf t = .error e := by
  refine ⟨fun e h => (build_raises h).spec hsound, fun p h f d hf t => hashable_of_build h hf, ?_⟩
  intro t ht e
  constructor
  · intro h
    rcases decoderFor_error h with hkey | ⟨u, g, hu, hg, hkind, -⟩
    · exact hkey
    · rw [ClassTable.isExaminable_spec ht hu hg] at hkind
      cases hkind
  · intro h
    rw [decoderFor_of_unhashable h]

end

end Compile

/-! ## A type that can be no key -/

namespace Unhashable

/-- A number that is marked with a list. -/
def marked : TypeExpr :=
  .annotated (.builtin .int) [.list [.int 1]]

/-- A class with a number, and a list of marked ones. -/
def holder : ClassRef := ⟨"Holder", 1, .dataclass .none⟩

/-- The classes. -/
def classes : ClassTable :=
  let declarations : Run Unit :=
    Derive.declare (.dataclass "Holder" none
      [.given "n" (.builtin .int), .given "xs" (.listOf marked)]) none
  (declarations.run (Session.create [])).2.classes

def registry : Registry :=
  Registry.create "main" .standard

/-- Whether a field is read from a column, by a type whose structure can be looked at. -/
def isSound (schema : Schema) (f : FieldSchema) : Bool :=
  match resolveField (Compile.rawDirectives Overrides.none f) (Compile.ownerName schema f) with
  | .ok d => !d.flatten && classes.isExaminable (Compile.sourceOf f d)
  | .error _ => true

/-- Everything about `holder` is sound, values of its second field can be checked by their structure,
and compiling it fails with a fault of a value of the wrong class. -/
theorem checks :
    ((classes.classes.all fun info =>
        info.saysEntries && info.allAnnotations.all fun a => classes.isResolvable a.2) &&
      (match introspect classes (.declared holder) with
        | .ok schema => schema.fields.all (isSound schema)
        | .error _ => true) &&
      (classes.structureOf (.listOf marked)).isOk &&
      (match ((Compile.build classes (.declared holder) Overrides.none).run registry).1 with
        | .error f => f.isType
        | .ok _ => false)) = true := by
  decide +kernel

theorem sound_holder : Compile.Sound classes Overrides.none (.declared holder) := by
  have h := checks
  simp only [Bool.and_eq_true, List.all_eq_true] at h
  obtain ⟨⟨⟨hclasses, hfields⟩, -⟩, -⟩ := h
  have hown : ∀ f d, Compile.HasField classes Overrides.none (.declared holder) f d →
      d.flatten = false ∧ classes.isExaminable (Compile.sourceOf f d) = true := by
    rintro f d ⟨schema, hschema, hf, hd⟩
    rw [hschema] at hfields
    have hfield := List.all_eq_true.mp hfields f hf
    unfold isSound at hfield
    rw [hd] at hfield
    simpa using hfield
  refine ⟨fun info hinfo => (hclasses info hinfo).2, fun info hinfo => (hclasses info hinfo).1, ?_⟩
  intro f d hf hflat
  cases hf with
  | own h => exact (hown f d h).2
  | nested h _ =>
    -- Nothing is flattened.
    obtain ⟨⟨schema, g, d', hschema, hg, hd', hflat', -⟩, -⟩ := h
    rw [(hown g d' ⟨schema, hschema, hg, hd'⟩).1] at hflat'
    cases hflat'

theorem exists_fault : ∃ f,
    ((Compile.build classes (.declared holder) Overrides.none).run registry).1 = .error f ∧
      f.isType = true := by
  have h := checks
  rw [Bool.and_eq_true] at h
  have hfault := h.2
  split at hfault
  next f hf => exact ⟨f, hf, hfault⟩
  next => cases hfault

/-- The class is not reported: compiling it fails as looking up the decoder of the lists does, with a
value of the wrong class. -/
theorem marked_list_fails : Compile.Sound classes Overrides.none (.declared holder) ∧
    (∃ f, ((Compile.build classes (.declared holder) Overrides.none).run registry).1 = .error f ∧
      f.isSchema = false ∧ f.isType = true) ∧
    ∃ f, (registry.decoderFor classes (.listOf marked)).1 = .error f ∧ f.isType = true := by
  refine ⟨sound_holder, ?_, Failure.wrongType "unhashable type: 'list'", rfl, rfl⟩
  obtain ⟨f, hf, htype⟩ := exists_fault
  refine ⟨f, hf, ?_, htype⟩
  cases f with
  | fault g => rfl
  | _ => cases htype

/-- The failure of the class comes from a type that can be no key. -/
theorem build_fails_holder : Compile.Sound classes Overrides.none (.declared holder) ∧
    ∃ f, ((Compile.build classes (.declared holder) Overrides.none).run registry).1 = .error f ∧
      Compile.MeetsUnhashable classes Overrides.none (.declared holder) f := by
  obtain ⟨f, hf, htype⟩ := exists_fault
  refine ⟨sound_holder, f, hf, ?_⟩
  rcases (Compile.build_fails sound_holder registry).1 f hf with hschema | hmeets | ⟨rfl, -⟩
  · cases f with
    | schema problem cause => cases htype
    | _ => cases hschema
  · exact hmeets
  · cases htype

end Unhashable

end RowDecoding
