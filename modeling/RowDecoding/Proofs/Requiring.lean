import RowDecoding.Mapping.Derive
import RowDecoding.Proofs.Steadiness

/-!
# What compiling requires

A target compiles just if the registry has everything that its fields need. What a field needs is
looked up when its turn comes, in the registry that the fields before it leave; `turns` lists the
fields with these registries, which differ in what is cached and agree on all registrations.

* `Equipped`: the registry satisfies each requirement of the field, and has a default for it if the
  field asks for one.
* `StepEquipped`: what the step of an equipped field holds.
* `Lacks`: what is raised for a field that is not equipped. The first unsatisfied requirement is
  reported, the failure of a nested class is raised as it is, and so is a failure on the way through
  a type whose structure is looked at to find a decoder (`jammed`): for such a type there is neither
  a decoder nor a report that there is none.

> `build_decides`: a target compiles iff each of its fields is equipped in its turn; otherwise the
> first one that is not decides what is raised.

Each lookup is made twice, once to check and once for the step. `asked_eq` is why the second time
finds what the first one found.
-/

namespace RowDecoding

namespace Compile

section

variable (q : Lookups Compile) (table : ClassTable) (r : Registry)

/-! ## What a field needs -/

/-- The registry satisfies a requirement. -/
def Satisfied (requirement : Requirement) : Prop :=
  ((satisfies q table requirement).run r).1 = .ok true

/-- The registry once requirements have been looked up in turn. -/
def asked (requirements : List Requirement) : Registry :=
  requirements.foldl (fun r requirement => ((satisfies q table requirement).run r).2) r

/-- Fields in turn, each with the registry that those before it leave. -/
def turns (directives : FieldSchema → FieldDirectives) :
    Registry → List FieldSchema → List (Registry × FieldSchema)
  | _, [] => []
  | r, f :: rest =>
    (r, f) :: turns directives (asked q table r (requirementsOf f (directives f))) rest

variable (f : FieldSchema) (d : FieldDirectives)

/-- The registry has everything that a field with these directives needs. -/
structure Equipped : Prop where
  requirements : ∀ requirement ∈ requirementsOf f d, Satisfied q table r requirement
  default : d.default = true → f.declaredDefault.isSome = true ∨
    ∃ s, r.defaultFor table f.fieldType = .ok (some s)

/-- The step of a field has what the registry answers for it. -/
structure StepEquipped (s : DecodeStep) : Prop where
  direct : d.flatten = false → ∃ key decoder,
    s.strategy.key? = some key ∧ s.strategy.decoder? = some decoder ∧
    ((q.decoder (sourceOf f d)).run r).1 = .ok (some decoder)
  flatten : d.flatten = true → ∃ mapper,
    s.strategy = .flatten (some mapper) ∧
    ((mapperFor q table (sourceOf f d)).run r).1 = .ok (some mapper)
  converts : d.tryFrom.isSome = true → ∃ converter, s.converter = some converter ∧
    r.converterFor table (sourceOf f d) f.fieldType = .ok (some converter)
  plain : d.tryFrom.isSome = false → s.converter = none
  default : s.default.isSome = d.default

/-- What compiling a field raises that lacks something. -/
inductive Lacks (owner : String) : Failure → Prop
  /-- The first requirement that is not satisfied. -/
  | capability {met rest : List Requirement} {requirement : Requirement}
    (h : requirementsOf f d = met ++ requirement :: rest)
    (hmet : ∀ m ∈ met, Satisfied q table r m)
    (hlacks : ((satisfies q table requirement).run r).1 = .ok false) :
    Lacks owner (missingCapability owner requirement)
  /-- The class that is flattened does not compile. -/
  | nested {e : Failure} (hflat : d.flatten = true)
    (hplan : mappingOf table (sourceOf f d) = .byPlan)
    (h : ((q.plan (sourceOf f d)).run r).1 = .error e) : Lacks owner e
  /-- The structure of the source cannot be looked at, for a reason other than its type. -/
  | jammed {t : TypeExpr} {g : Fault} (hflat : d.flatten = false)
    (ht : t = sourceOf f d ∨ (sourceOf f d).optionalInner? = some t)
    (h : table.structureOf t = .error (.failed g)) (hg : g.isType = false) : Lacks owner (.fault g)
  /-- There is no default where one is asked for. -/
  | default (hmet : ∀ requirement ∈ requirementsOf f d, Satisfied q table r requirement)
    (hasks : d.default = true) (hdeclared : f.declaredDefault = none)
    (h : r.defaultFor table f.fieldType = .ok none) :
    Lacks owner (missingDefault owner f.fieldType)

end

/-! ## The requirements of one field -/

section

variable {table : ClassTable} {plan : TypeExpr → Compile DecodePlan}
  {f : FieldSchema} {d : FieldDirectives} {r r' : Registry} {owner : String}

/-- Whether there is a value. -/
abbrev found {α : Type} (m : Compile (Option α)) : Compile Bool := do
  return (← m).isSome

theorem run_found {α : Type} (m : Compile (Option α)) (r : Registry) :
    (found m).run r = ((m.run r).1.map (·.isSome), (m.run r).2) :=
  Running.run_return m _ r

/-- Something is found if it is answered. -/
theorem run_found_true {α : Type} {m : Compile (Option α)}
    (h : ((found m).run r).1 = .ok true) : ∃ a, m.run r = (.ok (some a), ((found m).run r).2) := by
  rw [run_found] at h ⊢
  rcases hm : m.run r with ⟨_ | _ | a, r'⟩
  · rw [hm] at h
    cases h
  · rw [hm] at h
    cases h
  · exact ⟨a, rfl⟩

theorem run_found_error {α : Type} {m : Compile (Option α)} {e : Failure}
    (h : ((found m).run r).1 = .error e) : (m.run r).1 = .error e := by
  rw [run_found] at h
  rcases hm : (m.run r).1 with e' | a
  · rw [hm] at h
    cases h
    rfl
  · rw [hm] at h
    cases h

/-- Whether there is what reads the source of a field. -/
def reads (q : Lookups Compile) (table : ClassTable) (f : FieldSchema) (d : FieldDirectives) :
    Compile Bool :=
  if d.flatten then found (mapperFor q table (sourceOf f d)) else found (q.decoder (sourceOf f d))

/-- A requirement of a field asks for what reads the source, or for the conversion. -/
theorem satisfies_of_mem (q : Lookups Compile) (table : ClassTable) {a : Requirement}
    (ha : a ∈ requirementsOf f d) :
    satisfies q table a = reads q table f d ∨
      satisfies q table a = found (q.converter (sourceOf f d) f.fieldType) := by
  simp only [requirementsOf, List.mem_append] at ha
  rcases ha with ha | ha
  · refine Or.inl ?_
    unfold reads
    split at ha
    next hflat =>
      obtain rfl := List.mem_singleton.mp ha
      rw [if_pos hflat]
      rfl
    next hflat =>
      rw [if_neg hflat]
      rcases List.mem_pair.mp ha with rfl | rfl <;> rfl
  · split at ha
    · obtain rfl := List.mem_singleton.mp ha
      exact Or.inr rfl
    · cases ha

/-- The first requirement of a field asks for what reads the source. -/
theorem requirementsOf_first (q : Lookups Compile) (table : ClassTable) (f : FieldSchema)
    (d : FieldDirectives) : ∃ a rest, requirementsOf f d = a :: rest ∧
      satisfies q table a = reads q table f d := by
  unfold requirementsOf reads
  cases d.flatten with
  | true => exact ⟨_, _, rfl, rfl⟩
  | false => exact ⟨_, _, rfl, rfl⟩

theorem run_found_converterFor (s t : TypeExpr) (r : Registry) :
    (found (converterFor table s t)).run r = ((r.converterFor table s t).map (·.isSome), r) := by
  rw [run_found, run_converterFor]

variable (hplan : ∀ v, Steady (plan v))

section

include hplan

theorem steady_reads : Steady (reads (lookups table plan) table f d) := by
  unfold reads
  split
  · exact (steady_mapperFor hplan _).map _
  · exact (steady_decoderFor table _).map _

/-- A lookup of a requirement leaves the registry undisturbed. -/
theorem satisfies_undisturbed {a : Requirement} (ha : a ∈ requirementsOf f d) (r : Registry) :
    r.Undisturbed ((satisfies (lookups table plan) table a).run r).2 := by
  rcases satisfies_of_mem _ _ ha with h | h
  · rw [h]
    exact (steady_reads hplan).leaves r
  · rw [h]
    show r.Undisturbed ((found (converterFor table _ _)).run r).2
    rw [run_found_converterFor]
    exact .refl r

/-- A requirement of a field that is satisfied does not change the answer to another one. -/
theorem satisfies_after {a b : Requirement} (ha : a ∈ requirementsOf f d)
    (hb : b ∈ requirementsOf f d)
    (h : (satisfies (lookups table plan) table a).run r = (.ok true, r')) :
    ((satisfies (lookups table plan) table b).run r').1 =
      ((satisfies (lookups table plan) table b).run r).1 := by
  have hleaves : r.Undisturbed ((satisfies (lookups table plan) table a).run r).2 :=
    satisfies_undisturbed hplan ha r
  rw [h] at hleaves
  rcases satisfies_of_mem _ _ hb with hb | hb
  · rcases satisfies_of_mem _ _ ha with ha | ha
    · -- Both ask the same, and the answer is steady.
      rw [ha] at h
      rw [hb, h, (steady_reads hplan).again h]
    · have hrun : ((found (converterFor table (sourceOf f d) f.fieldType)).run r).2 = r' := by
        rw [ha] at h
        exact congrArg Prod.snd h
      rw [run_found_converterFor] at hrun
      rw [← hrun]
  · rw [hb]
    show ((found (converterFor table _ _)).run r').1 = ((found (converterFor table _ _)).run r).1
    rw [run_found_converterFor, run_found_converterFor, hleaves.converterFor]

theorem asked_undisturbed : ∀ {l : List Requirement}, (∀ a ∈ l, a ∈ requirementsOf f d) →
    ∀ r : Registry, r.Undisturbed (asked (lookups table plan) table r l) := by
  intro l
  induction l with
  | nil => exact fun _ r => .refl r
  | cons a l ih =>
    intro hl r
    exact (satisfies_undisturbed hplan (hl a (List.mem_cons_self ..)) r).trans
      (ih (fun b hb => hl b (List.mem_cons_of_mem _ hb)) _)

/-- Once what reads a field is found, nothing else that the field requires changes the registry. -/
theorem asked_eq {x : Bool} (h : (reads (lookups table plan) table f d).run r = (.ok x, r')) :
    asked (lookups table plan) table r (requirementsOf f d) = r' := by
  obtain ⟨first, rest, hlist, hfirst⟩ := requirementsOf_first (lookups table plan) table f d
  have hrest : ∀ l : List Requirement, (∀ a ∈ l, a ∈ requirementsOf f d) →
      asked (lookups table plan) table r' l = r' := by
    intro l
    induction l with
    | nil => exact fun _ => rfl
    | cons a l ih =>
      intro hl
      have ha : ((satisfies (lookups table plan) table a).run r').2 = r' := by
        rcases satisfies_of_mem _ _ (hl a (List.mem_cons_self ..)) with ha | ha
        · rw [ha, (steady_reads hplan).again h]
        · rw [ha]
          show ((found (converterFor table _ _)).run r').2 = r'
          rw [run_found_converterFor]
      show asked _ table ((satisfies (lookups table plan) table a).run r').2 l = r'
      rw [ha]
      exact ih fun b hb => hl b (List.mem_cons_of_mem _ hb)
  rw [hlist]
  show asked _ table ((satisfies (lookups table plan) table first).run r).2 rest = r'
  rw [hfirst, h]
  exact hrest rest fun a ha => hlist ▸ List.mem_cons_of_mem _ ha

end

/-- The run of one check. -/
theorem run_require (q : Lookups Compile) (table : ClassTable) (owner : String) (a : Requirement)
    (r : Registry) :
    (require q table owner a).run r =
      match (satisfies q table a).run r with
      | (.ok true, r') => (.ok ⟨⟩, r')
      | (.ok false, r') => (.error (missingCapability owner a), r')
      | (.error e, r') => (.error e, r') := by
  unfold require
  rw [Running.run_bind]
  rcases (satisfies q table a).run r with ⟨e | (_ | _), r'⟩ <;> rfl

/-- The requirements of a field are all satisfied, or the first that is not decides what is raised:
that it is missing, or why it cannot be looked up. The induction is on the requirements; an earlier
one does not change what the later ones come to. -/
theorem run_requireAll (hplan : ∀ v, Steady (plan v)) (owner : String) :
    ∀ {l : List Requirement}, (∀ a ∈ l, a ∈ requirementsOf f d) → ∀ r : Registry,
      (∀ a ∈ l, Satisfied (lookups table plan) table r a) ∧
        (l.forM (require (lookups table plan) table owner)).run r =
          (.ok ⟨⟩, asked (lookups table plan) table r l) ∨
      ∃ met a rest e, l = met ++ a :: rest ∧
        (∀ b ∈ met, Satisfied (lookups table plan) table r b) ∧
        ((l.forM (require (lookups table plan) table owner)).run r).1 = .error e ∧
        (((satisfies (lookups table plan) table a).run r).1 = .ok false ∧
            e = missingCapability owner a ∨
          ((satisfies (lookups table plan) table a).run r).1 = .error e) := by
  intro l
  induction l with
  | nil => exact fun _ r => Or.inl ⟨fun _ h => absurd h List.not_mem_nil, rfl⟩
  | cons a l ih =>
    intro hl r
    have ha := hl a (List.mem_cons_self ..)
    have hl' : ∀ b ∈ l, b ∈ requirementsOf f d := fun b hb => hl b (List.mem_cons_of_mem _ hb)
    have hrun := run_require (lookups table plan) table owner a r
    rcases hsat : (satisfies (lookups table plan) table a).run r with ⟨e | x, r'⟩
    · rw [hsat] at hrun
      refine Or.inr ⟨[], a, l, e, rfl, fun _ h => absurd h List.not_mem_nil, ?_, Or.inr ?_⟩
      · exact congrArg Prod.fst (Running.run_bind_of_error hrun)
      · rw [hsat]
    · cases x with
      | false =>
        rw [hsat] at hrun
        refine Or.inr ⟨[], a, l, missingCapability owner a, rfl,
          fun _ h => absurd h List.not_mem_nil, ?_, Or.inl ⟨?_, rfl⟩⟩
        · exact congrArg Prod.fst (Running.run_bind_of_error hrun)
        · rw [hsat]
      | true =>
        have hsatisfied : Satisfied (lookups table plan) table r a := congrArg Prod.fst hsat
        have hafter : ∀ {b}, b ∈ requirementsOf f d →
            ((satisfies (lookups table plan) table b).run r').1 =
              ((satisfies (lookups table plan) table b).run r).1 :=
          fun hb => satisfies_after hplan ha hb hsat
        have hback : ∀ b ∈ l, Satisfied (lookups table plan) table r' b →
            Satisfied (lookups table plan) table r b := by
          intro b hb h
          exact (hafter (hl' b hb)).symm.trans h
        rw [hsat] at hrun
        have hforM : ((a :: l).forM (require (lookups table plan) table owner)).run r =
            (l.forM (require (lookups table plan) table owner)).run r' :=
          Running.run_bind_of_ok hrun
        rw [hforM]
        rcases ih hl' r' with ⟨hall, hok⟩ | ⟨met, b, rest, e, rfl, hmet, herror, hlacks⟩
        · refine Or.inl ⟨List.forall_mem_cons.mpr ⟨hsatisfied, fun b hb => ?_⟩, ?_⟩
          · exact hback b hb (hall b hb)
          · rw [hok]
            show _ = (_, asked _ table ((satisfies (lookups table plan) table a).run r).2 l)
            rw [hsat]
        · refine Or.inr ⟨a :: met, b, rest, e, rfl,
            List.forall_mem_cons.mpr ⟨hsatisfied, fun c hc => ?_⟩, herror, ?_⟩
          · exact hback c (List.mem_append_left _ hc) (hmet c hc)
          · rwa [hafter (hl' b (by simp))] at hlacks

/-! ## What stands in the way of a field -/

/-- A type can be the key of a registration. -/
abbrev Hashable (t : TypeExpr) : Prop :=
  Registry.keyOf t = .ok t.key

/-- Without a decoder of its own a type gets one by its structure, and that may fail. -/
theorem structureOf_of_ownDecoder {t : TypeExpr} {e : Failure}
    (h : r.ownDecoder table t = .error e) :
    ∃ g, table.structureOf t = .error (.failed g) ∧ g.isType = false ∧ e = .fault g := by
  have hstructural : r.structuralDecoder table t = .error e := by
    unfold Registry.ownDecoder at h
    split at h
    · cases h
    · unfold Registry.derivedDecoder at h
      split at h
      · split at h
        · cases h
        · exact h
      · exact h
  unfold Registry.structuralDecoder at hstructural
  dsimp only at hstructural
  split at hstructural
  · cases hstructural
  · split at hstructural
    · cases hstructural
    · cases hstructural
    · cases hstructural
    next g hg =>
      split at hstructural
      · cases hstructural
      next htype =>
        cases hstructural
        exact ⟨g, hg, Bool.eq_false_iff.mpr htype, rfl⟩

theorem Registry.remembering_error {t : TypeExpr} {x : Except Failure (Option Transform)}
    {e : Failure} (h : (r.remembering t x).1 = .error e) : x = .error e := by
  cases x <;> exact h

/-- A decoder cannot be looked up only where the structure of the type, or of what remains of it
without nothing, cannot be looked at. -/
theorem structureOf_of_decoderFor {t : TypeExpr} {e : Failure} (ht : Hashable t)
    (h : (r.decoderFor table t).1 = .error e) :
    ∃ u g, (u = t ∨ t.optionalInner? = some u) ∧
      table.structureOf u = .error (.failed g) ∧ g.isType = false ∧ e = .fault g := by
  unfold Registry.decoderFor at h
  rw [ht] at h
  dsimp only at h
  split at h
  · cases h
  · split at h
    next inner _ hinner =>
      have hdirect : (r.directDecoder table inner).1 = .error e := by
        have := Registry.remembering_error h
        cases hx : (r.directDecoder table inner).1 with
        | error e' =>
          rw [hx] at this
          exact this
        | ok d =>
          rw [hx] at this
          cases this
      unfold Registry.directDecoder at hdirect
      split at hdirect
      · cases hdirect
      · obtain ⟨g, hg⟩ := structureOf_of_ownDecoder (Registry.remembering_error hdirect)
        exact ⟨inner, g, Or.inr hinner, hg⟩
    · obtain ⟨g, hg⟩ := structureOf_of_ownDecoder (Registry.remembering_error h)
      exact ⟨t, g, Or.inl rfl, hg⟩

theorem converterFor_ok (table : ClassTable) {s t : TypeExpr} (hs : Hashable s) (ht : Hashable t)
    (r : Registry) :
    ∃ x, r.converterFor table s t = .ok x := by
  unfold Registry.converterFor
  rw [hs, ht]
  dsimp only [bind, Except.bind, pure, Except.pure]
  split
  · exact ⟨_, rfl⟩
  · split
    · exact ⟨_, rfl⟩
    · split
      · exact ⟨_, rfl⟩
      · split <;> exact ⟨_, rfl⟩

theorem defaultFor_ok (table : ClassTable) {t : TypeExpr} (ht : Hashable t) (r : Registry) :
    ∃ x, r.defaultFor table t = .ok x := by
  unfold Registry.defaultFor
  rw [ht]
  dsimp only [bind, Except.bind, pure, Except.pure]
  split
  · exact ⟨_, rfl⟩
  · split
    · exact ⟨_, rfl⟩
    · split
      · exact ⟨_, rfl⟩
      · split <;> exact ⟨_, rfl⟩

/-- Why a mapper cannot be looked up: the plan of the class cannot be compiled. -/
theorem mapperFor_error {q : Lookups Compile} {t : TypeExpr} {e : Failure}
    (h : ((mapperFor q table t).run r).1 = .error e) :
    mappingOf table t = .byPlan ∧ ((q.plan t).run r).1 = .error e := by
  unfold mapperFor at h
  cases hmap : mappingOf table t with
  | none =>
    rw [hmap] at h
    cases h
  | own mapper =>
    rw [hmap] at h
    cases h
  | byPlan =>
    rw [hmap] at h
    refine ⟨rfl, ?_⟩
    dsimp only at h
    rw [Running.run_bind] at h
    rcases hp : (q.plan t).run r with ⟨e' | p, r'⟩
    · rw [hp] at h
      cases h
      rfl
    · rw [hp] at h
      cases h

/-- What is raised where a requirement cannot be looked up. -/
theorem lacks_of_error {a : Requirement} {e : Failure} (ha : a ∈ requirementsOf f d)
    (hsource : Hashable (sourceOf f d)) (htype : Hashable f.fieldType)
    (h : ((satisfies (lookups table plan) table a).run r).1 = .error e) :
    Lacks (lookups table plan) table r f d owner e := by
  rcases satisfies_of_mem (lookups table plan) table ha with hreads | hconverts
  · rw [hreads] at h
    unfold reads at h
    split at h
    next hflat =>
      obtain ⟨hmap, hplan⟩ := mapperFor_error (run_found_error h)
      exact .nested hflat hmap hplan
    next hflat =>
      have hdecoder : ((decoderFor table (sourceOf f d)).run r).1 = .error e := run_found_error h
      rw [run_decoderFor] at hdecoder
      obtain ⟨t, g, ht, hg, htype, rfl⟩ := structureOf_of_decoderFor hsource hdecoder
      exact .jammed (Bool.eq_false_iff.mpr hflat) ht hg htype
  · rw [hconverts] at h
    obtain ⟨x, hx⟩ := converterFor_ok table hsource htype r
    have hconverter : ((converterFor table (sourceOf f d) f.fieldType).run r).1 = .error e :=
      run_found_error h
    rw [run_converterFor, hx] at hconverter
    cases hconverter

/-! ## The step of a field -/

/-- The run of the lookup of a default. -/
theorem run_replacementOf (plan : TypeExpr → Compile DecodePlan) (f : FieldSchema)
    (d : FieldDirectives) (owner : String) (r : Registry) :
    (replacementOf (lookups table plan) f d owner).run r =
      (if d.default then
        match f.declaredDefault, r.defaultFor table f.fieldType with
        | some s, _ | none, .ok (some s) => .ok (some s)
        | none, .ok none => .error (missingDefault owner f.fieldType)
        | none, .error e => .error e
      else .ok none, r) := by
  unfold replacementOf
  cases d.default with
  | false => rfl
  | true =>
    rw [if_pos rfl, if_pos rfl]
    unfold defaultOf
    cases f.declaredDefault with
    | some s => rfl
    | none =>
      dsimp only
      have hrun : (lookups table plan).default f.fieldType = defaultFor table f.fieldType := rfl
      rw [hrun, Running.run_bind, Running.run_bind, run_defaultFor]
      rcases r.defaultFor table f.fieldType with e | (_ | s) <;> rfl

/-- The default of an equipped field. -/
theorem run_replacementOf_equipped (plan : TypeExpr → Compile DecodePlan) (owner : String)
    (h : d.default = true → f.declaredDefault.isSome = true ∨
      ∃ s, r.defaultFor table f.fieldType = .ok (some s)) :
    ∃ x, (replacementOf (lookups table plan) f d owner).run r = (.ok x, r) ∧
      x.isSome = d.default := by
  rw [run_replacementOf]
  cases hasks : d.default with
  | false => exact ⟨none, rfl, rfl⟩
  | true =>
    rw [if_pos rfl]
    cases hdeclared : f.declaredDefault with
    | some s => exact ⟨some s, rfl, rfl⟩
    | none =>
      rcases h hasks with hsome | ⟨s, hs⟩
      · rw [hdeclared] at hsome
        cases hsome
      · rw [hs]
        exact ⟨some s, rfl, rfl⟩

/-- The strategy of a field finds again what reads it. -/
theorem run_strategyOf_equipped (hplan : ∀ v, Steady (plan v)) (schema : Schema)
    (container : ContainerDirectives)
    (h : (reads (lookups table plan) table f d).run r = (.ok true, r')) :
    ∃ strategy, (strategyOf (lookups table plan) table schema container f d).run r' =
        (.ok strategy, r') ∧
      (d.flatten = false → ∃ key decoder,
        strategy.key? = some key ∧ strategy.decoder? = some decoder ∧
        ((decoderFor table (sourceOf f d)).run r).1 = .ok (some decoder)) ∧
      (d.flatten = true → ∃ mapper, strategy = .flatten (some mapper) ∧
        ((mapperFor (lookups table plan) table (sourceOf f d)).run r).1 = .ok (some mapper)) := by
  unfold reads at h
  unfold strategyOf
  cases hflat : d.flatten with
  | true =>
    rw [if_pos hflat] at h
    rw [if_pos rfl]
    obtain ⟨mapper, hmapper⟩ := run_found_true (congrArg Prod.fst h)
    rw [h] at hmapper
    have hagain := (steady_mapperFor hplan _).again hmapper
    refine ⟨.flatten (some mapper), ?_, (fun h => nomatch h), fun _ => ⟨mapper, rfl, ?_⟩⟩
    · rw [Running.run_bind_of_ok hagain]
      rfl
    · rw [hmapper]
  | false =>
    rw [if_neg (by simp [hflat])] at h
    rw [if_neg (by simp)]
    obtain ⟨decoder, hdecoder⟩ := run_found_true (congrArg Prod.fst h)
    rw [h] at hdecoder
    have hagain := (steady_decoderFor table _).again hdecoder
    refine ⟨columnStrategy schema container f d (some decoder), ?_, fun _ => ?_,
      (fun h => nomatch h)⟩
    · show (decoderFor table (sourceOf f d) >>= _).run r' = _
      rw [Running.run_bind_of_ok hagain]
      rfl
    · have hstrategy : (columnStrategy schema container f d (some decoder)).decoder? =
          some decoder ∧ ∃ key,
            (columnStrategy schema container f d (some decoder)).key? = some key := by
        unfold columnStrategy
        dsimp only
        split
        · exact ⟨rfl, _, rfl⟩
        · split
          · exact ⟨rfl, _, rfl⟩
          · exact ⟨rfl, _, rfl⟩
      obtain ⟨hdecoder?, key, hkey⟩ := hstrategy
      refine ⟨key, decoder, hkey, hdecoder?, ?_⟩
      show ((decoderFor table (sourceOf f d)).run r).1 = _
      rw [show (decoderFor table (sourceOf f d)).run r = _ from hdecoder]

/-- The conversion of a field depends on the registrations only, so it is the one that was found. -/
theorem run_conversionOf_equipped (hsame : r.Undisturbed r')
    (h : ∀ requirement ∈ requirementsOf f d, Satisfied (lookups table plan) table r requirement) :
    ∃ x, (conversionOf (lookups table plan) f d).run r' = (.ok x, r') ∧
      (d.tryFrom.isSome = true → ∃ converter, x = some converter ∧
        r.converterFor table (sourceOf f d) f.fieldType = .ok (some converter)) ∧
      (d.tryFrom.isSome = false → x = none) := by
  unfold conversionOf
  cases htry : d.tryFrom.isSome with
  | false => exact ⟨none, rfl, fun h => absurd h Bool.false_ne_true, fun _ => rfl⟩
  | true =>
    have hsatisfied := h ⟨.convertible, [sourceOf f d, f.fieldType]⟩
      (by simp [requirementsOf, htry])
    have hfound : ((found (converterFor table (sourceOf f d) f.fieldType)).run r).1 = .ok true :=
      hsatisfied
    obtain ⟨converter, hconverter⟩ := run_found_true hfound
    rw [run_converterFor] at hconverter
    refine ⟨some converter, ?_, fun _ => ⟨converter, rfl, congrArg Prod.fst hconverter⟩,
      fun h => absurd h.symm Bool.false_ne_true⟩
    rw [if_pos rfl]
    show (converterFor table _ _).run r' = _
    rw [run_converterFor, hsame.converterFor]
    exact congrArg (·, r') (congrArg Prod.fst hconverter)

/-- The step of a field for which everything that it needs has been found. -/
theorem run_stepOf_equipped (hplan : ∀ v, Steady (plan v)) (schema : Schema)
    (container : ContainerDirectives) (owner : String)
    (h : Equipped (lookups table plan) table r f d)
    (hr : r' = asked (lookups table plan) table r (requirementsOf f d)) :
    ∃ s, (stepOf (lookups table plan) table schema container f d owner).run r' = (.ok s, r') ∧
      StepEquipped (lookups table plan) table r f d s := by
  have hreads : (reads (lookups table plan) table f d).run r = (.ok true, r') := by
    obtain ⟨first, rest, hlist, hfirst⟩ := requirementsOf_first (lookups table plan) table f d
    have hsatisfied := h.requirements first (hlist ▸ List.mem_cons_self ..)
    unfold Satisfied at hsatisfied
    rw [hfirst] at hsatisfied
    rcases hrun : (reads (lookups table plan) table f d).run r with ⟨e | x, r''⟩
    · rw [hrun] at hsatisfied
      cases hsatisfied
    · rw [hrun] at hsatisfied
      cases hsatisfied
      rw [hr, asked_eq hplan hrun]
  have hsame : r.Undisturbed r' := by
    have hleaves : r.Undisturbed ((reads (lookups table plan) table f d).run r).2 :=
      (steady_reads hplan).leaves r
    rwa [hreads] at hleaves
  have hgiven : d.default = true → f.declaredDefault.isSome = true ∨
      ∃ s, r'.defaultFor table f.fieldType = .ok (some s) := by
    rw [hsame.defaultFor]
    exact h.default
  obtain ⟨default, hdefault, hasks⟩ := run_replacementOf_equipped plan owner hgiven
  obtain ⟨strategy, hstrategy, hdirect, hflatten⟩ :=
    run_strategyOf_equipped hplan schema container hreads
  obtain ⟨converter, hconverter, hconverts, hplain⟩ :=
    run_conversionOf_equipped hsame h.requirements
  refine ⟨⟨f.name, f.ordinal, f.fieldType, sourceOf f d, default, converter, strategy⟩, ?_,
    ⟨hdirect, hflatten, hconverts, hplain, hasks⟩⟩
  unfold stepOf
  rw [Running.run_bind_of_ok hdefault, Running.run_bind_of_ok hconverter,
    Running.run_bind_of_ok hstrategy]
  rfl

/-! ## Fields in turn -/

variable {schema : Schema} {overrides : Overrides}

/-- A field compiles just if it is equipped. -/
theorem run_compileField_cases (hplan : ∀ v, Steady (plan v)) (container : ContainerDirectives)
    (hd : resolveField (rawDirectives overrides f) (ownerName schema f) = .ok d)
    (hsource : Hashable (sourceOf f d)) (htype : Hashable f.fieldType) (r : Registry) :
    (Equipped (lookups table plan) table r f d ∧
      ∃ s, (compileField (lookups table plan) table schema container overrides f).run r =
          (.ok (s, requirementsOf f d),
            asked (lookups table plan) table r (requirementsOf f d)) ∧
        StepEquipped (lookups table plan) table r f d s) ∨
    (¬Equipped (lookups table plan) table r f d ∧
      ∃ e, ((compileField (lookups table plan) table schema container overrides f).run r).1 =
          .error e ∧
        Lacks (lookups table plan) table r f d (ownerName schema f) e) := by
  have hlift : (lift (resolveField (rawDirectives overrides f) (ownerName schema f)) :
      Compile FieldDirectives).run r = (.ok d, r) := by
    rw [hd]
    rfl
  unfold compileField
  dsimp only
  rw [Running.run_bind_of_ok hlift]
  rcases run_requireAll hplan (ownerName schema f) (fun _ h => h) r with
    ⟨hall, hok⟩ | ⟨met, a, rest, e, hlist, hmet, herror, hlacks⟩
  · rw [Running.run_bind_of_ok hok]
    by_cases hdefault : d.default = true → f.declaredDefault.isSome = true ∨
        ∃ s, r.defaultFor table f.fieldType = .ok (some s)
    · have hequipped : Equipped (lookups table plan) table r f d := ⟨hall, hdefault⟩
      obtain ⟨s, hs, hstep⟩ :=
        run_stepOf_equipped hplan schema container (ownerName schema f) hequipped rfl
      refine Or.inl ⟨hequipped, s, ?_, hstep⟩
      rw [Running.run_bind_of_ok hs]
      rfl
    · refine Or.inr ⟨fun h => hdefault h.default, ?_⟩
      push Not at hdefault
      obtain ⟨hasks, hdeclared, hnone⟩ := hdefault
      have hdeclared : f.declaredDefault = none := by simpa using hdeclared
      obtain ⟨x, hx⟩ := defaultFor_ok table htype r
      have hmissing : r.defaultFor table f.fieldType = .ok none := by
        cases x with
        | none => exact hx
        | some s => exact absurd hx (hnone s)
      have hsame : r.Undisturbed (asked (lookups table plan) table r (requirementsOf f d)) :=
        asked_undisturbed hplan (fun _ h => h) r
      refine ⟨_, ?_, .default hall hasks hdeclared hmissing⟩
      unfold stepOf
      rw [Running.run_bind, Running.run_bind, run_replacementOf, if_pos hasks, hdeclared,
        hsame.defaultFor, hmissing]
  · have ha : a ∈ requirementsOf f d := by simp [hlist]
    refine Or.inr ⟨fun h => ?_, e, ?_, ?_⟩
    · have hsatisfied : ((satisfies (lookups table plan) table a).run r).1 = .ok true :=
        h.requirements a ha
      rcases hlacks with ⟨hfalse, -⟩ | herror
      · rw [hfalse] at hsatisfied
        cases hsatisfied
      · rw [herror] at hsatisfied
        cases hsatisfied
    · exact congrArg Prod.fst (Running.run_bind_of_error (Prod.ext herror rfl))
    · rcases hlacks with ⟨hfalse, rfl⟩ | herror
      · exact .capability hlist hmet hfalse
      · exact lacks_of_error ha hsource htype herror

/-- Fields compile in turn just if each of them is equipped in its turn. -/
theorem run_compileFields_cases (table : ClassTable) (hplan : ∀ v, Steady (plan v))
    (container : ContainerDirectives) {directives : FieldSchema → FieldDirectives}
    {fields : List FieldSchema}
    (hd : ∀ f ∈ fields,
      resolveField (rawDirectives overrides f) (ownerName schema f) = .ok (directives f))
    (hkeys : ∀ f ∈ fields, Hashable (sourceOf f (directives f)) ∧ Hashable f.fieldType)
    (r : Registry) :
    ((∀ x ∈ turns (lookups table plan) table directives r fields,
        Equipped (lookups table plan) table x.1 x.2 (directives x.2)) ∧
      ∃ compiled r',
        (fields.mapM (compileField (lookups table plan) table schema container overrides)).run r =
          (.ok compiled, r') ∧
        List.Forall₂
          (fun x c => StepEquipped (lookups table plan) table x.1 x.2 (directives x.2) c.1)
          (turns (lookups table plan) table directives r fields) compiled) ∨
    ∃ before x after e,
      turns (lookups table plan) table directives r fields = before ++ x :: after ∧
      (∀ y ∈ before, Equipped (lookups table plan) table y.1 y.2 (directives y.2)) ∧
      ¬Equipped (lookups table plan) table x.1 x.2 (directives x.2) ∧
      ((fields.mapM (compileField (lookups table plan) table schema container overrides)).run r).1 =
        .error e ∧
      Lacks (lookups table plan) table x.1 x.2 (directives x.2) (ownerName schema x.2) e := by
  induction fields generalizing r with
  | nil => exact Or.inl ⟨fun _ h => absurd h List.not_mem_nil, [], r, rfl, .nil⟩
  | cons f rest ih =>
    obtain ⟨hsource, htype⟩ := hkeys f (List.mem_cons_self ..)
    rw [List.mapM_cons]
    rcases run_compileField_cases hplan container (hd f (List.mem_cons_self ..))
      hsource htype r with ⟨hequipped, s, hs, hstep⟩ | ⟨hnot, e, he, hlacks⟩
    · rw [Running.run_bind_of_ok hs]
      rcases ih (fun g hg => hd g (List.mem_cons_of_mem _ hg))
        (fun g hg => hkeys g (List.mem_cons_of_mem _ hg)) _ with
        ⟨hall, compiled, r', hrun, hsteps⟩ |
        ⟨before, x, after, e, hturns, hbefore, hnot, he, hlacks⟩
      · refine Or.inl ⟨List.forall_mem_cons.mpr ⟨hequipped, hall⟩,
          (s, requirementsOf f (directives f)) :: compiled, r', ?_, .cons hstep hsteps⟩
        rw [Running.run_bind_of_ok hrun]
        rfl
      · refine Or.inr ⟨(r, f) :: before, x, after, e, congrArg _ hturns,
          List.forall_mem_cons.mpr ⟨hequipped, hbefore⟩, hnot, ?_, hlacks⟩
        exact congrArg Prod.fst (Running.run_bind_of_error (Prod.ext he rfl))
    · refine Or.inr ⟨[], (r, f), _, e, rfl, fun _ h => absurd h List.not_mem_nil, hnot, ?_, hlacks⟩
      exact congrArg Prod.fst (Running.run_bind_of_error (Prod.ext he rfl))

/-- The turns of fields are the fields in order, each in a registry with the same registrations. -/
theorem turns_spec (hplan : ∀ v, Steady (plan v)) (directives : FieldSchema → FieldDirectives) :
    ∀ (fields : List FieldSchema) (r : Registry),
      (turns (lookups table plan) table directives r fields).map (·.2) = fields ∧
      ∀ x ∈ turns (lookups table plan) table directives r fields,
        x.1.registrations = r.registrations := by
  intro fields
  induction fields with
  | nil => exact fun _ => ⟨rfl, fun _ h => absurd h List.not_mem_nil⟩
  | cons f rest ih =>
    intro r
    have hsame : r.Undisturbed
        (asked (lookups table plan) table r (requirementsOf f (directives f))) :=
      asked_undisturbed hplan (fun _ h => h) r
    obtain ⟨hfields, hregistrations⟩ :=
      ih (asked (lookups table plan) table r (requirementsOf f (directives f)))
    refine ⟨congrArg (f :: ·) hfields, List.forall_mem_cons.mpr ⟨rfl, fun x hx => ?_⟩⟩
    exact (hregistrations x hx).trans hsame.registrations

end

/-! ## Whole targets -/

/-- **What decides whether a target compiles.** Take a target with a schema, valid directives, and
fields whose types can be looked up, in any registry. It compiles just if each field in its turn is
equipped; then each step has what the registry answers for its field, a conversion just if another
type is read, and a default just if one is asked for. Otherwise what is raised is decided by the
first field that is not equipped. -/
theorem build_decides {table : ClassTable} {target : TypeExpr} {overrides : Overrides}
    {schema : Schema} {container : ContainerDirectives} {directives : FieldSchema → FieldDirectives}
    (hschema : introspect table target = .ok schema)
    (hcontainer : resolveContainer (overrides.onContainer schema.container) schema.name =
      .ok container)
    (hoverrides : checkOverrides schema overrides = .ok ())
    (hd : ∀ f ∈ schema.fields,
      resolveField (rawDirectives overrides f) (ownerName schema f) = .ok (directives f))
    (hkeys : ∀ f ∈ schema.fields, Hashable (sourceOf f (directives f)) ∧ Hashable f.fieldType)
    (r : Registry) :
    let outcome := ((build table target overrides).run r).1
    let inTurn := turns (answers table) table directives r schema.fields
    (inTurn.map (·.2) = schema.fields ∧ ∀ x ∈ inTurn, x.1.registrations = r.registrations) ∧
    ((∃ p, outcome = .ok p) ↔
      ∀ x ∈ inTurn, Equipped (answers table) table x.1 x.2 (directives x.2)) ∧
    (∀ p, outcome = .ok p → List.Forall₂
      (fun x s => StepEquipped (answers table) table x.1 x.2 (directives x.2) s) inTurn p.steps) ∧
    ∀ e, outcome = .error e → ∃ before x after, inTurn = before ++ x :: after ∧
      (∀ y ∈ before, Equipped (answers table) table y.1 y.2 (directives y.2)) ∧
      ¬Equipped (answers table) table x.1 x.2 (directives x.2) ∧
      Lacks (answers table) table x.1 x.2 (directives x.2) (ownerName schema x.2) e := by
  intro outcome inTurn
  refine ⟨turns_spec (steady_planFor table) directives schema.fields r, ?_⟩
  -- Up to the fields everything is given.
  have hrun : (build table target overrides).run r =
      (do
        let compiled ← schema.fields.mapM
          (compileField (lookups table (planFor table)) table schema container overrides)
        return planOf schema compiled (← nextMark) : Compile DecodePlan).run r := by
    unfold build buildWith
    rw [hschema]
    have hlift : ∀ {α : Type} (a : α), (lift (.ok a) : Compile α).run r = (.ok a, r) :=
      fun _ => rfl
    rw [Running.run_bind_of_ok (hlift schema), hcontainer, Running.run_bind_of_ok (hlift container),
      hoverrides, Running.run_bind_of_ok (hlift ())]
    rfl
  rcases run_compileFields_cases table (steady_planFor table) container hd hkeys r with
    ⟨hall, compiled, r', hfields, hsteps⟩ | ⟨before, x, after, e, hturns, hbefore, hnot, he, hlacks⟩
  · have hok : outcome = .ok (planOf schema compiled (r'.name, r'.compiled + 1)) := by
      show ((build table target overrides).run r).1 = _
      rw [hrun, Running.run_bind_of_ok hfields]
      rfl
    refine ⟨⟨fun _ => hall, fun _ => ⟨_, hok⟩⟩, fun p hp => ?_, fun e he => ?_⟩
    · rw [hok] at hp
      cases hp
      exact List.forall₂_map_right_iff.mpr hsteps
    · rw [hok] at he
      cases he
  · have herror : outcome = .error e := by
      show ((build table target overrides).run r).1 = _
      rw [hrun]
      exact congrArg Prod.fst (Running.run_bind_of_error (Prod.ext he rfl))
    refine ⟨⟨fun ⟨p, hp⟩ => ?_, fun hall => ?_⟩, fun p hp => ?_, fun e' he' => ?_⟩
    · rw [herror] at hp
      cases hp
    · exact absurd (hall x (by rw [show inTurn = _ from hturns]; simp)) hnot
    · rw [herror] at hp
      cases hp
    · rw [herror] at he'
      cases he'
      exact ⟨before, x, after, hturns, hbefore, hnot, hlacks⟩

end Compile

/-! ## A type that has no decoder and is not reported -/

namespace Unreported

/-- A class with a number, and a field that no value fits: its type is a choice between nothing. -/
def holder : ClassRef := ⟨"Holder", 1, .dataclass .none⟩

/-- The classes. -/
def classes : ClassTable :=
  let declarations : Run Unit :=
    Derive.declare (.dataclass "Holder" none
      [.given "n" (.builtin .int), .given "x" (.literal [])]) none
  (declarations.run (Session.create [])).2.classes

def registry : Registry :=
  Registry.create "main" .standard

/-- What is raised for `holder`. -/
def outcome : Except Failure DecodePlan :=
  ((Compile.build classes (.declared holder) Overrides.none).run registry).1

def schema : Schema :=
  (introspect classes (.declared holder)).toOption.getD default

/-- What is said about a field of `holder`. -/
def directives (f : FieldSchema) : FieldDirectives :=
  (resolveField (Compile.rawDirectives Overrides.none f)
    (Compile.ownerName schema f)).toOption.getD default

/-- Everything is given that `holder` is compiled from, nothing of it is flattened, and what is
raised is a failed assertion. -/
theorem checks :
    ((introspect classes (.declared holder)).isOk &&
      (resolveContainer (Overrides.none.onContainer schema.container) schema.name).isOk &&
      (Compile.checkOverrides schema Overrides.none).isOk &&
      (schema.fields.all fun f =>
        (resolveField (Compile.rawDirectives Overrides.none f) (Compile.ownerName schema f)).isOk &&
          !(directives f).flatten &&
          (Compile.sourceOf f (directives f)).unhashable?.isNone &&
          f.fieldType.unhashable?.isNone) &&
      (outcome matches .error (.fault ⟨.assertion, _⟩))) = true := by
  decide +kernel

theorem introspect_holder : introspect classes (.declared holder) = .ok schema := by
  have h := checks
  simp only [Bool.and_eq_true] at h
  exact Running.eq_ok_of_isOk h.1.1.1.1

/-- What is known of the fields of `holder`. -/
theorem field_checks : ∀ f ∈ schema.fields,
    resolveField (Compile.rawDirectives Overrides.none f) (Compile.ownerName schema f) =
      .ok (directives f) ∧
    (directives f).flatten = false ∧
    Compile.Hashable (Compile.sourceOf f (directives f)) ∧ Compile.Hashable f.fieldType := by
  have h := checks
  simp only [Bool.and_eq_true, List.all_eq_true, Option.isNone_iff_eq_none, Bool.not_eq_true'] at h
  intro f hf
  obtain ⟨⟨⟨hresolved, hflat⟩, hsource⟩, htype⟩ := h.1.2 f hf
  exact ⟨Running.eq_ok_of_isOk hresolved, hflat, Uncached.keyOf_ok.mpr ⟨hsource, rfl⟩,
    Uncached.keyOf_ok.mpr ⟨htype, rfl⟩⟩

theorem outcome_eq : ∃ g, outcome = .error (.fault g) ∧ g.kind = .assertion := by
  have h := checks
  simp only [Bool.and_eq_true] at h
  have hfault := h.2
  split at hfault
  next arguments hg => exact ⟨⟨.assertion, arguments⟩, hg, rfl⟩
  next => cases hfault

/-- `holder` is decided by its second field, which jams. -/
theorem build_decides_holder : ∃ g before x after, outcome = .error (.fault g) ∧
    Compile.turns (Compile.answers classes) classes directives registry schema.fields =
      before ++ x :: after ∧
    (∀ y ∈ before,
      Compile.Equipped (Compile.answers classes) classes y.1 y.2 (directives y.2)) ∧
    ¬Compile.Equipped (Compile.answers classes) classes x.1 x.2 (directives x.2) ∧
    Compile.Lacks (Compile.answers classes) classes x.1 x.2 (directives x.2)
      (Compile.ownerName schema x.2) (.fault g) := by
  have h := checks
  simp only [Bool.and_eq_true] at h
  obtain ⟨g, hg, -⟩ := outcome_eq
  obtain ⟨before, x, after, hfirst⟩ := (Compile.build_decides introspect_holder
    (Running.eq_ok_of_isOk h.1.1.1.2) (Running.eq_ok_of_isOk h.1.1.2)
    (fun f hf => (field_checks f hf).1) (fun f hf => (field_checks f hf).2.2) registry).2.2.2 _ hg
  exact ⟨g, before, x, after, hg, hfirst⟩

/-- `holder` does not compile, and neither a missing capability is reported, nor a missing default,
nor a nested class that does not compile: it has none. -/
theorem holder_unreported : ∃ e,
    ((Compile.build classes (.declared holder) Overrides.none).run registry).1 = .error e ∧
    (∀ owner requirement, e ≠ Compile.missingCapability owner requirement) ∧
    (∀ owner type, e ≠ .schema (.withoutDefault owner type) none) ∧
    ∀ t, ¬HasFlattened classes Overrides.none (.declared holder) t := by
  obtain ⟨g, hg, hkind⟩ := outcome_eq
  refine ⟨.fault g, hg, fun owner requirement h => ?_, (fun _ _ h => nomatch h), ?_⟩
  · unfold Compile.missingCapability at h
    split at h <;> cases h
    cases hkind
  rintro t ⟨schema', f, d, hschema, hf, hd, hflat, -⟩
  rw [introspect_holder] at hschema
  cases hschema
  obtain ⟨hresolved, hnot, -⟩ := field_checks f hf
  rw [hresolved] at hd
  cases hd
  rw [hnot] at hflat
  cases hflat

end Unreported

end RowDecoding
