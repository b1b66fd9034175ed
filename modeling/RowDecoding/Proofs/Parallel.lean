import RowDecoding.Proofs.Silence
import RowDecoding.Proofs.Steadiness

/-!
# Compiling beside other plans

Whether a target compiles depends on which targets have a plan already, not on what these plans say;
and it depends on whether what a class says about its fields is sound, not on what it says. So a
compilation is followed through a registry that keeps other plans of the same targets
(`Registry.Parallel`), among classes that say other sound things: where the one succeeds, the other
one does (`Follows`).

> `planWithin_follows`: a class that gets a plan gets one there as well.

What a plan reads of a row itself (`Step.outline`) does not depend on the plans that it nests.
-/

namespace RowDecoding

/-! ## Outlines -/

section

variable {M : Type}

/-- A strategy without what maps whole rows. -/
def Strategy.outline : Strategy M → Strategy Unit
  | .byName column decoder => .byName column decoder
  | .byIndex index decoder => .byIndex index decoder
  | .thenConvert key decoder => .thenConvert key decoder
  | .flatten mapper => .flatten (mapper.map fun _ => ())
  | .unknown => .unknown

/-- A step without what maps whole rows: the column that it reads, if it reads a single one, and all
that it does with it. -/
def Step.outline (s : Step M) : Step Unit :=
  { s with strategy := s.strategy.outline }

/-- What a plan reads of a row, in turn. -/
def Plan.outline (p : Plan M) : List (Step Unit) :=
  p.steps.map (·.outline)

end

/-! ## Registries with other plans -/

/-- A registry that keeps other plans, of the same targets. -/
def Registry.Parallel (r r' : Registry) : Prop :=
  ∃ plans : List (Key × DecodePlan), r' = { r with plans } ∧
    ∀ key, (plans.lookup key).isSome = (r.plans.lookup key).isSome

namespace Registry

theorem Parallel.refl (r : Registry) : r.Parallel r :=
  ⟨r.plans, rfl, fun _ => rfl⟩

theorem Parallel.entering {r r' : Registry} (h : r.Parallel r') (key : Key) :
    Parallel { r with building := key :: r.building }
      { r' with building := key :: r'.building } := by
  obtain ⟨plans, rfl, hplans⟩ := h
  exact ⟨plans, rfl, hplans⟩

theorem Parallel.leaving {r r' : Registry} (h : r.Parallel r') (key : Key) :
    Parallel { r with building := r.building.filter (· != key) }
      { r' with building := r'.building.filter (· != key) } := by
  obtain ⟨plans, rfl, hplans⟩ := h
  exact ⟨plans, rfl, hplans⟩

theorem Parallel.putPlan {r r' : Registry} (h : r.Parallel r') (key : Key) (p p' : DecodePlan) :
    Parallel { r with plans := (key, p) :: r.plans }
      { r' with plans := (key, p') :: r'.plans } := by
  obtain ⟨plans, rfl, hplans⟩ := h
  refine ⟨(key, p') :: plans, rfl, fun k => ?_⟩
  rw [List.lookup_cons, List.lookup_cons]
  cases k == key with
  | true => rfl
  | false => exact hplans k

theorem sparesDecoders_plans (plans : List (Key × DecodePlan)) :
    SparesDecoders fun r => { r with plans } :=
  ⟨fun _ => rfl, fun _ => rfl, fun _ => rfl, fun _ _ _ => rfl⟩

/-- Resolving a decoder leaves the plans as they are. -/
theorem decoderFor_plans (r : Registry) (table : ClassTable) (t : TypeExpr) :
    (r.decoderFor table t).2.plans = r.plans := by
  have hsame := (sparesDecoders_plans r.plans).decoderFor r table t
  exact congrArg (·.2.plans) hsame

end Registry

/-! ## Computations that follow others -/

namespace Compile

theorem lift_ok_bind {α β : Type} (a : α) (k : α → Compile β) : (lift (.ok a) >>= k) = k a :=
  rfl

/-- Where the first computation succeeds, the second one does in a registry with other plans, and
their results are related. -/
def Follows {α β : Type} (R : α → β → Prop) (m : Compile α) (m' : Compile β) : Prop :=
  ∀ r r' : Registry, r.Parallel r' → ∀ a s, m.run r = (.ok a, s) →
    ∃ b s', m'.run r' = (.ok b, s') ∧ R a b ∧ s.Parallel s'

namespace Follows

variable {α β γ δ : Type} {R : α → β → Prop} {S : γ → δ → Prop}

theorem pure {a : α} {b : β} (h : R a b) : Follows R (pure a : Compile α) (pure b) := by
  intro r r' hr a' s hrun
  cases hrun
  exact ⟨b, r', rfl, h, hr⟩

theorem throw (f : Failure) (m' : Compile β) : Follows R (throw f : Compile α) m' := by
  intro r r' hr a s hrun
  cases hrun

theorem bind {m : Compile α} {m' : Compile β} {k : α → Compile γ} {k' : β → Compile δ}
    (hm : Follows R m m') (hk : ∀ a b, R a b → Follows S (k a) (k' b)) :
    Follows S (m >>= k) (m' >>= k') := by
  intro r r' hr c s h
  obtain ⟨a, s₁, hrun, hrest⟩ := Running.run_bind_eq_ok.mp h
  obtain ⟨b, s₁', hrun', hab, hs⟩ := hm r r' hr a s₁ hrun
  rw [Running.run_bind_of_ok hrun']
  exact hk a b hab s₁ s₁' hs c s hrest

theorem mono {R' : α → β → Prop} {m : Compile α} {m' : Compile β} (h : Follows R m m')
    (hR : ∀ a b, R a b → R' a b) : Follows R' m m' := by
  intro r r' hr a s hrun
  obtain ⟨b, s', hrun', hab, hs⟩ := h r r' hr a s hrun
  exact ⟨b, s', hrun', hR a b hab, hs⟩

theorem lift (e : Except Failure α) : Follows Eq (Compile.lift e) (Compile.lift e) := by
  cases e with
  | error f => exact .throw f _
  | ok a => exact .pure rfl

theorem mapM {ι : Type} {f : ι → Compile α} {f' : ι → Compile β} {l : List ι}
    (h : ∀ i ∈ l, Follows R (f i) (f' i)) :
    Follows (List.Forall₂ R) (l.mapM f) (l.mapM f') := by
  induction l with
  | nil => exact .pure .nil
  | cons i l ih =>
    rw [List.mapM_cons, List.mapM_cons]
    refine (h i (List.mem_cons_self ..)).bind fun a b hab => ?_
    refine (ih fun j hj => h j (List.mem_cons_of_mem _ hj)).bind fun as bs habs => ?_
    exact .pure (.cons hab habs)

theorem forM {ι : Type} {f f' : ι → Compile PUnit} {l : List ι}
    (h : ∀ i ∈ l, Follows Eq (f i) (f' i)) : Follows Eq (l.forM f) (l.forM f') := by
  induction l with
  | nil => exact .pure rfl
  | cons i l ih =>
    refine (h i (List.mem_cons_self ..)).bind fun _ _ _ => ?_
    exact ih fun j hj => h j (List.mem_cons_of_mem _ hj)

/-- An answer from the registrations. -/
theorem answer {m : Compile α} {answer : Registry → Except Failure α}
    (hrun : ∀ r, m.run r = (answer r, r))
    (hsame : ∀ (r : Registry) plans, answer { r with plans } = answer r) : Follows Eq m m := by
  rintro r _ ⟨plans, rfl, hplans⟩ a s h
  rw [hrun] at h ⊢
  obtain ⟨ha, rfl⟩ := Prod.mk.inj h
  exact ⟨a, _, by rw [hsame, ha], rfl, plans, rfl, hplans⟩

end Follows

section

variable {table table' : ClassTable} {plan plan' : TypeExpr → Compile DecodePlan}

theorem decoderFor_follows (table : ClassTable) (t : TypeExpr) :
    Follows Eq (decoderFor table t) (decoderFor table t) := by
  rintro r _ ⟨plans, rfl, hplans⟩ d s h
  have hother := (Registry.sparesDecoders_plans plans).decoderFor r table t
  have hkept := r.decoderFor_plans table t
  rw [run_decoderFor] at h ⊢
  rw [h] at hother hkept
  exact ⟨d, _, hother, rfl, plans, rfl, fun key => by rw [hkept]; exact hplans key⟩

theorem converterFor_follows (table : ClassTable) (s t : TypeExpr) :
    Follows Eq (converterFor table s t) (converterFor table s t) :=
  .answer (run_converterFor table s t) fun _ _ => rfl

theorem defaultFor_follows (table : ClassTable) (t : TypeExpr) :
    Follows Eq (defaultFor table t) (defaultFor table t) :=
  .answer (run_defaultFor table t) fun _ _ => rfl

theorem nextMark_follows : Follows Eq nextMark nextMark := by
  rintro r _ ⟨plans, rfl, hplans⟩ mark s h
  cases h
  exact ⟨_, _, rfl, rfl, plans, rfl, hplans⟩

/-! ## Fields -/

variable (hplan : ∀ v, Follows (fun _ _ => True) (plan v) (plan' v))

section

include hplan

theorem mapperFor_follows (t : TypeExpr) : Follows (fun a b => b.isSome = a.isSome)
    (mapperFor (lookups table plan) table t) (mapperFor (lookups table plan') table t) := by
  unfold mapperFor
  cases mappingOf table t with
  | none => exact .pure rfl
  | own mapper => exact .pure rfl
  | byPlan => exact (hplan t).bind fun _ _ _ => .pure rfl

theorem satisfies_follows (requirement : Requirement) : Follows Eq
    (satisfies (lookups table plan) table requirement)
    (satisfies (lookups table plan') table requirement) := by
  unfold satisfies
  split
  · exact (decoderFor_follows table _).bind fun _ _ h => .pure (by rw [h])
  · exact (decoderFor_follows table _).bind fun _ _ h => .pure (by rw [h])
  · exact (mapperFor_follows hplan _).bind fun _ _ h => .pure h.symm
  · exact (converterFor_follows table _ _).bind fun _ _ h => .pure (by rw [h])
  · exact .throw _ _

theorem require_follows (owner : String) (requirement : Requirement) : Follows Eq
    (require (lookups table plan) table owner requirement)
    (require (lookups table plan') table owner requirement) := by
  refine (satisfies_follows hplan requirement).bind ?_
  rintro satisfied _ rfl
  cases satisfied with
  | true => exact .pure rfl
  | false => exact .throw _ _

theorem strategyOf_follows (schema : Schema) (container container' : ContainerDirectives)
    (f : FieldSchema) (d : FieldDirectives) :
    Follows (fun a b => container' = container → b.outline = a.outline)
      (strategyOf (lookups table plan) table schema container f d)
      (strategyOf (lookups table plan') table schema container' f d) := by
  unfold strategyOf
  split
  · refine (mapperFor_follows hplan _).bind fun a b hab => .pure fun _ => ?_
    cases a <;> cases b <;> first | rfl | cases hab
  · refine (decoderFor_follows table _).bind fun a b hab => .pure fun hcontainer => ?_
    rw [hcontainer, hab]

end

theorem replacementOf_follows (f : FieldSchema) (d : FieldDirectives) (owner : String) :
    Follows Eq (replacementOf (lookups table plan) f d owner)
      (replacementOf (lookups table plan') f d owner) := by
  have hdefault : Follows Eq (defaultOf (lookups table plan) f owner)
      (defaultOf (lookups table plan') f owner) := by
    unfold defaultOf
    cases f.declaredDefault with
    | some s => exact .pure rfl
    | none =>
      refine (defaultFor_follows table _).bind ?_
      rintro found _ rfl
      cases found with
      | some s => exact .pure rfl
      | none => exact .throw _ _
  unfold replacementOf
  split
  · exact hdefault.bind fun _ _ h => .pure (by rw [h])
  · exact .pure rfl

theorem conversionOf_follows (f : FieldSchema) (d : FieldDirectives) :
    Follows Eq (conversionOf (lookups table plan) f d)
      (conversionOf (lookups table plan') f d) := by
  unfold conversionOf
  split
  · exact converterFor_follows table _ _
  · exact .pure rfl

include hplan

/-- A field compiles as it does beside other plans, and with the same directives for all fields it
reads the same of a row. -/
theorem compileField_follows (schema : Schema) (container container' : ContainerDirectives)
    (overrides : Overrides) (f : FieldSchema) :
    Follows (fun a b => container' = container → b.1.outline = a.1.outline)
      (compileField (lookups table plan) table schema container overrides f)
      (compileField (lookups table plan') table schema container' overrides f) := by
  refine (Follows.lift _).bind ?_
  rintro d _ rfl
  refine (Follows.forM fun _ _ => require_follows hplan _ _).bind fun _ _ _ => ?_
  refine Follows.bind (R := fun a b => container' = container → b.outline = a.outline) ?_
    fun _ _ h => .pure h
  refine (replacementOf_follows f d _).bind ?_
  rintro default _ rfl
  refine (conversionOf_follows f d).bind ?_
  rintro converter _ rfl
  refine (strategyOf_follows hplan schema container container' f d).bind fun a b h => ?_
  refine .pure fun hcontainer => ?_
  unfold Step.outline
  rw [h hcontainer]

/-! ## Targets -/

/-- A target compiles as it does beside other plans and with other directives for all fields. -/
theorem buildWith_follows (hsilent : table'.silent = table.silent) {t : TypeExpr}
    (overrides overrides' : Overrides) (hfields : overrides'.fields = overrides.fields)
    {schema : Schema} {said : Entries} {container container' : ContainerDirectives}
    (hschema : introspect table t = .ok schema)
    (hschema' : introspect table' t = .ok { schema with container := said })
    (hcontainer : resolveContainer (overrides.onContainer schema.container) schema.name =
      .ok container)
    (hcontainer' : resolveContainer (overrides'.onContainer said) schema.name = .ok container') :
    Follows (fun p p' => container' = container → p'.outline = p.outline)
      (buildWith (lookups table plan) table t overrides)
      (buildWith (lookups table' plan') table' t overrides') := by
  have hcheck : checkOverrides { schema with container := said } overrides' =
      checkOverrides schema overrides := by
    unfold checkOverrides
    rw [hfields]
    rfl
  have hresolved : resolveContainer (overrides'.onContainer said)
      ({ schema with container := said } : Schema).name = .ok container' := hcontainer'
  have hcompile : compileField (lookups table plan') table { schema with container := said }
      container' overrides' = compileField (lookups table plan') table schema container'
        overrides := by
    unfold compileField rawDirectives
    rw [hfields]
    rfl
  unfold buildWith
  rw [compileField_congr hsilent, lookups_congr hsilent, hschema, hschema',
    lift_ok_bind, lift_ok_bind, hcontainer, lift_ok_bind]
  dsimp only
  rw [hresolved, lift_ok_bind, hcheck, hcompile]
  refine (Follows.lift _).bind fun _ _ _ => ?_
  refine (Follows.mapM fun f _ => compileField_follows hplan schema container container' overrides
    f).bind fun compiled compiled' hsteps => ?_
  refine nextMark_follows.bind fun _ _ _ => .pure fun hsame => ?_
  unfold Plan.outline planOf
  dsimp only
  rw [List.map_map, List.map_map, eq_comm, ← List.forall₂_eq_eq_eq, List.forall₂_map_left_iff,
    List.forall₂_map_right_iff]
  exact hsteps.imp fun _ _ h => (h hsame).symm

end

/-- A target that compiles has a schema and says something sound about its fields. -/
theorem said_of_build {q : Lookups Compile} {t : TypeExpr} {overrides : Overrides}
    {r r' : Registry} {p : DecodePlan}
    (built : (buildWith q table t overrides).run r = (.ok p, r')) :
    ∃ schema container, introspect table t = .ok schema ∧
      resolveContainer (overrides.onContainer schema.container) schema.name = .ok container := by
  have hpossible := buildWith_possible built
  simp only [buildWith, Outcomes.bind_ok, Outcomes.lift_apply] at hpossible
  obtain ⟨schema, hschema, container, hcontainer, -⟩ := hpossible
  exact ⟨schema, container, hschema.symm, hcontainer.symm⟩

theorem whileBuilding_follows {α β : Type} {R : α → β → Prop} {m : Compile α} {m' : Compile β}
    (hm : Follows R m m') (key : Key) :
    Follows R (whileBuilding key m) (whileBuilding key m') := by
  intro r r' hr a s h
  rw [run_whileBuilding] at h ⊢
  obtain ⟨hrun, rfl⟩ := Prod.mk.inj h
  obtain ⟨b, s', hrun', hab, hs⟩ := hm _ _ (hr.entering key) a _ (Prod.ext hrun rfl)
  rw [hrun']
  exact ⟨b, _, rfl, hab, hs.leaving key⟩

/-- Where a target has a schema and says something sound about its fields, it has the same schema
among other classes, and says something sound there too. -/
def SaysSound (table table' : ClassTable) : Prop :=
  ∀ t schema container, introspect table t = .ok schema →
    resolveContainer schema.container schema.name = .ok container →
    ∃ said container', introspect table' t = .ok { schema with container := said } ∧
      resolveContainer said schema.name = .ok container'

theorem SaysSound.refl (table : ClassTable) : SaysSound table table :=
  fun _ schema container h hcontainer => ⟨schema.container, container, h, hcontainer⟩

/-- A target that gets a plan gets one beside other plans, and among classes that say other things
about their fields. The induction is on the levels. -/
theorem planWithin_follows {table table' : ClassTable} (hsilent : table'.silent = table.silent)
    (hsound : SaysSound table table') : ∀ (n : Nat) (t : TypeExpr),
    Follows (fun _ _ => True) (planWithin table n t) (planWithin table' n t) := by
  intro n
  induction n with
  | zero => exact fun _ => .throw _ _
  | succ n ih =>
    intro t
    have hbuild : Follows (fun _ _ => True)
        (buildWith (lookups table (planWithin table n)) table t Overrides.none)
        (buildWith (lookups table' (planWithin table' n)) table' t Overrides.none) := by
      intro r r' hr p s built
      obtain ⟨schema, container, hschema, hcontainer⟩ := said_of_build built
      obtain ⟨said, container', hschema', hcontainer'⟩ :=
        hsound t schema container hschema hcontainer
      have hfollows := buildWith_follows ih hsilent Overrides.none Overrides.none rfl hschema
        hschema' hcontainer hcontainer'
      exact hfollows.mono (fun _ _ _ => trivial) r r' hr p s built
    intro r r' hr p s h
    have hr' := hr
    obtain ⟨plans, rfl, hplans⟩ := hr
    rw [run_planWithin] at h ⊢
    cases hkeyOf : Registry.keyOf t with
    | error f =>
      rw [hkeyOf] at h
      cases h
    | ok key =>
      rw [hkeyOf] at h
      dsimp only at h ⊢
      have hkey := hplans key
      cases hkept : r.plans.lookup key with
      | some kept =>
        rw [hkept] at h hkey
        obtain ⟨kept', hkept'⟩ := Option.isSome_iff_exists.mp hkey
        rw [hkept']
        cases h
        exact ⟨kept', _, rfl, trivial, hr'⟩
      | none =>
        rw [hkept] at h hkey
        rw [Option.isNone_iff_eq_none.mp (Option.isSome_eq_false_iff.mp hkey)]
        dsimp only at h ⊢
        split at h
        next => cases h
        next hfresh =>
          rcases hrun : (whileBuilding key (buildWith (lookups table (planWithin table n)) table t
            Overrides.none)).run r with ⟨f | q, s₁⟩
          · rw [hrun] at h
            cases h
          · rw [hrun] at h
            cases h
            obtain ⟨q', s₁', hrun', -, hs⟩ := whileBuilding_follows hbuild key r _ hr' p s₁ hrun
            rw [if_neg hfresh, hrun']
            exact ⟨q', _, rfl, trivial, hs.putPlan key p q'⟩

end Compile

end RowDecoding
