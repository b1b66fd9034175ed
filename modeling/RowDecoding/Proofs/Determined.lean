import RowDecoding.Proofs.BuildFailures
import RowDecoding.Proofs.Parallel

/-!
# Answers that are determined

What a registry answers is one of the answers that its registrations lead to (`Uncached`), whatever
it has cached. These leave two things open: the number of a plan, and which of several equal types
was looked up first. For settled types the second one is no question (`Uncached.decoderFor_iff`). So
where all types that are read are settled, two registries with the same registrations, whatever was
asked of them before, give the same failure for a class, or plans that differ in their numbers only
(`DecodePlan.Alike`).

`Concur` relates two computations of which every outcome of the one is that of the other, up to a
relation of their values. As everywhere, it is proved for one way of putting computations together
after the other, then for fields, and for plans by induction on the fuel.

> `planFor_determined`, `build_determined`: two such registries answer the same.
-/

namespace RowDecoding

/-! ## Plans that differ in their numbers -/

/-- Mappers that are the same, or plans that differ in their numbers only, and in those of the plans
that they nest. -/
inductive RowMapper.Alike : RowMapper → RowMapper → Prop
  | refl (m : RowMapper) : Alike m m
  | plan {p q : DecodePlan} (target : p.target = q.target) (addressing : p.addressing = q.addressing)
    (requirements : p.requirements = q.requirements) (registry : p.registry = q.registry)
    (outline : p.outline = q.outline)
    (mappers : ∀ (i : Nat) (s s' : DecodeStep) (m m' : RowMapper), p.steps[i]? = some s →
      q.steps[i]? = some s' → s.strategy = .flatten (some m) → s'.strategy = .flatten (some m') →
      Alike m m') : Alike (.plan p) (.plan q)

/-- Plans that differ in their numbers only, and in those of the plans that they nest. -/
def DecodePlan.Alike (p q : DecodePlan) : Prop :=
  (RowMapper.plan p).Alike (.plan q)

/-- Steps that differ in such numbers only. -/
structure DecodeStep.Alike (s s' : DecodeStep) : Prop where
  outline : s.outline = s'.outline
  mappers : ∀ m m', s.strategy = .flatten (some m) → s'.strategy = .flatten (some m') → m.Alike m'

/-- What stands at the same place on both sides is related. -/
theorem Forall₂.of_getElem? {α β : Type} {R : α → β → Prop} {l : List α} {l' : List β}
    (h : List.Forall₂ R l l') {i : Nat} {a : α} {b : β} (ha : l[i]? = some a)
    (hb : l'[i]? = some b) : R a b := by
  induction h generalizing i with
  | nil => cases ha
  | cons hr _ ih =>
    cases i with
    | zero =>
      cases ha
      cases hb
      exact hr
    | succ i => exact ih ha hb

/-- Plans with steps alike are alike. -/
theorem DecodePlan.Alike.of_steps {p q : DecodePlan} (target : p.target = q.target)
    (addressing : p.addressing = q.addressing) (requirements : p.requirements = q.requirements)
    (registry : p.registry = q.registry) (steps : List.Forall₂ DecodeStep.Alike p.steps q.steps) :
    DecodePlan.Alike p q := by
  refine .plan target addressing requirements registry ?_ fun i s s' m m' hs hs' => ?_
  · have houtline : List.Forall₂ Eq (p.steps.map (·.outline)) (q.steps.map (·.outline)) :=
      List.forall₂_map_left_iff.mpr (List.forall₂_map_right_iff.mpr
        (steps.imp fun _ _ h => h.outline))
    rwa [List.forall₂_eq_eq_eq] at houtline
  · exact (Forall₂.of_getElem? steps hs hs').mappers m m'

/-! ## Computations that concur -/

/-- Results that are the same up to a relation of their values. -/
def SameUpTo {α β : Type} (R : α → β → Prop) : Except Failure α → Except Failure β → Prop
  | .ok a, .ok b => R a b
  | .error f, .error g => f = g
  | _, _ => False

namespace Outcomes

/-- Computations of which every outcome of the one is that of the other, up to a relation. -/
def Concur {α β : Type} (R : α → β → Prop) (m : Outcomes α) (m' : Outcomes β) : Prop :=
  ∀ x y, m x → m' y → SameUpTo R x y

namespace Concur

variable {α β γ δ : Type} {R : α → β → Prop} {S : γ → δ → Prop}

theorem pure {a : α} {b : β} (h : R a b) : Concur R (pure a) (pure b) := by
  intro x y hx hy
  cases hx
  cases hy
  exact h

theorem throw (f : Failure) : Concur R (throw f) (throw f) := by
  intro x y hx hy
  cases hx
  cases hy
  rfl

theorem lift (e : Except Failure α) : Concur Eq (Compile.lift e) (Compile.lift e) := by
  cases e with
  | error f => exact .throw f
  | ok a => exact .pure rfl

theorem bind {m : Outcomes α} {m' : Outcomes β} {k : α → Outcomes γ} {k' : β → Outcomes δ}
    (hm : Concur R m m') (hk : ∀ a b, R a b → Concur S (k a) (k' b)) :
    Concur S (m >>= k) (m' >>= k') := by
  intro x y hx hy
  rcases hx with ⟨a, ha, hx⟩ | ⟨f, hf, rfl⟩ <;> rcases hy with ⟨b, hb, hy⟩ | ⟨g, hg, rfl⟩
  · exact hk a b (hm _ _ ha hb) x y hx hy
  · exact (hm _ _ ha hg).elim
  · exact (hm _ _ hf hb).elim
  · exact hm _ _ hf hg

/-- After a lifted result, only its value matters. -/
theorem lift_bind {e : Except Failure α} {k : α → Outcomes γ} {k' : α → Outcomes δ}
    (hk : ∀ a, e = .ok a → Concur S (k a) (k' a)) :
    Concur S (Compile.lift e >>= k) (Compile.lift e >>= k') := by
  intro x y hx hy
  cases e with
  | error f =>
    rw [lift_error_bind] at hx hy
    subst hx
    subst hy
    rfl
  | ok a =>
    rw [lift_ok_bind] at hx hy
    exact hk a rfl x y hx hy

theorem mono {R' : α → β → Prop} {m : Outcomes α} {m' : Outcomes β} (h : Concur R m m')
    (hR : ∀ a b, R a b → R' a b) : Concur R' m m' := by
  intro x y hx hy
  have hsame := h x y hx hy
  cases x <;> cases y
  · exact hsame
  · exact hsame
  · exact hsame
  · exact hR _ _ hsame

theorem forM {ι : Type} {f : ι → Outcomes PUnit} {l : List ι}
    (h : ∀ i ∈ l, Concur Eq (f i) (f i)) : Concur Eq (l.forM f) (l.forM f) := by
  induction l with
  | nil => exact .pure rfl
  | cons i l ih =>
    refine (h i (List.mem_cons_self ..)).bind fun _ _ _ => ?_
    exact ih fun j hj => h j (List.mem_cons_of_mem _ hj)

theorem mapM {ι : Type} {f : ι → Outcomes α} {f' : ι → Outcomes β} {l : List ι}
    (h : ∀ i ∈ l, Concur R (f i) (f' i)) :
    Concur (List.Forall₂ R) (l.mapM f) (l.mapM f') := by
  have hloop : ∀ (l : List ι) (done : List α) (done' : List β), List.Forall₂ R done done' →
      (∀ i ∈ l, Concur R (f i) (f' i)) →
      Concur (List.Forall₂ R) (List.mapM.loop f l done) (List.mapM.loop f' l done') := by
    intro l
    induction l with
    | nil => exact fun done done' hdone _ => .pure (List.rel_reverse hdone)
    | cons i l ih =>
      intro done done' hdone hl
      refine (hl i (List.mem_cons_self ..)).bind fun a b hab => ?_
      exact ih _ _ (.cons hab hdone) fun j hj => hl j (List.mem_cons_of_mem _ hj)
  exact hloop l [] [] .nil h

end Concur

end Outcomes

/-! ## What a registry without caches answers -/

section

variable {r : Registry} {table : ClassTable} {t : TypeExpr}

theorem decoderFor_concurs (ht : t.Settled) :
    Outcomes.Concur Eq (Uncached.decoderFor r table t) (Uncached.decoderFor r table t) := by
  intro x y hx hy
  rw [(Uncached.decoderFor_iff ht).mp hx, (Uncached.decoderFor_iff ht).mp hy]
  cases r.decoderAfresh table t <;> rfl

end

/-! ## Fields -/

namespace Compile

section

variable {r : Registry} {table : ClassTable} {plan : TypeExpr → Outcomes DecodePlan}
  {schema : Schema} {container : ContainerDirectives} {overrides : Overrides} {f : FieldSchema}
  {d : FieldDirectives} {owner : String} {t : TypeExpr}

open Outcomes (Concur)

/-- The plans that a field needs are determined. -/
abbrev PlansConcur (plan : TypeExpr → Outcomes DecodePlan) (table : ClassTable) (f : FieldSchema)
    (d : FieldDirectives) : Prop :=
  d.flatten = true → mappingOf table (sourceOf f d) = .byPlan →
    Concur DecodePlan.Alike (plan (sourceOf f d)) (plan (sourceOf f d))

/-- What is read for a field from a column is settled. -/
abbrev SettledSource (f : FieldSchema) (d : FieldDirectives) : Prop :=
  d.flatten = false → (sourceOf f d).Settled

theorem mapperFor_concurs (hplan : mappingOf table t = .byPlan →
      Concur DecodePlan.Alike (plan t) (plan t)) :
    Concur (Option.Rel RowMapper.Alike) (mapperFor (Uncached.lookups r table plan) table t)
      (mapperFor (Uncached.lookups r table plan) table t) := by
  unfold mapperFor
  cases hmap : mappingOf table t with
  | none => exact .pure .none
  | own mapper => exact .pure (.some (.refl mapper))
  | byPlan => exact (hplan hmap).bind fun p q h => .pure (.some h)

/-- Whether something is found is determined, if what is found is up to a relation. -/
theorem found_concurs {α : Type} {R : α → α → Prop} {m : Outcomes (Option α)}
    (h : Concur (Option.Rel R) m m) :
    Concur Eq (do return (← m).isSome : Outcomes Bool) (do return (← m).isSome) := by
  refine h.bind fun a b hab => .pure ?_
  cases hab <;> rfl

theorem rel_of_eq {α : Type} {a b : Option α} (h : a = b) : Option.Rel Eq a b := by
  subst h
  cases a with
  | none => exact .none
  | some a => exact .some rfl

theorem satisfies_concurs (hplan : PlansConcur plan table f d) (hsource : SettledSource f d)
    {requirement : Requirement} (hmem : requirement ∈ requirementsOf f d) :
    Concur Eq (satisfies (Uncached.lookups r table plan) table requirement)
      (satisfies (Uncached.lookups r table plan) table requirement) := by
  simp only [requirementsOf, List.mem_append] at hmem
  rcases hmem with hmem | hmem
  · split at hmem
    next hflat =>
      obtain rfl := List.mem_singleton.mp hmem
      exact found_concurs (mapperFor_concurs (hplan hflat))
    next hflat =>
      have hdecoder : Concur (Option.Rel Eq) (Uncached.decoderFor r table (sourceOf f d))
          (Uncached.decoderFor r table (sourceOf f d)) :=
        (decoderFor_concurs (hsource (by simpa using hflat))).mono fun _ _ => rel_of_eq
      rcases List.mem_pair.mp hmem with rfl | rfl <;> exact found_concurs hdecoder
  · split at hmem
    · obtain rfl := List.mem_singleton.mp hmem
      exact found_concurs ((Concur.lift _).mono fun _ _ => rel_of_eq)
    · cases hmem

theorem require_concurs (hplan : PlansConcur plan table f d) (hsource : SettledSource f d)
    {requirement : Requirement} (hmem : requirement ∈ requirementsOf f d) :
    Concur Eq (require (Uncached.lookups r table plan) table owner requirement)
      (require (Uncached.lookups r table plan) table owner requirement) := by
  refine (satisfies_concurs hplan hsource hmem).bind fun a b hab => ?_
  subst hab
  cases a with
  | true => exact .pure rfl
  | false => exact .throw _

theorem replacementOf_concurs :
    Concur Eq (replacementOf (Uncached.lookups r table plan) f d owner)
      (replacementOf (Uncached.lookups r table plan) f d owner) := by
  unfold replacementOf
  split
  · refine Concur.bind (R := Eq) ?_ fun a b hab => .pure (congrArg some hab)
    unfold defaultOf
    cases f.declaredDefault with
    | some s => exact .pure rfl
    | none =>
      refine (Concur.lift _).bind fun a b hab => ?_
      subst hab
      cases a with
      | some s => exact .pure rfl
      | none => exact .throw _
  · exact .pure rfl

/-- Strategies that are the same, or whole-row mappers alike. -/
def StrategyAlike (a b : Strategy RowMapper) : Prop :=
  a.outline = b.outline ∧
    ∀ m m', a = .flatten (some m) → b = .flatten (some m') → RowMapper.Alike m m'

theorem strategyOf_concurs (hplan : PlansConcur plan table f d) (hsource : SettledSource f d) :
    Concur StrategyAlike (strategyOf (Uncached.lookups r table plan) table schema container f d)
      (strategyOf (Uncached.lookups r table plan) table schema container f d) := by
  unfold strategyOf
  split
  next hflat =>
    refine (mapperFor_concurs (hplan hflat)).bind fun a b hab => .pure ?_
    cases hab with
    | none => exact ⟨rfl, fun m m' h => nomatch h⟩
    | some h =>
      refine ⟨rfl, fun m m' ha hb => ?_⟩
      cases ha
      cases hb
      exact h
  next hflat =>
    refine (decoderFor_concurs (hsource (by simpa using hflat))).bind fun a b hab => .pure ?_
    subst hab
    refine ⟨rfl, fun m m' ha => ?_⟩
    unfold columnStrategy at ha
    dsimp only at ha
    split at ha
    · cases ha
    · split at ha <;> cases ha

theorem stepOf_concurs (hplan : PlansConcur plan table f d) (hsource : SettledSource f d) :
    Concur DecodeStep.Alike (stepOf (Uncached.lookups r table plan) table schema container f d owner)
      (stepOf (Uncached.lookups r table plan) table schema container f d owner) := by
  refine replacementOf_concurs.bind fun default default' hdefault => ?_
  subst hdefault
  have hconversion : Concur Eq (conversionOf (Uncached.lookups r table plan) f d)
      (conversionOf (Uncached.lookups r table plan) f d) := by
    unfold conversionOf
    split
    · exact .lift _
    · exact .pure rfl
  refine hconversion.bind fun converter converter' hconverter => ?_
  subst hconverter
  refine (strategyOf_concurs hplan hsource).bind fun a b hab => .pure ⟨?_, hab.2⟩
  unfold Step.outline
  rw [hab.1]

theorem compileField_concurs
    (hfield : ∀ d, resolveField (rawDirectives overrides f) (ownerName schema f) = .ok d →
      PlansConcur plan table f d ∧ SettledSource f d) :
    Concur (fun c c' => DecodeStep.Alike c.1 c'.1 ∧ c.2 = c'.2)
      (compileField (Uncached.lookups r table plan) table schema container overrides f)
      (compileField (Uncached.lookups r table plan) table schema container overrides f) := by
  refine Concur.lift_bind fun d hd => ?_
  obtain ⟨hplan, hsource⟩ := hfield d hd
  refine (Concur.forM fun _ hmem => require_concurs hplan hsource hmem).bind fun _ _ _ => ?_
  exact (stepOf_concurs hplan hsource).bind fun s s' h => .pure ⟨h, rfl⟩

/-- Plans compiled from a schema are alike if the compiled fields are. -/
theorem planOf_alike {compiled compiled' : List (DecodeStep × List Requirement)}
    {mark mark' : String × Nat}
    (h : List.Forall₂ (fun c c' => DecodeStep.Alike c.1 c'.1 ∧ c.2 = c'.2) compiled compiled')
    (hmark : mark.1 = mark'.1) :
    DecodePlan.Alike (planOf schema compiled mark) (planOf schema compiled' mark') := by
  have hrequirements : compiled.map (·.2) = compiled'.map (·.2) := by
    have hall : List.Forall₂ Eq (compiled.map (·.2)) (compiled'.map (·.2)) :=
      List.forall₂_map_left_iff.mpr (List.forall₂_map_right_iff.mpr (h.imp fun _ _ h => h.2))
    rwa [List.forall₂_eq_eq_eq] at hall
  refine .of_steps rfl rfl ?_ hmark ?_
  · show Requirement.distinct _ = Requirement.distinct _
    rw [List.flatMap_def, List.flatMap_def, hrequirements]
  · exact List.forall₂_map_left_iff.mpr (List.forall₂_map_right_iff.mpr (h.imp fun _ _ h => h.1))

/-- A target is compiled in one way, if the classes that it flattens are and what is read for its
fields is settled. -/
theorem buildWith_concurs
    (hplan : ∀ v, Flattens table overrides t v → Concur DecodePlan.Alike (plan v) (plan v))
    (htypes : ∀ f d, HasField table overrides t f d → SettledSource f d) :
    Concur DecodePlan.Alike (buildWith (Uncached.lookups r table plan) table t overrides)
      (buildWith (Uncached.lookups r table plan) table t overrides) := by
  refine Concur.lift_bind fun schema hschema => ?_
  refine Concur.lift_bind fun container _ => ?_
  refine Concur.lift_bind fun _ _ => ?_
  refine (Concur.mapM fun f hf => compileField_concurs fun d hd => ⟨fun hflat hmap => ?_,
    htypes f d ⟨schema, hschema, hf, hd⟩⟩).bind fun compiled compiled' hcompiled => ?_
  · exact hplan _ ⟨⟨schema, f, d, hschema, hf, hd, hflat, rfl⟩, hmap⟩
  · have hmark : Concur (fun mark mark' : String × Nat => mark.1 = mark'.1)
        (Uncached.lookups r table plan).mark (Uncached.lookups r table plan).mark := by
      rintro _ _ ⟨number, rfl⟩ ⟨number', rfl⟩
      exact rfl
    exact hmark.bind fun mark mark' h => .pure (planOf_alike hcompiled h)

end

end Compile

/-! ## Classes -/

/-- What is read for the fields that compiling a target comes to is settled. -/
def SettledFields (table : ClassTable) (overrides : Overrides) (t : TypeExpr) : Prop :=
  ∀ f d, Compile.Meets table overrides t f d → Compile.SettledSource f d

section

variable {u r r' : Registry} {table : ClassTable} {overrides : Overrides} {c : ClassRef}

open Outcomes (Concur)

/-- A class is compiled in one way. The induction is on the fuel. -/
theorem planWithin_concurs : ∀ (fuel : Nat) (building : List Key) (c : ClassRef),
    SettledFields table Overrides.none (.declared c) →
    Concur DecodePlan.Alike (Uncached.planWithin u table fuel building (.declared c))
      (Uncached.planWithin u table fuel building (.declared c)) := by
  intro fuel
  induction fuel with
  | zero => exact fun building c _ => .throw _
  | succ fuel ih =>
    intro building c hsettled x y hx hy
    have hstep : Concur DecodePlan.Alike
        (Uncached.compile u table (Uncached.planWithin u table fuel) building (.declared c))
        (Uncached.compile u table (Uncached.planWithin u table fuel) building (.declared c)) := by
      refine Concur.lift_bind fun key _ => ?_
      split
      · exact .throw _
      · refine Compile.buildWith_concurs (fun v hv => ?_) fun f d hf => hsettled f d (.own hf)
        obtain ⟨e, rfl, -⟩ := hv.known
        exact ih _ e fun f d hf => hsettled f d (.nested hv hf)
    exact hstep x y (Uncached.compile_of_declared hx) (Uncached.compile_of_declared hy)

/-- **Plans are determined by registrations.** Registries with the same registrations, whatever was
asked of them before, give the same failure for a class, or plans alike. -/
theorem planFor_determined (hsettled : SettledFields table Overrides.none (.declared c))
    (hr : Cached u table [] r) (hr' : Cached u table [] r') :
    SameUpTo DecodePlan.Alike ((Compile.planFor table (.declared c)).run r).1
      ((Compile.planFor table (.declared c)).run r').1 :=
  planWithin_concurs _ [] c hsettled _ _ (planFor_answers r hr).2.2 (planFor_answers r' hr').2.2

/-- The same holds for a target that is compiled with directives from outside. -/
theorem build_determined {t : TypeExpr} (hsettled : SettledFields table overrides t)
    (hr : Cached u table [] r) (hr' : Cached u table [] r') :
    SameUpTo DecodePlan.Alike ((Compile.build table t overrides).run r).1
      ((Compile.build table t overrides).run r').1 := by
  refine Compile.buildWith_concurs (fun v hv => ?_) (fun f d hf => hsettled f d (.own hf)) _ _
    (build_answers r hr).2.2 (build_answers r' hr').2.2
  obtain ⟨e, rfl, -⟩ := hv.known
  exact planWithin_concurs _ [] e fun f d hf => hsettled f d (.nested hv hf)

end

end RowDecoding
