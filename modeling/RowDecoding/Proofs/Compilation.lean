import RowDecoding.Proofs.Outcomes
import RowDecoding.Proofs.Running

/-!
# What compiling keeps

Compiling a target is one text for every monad. This file walks through that text once, for two
monads at a time: if every answer of the one's lookups is a possible answer of the other's, the
plans that the one compiles are possible plans of the other. What "possible" means is left to a
`Lifting`, a way of relating computations that sequencing keeps.

> `buildWith_related`: plans compiled by related lookups are related.

The lookups are only ever asked for the plan of a class that a field of the target flattens
(`Flattens`), which is what makes recursion over the flatten graph possible.

`buildWith_ok` reads a compiled plan as its schema: one step for each field, in order, and each step
made of the directives of its field and of what the lookups answered.
-/

namespace RowDecoding

/-! ## Relating computations -/

/-- A way of relating the computations of two monads that putting computations together keeps. -/
structure Lifting (m n : Type → Type) [Monad m] [MonadExceptOf Failure m] [Monad n]
    [MonadExceptOf Failure n] where
  Rel : {α : Type} → m α → n α → Prop
  pure : ∀ {α : Type} (a : α), Rel (pure a) (pure a)
  throw : ∀ {α : Type} (f : Failure), Rel (throw f : m α) (throw f)
  bind : ∀ {α β : Type} {x : m α} {y : n α} {k : α → m β} {l : α → n β},
    Rel x y → (∀ a, Rel (k a) (l a)) → Rel (x >>= k) (y >>= l)
  /-- After a lifted result, only its value matters. -/
  lift_bind : ∀ {α β : Type} {e : Except Failure α} {k : α → m β} {l : α → n β},
    (∀ a, e = .ok a → Rel (k a) (l a)) → Rel (Compile.lift e >>= k) (Compile.lift e >>= l)

namespace Lifting

variable {m n : Type → Type} [Monad m] [MonadExceptOf Failure m] [Monad n]
  [MonadExceptOf Failure n] (L : Lifting m n)

theorem mapM_loop {α β : Type} {f : α → m β} {g : α → n β} :
    ∀ (l : List α) (done : List β), (∀ a ∈ l, L.Rel (f a) (g a)) →
      L.Rel (List.mapM.loop f l done) (List.mapM.loop g l done) := by
  intro l
  induction l with
  | nil =>
    intro done _
    exact L.pure _
  | cons a l ih =>
    intro done hl
    refine L.bind (hl a (List.mem_cons_self ..)) fun b => ?_
    exact ih _ fun x hx => hl x (List.mem_cons_of_mem _ hx)

theorem mapM {α β : Type} {f : α → m β} {g : α → n β} {l : List α}
    (h : ∀ a ∈ l, L.Rel (f a) (g a)) : L.Rel (l.mapM f) (l.mapM g) :=
  L.mapM_loop l [] h

theorem forM {α : Type} {f : α → m PUnit} {g : α → n PUnit} :
    ∀ {l : List α}, (∀ a ∈ l, L.Rel (f a) (g a)) → L.Rel (l.forM f) (l.forM g) := by
  intro l
  induction l with
  | nil => intro _; exact L.pure _
  | cons a l ih =>
    intro h
    refine L.bind (h a (List.mem_cons_self ..)) fun _ => ?_
    exact ih fun x hx => h x (List.mem_cons_of_mem _ hx)

end Lifting

/-! ## Walking through a compilation -/

/-- A field of `target` is built from the whole row as a value of `t`. -/
def HasFlattened (table : ClassTable) (overrides : Overrides) (target t : TypeExpr) : Prop :=
  ∃ schema f directives,
    introspect table target = .ok schema ∧ f ∈ schema.fields ∧
    resolveField (Compile.rawDirectives overrides f) (Compile.ownerName schema f) =
      .ok directives ∧
    directives.flatten = true ∧ Compile.sourceOf f directives = t

/-- A field of `target` is built from the whole row by the plan of `t`. -/
def Flattens (table : ClassTable) (overrides : Overrides) (target t : TypeExpr) : Prop :=
  HasFlattened table overrides target t ∧ mappingOf table t = .byPlan

section

variable {m n : Type → Type} [Monad m] [MonadExceptOf Failure m] [Monad n]
  [MonadExceptOf Failure n]

/-- Lookups whose answers are related. Plans have to be related only for the types in `Asked`. -/
structure Lookups.Related (L : Lifting m n) (Asked : TypeExpr → Prop) (q : Lookups m)
    (q' : Lookups n) : Prop where
  decoder : ∀ t, L.Rel (q.decoder t) (q'.decoder t)
  converter : ∀ s t, L.Rel (q.converter s t) (q'.converter s t)
  default : ∀ t, L.Rel (q.default t) (q'.default t)
  plan : ∀ t, Asked t → L.Rel (q.plan t) (q'.plan t)
  mark : L.Rel q.mark q'.mark

namespace Compile

variable {L : Lifting m n} {Asked : TypeExpr → Prop} {q : Lookups m} {q' : Lookups n}
  {table : ClassTable} {schema : Schema} {container : ContainerDirectives} {overrides : Overrides}
  {f : FieldSchema} {directives : FieldDirectives} {owner : String}

theorem mapperFor_related (hq : q.Related L Asked q') {t : TypeExpr}
    (ht : mappingOf table t = .byPlan → Asked t) :
    L.Rel (mapperFor q table t) (mapperFor q' table t) := by
  unfold mapperFor
  cases hmap : mappingOf table t with
  | none => exact L.pure _
  | own mapper => exact L.pure _
  | byPlan => exact L.bind (hq.plan t (ht hmap)) fun p => L.pure _

/-- What a field asks the lookups for: the plan of its source, if it flattens that. -/
abbrev AsksOnly (Asked : TypeExpr → Prop) (table : ClassTable) (f : FieldSchema)
    (directives : FieldDirectives) : Prop :=
  directives.flatten = true → mappingOf table (sourceOf f directives) = .byPlan →
    Asked (sourceOf f directives)

theorem require_related (hq : q.Related L Asked q')
    (hasked : AsksOnly Asked table f directives) {requirement : Requirement}
    (hreq : requirement ∈ requirementsOf f directives) :
    L.Rel (require q table owner requirement) (require q' table owner requirement) := by
  have hsat : L.Rel (satisfies q table requirement) (satisfies q' table requirement) := by
    simp only [requirementsOf, List.mem_append] at hreq
    rcases hreq with hreq | hreq
    · split at hreq
      next hflat =>
        rw [List.mem_singleton] at hreq
        subst hreq
        exact L.bind (mapperFor_related hq (hasked hflat)) fun a => L.pure _
      next =>
        rcases List.mem_pair.mp hreq with rfl | rfl <;>
          exact L.bind (hq.decoder _) fun a => L.pure _
    · split at hreq
      · rw [List.mem_singleton] at hreq
        subst hreq
        exact L.bind (hq.converter _ _) fun a => L.pure _
      · cases hreq
  refine L.bind hsat fun satisfied => ?_
  cases satisfied with
  | true => exact L.pure _
  | false => exact L.throw _

theorem replacementOf_related (hq : q.Related L Asked q') :
    L.Rel (replacementOf q f directives owner) (replacementOf q' f directives owner) := by
  unfold replacementOf
  split
  · refine L.bind ?_ fun a => L.pure _
    unfold defaultOf
    split
    · exact L.pure _
    · refine L.bind (hq.default _) fun found => ?_
      cases found with
      | some s => exact L.pure s
      | none => exact L.throw _
  · exact L.pure _

theorem stepOf_related (hq : q.Related L Asked q') (hasked : AsksOnly Asked table f directives) :
    L.Rel (stepOf q table schema container f directives owner)
      (stepOf q' table schema container f directives owner) := by
  refine L.bind (replacementOf_related hq) fun default => ?_
  have hconversion : L.Rel (conversionOf q f directives) (conversionOf q' f directives) := by
    unfold conversionOf
    split
    · exact hq.converter _ _
    · exact L.pure _
  refine L.bind hconversion fun converter => ?_
  have hstrategy : L.Rel (strategyOf q table schema container f directives)
      (strategyOf q' table schema container f directives) := by
    unfold strategyOf
    split
    next hflat => exact L.bind (mapperFor_related hq (hasked hflat)) fun mapper => L.pure _
    next => exact L.bind (hq.decoder _) fun decoder => L.pure _
  exact L.bind hstrategy fun strategy => L.pure _

theorem compileField_related (hq : q.Related L Asked q')
    (hasked : ∀ directives,
      resolveField (rawDirectives overrides f) (ownerName schema f) = .ok directives →
      AsksOnly Asked table f directives) :
    L.Rel (compileField q table schema container overrides f)
      (compileField q' table schema container overrides f) := by
  refine L.lift_bind fun d hd => ?_
  refine L.bind (L.forM fun req hreq => require_related hq (hasked d hd) hreq) fun _ => ?_
  exact L.bind (stepOf_related hq (hasked d hd)) fun s => L.pure _

/-- **Compiling keeps what lookups have in common.** Lookups that answer alike, at least for the
classes that the target flattens, compile it alike. -/
theorem buildWith_related {target : TypeExpr} (hq : q.Related L Asked q')
    (hasked : ∀ t, Flattens table overrides target t → Asked t) :
    L.Rel (buildWith q table target overrides) (buildWith q' table target overrides) := by
  refine L.lift_bind fun schema hschema => ?_
  refine L.lift_bind fun container _ => ?_
  refine L.lift_bind fun _ _ => ?_
  have hfields : L.Rel (schema.fields.mapM (compileField q table schema container overrides))
      (schema.fields.mapM (compileField q' table schema container overrides)) :=
    L.mapM fun f hf => compileField_related hq fun d hd hflat hmap =>
      hasked _ ⟨⟨schema, f, d, hschema, hf, hd, hflat, rfl⟩, hmap⟩
  refine L.bind hfields fun compiled => ?_
  exact L.bind hq.mark fun mark => L.pure _

end Compile

end

/-! ## What a compiled plan is made of -/

namespace Compile

variable {q : Lookups Outcomes} {table : ClassTable} {schema : Schema}
  {container : ContainerDirectives} {overrides : Overrides} {f : FieldSchema}
  {directives : FieldDirectives} {owner : String}

/-- The step of a field has what replaces an absent column, the conversion and the strategy that its
directives lead to. -/
theorem stepOf_ok {s : DecodeStep} :
    stepOf q table schema container f directives owner (.ok s) ↔
      replacementOf q f directives owner (.ok s.default) ∧
      conversionOf q f directives (.ok s.converter) ∧
      strategyOf q table schema container f directives (.ok s.strategy) ∧
      s = ⟨f.name, f.ordinal, f.fieldType, sourceOf f directives, s.default, s.converter,
        s.strategy⟩ := by
  simp only [stepOf, Outcomes.bind_ok, Outcomes.pure_apply, Except.ok.injEq]
  constructor
  · rintro ⟨default, hd, converter, hc, strategy, hs, rfl⟩
    exact ⟨hd, hc, hs, rfl⟩
  · rintro ⟨hd, hc, hs, h⟩
    exact ⟨_, hd, _, hc, _, hs, h⟩

/-- How a step of a plan follows from its field. -/
def StepFrom (q : Lookups Outcomes) (table : ClassTable) (schema : Schema)
    (container : ContainerDirectives) (overrides : Overrides) (f : FieldSchema) (s : DecodeStep) :
    Prop :=
  ∃ directives,
    resolveField (rawDirectives overrides f) (ownerName schema f) = .ok directives ∧
    (∀ requirement ∈ requirementsOf f directives,
      require q table (ownerName schema f) requirement (.ok ⟨⟩)) ∧
    stepOf q table schema container f directives (ownerName schema f) (.ok s)

theorem compileField_ok {c : DecodeStep × List Requirement}
    (h : compileField q table schema container overrides f (.ok c)) :
    StepFrom q table schema container overrides f c.1 := by
  simp only [compileField, Outcomes.bind_ok, Outcomes.lift_apply, Outcomes.pure_apply] at h
  obtain ⟨directives, hd, ⟨⟩, hreq, step, hstep, hc⟩ := h
  cases hc
  exact ⟨directives, hd.symm, Outcomes.forM_ok.mp hreq, hstep⟩

/-- **A plan mirrors its schema.** It has one step for each field, in order, and every step follows
from the directives of its field and from what the lookups answered. -/
theorem buildWith_ok {target : TypeExpr} {p : DecodePlan}
    (h : buildWith q table target overrides (.ok p)) :
    ∃ schema container,
      introspect table target = .ok schema ∧ p.target = schema.target ∧
      p.addressing = schema.addressing ∧
      List.Forall₂ (StepFrom q table schema container overrides) schema.fields p.steps := by
  simp only [buildWith, Outcomes.bind_ok, Outcomes.lift_apply, Outcomes.pure_apply] at h
  obtain ⟨schema, hschema, container, -, -, -, compiled, hall, mark, -, hp⟩ := h
  cases hp
  refine ⟨schema, container, hschema.symm, rfl, rfl, ?_⟩
  refine List.forall₂_map_right_iff.mpr ?_
  exact (Outcomes.mapM_ok.mp hall).imp fun _ _ => compileField_ok

end Compile

/-! ## Compiling in a registry -/

/-- Computations in a registry with what they may come to. They keep an invariant `I` of the
registry and change it only along `P`. -/
def Lifting.inRegistry (I : Registry → Prop) (P : Registry → Registry → Prop)
    (refl : ∀ r, P r r) (trans : ∀ {r s t}, P r s → P s t → P r t) : Lifting Compile Outcomes where
  Rel m e := ∀ r, I r → I (m.run r).2 ∧ P r (m.run r).2 ∧ e (m.run r).1
  pure a r hr := ⟨hr, refl r, rfl⟩
  throw f r hr := ⟨hr, refl r, rfl⟩
  bind {α β x y k l} hx hk r hr := by
    obtain ⟨hs, hrs, hy⟩ := hx r hr
    rw [Running.run_bind]
    rcases hrun : x.run r with ⟨f | a, s⟩
    · rw [hrun] at hs hrs hy
      exact ⟨hs, hrs, Or.inr ⟨f, hy, rfl⟩⟩
    · rw [hrun] at hs hrs hy
      obtain ⟨ht, hst, hl⟩ := hk a s hs
      exact ⟨ht, trans hrs hst, Or.inl ⟨a, hy, hl⟩⟩
  lift_bind {α β e k l} hk r hr := by
    cases e with
    | error f => exact ⟨hr, refl r, Or.inr ⟨f, rfl, rfl⟩⟩
    | ok a =>
      obtain ⟨hs, hrs, hl⟩ := hk a rfl r hr
      exact ⟨hs, hrs, Or.inl ⟨a, rfl, hl⟩⟩

end RowDecoding
