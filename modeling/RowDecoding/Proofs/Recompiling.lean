import RowDecoding.Proofs.Parallel

/-!
# Compiling the same fields again

A registry remembers the decoders that it resolved and the plans that it compiled, until something
is registered. So a field that was compiled once is compiled to the same step later on, and then the
registry learns nothing from it (`compileField_again`). It may stand at another place by then, among
other fields: all that its step owes to its place is the ordinal, and the key where positions are
the keys (`Step.at`).

> `Compiles.again`: a target of the same fields in another order compiles later on in the registry,
> and each step is the one of the field, at its new place.
-/

namespace RowDecoding

/-! ## What lasts -/

namespace Registry

/-- What was resolved in a registry is resolved so in a later one. -/
def KeepsResolved (r r' : Registry) : Prop :=
  ∀ key d, r.resolved.lookup key = some d → r'.resolved.lookup key = some d

/-- A registry and a later one with the same registrations, which remembers what the former one
resolved and compiled. -/
structure Lasts (r r' : Registry) : Prop where
  registrations : r'.registrations = r.registrations
  resolved : r.KeepsResolved r'
  plans : KeepsPlans r r'

variable {r r' r'' : Registry} {table : ClassTable}

theorem KeepsResolved.refl (r : Registry) : r.KeepsResolved r :=
  fun _ _ h => h

theorem KeepsResolved.trans (h : r.KeepsResolved r') (h' : r'.KeepsResolved r'') :
    r.KeepsResolved r'' :=
  fun key d hd => h' key d (h key d hd)

theorem Lasts.refl (r : Registry) : r.Lasts r :=
  ⟨rfl, .refl r, fun _ _ h => h⟩

theorem Lasts.trans (h : r.Lasts r') (h' : r'.Lasts r'') : r.Lasts r'' where
  registrations := h'.registrations.trans h.registrations
  resolved := h.resolved.trans h'.resolved
  plans key p hp := h'.plans key p (h.plans key p hp)

/-- Remembering a type changes nothing for the others. -/
theorem remembering_other {t : TypeExpr} {x : Except Failure (Option Transform)} {key : Key}
    (hkey : key ≠ t.key) :
    (r.remembering t x).2.resolved.lookup key = r.resolved.lookup key := by
  cases x with
  | error f => rfl
  | ok d =>
    show List.lookup key ((t.key, d) :: r.resolved) = _
    rw [List.lookup_cons, beq_eq_false_iff_ne.mpr hkey]

theorem remembering_keepsResolved {t : TypeExpr} (hnew : r.resolved.lookup t.key = none)
    (x : Except Failure (Option Transform)) : r.KeepsResolved (r.remembering t x).2 := by
  intro key d hd
  rw [remembering_other (fun hkey => by rw [hkey, hnew] at hd; cases hd), hd]

theorem decoderFor_keepsResolved (r : Registry) (table : ClassTable) (t : TypeExpr) :
    r.KeepsResolved (r.decoderFor table t).2 := by
  have hdirect : ∀ inner, r.KeepsResolved (r.directDecoder table inner).2 := by
    intro inner
    unfold directDecoder
    split
    · exact .refl r
    next hnew => exact remembering_keepsResolved hnew _
  unfold decoderFor
  split
  · exact .refl r
  next key hkey =>
    obtain ⟨-, rfl⟩ := Uncached.keyOf_ok.mp hkey
    split
    · exact .refl r
    next hnew =>
      split
      next inner _ _ =>
        -- The rest of the union may be new as well, but what was resolved is neither of the two.
        intro k d hd
        have hother : k ≠ t.key := fun h => by rw [h, hnew] at hd; cases hd
        exact (remembering_other hother).trans (hdirect inner k d hd)
      next => exact remembering_keepsResolved hnew _

end Registry

section

variable {table : ClassTable}

/-- What a registry answers leaves what it resolved, if its plans do. -/
theorem lookups_keepsResolved {plan : TypeExpr → Compile DecodePlan}
    (hplan : ∀ v (r : Registry), r.KeepsResolved ((plan v).run r).2) :
    (Compile.lookups table plan).Related (Lifting.inRegistry (fun _ => True)
      Registry.KeepsResolved .refl .trans) (fun _ => True) Lookups.unknown where
  decoder t r _ := by
    refine ⟨trivial, ?_, trivial⟩
    show r.KeepsResolved ((Compile.decoderFor table t).run r).2
    rw [run_decoderFor]
    exact r.decoderFor_keepsResolved table t
  converter s t r _ := by
    refine ⟨trivial, ?_, trivial⟩
    show r.KeepsResolved ((Compile.converterFor table s t).run r).2
    rw [run_converterFor]
    exact .refl r
  default t r _ := by
    refine ⟨trivial, ?_, trivial⟩
    show r.KeepsResolved ((Compile.defaultFor table t).run r).2
    rw [run_defaultFor]
    exact .refl r
  plan v _ r _ := ⟨trivial, hplan v r, trivial⟩
  mark r _ := ⟨trivial, .refl r, trivial⟩

/-- Compiling a target leaves what was resolved, if the plans nested in it do. -/
theorem buildWith_keepsResolved {plan : TypeExpr → Compile DecodePlan}
    (hplan : ∀ v (r : Registry), r.KeepsResolved ((plan v).run r).2) (t : TypeExpr)
    (overrides : Overrides) (r : Registry) :
    r.KeepsResolved
      ((Compile.buildWith (Compile.lookups table plan) table t overrides).run r).2 :=
  (Compile.buildWith_related (lookups_keepsResolved hplan) (fun _ _ => trivial) r trivial).2.1

/-- The induction is on the levels. -/
theorem planWithin_keepsResolved (table : ClassTable) : ∀ (n : Nat) (t : TypeExpr) (r : Registry),
    r.KeepsResolved ((Compile.planWithin table n t).run r).2 := by
  intro n
  induction n with
  | zero => exact fun _ r => .refl r
  | succ n ih =>
    intro t r
    rw [run_planWithin]
    cases Registry.keyOf t with
    | error f => exact .refl r
    | ok key =>
      dsimp only
      split
      · exact .refl r
      · split
        · exact .refl r
        · rw [run_whileBuilding]
          have hbuilt : r.KeepsResolved ((Compile.buildWith
              (Compile.lookups table (Compile.planWithin table n)) table t Overrides.none).run
                { r with building := key :: r.building }).2 :=
            buildWith_keepsResolved ih t Overrides.none { r with building := key :: r.building }
          rcases hrun : (Compile.buildWith (Compile.lookups table (Compile.planWithin table n)) table
            t Overrides.none).run { r with building := key :: r.building } with ⟨_ | p, r'⟩
          · rw [hrun] at hbuilt
            exact hbuilt
          · rw [hrun] at hbuilt
            exact hbuilt

theorem planWithin_lasts (table : ClassTable) (n : Nat) (t : TypeExpr) (r : Registry) :
    r.Lasts ((Compile.planWithin table n t).run r).2 := by
  have h := planWithin_undisturbed table n t r
  exact ⟨h.registrations, planWithin_keepsResolved table n t r, h.kept⟩

end

/-! ## Answers that are given again -/

/-- Computations of which the second one gives later on what the first one gave, and learns nothing
from it. -/
def Lifting.recalling : Lifting Compile Compile where
  Rel m m' := ∀ r : Registry, r.Lasts (m.run r).2 ∧
    ∀ a s, m.run r = (.ok a, s) → ∀ r', s.Lasts r' → m'.run r' = (.ok a, r')
  pure a r := by
    refine ⟨.refl r, fun b s h r' _ => ?_⟩
    cases h
    rfl
  throw f r := ⟨.refl r, fun _ _ h => nomatch h⟩
  bind {α β x y k l} hx hk r := by
    obtain ⟨hleft, hagain⟩ := hx r
    rw [Running.run_bind]
    rcases hrun : x.run r with ⟨f | a, s⟩
    · rw [hrun] at hleft
      exact ⟨hleft, fun _ _ h => nomatch h⟩
    · rw [hrun] at hleft
      obtain ⟨hnext, hthen⟩ := hk a s
      refine ⟨hleft.trans hnext, fun b t h r' hr' => ?_⟩
      have hlater : s.Lasts r' := by
        have hnext' := hnext
        rw [show (k a).run s = _ from h] at hnext'
        exact hnext'.trans hr'
      rw [Running.run_bind_of_ok (hagain a s hrun r' hlater)]
      exact hthen b t h r' hr'
  lift_bind {α β e k l} hk r := by
    cases e with
    | error f => exact ⟨.refl r, fun _ _ h => nomatch h⟩
    | ok a => exact hk a rfl r

/-- Lookups that number no plan. -/
def Lookups.unnumbered (q : Lookups Compile) : Lookups Compile :=
  { q with mark := throw Compile.tooDeep }

section

variable {table : ClassTable}

/-- An answer from the registrations. -/
theorem answer_recalled {α : Type} {m : Compile α} {answer : Registry → Except Failure α}
    (hrun : ∀ r, m.run r = (answer r, r))
    (hsame : ∀ r r' : Registry, r'.registrations = r.registrations → answer r' = answer r) :
    Lifting.recalling.Rel m m := by
  intro r
  rw [hrun]
  refine ⟨.refl r, fun a s h r' hr' => ?_⟩
  obtain ⟨ha, rfl⟩ := Prod.mk.inj h
  rw [hrun, hsame r r' hr'.registrations, ha]

theorem decoderFor_recalled (t : TypeExpr) :
    Lifting.recalling.Rel (Compile.decoderFor table t) (Compile.decoderFor table t) := by
  intro r
  have hleaves := (steady_decoderFor table t).leaves r
  rw [run_decoderFor] at hleaves ⊢
  refine ⟨⟨hleaves.registrations, r.decoderFor_keepsResolved table t, hleaves.kept⟩,
    fun d s h r' hr' => ?_⟩
  obtain ⟨hkey, hd⟩ := Registry.decoderFor_ok h
  rw [run_decoderFor]
  unfold Registry.decoderFor
  rw [hkey]
  dsimp only
  rw [hr'.resolved _ _ hd]

/-- A plan that was compiled is kept. -/
theorem planWithin_recalled (n m : Nat) (t : TypeExpr) :
    Lifting.recalling.Rel (Compile.planWithin table n t) (Compile.planWithin table (m + 1) t) := by
  intro r
  refine ⟨planWithin_lasts table n t r, fun p s h r' hr' => ?_⟩
  cases n with
  | zero => cases h
  | succ n =>
    obtain ⟨key, hkey, hkept⟩ := planWithin_kept h
    rw [run_planWithin, hkey]
    dsimp only
    rw [hr'.plans _ _ hkept]

theorem lookups_recalled (table : ClassTable) (n m : Nat) :
    (Compile.lookups table (Compile.planWithin table n)).unnumbered.Related Lifting.recalling
      (fun _ => True) (Compile.lookups table (Compile.planWithin table (m + 1))).unnumbered where
  decoder := decoderFor_recalled
  converter s t := answer_recalled (run_converterFor table s t) fun r r' h => by
    show r'.registrations.converterFor table s t = r.registrations.converterFor table s t
    rw [h]
  default t := answer_recalled (run_defaultFor table t) fun r r' h => by
    show r'.registrations.defaultFor table t = r.registrations.defaultFor table t
    rw [h]
  plan t _ := planWithin_recalled n m t
  mark := Lifting.recalling.throw _

/-- A field that was compiled once is compiled to the same step again. -/
theorem compileField_recalled (table : ClassTable) (n m : Nat) (schema : Schema)
    (container : ContainerDirectives) (overrides : Overrides) (f : FieldSchema) :
    Lifting.recalling.Rel
      (Compile.compileField (Compile.lookups table (Compile.planWithin table n)) table schema
        container overrides f)
      (Compile.compileField (Compile.lookups table (Compile.planWithin table (m + 1))) table schema
        container overrides f) := by
  -- No field asks for the number of the plan, so that the registry may number it differently.
  have hfield : Lifting.recalling.Rel
      (Compile.compileField (Compile.lookups table (Compile.planWithin table n)).unnumbered table
        schema container overrides f)
      (Compile.compileField (Compile.lookups table (Compile.planWithin table (m + 1))).unnumbered
        table schema container overrides f) :=
    Compile.compileField_related (lookups_recalled table n m) fun _ _ _ _ => trivial
  exact hfield

/-- What each element of a list came to it comes to again, once all of them have. -/
theorem recalled_of_mapM {ι α β : Type} {k : α → Compile β} {k' : ι → α → Compile β}
    (h : ∀ i a, Lifting.recalling.Rel (k a) (k' i a)) (i : ι) {l : List α} {r s : Registry}
    {bs : List β} (hrun : (l.mapM k).run r = (.ok bs, s)) {r' : Registry} (hr' : s.Lasts r') :
    List.Forall₂ (fun a b => ∀ i, (k' i a).run r' = (.ok b, r')) l bs := by
  induction l generalizing r bs with
  | nil =>
    cases hrun
    exact .nil
  | cons a l ih =>
    obtain ⟨b, bs', s₁, ha, hrest, rfl⟩ := Running.run_mapM_cons_eq_ok.mp hrun
    have hlasts := (Lifting.recalling.mapM (l := l) fun a _ => h i a) s₁
    rw [hrest] at hlasts
    exact .cons (fun i => (h i a r).2 b s₁ ha r' (hlasts.1.trans hr')) (ih hrest)

end

/-! ## Fields at other places -/

/-- A strategy at a place among the fields, which is the key of the column where fields are addressed
by position. -/
def Strategy.placed {M : Type} (addressing : Addressing) (place : Nat) (s : Strategy M) :
    Strategy M :=
  match addressing, s with
  | .byPosition, .byName _ d => .byName (.int place) d
  | .byPosition, .byIndex _ d => .byIndex (.int place) d
  | .byPosition, .thenConvert _ d => .thenConvert (.int place) d
  | _, s => s

/-- A step at a place among the steps. -/
def Step.placed {M : Type} (addressing : Addressing) (place : Nat) (s : Step M) : Step M :=
  { s with ordinal := place, strategy := s.strategy.placed addressing place }

/-- What takes the whole row takes it at every place. -/
theorem Strategy.placed_flatten {M : Type} (addressing : Addressing) (place : Nat)
    (mapper : Option M) : (flatten mapper).placed addressing place = flatten mapper := by
  cases addressing <;> rfl

/-- What is done with the column is the same at every place. -/
theorem Strategy.placed_decoder? {M : Type} (addressing : Addressing) (place : Nat)
    (s : Strategy M) : (s.placed addressing place).decoder? = s.decoder? := by
  cases s <;> cases addressing <;> rfl

theorem Strategy.placed_key?_isSome {M : Type} (addressing : Addressing) (place : Nat)
    (s : Strategy M) : (s.placed addressing place).key?.isSome = s.key?.isSome := by
  cases s <;> cases addressing <;> rfl

/-- Where positions are the keys, what reads a column reads the one at its place. -/
theorem Strategy.placed_key?_of_isSome {M : Type} {place : Nat} {s : Strategy M}
    (h : s.key?.isSome = true) : (s.placed .byPosition place).key? = some (.int place) := by
  cases s with
  | flatten | unknown => cases h
  | byName | byIndex | thenConvert => rfl

/-- Only the last place counts. -/
theorem Step.placed_placed {M : Type} (addressing : Addressing) (place place' : Nat) (s : Step M) :
    (s.placed addressing place).placed addressing place' = s.placed addressing place' := by
  unfold Step.placed Strategy.placed
  cases s.strategy <;> cases addressing <;> rfl

/-- A field at a place among the fields. -/
def FieldSchema.placed (place : Nat) (f : FieldSchema) : FieldSchema :=
  { f with ordinal := place }

/-- Fields that differ in their place only. -/
theorem FieldSchema.eq_placed {f f' : FieldSchema} (h : f.placed 0 = f'.placed 0) :
    f' = f.placed f'.ordinal := by
  cases f
  cases f'
  cases h
  rfl

/-- Directives that are sound are sound whoever they belong to. -/
theorem resolveField_owner {raw : Attributes} {owner : String} (owner' : String)
    {d : FieldDirectives} (h : resolveField raw owner = .ok d) : resolveField raw owner' = .ok d := by
  unfold resolveField at h ⊢
  dsimp only at h ⊢
  split at h
  · split at h
    · cases h
    next hcolumn =>
      rw [if_neg hcolumn]
      exact h
  · cases h

theorem resolveContainer_owner {raw : Entries} {owner : String} (owner' : String)
    {d : ContainerDirectives} (h : resolveContainer raw owner = .ok d) :
    resolveContainer raw owner' = .ok d := by
  unfold resolveContainer at h ⊢
  dsimp only at h ⊢
  split at h
  · exact h
  · cases h

namespace Compile

/-- Where the first computation succeeds, the second one does, with a result that follows from the
one of the first. -/
def Carries {α β : Type} (g : α → β) (m : Compile α) (m' : Compile β) : Prop :=
  ∀ r a s, m.run r = (.ok a, s) → m'.run r = (.ok (g a), s)

namespace Carries

variable {α β γ δ : Type} {g : α → β}

theorem refl (m : Compile α) : Carries id m m :=
  fun _ _ _ h => h

theorem pure (g : α → β) (a : α) : Carries g (pure a) (pure (g a)) := by
  intro r b s h
  cases h
  rfl

theorem throw (f : Failure) (m : Compile β) : Carries g (throw f) m := by
  intro r a s h
  cases h

theorem bind {m : Compile α} {m' : Compile β} {k : α → Compile γ} {k' : β → Compile δ} {g' : γ → δ}
    (hm : Carries g m m') (hk : ∀ a, Carries g' (k a) (k' (g a))) :
    Carries g' (m >>= k) (m' >>= k') := by
  intro r c s h
  obtain ⟨a, t, hrun, hrest⟩ := Running.run_bind_eq_ok.mp h
  rw [Running.run_bind_of_ok (hm r a t hrun)]
  exact hk a t c s hrest

theorem lift {e e' : Except Failure α} (h : ∀ a, e = .ok a → e' = .ok a) :
    Carries id (lift e : Compile α) (Compile.lift e') := by
  cases e with
  | error f => exact .throw f _
  | ok a =>
    rw [h a rfl]
    exact .refl _

theorem forM {ι : Type} {k k' : ι → Compile PUnit} {l : List ι} (h : ∀ i ∈ l, Carries id (k i) (k' i)) :
    Carries id (l.forM k) (l.forM k') := by
  induction l with
  | nil => exact .refl _
  | cons i l ih =>
    refine (h i (List.mem_cons_self ..)).bind fun _ => ?_
    exact ih fun j hj => h j (List.mem_cons_of_mem _ hj)

end Carries

variable {q : Lookups Compile} {table : ClassTable} {schema schema' : Schema}
  {container : ContainerDirectives} {f : FieldSchema} {d : FieldDirectives}

theorem require_carries (owner owner' : String) (requirement : Requirement) :
    Carries id (require q table owner requirement) (require q table owner' requirement) := by
  refine (Carries.refl _).bind fun satisfied => ?_
  cases satisfied with
  | true => exact .refl _
  | false => exact .throw _ _

theorem replacementOf_carries (owner owner' : String) (place : Nat) :
    Carries id (replacementOf q f d owner) (replacementOf q (f.placed place) d owner') := by
  unfold replacementOf
  split
  · refine Carries.bind (g := id) ?_ fun _ => .refl _
    unfold defaultOf
    dsimp only [FieldSchema.placed]
    cases f.declaredDefault with
    | some s => exact .refl _
    | none =>
      refine (Carries.refl _).bind fun found => ?_
      cases found with
      | some s => exact .refl _
      | none => exact .throw _ _
  · exact .refl _

theorem columnStrategy_placed (h : schema'.addressing = schema.addressing) (place : Nat)
    (decoder : Option Transform) :
    columnStrategy schema' container (f.placed place) d decoder =
      (columnStrategy schema container f d decoder).placed schema.addressing place := by
  unfold columnStrategy keyOf
  rw [h]
  cases schema.addressing <;> cases d.tryFrom <;> rfl

theorem strategyOf_carries (h : schema'.addressing = schema.addressing) (place : Nat) :
    Carries (Strategy.placed schema.addressing place) (strategyOf q table schema container f d)
      (strategyOf q table schema' container (f.placed place) d) := by
  unfold strategyOf
  split
  · refine (Carries.refl _).bind fun mapper => ?_
    have hplaced := Carries.pure (Strategy.placed schema.addressing place) (.flatten mapper)
    rwa [Strategy.placed_flatten] at hplaced
  · refine (Carries.refl _).bind fun decoder => ?_
    rw [id, columnStrategy_placed h]
    exact .pure _ _

/-- A field is compiled to the same step at another place, in a schema that is addressed alike. -/
theorem compileField_carries (h : schema'.addressing = schema.addressing) (overrides : Overrides)
    (place : Nat) :
    Carries (fun c => (c.1.placed schema.addressing place, c.2))
      (compileField q table schema container overrides f)
      (compileField q table schema' container overrides (f.placed place)) := by
  refine (Carries.lift fun _ => resolveField_owner _).bind fun d => ?_
  refine (Carries.forM fun _ _ => require_carries _ _ _).bind fun _ => ?_
  refine Carries.bind (g := Step.placed schema.addressing place) ?_ fun _ => .pure _ _
  refine (replacementOf_carries _ _ place).bind fun default => ?_
  refine (Carries.refl _).bind fun converter => ?_
  exact (strategyOf_carries h place).bind fun strategy => .pure _ _

/-! ## Targets of the same fields -/

/-- What compiling a target that compiles goes through. -/
theorem run_buildWith_iff {t : TypeExpr} {overrides : Overrides} {r s : Registry} {p : DecodePlan} :
    (buildWith q table t overrides).run r = (.ok p, s) ↔
      ∃ schema container compiled mark s₁, introspect table t = .ok schema ∧
        resolveContainer (overrides.onContainer schema.container) schema.name = .ok container ∧
        checkOverrides schema overrides = .ok () ∧
        (schema.fields.mapM (compileField q table schema container overrides)).run r =
          (.ok compiled, s₁) ∧
        q.mark.run s₁ = (.ok mark, s) ∧ p = planOf schema compiled mark := by
  unfold buildWith
  constructor
  · intro h
    cases hschema : introspect table t with
    | error f => rw [hschema] at h; cases h
    | ok schema =>
    rw [hschema, lift_ok_bind] at h
    cases hcontainer :
      resolveContainer (overrides.onContainer schema.container) schema.name with
    | error f => rw [hcontainer] at h; cases h
    | ok container =>
    rw [hcontainer, lift_ok_bind] at h
    cases hcheck : checkOverrides schema overrides with
    | error f => rw [hcheck] at h; cases h
    | ok _ =>
    rw [hcheck, lift_ok_bind] at h
    obtain ⟨compiled, s₁, hfields, h⟩ := Running.run_bind_eq_ok.mp h
    obtain ⟨mark, s₂, hmark, h⟩ := Running.run_bind_eq_ok.mp h
    cases h
    exact ⟨schema, container, compiled, mark, s₁, rfl, hcontainer, hcheck, hfields, hmark, rfl⟩
  · rintro ⟨schema, container, compiled, mark, s₁, hschema, hcontainer, hcheck, hfields, hmark, rfl⟩
    rw [hschema, lift_ok_bind, hcontainer, lift_ok_bind, hcheck, lift_ok_bind,
      Running.run_bind_of_ok hfields, Running.run_bind_of_ok hmark]
    rfl

/-- Directives from outside that are for fields of a schema are for those of another one with the
same names. -/
theorem checkOverrides_congr {overrides : Overrides}
    (hnames : ∀ name, schema'.fields.any (·.name == some name) =
      schema.fields.any (·.name == some name)) (h : checkOverrides schema overrides = .ok ()) :
    checkOverrides schema' overrides = .ok () := by
  unfold checkOverrides at h ⊢
  simp only [hnames]
  dsimp only at h
  split at h
  next hnone => rw [if_pos hnone]
  next => cases h

/-- What a computation gives in a registry, if it succeeds. -/
def resultIn {α : Type} [Inhabited α] (r : Registry) (m : Compile α) : α :=
  (m.run r).1.toOption.getD default

theorem resultIn_of_ok {α : Type} [Inhabited α] {r s : Registry} {m : Compile α} {a : α}
    (h : m.run r = (.ok a, s)) : resultIn r m = a := by
  unfold resultIn
  rw [h]
  rfl

/-- A list whose elements come to something without any change of the registry. -/
theorem run_mapM_of_forall₂ {α β : Type} {k : α → Compile β} {r : Registry} {l : List α}
    {bs : List β} (h : List.Forall₂ (fun a b => (k a).run r = (.ok b, r)) l bs) :
    (l.mapM k).run r = (.ok bs, r) := by
  induction h with
  | nil => rfl
  | cons ha _ ih =>
    rw [List.mapM_cons, Running.run_bind_of_ok ha, Running.run_bind_of_ok ih]
    rfl

end Compile

/-- A registry compiles a target, for a builder with directives from outside or for the plans that it
keeps. The two differ in how many levels are left for the plans that are nested. -/
def Compiles (table : ClassTable) (target : TypeExpr) (overrides : Overrides) (r : Registry)
    (p : DecodePlan) (s : Registry) : Prop :=
  ∃ n, (Compile.buildWith (Compile.lookups table (Compile.planWithin table (n + 1))) table target
    overrides).run r = (.ok p, s)

/-- A plan has the steps of the fields of a schema, each at the place of its field. -/
structure Plan.Places (p : DecodePlan) (schema : Schema) (step : FieldSchema → DecodeStep) :
    Prop where
  target : p.target = schema.target
  addressing : p.addressing = schema.addressing
  steps : p.steps =
    schema.fields.map fun f => (step (f.placed 0)).placed schema.addressing f.ordinal

section

variable {table : ClassTable} {t t' : TypeExpr} {overrides : Overrides} {r s : Registry}
  {p : DecodePlan}

/-- **What was compiled compiles again.** Later on, as long as nothing is registered, a registry
compiles the target to the same plan but for its number, and learns nothing from it. -/
theorem compiles_recalled {n : Nat}
    (h : (Compile.buildWith (Compile.lookups table (Compile.planWithin table n)) table t
      overrides).run r = (.ok p, s)) {r' : Registry} (hlasts : s.Lasts r') :
    Compiles table t overrides r' { p with serial := r'.compiled + 1 }
      { r' with compiled := r'.compiled + 1 } := by
  obtain ⟨schema, container, compiled, mark, s₁, hschema, hcontainer, hcheck, hfields, hmark, rfl⟩ :=
    Compile.run_buildWith_iff.mp h
  cases hmark
  have hlater : s₁.Lasts r' := ⟨hlasts.registrations, hlasts.resolved, hlasts.plans⟩
  have hagain := recalled_of_mapM
    (fun m f => compileField_recalled table n m schema container overrides f) 0 hfields hlater
  have hname : r'.name = s₁.name := congrArg (·.name) hlater.registrations
  refine ⟨0, Compile.run_buildWith_iff.mpr ⟨schema, container, compiled, _, r', hschema, hcontainer,
    hcheck, Compile.run_mapM_of_forall₂ (hagain.imp fun _ _ hf => hf 0), rfl, ?_⟩⟩
  rw [hname]
  rfl

/-- What was compiled for each field of a target at some place, it is compiled to later on at every
place, in every schema that is addressed alike. -/
theorem Compiles.fields {schema : Schema} (hschema : introspect table t = .ok schema)
    (h : Compiles table t overrides r p s) {r' : Registry} (hlasts : s.Lasts r') :
    ∃ container, resolveContainer (overrides.onContainer schema.container) schema.name =
        .ok container ∧ Compile.checkOverrides schema overrides = .ok () ∧
      p.target = schema.target ∧ p.addressing = schema.addressing ∧
      ∃ step : FieldSchema → DecodeStep, List.Forall₂ (fun f s =>
          s = (step (f.placed 0)).placed schema.addressing f.ordinal ∧ ∃ requirements,
            ∀ m place (schema' : Schema), schema'.addressing = schema.addressing →
              (Compile.compileField (Compile.lookups table (Compile.planWithin table (m + 1))) table
                schema' container overrides (f.placed place)).run r' =
                  (.ok ((step (f.placed 0)).placed schema.addressing place, requirements), r'))
        schema.fields p.steps := by
  obtain ⟨n, hrun⟩ := h
  obtain ⟨schema, container, compiled, mark, s₁, hschema', hcontainer, hcheck, hfields, hmark, rfl⟩ :=
    Compile.run_buildWith_iff.mp hrun
  obtain rfl : schema = _ := Except.ok.inj (hschema'.symm.trans hschema)
  have hlater : s₁.Lasts r' := by
    have hmarked : s₁.Lasts s := by
      cases hmark
      exact ⟨rfl, fun _ _ h => h, fun _ _ h => h⟩
    exact hmarked.trans hlasts
  have hagain : List.Forall₂ (fun f c => ∀ m, (Compile.compileField
      (Compile.lookups table (Compile.planWithin table (m + 1))) table schema container overrides
        f).run r' = (.ok c, r')) schema.fields compiled :=
    recalled_of_mapM (fun m f => compileField_recalled table (n + 1) m schema container overrides f)
      0 hfields hlater
  -- The step of a field is what the field is compiled to without its place.
  let step (f : FieldSchema) : DecodeStep :=
    (Compile.resultIn r' (Compile.compileField (Compile.lookups table (Compile.planWithin table 1))
      table schema container overrides f)).1
  refine ⟨container, hcontainer, hcheck, rfl, rfl, step, ?_⟩
  refine List.forall₂_map_right_iff.mpr (hagain.imp fun f c hc => ?_)
  have hmoved : ∀ m place (schema' : Schema), schema'.addressing = schema.addressing →
      (Compile.compileField (Compile.lookups table (Compile.planWithin table (m + 1))) table schema'
        container overrides (f.placed place)).run r' =
          (.ok (c.1.placed schema.addressing place, c.2), r') :=
    fun m place schema' haddressing =>
      Compile.compileField_carries haddressing overrides place _ _ _ (hc m)
  have hstep : step (f.placed 0) = c.1.placed schema.addressing 0 :=
    congrArg (·.1) (Compile.resultIn_of_ok (hmoved 0 0 schema rfl))
  have hplaced : ∀ place, (step (f.placed 0)).placed schema.addressing place =
      c.1.placed schema.addressing place := by
    intro place
    rw [hstep, Step.placed_placed]
  refine ⟨?_, c.2, fun m place schema' haddressing => ?_⟩
  · have hhere := (hc 0).symm.trans (hmoved 0 f.ordinal schema rfl)
    rw [hplaced]
    exact congrArg (·.1) (Except.ok.inj (Prod.mk.inj hhere).1)
  · rw [hplaced]
    exact hmoved m place schema' haddressing

/-- **Fields compile alike in every order.** Take a target that a registry compiled, and another one
with the same fields in any order, which is addressed alike and says the same about all its fields.
Later on, as long as nothing is registered, the registry compiles that one as well, and each step is
the one of its field, at its new place. -/
theorem Compiles.again {schema schema' : Schema} (h : Compiles table t overrides r p s)
    (hschema : introspect table t = .ok schema) (hschema' : introspect table t' = .ok schema')
    (haddressing : schema'.addressing = schema.addressing)
    (hcontainer : schema'.container = schema.container)
    (hfields : (schema'.fields.map (·.placed 0)).Perm (schema.fields.map (·.placed 0)))
    {r' : Registry} (hlasts : s.Lasts r') :
    ∃ step : FieldSchema → DecodeStep, p.Places schema step ∧
      (∃ p' s', Compiles table t' overrides r' p' s') ∧
      ∀ p' s', Compiles table t' overrides r' p' s' → p'.Places schema' step := by
  obtain ⟨container, hresolved, hcheck, htarget, hplan, step, hsteps⟩ := h.fields hschema hlasts
  have hresolved' : resolveContainer (overrides.onContainer schema'.container) schema'.name =
      .ok container := by
    rw [hcontainer]
    exact resolveContainer_owner _ hresolved
  have hfield : ∀ f' ∈ schema'.fields, ∃ requirements, ∀ m,
      (Compile.compileField (Compile.lookups table (Compile.planWithin table (m + 1))) table schema'
        container overrides f').run r' =
          (.ok ((step (f'.placed 0)).placed schema.addressing f'.ordinal, requirements), r') := by
    intro f' hf'
    obtain ⟨f, hf, hsame⟩ := List.mem_map.mp (hfields.mem_iff.mp (List.mem_map_of_mem hf'))
    obtain ⟨_, -, -, requirements, hrun⟩ := Forall₂.exists_right hsteps hf
    refine ⟨requirements, fun m => ?_⟩
    rw [show f' = f.placed f'.ordinal from FieldSchema.eq_placed hsame,
      show (f.placed f'.ordinal).placed 0 = f.placed 0 from rfl]
    exact hrun m _ schema' haddressing
  choose! requirements hrequirements using hfield
  have hcompiled : ∀ m, (schema'.fields.mapM (Compile.compileField
      (Compile.lookups table (Compile.planWithin table (m + 1))) table schema' container
        overrides)).run r' =
      (.ok (schema'.fields.map fun f => ((step (f.placed 0)).placed schema.addressing f.ordinal,
        requirements f)), r') := by
    intro m
    refine Compile.run_mapM_of_forall₂ ?_
    rw [List.forall₂_map_right_iff, List.forall₂_same]
    exact fun f hf => hrequirements f hf m
  have hcheck' : Compile.checkOverrides schema' overrides = .ok () := by
    refine Compile.checkOverrides_congr (fun name => ?_) hcheck
    have hnames := (hfields.map (·.name)).any_eq (f := (· == some name))
    rw [List.map_map, List.map_map, List.any_map, List.any_map] at hnames
    exact hnames
  refine ⟨step, ⟨htarget, hplan, ?_⟩, ⟨_, _, 0, Compile.run_buildWith_iff.mpr
    ⟨schema', container, _, _, r', hschema', hresolved', hcheck', hcompiled 0, rfl, rfl⟩⟩, ?_⟩
  · rw [← List.forall₂_eq_eq_eq, List.forall₂_map_right_iff]
    exact hsteps.flip.imp fun _ _ h => h.1
  · rintro p' s' ⟨m, hrun⟩
    obtain ⟨schema'', container', compiled, mark, s₁, hschema'', hresolved'', -, hfields', -, rfl⟩ :=
      Compile.run_buildWith_iff.mp hrun
    obtain rfl : schema'' = _ := Except.ok.inj (hschema''.symm.trans hschema')
    obtain rfl : container' = _ := Except.ok.inj (hresolved''.symm.trans hresolved')
    rw [hcompiled m] at hfields'
    cases hfields'
    refine ⟨rfl, rfl, ?_⟩
    rw [haddressing]
    exact List.map_map ..

end

end RowDecoding
