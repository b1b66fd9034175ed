import RowDecoding.Proofs.FlattenGraph

/-!
# Registries without caches

What a registry answers if it works out every answer anew from its registrations. Equal types count
as one: the value that is answered for a type may be the one for an equal type, written in another
way. The number of a plan is left open, since it only tells which compilation made it.

Compiling anew can come to a target in two situations that differ in what is being compiled around
it and in how much fuel is left. Two facts make the situation irrelevant for what succeeds.

* `compile_avoids`: a target that compiles reaches nothing that is being compiled, itself included.
* `compile_move`: so it compiles to the same plans wherever it reaches nothing that is being
  compiled, with as much fuel as there are classes left to enter.

With `planFor_of_within` a plan found on the way is as good as one that is asked for by itself.
-/

namespace RowDecoding

/-- The registrations of a registry, without what was resolved from them. -/
def Registry.registrations (r : Registry) : Registry :=
  { r with resolved := [], plans := [], building := [], compiled := 0 }

/-- The decoder of a type with nothing remembered. -/
def Registry.decoderAfresh (r : Registry) (table : ClassTable) (t : TypeExpr) :
    Except Failure (Option Transform) := do
  let _ ← keyOf t
  r.decoderOf table t

/-- What decodes a type by the registrations of a registry: a decoder of its own, that of the rest
of a union with nothing, or that of an equal type. -/
inductive Decodes (r : Registry) (table : ClassTable) :
    TypeExpr → Except Failure (Option Transform) → Prop
  | own {t : TypeExpr} (h : r.decoders.lookup t.key ≠ none ∨ t.optionalInner? = none) :
    Decodes r table t (r.ownDecoder table t)
  | optional {t inner : TypeExpr} {x : Except Failure (Option Transform)}
    (h : r.decoders.lookup t.key = none) (hinner : t.optionalInner? = some inner)
    (hx : Decodes r table inner x) : Decodes r table t (x.map (·.map .nullable))
  | equal {t t' : TypeExpr} {d : Option Transform} (h : t'.key = t.key)
    (hd : Decodes r table t' (.ok d)) : Decodes r table t (.ok d)

namespace Uncached

/-- An answer for a type, or the value that is answered for an equal type. -/
def orEqual {α : Type} (answer : TypeExpr → Outcomes α) (t : TypeExpr) : Outcomes α := fun x =>
  answer t x ∨ ∃ t' a, t'.key = t.key ∧ answer t' (.ok a) ∧ x = .ok a

/-- The decoder of a type. -/
def decoderFor (r : Registry) (table : ClassTable) (t : TypeExpr) :
    Outcomes (Option Transform) := do
  let _ ← Compile.lift (Registry.keyOf t)
  Decodes r table t

/-- What the registrations answer; `plan` gives the plans of the classes that are flattened. -/
def lookups (r : Registry) (table : ClassTable) (plan : TypeExpr → Outcomes DecodePlan) :
    Lookups Outcomes where
  decoder := decoderFor r table
  converter s t := Compile.lift (r.converterFor table s t)
  default t := Compile.lift (r.defaultFor table t)
  plan
  mark x := ∃ number, x = .ok (r.name, number)

/-- Compiles a target anew while targets with these keys are being compiled. -/
def compile (r : Registry) (table : ClassTable)
    (plan : List Key → TypeExpr → Outcomes DecodePlan) (building : List Key) (t : TypeExpr) :
    Outcomes DecodePlan := do
  let key ← Compile.lift (Registry.keyOf t)
  if building.contains key then throw (Compile.recursiveFlatten t)
  else
    Compile.buildWith (lookups r table (plan (key :: building))) table t Overrides.none

/-- The plan of a target, compiled anew with those of all the classes that it flattens. Each nested
compilation takes one unit of fuel. -/
def planWithin (r : Registry) (table : ClassTable) :
    Nat → List Key → TypeExpr → Outcomes DecodePlan
  | 0 => fun _ _ => throw Compile.tooDeep
  | fuel + 1 => fun building => orEqual (compile r table (planWithin r table fuel) building)

/-- The plan of a target. -/
def planFor (r : Registry) (table : ClassTable) (t : TypeExpr) : Outcomes DecodePlan :=
  planWithin r table (Compile.fuel table) [] t

/-- What the registrations answer. -/
def answers (r : Registry) (table : ClassTable) : Lookups Outcomes :=
  lookups r table (planFor r table)

/-! ## What a plan asks for -/

section

variable {r : Registry} {table : ClassTable} {t u v : TypeExpr} {p : DecodePlan}

theorem keyOf_ok {key : Key} : Registry.keyOf t = .ok key ↔ t.unhashable? = none ∧ key = t.key := by
  unfold Registry.keyOf
  cases t.unhashable? with
  | some complaint => simp
  | none => simp [eq_comm]

/-- What compiling a target anew comes to. -/
theorem compile_apply {plan : List Key → TypeExpr → Outcomes DecodePlan} {building : List Key}
    {x : Except Failure DecodePlan} :
    compile r table plan building t x ↔
      match Registry.keyOf t with
      | .error f => x = .error f
      | .ok key =>
        if building.contains key then x = .error (Compile.recursiveFlatten t)
        else
          Compile.buildWith (lookups r table (plan (key :: building))) table t Overrides.none
            x := by
  unfold compile
  cases Registry.keyOf t with
  | error f => exact Outcomes.lift_error_bind
  | ok key =>
    rw [Outcomes.lift_ok_bind]
    dsimp only
    split
    · exact Outcomes.throw_apply
    · exact Iff.rfl

theorem compile_ok {plan : List Key → TypeExpr → Outcomes DecodePlan} {building : List Key} :
    compile r table plan building t (.ok p) ↔
      t.unhashable? = none ∧ t.key ∉ building ∧
      Compile.buildWith (lookups r table (plan (t.key :: building))) table t Overrides.none
        (.ok p) := by
  rw [compile_apply]
  cases hkeyOf : Registry.keyOf t with
  | error f =>
    unfold Registry.keyOf at hkeyOf
    cases ht : t.unhashable? with
    | some complaint => simp
    | none => rw [ht] at hkeyOf; cases hkeyOf
  | ok key =>
    obtain ⟨hkey, rfl⟩ := keyOf_ok.mp hkeyOf
    dsimp only
    split
    next hmem => simp [show t.key ∈ building by simpa using hmem]
    next hmem => simp [hkey, show t.key ∉ building by simpa using hmem]

/-- A plan has been asked for the plans of all the classes that its target flattens. -/
theorem asked_of_buildWith {q : Lookups Outcomes}
    (h : Compile.buildWith q table t Overrides.none (.ok p))
    (hv : Flattens table Overrides.none t v) : ∃ p', q.plan v (.ok p') := by
  obtain ⟨⟨schema, f, directives, hschema, hf, hd, hflat, rfl⟩, hmap⟩ := hv
  obtain ⟨schema', container, hschema', -, -, hall⟩ := Compile.buildWith_ok h
  rw [hschema] at hschema'
  cases hschema'
  obtain ⟨s, -, directives', hd', hreq, -⟩ := Forall₂.exists_right hall hf
  rw [hd] at hd'
  cases hd'
  have hnested := hreq ⟨.nestedMapping, [Compile.sourceOf f directives]⟩
    (by simp [Compile.requirementsOf, hflat])
  simp only [Compile.require, Compile.satisfies, Compile.mapperFor, hmap,
    Outcomes.bind_ok] at hnested
  obtain ⟨_, ⟨_, ⟨p', hp', -⟩, -⟩, -⟩ := hnested
  exact ⟨p', hp'⟩

/-- What is answered for a class is answered for itself, since no other type equals it. -/
theorem compile_of_declared {c : ClassRef} {x : Except Failure DecodePlan}
    {plan : List Key → TypeExpr → Outcomes DecodePlan} {building : List Key}
    (h : orEqual (compile r table plan building) (.declared c) x) :
    compile r table plan building (.declared c) x := by
  rcases h with h | ⟨t, p, hkey, h, rfl⟩
  · exact h
  · rwa [← declared_of_key hkey]

/-- A class that is flattened by a target that compiles is compiled itself, around it its target. -/
theorem compile_flattened {fuel : Nat} {building : List Key}
    (h : compile r table (planWithin r table fuel) building t (.ok p))
    (hv : Flattens table Overrides.none t v) :
    ∃ fuel' p', fuel = fuel' + 1 ∧
      compile r table (planWithin r table fuel') (t.key :: building) v (.ok p') := by
  obtain ⟨-, -, hbuilt⟩ := compile_ok.mp h
  obtain ⟨p', hp'⟩ := asked_of_buildWith hbuilt hv
  obtain ⟨c, rfl, -⟩ := hv.known
  cases fuel with
  | zero => cases hp'
  | succ fuel' => exact ⟨fuel', p', rfl, compile_of_declared hp'⟩

/-! ## Where a plan compiles -/

/-- A target that compiles reaches nothing that is being compiled, itself included. -/
theorem compile_avoids :
    ∀ {fuel : Nat} {building : List Key} {t : TypeExpr} {p : DecodePlan},
      compile r table (planWithin r table fuel) building t (.ok p) → Reaches table t v →
      v.key ∉ t.key :: building := by
  intro fuel
  induction fuel with
  | zero =>
    intro building t p h hv
    obtain ⟨w, hw, -⟩ := Relation.TransGen.head'_iff.mp hv
    obtain ⟨_, _, hfuel, -⟩ := compile_flattened h hw
    cases hfuel
  | succ fuel ih =>
    intro building t p h hv
    obtain ⟨w, hw, hrest⟩ := Relation.TransGen.head'_iff.mp hv
    obtain ⟨_, p', hfuel, hcompiled⟩ := compile_flattened h hw
    cases hfuel
    rcases Relation.reflTransGen_iff_eq_or_transGen.mp hrest with rfl | hrest
    · exact (compile_ok.mp hcompiled).2.1
    · -- Further down there is even more that is being compiled.
      exact fun hmem => ih hcompiled hrest (List.mem_cons_of_mem _ hmem)

/-- Relating the values that two computations can have. -/
def okLifting : Lifting Outcomes Outcomes where
  Rel e e' := ∀ a, e (.ok a) → e' (.ok a)
  pure a b h := h
  throw f b h := h
  bind h hk b hb := by
    rw [Outcomes.bind_ok] at hb ⊢
    obtain ⟨a, ha, hb⟩ := hb
    exact ⟨a, h a ha, hk a b hb⟩
  lift_bind hk b hb := by
    rw [Outcomes.bind_ok] at hb ⊢
    obtain ⟨a, ha, hb⟩ := hb
    exact ⟨a, ha, hk a (Outcomes.lift_apply.mp ha).symm b hb⟩

theorem lookups_related {plan plan' : TypeExpr → Outcomes DecodePlan} {Asked : TypeExpr → Prop}
    (L : Lifting Outcomes Outcomes) (hrefl : ∀ {α : Type} (e : Outcomes α), L.Rel e e)
    (h : ∀ u, Asked u → L.Rel (plan u) (plan' u)) :
    (lookups r table plan).Related L Asked (lookups r table plan') where
  decoder _ := hrefl _
  converter _ _ := hrefl _
  default _ := hrefl _
  plan := h
  mark := hrefl _

/-- **What compiles once compiles elsewhere.** A target that compiles does so to the same plans
wherever neither itself nor what it reaches is being compiled, if the fuel is enough for the classes
left to enter. -/
theorem compile_move :
    ∀ {fuel : Nat} {building : List Key} {t : TypeExpr} {p : DecodePlan},
      compile r table (planWithin r table fuel) building t (.ok p) →
      ∀ {fuel' : Nat} {building' : List Key}, t.key ∉ building' →
        (∀ v, Reaches table t v → v.key ∉ building') →
        table.pending (t.key :: building') < fuel' →
        compile r table (planWithin r table fuel') building' t (.ok p) := by
  intro fuel
  induction fuel with
  | zero =>
    intro building t p h fuel' building' hself _ _
    obtain ⟨hkey, -, hbuilt⟩ := compile_ok.mp h
    refine compile_ok.mpr ⟨hkey, hself, ?_⟩
    refine Compile.buildWith_related (lookups_related okLifting (fun _ _ h => h) ?_)
      (fun _ h => h) p hbuilt
    -- What compiles without fuel for nested compilations flattens nothing.
    intro v hv
    obtain ⟨_, _, hfuel, -⟩ := compile_flattened h hv
    cases hfuel
  | succ fuel ih =>
    intro building t p h fuel' building' hself hreach hroom
    obtain ⟨hkey, -, hbuilt⟩ := compile_ok.mp h
    refine compile_ok.mpr ⟨hkey, hself, ?_⟩
    refine Compile.buildWith_related (lookups_related okLifting (fun _ _ h => h) ?_)
      (fun _ h => h) p hbuilt
    intro v hv p' hp'
    obtain ⟨c, rfl, hc⟩ := hv.known
    -- Nothing that the class reaches is being compiled, its target included.
    have havoid : ∀ w, Reaches table t w → w.key ∉ t.key :: building' := by
      intro w hw hmem
      rcases List.mem_cons.mp hmem with heq | hmem
      · exact compile_avoids h hw (List.mem_cons.mpr (Or.inl heq))
      · exact hreach w hw hmem
    have hcavoid := havoid _ (.single hv)
    obtain ⟨fuel', rfl⟩ : ∃ k, fuel' = k + 1 := ⟨fuel' - 1, by omega⟩
    refine Or.inl (ih (compile_of_declared hp') hcavoid (fun w hw => havoid w (.head hv hw)) ?_)
    have hless := hc.pending_lt hcavoid
    exact Nat.lt_of_lt_of_le hless (by omega)

/-- Relating all outcomes that two computations can have. -/
def outcomeLifting : Lifting Outcomes Outcomes where
  Rel e e' := ∀ x, e x → e' x
  pure a x h := h
  throw f x h := h
  bind h hk x hx := by
    rcases hx with ⟨a, ha, hx⟩ | ⟨f, hf, hx⟩
    · exact Or.inl ⟨a, h _ ha, hk a x hx⟩
    · exact Or.inr ⟨f, h _ hf, hx⟩
  lift_bind hk x hx := by
    rcases hx with ⟨a, ha, hx⟩ | ⟨f, hf, hx⟩
    · exact Or.inl ⟨a, ha, hk a (Outcomes.lift_apply.mp ha).symm x hx⟩
    · exact Or.inr ⟨f, hf, hx⟩

/-- Fuel beyond the number of classes left to enter changes nothing, failures included. -/
theorem compile_fuel :
    ∀ {fuel fuel' : Nat} {building : List Key} {t : TypeExpr} {x : Except Failure DecodePlan},
      (t.key ∉ building →
        table.pending (t.key :: building) < fuel ∧ table.pending (t.key :: building) < fuel') →
      compile r table (planWithin r table fuel) building t x →
      compile r table (planWithin r table fuel') building t x := by
  intro fuel
  induction fuel with
  | zero =>
    intro fuel' building t x hroom
    refine outcomeLifting.lift_bind (fun key hkey => ?_) x
    obtain ⟨-, rfl⟩ := keyOf_ok.mp hkey
    split
    · exact outcomeLifting.throw _
    next hnot => exact absurd (hroom (by simpa using hnot)).1 (Nat.not_lt_zero _)
  | succ fuel ih =>
    intro fuel' building t x hroom
    refine outcomeLifting.lift_bind (fun key hkey => ?_) x
    obtain ⟨-, rfl⟩ := keyOf_ok.mp hkey
    split
    · exact outcomeLifting.throw _
    next hnot =>
      obtain ⟨hless, hless'⟩ := hroom (by simpa using hnot)
      obtain ⟨fuel', rfl⟩ : ∃ k, fuel' = k + 1 := ⟨fuel' - 1, by omega⟩
      refine Compile.buildWith_related (lookups_related outcomeLifting (fun _ _ h => h) ?_)
        fun _ h => h
      intro v hv y hy
      obtain ⟨c, rfl, hc⟩ := hv.known
      -- An equal type has the key of the class, so it leaves as many classes to enter.
      have hnested : ∀ {u : TypeExpr}, u.key = (TypeExpr.declared c).key →
          ∀ {z : Except Failure DecodePlan},
            compile r table (planWithin r table fuel) (t.key :: building) u z →
            compile r table (planWithin r table fuel') (t.key :: building) u z := by
        intro u hu z
        refine ih fun havoid => ?_
        rw [hu] at havoid ⊢
        have := hc.pending_lt havoid
        simp only [TypeExpr.key] at this ⊢
        omega
      rcases hy with hy | ⟨u, a, hu, hy, hya⟩
      · exact Or.inl (hnested rfl hy)
      · exact Or.inr ⟨u, a, hu, hnested hu hy, hya⟩

/-- **The fuel is enough.** Plans and failures are the same with any larger amount. -/
theorem planFor_fuel {x : Except Failure DecodePlan} {fuel : Nat}
    (hfuel : Compile.fuel table ≤ fuel) :
    planWithin r table fuel [] t x ↔ planFor r table t x := by
  obtain ⟨k, rfl⟩ : ∃ k, fuel = k + 1 := ⟨fuel - 1, by unfold Compile.fuel at hfuel; omega⟩
  unfold Compile.fuel at hfuel
  -- Either amount is enough for all the classes there are.
  have hpending := fun u : TypeExpr => table.pending_le [u.key]
  have hboth : ∀ {n m : Nat}, table.classes.length < n → table.classes.length < m →
      planWithin r table (n + 1) [] t x → planWithin r table (m + 1) [] t x := by
    intro n m hn hm h
    have hmove : ∀ {u : TypeExpr} {z : Except Failure DecodePlan},
        compile r table (planWithin r table n) [] u z →
        compile r table (planWithin r table m) [] u z := by
      intro u z
      refine compile_fuel fun _ => ?_
      have := hpending u
      omega
    rcases h with h | ⟨u, a, hu, h, hx⟩
    · exact Or.inl (hmove h)
    · exact Or.inr ⟨u, a, hu, hmove h, hx⟩
  exact ⟨hboth (by omega) (by omega), hboth (by omega) (by omega)⟩

/-! ## Plans asked for by themselves -/

/-- A plan that is compiled on the way is one that can be asked for. -/
theorem planFor_of_within {fuel : Nat} {building : List Key}
    (h : planWithin r table fuel building t (.ok p)) : planFor r table t (.ok p) := by
  cases fuel with
  | zero => cases h
  | succ fuel =>
    have hmove : ∀ {t' : TypeExpr}, compile r table (planWithin r table fuel) building t' (.ok p) →
        compile r table (planWithin r table (table.classes.length + 1)) [] t' (.ok p) := by
      intro t' h'
      refine compile_move h' (List.not_mem_nil) (fun _ _ => List.not_mem_nil) ?_
      exact Nat.lt_succ_of_le (table.pending_le _)
    rcases h with h | ⟨t', p', hkey, h, hp⟩
    · exact Or.inl (hmove h)
    · cases hp
      exact Or.inr ⟨t', p, hkey, hmove h, rfl⟩

/-- The plan of an equal type. -/
theorem planFor_of_key (hkey : u.key = t.key) (h : planFor r table u (.ok p)) :
    planFor r table t (.ok p) := by
  rcases h with h | ⟨t', p', hkey', h, hp⟩
  · exact Or.inr ⟨u, p, hkey, h, rfl⟩
  · exact Or.inr ⟨t', p', hkey'.trans hkey, h, hp⟩

/-- A plan that can be asked for is compiled on the way as well, where nothing stands in its way. -/
theorem within_of_planFor {c : ClassRef} (hkey : t.key = c.key)
    (h : planFor r table t (.ok p)) {fuel : Nat} {building : List Key}
    (hself : c.key ∉ building)
    (hreach : ∀ v, Reaches table (.declared c) v → v.key ∉ building)
    (hroom : table.pending (c.key :: building) < fuel) :
    planWithin r table (fuel + 1) building (.declared c) (.ok p) :=
  Or.inl (compile_move (compile_of_declared (planFor_of_key hkey h)) hself hreach hroom)

/-- A class that has a plan does not reach itself. -/
theorem not_reaches_self {c : ClassRef} (hkey : t.key = c.key)
    (h : planFor r table t (.ok p)) : ¬Reaches table (.declared c) (.declared c) := by
  intro hself
  exact compile_avoids (compile_of_declared (planFor_of_key hkey h)) hself (List.mem_cons_self ..)

end

end Uncached

end RowDecoding
