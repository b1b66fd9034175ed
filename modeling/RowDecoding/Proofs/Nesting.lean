import RowDecoding.Proofs.Supplied

/-!
# Plans nested in plans

A flattened field holds a mapper: the plan of its class, a hook of the class, or the mapping that
the class inherits from a derived one. The last kind is the only one that is left to a registry
until a row is mapped. So a compiled plan is closed just if nothing that it nests inherits its
mapping, and this can be read off the classes: `Nests` follows the flattened fields from a target
down, and `Inherits` looks at one class.

> `closed_iff`: a plan is closed iff nothing nested in it inherits its mapping.

How deep plans are nested follows as well. Every plan on the way down belongs to another class, none
of which is being compiled above it, so there are no more of them than classes.

> `within_of_buildWith`: plans are nested no deeper than there are classes left to enter.
-/

namespace RowDecoding

/-- Rows are mapped to a type by what its class inherits from a derived one. -/
def Inherits (table : ClassTable) (t : TypeExpr) : Prop :=
  ∃ owner registry, mappingOf table t = .own (.inherited owner registry)

/-- What is built from the whole row for a target: for one of its fields, or for one of a class that
it flattens, and so on. -/
inductive Nests (table : ClassTable) : Overrides → TypeExpr → TypeExpr → Prop
  | field {overrides : Overrides} {t v : TypeExpr} (h : HasFlattened table overrides t v) :
    Nests table overrides t v
  | deeper {overrides : Overrides} {t u v : TypeExpr} (h : Flattens table overrides t u)
    (hv : Nests table Overrides.none u v) : Nests table overrides t v

/-! ## The mappers of a plan -/

/-- A class has a mapping of its own if it is no derived one and has an attribute for that: one that
can be called, or the mapping of a derived class that it inherits from. -/
theorem mappingOf_own {table : ClassTable} {t : TypeExpr} {m : RowMapper}
    (h : mappingOf table t = .own m) :
    ∃ c, t.declared? = some c ∧ (table.info c).plan.isSome = false ∧
      ((∃ a hook, m = .hook c hook ∧ table.attribute? c "from_row" = some a ∧
          a.function? = some hook) ∨
        ∃ registry, m = .inherited c registry ∧
          table.attribute? c "from_row" = some (.rowMapping registry)) := by
  unfold mappingOf at h
  split at h
  · cases h
  · next c hc =>
    dsimp only at h
    by_cases hderived : (table.info c).plan.isSome = true
    · rw [if_pos hderived, hderived] at h
      cases h
    · refine ⟨c, hc, by simpa using hderived, ?_⟩
      rw [if_neg hderived] at h
      cases hattribute : table.attribute? c "from_row" with
      | none => rw [hattribute] at h; dsimp only at h; split at h <;> cases h
      | some found =>
        rw [hattribute] at h
        cases found with
        | hook hook =>
          cases h
          exact Or.inl ⟨_, hook, rfl, rfl, rfl⟩
        | rowMapping registry =>
          cases h
          exact Or.inr ⟨registry, rfl, rfl⟩
        | value v =>
          dsimp only at h
          cases hfunction : (ClassAttribute.value v).function? with
          | none => rw [hfunction] at h; dsimp only [Option.map_none] at h; split at h <;> cases h
          | some hook =>
            rw [hfunction] at h
            cases h
            exact Or.inl ⟨_, hook, rfl, rfl, hfunction⟩

/-- Nothing has a mapping of its own where every class with a mapping is a derived one. -/
theorem not_own_of_derived {table : ClassTable}
    (h : ∀ info ∈ table.classes,
      info.plan.isSome = true ∨ table.attribute? info.ref "from_row" = none)
    (t : TypeExpr) (m : RowMapper) : mappingOf table t ≠ .own m := by
  intro hmapping
  obtain ⟨c, -, hderived, hown⟩ := mappingOf_own hmapping
  obtain ⟨a, hattribute⟩ : ∃ a, table.attribute? c "from_row" = some a := by
    rcases hown with ⟨a, hook, -, ha, -⟩ | ⟨registry, -, ha⟩
    · exact ⟨_, ha⟩
    · exact ⟨_, ha⟩
  obtain ⟨info, hinfo⟩ := ClassTable.knows_of_attribute? hattribute
  obtain ⟨hmem, href, -⟩ := ClassTable.known?_spec hinfo
  rcases h info hmem with hplan | hnone
  · rw [ClassTable.info_of_known hinfo, hplan] at hderived
    cases hderived
  · rw [href, hattribute] at hnone
    cases hnone

/-- Nothing inherits its mapping where every class with a mapping is a derived one. -/
theorem not_inherits_of_derived {table : ClassTable}
    (h : ∀ info ∈ table.classes,
      info.plan.isSome = true ∨ table.attribute? info.ref "from_row" = none)
    (t : TypeExpr) : ¬Inherits table t := by
  rintro ⟨owner, registry, hmapping⟩
  exact not_own_of_derived h t _ hmapping

section

variable {q : Lookups Outcomes} {table : ClassTable} {overrides : Overrides} {t v : TypeExpr}
  {p : DecodePlan}

/-- The mapper of a type is its own or its plan. -/
theorem mapperFor_some {m : RowMapper} (h : Compile.mapperFor q table v (.ok (some m))) :
    mappingOf table v = .own m ∨
      mappingOf table v = .byPlan ∧ ∃ p', q.plan v (.ok p') ∧ m = .plan p' := by
  unfold Compile.mapperFor at h
  cases hmapping : mappingOf table v with
  | none => rw [hmapping] at h; cases h
  | own m' =>
    rw [hmapping] at h
    cases h
    exact Or.inl rfl
  | byPlan =>
    rw [hmapping] at h
    obtain ⟨p', hp', hm⟩ := Outcomes.bind_ok.mp h
    cases hm
    exact Or.inr ⟨rfl, p', hp', rfl⟩

/-- Only a type that rows are not mapped to has no mapper. -/
theorem mapperFor_none (h : Compile.mapperFor q table v (.ok none)) :
    mappingOf table v = .none := by
  unfold Compile.mapperFor at h
  cases hmapping : mappingOf table v with
  | none => rfl
  | own m => rw [hmapping] at h; cases h
  | byPlan =>
    rw [hmapping] at h
    obtain ⟨p, -, hp⟩ := Outcomes.bind_ok.mp h
    cases hp

/-- A step that maps the whole row has a mapper of what its field flattens. -/
theorem flattened_of_step (hbuilt : Compile.buildWith q table t overrides (.ok p))
    {s : DecodeStep} (hs : s ∈ p.steps) {m : RowMapper} (hm : s.strategy = .flatten (some m)) :
    ∃ v, HasFlattened table overrides t v ∧ Compile.mapperFor q table v (.ok (some m)) := by
  obtain ⟨schema, container, hschema, -, -, hall⟩ := Compile.buildWith_ok hbuilt
  obtain ⟨f, hf, directives, hd, -, hstep⟩ := Forall₂.exists_left hall hs
  obtain ⟨-, -, hstrategy, -⟩ := Compile.stepOf_ok.mp hstep
  unfold Compile.strategyOf at hstrategy
  split at hstrategy
  · next hflat =>
    obtain ⟨mapper, hmapper, hmade⟩ := Outcomes.bind_ok.mp hstrategy
    rw [hm] at hmade
    cases hmade
    exact ⟨_, ⟨schema, f, directives, hschema, hf, hd, hflat, rfl⟩, hmapper⟩
  · obtain ⟨decoder, -, hmade⟩ := Outcomes.bind_ok.mp hstrategy
    rw [hm] at hmade
    -- A column is read by name, by position, or to be converted.
    have hno := Except.ok.inj hmade
    unfold Compile.columnStrategy at hno
    dsimp only at hno
    split at hno
    · cases hno
    · split at hno <;> cases hno

/-- What a field flattens has a step with a mapper of it. -/
theorem step_of_flattened (hbuilt : Compile.buildWith q table t overrides (.ok p))
    (hv : HasFlattened table overrides t v) :
    ∃ s ∈ p.steps, ∃ m, s.strategy = .flatten (some m) ∧
      Compile.mapperFor q table v (.ok (some m)) := by
  obtain ⟨schema, f, directives, hschema, hf, hd, hflat, rfl⟩ := hv
  obtain ⟨schema', container, hschema', -, -, hall⟩ := Compile.buildWith_ok hbuilt
  rw [hschema] at hschema'
  cases hschema'
  obtain ⟨s, hs, directives', hd', hreq, hstep⟩ := Forall₂.exists_right hall hf
  rw [hd] at hd'
  cases hd'
  obtain ⟨-, -, hstrategy, -⟩ := Compile.stepOf_ok.mp hstep
  unfold Compile.strategyOf at hstrategy
  rw [if_pos hflat] at hstrategy
  obtain ⟨mapper, hmapper, hmade⟩ := Outcomes.bind_ok.mp hstrategy
  cases mapper with
  | some m => exact ⟨s, hs, m, Except.ok.inj hmade, hmapper⟩
  | none =>
    -- Without a mapper the requirement of the field would have failed.
    have hnested := hreq ⟨.nestedMapping, [Compile.sourceOf f directives]⟩
      (by simp [Compile.requirementsOf, hflat])
    obtain ⟨satisfied, hsat, hrequired⟩ := Outcomes.bind_ok.mp hnested
    obtain ⟨found, hfound, hsome⟩ := Outcomes.bind_ok.mp hsat
    have hnone : found = none := by
      unfold Compile.mapperFor at hfound
      rw [mapperFor_none hmapper] at hfound
      exact Except.ok.inj hfound
    rw [hnone] at hsome
    cases hsome
    cases hrequired

/-! ## Closed plans -/

/-- A plan is nested one deeper than the plans in it, if the hooks that it was answered are allowed
and nothing that it flattens inherits its mapping. -/
theorem within_of_built {A : Allowance} (hq : q.Allowed A) (htable : table.Allowed A)
    (hbuilt : Compile.buildWith q table t overrides (.ok p))
    (hinherits : ∀ v, HasFlattened table overrides t v → ¬Inherits table v) {n : Nat}
    (hnested : ∀ v p', Flattens table overrides t v → q.plan v (.ok p') →
      (RowMapper.plan p').Within A n) :
    (RowMapper.plan p).Within A (n + 1) := by
  obtain ⟨schema, container, hschema, -, -, hall⟩ := Compile.buildWith_ok hbuilt
  intro s hs
  obtain ⟨f, hf, hstep⟩ := Forall₂.exists_left hall hs
  refine ⟨stepFrom_allowed hq (introspect_allowed htable hschema) hf hstep, fun m hm => ?_⟩
  obtain ⟨v, hv, hmapper⟩ := flattened_of_step hbuilt hs hm
  rcases mapperFor_some hmapper with hown | ⟨hmapping, p', hp', rfl⟩
  · obtain ⟨c, -, -, ⟨a, hook, rfl, hattribute, hhook⟩ | ⟨registry, rfl, -⟩⟩ := mappingOf_own hown
    · exact RowMapper.within_hook.mpr (htable.attribute? hattribute hhook)
    · exact absurd ⟨c, registry, hown⟩ (hinherits v hv)
  · exact hnested v p' ⟨hv, hmapping⟩ hp'

end

namespace Uncached

variable {A : Allowance} {r : Registry} {table : ClassTable} {overrides : Overrides}
  {t v : TypeExpr} {p : DecodePlan}

/-- **Plans are nested no deeper than there are classes left to enter**, if nothing that they nest
inherits its mapping. The induction is on the fuel; each class on the way down is one that was not
being compiled, so it takes one from the classes left. -/
theorem within_of_buildWith (hr : r.Allowed A) (htable : table.Allowed A) :
    ∀ {fuel : Nat} {building : List Key} {overrides : Overrides} {t : TypeExpr} {p : DecodePlan},
      Compile.buildWith (lookups r table (planWithin r table fuel building)) table t overrides
        (.ok p) →
      (∀ v, Nests table overrides t v → ¬Inherits table v) →
      (RowMapper.plan p).Within A (table.pending building + 1) := by
  intro fuel
  induction fuel with
  | zero =>
    intro building overrides t p hbuilt hinherits
    refine within_of_built (lookups_allowed hr htable _) htable hbuilt
      (fun v hv => hinherits v (.field hv)) fun v p' _ hp' => ?_
    cases hp'
  | succ fuel ih =>
    intro building overrides t p hbuilt hinherits
    refine within_of_built (lookups_allowed hr htable _) htable hbuilt
      (fun v hv => hinherits v (.field hv)) fun v p' hv hp' => ?_
    obtain ⟨c, rfl, hc⟩ := hv.known
    obtain ⟨-, hfresh, hbuilt'⟩ := compile_ok.mp (compile_of_declared hp')
    have hnested := ih hbuilt' fun w hw => hinherits w (.deeper hv hw)
    -- The class was not being compiled, so that entering it leaves fewer.
    have hless : table.pending (c.key :: building) < table.pending building :=
      hc.pending_lt hfresh
    exact RowMapper.Within.mono hless hnested

/-- What a plan nests does not inherit its mapping, if the plan is closed. -/
theorem not_inherits_of_within (hv : Nests table overrides t v) :
    ∀ {fuel : Nat} {building : List Key} {p : DecodePlan} {n : Nat},
      Compile.buildWith (lookups r table (planWithin r table fuel building)) table t overrides
        (.ok p) →
      (RowMapper.plan p).Within A n → ¬Inherits table v := by
  induction hv with
  | field hflat =>
    intro fuel building p n hbuilt hp hinherits
    obtain ⟨s, hs, m, hm, hmapper⟩ := step_of_flattened hbuilt hflat
    obtain ⟨owner, registry, hmapping⟩ := hinherits
    obtain ⟨k, -, hnested⟩ := hp.nested hs hm
    rcases mapperFor_some hmapper with hown | ⟨hplan, -⟩
    · rw [hmapping] at hown
      cases hown
      exact RowMapper.not_within_inherited hnested
    · rw [hmapping] at hplan
      cases hplan
  | deeper hflat _ ih =>
    intro fuel building p n hbuilt hp hinherits
    obtain ⟨s, hs, m, hm, hmapper⟩ := step_of_flattened hbuilt hflat.1
    obtain ⟨c, rfl, -⟩ := hflat.known
    obtain ⟨k, -, hnested⟩ := hp.nested hs hm
    rcases mapperFor_some hmapper with hown | ⟨-, p', hp', rfl⟩
    · rw [hflat.2] at hown
      cases hown
    · cases fuel with
      | zero => cases hp'
      | succ fuel =>
        obtain ⟨-, -, hbuilt'⟩ := compile_ok.mp (compile_of_declared hp')
        exact ih hbuilt' hnested hinherits

/-! ## Plans that are asked for -/

/-- A plan is compiled for its own target, which is the one asked for or an equal one. -/
theorem compiled_of_planFor (h : planFor r table t (.ok p)) :
    p.target.key = t.key ∧
      compile r table (planWithin r table (table.classes.length + 1)) [] p.target (.ok p) := by
  have htarget : ∀ {u : TypeExpr},
      compile r table (planWithin r table (table.classes.length + 1)) [] u (.ok p) →
      p.target = u := by
    intro u hu
    obtain ⟨-, -, hbuilt⟩ := compile_ok.mp hu
    obtain ⟨schema, -, hschema, hp, -⟩ := Compile.buildWith_ok hbuilt
    rw [hp]
    exact (introspect_ok hschema).1
  rcases h with h | ⟨u, p', hkey, h, hp⟩
  · rw [htarget h]
    exact ⟨rfl, h⟩
  · cases hp
    rw [htarget h]
    exact ⟨hkey, h⟩

end Uncached

/-! ## Plans that a registry hands out -/

/-- A plan that a registry hands out: that of a target, or one with directives from outside. `size`
is the number of targets there are, which are the classes and a target that is none of them; with
directives from outside a class is another target than the class itself. -/
inductive HandsOut (table : ClassTable) (r : Registry) : Overrides → Nat → DecodePlan → Prop
  | ofClass {c : ClassRef} {p : DecodePlan} {r' : Registry}
    (h : (Compile.planFor table (.declared c)).run r = (.ok p, r')) :
    HandsOut table r Overrides.none table.classes.length p
  | ofTarget {t : TypeExpr} {p : DecodePlan} {r' : Registry}
    (h : (Compile.planFor table t).run r = (.ok p, r')) :
    HandsOut table r Overrides.none (table.classes.length + 1) p
  | withDirectives {t : TypeExpr} {overrides : Overrides} {p : DecodePlan} {r' : Registry}
    (h : (Compile.build table t overrides).run r = (.ok p, r')) :
    HandsOut table r overrides (table.classes.length + 1) p

namespace HandsOut

variable {A : Allowance} {table : ClassTable} {u r : Registry} {overrides : Overrides} {size : Nat}
  {p : DecodePlan}

/-- The plan of a target is compiled from the registrations, for its own target. -/
theorem built_of_planFor {t : TypeExpr} {r' : Registry}
    (h : (Compile.planFor table t).run r = (.ok p, r')) (hr : Cached u table [] r) :
    p.target.key = t.key ∧ ∃ fuel,
      Compile.buildWith (Uncached.lookups u table (Uncached.planWithin u table fuel [p.target.key]))
        table p.target Overrides.none (.ok p) := by
  obtain ⟨-, -, hp⟩ := planFor_answers (t := t) r hr
  rw [h] at hp
  obtain ⟨hkey, hcompiled⟩ := Uncached.compiled_of_planFor hp
  exact ⟨hkey, _, (Uncached.compile_ok.mp hcompiled).2.2⟩

/-- The plan of a class is the plan of one of the table's. -/
theorem target_known {c : ClassRef} (hkey : p.target.key = (TypeExpr.declared c).key)
    {q : Lookups Outcomes}
    (hbuilt : Compile.buildWith q table p.target overrides (.ok p)) :
    ∃ d, p.target = .declared d ∧ table.Knows d := by
  obtain ⟨schema, -, hschema, -⟩ := Compile.buildWith_ok hbuilt
  rw [declared_of_key hkey] at hschema
  exact ⟨c, declared_of_key hkey, introspect_known hschema⟩

/-- A plan that is handed out is compiled from the registrations, for its own target; the targets
besides it are the classes that are left to enter. -/
theorem built (h : HandsOut table r overrides size p) (hr : Cached u table [] r) :
    ∃ fuel building,
      Compile.buildWith (Uncached.lookups u table (Uncached.planWithin u table fuel building)) table
        p.target overrides (.ok p) ∧ table.pending building < size := by
  cases h with
  | ofClass h =>
    obtain ⟨hkey, fuel, hbuilt⟩ := built_of_planFor h hr
    -- The outermost plan is that of a class itself, which is no longer left to enter.
    obtain ⟨d, hd, hknown⟩ := target_known hkey hbuilt
    refine ⟨fuel, _, hbuilt, ?_⟩
    have hless : table.pending [d.key] < table.pending [] := hknown.pending_lt List.not_mem_nil
    have hall := table.pending_le []
    rw [hd]
    exact Nat.lt_of_lt_of_le hless hall
  | ofTarget h =>
    obtain ⟨-, fuel, hbuilt⟩ := built_of_planFor h hr
    exact ⟨fuel, _, hbuilt, Nat.lt_succ_of_le (table.pending_le _)⟩
  | @withDirectives t overrides p r' h =>
    obtain ⟨-, -, hp⟩ := build_answers r hr
    rw [h] at hp
    obtain ⟨schema, -, hschema, htarget, -⟩ := Compile.buildWith_ok hp
    rw [htarget, (introspect_ok hschema).1]
    exact ⟨_, _, hp, Nat.lt_succ_of_le (table.pending_le _)⟩

/-- Plans are nested in a plan that is handed out no deeper than there are targets. -/
theorem within (h : HandsOut table r overrides size p) (hr : Cached u table [] r)
    (hallowed : u.Allowed A) (htable : table.Allowed A)
    (hinherits : ∀ v, Nests table overrides p.target v → ¬Inherits table v) :
    (RowMapper.plan p).Within A size := by
  obtain ⟨fuel, building, hbuilt, hroom⟩ := h.built hr
  exact RowMapper.Within.mono hroom
    (Uncached.within_of_buildWith hallowed htable hbuilt hinherits)

/-- **What a closed plan is.** A plan that is handed out is closed just if nothing that it nests
inherits its mapping. -/
theorem closed_iff (h : HandsOut table r overrides size p) (hr : Cached u table [] r)
    (hallowed : u.Allowed A) (htable : table.Allowed A) :
    (RowMapper.plan p).Closed A ↔ ∀ v, Nests table overrides p.target v → ¬Inherits table v := by
  constructor
  · rintro ⟨n, hp⟩ v hv
    obtain ⟨fuel, building, hbuilt, -⟩ := h.built hr
    exact Uncached.not_inherits_of_within hv hbuilt hp
  · exact fun hinherits => ⟨size, h.within hr hallowed htable hinherits⟩

end HandsOut

end RowDecoding
