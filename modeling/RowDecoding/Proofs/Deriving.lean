import RowDecoding.Proofs.Conventions
import RowDecoding.Proofs.Steadiness

/-!
# Deriving a class with a convention

A derivation with a convention notes it on the class and attaches a plan to the class, the one that
the registry hands out. A registry hands out a plan that it keeps without looking at what the class
says by now, so the convention is in what is attached only if no plan was kept.

> `conventions_agree_iff`: a convention from outside, one noted on the class and one in a derivation
> give plans that read the same of a row, unless the registry keeps an older plan of the class; then
> that one is attached.
-/

namespace RowDecoding

/-! ## Compiling with and without a plan to keep -/

namespace Registry

/-- A registry in which one more target was being compiled before all others. -/
def beneath (r : Registry) (key : Key) : Registry :=
  { r with building := r.building ++ [key] }

/-- What is being compiled has no plan. -/
def Unfinished (r : Registry) : Prop :=
  ∀ key ∈ r.building, r.plans.lookup key = none

theorem Undisturbed.unfinished {r r' : Registry} (h : r.Undisturbed r') (hr : r.Unfinished) :
    r'.Unfinished := by
  intro key hkey
  rw [h.building] at hkey
  exact h.entered key hkey (hr key hkey)

end Registry

/-- Computations of which the second one does what the first one does, where that succeeds, with one
more target being compiled before all others. -/
def Lifting.beneath (key : Key) (building : List Key) : Lifting Compile Compile where
  Rel m m' := ∀ r : Registry, r.building = building → r.Unfinished →
    r.Undisturbed (m.run r).2 ∧
      ∀ a s, m.run r = (.ok a, s) → m'.run (r.beneath key) = (.ok a, s.beneath key)
  pure a r _ _ := by
    refine ⟨.refl r, fun b s h => ?_⟩
    cases h
    rfl
  throw f r _ _ := ⟨.refl r, fun _ _ h => nomatch h⟩
  bind {α β x y k l} hx hk r hr hunfinished := by
    obtain ⟨hleft, hsame⟩ := hx r hr hunfinished
    rw [Running.run_bind]
    rcases hrun : x.run r with ⟨f | a, s⟩
    · rw [hrun] at hleft
      exact ⟨hleft, fun _ _ h => nomatch h⟩
    · rw [hrun] at hleft
      obtain ⟨hnext, hthen⟩ := hk a s (hleft.building.trans hr) (hleft.unfinished hunfinished)
      rw [Running.run_bind, hsame a s hrun]
      exact ⟨hleft.trans hnext, hthen⟩
  lift_bind {α β e k l} hk r hr hunfinished := by
    cases e with
    | error f => exact ⟨.refl r, fun _ _ h => nomatch h⟩
    | ok a => exact hk a rfl r hr hunfinished

section

variable {table : ClassTable} {key : Key} {building : List Key}

theorem Registry.sparesDecoders_beneath (key : Key) : SparesDecoders (·.beneath key) :=
  ⟨fun _ => rfl, fun _ => rfl, fun _ => rfl, fun _ _ _ => rfl⟩

/-- An answer from the registrations. -/
theorem answer_beneath {α : Type} {m : Compile α} {answer : Registry → Except Failure α}
    (hrun : ∀ r, m.run r = (answer r, r)) (hsame : ∀ r, answer (r.beneath key) = answer r) :
    (Lifting.beneath key building).Rel m m := by
  intro r _ _
  rw [hrun, hrun, hsame]
  refine ⟨.refl r, fun a s h => ?_⟩
  obtain ⟨ha, rfl⟩ := Prod.mk.inj h
  rw [ha]

/-- What a registry answers does not depend on what is being compiled, if its plans do not. -/
theorem lookups_beneath {Asked : TypeExpr → Prop} {plan : TypeExpr → Compile DecodePlan}
    (hplan : ∀ v, Asked v → (Lifting.beneath key building).Rel (plan v) (plan v)) :
    (Compile.lookups table plan).Related (Lifting.beneath key building) Asked
      (Compile.lookups table plan) where
  decoder t r _ _ := by
    refine ⟨(steady_decoderFor table t).leaves r, fun d s h => ?_⟩
    have h : (Compile.decoderFor table t).run r = (.ok d, s) := h
    show (Compile.decoderFor table t).run _ = _
    rw [run_decoderFor] at h ⊢
    rw [(Registry.sparesDecoders_beneath key).decoderFor r, h]
  converter s t := answer_beneath (run_converterFor table s t) fun _ => rfl
  default t := answer_beneath (run_defaultFor table t) fun _ => rfl
  plan := hplan
  mark r _ _ := by
    refine ⟨.of_caches _ _, fun a s h => ?_⟩
    cases h
    rfl

/-- A target does not compile while one that it flattens is being compiled and has no plan. -/
theorem buildWith_refused {t v : TypeExpr} (hv : Flattens table Overrides.none t v)
    {r r' : Registry} {p : DecodePlan} (hmem : v.key ∈ r.building)
    (hnone : r.plans.lookup v.key = none) (n : Nat) :
    (Compile.buildWith (Compile.lookups table (Compile.planWithin table n)) table t
      Overrides.none).run r ≠ (.ok p, r') := by
  intro built
  -- The plan of `v` is never there.
  let Waiting (r : Registry) : Prop := v.key ∈ r.building ∧ r.plans.lookup v.key = none
  have hkeeps : ∀ {r r' : Registry}, Waiting r → r.Undisturbed r' → Waiting r' := by
    rintro r r' ⟨hmem, hnone⟩ h
    exact ⟨h.building.symm ▸ hmem, h.entered _ hmem hnone⟩
  have hrefused : ∀ r, Waiting r → ∃ f, ((Compile.planWithin table n v).run r).1 = .error f := by
    rintro r ⟨hmem, hnone⟩
    cases n with
    | zero => exact ⟨_, rfl⟩
    | succ n =>
      rw [run_planWithin]
      cases hkeyOf : Registry.keyOf v with
      | error f => exact ⟨f, rfl⟩
      | ok key =>
        obtain ⟨-, rfl⟩ := Uncached.keyOf_ok.mp hkeyOf
        dsimp only
        rw [hnone, if_pos (by simpa using hmem)]
        exact ⟨_, rfl⟩
  let refusing : Lookups Outcomes :=
    { Lookups.unknown with plan := fun w x => w = v → ∃ f, x = .error f }
  have hrelated : (Compile.lookups table (Compile.planWithin table n)).Related
      (Lifting.inRegistry Waiting (fun _ _ => True) (fun _ => trivial) fun _ _ => trivial)
      (fun _ => True) refusing := by
    obtain ⟨hdecoder, hconverter, hdefault, hplan, hmark⟩ :=
      lookups_undisturbed (planWithin_undisturbed table n)
    refine ⟨fun t r hr => ⟨hkeeps hr (hdecoder t r trivial).2.1, trivial, trivial⟩,
      fun s t r hr => ⟨hkeeps hr (hconverter s t r trivial).2.1, trivial, trivial⟩,
      fun t r hr => ⟨hkeeps hr (hdefault t r trivial).2.1, trivial, trivial⟩,
      fun w _ r hr => ⟨hkeeps hr (hplan w trivial r trivial).2.1, trivial, ?_⟩,
      fun r hr => ⟨hkeeps hr (hmark r trivial).2.1, trivial, trivial⟩⟩
    rintro rfl
    exact hrefused r hr
  obtain ⟨-, -, hpossible⟩ :=
    Compile.buildWith_related hrelated (fun _ _ => trivial) r ⟨hmem, hnone⟩
  rw [built] at hpossible
  obtain ⟨p', hp'⟩ := Uncached.asked_of_buildWith hpossible hv
  obtain ⟨f, hf⟩ := hp' rfl
  cases hf

/-- A registry in which one more target is being compiled. -/
def Registry.entering (r : Registry) (key : Key) : Registry :=
  { r with building := key :: r.building }

/-- A target is entered in the same way, if it is not the one beneath and compiles in the same
way. -/
theorem whileBuilding_beneath {α : Type} {k : Key} {m : Compile α} {r : Registry}
    (hm : ∀ a s, m.run (r.entering k) = (.ok a, s) →
      k ≠ key ∧ m.run ((r.entering k).beneath key) = (.ok a, s.beneath key)) {a : α} {s : Registry}
    (h : (Compile.whileBuilding k m).run r = (.ok a, s)) :
    k ≠ key ∧ (Compile.whileBuilding k m).run (r.beneath key) = (.ok a, s.beneath key) := by
  rw [run_whileBuilding] at h ⊢
  have hentered : ({ r.beneath key with building := k :: (r.beneath key).building } : Registry) =
      (r.entering k).beneath key := rfl
  rcases hrun : m.run (r.entering k) with ⟨f | b, s'⟩
  · rw [show m.run { r with building := k :: r.building } = _ from hrun] at h
    cases h
  · rw [show m.run { r with building := k :: r.building } = _ from hrun] at h
    cases h
    obtain ⟨hk, hsame⟩ := hm a s' hrun
    have hleft : (s'.building ++ [key]).filter (· != k) = s'.building.filter (· != k) ++ [key] := by
      have hkeep : [key].filter (· != k) = [key] :=
        List.filter_eq_self.mpr fun x hx => by
          rw [List.mem_singleton.mp hx]
          exact bne_iff_ne.mpr (Ne.symm hk)
      rw [List.filter_append, hkeep]
    rw [hentered, hsame]
    dsimp only [Registry.beneath]
    rw [hleft]
    exact ⟨hk, rfl⟩

/-- What `c` leads to is compiled in the same way while `c` is being compiled. It is not `c` itself:
that would be compiled while `d` is being compiled, which `c` flattens. -/
theorem buildWith_beneath {c : ClassRef} {n : Nat} {t : TypeExpr} {r : Registry}
    (hknown : ∃ e, t = .declared e ∧ table.Knows e) {d : TypeExpr}
    (hd : Flattens table Overrides.none (.declared c) d) (hdmem : d.key ∈ r.building)
    (hunfinished : r.Unfinished)
    (hnested : ∀ v, Flattens table Overrides.none t v →
      (Lifting.beneath c.key r.building).Rel (Compile.planWithin table n v)
        (Compile.planWithin table n v)) (p : DecodePlan) (s : Registry)
    (h : (Compile.buildWith (Compile.lookups table (Compile.planWithin table n)) table t
      Overrides.none).run r = (.ok p, s)) :
    t.key ≠ c.key ∧ (Compile.buildWith (Compile.lookups table (Compile.planWithin table n)) table t
      Overrides.none).run (r.beneath c.key) = (.ok p, s.beneath c.key) := by
  refine ⟨fun hself => ?_, ?_⟩
  · obtain ⟨e, rfl, he⟩ := hknown
    obtain rfl := ClassRef.eq_of_key hself
    exact buildWith_refused hd hdmem (hunfinished _ hdmem) n h
  · exact (Compile.buildWith_related (lookups_beneath hnested) (fun _ hv => hv) _ rfl
      hunfinished).2 p s h

/-- A class that `c` leads to is asked for in the same way while `c` is being compiled, unless that
is refused. The induction is on the levels. -/
theorem planWithin_beneath {c : ClassRef} : ∀ (n : Nat) {building : List Key} {t : TypeExpr},
    (∃ e, t = .declared e ∧ table.Knows e) →
    (∃ d, Flattens table Overrides.none (.declared c) d ∧ d.key ∈ t.key :: building) →
    (Lifting.beneath c.key building).Rel (Compile.planWithin table n t)
      (Compile.planWithin table n t) := by
  intro n
  induction n with
  | zero => exact fun _ _ => (Lifting.beneath c.key _).throw _
  | succ n ih =>
    rintro building t hknown ⟨d, hd, hdmem⟩ r rfl hunfinished
    refine ⟨planWithin_undisturbed table (n + 1) t r, fun p s h => ?_⟩
    rw [run_planWithin] at h ⊢
    cases hkeyOf : Registry.keyOf t with
    | error f =>
      rw [hkeyOf] at h
      cases h
    | ok key =>
      obtain ⟨-, rfl⟩ := Uncached.keyOf_ok.mp hkeyOf
      rw [hkeyOf] at h
      have hplans : (r.beneath c.key).plans.lookup t.key = r.plans.lookup t.key := rfl
      dsimp only at h ⊢
      rw [hplans]
      cases hlookup : r.plans.lookup t.key with
      | some kept =>
        rw [hlookup] at h
        cases h
        rfl
      | none =>
        rw [hlookup] at h
        dsimp only at h ⊢
        by_cases hmem : t.key ∈ r.building
        · rw [if_pos (by simpa using hmem)] at h
          cases h
        · rw [if_neg (by simpa using hmem)] at h
          -- With `t` among them, what is being compiled has no plan.
          have hentered : (r.entering t.key).Unfinished :=
            List.forall_mem_cons.mpr ⟨hlookup, hunfinished⟩
          have hnested : ∀ v, Flattens table Overrides.none t v →
              (Lifting.beneath c.key (t.key :: r.building)).Rel (Compile.planWithin table n v)
                (Compile.planWithin table n v) :=
            fun v hv => ih hv.known ⟨d, hd, List.mem_cons_of_mem _ hdmem⟩
          rcases hrun : (Compile.whileBuilding t.key (Compile.buildWith (Compile.lookups table
            (Compile.planWithin table n)) table t Overrides.none)).run r with ⟨f | q, r'⟩
          · rw [hrun] at h
            cases h
          · rw [hrun] at h
            cases h
            obtain ⟨hself, hsame⟩ :=
              whileBuilding_beneath (buildWith_beneath hknown hd hdmem hentered hnested) hrun
            have hfresh : t.key ∉ (r.beneath c.key).building := by
              show t.key ∉ r.building ++ [c.key]
              rw [List.mem_append, List.mem_singleton]
              exact not_or.mpr ⟨hmem, hself⟩
            rw [if_neg (by simpa using hfresh), hsame]
            rfl

/-- **A plan that is kept is the one that is compiled anew.** If a class has no plan in a registry
and compiles there, asking for its plan compiles it in the same way and keeps it. -/
theorem planFor_of_build {c : ClassRef} {r r' : Registry} {p : DecodePlan} (hr : r.building = [])
    (hnone : r.plans.lookup c.key = none)
    (built : (Compile.build table (.declared c) Overrides.none).run r = (.ok p, r')) :
    ∃ r'', (Compile.planFor table (.declared c)).run r = (.ok p, r'') := by
  -- One level more makes the levels below those of a compilation from outside.
  have hlevel : (Compile.planFor table (.declared c)).run r = (Compile.planStep table Compile.refuse
      (Compile.planFor table) (.declared c)).run r := by
    rw [← (Compile.planFor_terminates (Nat.le_succ (Compile.fuel table))
      (fun _ => throw Compile.tooDeep) (.declared c) r).1, Function.iterate_succ_apply',
      ← Compile.planWithin_eq_iterate]
    rfl
  have hnested : ∀ v, Flattens table Overrides.none (.declared c) v →
      (Lifting.beneath c.key []).Rel (Compile.planFor table v) (Compile.planFor table v) :=
    fun v hv => planWithin_beneath _ hv.known ⟨v, hv, List.mem_cons_self ..⟩
  have hunfinished : r.Unfinished := fun _ h => absurd (hr ▸ h) List.not_mem_nil
  have hsame := (Compile.buildWith_related (lookups_beneath hnested) (fun _ hv => hv) r hr
    hunfinished).2 p r' built
  have hbeneath : r.beneath c.key =
      { r with building := (TypeExpr.declared c).key :: r.building } := by
    unfold Registry.beneath
    rw [hr]
    rfl
  have hkey : Registry.keyOf (.declared c) = .ok (TypeExpr.declared c).key := rfl
  have hlookup : r.plans.lookup (TypeExpr.declared c).key = none := hnone
  rw [hlevel, run_planStep, hkey]
  dsimp only
  rw [hlookup, hr, if_neg (by simp), run_whileBuilding, ← hbeneath, hsame]
  exact ⟨_, rfl⟩

/-- A registry hands out the plan that it keeps for a class, or the one that is compiled anew. -/
theorem planFor_kept_or_built {c : ClassRef} {r r' : Registry} {p : DecodePlan}
    (hr : r.building = [])
    (built : (Compile.build table (.declared c) Overrides.none).run r = (.ok p, r')) :
    ∃ r'', (Compile.planFor table (.declared c)).run r =
      (.ok ((r.plans.lookup c.key).getD p), r'') := by
  cases hkept : r.plans.lookup c.key with
  | some kept => exact ⟨r, run_planFor_of_kept rfl hkept⟩
  | none => exact planFor_of_build hr hkept built

end

/-! ## Sessions -/

namespace Session

variable {σ : Session} {name : String} {r r' : Registry}

theorem run_getRegistry (hr : σ.registryNamed? name = some r) :
    (getRegistry name).run σ = (.ok r, σ) := by
  unfold getRegistry
  rw [Running.run_bind_of_ok (Running.run_get σ), hr]
  rfl

theorem run_inRegistry {α : Type} (hr : σ.registryNamed? name = some r) (m : Compile α) :
    (inRegistry name m).run σ = ((m.run r).1, σ.putRegistry (m.run r).2) := by
  unfold inRegistry
  rw [Running.run_bind_of_ok (run_getRegistry hr)]
  rcases m.run r with ⟨_ | a, r'⟩ <;> rfl

theorem run_planFor (hr : σ.registryNamed? name = some r) (t : TypeExpr) :
    (planFor name t).run σ = (((Compile.planFor σ.classes t).run r).1,
      σ.putRegistry ((Compile.planFor σ.classes t).run r).2) := by
  unfold planFor
  rw [Running.run_bind_of_ok (Running.run_get σ), run_inRegistry hr]

theorem run_build (hr : σ.registryNamed? name = some r) (t : TypeExpr) (overrides : Overrides) :
    (build name t overrides).run σ = (((Compile.build σ.classes t overrides).run r).1,
      σ.putRegistry ((Compile.build σ.classes t overrides).run r).2) := by
  unfold build
  rw [Running.run_bind_of_ok (Running.run_get σ), run_inRegistry hr]

/-- A registry that was put in the place of another one is found there. -/
theorem registryNamed?_putRegistry (hr : σ.registryNamed? name = some r)
    (hname : r'.name = r.name) : (σ.putRegistry r').registryNamed? name = some r' := by
  unfold registryNamed? at hr ⊢
  have hfound : r.name = name := by
    have hmatch := List.find?_some hr
    exact beq_iff_eq.mp hmatch
  have hkeep : (fun old : Registry =>
      (if old.name == r'.name then r' else old).name == name) = (·.name == name) := by
    funext old
    rw [hname, hfound]
    split
    next h => rw [h, hname, hfound, beq_self_eq_true]
    next => rfl
  show (List.map _ σ.registries).find? _ = _
  rw [List.find?_map, Function.comp_def, hkeep, hr, Option.map_some, hname,
    if_pos (beq_self_eq_true _)]

end Session

namespace Derive

variable {σ : Session} {name : String} {r : Registry} {c : ClassRef} {table : ClassTable}

/-- What a derivation attaches to a class. -/
def attaching (name : String) (p : DecodePlan) (info : ClassInfo) : ClassInfo :=
  { info with
    plan := some p
    attributes := ("from_row", .rowMapping name) :: info.attributes }

theorem keepsOrigin_withPlan (name : String) (p : DecodePlan) : KeepsOrigin (attaching name p) :=
  fun _ => ⟨rfl, rfl⟩

/-- A class with a plan has it. -/
theorem plan_withPlan (hc : table.Knows c) (name : String) (p : DecodePlan) :
    ((withPlan table c name p).info c).plan = some p := by
  obtain ⟨own, hown⟩ := hc
  exact congrArg (·.plan) (ClassTable.info_update (keepsOrigin_withPlan name p) hown)

/-- A class whose operation was attached by a derivation maps rows by its own plan, or else by the
one that the registry has for it. -/
theorem run_mapRow_of_attribute
    (hattribute : σ.classes.attribute? c "from_row" = some (.rowMapping name)) (row : Value) :
    (mapRow c row).run σ =
      (do execute (Level.ofDepth 999) (← RowDecoding.planOf c name) row : Run Value).run σ := by
  unfold mapRow
  rw [Running.run_bind_of_ok (Running.run_get σ), hattribute]
  rfl

/-- The plan of a class is the one that is attached to it. -/
theorem run_planOf_attached {p : DecodePlan} (hp : (σ.classes.info c).plan = some p) :
    (RowDecoding.planOf c name).run σ = (.ok p, σ) := by
  unfold RowDecoding.planOf
  rw [Running.run_bind_of_ok (Running.run_get σ), hp]
  rfl

/-- A class with a plan maps rows by it. -/
theorem run_mapRow (hc : table.Knows c) (hclasses : ∃ p, σ.classes = withPlan table c name p)
    {p : DecodePlan} (hp : (σ.classes.info c).plan = some p) (row : Value) :
    (mapRow c row).run σ = (execute (Level.ofDepth 999) p row).run σ := by
  obtain ⟨own, hown⟩ := hc
  obtain ⟨q, hclasses⟩ := hclasses
  have hattribute : σ.classes.attribute? c "from_row" = some (.rowMapping name) := by
    rw [hclasses]
    unfold ClassTable.attribute? ClassTable.lineage
    rw [show (withPlan table c name q).known? c = _ from
      ClassTable.known?_update (keepsOrigin_withPlan name q) hown]
    rfl
  rw [run_mapRow_of_attribute hattribute, Running.run_bind_of_ok (run_planOf_attached hp)]

/-- Asks for the plan of a class and attaches it. -/
def attach (c : ClassRef) (name : String) : Run Unit := do
  let p ← Session.planFor name (.declared c)
  modify fun s => { s with classes := withPlan s.classes c name p }

/-- Where its convention cannot be noted, nothing happens in a derivation. -/
theorem run_derive_of_error {v : Value} {f : Failure}
    (h : withConvention σ.classes c v = .error f) :
    (derive c (some v) name).run σ = (.error f, σ) := by
  have hlift : (Run.lift (withConvention σ.classes c v)).run σ = (.error f, σ) := by
    rw [h]
    rfl
  unfold derive
  dsimp only
  rw [Running.run_bind_of_ok (Running.run_get σ), Running.run_bind_of_error hlift]

/-- Where its convention is noted, the plan of the class is attached then. -/
theorem run_derive_of_ok {v : Value} (h : withConvention σ.classes c v = .ok table) :
    (derive c (some v) name).run σ = (attach c name).run { σ with classes := table } := by
  have hlift : (Run.lift (withConvention σ.classes c v)).run σ = (.ok table, σ) := by
    rw [h]
    rfl
  unfold derive
  dsimp only
  rw [Running.run_bind_of_ok (Running.run_get σ), Running.run_bind_of_ok hlift,
    Running.run_bind_of_ok (Running.run_modify _ σ)]
  rfl

/-- A derivation with a convention notes it, asks for the plan of the class and attaches that. -/
theorem run_derive {v : Value} {p : DecodePlan} {r' : Registry}
    (hr : σ.registryNamed? name = some r) (htable : withConvention σ.classes c v = .ok table)
    (hplan : (Compile.planFor table (.declared c)).run r = (.ok p, r')) :
    (derive c (some v) name).run σ =
      (.ok ⟨⟩, { σ.putRegistry r' with classes := withPlan table c name p }) := by
  have hr' : ({ σ with classes := table } : Session).registryNamed? name = some r := hr
  have hasked : (Session.planFor name (.declared c)).run { σ with classes := table } =
      (.ok p, ({ σ with classes := table } : Session).putRegistry r') := by
    rw [Session.run_planFor hr', hplan]
  rw [run_derive_of_ok htable]
  unfold attach
  rw [Running.run_bind_of_ok hasked]
  rfl

end Derive

/-! ## Three ways to set a convention -/

/-- **Conventions agree on a plan, unless an older one is kept.** Take a class that compiles in a
registry, and a convention. The class then compiles with the convention from outside, and with the
convention noted on it, and the two plans read the same of a row; they are one plan if nothing that
the class leads to heeds it. Deriving the class with the convention attaches the plan that the
registry keeps for it already, or else the one with the convention noted; so its steps are those
of that one just if no plan with other steps is kept. Asking the registry for the plan of the class
and mapping rows by the class use what was attached. -/
theorem conventions_agree_iff {σ : Session} {name : String} {r : Registry} {c : ClassRef}
    {v : Value} {convention : Naming.Convention} {p₀ : DecodePlan} {σ₀ : Session}
    (hr : σ.registryNamed? name = some r) (hidle : r.building = []) (hv : v.Names convention)
    (hcompiles : (Session.build name (.declared c) Overrides.none).run σ = (.ok p₀, σ₀)) :
    ∃ table outside inside attached σ',
      Derive.withConvention σ.classes c v = .ok table ∧
      ((Session.build name (.declared c) (Overrides.none.renameAll v)).run σ).1 = .ok outside ∧
      ((Session.build name (.declared c) Overrides.none).run { σ with classes := table }).1 =
        .ok inside ∧
      inside.outline = outside.outline ∧
      ((∀ d, Reaches σ.classes (.declared c) (.declared d) → ¬σ.classes.Heeds d c) →
        inside = outside) ∧
      (Derive.derive c (some v) name).run σ = (.ok ⟨⟩, σ') ∧
      (σ'.classes.info c).plan = some attached ∧
      attached = (r.plans.lookup c.key).getD inside ∧
      (attached.steps = inside.steps ↔
        ∀ kept, r.plans.lookup c.key = some kept → kept.steps = inside.steps) ∧
      ((Session.planFor name (.declared c)).run σ').1 = .ok attached ∧
      ∀ row, (Derive.mapRow c row).run σ' = (execute (Level.ofDepth 999) attached row).run σ' := by
  rw [Session.run_build hr] at hcompiles
  have hbuilt : (Compile.build σ.classes (.declared c) Overrides.none).run r = (.ok p₀,
      ((Compile.build σ.classes (.declared c) Overrides.none).run r).2) :=
    Prod.ext (Prod.mk.inj hcompiles).1 rfl
  obtain ⟨schema, -, hschema, -⟩ := Compile.said_of_build hbuilt
  have hknown := introspect_known hschema
  obtain ⟨table, htable⟩ := withConvention_of_introspect hschema v
  obtain ⟨outside, inside, s, s', houtside, hinside, houtline⟩ :=
    Compile.build_either hv htable hknown hbuilt
  have hsame : (∀ d, Reaches σ.classes (.declared c) (.declared d) → ¬σ.classes.Heeds d c) →
      inside = outside := by
    intro hnested
    rw [Compile.build_withConvention hknown htable hnested, houtside] at hinside
    exact (Except.ok.inj (Prod.mk.inj hinside).1).symm
  have hnoted : ({ σ with classes := table } : Session).registryNamed? name = some r := hr
  obtain ⟨attached, hattached⟩ : ∃ attached, attached = (r.plans.lookup c.key).getD inside :=
    ⟨_, rfl⟩
  obtain ⟨r', hplan⟩ := planFor_kept_or_built hidle hinside
  rw [← hattached] at hplan
  have hderived := Derive.run_derive hr htable hplan
  have hname : r'.name = r.name := by
    have hleft := (steady_planFor table (.declared c)).leaves r
    rw [hplan] at hleft
    exact congrArg (·.name) hleft.registrations
  obtain ⟨key, hkey, hkept⟩ := planFor_kept hplan
  have hhas := Derive.plan_withPlan (knows_of_withConvention hknown htable) name attached
  refine ⟨table, outside, inside, attached, _, htable, ?_, ?_, houtline, hsame, hderived, hhas,
    hattached, ?_, ?_, fun row => ?_⟩
  · rw [Session.run_build hr, houtside]
  · rw [Session.run_build hnoted, hinside]
  · rw [hattached]
    cases r.plans.lookup c.key with
    | none => exact ⟨fun _ _ h => (nomatch h), fun _ => rfl⟩
    | some kept => exact ⟨fun h _ heq => Option.some.inj heq ▸ h, fun h => h kept rfl⟩
  · have hfound :
        ({ σ.putRegistry r' with
          classes := Derive.withPlan table c name attached } : Session).registryNamed? name =
            some r' :=
      Session.registryNamed?_putRegistry hr hname
    rw [Session.run_planFor hfound, run_planFor_of_kept hkey hkept]
  · exact Derive.run_mapRow (knows_of_withConvention hknown htable) ⟨_, rfl⟩ hhas row

/-! ## A class whose plan was asked for before it is derived -/

namespace PlannedBefore

/-- A class with one field. -/
def user : ClassRef := ⟨"User", 1, .dataclass .none⟩

def session : Session :=
  ((Derive.declare (.dataclass "User" none [.given "user_id" (.builtin .int)]) none).run
    (Session.create [])).2

/-- The plan of `user` has been asked for. -/
def planned : Session :=
  ((Session.planFor Session.standardRegistry (.declared user)).run session).2

/-- A convention in which the field is called otherwise. -/
def convention : Value := .convention .camelCase

/-- The columns that a plan reads. -/
def columns (p : DecodePlan) : List (Option String) :=
  p.steps.map fun s => s.strategy.key?.bind (·.asText?)

/-- What a plan reads that is compiled with the convention, and what the plan reads that is attached
with it. -/
def found (σ : Session) : Option (List (Option String) × List (Option String)) :=
  match ((Session.build Session.standardRegistry (.declared user)
      (Overrides.none.renameAll convention)).run σ).1,
    (Derive.derive user (some convention) Session.standardRegistry).run σ with
  | .ok p, (.ok _, σ') =>
      (σ'.classes.info user).plan.map fun attached => (columns p, columns attached)
  | _, _ => none

/-- The plan of `user` is kept, and what is attached to it with the convention is that plan, which
reads another column than a plan with the convention does. -/
theorem attached_outdated : ∃ p attached σ',
    ((Session.build Session.standardRegistry (.declared user)
      (Overrides.none.renameAll convention)).run planned).1 = .ok p ∧
    (Derive.derive user (some convention) Session.standardRegistry).run planned = (.ok ⟨⟩, σ') ∧
    (σ'.classes.info user).plan = some attached ∧
    columns p = [some "userId"] ∧ columns attached = [some "user_id"] := by
  have hfound : found planned = some ([some "userId"], [some "user_id"]) := by
    with_unfolding_all rfl
  unfold found at hfound
  split at hfound
  next p _ σ' hp hderived =>
    obtain ⟨attached, hattached, hcolumns⟩ := Option.map_eq_some_iff.mp hfound
    obtain ⟨houtside, hinside⟩ := Prod.mk.inj hcolumns
    exact ⟨p, attached, σ', hp, hderived, hattached, houtside, hinside⟩
  next => cases hfound

theorem reaches_nothing (t : TypeExpr) : ¬Reaches session.classes (.declared user) t := by
  intro h
  obtain ⟨v, ⟨⟨schema, f, directives, hschema, hf, hd, hflat, -⟩, -⟩, -⟩ :=
    Relation.TransGen.head'_iff.mp h
  have hread : introspect session.classes (.declared user) = .ok ⟨.declared user, .byName,
      [⟨some "user_id", .builtin .int, 0, [], none⟩], []⟩ := by
    with_unfolding_all rfl
  rw [hread] at hschema
  cases hschema
  obtain rfl := List.mem_singleton.mp hf
  cases hd
  cases hflat

/-- Before its plan has been asked for, `user` has one plan with the convention, however that is
set. -/
theorem conventions_agree_user : ∃ p σ',
    ((Session.build Session.standardRegistry (.declared user)
      (Overrides.none.renameAll convention)).run session).1 = .ok p ∧
    (Derive.derive user (some convention) Session.standardRegistry).run session = (.ok ⟨⟩, σ') ∧
    (σ'.classes.info user).plan = some p ∧
    ((Session.planFor Session.standardRegistry (.declared user)).run σ').1 = .ok p ∧
    ∀ row, (Derive.mapRow user row).run σ' = (execute (Level.ofDepth 999) p row).run σ' := by
  have hbuilt : ((Session.build Session.standardRegistry (.declared user) Overrides.none).run
      session).1.isOk = true := by
    decide +kernel
  obtain ⟨p₀, σ₀, hcompiles⟩ := Running.exists_of_isOk hbuilt
  have hregistry : session.registryNamed? Session.standardRegistry =
      some (Registry.create Session.standardRegistry .standard) := by
    with_unfolding_all rfl
  obtain ⟨-, outside, inside, attached, σ', -, houtside, -, -, hsame, hderived, hhas, hattached,
    -, hplan, hrows⟩ :=
    conventions_agree_iff hregistry rfl (names_convention .camelCase) hcompiles
  have hcommon : attached = outside :=
    hattached.trans (hsame fun d hd => absurd hd (reaches_nothing _))
  subst hcommon
  exact ⟨attached, σ', houtside, hderived, hhas, hplan, hrows⟩

end PlannedBefore

end RowDecoding
