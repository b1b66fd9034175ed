import Mathlib.Logic.Function.Iterate
import RowDecoding.Proofs.Absence
import RowDecoding.Proofs.Nesting

/-!
# Recursive flattening

A target can flatten itself, directly or through the classes that it flattens. Compiling it would go
round in that cycle, so a target that is met again while it is being compiled is refused. This file
proves that the check does what it is there for, whatever was called before: it stops every
compilation, it refuses nothing but cycles, and it lets none of them through.

Two runs of the same compilation are compared throughout. `Lifting.alike` relates computations that
run alike while the same targets are being compiled, and that leave these targets as they were; a
failure of the first one may be excepted. What one level keeps (`planStep_alike`), compilations of
any depth keep (`iterate_planStep_alike`), since each level down enters one more class of the table.

* With nothing excepted, it follows that depth does not matter: what stands below the level that the
  classes lead to is never asked for.
* With the refusals of cycles excepted, a compilation is compared to one without the check
  (`planUnchecked`): they differ only where there is a cycle.

> `planFor_refuses_cycles`: plans are refused just where a cycle is reached, and no plan that is
> kept leads to one.
-/

namespace RowDecoding

/-! ## Cycles -/

/-- From a target a cycle of flattened fields is reached. -/
def LeadsToCycle (table : ClassTable) (t : TypeExpr) : Prop :=
  ∃ v, Relation.ReflTransGen (HasFlattened table Overrides.none) t v ∧
    Relation.TransGen (HasFlattened table Overrides.none) v v

/-- No class has a row mapping but one that a derivation has put on the class itself. -/
def ClassTable.OnlyDerived (table : ClassTable) : Prop :=
  ∀ info ∈ table.classes, info.plan.isSome = true ∨ table.attribute? info.ref "from_row" = none

variable {table : ClassTable} {t v : TypeExpr}

/-- What is reached by plans is reached by flattened fields. -/
theorem Reaches.hasFlattened (h : Reaches table t v) :
    Relation.TransGen (HasFlattened table Overrides.none) t v :=
  Relation.TransGen.mono (fun _ _ (hedge : Flattens table Overrides.none _ _) => hedge.1) t v h

namespace Uncached

variable {r : Registry} {p : DecodePlan}

/-- What a target that compiles builds from the whole row is built by a plan, and compiles too. -/
theorem compiled_of_flattened (htable : table.OnlyDerived) {fuel : Nat} {building : List Key}
    (h : compile r table (planWithin r table fuel) building t (.ok p))
    (hv : HasFlattened table Overrides.none t v) :
    Flattens table Overrides.none t v ∧
      ∃ fuel' building' p', compile r table (planWithin r table fuel') building' v (.ok p') := by
  obtain ⟨-, -, hbuilt⟩ := compile_ok.mp h
  obtain ⟨s, -, m, -, hmapper⟩ := step_of_flattened hbuilt hv
  have hflattens : Flattens table Overrides.none t v := by
    refine ⟨hv, ?_⟩
    rcases mapperFor_some hmapper with hown | ⟨hplan, -⟩
    · exact absurd hown (not_own_of_derived htable v m)
    · exact hplan
  obtain ⟨fuel', p', -, hcompiled⟩ := compile_flattened h hflattens
  exact ⟨hflattens, fuel', _, p', hcompiled⟩

/-- A target that compiles leads to no cycle. -/
theorem not_leadsToCycle (htable : table.OnlyDerived) {fuel : Nat} {building : List Key}
    (h : compile r table (planWithin r table fuel) building t (.ok p)) :
    ¬LeadsToCycle table t := by
  -- Along flattened fields every target compiles, and each is flattened by its plan.
  have hpath : ∀ {a b : TypeExpr}, Relation.ReflTransGen (HasFlattened table Overrides.none) a b →
      ∀ {fuel : Nat} {building : List Key} {p : DecodePlan},
        compile r table (planWithin r table fuel) building a (.ok p) →
        Relation.ReflTransGen (Flattens table Overrides.none) a b ∧
          ∃ fuel' building' p', compile r table (planWithin r table fuel') building' b (.ok p') := by
    intro a b hab fuel building p ha
    induction hab with
    | refl => exact ⟨.refl, _, _, _, ha⟩
    | tail _ hedge ih =>
      obtain ⟨hpath, fuel', building', p', hcompiled⟩ := ih
      obtain ⟨hflattens, hnext⟩ := compiled_of_flattened htable hcompiled hedge
      exact ⟨.tail hpath hflattens, hnext⟩
  rintro ⟨v, hreach, hcycle⟩
  obtain ⟨-, _, _, _, hv⟩ := hpath hreach h
  obtain ⟨w, hvw, hback⟩ := Relation.TransGen.tail'_iff.mp hcycle
  obtain ⟨hflat, _, _, _, hw⟩ := hpath hvw hv
  have hself : Reaches table v v :=
    Relation.TransGen.tail' hflat (compiled_of_flattened htable hw hback).1
  exact compile_avoids hv hself (List.mem_cons_self ..)

end Uncached

/-- No plan that is kept for a class leads to a cycle. -/
theorem Cached.lookup_plans_of_cycle {u r : Registry} {building : List Key}
    (h : Cached u table building r) (htable : table.OnlyDerived) {c : ClassRef}
    (hcycle : LeadsToCycle table (.declared c)) : r.plans.lookup c.key = none := by
  cases hp : r.plans.lookup c.key with
  | none => rfl
  | some p =>
    obtain ⟨t, hkey, hplan⟩ := h.plans _ _ hp
    obtain ⟨htarget, hcompiled⟩ := Uncached.compiled_of_planFor hplan
    rw [declared_of_key (htarget.trans hkey)] at hcompiled
    exact absurd hcycle (Uncached.not_leadsToCycle htable hcompiled)

/-! ## Runs that are alike -/

/-- Computations that run alike while targets with these keys are being compiled, unless the first
one fails with an excepted failure. The first one leaves these targets as they were. -/
def Lifting.alike (building : List Key) (Excepted : Failure → Prop) : Lifting Compile Compile where
  Rel m m' := ∀ r : Registry, r.building = building →
    (m.run r).2.building = building ∧
      (m.run r = m'.run r ∨ ∃ f, Excepted f ∧ (m.run r).1 = .error f)
  pure a r hr := ⟨hr, Or.inl rfl⟩
  throw f r hr := ⟨hr, Or.inl rfl⟩
  bind {α β x y k l} hx hk r hr := by
    obtain ⟨hs, hsame⟩ := hx r hr
    rw [Running.run_bind, Running.run_bind]
    rcases hrun : x.run r with ⟨f | a, s⟩
    · rw [hrun] at hs hsame
      rcases hsame with hsame | ⟨g, hg, hfg⟩
      · rw [← hsame]
        exact ⟨hs, Or.inl rfl⟩
      · exact ⟨hs, Or.inr ⟨g, hg, congrArg Except.error (Except.error.inj hfg)⟩⟩
    · rw [hrun] at hs hsame
      rcases hsame with hsame | ⟨g, -, hfg⟩
      · rw [← hsame]
        exact hk a s hs
      · cases hfg
  lift_bind {α β e k l} hk r hr := by
    cases e with
    | error f => exact ⟨hr, Or.inl rfl⟩
    | ok a => exact hk a rfl r hr

section

variable {building : List Key} {Excepted : Failure → Prop}

/-- A computation that leaves the targets that are being compiled as they were. -/
theorem Lifting.alike_refl {α : Type} {m : Compile α}
    (h : ∀ r, (m.run r).2.building = r.building) :
    (Lifting.alike building Excepted).Rel m m :=
  fun r hr => ⟨(h r).trans hr, Or.inl rfl⟩

theorem Registry.remembering_building (r : Registry) (t : TypeExpr)
    (x : Except Failure (Option Transform)) : (r.remembering t x).2.building = r.building := by
  cases x <;> rfl

theorem Registry.directDecoder_building (r : Registry) (table : ClassTable) (t : TypeExpr) :
    (r.directDecoder table t).2.building = r.building := by
  unfold Registry.directDecoder
  split
  · rfl
  · exact r.remembering_building t _

theorem Registry.decoderFor_building (r : Registry) (table : ClassTable) (t : TypeExpr) :
    (r.decoderFor table t).2.building = r.building := by
  unfold Registry.decoderFor
  split
  · rfl
  · split
    · rfl
    · split
      next inner _ _ =>
        exact (Registry.remembering_building _ t _).trans (r.directDecoder_building table inner)
      next => exact r.remembering_building t _

/-- An answer from the registrations leaves the registry as it was. -/
theorem lift_building {α : Type} (answer : Registry → Except Failure α) (r : Registry) :
    ((do Compile.lift (answer (← get)) : Compile α).run r).2.building = r.building := by
  rw [Running.run_bind_of_ok (Running.run_get r)]
  cases answer r <;> rfl

/-- What a registry answers runs alike, if its plans do. -/
theorem lookups_alike {Asked : TypeExpr → Prop} {plan plan' : TypeExpr → Compile DecodePlan}
    (h : ∀ v, Asked v → (Lifting.alike building Excepted).Rel (plan v) (plan' v)) :
    (Compile.lookups table plan).Related (Lifting.alike building Excepted) Asked
      (Compile.lookups table plan') where
  decoder t := Lifting.alike_refl fun r => by
    show ((Compile.decoderFor table t).run r).2.building = _
    rw [run_decoderFor]
    exact r.decoderFor_building table t
  converter s t := Lifting.alike_refl (lift_building fun r => r.converterFor table s t)
  default t := Lifting.alike_refl (lift_building fun r => r.defaultFor table t)
  plan := h
  mark := Lifting.alike_refl fun _ => rfl

/-- Compiling a target leaves off where it started. -/
theorem whileBuilding_alike {α : Type} {key : Key} {m m' : Compile α} (hkey : key ∉ building)
    (hm : (Lifting.alike (key :: building) Excepted).Rel m m') :
    (Lifting.alike building Excepted).Rel (Compile.whileBuilding key m)
      (Compile.whileBuilding key m') := by
  intro r hr
  rw [run_whileBuilding, run_whileBuilding]
  obtain ⟨hbuilding, hsame⟩ := hm { r with building := key :: r.building } (by rw [← hr])
  refine ⟨?_, ?_⟩
  · show List.filter _ _ = building
    rw [hbuilding, filter_cons_of_new hkey]
  · rcases hsame with hsame | hfailed
    · rw [hsame]
      exact Or.inl rfl
    · exact Or.inr hfailed

/-! ## Levels of a compilation -/

/-- One level of a compilation runs alike, if the levels below do and what is met again does. -/
theorem planStep_alike {again again' nested nested' : TypeExpr → Compile DecodePlan}
    (hagain : t.key ∈ building → (Lifting.alike building Excepted).Rel (again t) (again' t))
    (hnested : t.key ∉ building → ∀ v, Flattens table Overrides.none t v →
      (Lifting.alike (t.key :: building) Excepted).Rel (nested v) (nested' v)) :
    (Lifting.alike building Excepted).Rel (Compile.planStep table again nested t)
      (Compile.planStep table again' nested' t) := by
  intro r hr
  rw [run_planStep, run_planStep]
  cases hkeyOf : Registry.keyOf t with
  | error f => exact ⟨hr, Or.inl rfl⟩
  | ok key =>
    obtain ⟨-, rfl⟩ := Uncached.keyOf_ok.mp hkeyOf
    dsimp only
    cases r.plans.lookup t.key with
    | some p => exact ⟨hr, Or.inl rfl⟩
    | none =>
      dsimp only
      rw [hr]
      by_cases hmem : t.key ∈ building
      · rw [if_pos (by simpa using hmem), if_pos (by simpa using hmem)]
        exact hagain hmem r hr
      · rw [if_neg (by simpa using hmem), if_neg (by simpa using hmem)]
        obtain ⟨hbuilding, hsame⟩ := whileBuilding_alike hmem
          (Compile.buildWith_related (lookups_alike (hnested hmem)) fun _ hv => hv) r hr
        rcases hrun : (Compile.whileBuilding t.key (Compile.buildWith
          (Compile.lookups table nested) table t Overrides.none)).run r with ⟨f | p, r'⟩
        · rw [hrun] at hbuilding hsame
          rcases hsame with hsame | ⟨g, hg, hfg⟩
          · rw [← hsame]
            exact ⟨hbuilding, Or.inl rfl⟩
          · exact ⟨hbuilding, Or.inr ⟨g, hg, hfg⟩⟩
        · rw [hrun] at hbuilding hsame
          rcases hsame with hsame | ⟨g, -, hfg⟩
          · rw [← hsame]
            exact ⟨hbuilding, Or.inl rfl⟩
          · cases hfg

/-- Compilations run alike with any number of levels beyond the classes left to enter, whatever
stands below, if what is met again runs alike. `Met` says where a target can be met. The induction
is on the levels; each of them enters a class that was left. -/
theorem iterate_planStep_alike {again again' bottom bottom' : TypeExpr → Compile DecodePlan}
    (Met : List Key → TypeExpr → Prop)
    (hdown : ∀ {building t v}, Met building t → Flattens table Overrides.none t v →
      Met (t.key :: building) v)
    (hagain : ∀ {building t}, Met building t → t.key ∈ building →
      (Lifting.alike building Excepted).Rel (again t) (again' t)) :
    ∀ {n n' : Nat} {building : List Key} {t : TypeExpr}, Met building t →
      (t.key ∉ building → table.pending (t.key :: building) < n ∧
        table.pending (t.key :: building) < n') →
      (Lifting.alike building Excepted).Rel
        ((Compile.planStep table again)^[n + 1] bottom t)
        ((Compile.planStep table again')^[n' + 1] bottom' t) := by
  intro n
  induction n with
  | zero =>
    intro n' building t hmet hroom
    rw [Function.iterate_succ_apply', Function.iterate_succ_apply']
    exact planStep_alike (hagain hmet) fun hfresh =>
      absurd (hroom hfresh).1 (Nat.not_lt_zero _)
  | succ n ih =>
    intro n' building t hmet hroom
    rw [Function.iterate_succ_apply' _ (n + 1), Function.iterate_succ_apply' _ n']
    refine planStep_alike (hagain hmet) fun hfresh v hv => ?_
    obtain ⟨hless, hless'⟩ := hroom hfresh
    obtain ⟨k, rfl⟩ : ∃ k, n' = k + 1 := ⟨n' - 1, by omega⟩
    obtain ⟨c, rfl, hc⟩ := hv.known
    refine ih (hdown hmet hv) fun hnot => ?_
    have hentered : table.pending (c.key :: t.key :: building) <
        table.pending (t.key :: building) := hc.pending_lt hnot
    show table.pending (c.key :: t.key :: building) < n ∧
      table.pending (c.key :: t.key :: building) < k
    omega

end

namespace Compile

/-- The plan of a target is compiled level by level. -/
theorem planWithin_eq_iterate (table : ClassTable) :
    ∀ n : Nat, planWithin table n = (planStep table refuse)^[n] fun _ => throw tooDeep := by
  intro n
  induction n with
  | zero => rfl
  | succ n ih => rw [planWithin_succ, ih, Function.iterate_succ_apply']

/-- What a target that is met again can be given in the place of its plan. -/
def standIn (_ : TypeExpr) : Compile DecodePlan :=
  pure default

/-- Compiles a target without the check: a target that is met again while it is being compiled is
given a stand-in. -/
def planUnchecked (table : ClassTable) (t : TypeExpr) : Compile DecodePlan :=
  (planStep table standIn)^[fuel table] (fun _ => throw tooDeep) t

/-- **Compiling comes to an end.** A compilation has as many levels as there are classes, and two
more: with any number of levels from there on, and with anything below them, it is the same. -/
theorem planFor_terminates {n : Nat} (hn : fuel table ≤ n)
    (bottom : TypeExpr → Compile DecodePlan) (t : TypeExpr) (r : Registry) :
    ((planStep table refuse)^[n] bottom t).run r = (planFor table t).run r ∧
      ((planFor table t).run r).2.building = r.building := by
  obtain ⟨k, rfl⟩ : ∃ k, n = k + 1 := ⟨n - 1, by unfold fuel at hn; omega⟩
  have hpending := table.pending_le (t.key :: r.building)
  have halike : (Lifting.alike r.building fun _ => False).Rel (planFor table t)
      ((planStep table refuse)^[k + 1] bottom t) := by
    rw [planFor, planWithin_eq_iterate]
    refine iterate_planStep_alike (fun _ _ => True) (fun _ _ => trivial)
      (fun _ _ => Lifting.alike_refl fun _ => rfl) trivial fun _ => ?_
    unfold fuel at hn
    omega
  obtain ⟨hbuilding, hsame | ⟨_, hno, -⟩⟩ := halike r rfl
  · exact ⟨hsame.symm, hbuilding⟩
  · exact hno.elim

/-- A compilation goes as it does without the check, unless it is refused for a cycle that its
target leads to. -/
theorem planFor_or_cycle {r : Registry} (hr : r.building = []) (t : TypeExpr) :
    (planFor table t).run r = (planUnchecked table t).run r ∨
      ∃ v, Relation.ReflTransGen (HasFlattened table Overrides.none) t v ∧
        Relation.TransGen (HasFlattened table Overrides.none) v v ∧
        ((planFor table t).run r).1 = .error (recursiveFlatten v) := by
  -- A target that is met has what is being compiled around it, and is reached from `t`.
  let Met (building : List Key) (v : TypeExpr) : Prop :=
    Around table building v ∧ Relation.ReflTransGen (HasFlattened table Overrides.none) t v
  let Refused (f : Failure) : Prop :=
    ∃ v, Relation.ReflTransGen (HasFlattened table Overrides.none) t v ∧
      Relation.TransGen (HasFlattened table Overrides.none) v v ∧ f = recursiveFlatten v
  have halike : (Lifting.alike [] Refused).Rel (planFor table t) (planUnchecked table t) := by
    rw [planFor, planWithin_eq_iterate, planUnchecked]
    refine iterate_planStep_alike Met (fun hmet hv => ⟨hmet.1.cons hv, hmet.2.tail hv.1⟩)
      (fun hmet hmem r hr => ?_) ⟨fun _ h => absurd h List.not_mem_nil, .refl⟩ fun _ => ?_
    · -- What is being compiled and met again reaches itself.
      obtain ⟨haround, hreach⟩ := hmet
      obtain ⟨a, hkey, ha⟩ := haround _ hmem
      obtain rfl := Reaches.eq_of_key ha hkey
      exact ⟨hr, Or.inr ⟨_, ⟨a, hreach, ha.hasFlattened, rfl⟩, rfl⟩⟩
    · have := table.pending_le [t.key]
      omega
  obtain ⟨-, hsame | ⟨_, ⟨v, hreach, hcycle, rfl⟩, hrefused⟩⟩ := halike r hr
  · exact Or.inl hsame
  · exact Or.inr ⟨v, hreach, hcycle, hrefused⟩

end Compile

/-! ## Registries after any calls -/

/-- A registry that calls led to: registrations and lookups, and compilations with directives from
outside. Any of them may have failed. -/
inductive Reached (table : ClassTable) : Registry → Prop
  | created (name : String) (config : RegistryConfig) : Reached table (Registry.create name config)
  | called {r : Registry} (h : Reached table r) (call : Call) : Reached table (call.run table r)
  | built {r : Registry} (h : Reached table r) (t : TypeExpr) (overrides : Overrides) :
    Reached table ((Compile.build table t overrides).run r).2

/-- Calls keep the caches right. -/
theorem Reached.cached {r : Registry} (h : Reached table r) : ∃ u, Cached u table [] r := by
  induction h with
  | created name config => exact ⟨_, create_cached table name config⟩
  | called _ call ih =>
    obtain ⟨u, hu⟩ := ih
    exact ⟨_, Call.run_cached hu call⟩
  | built _ t overrides ih =>
    obtain ⟨u, hu⟩ := ih
    exact ⟨u, (build_answers _ hu).1⟩

/-- A target compiles, recursion apart: without the check it gets a plan. -/
def OtherwiseCompiles (table : ClassTable) (r : Registry) (t : TypeExpr) : Prop :=
  ∃ p, ((Compile.planUnchecked table t).run r).1 = .ok p

/-- **Plans are refused just where a cycle is reached.** Take classes with no row mapping but their
own derived ones, and a registry after any calls. Compiling a class comes to an end, and the targets
that are being compiled are afterwards what they were. If nothing else is wrong, the class is refused
for a target on a cycle that it leads to, or it leads to none and has a plan. No class that leads to
a cycle has its plan kept, before or after. -/
theorem planFor_refuses_cycles {r : Registry} (htable : table.OnlyDerived) (hr : Reached table r)
    (c : ClassRef) :
    let outcome := (Compile.planFor table (.declared c)).run r
    (∀ n, Compile.fuel table ≤ n → ∀ bottom,
      ((Compile.planStep table Compile.refuse)^[n] bottom (.declared c)).run r = outcome) ∧
    (OtherwiseCompiles table r (.declared c) →
      (LeadsToCycle table (.declared c) ↔
        ∃ v, outcome.1 = .error (Compile.recursiveFlatten v)) ∧
      (¬LeadsToCycle table (.declared c) ↔ ∃ p, outcome.1 = .ok p)) ∧
    outcome.2.building = r.building ∧
    ∀ d, LeadsToCycle table (.declared d) →
      r.plans.lookup d.key = none ∧ outcome.2.plans.lookup d.key = none := by
  intro outcome
  obtain ⟨u, hu⟩ := hr.cached
  obtain ⟨hu', -, -⟩ := planFor_answers (t := .declared c) r hu
  have hkept : ∀ d, LeadsToCycle table (.declared d) → outcome.2.plans.lookup d.key = none :=
    fun d hd => hu'.lookup_plans_of_cycle htable hd
  -- A plan that is handed out is kept, so that its class leads to no cycle.
  have hsound : ∀ p, outcome.1 = .ok p → ¬LeadsToCycle table (.declared c) := by
    intro p hp hcycle
    have hrun : (Compile.planFor table (.declared c)).run r = (.ok p, outcome.2) :=
      Prod.ext hp rfl
    obtain ⟨key, hkey, hlookup⟩ := planFor_kept hrun
    obtain ⟨-, rfl⟩ := Uncached.keyOf_ok.mp hkey
    rw [show (TypeExpr.declared c).key = c.key from rfl, hkept c hcycle] at hlookup
    cases hlookup
  refine ⟨fun n hn bottom => (Compile.planFor_terminates hn bottom _ r).1, fun hcompiles => ?_,
    (Compile.planFor_terminates (Nat.le_refl _) (fun _ => throw Compile.tooDeep) _ r).2,
    fun d hd => ⟨hu.lookup_plans_of_cycle htable hd, hkept d hd⟩⟩
  obtain ⟨p, hp⟩ := hcompiles
  rcases Compile.planFor_or_cycle hu.building (.declared c) with hsame | ⟨v, hreach, hcycle, hrefused⟩
  · have hok : outcome.1 = .ok p := by
      rw [← hp, ← hsame]
    refine ⟨⟨fun h => absurd h (hsound p hok), fun ⟨v, hv⟩ => ?_⟩,
      ⟨fun _ => ⟨p, hok⟩, fun _ => hsound p hok⟩⟩
    rw [hok] at hv
    cases hv
  · refine ⟨⟨fun _ => ⟨v, hrefused⟩, fun _ => ⟨v, hreach, hcycle⟩⟩,
      ⟨fun h => absurd ⟨v, hreach, hcycle⟩ h, fun ⟨p, hp⟩ => ?_⟩⟩
    rw [show outcome.1 = _ from hrefused] at hp
    cases hp

/-! ## Two classes that flatten each other -/

namespace RecursiveFlattening

/-- A class with a number, derived. -/
def leaf : ClassRef := ⟨"Leaf", 1, .dataclass .none⟩

/-- A class that flattens a `leaf`, and so leads nowhere else. -/
def pair : ClassRef := ⟨"Pair", 2, .dataclass .none⟩

/-- A class that flattens a `leaf` and, by a name that is bound later, a `pong`. -/
def ping : ClassRef := ⟨"Ping", 3, .dataclass .none⟩

/-- A class that flattens a `ping`. -/
def pong : ClassRef := ⟨"Pong", 4, .dataclass .none⟩

/-- A class that flattens a `ping` and is on no cycle itself. -/
def outer : ClassRef := ⟨"Outer", 5, .dataclass .none⟩

/-- A type that is flattened. -/
def flattened (t : TypeExpr) : TypeExpr :=
  .annotated t [.marker [("flatten", .bool true)]]

/-- The classes. -/
def classes : ClassTable :=
  let declarations : Run Unit := do
    Derive.declare (.dataclass "Leaf" none [.given "x" (.builtin .int)])
      (some ⟨none, Session.standardRegistry⟩)
    Derive.declare (.dataclass "Pair" none [.given "leaf" (flattened (.declared leaf))]) none
    Derive.declare (.dataclass "Ping" none [.given "leaf" (flattened (.declared leaf)),
      .given "pong" (flattened (.forward "Pong"))]) none
    Derive.declare (.dataclass "Pong" none [.given "ping" (flattened (.declared ping))]) none
    Derive.declare (.dataclass "Outer" none [.given "ping" (flattened (.declared ping))]) none
  (declarations.run (Session.create [])).2.classes

/-- A registry in which a compilation failed and a decoder was looked up. -/
def registry : Registry :=
  Call.run classes (.decoderFor (.builtin .float))
    (Call.run classes (.planFor (.declared pong)) (Registry.create "main" .standard))

theorem registry_reached : Reached classes registry :=
  .called (.called (.created _ _) _) _

/-- Whether a computation in the registry has a result. -/
def succeeds {α : Type} (m : Compile α) : Bool :=
  (m.run registry).1.isOk

theorem succeeds_iff {α : Type} {m : Compile α} :
    succeeds m = true ↔ ∃ a, (m.run registry).1 = .ok a := by
  unfold succeeds
  cases (m.run registry).1 with
  | error f => simp [Except.isOk, Except.toBool]
  | ok a => simp [Except.isOk, Except.toBool]

/-- Without the check both classes compile; with it only one does. -/
theorem compiling :
    ((classes.classes.all fun info =>
        info.plan.isSome || (classes.attribute? info.ref "from_row").isNone) &&
      succeeds (Compile.planUnchecked classes (.declared outer)) &&
      succeeds (Compile.planUnchecked classes (.declared pair)) &&
      !succeeds (Compile.planFor classes (.declared outer)) &&
      succeeds (Compile.planFor classes (.declared pair))) = true := by
  decide +kernel

/-- `outer` leads to the cycle and is refused; `pair` leads to none and has a plan. -/
theorem planFor_outer_pair :
    (LeadsToCycle classes (.declared outer) ∧
      ∃ v, ((Compile.planFor classes (.declared outer)).run registry).1 =
        .error (Compile.recursiveFlatten v)) ∧
    (¬LeadsToCycle classes (.declared pair) ∧
      ∃ p, ((Compile.planFor classes (.declared pair)).run registry).1 = .ok p) := by
  have hcompiling := compiling
  simp only [Bool.and_eq_true, Bool.not_eq_true', ← Bool.not_eq_true, succeeds_iff] at hcompiling
  obtain ⟨⟨⟨⟨hclasses, houter⟩, hpair⟩, hrefused⟩, hplan⟩ := hcompiling
  have htable : classes.OnlyDerived := by
    intro info hinfo
    have hderived := List.all_eq_true.mp hclasses info hinfo
    rw [Bool.or_eq_true, Option.isNone_iff_eq_none] at hderived
    exact hderived
  obtain ⟨-, hdecides, -⟩ := planFor_refuses_cycles htable registry_reached outer
  obtain ⟨-, hdecides', -⟩ := planFor_refuses_cycles htable registry_reached pair
  have hcycle : LeadsToCycle classes (.declared outer) := by
    by_contra hno
    exact hrefused ((hdecides houter).2.mp hno)
  exact ⟨⟨hcycle, (hdecides houter).1.mp hcycle⟩, (hdecides' hpair).2.mpr hplan, hplan⟩

end RecursiveFlattening

end RowDecoding
