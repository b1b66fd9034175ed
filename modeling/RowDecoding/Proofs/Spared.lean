import RowDecoding.Proofs.Determined

/-!
# Plans that a change of the classes spares

A class may come to say something else about its fields while a registry keeps plans. What a plan is
compiled from is the class and all that it leads to (`LeadsTo`), so a plan is as good as before if
none of these says anything else (`Spared`). The other plans that are kept may be outdated, and so
nothing can be said of them.

To leave them aside, a registry is looked at with the plans of some targets only (`Registry.only`).
Two facts make that possible.

* `planWithin_only`: a target whose plan is looked at compiles as if the other plans were missing,
  since it asks for none of them.
* `planFor_onlyCached`: whatever is compiled, failed or not, the plans that are looked at stay right.

> `answers_spared`: after a change and before it, whatever was asked of the two registries, a target
> that is spared has the same answers.
-/

namespace RowDecoding

/-! ## Looking at some plans only -/

namespace Registry

variable {keep : Key → Bool} {key : Key}

/-- A registry with the plans of some targets only. -/
def only (keep : Key → Bool) (r : Registry) : Registry :=
  { r with plans := r.plans.filter fun e => keep e.1 }

theorem lookup_only_of_keep (hkey : keep key = true) (r : Registry) :
    (r.only keep).plans.lookup key = r.plans.lookup key := by
  show (r.plans.filter fun e => keep e.1).lookup key = _
  induction r.plans with
  | nil => rfl
  | cons e rest ih =>
    rw [List.filter_cons, List.lookup_cons]
    split
    · rw [List.lookup_cons, ih]
    next he =>
      have hne : (key == e.1) = false := beq_eq_false_iff_ne.mpr fun heq => he (heq ▸ hkey)
      rw [hne, ih]

theorem keep_of_lookup_only {r : Registry} {p : DecodePlan}
    (h : (r.only keep).plans.lookup key = some p) :
    keep key = true ∧ r.plans.lookup key = some p := by
  have hkeep : keep key = true := by
    have hfound : (r.plans.filter fun e => keep e.1).lookup key = some p := h
    exact (List.mem_filter.mp (mem_of_lookup hfound)).2
  exact ⟨hkeep, lookup_only_of_keep hkeep r ▸ h⟩

theorem only_putPlan (keep : Key → Bool) (key : Key) (r : Registry) (p : DecodePlan) :
    only keep { r with plans := (key, p) :: r.plans } =
      if keep key then { r.only keep with plans := (key, p) :: (r.only keep).plans }
      else r.only keep := by
  unfold only
  rw [List.filter_cons]
  split <;> rfl

theorem sparesDecoders_only (keep : Key → Bool) : SparesDecoders (·.only keep) :=
  ⟨fun _ => rfl, fun _ => rfl, fun _ => rfl, fun _ _ _ => rfl⟩

end Registry

/-- Computations of which the second one does what the first one does, where only some plans are
kept. -/
def Lifting.only (keep : Key → Bool) : Lifting Compile Compile where
  Rel m m' := ∀ r : Registry, m'.run (r.only keep) = ((m.run r).1, (m.run r).2.only keep)
  pure _ _ := rfl
  throw _ _ := rfl
  bind {α β x y k l} hx hk r := by
    rw [Running.run_bind, Running.run_bind, hx r]
    rcases x.run r with ⟨f | a, s⟩
    · rfl
    · exact hk a s
  lift_bind {α β e k l} hk r := by
    cases e with
    | error f => rfl
    | ok a => exact hk a rfl r

/-- The answer is the same whether the other plans are kept or not. -/
theorem Lifting.answer_only {keep : Key → Bool} {α : Type} {m : Compile α}
    (h : (Lifting.only keep).Rel m m) (r : Registry) :
    (m.run (r.only keep)).1 = (m.run r).1 :=
  congrArg (·.1) (h r)

section

variable {keep : Key → Bool} {table : ClassTable} {u r : Registry} {building : List Key}

theorem decoderFor_only (t : TypeExpr) :
    (Lifting.only keep).Rel (Compile.decoderFor table t) (Compile.decoderFor table t) := by
  intro r
  rw [run_decoderFor, run_decoderFor]
  exact (Registry.sparesDecoders_only keep).decoderFor r table t

theorem converterFor_only (s t : TypeExpr) :
    (Lifting.only keep).Rel (Compile.converterFor table s t) (Compile.converterFor table s t) := by
  intro r
  rw [run_converterFor, run_converterFor]
  rfl

theorem defaultFor_only (t : TypeExpr) :
    (Lifting.only keep).Rel (Compile.defaultFor table t) (Compile.defaultFor table t) := by
  intro r
  rw [run_defaultFor, run_defaultFor]
  rfl

/-- What a registry answers, if the plans that are asked for are looked at. -/
theorem lookups_only {Asked : TypeExpr → Prop} {plan : TypeExpr → Compile DecodePlan}
    (hplan : ∀ v, Asked v → (Lifting.only keep).Rel (plan v) (plan v)) :
    (Compile.lookups table plan).Related (Lifting.only keep) Asked (Compile.lookups table plan) where
  decoder := decoderFor_only
  converter := converterFor_only
  default := defaultFor_only
  plan := hplan
  mark _ := rfl

theorem whileBuilding_only {α : Type} {key : Key} {m : Compile α}
    (hm : (Lifting.only keep).Rel m m) :
    (Lifting.only keep).Rel (Compile.whileBuilding key m) (Compile.whileBuilding key m) := by
  intro r
  rw [run_whileBuilding, run_whileBuilding]
  have hentered := hm { r with building := key :: r.building }
  have hsame : ({ r.only keep with building := key :: (r.only keep).building } : Registry) =
      Registry.only keep { r with building := key :: r.building } := rfl
  rw [hsame, hentered]
  rfl

/-- Targets are looked at with all that they flatten. -/
abbrev KeepsFlattened (keep : Key → Bool) (table : ClassTable) : Prop :=
  ∀ t v, keep t.key = true → Flattens table Overrides.none t v → keep v.key = true

/-- A target whose plan is looked at compiles as if the other plans were missing. -/
theorem planWithin_only (hkeep : KeepsFlattened keep table) : ∀ (n : Nat) {t : TypeExpr},
    keep t.key = true →
      (Lifting.only keep).Rel (Compile.planWithin table n t) (Compile.planWithin table n t) := by
  intro n
  induction n with
  | zero => exact fun _ _ => rfl
  | succ n ih =>
    intro t ht r
    rw [run_planWithin, run_planWithin]
    cases hkeyOf : Registry.keyOf t with
    | error f => rfl
    | ok key =>
      obtain ⟨-, rfl⟩ := Uncached.keyOf_ok.mp hkeyOf
      dsimp only
      rw [Registry.lookup_only_of_keep ht]
      cases r.plans.lookup t.key with
      | some p => rfl
      | none =>
        have hbuilt : (Lifting.only keep).Rel (Compile.buildWith (Compile.lookups table
            (Compile.planWithin table n)) table t Overrides.none) _ :=
          Compile.buildWith_related (lookups_only fun v hv => ih (hkeep t v ht hv)) fun _ hv => hv
        dsimp only
        rw [show (r.only keep).building = r.building from rfl, whileBuilding_only hbuilt]
        split
        · rfl
        · rcases (Compile.whileBuilding t.key _).run r with ⟨f | p, r'⟩
          · rfl
          · dsimp only
            rw [Registry.only_putPlan, if_pos ht]

theorem planFor_only (hkeep : KeepsFlattened keep table) {t : TypeExpr} (ht : keep t.key = true) :
    (Lifting.only keep).Rel (Compile.planFor table t) (Compile.planFor table t) :=
  planWithin_only hkeep _ ht

/-! ## Plans that stay right -/

/-- Computations that keep the plans right that are looked at. -/
abbrev Lifting.onlyCached (keep : Key → Bool) (u : Registry) (table : ClassTable)
    (building : List Key) : Lifting Compile Outcomes :=
  Lifting.inRegistry (fun r => Cached u table building (r.only keep)) (fun _ _ => True)
    (fun _ => trivial) fun _ _ => trivial

/-- A computation that asks for plans only that are looked at keeps these right, if it answers as
without caches. -/
theorem Answers.onlyCached {α : Type} {m : Compile α} {e : Outcomes α}
    (hm : Answers u table building m e) (hsame : (Lifting.only keep).Rel m m)
    (hr : Cached u table building (r.only keep)) :
    Cached u table building ((m.run r).2.only keep) := by
  obtain ⟨hcached, -, -⟩ := hm _ hr
  rwa [hsame r] at hcached

/-- What a registry answers keeps the plans right that are looked at, if the plans do that are asked
for. -/
theorem lookups_onlyCached {Asked : TypeExpr → Prop} {plan : TypeExpr → Compile DecodePlan}
    (hplan : ∀ v, Asked v → ∀ r : Registry, Cached u table building (r.only keep) →
      Cached u table building (((plan v).run r).2.only keep)) :
    (Compile.lookups table plan).Related (Lifting.onlyCached keep u table building) Asked
      Lookups.unknown where
  decoder t _ hr := ⟨decoderFor_answers.onlyCached (decoderFor_only t) hr, trivial, trivial⟩
  converter s t _ hr :=
    ⟨converterFor_answers.onlyCached (converterFor_only s t) hr, trivial, trivial⟩
  default t _ hr := ⟨defaultFor_answers.onlyCached (defaultFor_only t) hr, trivial, trivial⟩
  plan v hv r hr := ⟨hplan v hv r hr, trivial, trivial⟩
  mark _ hr := ⟨⟨hr.registrations, hr.building, hr.resolved, hr.plans⟩, trivial, trivial⟩

/-- Compiling a target leaves off where it started. -/
theorem whileBuilding_onlyCached {α : Type} {key : Key} {m : Compile α} {e : Outcomes α}
    (hkey : key ∉ building) (hm : (Lifting.onlyCached keep u table (key :: building)).Rel m e)
    (hr : Cached u table building (r.only keep)) :
    Cached u table building (((Compile.whileBuilding key m).run r).2.only keep) := by
  have hentered : Cached u table (key :: building)
      (Registry.only keep { r with building := key :: r.building }) :=
    ⟨hr.registrations, congrArg (key :: ·) hr.building, hr.resolved, hr.plans⟩
  obtain ⟨hleft, -, -⟩ := hm _ hentered
  have hinside : (m.run { r with building := key :: r.building }).2.building = key :: building :=
    hleft.building
  rw [run_whileBuilding]
  refine ⟨hleft.registrations, ?_, hleft.resolved, hleft.plans⟩
  show List.filter _ _ = building
  rw [hinside, filter_cons_of_new hkey]

/-- One compilation keeps the plans right that are looked at, if the compilations nested in it do. -/
theorem planWithin_stepOnlyCached (hkeep : KeepsFlattened keep table) {fuel : Nat} {t : TypeExpr}
    (haround : Around table building t)
    (hroom : t.key ∉ building → table.pending (t.key :: building) < fuel)
    (hplace : Place table building fuel t)
    (hnested : t.key ∉ building → ∀ v, Flattens table Overrides.none t v → ∀ {r : Registry},
      Cached u table (t.key :: building) (r.only keep) →
      Cached u table (t.key :: building) (((Compile.planWithin table fuel v).run r).2.only keep))
    (hr : Cached u table building (r.only keep)) :
    Cached u table building (((Compile.planWithin table (fuel + 1) t).run r).2.only keep) := by
  -- What is looked at compiles as if only such plans were there.
  cases ht : keep t.key with
  | true =>
    have hanswers : Answers u table building (Compile.planWithin table (fuel + 1) t) _ :=
      planWithin_answers fuel haround hroom hplace
    exact hanswers.onlyCached (planWithin_only hkeep _ ht) hr
  | false =>
    rw [run_planWithin]
    cases hkeyOf : Registry.keyOf t with
    | error f => exact hr
    | ok key =>
      obtain ⟨-, rfl⟩ := Uncached.keyOf_ok.mp hkeyOf
      dsimp only
      cases r.plans.lookup t.key with
      | some p => exact hr
      | none =>
        dsimp only
        have hbuilding : r.building = building := hr.building
        rw [hbuilding]
        split
        · exact hr
        next hmem =>
          have hfresh : t.key ∉ building := by simpa using hmem
          have hbuilt := whileBuilding_onlyCached hfresh (Compile.buildWith_related
            (lookups_onlyCached fun v hv r hr => hnested hfresh v hv hr) fun _ hv => hv) hr
          split
          next p r' hrun =>
            rw [hrun] at hbuilt
            show Cached u table building (Registry.only keep { r' with plans := _ })
            rw [Registry.only_putPlan, if_neg (by simp [ht])]
            exact hbuilt
          next f r' hrun =>
            rw [hrun] at hbuilt
            exact hbuilt

/-- Whatever is compiled, the plans that are looked at stay right. The induction is on the fuel, and
what is looked at compiles as if only such plans were there. -/
theorem planWithin_onlyCached (hkeep : KeepsFlattened keep table) :
    ∀ (fuel : Nat) {building : List Key} {t : TypeExpr}, Around table building t →
      (t.key ∉ building → table.pending (t.key :: building) < fuel) →
      Place table building fuel t → ∀ {r : Registry}, Cached u table building (r.only keep) →
      Cached u table building (((Compile.planWithin table (fuel + 1) t).run r).2.only keep) := by
  intro fuel
  induction fuel with
  | zero =>
    intro building t haround hroom hplace
    exact planWithin_stepOnlyCached hkeep haround hroom hplace fun hfresh =>
      absurd (hroom hfresh) (Nat.not_lt_zero _)
  | succ fuel ih =>
    intro building t haround hroom hplace
    refine planWithin_stepOnlyCached hkeep haround hroom hplace fun hfresh v hv => ?_
    obtain ⟨c, rfl, hc⟩ := hv.known
    exact ih (haround.cons hv) (hc.room_nested (hroom hfresh)) (Or.inr ⟨c, rfl, hc⟩)

/-- The same holds for a target that is asked for by itself. -/
theorem planFor_onlyCached (hkeep : KeepsFlattened keep table) (t : TypeExpr)
    (hr : Cached u table [] (r.only keep)) :
    Cached u table [] (((Compile.planFor table t).run r).2.only keep) :=
  planWithin_onlyCached hkeep _ (fun _ h => absurd h List.not_mem_nil)
    (fun _ => Nat.lt_succ_of_le (table.pending_le _)) (Or.inl ⟨rfl, rfl⟩) hr

/-! ## Whatever is asked for -/

/-- The plan of a target with directives from outside keeps the plans right as well. -/
theorem build_onlyCached (hkeep : KeepsFlattened keep table) (t : TypeExpr) (overrides : Overrides)
    (hr : Cached u table [] (r.only keep)) :
    Cached u table [] (((Compile.build table t overrides).run r).2.only keep) := by
  have hbuilt : (Lifting.onlyCached keep u table []).Rel (Compile.build table t overrides) _ :=
    Compile.buildWith_related
      (lookups_onlyCached fun v _ _ hr => planFor_onlyCached hkeep v hr) fun _ _ => trivial
  exact (hbuilt r hr).1

end

/-- What a registry is asked for: a call, or the plan of a target with directives from outside. -/
inductive Ask where
  | call (call : Call)
  | build (t : TypeExpr) (overrides : Overrides)

namespace Ask

/-- The registry afterwards, failed or not. -/
def run (table : ClassTable) : Ask → Registry → Registry
  | call c, r => c.run table r
  | build t overrides, r => ((Compile.build table t overrides).run r).2

/-- What is registered. -/
def register : Ask → Registry → Registry
  | call c, r => c.register r
  | build .., r => r

/-- The registry after all that it is asked for in turn. -/
def runAll (table : ClassTable) (asks : List Ask) (r : Registry) : Registry :=
  asks.foldl (fun r ask => ask.run table r) r

/-- All that is registered in turn. -/
def registerAll (asks : List Ask) (r : Registry) : Registry :=
  asks.foldl (fun r ask => ask.register r) r

variable {keep : Key → Bool} {table : ClassTable} {u r : Registry}

theorem runAll_cached (asks : List Ask) {u r : Registry} (h : Cached u table [] r) :
    Cached (registerAll asks u) table [] (runAll table asks r) := by
  induction asks generalizing u r with
  | nil => exact h
  | cons ask rest ih =>
    refine ih ?_
    cases ask with
    | call c => exact c.run_cached h
    | build t overrides => exact (build_answers r h).1

/-- What is registered does not depend on the plans that are looked at, since it drops them all. -/
theorem register_only (keep : Key → Bool) (c : Call) (r : Registry) :
    (c.register r).only keep = c.register (r.only keep) := by
  cases c with
  | registerDecoder t decoder =>
    rw [Call.register_decoder, Call.register_decoder]
    cases Registry.keyOf t <;> rfl
  | registerConverter source target converter =>
    rw [Call.register_converter, Call.register_converter]
    split <;> rfl
  | registerDefault t supply =>
    rw [Call.register_default, Call.register_default]
    cases Registry.keyOf t <;> rfl
  | _ => rfl

theorem run_onlyCached (hkeep : KeepsFlattened keep table) (ask : Ask)
    (h : Cached u table [] (r.only keep)) :
    Cached (ask.register u) table [] ((ask.run table r).only keep) := by
  cases ask with
  | build t overrides => exact build_onlyCached hkeep t overrides h
  | call c =>
    have hregistered : c.isLookup = false →
        Cached (c.register u) table [] ((c.register r).only keep) := fun hc => by
      rw [register_only]
      exact Call.register_cached h hc
    cases c with
    | decoderFor t => exact decoderFor_answers.onlyCached (decoderFor_only t) h
    | mapperFor t =>
      have hanswers : (Compile.answers table).Related (Lifting.onlyCached keep u table [])
          (fun _ => True) Lookups.unknown :=
        lookups_onlyCached fun v _ _ hr => planFor_onlyCached hkeep v hr
      exact (Compile.mapperFor_related hanswers (fun _ => trivial) r h).1
    | converterFor source target =>
      exact converterFor_answers.onlyCached (converterFor_only source target) h
    | defaultFor t => exact defaultFor_answers.onlyCached (defaultFor_only t) h
    | planFor t => exact planFor_onlyCached hkeep t h
    | _ => exact hregistered rfl

theorem runAll_onlyCached (hkeep : KeepsFlattened keep table) (asks : List Ask) {u r : Registry}
    (h : Cached u table [] (r.only keep)) :
    Cached (registerAll asks u) table [] ((runAll table asks r).only keep) := by
  induction asks generalizing u r with
  | nil => exact h
  | cons ask rest ih => exact ih (ask.run_onlyCached hkeep h)

end Ask

/-! ## Two tables of classes -/

/-- The target is the class or leads to it, by the fields that it flattens. -/
def LeadsTo (table : ClassTable) (overrides : Overrides) (t : TypeExpr) (d : ClassRef) : Prop :=
  t = .declared d ∨
    ∃ v, Flattens table overrides t v ∧ (v = .declared d ∨ Reaches table v (.declared d))

/-- No class that the target leads to says anything else than before. -/
def Spared (before after : ClassTable) (overrides : Overrides) (t : TypeExpr) : Prop :=
  ∀ d, LeadsTo after overrides t d → after.config? d = before.config? d

open Classical in
/-- Whether this is the key of a class that is spared. -/
noncomputable def spared (before after : ClassTable) (key : Key) : Bool :=
  decide (∃ d : ClassRef, Spared before after Overrides.none (.declared d) ∧ d.key = key)

section

variable {before after : ClassTable} {overrides : Overrides} {t v : TypeExpr} {u r r' : Registry}

theorem Spared.nested (hs : Spared before after overrides t) (hv : Flattens after overrides t v) :
    Spared before after Overrides.none v := by
  rintro e (rfl | ⟨w, hw, rfl | he⟩)
  · exact hs e (Or.inr ⟨_, hv, Or.inl rfl⟩)
  · exact hs e (Or.inr ⟨v, hv, Or.inr (.single hw)⟩)
  · exact hs e (Or.inr ⟨v, hv, Or.inr (.head hw he)⟩)

theorem spared_iff {key : Key} : spared before after key = true ↔
    ∃ d : ClassRef, Spared before after Overrides.none (.declared d) ∧ d.key = key := by
  classical
  unfold spared
  simp only [decide_eq_true_iff]

/-- What a class that is spared flattens is spared. -/
theorem keepsFlattened_spared : KeepsFlattened (spared before after) after := by
  intro t v ht hv
  obtain ⟨d, hs, hkey⟩ := spared_iff.mp ht
  obtain rfl : t = .declared d := declared_of_key hkey.symm
  obtain ⟨e, rfl, -⟩ := hv.known
  exact spared_iff.mpr ⟨e, hs.nested hv, rfl⟩

section

variable (h : after.silent = before.silent)

include h

theorem Compile.fuel_congr : Compile.fuel after = Compile.fuel before := by
  have hlength : after.silent.classes.length = before.silent.classes.length := by rw [h]
  have hsilent : ∀ table : ClassTable, table.silent.classes.length = table.classes.length :=
    fun _ => List.length_map _
  rw [hsilent, hsilent] at hlength
  exact congrArg (· + 2) hlength

/-- A target that is spared compiles as before. -/
theorem planFor_spared (hs : Spared before after Overrides.none t) :
    Compile.planFor before t = Compile.planFor after t := by
  unfold Compile.planFor
  rw [Compile.fuel_congr h]
  refine Compile.planWithin_congr h.symm _ fun d hd => (hs d ?_).symm
  rcases hd with rfl | hd
  · exact Or.inl rfl
  · obtain ⟨v, hv, hrest⟩ := Relation.TransGen.head'_iff.mp hd
    refine Or.inr ⟨v, hv, ?_⟩
    rcases Relation.reflTransGen_iff_eq_or_transGen.mp hrest with heq | hrest
    · exact Or.inl heq.symm
    · exact Or.inr hrest

theorem build_spared (hs : Spared before after overrides t) :
    Compile.build before t overrides = Compile.build after t overrides := by
  unfold Compile.build Compile.answers
  rw [Compile.buildWith_congr h.symm (fun d hd => (hs d (Or.inl hd)).symm),
    Compile.lookups_congr h.symm]
  exact Compile.buildWith_related
    (Compile.lookups_same fun v hv => planFor_spared h (hs.nested hv)) fun _ hv => hv

/-! ### What is cached -/

theorem Decodes.of_silent {x : Except Failure (Option Transform)} (hx : Decodes u before t x) :
    Decodes u after t x := by
  induction hx with
  | @own t ht =>
    have hown : u.ownDecoder before t = u.ownDecoder after t := by
      rw [← u.ownDecoder_silent before, ← h, u.ownDecoder_silent after]
    rw [hown]
    exact .own ht
  | optional hlookup hinner _ ih => exact .optional hlookup hinner ih
  | equal hkey _ ih => exact .equal hkey ih

/-- What is answered without caches before is answered after, if the plans are that are asked
for. -/
theorem Uncached.lookups_of_silent {plan plan' : TypeExpr → Outcomes DecodePlan}
    {Asked : TypeExpr → Prop} (hplan : ∀ v, Asked v → outcomeLifting.Rel (plan v) (plan' v)) :
    (lookups u before plan).Related outcomeLifting Asked (lookups u after plan') where
  decoder t := outcomeLifting.lift_bind fun _ _ _ hx => hx.of_silent h
  converter s t x hx := by
    have hsame : u.converterFor after s t = u.converterFor before s t := by
      rw [← u.converterFor_silent after, h, u.converterFor_silent before]
    show (Compile.lift (u.converterFor after s t) : Outcomes _) x
    rw [hsame]
    exact hx
  default t x hx := by
    have hsame : u.defaultFor after t = u.defaultFor before t := by
      rw [← u.defaultFor_silent after, h, u.defaultFor_silent before]
    show (Compile.lift (u.defaultFor after t) : Outcomes _) x
    rw [hsame]
    exact hx
  plan := hplan
  mark _ hx := hx

/-- A class that is spared is compiled without caches as before. The induction is on the fuel. -/
theorem Uncached.planWithin_spared : ∀ (fuel : Nat) (building : List Key) (d : ClassRef),
    Spared before after Overrides.none (.declared d) →
    outcomeLifting.Rel (planWithin u before fuel building (.declared d))
      (planWithin u after fuel building (.declared d)) := by
  intro fuel
  induction fuel with
  | zero => exact fun _ _ _ _ hx => hx
  | succ fuel ih =>
    intro building d hs x hx
    refine Or.inl (outcomeLifting.lift_bind (fun key _ => ?_) x (compile_of_declared hx))
    split
    · exact outcomeLifting.throw _
    · rw [Compile.buildWith_congr h.symm fun c hc => (hs c (Or.inl hc)).symm]
      refine Compile.buildWith_related (lookups_of_silent h fun v hv => ?_) fun _ hv => hv
      obtain ⟨e, rfl, -⟩ := hv.known
      exact ih _ e (hs.nested hv)

/-- Of what is cached before, the plans of classes that are spared are right after. -/
theorem Cached.spared (hr : Cached u before [] r) :
    Cached u after [] (r.only (spared before after)) where
  registrations := hr.registrations
  building := hr.building
  resolved key d hd := by
    obtain ⟨t, hkey, ht⟩ := hr.resolved key d hd
    exact ⟨t, hkey, ht.of_silent h⟩
  plans key p hp := by
    obtain ⟨hkeep, hp⟩ := Registry.keep_of_lookup_only hp
    obtain ⟨d, hs, hkey⟩ := spared_iff.mp hkeep
    obtain ⟨t, ht, hplan⟩ := hr.plans key p hp
    have hown : Uncached.planFor u before (.declared d) (.ok p) :=
      Uncached.planFor_of_key (ht.trans hkey.symm) hplan
    refine ⟨.declared d, hkey, ?_⟩
    unfold Uncached.planFor at hown ⊢
    rw [Compile.fuel_congr h]
    exact Uncached.planWithin_spared h _ [] d hs _ hown

end

/-! ### Answers -/

/-- Two answers that registrations lead to. They are the same if all that is read for fields is
settled. -/
structure AnsweredAlike (possible : Outcomes DecodePlan) (settled : Prop)
    (x y : Except Failure DecodePlan) : Prop where
  first : possible x
  second : possible y
  same : settled → SameUpTo DecodePlan.Alike x y

/-- Registries that answer alike for what is spared, the first one after a change of the classes, the
second one before: for classes, and for targets with directives from outside. -/
structure AnswersAlike (before after : ClassTable) (u r' r : Registry) : Prop where
  plans : ∀ d, Spared before after Overrides.none (.declared d) →
    AnsweredAlike (Uncached.planFor u after (.declared d))
      (SettledFields after Overrides.none (.declared d))
      ((Compile.planFor after (.declared d)).run r').1
      ((Compile.planFor before (.declared d)).run r).1
  builds : ∀ t overrides, Spared before after overrides t →
    AnsweredAlike (Compile.buildWith (Uncached.answers u after) after t overrides)
      (SettledFields after overrides t)
      ((Compile.build after t overrides).run r').1
      ((Compile.build before t overrides).run r).1

/-- **What is spared is answered as before.** Take a registry whose caches are right before, and one
whose caches are right after as far as they are about classes that are spared, with the same
registrations. Then the two answer alike. -/
theorem answers_spared (h : after.silent = before.silent) (hr : Cached u before [] r)
    (hr' : Cached u after [] (r'.only (spared before after))) :
    AnswersAlike before after u r' r := by
  have hcached := hr.spared h
  have hplan : ∀ d, Spared before after Overrides.none (.declared d) →
      (Lifting.only (spared before after)).Rel (Compile.planFor after (.declared d))
        (Compile.planFor after (.declared d)) :=
    fun d hs => planFor_only keepsFlattened_spared (spared_iff.mpr ⟨d, hs, rfl⟩)
  constructor
  · intro d hs
    rw [planFor_spared h hs, ← Lifting.answer_only (hplan d hs) r,
      ← Lifting.answer_only (hplan d hs) r']
    exact ⟨(planFor_answers _ hr').2.2, (planFor_answers _ hcached).2.2,
      fun hsettled => planFor_determined hsettled hr' hcached⟩
  · intro t overrides hs
    have hbuild : (Lifting.only (spared before after)).Rel (Compile.build after t overrides)
        (Compile.build after t overrides) := by
      refine Compile.buildWith_related (lookups_only fun v hv => ?_) fun _ hv => hv
      obtain ⟨e, rfl, -⟩ := hv.known
      exact hplan e (hs.nested hv)
    rw [build_spared h hs, ← Lifting.answer_only hbuild r, ← Lifting.answer_only hbuild r']
    exact ⟨(build_answers _ hr').2.2, (build_answers _ hcached).2.2,
      fun hsettled => build_determined hsettled hr' hcached⟩

end

end RowDecoding
