import RowDecoding.Proofs.Settling
import RowDecoding.Proofs.Uncached

/-!
# Caches of a registry

A registry keeps the decoders that it has resolved and the plans that it has compiled. This file
proves that nobody can tell: every answer is one that the registrations alone lead to.

The invariant `Cached` ties the caches to the registrations: what is cached under a key is what a
registry without caches answers for some type with that key. A registration drops what it may
affect, so it starts the invariant anew, and every lookup keeps it, whether it succeeds or fails
(`decoderFor_answers`, `planWithin_answers`). For plans the induction is on the fuel, and a second
invariant, `Around`, is carried along: whatever is being compiled reaches the class that is asked
for. So a cached plan of that class, which was compiled somewhere else, reaches nothing that is
being compiled here, and would be compiled here just as well.

> `lookups_answer`: after any calls, every lookup answers as without caches, and a plan that was
> handed out once is handed out again until a registration.

> `decoderFor_settled`: a settled type is decoded by the one thing that the registrations lead to.
-/

namespace RowDecoding

/-! ## What decoders depend on -/

/-- What decodes a type depends on the decoders and the settings only. -/
theorem Decodes.congr {r r' : Registry} {table : ClassTable} {t : TypeExpr}
    {x : Except Failure (Option Transform)} (hdecoders : r.decoders = r'.decoders)
    (hconfig : r.config = r'.config) (h : Decodes r table t x) : Decodes r' table t x := by
  induction h with
  | @own t ht =>
    have hown : r.ownDecoder table t = r'.ownDecoder table t := by
      unfold Registry.ownDecoder Registry.derivedDecoder Registry.structuralDecoder
      rw [hdecoders, hconfig]
    rw [hown]
    rw [hdecoders] at ht
    exact .own ht
  | optional hlookup hinner _ ih =>
    rw [hdecoders] at hlookup
    exact .optional hlookup hinner ih
  | equal hkey _ ih => exact .equal hkey ih

/-- A type that is not optional, or has a decoder of its own. -/
theorem Decodes.own_of_not {r : Registry} {table : ClassTable} {t : TypeExpr}
    (h : ∀ inner, r.decoders.lookup t.key = none → t.optionalInner? = some inner → False) :
    Decodes r table t (r.ownDecoder table t) := by
  refine .own ?_
  by_contra hboth
  rw [not_or, not_not, ← ne_eq, Option.ne_none_iff_exists'] at hboth
  obtain ⟨hlookup, inner, hinner⟩ := hboth
  exact h inner hlookup hinner

/-- What the registrations of a registry lead to by themselves decodes a type. -/
theorem Decodes.direct (r : Registry) (table : ClassTable) (t : TypeExpr) :
    Decodes r table t (r.decoderOf table t) := by
  unfold Registry.decoderOf
  split
  next inner hlookup hinner =>
    exact .optional hlookup hinner (.own (Or.inr (TypeExpr.optionalInner?_rest hinner)))
  next hnot => exact .own_of_not hnot

/-- A registered decoder decodes its type, however that is written, and nothing else does. -/
theorem Decodes.registered {r : Registry} {table : ClassTable} {t : TypeExpr}
    {x : Except Failure (Option Transform)} (h : Decodes r table t x) {d : Transform}
    (hd : r.decoders.lookup t.key = some d) : x = .ok (some d) := by
  induction h with
  | own _ =>
    unfold Registry.ownDecoder
    rw [hd]
  | optional hlookup _ _ _ =>
    rw [hlookup] at hd
    cases hd
  | equal hkey _ ih => exact ih (hkey ▸ hd)

/-! ### Settled types -/

section

variable {r : Registry} {table : ClassTable} {t : TypeExpr}

/-- The decoder of a type that no other one equals, and from which nothing cannot be left out. -/
theorem Decodes.eq_own (ht : t.Sole) (hrest : t.optionalInner? = none)
    {x : Except Failure (Option Transform)} (h : Decodes r table t x) :
    x = r.ownDecoder table t := by
  induction h with
  | own => rfl
  | optional _ hinner => rw [hrest] at hinner; cases hinner
  | equal hkey _ ih =>
    obtain rfl := ht _ hkey
    exact ih ht hrest

/-- An equal type is decoded in the same way. -/
theorem TypeExpr.Settled.decoderOf_of_key (ht : t.Settled) {t' : TypeExpr}
    (hkey : t'.key = t.key) (r : Registry) (table : ClassTable) :
    r.decoderOf table t' = r.decoderOf table t := by
  rcases ht.equal t' hkey with rfl | ⟨hinner, hsome⟩
  · rfl
  · unfold Registry.decoderOf Registry.ownDecoder
    rw [hkey, hinner]
    cases r.decoders.lookup t.key with
    | some d => rfl
    | none =>
      cases hrest : t.optionalInner? with
      | none => exact absurd hrest hsome
      | some inner => rfl

/-- What decodes a settled type follows from the registrations. -/
theorem Decodes.eq_decoderOf (ht : t.Settled) {x : Except Failure (Option Transform)}
    (h : Decodes r table t x) : x = r.decoderOf table t := by
  induction h with
  | @own t h =>
    unfold Registry.decoderOf
    split
    next hlookup hinner =>
      rcases h with h | h
      · exact absurd hlookup h
      · rw [hinner] at h
        cases h
    next => rfl
  | @optional t inner x hlookup hinner hx =>
    unfold Registry.decoderOf
    rw [hlookup, hinner]
    have hrest : inner.optionalInner? = none := TypeExpr.optionalInner?_rest hinner
    rw [hx.eq_own (ht.rest inner hinner) hrest]
  | equal hkey _ ih =>
    rw [ih (ht.of_key hkey), ht.decoderOf_of_key hkey]

/-- A settled type has one decoder: the one that the registrations lead to by themselves. -/
theorem decodes_iff (ht : t.Settled) {x : Except Failure (Option Transform)} :
    Decodes r table t x ↔ x = r.decoderOf table t :=
  ⟨fun h => h.eq_decoderOf ht, fun h => h ▸ .direct r table t⟩

/-- So there is one answer to what decodes it. -/
theorem Uncached.decoderFor_iff (ht : t.Settled) {x : Except Failure (Option Transform)} :
    Uncached.decoderFor r table t x ↔ x = r.decoderAfresh table t := by
  unfold Uncached.decoderFor Registry.decoderAfresh
  cases Registry.keyOf t with
  | error f => exact Outcomes.lift_error_bind
  | ok key => exact Outcomes.lift_ok_bind.trans (decodes_iff ht)

end

/-! ## What is cached -/

/-- The caches of a registry hold what its registrations `u` lead to, while targets with the keys in
`building` are being compiled. -/
structure Cached (u : Registry) (table : ClassTable) (building : List Key) (r : Registry) :
    Prop where
  registrations : r.registrations = u
  building : r.building = building
  resolved : ∀ key d, r.resolved.lookup key = some d →
    ∃ t, t.key = key ∧ Decodes u table t (.ok d)
  plans : ∀ key p, r.plans.lookup key = some p →
    ∃ t, t.key = key ∧ Uncached.planFor u table t (.ok p)

/-- A registry still has all the plans that it had. -/
def KeepsPlans (r r' : Registry) : Prop :=
  ∀ key p, r.plans.lookup key = some p → r'.plans.lookup key = some p

/-- Computations in a registry with what they may come to without caches. They keep the caches right
and every plan in its place. -/
abbrev Lifting.cached (u : Registry) (table : ClassTable) (building : List Key) :
    Lifting Compile Outcomes :=
  Lifting.inRegistry (Cached u table building) KeepsPlans (fun _ _ _ h => h)
    fun h h' key p hp => h' key p (h key p hp)

/-- A computation in a registry answers as one without caches. -/
abbrev Answers {α : Type} (u : Registry) (table : ClassTable) (building : List Key) (m : Compile α)
    (e : Outcomes α) : Prop :=
  (Lifting.cached u table building).Rel m e

/-- What is found in a list is one of its entries. -/
theorem mem_of_lookup {α β : Type} [BEq α] [LawfulBEq α] {l : List (α × β)} {key : α} {b : β}
    (h : l.lookup key = some b) : (key, b) ∈ l := by
  obtain ⟨before, after, rfl, -⟩ := List.lookup_eq_some_iff.mp h
  exact List.mem_append_right _ (List.mem_cons_self ..)

/-- What is found in a list that starts with an entry is that entry or found in the rest. -/
theorem lookup_cons_some {β : Type} {l : List (Key × β)} {key k : Key} {b b' : β}
    (h : ((k, b) :: l).lookup key = some b') : key = k ∧ b = b' ∨ l.lookup key = some b' := by
  rw [List.lookup_cons] at h
  split at h
  next hkey => exact Or.inl ⟨by simpa using hkey, Option.some.inj h⟩
  next => exact Or.inr h

section

variable {u r : Registry} {table : ClassTable} {building : List Key} {t : TypeExpr}

/-! ## Decoders, converters and defaults -/

theorem Cached.ownDecoder (h : Cached u table building r) (t : TypeExpr) :
    r.ownDecoder table t = u.ownDecoder table t := by
  rw [← h.registrations]
  rfl

theorem Cached.decoders (h : Cached u table building r) : r.decoders = u.decoders := by
  rw [← h.registrations]
  rfl

/-- Remembering what the registrations lead to keeps the caches right. -/
theorem Cached.remembering (h : Cached u table building r) {x : Except Failure (Option Transform)}
    (hx : Decodes u table t x) :
    (r.remembering t x).1 = x ∧ Cached u table building (r.remembering t x).2 ∧
      KeepsPlans r (r.remembering t x).2 := by
  cases x with
  | error f => exact ⟨rfl, h, fun _ _ hp => hp⟩
  | ok d =>
    refine ⟨rfl, ⟨h.registrations, h.building, ?_, h.plans⟩, fun _ _ hp => hp⟩
    intro key d' hlookup
    rcases lookup_cons_some hlookup with ⟨rfl, rfl⟩ | hlookup
    · exact ⟨t, rfl, hx⟩
    · exact h.resolved key d' hlookup

theorem Cached.directDecoder (h : Cached u table building r) (ht : t.optionalInner? = none) :
    Decodes u table t (r.directDecoder table t).1 ∧
      Cached u table building (r.directDecoder table t).2 ∧
      KeepsPlans r (r.directDecoder table t).2 := by
  unfold Registry.directDecoder
  split
  next d hd =>
    obtain ⟨t', hkey, hdecodes⟩ := h.resolved _ _ hd
    exact ⟨.equal hkey hdecodes, h, fun _ _ hp => hp⟩
  next =>
    rw [h.ownDecoder]
    have hown : Decodes u table t (u.ownDecoder table t) := .own (Or.inr ht)
    obtain ⟨hx, hcached, hkeeps⟩ := h.remembering hown
    rw [hx]
    exact ⟨hown, hcached, hkeeps⟩

theorem run_decoderFor (table : ClassTable) (t : TypeExpr) (r : Registry) :
    (Compile.decoderFor table t).run r = r.decoderFor table t := by
  show (Compile.lift (r.decoderFor table t).1 : Compile _).run (r.decoderFor table t).2 = _
  rcases r.decoderFor table t with ⟨_ | d, r'⟩ <;> rfl

/-- Decoders answer as without caches. -/
theorem decoderFor_answers :
    Answers u table building (Compile.decoderFor table t) (Uncached.decoderFor u table t) := by
  intro r h
  rw [run_decoderFor]
  unfold Registry.decoderFor
  cases hkey : Registry.keyOf t with
  | error f => exact ⟨h, fun _ _ hp => hp, Or.inr ⟨f, Outcomes.lift_apply.mpr hkey.symm, rfl⟩⟩
  | ok key =>
    obtain ⟨-, rfl⟩ := Uncached.keyOf_ok.mp hkey
    dsimp only
    -- What is left to show is that the outcome is what decodes the type.
    suffices hdecodes : ∀ z : Except Failure (Option Transform) × Registry,
        Decodes u table t z.1 ∧ Cached u table building z.2 ∧ KeepsPlans r z.2 →
        Cached u table building z.2 ∧ KeepsPlans r z.2 ∧ Uncached.decoderFor u table t z.1 by
      refine hdecodes _ ?_
      split
      next d hd =>
        obtain ⟨t', ht', hcached⟩ := h.resolved _ _ hd
        exact ⟨.equal ht' hcached, h, fun _ _ hp => hp⟩
      next =>
        split
        next inner hlookup hinner =>
          rw [h.decoders] at hlookup
          obtain ⟨hdirect, hcached, hkeeps⟩ := h.directDecoder (TypeExpr.optionalInner?_rest hinner)
          have hoptional := Decodes.optional hlookup hinner hdirect
          obtain ⟨hx, hcached', hkeeps'⟩ := hcached.remembering hoptional
          rw [hx]
          exact ⟨hoptional, hcached', fun key p hp => hkeeps' key p (hkeeps key p hp)⟩
        next hnot =>
          have hown : Decodes u table t (u.ownDecoder table t) := by
            refine .own_of_not ?_
            rw [← h.decoders]
            exact hnot
          rw [h.ownDecoder]
          obtain ⟨hx, hcached, hkeeps⟩ := h.remembering hown
          rw [hx]
          exact ⟨hown, hcached, hkeeps⟩
    rintro z ⟨hz, hcached, hkeeps⟩
    exact ⟨hcached, hkeeps, Or.inl ⟨t.key, Outcomes.lift_apply.mpr hkey.symm, hz⟩⟩

/-- An answer from the registrations changes nothing. -/
theorem lift_answers {α : Type} {answer : Registry → Except Failure α}
    (hanswer : ∀ r, answer r = answer r.registrations) :
    Answers u table building (do Compile.lift (answer (← get))) (Compile.lift (answer u)) := by
  intro r h
  have hrun : (do Compile.lift (answer (← get)) : Compile α).run r = (answer r, r) := by
    rw [Running.run_bind_of_ok (Running.run_get r)]
    cases answer r <;> rfl
  rw [hrun, hanswer r, h.registrations]
  exact ⟨h, fun _ _ hp => hp, Outcomes.lift_apply.mpr rfl⟩

theorem converterFor_answers {source target : TypeExpr} :
    Answers u table building (Compile.converterFor table source target)
      (Compile.lift (u.converterFor table source target)) :=
  lift_answers fun _ => rfl

theorem defaultFor_answers :
    Answers u table building (Compile.defaultFor table t) (Compile.lift (u.defaultFor table t)) :=
  lift_answers fun _ => rfl

theorem nextMark_answers {plan : TypeExpr → Outcomes DecodePlan} :
    Answers u table building Compile.nextMark (Uncached.lookups u table plan).mark := by
  intro r h
  refine ⟨⟨h.registrations, h.building, h.resolved, h.plans⟩, fun _ _ hp => hp, r.compiled + 1, ?_⟩
  rw [← h.registrations]
  rfl

/-! ## Plans -/

/-- Everything that is being compiled reaches the target. -/
def Around (table : ClassTable) (building : List Key) (t : TypeExpr) : Prop :=
  ∀ key ∈ building, ∃ a, a.key = key ∧ Reaches table a t

/-- What a target reaches is not being compiled around it, unless the target reaches itself. -/
theorem Around.avoids (h : Around table building t) (ht : ¬Reaches table t t) {v : TypeExpr}
    (hv : Reaches table t v) : v.key ∉ building := by
  intro hmem
  obtain ⟨a, hkey, ha⟩ := h _ hmem
  rw [Reaches.eq_of_key hv hkey] at ha
  exact ht (.trans hv ha)

/-- A class that is flattened has its target and everything around that around it. -/
theorem Around.cons (h : Around table building t) {v : TypeExpr}
    (hv : Flattens table Overrides.none t v) : Around table (t.key :: building) v := by
  intro key hmem
  rcases List.mem_cons.mp hmem with rfl | hmem
  · exact ⟨t, rfl, .single hv⟩
  · obtain ⟨a, hkey, ha⟩ := h key hmem
    exact ⟨a, hkey, .tail ha hv⟩

/-- What a registry answers while a target is compiled in it, if its plans are answered so. -/
theorem lookups_related {Asked : TypeExpr → Prop} {plan : TypeExpr → Compile DecodePlan}
    {plan' : TypeExpr → Outcomes DecodePlan}
    (h : ∀ v, Asked v → Answers u table building (plan v) (plan' v)) :
    (Compile.lookups table plan).Related (Lifting.cached u table building) Asked
      (Uncached.lookups u table plan') where
  decoder _ := decoderFor_answers
  converter _ _ := converterFor_answers
  default _ := defaultFor_answers
  plan := h
  mark := nextMark_answers

/-- The run of a computation while a target counts as being compiled. -/
theorem run_whileBuilding {α : Type} (key : Key) (m : Compile α) (r : Registry) :
    (Compile.whileBuilding key m).run r =
      let z := m.run { r with building := key :: r.building }
      (z.1, { z.2 with building := z.2.building.filter (· != key) }) := by
  unfold Compile.whileBuilding
  rw [Running.run_bind_of_ok (Running.run_modify _ r), Running.run_tryCatch, Running.run_bind]
  rcases hm : m.run { r with building := key :: r.building } with ⟨f | a, r'⟩
  · rfl
  · rfl

/-- Taking away a key that was new leaves the keys that were there before. -/
theorem filter_cons_of_new {key : Key} (hkey : key ∉ building) :
    (key :: building).filter (· != key) = building := by
  rw [List.filter_cons_of_neg (by simp), List.filter_eq_self]
  intro k hk
  have : k ≠ key := fun heq => hkey (heq ▸ hk)
  simpa using this

/-- Compiling a target leaves off where it started. -/
theorem whileBuilding_answers {α : Type} {key : Key} {m : Compile α} {e : Outcomes α}
    (hkey : key ∉ building) (hm : Answers u table (key :: building) m e) :
    Answers u table building (Compile.whileBuilding key m) e := by
  intro r h
  rw [run_whileBuilding]
  have hstart : Cached u table (key :: building) { r with building := key :: r.building } :=
    ⟨h.registrations, by rw [← h.building], h.resolved, h.plans⟩
  obtain ⟨hcached, hkeeps, he⟩ := hm _ hstart
  refine ⟨⟨hcached.registrations, ?_, hcached.resolved, hcached.plans⟩, hkeeps, he⟩
  show List.filter _ _ = building
  rw [hcached.building, filter_cons_of_new hkey]

/-- Keeping a plan that the registrations lead to keeps the caches right. -/
theorem Cached.putPlan (h : Cached u table building r) {p : DecodePlan}
    (hp : Uncached.planFor u table t (.ok p)) :
    Cached u table building { r with plans := (t.key, p) :: r.plans } := by
  refine ⟨h.registrations, h.building, h.resolved, ?_⟩
  intro key p' hlookup
  rcases lookup_cons_some hlookup with ⟨rfl, rfl⟩ | hlookup
  · exact ⟨t, rfl, hp⟩
  · exact h.plans key p' hlookup

/-- A plan that was missing is kept beside those that were there. -/
theorem KeepsPlans.putPlan {r' : Registry} (h : KeepsPlans r r') {key : Key}
    (hkey : r.plans.lookup key = none) (p : DecodePlan) :
    KeepsPlans r { r' with plans := (key, p) :: r'.plans } := by
  intro k p' hlookup
  have hne : k ≠ key := by
    rintro rfl
    rw [hkey] at hlookup
    cases hlookup
  show List.lookup k ((key, p) :: r'.plans) = _
  rw [List.lookup_cons, beq_eq_false_iff_ne.mpr hne]
  exact h k p' hlookup

/-- One level of compiling plans: the cached plan, or else a compilation whose plan is kept. `nested`
gives the plans of the classes that are flattened, `again` what a target that is being compiled
already comes to. -/
def Compile.planStep (table : ClassTable) (again nested : TypeExpr → Compile DecodePlan)
    (t : TypeExpr) : Compile DecodePlan := do
  let key ← lift (Registry.keyOf t)
  match (← get).plans.lookup key with
  | some plan => pure plan
  | none =>
    if (← get).building.contains key then again t
    else
      let plan ← whileBuilding key
        (buildWith (lookups table nested) table t Overrides.none)
      modify fun r => { r with plans := (key, plan) :: r.plans }
      pure plan

/-- A target that is being compiled already is refused. -/
def Compile.refuse (t : TypeExpr) : Compile DecodePlan :=
  throw (recursiveFlatten t)

/-- Each level of a compilation is one level above the next. -/
theorem planWithin_succ (table : ClassTable) (fuel : Nat) :
    Compile.planWithin table (fuel + 1) =
      Compile.planStep table Compile.refuse (Compile.planWithin table fuel) := rfl

/-- The run of one level of a compilation. -/
theorem run_planStep (table : ClassTable) (again nested : TypeExpr → Compile DecodePlan)
    (t : TypeExpr) (r : Registry) :
    (Compile.planStep table again nested t).run r =
      match Registry.keyOf t with
      | .error f => (.error f, r)
      | .ok key =>
        match r.plans.lookup key with
        | some p => (.ok p, r)
        | none =>
          if r.building.contains key then (again t).run r
          else
            match (Compile.whileBuilding key (Compile.buildWith
              (Compile.lookups table nested) table t Overrides.none)).run r with
            | (.ok p, r') => (.ok p, { r' with plans := (key, p) :: r'.plans })
            | (.error f, r') => (.error f, r') := by
  unfold Compile.planStep
  cases Registry.keyOf t with
  | error f => rfl
  | ok key =>
    have hlift : (Compile.lift (.ok key) : Compile Key).run r = (.ok key, r) := rfl
    rw [Running.run_bind_of_ok hlift, Running.run_bind_of_ok (Running.run_get r)]
    dsimp only
    cases r.plans.lookup key with
    | some p => rfl
    | none =>
      dsimp only
      rw [Running.run_bind_of_ok (Running.run_get r)]
      split
      · rfl
      · rw [Running.run_bind]
        split
        next p r' hrun => rw [hrun]; rfl
        next f r' hrun => rw [hrun]

/-- The run of a compilation. -/
theorem run_planWithin (table : ClassTable) (fuel : Nat) (t : TypeExpr) (r : Registry) :
    (Compile.planWithin table (fuel + 1) t).run r =
      match Registry.keyOf t with
      | .error f => (.error f, r)
      | .ok key =>
        match r.plans.lookup key with
        | some p => (.ok p, r)
        | none =>
          if r.building.contains key then (.error (Compile.recursiveFlatten t), r)
          else
            match (Compile.whileBuilding key (Compile.buildWith
              (Compile.lookups table (Compile.planWithin table fuel)) table t
              Overrides.none)).run r with
            | (.ok p, r') => (.ok p, { r' with plans := (key, p) :: r'.plans })
            | (.error f, r') => (.error f, r') := by
  rw [planWithin_succ, run_planStep]
  rfl

/-- Where a target is asked for: by itself, or as a class that another target flattens. -/
def Place (table : ClassTable) (building : List Key) (fuel : Nat) (t : TypeExpr) : Prop :=
  building = [] ∧ fuel = table.classes.length + 1 ∨ ∃ c, t = .declared c ∧ table.Knows c

/-- A cached plan of a target is one that compiling the target here would give. -/
theorem Cached.plan_here (h : Cached u table building r) {fuel : Nat}
    (haround : Around table building t)
    (hroom : t.key ∉ building → table.pending (t.key :: building) < fuel)
    (hplace : Place table building fuel t) {p : DecodePlan}
    (hp : r.plans.lookup t.key = some p) :
    Uncached.planWithin u table (fuel + 1) building t (.ok p) := by
  obtain ⟨t', hkey, hplan⟩ := h.plans _ _ hp
  rcases hplace with ⟨rfl, rfl⟩ | ⟨c, rfl, -⟩
  · exact Uncached.planFor_of_key hkey hplan
  · have hself := Uncached.not_reaches_self hkey hplan
    -- What is being compiled reaches the class; were it the class, that would reach itself.
    have hfresh : c.key ∉ building := by
      intro hmem
      obtain ⟨a, ha, hreach⟩ := haround _ hmem
      have := Reaches.eq_of_key hreach ha
      subst this
      exact hself hreach
    exact Uncached.within_of_planFor hkey hplan hfresh (fun v hv => haround.avoids hself hv)
      (hroom hfresh)

/-- One compilation answers as without caches, if the compilations nested in it do. -/
theorem planWithin_step {fuel : Nat} (haround : Around table building t)
    (hroom : t.key ∉ building → table.pending (t.key :: building) < fuel)
    (hplace : Place table building fuel t)
    (hnested : t.key ∉ building → ∀ v, Flattens table Overrides.none t v →
      Answers u table (t.key :: building) (Compile.planWithin table fuel v)
        (Uncached.planWithin u table fuel (t.key :: building) v)) :
    Answers u table building (Compile.planWithin table (fuel + 1) t)
      (Uncached.planWithin u table (fuel + 1) building t) := by
  intro r h
  rw [run_planWithin]
  cases hkeyOf : Registry.keyOf t with
  | error f =>
    refine ⟨h, fun _ _ hp => hp, Or.inl (Uncached.compile_apply.mpr ?_)⟩
    rw [hkeyOf]
  | ok key =>
    obtain ⟨-, rfl⟩ := Uncached.keyOf_ok.mp hkeyOf
    dsimp only
    cases hlookup : r.plans.lookup t.key with
    | some p => exact ⟨h, fun _ _ hp => hp, h.plan_here haround hroom hplace hlookup⟩
    | none =>
      dsimp only
      rw [h.building]
      split
      next hmem =>
        refine ⟨h, fun _ _ hp => hp, Or.inl (Uncached.compile_apply.mpr ?_)⟩
        rw [hkeyOf]
        dsimp only
        rw [if_pos hmem]
      next hmem =>
        -- The target is compiled anew, with itself among what is being compiled.
        have hfresh : t.key ∉ building := by simpa using hmem
        obtain ⟨hcached, hkeeps, hbuilt⟩ := whileBuilding_answers hfresh
          (Compile.buildWith_related (lookups_related (hnested hfresh)) fun _ hv => hv) r h
        have hcompiled : ∀ x, Compile.buildWith (Uncached.lookups u table
            (Uncached.planWithin u table fuel (t.key :: building))) table t Overrides.none x →
            Uncached.planWithin u table (fuel + 1) building t x := by
          refine fun x hx => Or.inl (Uncached.compile_apply.mpr ?_)
          rw [hkeyOf]
          dsimp only
          rw [if_neg hmem]
          exact hx
        rcases hrun : (Compile.whileBuilding t.key (Compile.buildWith
          (Compile.lookups table (Compile.planWithin table fuel)) table t Overrides.none)).run r
          with ⟨f | p, r'⟩
        · rw [hrun] at hcached hkeeps hbuilt
          exact ⟨hcached, hkeeps, hcompiled _ hbuilt⟩
        · rw [hrun] at hcached hkeeps hbuilt
          have hp := hcompiled _ hbuilt
          exact ⟨hcached.putPlan (Uncached.planFor_of_within hp), hkeeps.putPlan hlookup p, hp⟩

/-- Where the fuel is enough for the classes left to enter, what is left of it is enough for those
left after one more. -/
theorem ClassTable.Knows.room_nested {c : ClassRef} (hc : table.Knows c) {fuel : Nat}
    (hroom : table.pending building < fuel + 1) (hnot : c.key ∉ building) :
    table.pending (c.key :: building) < fuel := by
  have := hc.pending_lt hnot
  omega

/-- Plans answer as without caches, if the fuel is enough for the classes left to enter. -/
theorem planWithin_answers :
    ∀ (fuel : Nat) {building : List Key} {t : TypeExpr}, Around table building t →
      (t.key ∉ building → table.pending (t.key :: building) < fuel) →
      Place table building fuel t →
      Answers u table building (Compile.planWithin table (fuel + 1) t)
        (Uncached.planWithin u table (fuel + 1) building t) := by
  intro fuel
  induction fuel with
  | zero =>
    intro building t haround hroom hplace
    exact planWithin_step haround hroom hplace fun hfresh =>
      absurd (hroom hfresh) (Nat.not_lt_zero _)
  | succ fuel ih =>
    intro building t haround hroom hplace
    refine planWithin_step haround hroom hplace fun hfresh v hv => ?_
    obtain ⟨c, rfl, hc⟩ := hv.known
    exact ih (haround.cons hv) (hc.room_nested (hroom hfresh)) (Or.inr ⟨c, rfl, hc⟩)

/-- The plan of a target answers as without caches. -/
theorem planFor_answers :
    Answers u table [] (Compile.planFor table t) (Uncached.planFor u table t) := by
  refine planWithin_answers _ (fun _ h => absurd h (List.not_mem_nil)) (fun _ => ?_)
    (Or.inl ⟨rfl, rfl⟩)
  exact Nat.lt_succ_of_le (table.pending_le _)

/-- A target with directives from outside answers as without caches. -/
theorem build_answers {overrides : Overrides} :
    Answers u table [] (Compile.build table t overrides)
      (Compile.buildWith (Uncached.answers u table) table t overrides) :=
  Compile.buildWith_related (lookups_related fun _ _ => planFor_answers) fun _ _ => trivial

/-- The mapper of a class answers as without caches. -/
theorem mapperFor_answers :
    Answers u table [] (Compile.mapperFor (Compile.answers table) table t)
      (Compile.mapperFor (Uncached.answers u table) table t) := by
  have hanswers : (Compile.answers table).Related _ (fun _ => True) (Uncached.answers u table) :=
    lookups_related fun _ _ => planFor_answers
  exact Compile.mapperFor_related hanswers fun _ => trivial

end

/-! ## Calls in any order -/

/-- A call that registers something or looks something up. -/
inductive Call where
  | registerDecoder (t : TypeExpr) (decoder : Transform)
  | registerConverter (source target : TypeExpr) (converter : Transform)
  | registerDefault (t : TypeExpr) (supply : Supply)
  | decoderFor (t : TypeExpr)
  | mapperFor (t : TypeExpr)
  | converterFor (source target : TypeExpr)
  | defaultFor (t : TypeExpr)
  | planFor (t : TypeExpr)

namespace Call

/-- Calls that register nothing. -/
def isLookup : Call → Bool
  | registerDecoder .. | registerConverter .. | registerDefault .. => false
  | _ => true

/-- What a call registers. A lookup registers nothing, and neither does a refused registration. -/
def register : Call → Registry → Registry
  | registerDecoder t decoder, r => (r.registerDecoder t decoder).toOption.getD r
  | registerConverter source target converter, r =>
    (r.registerConverter source target converter).toOption.getD r
  | registerDefault t supply, r => (r.registerDefault t supply).toOption.getD r
  | _, r => r

/-- The registry after a call, which may fail. -/
def run (table : ClassTable) (call : Call) (r : Registry) : Registry :=
  match call with
  | decoderFor t => ((Compile.decoderFor table t).run r).2
  | mapperFor t => ((Compile.mapperFor (Compile.answers table) table t).run r).2
  | converterFor source target => ((Compile.converterFor table source target).run r).2
  | defaultFor t => ((Compile.defaultFor table t).run r).2
  | planFor t => ((Compile.planFor table t).run r).2
  | _ => call.register r

/-- The registry after calls in turn. -/
def runAll (table : ClassTable) (calls : List Call) (r : Registry) : Registry :=
  calls.foldl (fun r call => call.run table r) r

/-- The registrations of calls in turn. -/
def registerAll (calls : List Call) (r : Registry) : Registry :=
  calls.foldl (fun r call => call.register r) r

/-- Lookups register nothing. -/
theorem registerAll_of_lookups {calls : List Call} (hcalls : ∀ call ∈ calls, call.isLookup = true)
    (r : Registry) : registerAll calls r = r := by
  induction calls with
  | nil => rfl
  | cons call rest ih =>
    have hregister : call.register r = r := by
      have hlookup := hcalls call (List.mem_cons_self ..)
      cases call <;> first | rfl | cases hlookup
    show registerAll rest (call.register r) = r
    rw [hregister]
    exact ih fun c hc => hcalls c (List.mem_cons_of_mem _ hc)

variable {table : ClassTable} {u r : Registry}

theorem register_decoder (t : TypeExpr) (decoder : Transform) (r : Registry) :
    (registerDecoder t decoder).register r =
      match Registry.keyOf t with
      | .ok key => { r with decoders := (key, decoder) :: r.decoders, resolved := [], plans := [] }
      | .error _ => r := by
  show (r.registerDecoder t decoder).toOption.getD r = _
  unfold Registry.registerDecoder
  cases Registry.keyOf t <;> rfl

theorem register_converter (source target : TypeExpr) (converter : Transform) (r : Registry) :
    (registerConverter source target converter).register r =
      match Registry.keyOf source, Registry.keyOf target with
      | .ok s, .ok t => { r with converters := ((s, t), converter) :: r.converters, plans := [] }
      | _, _ => r := by
  show (r.registerConverter source target converter).toOption.getD r = _
  unfold Registry.registerConverter
  cases Registry.keyOf source with
  | error f => rfl
  | ok s => cases Registry.keyOf target <;> rfl

theorem register_default (t : TypeExpr) (supply : Supply) (r : Registry) :
    (registerDefault t supply).register r =
      match Registry.keyOf t with
      | .ok key => { r with defaults := (key, supply) :: r.defaults, plans := [] }
      | .error _ => r := by
  show (r.registerDefault t supply).toOption.getD r = _
  unfold Registry.registerDefault
  cases Registry.keyOf t <;> rfl

/-- A registration drops what it may affect and keeps the rest right. -/
theorem register_cached (h : Cached u table [] r) {call : Call} (hcall : call.isLookup = false) :
    Cached (call.register u) table [] (call.register r) := by
  obtain ⟨rfl, hbuilding, hresolved, hplans⟩ := h
  have hnone : ∀ {β : Type} {P : Key → β → Prop} (key : Key) (b : β),
      ([] : List (Key × β)).lookup key = some b → P key b := fun _ _ h => nomatch h
  cases call with
  | registerDecoder t decoder =>
    rw [register_decoder, register_decoder]
    cases Registry.keyOf t with
    | error f => exact ⟨rfl, hbuilding, hresolved, hplans⟩
    | ok key => exact ⟨rfl, hbuilding, hnone, hnone⟩
  | registerConverter source target converter =>
    rw [register_converter, register_converter]
    split
    next s t _ _ =>
      -- No decoder depends on a converter, so those that were resolved stay right.
      refine ⟨rfl, hbuilding, fun key d hd => ?_, hnone⟩
      obtain ⟨t', hkey, hdecodes⟩ := hresolved key d hd
      refine ⟨t', hkey, Decodes.congr ?_ ?_ hdecodes⟩ <;> rfl
    next => exact ⟨rfl, hbuilding, hresolved, hplans⟩
  | registerDefault t supply =>
    rw [register_default, register_default]
    cases Registry.keyOf t with
    | error f => exact ⟨rfl, hbuilding, hresolved, hplans⟩
    | ok key =>
      refine ⟨rfl, hbuilding, fun key d hd => ?_, hnone⟩
      obtain ⟨t', hkey, hdecodes⟩ := hresolved key d hd
      refine ⟨t', hkey, Decodes.congr ?_ ?_ hdecodes⟩ <;> rfl
  | _ => cases hcall

/-- A lookup keeps the caches right and every plan in its place. -/
theorem lookup_cached (h : Cached u table [] r) {call : Call} (hcall : call.isLookup = true) :
    call.register u = u ∧ Cached u table [] (call.run table r) ∧
      KeepsPlans r (call.run table r) := by
  cases call with
  | decoderFor t =>
    obtain ⟨hcached, hkeeps, -⟩ := decoderFor_answers (t := t) r h
    exact ⟨rfl, hcached, hkeeps⟩
  | mapperFor t =>
    obtain ⟨hcached, hkeeps, -⟩ := mapperFor_answers (t := t) r h
    exact ⟨rfl, hcached, hkeeps⟩
  | converterFor source target =>
    have hanswers : Answers u table [] (Compile.converterFor table source target) _ :=
      converterFor_answers
    obtain ⟨hcached, hkeeps, -⟩ := hanswers r h
    exact ⟨rfl, hcached, hkeeps⟩
  | defaultFor t =>
    obtain ⟨hcached, hkeeps, -⟩ := defaultFor_answers (t := t) r h
    exact ⟨rfl, hcached, hkeeps⟩
  | planFor t =>
    obtain ⟨hcached, hkeeps, -⟩ := planFor_answers (t := t) r h
    exact ⟨rfl, hcached, hkeeps⟩
  | _ => cases hcall

theorem run_cached (h : Cached u table [] r) (call : Call) :
    Cached (call.register u) table [] (call.run table r) := by
  cases hcall : call.isLookup with
  | true =>
    obtain ⟨hregister, hcached, -⟩ := lookup_cached h hcall
    rw [hregister]
    exact hcached
  | false =>
    have hrun : call.run table r = call.register r := by cases call <;> first | rfl | cases hcall
    rw [hrun]
    exact register_cached h hcall

theorem runAll_cached (calls : List Call) {u r : Registry} (h : Cached u table [] r) :
    Cached (registerAll calls u) table [] (runAll table calls r) := by
  induction calls generalizing u r with
  | nil => exact h
  | cons call rest ih => exact ih (run_cached h call)

theorem lookups_keepPlans (calls : List Call) (hcalls : ∀ call ∈ calls, call.isLookup = true)
    {u r : Registry} (h : Cached u table [] r) : KeepsPlans r (runAll table calls r) := by
  induction calls generalizing r with
  | nil => exact fun _ _ hp => hp
  | cons call rest ih =>
    obtain ⟨-, hcached, hkeeps⟩ := lookup_cached h (hcalls call (List.mem_cons_self ..))
    have hrest := ih (fun c hc => hcalls c (List.mem_cons_of_mem _ hc)) hcached
    exact fun key p hp => hrest key p (hkeeps key p hp)

end Call

/-- A new registry has nothing in its caches. -/
theorem create_cached (table : ClassTable) (name : String) (config : RegistryConfig) :
    Cached (Registry.create name config) table [] (Registry.create name config) :=
  ⟨rfl, rfl, (fun _ _ h => nomatch h), (fun _ _ h => nomatch h)⟩

/-- A plan that was compiled on some level is kept. -/
theorem planWithin_kept {table : ClassTable} {n : Nat} {t : TypeExpr} {r r' : Registry}
    {p : DecodePlan} (h : (Compile.planWithin table (n + 1) t).run r = (.ok p, r')) :
    ∃ key, Registry.keyOf t = .ok key ∧ r'.plans.lookup key = some p := by
  rw [run_planWithin] at h
  cases hkey : Registry.keyOf t with
  | error f =>
    rw [hkey] at h
    cases h
  | ok key =>
    rw [hkey] at h
    refine ⟨key, rfl, ?_⟩
    dsimp only at h
    split at h
    next hlookup =>
      cases h
      exact hlookup
    next =>
      split at h
      · cases h
      · split at h
        · cases h
          exact List.lookup_cons_self ..
        · cases h

/-- A plan that is handed out is kept. -/
theorem planFor_kept {table : ClassTable} {t : TypeExpr} {r r' : Registry} {p : DecodePlan}
    (h : (Compile.planFor table t).run r = (.ok p, r')) :
    ∃ key, Registry.keyOf t = .ok key ∧ r'.plans.lookup key = some p :=
  planWithin_kept h

/-- A plan that is kept is handed out, and nothing changes. -/
theorem run_planFor_of_kept {table : ClassTable} {t : TypeExpr} {r : Registry} {key : Key}
    {p : DecodePlan} (hkey : Registry.keyOf t = .ok key) (hp : r.plans.lookup key = some p) :
    (Compile.planFor table t).run r = (.ok p, r) := by
  rw [Compile.planFor, Compile.fuel, run_planWithin, hkey]
  dsimp only
  rw [hp]

/-- **Caches are transparent.** After any calls on a registry, failed ones included, every lookup
answers as a registry without caches does that has only the registrations of those calls; where a
decoder is registered it is the last one for the type. A plan that was handed out is handed out
again, the very same one, until something is registered. -/
theorem lookups_answer (table : ClassTable) (name : String) (config : RegistryConfig)
    (calls : List Call) :
    let r := Call.runAll table calls (Registry.create name config)
    let u := Call.registerAll calls (Registry.create name config)
    (∀ t, Uncached.decoderFor u table t ((Compile.decoderFor table t).run r).1) ∧
    (∀ t key d, Registry.keyOf t = .ok key → u.decoders.lookup key = some d →
      ((Compile.decoderFor table t).run r).1 = .ok (some d)) ∧
    (∀ t, Compile.mapperFor (Uncached.answers u table) table t
      ((Compile.mapperFor (Compile.answers table) table t).run r).1) ∧
    (∀ source target, ((Compile.converterFor table source target).run r).1 =
      u.converterFor table source target) ∧
    (∀ t, ((Compile.defaultFor table t).run r).1 = u.defaultFor table t) ∧
    (∀ t, Uncached.planFor u table t ((Compile.planFor table t).run r).1) ∧
    ∀ t p r', (Compile.planFor table t).run r = (.ok p, r') →
      ∀ later : List Call, (∀ call ∈ later, call.isLookup = true) →
        ∀ t', Registry.keyOf t' = Registry.keyOf t →
          (Compile.planFor table t').run (Call.runAll table later r') =
            (.ok p, Call.runAll table later r') := by
  intro r u
  have h : Cached u table [] r := Call.runAll_cached calls (create_cached table name config)
  refine ⟨fun t => (decoderFor_answers r h).2.2, fun t key d hkey hd => ?_,
    fun t => (mapperFor_answers r h).2.2,
    fun source target => Outcomes.lift_apply.mp (converterFor_answers r h).2.2,
    fun t => Outcomes.lift_apply.mp (defaultFor_answers r h).2.2,
    fun t => (planFor_answers r h).2.2, ?_⟩
  · obtain ⟨-, rfl⟩ := Uncached.keyOf_ok.mp hkey
    obtain ⟨-, -, ⟨_, -, hdecodes⟩ | ⟨f, hf, -⟩⟩ := decoderFor_answers (t := t) r h
    · exact hdecodes.registered hd
    · rw [hkey] at hf
      cases hf
  · -- The plan is kept when it is handed out, and lookups keep what is kept.
    intro t p r' hrun later hlater t' hkeys
    obtain ⟨key, hkey, hkept⟩ := planFor_kept hrun
    have hcached : Cached u table [] r' := by
      have := (planFor_answers (t := t) r h).1
      rwa [hrun] at this
    exact run_planFor_of_kept (hkeys.trans hkey)
      (Call.lookups_keepPlans later hlater hcached key p hkept)

/-- **Settled types have one decoder.** After any calls, failed ones included, what decodes a settled
type is the one thing that the registrations of those calls lead to, whatever was looked up before.
-/
theorem decoderFor_settled (table : ClassTable) (name : String) (config : RegistryConfig)
    (calls : List Call) {t : TypeExpr} (ht : t.Settled) :
    ((Compile.decoderFor table t).run
      (Call.runAll table calls (Registry.create name config))).1 =
      (Call.registerAll calls (Registry.create name config)).decoderAfresh table t :=
  (Uncached.decoderFor_iff ht).mp
    ((decoderFor_answers _ (Call.runAll_cached calls (create_cached table name config))).2.2)

end RowDecoding
