import RowDecoding.Proofs.Caching
import RowDecoding.Proofs.Absence

/-!
# Lookups made twice

Every capability is looked up twice while a target is compiled: once to see that it is there, and
once more for the step that uses it. In between the caches of the registry have grown. This file
says what a lookup leaves of the registry (`Registry.Undisturbed`): the registrations, the targets
that are being compiled, and the plans that are kept; a plan that is new is for none of those
targets. And it proves that a lookup which succeeded answers the same when it is made again, and
then leaves the registry as it is (`Steady`).
-/

namespace RowDecoding

/-! ## What a lookup leaves -/

/-- A registry and a later one that has learnt more. -/
structure Registry.Undisturbed (r r' : Registry) : Prop where
  registrations : r'.registrations = r.registrations
  building : r'.building = r.building
  kept : KeepsPlans r r'
  entered : ∀ key ∈ r.building, r.plans.lookup key = none → r'.plans.lookup key = none

namespace Registry.Undisturbed

variable {r r' r'' : Registry}

theorem refl (r : Registry) : r.Undisturbed r :=
  ⟨rfl, rfl, fun _ _ h => h, fun _ _ h => h⟩

theorem trans (h : r.Undisturbed r') (h' : r'.Undisturbed r'') : r.Undisturbed r'' where
  registrations := h'.registrations.trans h.registrations
  building := h'.building.trans h.building
  kept key p hp := h'.kept key p (h.kept key p hp)
  entered key hkey hnone := h'.entered key (h.building ▸ hkey) (h.entered key hkey hnone)

/-- Whatever is resolved or compiled besides, the plans and the targets being the same. -/
theorem of_caches (resolved : List (Key × Option Transform)) (compiled : Nat) :
    r.Undisturbed { r with resolved, compiled } :=
  ⟨rfl, rfl, fun _ _ h => h, fun _ _ h => h⟩

theorem converterFor (h : r.Undisturbed r') (table : ClassTable) (s t : TypeExpr) :
    r'.converterFor table s t = r.converterFor table s t := by
  show r'.registrations.converterFor table s t = r.registrations.converterFor table s t
  rw [h.registrations]

theorem defaultFor (h : r.Undisturbed r') (table : ClassTable) (t : TypeExpr) :
    r'.defaultFor table t = r.defaultFor table t := by
  show r'.registrations.defaultFor table t = r.registrations.defaultFor table t
  rw [h.registrations]

/-- A target that was not being compiled is entered, compiled, and left again. -/
theorem leaving {key : Key} (hfresh : key ∉ r.building)
    (h : Registry.Undisturbed { r with building := key :: r.building } r') :
    r.Undisturbed { r' with building := r'.building.filter (· != key) } where
  registrations := h.registrations
  building := by
    show r'.building.filter _ = _
    rw [h.building, filter_cons_of_new hfresh]
  kept := h.kept
  entered k hk := h.entered k (List.mem_cons_of_mem _ hk)

/-- A plan is kept for a target that is not being compiled and had none. -/
theorem putPlan {key : Key} (hfresh : key ∉ r.building) (hnone : r.plans.lookup key = none)
    (h : r.Undisturbed r') (p : DecodePlan) :
    r.Undisturbed { r' with plans := (key, p) :: r'.plans } where
  registrations := h.registrations
  building := h.building
  kept := h.kept.putPlan hnone p
  entered k hk hknone := by
    have hne : k ≠ key := fun heq => hfresh (heq ▸ hk)
    show List.lookup k ((key, p) :: r'.plans) = none
    rw [List.lookup_cons, beq_eq_false_iff_ne.mpr hne]
    exact h.entered k hk hknone

end Registry.Undisturbed

/-- Computations in a registry that leave it undisturbed, with their possible outcomes. -/
abbrev Lifting.undisturbed : Lifting Compile Outcomes :=
  Lifting.inRegistry (fun _ => True) Registry.Undisturbed Registry.Undisturbed.refl
    Registry.Undisturbed.trans

section

variable {table : ClassTable} {t : TypeExpr} {r r' : Registry}

/-! ## Decoders -/

theorem Registry.remembering_undisturbed (r : Registry) (t : TypeExpr)
    (x : Except Failure (Option Transform)) : r.Undisturbed (r.remembering t x).2 := by
  cases x with
  | error f => exact .refl r
  | ok d => exact .of_caches _ _

theorem Registry.directDecoder_undisturbed (r : Registry) (table : ClassTable) (t : TypeExpr) :
    r.Undisturbed (r.directDecoder table t).2 := by
  unfold Registry.directDecoder
  split
  · exact .refl r
  · exact r.remembering_undisturbed t _

theorem Registry.decoderFor_undisturbed (r : Registry) (table : ClassTable) (t : TypeExpr) :
    r.Undisturbed (r.decoderFor table t).2 := by
  unfold Registry.decoderFor
  split
  · exact .refl r
  · split
    · exact .refl r
    · split
      next inner _ _ =>
        exact (r.directDecoder_undisturbed table inner).trans
          (Registry.remembering_undisturbed _ t _)
      next => exact r.remembering_undisturbed t _

/-- What was resolved is remembered. -/
theorem Registry.remembering_ok {x : Except Failure (Option Transform)} {d : Option Transform}
    (h : r.remembering t x = (.ok d, r')) : r'.resolved.lookup t.key = some d := by
  cases x with
  | error f => cases h
  | ok d' =>
    cases h
    exact List.lookup_cons_self ..

/-- A type whose decoder was resolved has it remembered. -/
theorem Registry.decoderFor_ok {d : Option Transform}
    (h : r.decoderFor table t = (.ok d, r')) :
    Registry.keyOf t = .ok t.key ∧ r'.resolved.lookup t.key = some d := by
  unfold Registry.decoderFor at h
  split at h
  · cases h
  next key hkey =>
    obtain ⟨-, rfl⟩ := Uncached.keyOf_ok.mp hkey
    refine ⟨hkey, ?_⟩
    split at h
    next hd =>
      cases h
      exact hd
    next =>
      split at h
      · exact Registry.remembering_ok h
      · exact Registry.remembering_ok h

/-- A change of a registry that nothing about decoders depends on. -/
structure Registry.SparesDecoders (change : Registry → Registry) : Prop where
  config : ∀ r, (change r).config = r.config
  decoders : ∀ r, (change r).decoders = r.decoders
  resolved : ∀ r, (change r).resolved = r.resolved
  remember : ∀ r t d, (change r).remember t d = change (r.remember t d)

/-- Decoders are resolved in the same way in a registry that such a change was made to. -/
theorem Registry.SparesDecoders.decoderFor {change : Registry → Registry}
    (h : SparesDecoders change) (r : Registry) (table : ClassTable) (t : TypeExpr) :
    (change r).decoderFor table t =
      ((r.decoderFor table t).1, change (r.decoderFor table t).2) := by
  have hremembering : ∀ (r : Registry) (t : TypeExpr) (x : Except Failure (Option Transform)),
      (change r).remembering t x = ((r.remembering t x).1, change (r.remembering t x).2) := by
    intro r t x
    cases x with
    | error f => rfl
    | ok d => exact congrArg (Prod.mk _) (h.remember r t d)
  have hown : (change r).ownDecoder table = r.ownDecoder table := by
    funext t
    unfold ownDecoder derivedDecoder structuralDecoder
    rw [h.decoders, h.config]
  have hdirect : ∀ t, (change r).directDecoder table t =
      ((r.directDecoder table t).1, change (r.directDecoder table t).2) := by
    intro t
    unfold directDecoder
    rw [h.resolved, hown]
    cases r.resolved.lookup t.key with
    | some d => rfl
    | none => exact hremembering r t _
  unfold Registry.decoderFor
  cases keyOf t with
  | error f => rfl
  | ok k =>
    dsimp only
    rw [h.resolved, h.decoders, hown]
    cases r.resolved.lookup k with
    | some d => rfl
    | none =>
      cases r.decoders.lookup k with
      | some d => exact hremembering r t _
      | none =>
        cases t.optionalInner? with
        | none => exact hremembering r t _
        | some inner =>
          dsimp only
          rw [hdirect]
          exact hremembering _ t _

/-! ## Lookups that answer again what they answered -/

/-- A lookup that answers the same when it is made again, and leaves the registry undisturbed. -/
structure Steady {α : Type} (m : Compile α) : Prop where
  leaves : ∀ r : Registry, r.Undisturbed (m.run r).2
  again : ∀ {r a r'}, m.run r = (.ok a, r') → m.run r' = (.ok a, r')

theorem Steady.pure {α : Type} (a : α) : Steady (pure a : Compile α) where
  leaves r := .refl r
  again h := by
    cases h
    rfl

/-- A function of a steady answer. -/
theorem Steady.map {α β : Type} {m : Compile α} (h : Steady m) (f : α → β) :
    Steady (do return f (← m) : Compile β) := by
  refine ⟨fun r => ?_, fun {r b r'} hb => ?_⟩
  · rw [Running.run_return]
    exact h.leaves r
  · obtain ⟨a, r'', hm, hb⟩ := Running.run_bind_eq_ok.mp hb
    cases hb
    rw [Running.run_bind_of_ok (h.again hm)]
    rfl

theorem steady_decoderFor (table : ClassTable) (t : TypeExpr) :
    Steady (Compile.decoderFor table t) where
  leaves r := by
    rw [run_decoderFor]
    exact r.decoderFor_undisturbed table t
  again {r d r'} h := by
    rw [run_decoderFor] at h ⊢
    obtain ⟨hkey, hd⟩ := Registry.decoderFor_ok h
    unfold Registry.decoderFor
    rw [hkey]
    dsimp only
    rw [hd]

/-- The run of a lookup among the registrations. -/
theorem run_answer {α : Type} (answer : Registry → Except Failure α) (r : Registry) :
    (do Compile.lift (answer (← get)) : Compile α).run r = (answer r, r) := by
  rw [Running.run_bind_of_ok (Running.run_get r)]
  cases answer r <;> rfl

theorem run_converterFor (table : ClassTable) (s t : TypeExpr) (r : Registry) :
    (Compile.converterFor table s t).run r = (r.converterFor table s t, r) :=
  run_answer (fun r => r.converterFor table s t) r

theorem run_defaultFor (table : ClassTable) (t : TypeExpr) (r : Registry) :
    (Compile.defaultFor table t).run r = (r.defaultFor table t, r) :=
  run_answer (fun r => r.defaultFor table t) r

/-! ## Plans -/

/-- What a registry answers leaves it undisturbed, if its plans do. -/
theorem lookups_undisturbed {plan : TypeExpr → Compile DecodePlan}
    (hplan : ∀ v (r : Registry), r.Undisturbed ((plan v).run r).2) :
    (Compile.lookups table plan).Related Lifting.undisturbed (fun _ => True) Lookups.unknown where
  decoder t r _ := ⟨trivial, (steady_decoderFor table t).leaves r, trivial⟩
  converter s t r _ := by
    refine ⟨trivial, ?_, trivial⟩
    show r.Undisturbed ((Compile.converterFor table s t).run r).2
    rw [run_converterFor]
    exact .refl r
  default t r _ := by
    refine ⟨trivial, ?_, trivial⟩
    show r.Undisturbed ((Compile.defaultFor table t).run r).2
    rw [run_defaultFor]
    exact .refl r
  plan v _ r _ := ⟨trivial, hplan v r, trivial⟩
  mark _ _ := ⟨trivial, .of_caches _ _, trivial⟩

/-- Compiling a target leaves the registry undisturbed, if the plans nested in it do. -/
theorem buildWith_undisturbed (table : ClassTable) {plan : TypeExpr → Compile DecodePlan}
    (hplan : ∀ v (r : Registry), r.Undisturbed ((plan v).run r).2) (t : TypeExpr)
    (overrides : Overrides) (r : Registry) :
    r.Undisturbed ((Compile.buildWith (Compile.lookups table plan) table t overrides).run r).2 :=
  (Compile.buildWith_related (lookups_undisturbed hplan) (fun _ _ => trivial) r trivial).2.1

/-- By induction on the levels: a target is entered only if it is not being compiled, so that its
plan, if there is one in the end, is for no target that is. -/
theorem planWithin_undisturbed (table : ClassTable) :
    ∀ (fuel : Nat) (t : TypeExpr) (r : Registry),
      r.Undisturbed ((Compile.planWithin table fuel t).run r).2 := by
  intro fuel
  induction fuel with
  | zero => exact fun _ r => .refl r
  | succ fuel ih =>
    intro t r
    rw [run_planWithin]
    cases Registry.keyOf t with
    | error f => exact .refl r
    | ok key =>
      dsimp only
      cases hlookup : r.plans.lookup key with
      | some p => exact .refl r
      | none =>
        dsimp only
        by_cases hmem : key ∈ r.building
        · rw [if_pos (by simpa using hmem)]
          exact .refl r
        · rw [if_neg (by simpa using hmem), run_whileBuilding]
          have hbuilt := buildWith_undisturbed table ih t Overrides.none
            { r with building := key :: r.building }
          have hleft := Registry.Undisturbed.leaving hmem hbuilt
          rcases hrun : (Compile.buildWith (Compile.lookups table (Compile.planWithin table fuel))
            table t Overrides.none).run { r with building := key :: r.building } with ⟨f | p, r'⟩
          · rw [hrun] at hleft
            exact hleft
          · rw [hrun] at hleft
            exact hleft.putPlan hmem hlookup p

theorem steady_planFor (table : ClassTable) (t : TypeExpr) :
    Steady (Compile.planFor table t) where
  leaves := planWithin_undisturbed table (Compile.fuel table) t
  again h := by
    obtain ⟨key, hkey, hkept⟩ := planFor_kept h
    exact run_planFor_of_kept hkey hkept

theorem steady_mapperFor {plan : TypeExpr → Compile DecodePlan} (hplan : ∀ v, Steady (plan v))
    (t : TypeExpr) : Steady (Compile.mapperFor (Compile.lookups table plan) table t) := by
  unfold Compile.mapperFor
  cases mappingOf table t with
  | none => exact .pure _
  | own mapper => exact .pure _
  | byPlan => exact (hplan t).map fun p => some (RowMapper.plan p)

end

end RowDecoding
