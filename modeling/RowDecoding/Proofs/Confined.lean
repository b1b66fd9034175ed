import RowDecoding.Proofs.Executing

/-!
# Confined plans

What running a plan may touch, how it may fail, and how deep plans are run within it. Which failures
are allowed is a parameter, an `Allowance`: all that are no schema failures, and whichever schema
failures one likes. A plan is closed if its hooks are allowed and no mapper within is left to a
registry. From a closed session two runs of it are paired whose sessions differ in their registries
(`Allowance.pairing`), by induction on the number of levels; and the second run may be on levels that
run fewer plans inside of each other.

* `execute_withRegistries`: what a closed plan makes of a row does not depend on any registry.
* `execute_allowed`: it fails in an allowed way only.
* `execute_shallow`: plans that are nested in it so deep are run inside of each other no deeper.
-/

namespace RowDecoding

/-! ## Allowed failures -/

/-- Failures of a target that cannot be compiled. -/
def Failure.isSchema : Failure → Bool
  | .schema .. => true
  | _ => false

/-- What a computation may do: which failures it may end with, all but schema failures among them,
and whether its hooks may run saved plans. -/
structure Allowance where
  allows : Failure → Prop
  runs : Prop
  others : ∀ f, f.isSchema = false → allows f

namespace Allowance

/-- Everything. -/
def anything : Allowance := ⟨fun _ => True, True, fun _ _ => trivial⟩

/-- Everything but schema failures; hooks run saved plans if `runs` says so. -/
def noSchema (runs : Prop) : Allowance := ⟨fun f => f.isSchema = false, runs, fun _ h => h⟩

variable (A : Allowance)

theorem fault (f : Fault) : A.allows (.fault f) :=
  A.others _ rfl

theorem invalid (issues : List Issue) : A.allows (.invalid issues) :=
  A.others _ rfl

theorem row (problem : RowProblem) (field : Option String) (cause : Option Failure) :
    A.allows (.row problem field cause) :=
  A.others _ rfl

end Allowance

/-! ## Hooks that do what is allowed -/

mutual

/-- What a hook states and runs is allowed. -/
def Hook.Allowed (A : Allowance) : Hook → Prop
  | .fail f => A.allows f
  | .run _ => A.runs
  | .pipe hooks => AllAllowed A hooks
  | _ => True

/-- What several hooks state and run is allowed. -/
def AllAllowed (A : Allowance) : List Hook → Prop
  | [] => True
  | h :: rest => h.Allowed A ∧ AllAllowed A rest

end

section

variable (A : Allowance)

/-- The hooks of a transform are allowed. -/
def Transform.Allowed : Transform → Prop
  | .hook _ h => h.Allowed A
  | .nullable inner => inner.Allowed
  | _ => True

/-- The hook of a default is allowed. -/
def Supply.Allowed : Supply → Prop
  | .hook _ h => h.Allowed A
  | _ => True

/-- The hooks of a field are allowed. -/
structure FieldDeclaration.Allowed (f : FieldDeclaration) : Prop where
  default : ∀ s, f.default = some s → s.Allowed A
  validator : ∀ h, f.validator = some h → h.Allowed A

/-- The hooks of a class are allowed. -/
structure ClassInfo.Allowed (info : ClassInfo) : Prop where
  fields : ∀ f ∈ info.fields, f.Allowed A
  parameters : ∀ maker, info.constructor? = some maker → ∀ f ∈ maker.parameters, f.Allowed A
  ending : ∀ maker h, info.constructor? = some maker → maker.making = .written (some h) →
    h.Allowed A
  attributes : ∀ name h, info.attributes.lookup name = some (.hook h) → h.Allowed A

/-- The hooks of all classes are allowed. -/
def ClassTable.Allowed (table : ClassTable) : Prop :=
  ∀ info ∈ table.classes, info.Allowed A

/-- The hooks of a step are allowed. -/
structure Step.Allowed (s : DecodeStep) : Prop where
  decoder : ∀ d, s.strategy.decoder? = some d → d.Allowed A
  converter : ∀ c, s.converter = some c → c.Allowed A
  default : ∀ d, s.default = some d → d.Allowed A

/-- The hooks within a mapper are allowed, no mapper within is left to a registry, and plans are
nested in each other no deeper than this, the outermost one counted. -/
def RowMapper.Within : Nat → RowMapper → Prop
  | 0, .plan _ => False
  | n + 1, .plan p => ∀ s ∈ p.steps, s.Allowed A ∧
      ∀ m, s.strategy = .flatten (some m) → RowMapper.Within n m
  | _, .hook _ h => h.Allowed A
  | _, .inherited .. => False
  | _, .bare h => h.Allowed A

/-- The hooks within a mapper are allowed, and no mapper within is left to a registry. -/
def RowMapper.Closed (m : RowMapper) : Prop :=
  ∃ n, m.Within A n

end

/-! ## Where everything is allowed -/

theorem allAllowed_iff {A : Allowance} {hooks : List Hook} :
    AllAllowed A hooks ↔ ∀ h ∈ hooks, h.Allowed A := by
  induction hooks with
  | nil => exact iff_of_true trivial fun _ h => nomatch h
  | cons h rest ih => exact (and_congr_right' ih).trans List.forall_mem_cons.symm

theorem Hook.allowed_anything : ∀ h : Hook, h.Allowed .anything
  | .fail _ | .run _ => trivial
  | .pipe hooks => allAllowed_iff.mpr fun h _ => Hook.allowed_anything h
  | .identity | .constant _ | .readInt _ | .text | .multiply _ | .upper | .split _ | .part _
  | .construct _ | .make _ | .constructSpread _ | .constructFrom .. | .columnNamed _ | .columnAt _
  | .nonNegative _ | .count | .note _ => trivial

theorem Transform.allowed_anything (t : Transform) : t.Allowed .anything := by
  induction t with
  | hook owner h => exact Hook.allowed_anything h
  | nullable inner ih => exact ih
  | _ => trivial

theorem Supply.allowed_anything (s : Supply) : s.Allowed .anything := by
  cases s with
  | hook owner h => exact Hook.allowed_anything h
  | _ => trivial

theorem ClassTable.allowed_anything (table : ClassTable) : table.Allowed .anything := by
  have hfield : ∀ f : FieldDeclaration, f.Allowed .anything := fun _ =>
    ⟨fun s _ => s.allowed_anything, fun h _ => h.allowed_anything⟩
  exact fun _ _ => ⟨fun f _ => hfield f, fun _ _ f _ => hfield f,
    fun _ h _ _ => h.allowed_anything, fun _ h _ => h.allowed_anything⟩

/-! ## Nested mappers -/

namespace RowMapper

variable {A : Allowance} {n : Nat}

@[simp] theorem within_hook {owner : ClassRef} {h : Hook} :
    (hook owner h).Within A n ↔ h.Allowed A := by
  cases n <;> exact Iff.rfl

@[simp] theorem within_bare {h : Hook} : (bare h).Within A n ↔ h.Allowed A := by
  cases n <;> exact Iff.rfl

@[simp] theorem not_within_inherited {owner : ClassRef} {registry : String} :
    ¬(inherited owner registry).Within A n := by
  cases n <;> exact id

/-- A mapper in a plan is nested one level less deep than the plan. -/
theorem Within.nested {p : DecodePlan} (hp : (plan p).Within A n) {s : DecodeStep}
    (hs : s ∈ p.steps) {m : RowMapper} (hm : s.strategy = .flatten (some m)) :
    ∃ k, n = k + 1 ∧ m.Within A k := by
  cases n with
  | zero => exact hp.elim
  | succ k => exact ⟨k, rfl, (hp s hs).2 m hm⟩

/-- Mappers that are nested so deep are nested no deeper than any greater number. -/
theorem Within.mono {k : Nat} (hnk : n ≤ k) {m : RowMapper} (hm : m.Within A n) :
    m.Within A k := by
  induction n generalizing k m with
  | zero =>
    cases m with
    | plan p => exact hm.elim
    | hook owner h => exact within_hook.mpr (within_hook.mp hm)
    | inherited owner registry => exact (not_within_inherited hm).elim
    | bare h => exact within_bare.mpr (within_bare.mp hm)
  | succ n ih =>
    cases m with
    | plan p =>
      obtain ⟨k, rfl⟩ : ∃ j, k = j + 1 := ⟨k - 1, by omega⟩
      intro s hs
      obtain ⟨hallowed, hnested⟩ := hm s hs
      exact ⟨hallowed, fun m hm => ih (by omega) (hnested m hm)⟩
    | hook owner h => exact within_hook.mpr (within_hook.mp hm)
    | inherited owner registry => exact (not_within_inherited hm).elim
    | bare h => exact within_bare.mpr (within_bare.mp hm)

end RowMapper

/-! ## Allowed hooks by where they stand -/

section

variable {A : Allowance}

theorem Transform.Allowed.hook {t : Transform} (ht : t.Allowed A) {h : Hook}
    (hh : t.hook? = some h) : h.Allowed A := by
  induction t with
  | hook owner hook =>
    cases hh
    exact ht
  | nullable inner ih => exact ih ht hh
  | _ => cases hh

theorem Step.Allowed.hook {s : DecodeStep} (hs : s.Allowed A) {h : Hook} (hh : s.HasHook h) :
    h.Allowed A := by
  cases hh with
  | decoder ht hh => exact (hs.decoder _ ht).hook hh
  | converter ht hh => exact (hs.converter _ ht).hook hh
  | default hdefault => exact hs.default _ hdefault

theorem FieldDeclaration.allowed_iff {f : FieldDeclaration} :
    f.Allowed A ↔ ∀ h, f.HasHook h → h.Allowed A := by
  constructor
  · rintro hf h (hdefault | hvalidator)
    · exact hf.default _ hdefault
    · exact hf.validator h hvalidator
  · refine fun hf => ⟨fun s hs => ?_, fun h hh => hf h (.validator hh)⟩
    cases s with
    | hook owner h => exact hf h (.default hs)
    | _ => trivial

theorem ClassInfo.allowed_iff {info : ClassInfo} :
    info.Allowed A ↔ ∀ h, info.HasHook h → h.Allowed A := by
  constructor
  · rintro hinfo h (⟨hf, hh⟩ | ⟨hmaker, hf, hh⟩ | ⟨hmaker, hmaking⟩ | ⟨hname, hh⟩)
    · exact FieldDeclaration.allowed_iff.mp (hinfo.fields _ hf) h hh
    · exact FieldDeclaration.allowed_iff.mp (hinfo.parameters _ hmaker _ hf) h hh
    · exact hinfo.ending _ h hmaker hmaking
    · rcases ClassAttribute.function?_eq_some hh with rfl | ⟨t, rfl⟩
      · exact hinfo.attributes _ h hname
      · trivial
  · intro hinfo
    exact
      { fields := fun f hf => FieldDeclaration.allowed_iff.mpr fun h hh => hinfo h (.field hf hh)
        parameters := fun maker hmaker f hf =>
          FieldDeclaration.allowed_iff.mpr fun h hh => hinfo h (.parameter hmaker hf hh)
        ending := fun maker h hmaker hmaking => hinfo h (.ending hmaker hmaking)
        attributes := fun name h hname => hinfo h (.attribute hname rfl) }

namespace ClassTable

variable {table : ClassTable}

/-- The hooks of all classes are allowed just if the classes have no others. -/
theorem allowed_iff : table.Allowed A ↔ table.HooksIn (·.Allowed A) :=
  forall₂_congr fun _ _ => ClassInfo.allowed_iff

theorem Allowed.info (h : table.Allowed A) (c : ClassRef) : (table.info c).Allowed A :=
  ClassInfo.allowed_iff.mpr fun _ hh => (allowed_iff.mp h).info c hh

theorem Allowed.schemaOf? (h : table.Allowed A) {c : ClassRef} {info : ClassInfo}
    (hc : table.schemaOf? c = some info) : info.Allowed A :=
  ClassInfo.allowed_iff.mpr fun _ hh => (allowed_iff.mp h).schemaOf? hc hh

theorem Allowed.attribute? (h : table.Allowed A) {c : ClassRef} {name : String}
    {a : ClassAttribute} {hook : Hook} (hc : table.attribute? c name = some a)
    (hhook : a.function? = some hook) : hook.Allowed A :=
  (allowed_iff.mp h).attribute? hc hhook

end ClassTable

end

/-! ## Closed sessions -/

/-- The hooks of the classes of a session are allowed, and the saved plans are closed if hooks may
run them. -/
structure Session.Closed (A : Allowance) (σ : Session) : Prop where
  classes : σ.classes.Allowed A
  saved : A.runs → ∀ name thing, σ.saved.lookup name = some thing →
    (RowMapper.plan thing.contents).Closed A

/-- A closed session, and the same one with other registries. -/
def Allowance.pairing (A : Allowance) (registries : List Registry) : Pairing where
  Pairs σ σ' := σ.Closed A ∧ σ' = σ.withRegistries registries
  Hooks h := h.Allowed A
  Failures f _ := A.allows f
  apart hσ := ⟨registries, hσ.2⟩
  classes hσ := ClassTable.allowed_iff.mp hσ.1.classes
  completed := by
    rintro σ _ c info ⟨hσ, rfl⟩ - hcompleted
    have hclasses := (ClassTable.allowed_iff.mp hσ.classes).completed hcompleted
    exact ⟨⟨ClassTable.allowed_iff.mpr hclasses, hσ.saved⟩, rfl⟩
  fault f _ := A.fault f
  invalid issues _ := A.invalid issues

/-- Closed sessions are good for mapping rows, by levels that map them by what hooks may run. -/
theorem Allowance.pairing_onRows {A : Allowance} {Maps : RowMapper → Prop}
    {registries : List Registry}
    (hsaved : A.runs → ∀ p, (RowMapper.plan p).Closed A → Maps (.plan p)) :
    (A.pairing registries).OnRows Maps where
  counted := by
    rintro σ _ count ⟨hσ, rfl⟩
    exact ⟨⟨hσ.classes, hσ.saved⟩, rfl⟩
  noted := by
    rintro σ _ tag ⟨hσ, rfl⟩
    exact ⟨⟨hσ.classes, hσ.saved⟩, rfl⟩
  row problem field cause _ := A.row problem field cause
  stated h _ := h
  piped h := allAllowed_iff.mp h
  saved hruns hσ hthing := hsaved hruns _ (hσ.1.saved hruns _ _ hthing)

/-! ## Levels -/

namespace Level

/-- The level above so many others on which plans are run inside of each other no deeper than `n`:
running one any deeper fails. What hooks and instances run counts as well. -/
def shallow : Nat → Nat → Level
  | 0, _ => none
  | d + 1, n =>
    { (shallow d n).above with
      mapRow := fun m =>
        match m, n with
        | .plan _, 0 | .inherited .., 0 => fun _ => throw exhausted
        | .plan p, n + 1 => execute (shallow d n) p
        | .inherited owner registry, n + 1 =>
          (RowMapper.inherited owner registry).run (shallow d n)
        | .hook owner h, n => (shallow d n).hook (some owner) h
        | .bare h, n => (shallow d n).hook Option.none h }

variable {A : Allowance} {Maps : RowMapper → Prop} {l l' : Level} {registries : List Registry}

/-- A plan is paired on levels that are paired for mappers nested one level less deep. -/
theorem execute_within (hsaved : A.runs → ∀ p, (RowMapper.plan p).Closed A → Maps (.plan p))
    (hl : Level.Paired (A.pairing registries) Maps l l') {n : Nat}
    (hMaps : ∀ m : RowMapper, m.Within A n → Maps m) {p : DecodePlan}
    (hp : (RowMapper.plan p).Within A (n + 1)) (row : Value) :
    RowDecoding.Paired (A.pairing registries) (execute l p row) (execute l' p row) := by
  refine execute_paired (Allowance.pairing_onRows hsaved) hl (fun s hs => ?_) row
  obtain ⟨hallowed, hnested⟩ := hp s hs
  exact ⟨fun _ => hallowed.hook, fun m hm => hMaps m (hnested m hm)⟩

/-- The same level twice, for all closed mappers. -/
theorem ofDepth_closed (d : Nat) :
    Level.Paired (A.pairing registries) (RowMapper.Closed A) (ofDepth d) (ofDepth d) := by
  have hsaved : A.runs → ∀ p, (RowMapper.plan p).Closed A → (RowMapper.plan p).Closed A :=
    fun _ _ hp => hp
  induction d with
  | zero => exact none_paired
  | succ d ih =>
    refine above_paired (Allowance.pairing_onRows hsaved) ih fun m row hm => ?_
    -- Closed mappers are nested in each other somehow deep; the level does not count that.
    obtain ⟨n, hm⟩ := hm
    cases m with
    | plan p =>
      cases n with
      | zero => exact hm.elim
      | succ n => exact execute_within hsaved ih (fun m hm => ⟨n, hm⟩) hm row
    | hook owner h => exact ih.hook (some owner) h row (RowMapper.within_hook.mp hm)
    | inherited owner registry => exact (RowMapper.not_within_inherited hm).elim
    | bare h => exact ih.hook Option.none h row (RowMapper.within_bare.mp hm)

/-- A level and the one on which plans are nested no deeper than `n`, for mappers that are nested no
deeper; no hook runs a plan. -/
theorem shallow_within (hruns : ¬A.runs) (d n : Nat) :
    Level.Paired (A.pairing registries) (RowMapper.Within A n) (ofDepth d) (shallow d n) := by
  induction d generalizing n with
  | zero => exact none_paired
  | succ d ih =>
    refine above_paired (Allowance.pairing_onRows fun h => absurd h hruns) (ih n) fun m row hm => ?_
    cases m with
    | plan p =>
      -- Entering a plan takes one from the depth on either side.
      cases n with
      | zero => exact hm.elim
      | succ n => exact execute_within (fun h => absurd h hruns) (ih n) (fun _ hm => hm) hm row
    | hook owner h => exact (ih n).hook (some owner) h row (RowMapper.within_hook.mp hm)
    | inherited owner registry => exact (RowMapper.not_within_inherited hm).elim
    | bare h => exact (ih n).hook Option.none h row (RowMapper.within_bare.mp hm)

end Level

/-! ## What a plan makes of a row -/

section

variable {A : Allowance} {p : DecodePlan} {σ : Session}

/-- A closed plan runs beside itself with any other registries. -/
theorem execute_closed (hp : (RowMapper.plan p).Closed A) (row : Value)
    (registries : List Registry) :
    Paired (A.pairing registries) (execute Level.top p row) (execute Level.top p row) := by
  obtain ⟨n, hp⟩ := hp
  cases n with
  | zero => exact hp.elim
  | succ n =>
    exact Level.execute_within (fun _ _ hp => hp) (Level.ofDepth_closed Level.depth)
      (fun m hm => ⟨n, hm⟩) hp row

/-- **Closed plans need no registry.** What a closed plan makes of a row, and what it changes, is
the same whatever the registries hold. -/
theorem execute_withRegistries (hp : (RowMapper.plan p).Closed A) (hσ : σ.Closed A) (row : Value)
    (registries : List Registry) :
    (execute Level.top p row).run (σ.withRegistries registries) =
      (((execute Level.top p row).run σ).1,
        ((execute Level.top p row).run σ).2.withRegistries registries) := by
  have hends := execute_closed hp row registries ⟨hσ, rfl⟩
  exact Prod.ext hends.result hends.pairs.2

/-- A closed plan fails in an allowed way only. -/
theorem execute_allowed (hp : (RowMapper.plan p).Closed A) (hσ : σ.Closed A) {row : Value}
    {f : Failure} {σ' : Session} (hrun : (execute Level.top p row).run σ = (.error f, σ')) :
    A.allows f := by
  have hends := execute_closed hp row σ.registries ⟨hσ, rfl⟩
  exact hends.failure f (congrArg Prod.fst hrun)

/-- **Plans are nested as deep as they are compiled.** A plan with mappers nested in each other no
deeper than `n + 1`, itself included, runs the same where no more than `n` plans may be run inside
of it. -/
theorem execute_shallow (hruns : ¬A.runs) {n : Nat} (hp : (RowMapper.plan p).Within A (n + 1))
    (hσ : σ.Closed A) (row : Value) :
    (execute (Level.shallow Level.depth n) p row).run σ = (execute Level.top p row).run σ := by
  have hpaired : Paired (A.pairing σ.registries) (execute Level.top p row)
      (execute (Level.shallow Level.depth n) p row) :=
    Level.execute_within (fun h => absurd h hruns) (Level.shallow_within hruns Level.depth n)
      (fun _ hm => hm) hp row
  -- With the registries of the session itself nothing is changed.
  have hsession : σ = σ.withRegistries σ.registries := rfl
  have hends := hpaired ⟨hσ, hsession⟩
  have hkept := execute_withRegistries ⟨n + 1, hp⟩ hσ row σ.registries
  rw [← hsession] at hkept
  rw [hkept]
  exact Prod.ext hends.result hends.pairs.2

end

end RowDecoding
