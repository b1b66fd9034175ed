import RowDecoding.Mapping.Derive
import RowDecoding.Proofs.Compilation

/-!
# Defaults and absent columns

A default stands in for a column that the row does not have. `runStep` tells absence by the failure
that it gets, wherever that comes from: the read of its own column, or a decoder or converter that
reads a row of its own. This file says what a step does in either case, for every level, row and
session, and for every step that a compiled plan can have.

* `runStep_direct` splits a step into the read of its column and what is done with the cell.
* `runStep_present_*` and `runStep_absent_*` follow the two ways on.
* `buildWith_default` ties the default of a compiled step to the directives of its field.

A cell that is there is decoded and converted, and its failures are raised, with one exception: a
decoder or converter that fails for want of a column in a row of its own gets the default of the
step instead. `defaultLaw_of_built` states that exception as part of the law.
-/

namespace RowDecoding

/-! ## Reading a column and using its cell -/

/-- What a step does with the cell of its column. -/
def useCell (l : Level) (s : DecodeStep) (key raw : Value) : Run Value := do
  let v ← decodeRaw l s key raw
  convertDecoded l s v

theorem attempt_direct {s : DecodeStep} {key : Value} (hkey : s.strategy.key? = some key)
    (l : Level) (row : Value) :
    attempt l s row = Cell.read l key row >>= useCell l s key := by
  unfold attempt
  cases hs : s.strategy with
  | flatten mapper => rw [hs] at hkey; cases hkey
  | unknown => rw [hs] at hkey; cases hkey
  | byName k d | byIndex k d | thenConvert k d => rw [hs] at hkey; cases hkey; rfl

/-- The failure of a step, or the default in its place. -/
theorem run_recover (l : Level) (s : DecodeStep) (f : Failure) (σ : Session) :
    (recover l s f).run σ =
      match f.isAbsence, s.default with
      | true, some supply => (l.supply supply).run σ
      | _, _ => (.error (f.named s.fieldName), σ) := by
  unfold recover
  rcases f.isAbsence with _ | _ <;> rcases s.default with _ | supply <;> rfl

/-- A failure that is not for want of a column is raised, and so is every failure where there is no
default. -/
theorem run_recover_error {s : DecodeStep} {f : Failure}
    (hf : f.isAbsence = false ∨ s.default = none) (l : Level) (σ : Session) :
    (recover l s f).run σ = (.error (f.named s.fieldName), σ) := by
  rw [run_recover]
  rcases hf with hf | hf
  · rw [hf]
  · rw [hf]
    cases f.isAbsence <;> rfl

/-- A step that reads one column: the cell is read and used, and a failure of either is recovered
from. -/
theorem runStep_direct {s : DecodeStep} {key : Value} (hkey : s.strategy.key? = some key)
    (l : Level) (row : Value) (σ : Session) :
    (runStep l s row).run σ =
      match (Cell.read l key row).run σ with
      | (.error f, σ₁) => (recover l s f).run σ₁
      | (.ok raw, σ₁) =>
        match (useCell l s key raw).run σ₁ with
        | (.ok v, σ₂) => (.ok v, σ₂)
        | (.error f, σ₂) => (recover l s f).run σ₂ := by
  unfold runStep
  rw [Running.run_tryCatch, attempt_direct hkey, Running.run_bind]
  rcases (Cell.read l key row).run σ with ⟨_ | raw, σ₁⟩
  · rfl
  · dsimp only
    rcases (useCell l s key raw).run σ₁ with ⟨_ | v, σ₂⟩ <;> rfl

section

variable {s : DecodeStep} {key row raw : Value} {l : Level} {σ σ₁ σ₂ : Session} {f : Failure}

/-- A step whose column is there gives the decoded and converted cell. -/
theorem runStep_present_ok (hkey : s.strategy.key? = some key)
    (hread : (Cell.read l key row).run σ = (.ok raw, σ₁)) {v : Value}
    (huse : (useCell l s key raw).run σ₁ = (.ok v, σ₂)) :
    (runStep l s row).run σ = (.ok v, σ₂) := by
  rw [runStep_direct hkey, hread]
  dsimp only
  rw [huse]

/-- A step whose column is there fails as decoding or converting the cell does, unless that lacks a
column itself. -/
theorem runStep_present_error (hkey : s.strategy.key? = some key)
    (hread : (Cell.read l key row).run σ = (.ok raw, σ₁))
    (huse : (useCell l s key raw).run σ₁ = (.error f, σ₂))
    (hf : f.isAbsence = false ∨ s.default = none) :
    (runStep l s row).run σ = (.error (f.named s.fieldName), σ₂) := by
  rw [runStep_direct hkey, hread]
  dsimp only
  rw [huse]
  exact run_recover_error hf l σ₂

/-- A cell that is there and whose decoder or converter lacks a column gives way to the default. -/
theorem runStep_present_defaulted (hkey : s.strategy.key? = some key)
    (hread : (Cell.read l key row).run σ = (.ok raw, σ₁))
    (huse : (useCell l s key raw).run σ₁ = (.error f, σ₂)) (hf : f.isAbsence = true)
    {supply : Supply} (hd : s.default = some supply) :
    (runStep l s row).run σ = (l.supply supply).run σ₂ := by
  rw [runStep_direct hkey, hread]
  dsimp only
  rw [huse]
  dsimp only
  rw [run_recover, hf, hd]

/-- A step whose column is absent gives its default. -/
theorem runStep_absent_defaulted (hkey : s.strategy.key? = some key)
    (hread : (Cell.read l key row).run σ = (.error f, σ₁)) (hf : f.isAbsence = true)
    {supply : Supply} (hd : s.default = some supply) :
    (runStep l s row).run σ = (l.supply supply).run σ₁ := by
  rw [runStep_direct hkey, hread]
  dsimp only
  rw [run_recover, hf, hd]

/-- A read that fails otherwise fails the step, and so does an absent column without a default. -/
theorem runStep_absent_error (hkey : s.strategy.key? = some key)
    (hread : (Cell.read l key row).run σ = (.error f, σ₁))
    (hf : f.isAbsence = false ∨ s.default = none) :
    (runStep l s row).run σ = (.error (f.named s.fieldName), σ₁) := by
  rw [runStep_direct hkey, hread]
  exact run_recover_error hf l σ₁

end

/-! ## The default of a compiled step -/

/-- Lookups of which nothing is known. -/
def Lookups.unknown : Lookups Outcomes where
  decoder _ _ := True
  converter _ _ _ := True
  default _ _ := True
  plan _ _ := True
  mark _ := True

/-- The ways of relating computations in a registry to their possible outcomes, nothing being said
about the registry. -/
abbrev Lifting.anyRegistry : Lifting Compile Outcomes :=
  Lifting.inRegistry (fun _ => True) (fun _ _ => True) (fun _ => trivial) fun _ _ => trivial

theorem Lookups.related_unknown (q : Lookups Compile) :
    q.Related Lifting.anyRegistry (fun _ => True) Lookups.unknown where
  decoder _ _ _ := ⟨trivial, trivial, trivial⟩
  converter _ _ _ _ := ⟨trivial, trivial, trivial⟩
  default _ _ _ := ⟨trivial, trivial, trivial⟩
  plan _ _ _ _ := ⟨trivial, trivial, trivial⟩
  mark _ _ := ⟨trivial, trivial, trivial⟩

/-- A plan that a registry compiles is a possible plan of its target. -/
theorem buildWith_possible {q : Lookups Compile} {table : ClassTable} {target : TypeExpr}
    {overrides : Overrides} {r r' : Registry} {p : DecodePlan}
    (built : (Compile.buildWith q table target overrides).run r = (.ok p, r')) :
    Compile.buildWith Lookups.unknown table target overrides (.ok p) := by
  obtain ⟨-, -, hp⟩ := Compile.buildWith_related (Lookups.related_unknown q)
    (fun _ _ => trivial) r trivial
  rwa [built] at hp

/-- The default that a field asks for is the declared one, if there is one; a field that does not
ask for a default has none, declared or not. -/
theorem replacementOf_ok {q : Lookups Outcomes} {f : FieldSchema} {directives : FieldDirectives}
    {owner : String} {d : Option Supply}
    (h : Compile.replacementOf q f directives owner (.ok d)) :
    d.isSome = directives.default ∧
      ∀ supply, directives.default = true → f.declaredDefault = some supply → d = some supply := by
  unfold Compile.replacementOf at h
  split at h
  next hasks =>
    rw [Outcomes.bind_ok] at h
    obtain ⟨supply, hsupply, h⟩ := h
    cases h
    refine ⟨hasks.symm, fun declared _ hdeclared => ?_⟩
    -- A declared default is taken before the registry is asked.
    unfold Compile.defaultOf at hsupply
    rw [hdeclared] at hsupply
    cases hsupply
    rfl
  next hasks =>
    cases h
    exact ⟨(Bool.eq_false_iff.mpr hasks).symm, fun _ hd => absurd hd hasks⟩

/-- **Defaults are opted into.** A step of a compiled plan has a default just if its field asks for
one; then it is the declared default, if the field has one. -/
theorem buildWith_default {q : Lookups Compile} {table : ClassTable} {target : TypeExpr}
    {overrides : Overrides} {r r' : Registry} {p : DecodePlan}
    (built : (Compile.buildWith q table target overrides).run r = (.ok p, r')) {s : DecodeStep}
    (hs : s ∈ p.steps) :
    ∃ schema f directives,
      introspect table target = .ok schema ∧ f ∈ schema.fields ∧ s.fieldName = f.name ∧
      resolveField (Compile.rawDirectives overrides f) (Compile.ownerName schema f) =
        .ok directives ∧
      s.default.isSome = directives.default ∧
      ∀ supply, directives.default = true → f.declaredDefault = some supply →
        s.default = some supply := by
  obtain ⟨schema, container, hschema, -, -, hall⟩ := Compile.buildWith_ok (buildWith_possible built)
  obtain ⟨f, hf, directives, hd, -, hstep⟩ := Forall₂.exists_left hall hs
  obtain ⟨hdefault, -, -, hmade⟩ := Compile.stepOf_ok.mp hstep
  refine ⟨schema, f, directives, hschema, hf, ?_, hd, replacementOf_ok hdefault⟩
  rw [hmade]

/-! ## The law of a direct step -/

/-- What a step does by whether its column is there, and which failures its default replaces: that
of a read, or of a use of the cell, which lacks a column. -/
structure DefaultLaw (l : Level) (s : DecodeStep) (key row : Value) (σ : Session) : Prop where
  /-- A cell that is there is decoded and converted. -/
  value : ∀ raw σ₁ v σ₂, (Cell.read l key row).run σ = (.ok raw, σ₁) →
    (useCell l s key raw).run σ₁ = (.ok v, σ₂) → (runStep l s row).run σ = (.ok v, σ₂)
  /-- The failure of decoding or converting is raised. -/
  failure : ∀ raw σ₁ f σ₂, (Cell.read l key row).run σ = (.ok raw, σ₁) →
    (useCell l s key raw).run σ₁ = (.error f, σ₂) → (f.isAbsence = false ∨ s.default = none) →
    (runStep l s row).run σ = (.error (f.named s.fieldName), σ₂)
  /-- It is replaced if it lacks a column itself. -/
  nested : ∀ raw σ₁ f σ₂ supply, (Cell.read l key row).run σ = (.ok raw, σ₁) →
    (useCell l s key raw).run σ₁ = (.error f, σ₂) → f.isAbsence = true →
    s.default = some supply → (runStep l s row).run σ = (l.supply supply).run σ₂
  /-- An absent column gives the default. -/
  absent : ∀ f σ₁ supply, (Cell.read l key row).run σ = (.error f, σ₁) → f.isAbsence = true →
    s.default = some supply → (runStep l s row).run σ = (l.supply supply).run σ₁
  /-- Any other failure of the read is raised, and without a default every one. -/
  required : ∀ f σ₁, (Cell.read l key row).run σ = (.error f, σ₁) →
    (f.isAbsence = false ∨ s.default = none) →
    (runStep l s row).run σ = (.error (f.named s.fieldName), σ₁)

theorem defaultLaw_of_direct {s : DecodeStep} {key : Value} (hkey : s.strategy.key? = some key)
    (l : Level) (row : Value) (σ : Session) : DefaultLaw l s key row σ where
  value _ _ _ _ hread huse := runStep_present_ok hkey hread huse
  failure _ _ _ _ hread huse hf := runStep_present_error hkey hread huse hf
  nested _ _ _ _ _ hread huse hf hd := runStep_present_defaulted hkey hread huse hf hd
  absent _ _ _ hread hf hd := runStep_absent_defaulted hkey hread hf hd
  required _ _ hread hf := runStep_absent_error hkey hread hf

/-- **Defaults stand in for absence.** Every step of a compiled plan that reads one column follows
the law of defaults, whatever its decoder and converter are, for every level, row and session; and
it has a default just if the directives of its field ask for one, a declared default or not. -/
theorem defaultLaw_of_built {q : Lookups Compile} {table : ClassTable} {target : TypeExpr}
    {overrides : Overrides} {r r' : Registry} {p : DecodePlan}
    (built : (Compile.buildWith q table target overrides).run r = (.ok p, r')) {s : DecodeStep}
    (hs : s ∈ p.steps) {key : Value} (hkey : s.strategy.key? = some key) :
    (∀ l row σ, DefaultLaw l s key row σ) ∧
    ∃ schema f directives,
      introspect table target = .ok schema ∧ f ∈ schema.fields ∧ s.fieldName = f.name ∧
      resolveField (Compile.rawDirectives overrides f) (Compile.ownerName schema f) =
        .ok directives ∧
      s.default.isSome = directives.default ∧
      ∀ supply, directives.default = true → f.declaredDefault = some supply →
        s.default = some supply :=
  ⟨fun l row σ => defaultLaw_of_direct hkey l row σ, buildWith_default built hs⟩

/-! ## A default in the place of a nested failure -/

/-- A field that a constructor takes and that has to be given. -/
def FieldDeclaration.given (name : String) (t : TypeExpr) : FieldDeclaration :=
  ⟨name, some t, none, [], true, .ordinary, none, none, none, none⟩

/-- A record class. -/
def Declaration.dataclass (name : String) (base : Option TypeExpr)
    (fields : List FieldDeclaration) : Declaration :=
  ⟨.dataclass, name, base, fields, none, [], [], .standard, [], "self"⟩

namespace NestedAbsence

/-- A class with a number. -/
def inner : ClassRef := ⟨"Inner", 1, .dataclass .none⟩

/-- A class whose only field holds a row for `inner`, or nothing. -/
def outer : ClassRef := ⟨"Outer", 2, .dataclass .none⟩

/-- The field of `outer`, which asks for its default. -/
def payload : FieldDeclaration :=
  { FieldDeclaration.given "payload"
      (.annotated (.declared inner) [.marker [("default", .bool true)]]) with
    default := some (.constant .none) }

/-- Declares both classes and has `inner` decoded by its own plan. -/
def prepare : Run Unit := do
  Derive.declare (.dataclass "Inner" none [.given "x" (.builtin .int)]) none
  Derive.declare (.dataclass "Outer" none [payload]) none
  Session.save "inner" (.plan (← Session.planFor Session.standardRegistry (.declared inner)))
  Session.register Session.standardRegistry
    (·.registerDecoder (.declared inner) (.hook none (.run "inner")))

def session : Session :=
  (prepare.run (Session.create [])).2

/-- Compiles `outer`. -/
def compile : Compile DecodePlan :=
  Compile.buildWith (Compile.answers session.classes) session.classes (.declared outer)
    Overrides.none

def registry : Registry :=
  (session.registryNamed? Session.standardRegistry).getD default

/-- The column of `outer` is there; what it holds lacks the column of `inner`. -/
def row : Value :=
  .row .mapping [.text "payload"] [.dict [(.text "y", .int 1)]]

/-- Whether a step gives a value where its column is there and the use of the cell fails. -/
def hidesFailure (l : Level) (row : Value) (σ : Session) (s : DecodeStep) : Bool :=
  match s.strategy.key? with
  | none => false
  | some key =>
    match (Cell.read l key row).run σ with
    | (.error _, _) => false
    | (.ok raw, σ₁) =>
      match (useCell l s key raw).run σ₁, (runStep l s row).run σ with
      | (.error _, _), (.ok _, _) => true
      | _, _ => false

theorem exists_of_hidesFailure {l : Level} {row : Value} {σ : Session} {s : DecodeStep}
    (h : hidesFailure l row σ s = true) :
    ∃ key raw σ₁ f σ₂ v σ₃,
      s.strategy.key? = some key ∧ (Cell.read l key row).run σ = (.ok raw, σ₁) ∧
      (useCell l s key raw).run σ₁ = (.error f, σ₂) ∧ (runStep l s row).run σ = (.ok v, σ₃) := by
  unfold hidesFailure at h
  split at h
  · cases h
  next key hkey =>
    split at h
    · cases h
    next raw σ₁ hread =>
      split at h
      next f σ₂ v σ₃ huse hrun => exact ⟨key, raw, σ₁, f, σ₂, v, σ₃, hkey, hread, huse, hrun⟩
      · cases h

theorem compile_ok : ∃ p r', compile.run registry = (.ok p, r') ∧
    ∃ s ∈ p.steps, hidesFailure Level.top row session s = true := by
  have hcheck : ((compile.run registry).1.toOption.any fun p =>
      p.steps.any (hidesFailure Level.top row session)) = true := by
    decide +kernel
  obtain ⟨p, r', hrun, hhides⟩ := Running.exists_of_test hcheck
  exact ⟨p, r', hrun, List.any_eq_true.mp hhides⟩

/-- The column is there, its decoder fails, and the step gives its default all the same. -/
theorem nested_failure_hidden :
    ∃ p r' s key raw σ₁ f σ₂ v σ₃,
      (Compile.buildWith (Compile.answers session.classes) session.classes (.declared outer)
        Overrides.none).run registry = (.ok p, r') ∧
      s ∈ p.steps ∧ s.strategy.key? = some key ∧
      (Cell.read Level.top key row).run session = (.ok raw, σ₁) ∧
      (useCell Level.top s key raw).run σ₁ = (.error f, σ₂) ∧
      (runStep Level.top s row).run session = (.ok v, σ₃) := by
  obtain ⟨p, r', hp, s, hs, hhides⟩ := compile_ok
  obtain ⟨key, raw, σ₁, f, σ₂, v, σ₃, h⟩ := exists_of_hidesFailure hhides
  exact ⟨p, r', s, key, raw, σ₁, f, σ₂, v, σ₃, hp, hs, h⟩

/-- The law at the plan of `outer`. -/
theorem defaultLaw_outer :
    ∃ p r' s key,
      compile.run registry = (.ok p, r') ∧ s ∈ p.steps ∧ s.strategy.key? = some key ∧
      ∀ l row σ, DefaultLaw l s key row σ := by
  obtain ⟨p, r', hp, s, hs, hhides⟩ := compile_ok
  obtain ⟨key, -, -, -, -, -, -, hkey, -⟩ := exists_of_hidesFailure hhides
  exact ⟨p, r', s, key, hp, hs, hkey, (defaultLaw_of_built hp hs hkey).1⟩

end NestedAbsence

end RowDecoding
