import RowDecoding.Proofs.Absence
import RowDecoding.Proofs.Confined
import RowDecoding.Proofs.Nesting

/-!
# What is left to a registry

A plan is meant to hold all that it needs: what is wrong with a target shows when it is compiled,
and registrations that come later change nothing. Both are true of the plans that are closed, and of
no others: a mapping that a class inherits from a derived one asks a registry for the plan of the
class each time a row is mapped. The registry is the one that the base was derived with, whatever
the registry of the plan is, and the plan of the class may never have been compiled before.

* `outcome_withRegistries`: which plans are closed, and that for those no registry matters.
* `no_late_failure`: closed plans fail with no schema failure and run no more plans inside of each
  other than there are targets.
* `outcome_follows_registration`, `late_failure`: one class that inherits its mapping is enough for
  either to fail.
-/

namespace RowDecoding

section

variable {table : ClassTable} {name : String} {config : RegistryConfig} {calls : List Call}
  {overrides : Overrides} {size : Nat} {p : DecodePlan}

/-- **Outcomes follow no registration.** A plan that a registry hands out after any calls is closed
just if nothing that it nests inherits its mapping. Then what it makes of any row, and what it
changes, is the same with any registries in the place of those of the session. -/
theorem outcome_withRegistries
    (handed : HandsOut table (Call.runAll table calls (Registry.create name config)) overrides size
      p) :
    ((RowMapper.plan p).Closed .anything ↔
      ∀ v, Nests table overrides p.target v → ¬Inherits table v) ∧
    ((∀ v, Nests table overrides p.target v → ¬Inherits table v) →
      ∀ σ : Session, σ.Closed .anything → ∀ row registries,
        (execute Level.top p row).run (σ.withRegistries registries) =
          (((execute Level.top p row).run σ).1,
            ((execute Level.top p row).run σ).2.withRegistries registries)) := by
  have hcached := Call.runAll_cached calls (create_cached table name config)
  -- Whichever hooks there are: with everything allowed, closed only means that nothing is left
  -- to a registry.
  have hclosed : (RowMapper.plan p).Closed .anything ↔
      ∀ v, Nests table overrides p.target v → ¬Inherits table v :=
    handed.closed_iff hcached (Registry.allowed_anything _) table.allowed_anything
  refine ⟨hclosed, fun hinherits σ hσ row registries => ?_⟩
  exact execute_withRegistries (hclosed.mpr hinherits) hσ row registries

/-- **What is wrong with a target shows when it is compiled.** Take a plan that nests nothing with
an inherited mapping, and hooks that state no schema failures. Then no row makes the plan fail with
one; and if no hook runs a plan, then no more plans run inside of each other than there are targets,
the plan itself included. -/
theorem no_late_failure {runs : Prop}
    (handed : HandsOut table (Call.runAll table calls (Registry.create name config)) overrides size
      p)
    (hregistered : (Call.registerAll calls (Registry.create name config)).Allowed (.noSchema runs))
    (hclasses : table.Allowed (.noSchema runs))
    (hinherits : ∀ v, Nests table overrides p.target v → ¬Inherits table v) {σ : Session}
    (hσ : σ.Closed (.noSchema runs)) (row : Value) :
    (∀ f σ', (execute Level.top p row).run σ = (.error f, σ') → f.isSchema = false) ∧
    (¬runs → (execute (Level.shallow Level.depth (size - 1)) p row).run σ =
      (execute Level.top p row).run σ) := by
  have hcached := Call.runAll_cached calls (create_cached table name config)
  have hwithin := handed.within hcached hregistered hclasses hinherits
  refine ⟨fun f σ' hrun => execute_allowed ⟨size, hwithin⟩ hσ hrun, fun hruns => ?_⟩
  -- The plan itself is one of those that the size counts.
  cases size with
  | zero => exact hwithin.elim
  | succ n => exact execute_shallow hruns hwithin hσ row

end

/-! ## Classes that inherit their mapping -/

namespace InheritedMapping

/-- A class without a constructor, which no registry decodes. -/
def opaqueClass : ClassRef := ⟨"Opaque", 1, .blank⟩

/-- A class that is derived with another registry than the standard one. -/
def base : ClassRef := ⟨"Base", 2, .dataclass .none⟩

/-- A class that inherits from `base`. -/
def child : ClassRef := ⟨"Child", 3, .dataclass .none⟩

/-- A class whose only field is a `child`, built from the whole row. -/
def outer : ClassRef := ⟨"Outer", 4, .dataclass .none⟩

/-- Declares the classes; `request` says how `child` is derived, `y` is the type of its field. -/
def prepare (request : Option Derive.Request) (y : TypeExpr) : Run Unit := do
  Derive.declare ⟨.blank, "Opaque", none, [], none, [], [], .standard, [], "self"⟩ none
  Derive.declare (.dataclass "Base" none [.given "x" (.builtin .int)]) (some ⟨none, "other"⟩)
  Derive.declare (.dataclass "Child" (some (.declared base)) [.given "y" y]) request
  Derive.declare (.dataclass "Outer" none
    [.given "child" (.annotated (.declared child) [.marker [("flatten", .bool true)]])]) none

def session (request : Option Derive.Request) (y : TypeExpr) : Session :=
  ((prepare request y).run (Session.create [("other", RegistryConfig.standard)])).2

/-- The classes where `child` inherits its mapping, and the field of it is a number. -/
def inheriting : Session := session none (.builtin .int)

/-- The same session after a decoder of numbers was registered where `base` was derived. -/
def registered : Session :=
  ((Session.register "other" (·.registerDecoder (.builtin .int)
    (.hook none (.multiply (.int 10))))).run inheriting).2

/-- The classes where `child` inherits its mapping, and its field cannot be decoded. -/
def undecodable : Session := session none (.declared opaqueClass)

/-- The classes where `child` is derived itself. -/
def derived : Session := session (some ⟨none, "other"⟩) (.builtin .int)

/-- A new registry, in which nothing was called. -/
def registry (σ : Session) : Registry :=
  Call.runAll σ.classes [] (Registry.create Session.standardRegistry .standard)

def row : Value :=
  .row .mapping [.text "x", .text "y"] [.int 1, .int 2]

/-- Whether an outcome is an `outer` with these numbers in its `child`. -/
def holds (x y : Int) : Except Failure Value → Bool
  | .ok v => v.equal (.record outer [("child", .record child [("x", .int x), ("y", .int y)])])
  | .error _ => false

/-- Whether an outcome is a schema failure. -/
def failsLate : Except Failure Value → Bool
  | .ok _ => false
  | .error f => f.isSchema

/-- The plan of `outer` passes a check, if there is one. -/
theorem exists_handsOut {σ : Session} (check : DecodePlan → Bool)
    (h : ((Compile.planFor σ.classes (.declared outer)).run (registry σ)).1.toOption.any check =
      true) :
    ∃ p, HandsOut σ.classes (registry σ) Overrides.none σ.classes.classes.length p ∧
      check p = true := by
  obtain ⟨p, r', hrun, hcheck⟩ := Running.exists_of_test h
  exact ⟨p, .ofClass hrun, hcheck⟩

/-- No class has a hook, and the outcome of a plan changes with a registration in a registry that is
not even the one that the plan is from. -/
theorem outcome_follows_registration :
    inheriting.classes.classes.all (·.isPlain) = true ∧
    ∃ p, HandsOut inheriting.classes (registry inheriting) Overrides.none
        inheriting.classes.classes.length p ∧
      ((execute Level.top p row).run inheriting).1 ≠
        ((execute Level.top p row).run registered).1 := by
  refine ⟨by decide +kernel, ?_⟩
  obtain ⟨p, hp, hcheck⟩ := exists_handsOut (σ := inheriting)
    (fun p => holds 1 2 ((execute Level.top p row).run inheriting).1 &&
      !holds 1 2 ((execute Level.top p row).run registered).1) (by decide +kernel)
  refine ⟨p, hp, fun hsame => ?_⟩
  rw [hsame, Bool.and_not_self] at hcheck
  cases hcheck

/-- No class has a hook, a plan compiles, and a row makes it fail with a schema failure. -/
theorem late_failure :
    undecodable.classes.classes.all (·.isPlain) = true ∧
    ∃ p, HandsOut undecodable.classes (registry undecodable) Overrides.none
        undecodable.classes.classes.length p ∧
      ∃ f σ', (execute Level.top p row).run undecodable = (.error f, σ') ∧ f.isSchema = true := by
  refine ⟨by decide +kernel, ?_⟩
  obtain ⟨p, hp, hcheck⟩ := exists_handsOut (σ := undecodable)
    (fun p => failsLate ((execute Level.top p row).run undecodable).1) (by decide +kernel)
  refine ⟨p, hp, ?_⟩
  rcases hrun : (execute Level.top p row).run undecodable with ⟨f | v, σ'⟩
  · rw [hrun] at hcheck
    exact ⟨f, σ', rfl, hcheck⟩
  · rw [hrun] at hcheck
    cases hcheck

/-! Where `child` is derived itself, none of this happens. -/

theorem derived_plain : ∀ info ∈ derived.classes.classes, info.isPlain = true :=
  List.all_eq_true.mp (by decide +kernel)

/-- Every class with a mapping is a derived one. -/
theorem derived_or_unmapped : ∀ info ∈ derived.classes.classes,
    info.plan.isSome = true ∨ derived.classes.attribute? info.ref "from_row" = none := by
  have hcheck : (derived.classes.classes.all fun info =>
      info.plan.isSome || (derived.classes.attribute? info.ref "from_row").isNone) = true := by
    decide +kernel
  intro info hinfo
  have hinfo := List.all_eq_true.mp hcheck info hinfo
  rw [Bool.or_eq_true, Option.isNone_iff_eq_none] at hinfo
  exact hinfo

/-- Nothing inherits its mapping. -/
theorem derived_inherits_nothing (t : TypeExpr) : ¬Inherits derived.classes t :=
  not_inherits_of_derived derived_or_unmapped t

theorem derived_closed (A : Allowance) : derived.Closed A := by
  refine ⟨fun info hinfo => ClassInfo.allowed_of_isPlain (derived_plain info hinfo), ?_⟩
  have hsaved : derived.saved = [] := List.isEmpty_iff.mp (by decide +kernel)
  intro _ name thing hthing
  rw [hsaved] at hthing
  cases hthing

/-- Outcomes where `child` is derived itself. -/
theorem outcome_derived :
    ∃ p, HandsOut derived.classes (registry derived) Overrides.none derived.classes.classes.length
        p ∧
      ∀ registries, (execute Level.top p row).run (derived.withRegistries registries) =
        (((execute Level.top p row).run derived).1,
          ((execute Level.top p row).run derived).2.withRegistries registries) := by
  obtain ⟨p, hp, -⟩ := exists_handsOut (σ := derived) (fun _ => true) (by decide +kernel)
  exact ⟨p, hp, (outcome_withRegistries hp).2 (fun v _ => derived_inherits_nothing v) derived
    (derived_closed _) row⟩

/-- Failures and nested plans where `child` is derived itself. -/
theorem no_late_failure_derived :
    ∃ p, HandsOut derived.classes (registry derived) Overrides.none derived.classes.classes.length
        p ∧
      (∀ f σ', (execute Level.top p row).run derived = (.error f, σ') → f.isSchema = false) ∧
      (execute (Level.shallow Level.depth (derived.classes.classes.length - 1)) p row).run derived =
        (execute Level.top p row).run derived := by
  obtain ⟨p, hp, -⟩ := exists_handsOut (σ := derived) (fun _ => true) (by decide +kernel)
  obtain ⟨hfailure, hnested⟩ := no_late_failure hp (Registry.create_allowed _ _)
    (derived_closed _).classes (fun v _ => derived_inherits_nothing v)
    (derived_closed (.noSchema False)) row
  exact ⟨p, hp, hfailure, hnested id⟩

end InheritedMapping

end RowDecoding
