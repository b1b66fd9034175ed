import RowDecoding.Registry.Compile

/-!
# Sessions

Everything that calls can change: the classes declared so far, the registries, the plans and mappers
that were kept under a name, how often a counting hook was called, and what hooks have noted. What a
failed call has changed before it failed stays changed.
-/

namespace RowDecoding

/-- What is kept under a name. -/
inductive Saved where
  | plan (p : DecodePlan)
  /-- A mapper, by its plan. -/
  | mapper (p : DecodePlan)
deriving Inhabited

/-- The state of a session. -/
structure Session where
  classes : ClassTable
  registries : List Registry
  saved : List (String × Saved)
  count : Nat
  /-- What was noted, last one first. -/
  notes : List Value
deriving Inhabited

/-- A computation in a session that may fail. -/
abbrev Run := ExceptT Failure (StateM Session)

/-- A result that may be a failure. -/
def Run.lift {α ε : Type} [Cause ε] (e : Except ε α) : Run α :=
  match e with
  | .ok a => pure a
  | .error f => throw (Cause.failure f)

namespace Session

/-- The registry that is used where none is named. -/
def standardRegistry : String := "default"

/-- A session without classes, with registries of these names and settings besides the standard
one. -/
def create (registries : List (String × RegistryConfig)) : Session where
  classes := ClassTable.empty
  registries :=
    Registry.create standardRegistry RegistryConfig.standard ::
      registries.map fun (name, config) => Registry.create name config
  saved := []
  count := 0
  notes := []

/-- The registry with a name. -/
def registryNamed? (s : Session) (name : String) : Option Registry :=
  s.registries.find? (·.name == name)

/-- Puts a registry in the place of the one with its name. -/
def putRegistry (s : Session) (r : Registry) : Session :=
  { s with registries := s.registries.map fun old => if old.name == r.name then r else old }

/-- The registry with a name, which has to be there. -/
def getRegistry (name : String) : Run Registry := do
  match (← get).registryNamed? name with
  | some r => pure r
  | none => throw (Failure.raised .key name)

/-- A computation in the registry with a name; the registry keeps what it learnt. -/
def inRegistry {α : Type} (name : String) (m : Compile α) : Run α := do
  let r ← getRegistry name
  let (result, r) := m.run r
  modify (·.putRegistry r)
  Run.lift result

/-- A registration in the registry with a name. -/
def register (name : String) (change : Registry → Except Failure Registry) : Run Unit := do
  let r ← getRegistry name
  let r ← Run.lift (change r)
  modify (·.putRegistry r)

/-- The plan of a target in the registry with a name. -/
def planFor (name : String) (target : TypeExpr) : Run DecodePlan := do
  inRegistry name (Compile.planFor (← get).classes target)

/-- A target compiled anew, with directives from outside. -/
def build (name : String) (target : TypeExpr) (overrides : Overrides) : Run DecodePlan := do
  inRegistry name (Compile.build (← get).classes target overrides)

/-- Keeps a plan or a mapper under a name. -/
def save (name : String) (thing : Saved) : Run Unit :=
  modify fun s => { s with saved := (name, thing) :: s.saved }

/-- What is kept under a name. -/
def savedThing (name : String) : Run Saved := do
  match (← get).saved.lookup name with
  | some thing => pure thing
  | none => throw (.fault ⟨.other "NotSaved", [.text name]⟩)

/-- The plan kept under a name, by itself or in a mapper. -/
def savedPlan (name : String) : Run DecodePlan := do
  match ← savedThing name with
  | .plan p | .mapper p => pure p

/-- The plan of the mapper kept under a name, of which an operation is asked for; a plan by itself
has no operations. -/
def savedMapper (name operation : String) : Run DecodePlan := do
  match ← savedThing name with
  | .mapper p => pure p
  | .plan _ => throw (Failure.raised .missingAttribute
      ("'DecodePlan' object has no attribute '" ++ operation ++ "'"))

/-- Whether a plan is the one kept under a name. A mapper is no plan. -/
def isSaved (p : DecodePlan) (name : String) : Run Bool := do
  match ← savedThing name with
  | .plan q => pure (p.registry == q.registry && p.serial == q.serial)
  | .mapper _ => pure false

/-- The class that a name is bound to. -/
def classNamed (name : String) : Run ClassRef := do
  match (← get).classes.bound? name with
  | some c => pure c
  | none => throw (Failure.raised .key name)

/-- The class that a name refers to, built in or declared. -/
def typeNamed (name : String) : Run TypeExpr := do
  match (← get).classes.referred? name with
  | some t => pure t
  | none => throw (Failure.raised .key name)

end Session

end RowDecoding
