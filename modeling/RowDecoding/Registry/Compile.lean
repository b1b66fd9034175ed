import RowDecoding.Registry.Lookup

/-!
# Compiling plans

From a target to its plan. Every capability that a step needs is checked while the plan is compiled,
so that only bad data can fail a row. A flattened field needs the plan of its class first; a class
that is met again while its own plan is being compiled is flattened into itself.

What a failed compilation has found out stays in the registry: the decoders it resolved and the
plans of the classes it finished.
-/

namespace RowDecoding

/-- A computation that may fail and keeps what the registry has learnt either way. -/
abbrev Compile := ExceptT Failure (StateM Registry)

/-- Directives from outside the target, which prevail over its own. -/
structure Overrides where
  /-- The convention for every field without a name of its own. -/
  convention : Option Value
  fields : List (String × Attributes)
deriving Inhabited

namespace Overrides

/-- No directives. -/
def none : Overrides := ⟨Option.none, []⟩

/-- Sets the convention for every field without a name of its own. -/
def renameAll (o : Overrides) (convention : Value) : Overrides :=
  { o with convention := some convention }

/-- What a container says with the convention from outside in the place of its own. -/
def onContainer (o : Overrides) (own : Entries) : Entries :=
  match o.convention with
  | some v => own.put "rename_all" v
  | Option.none => own

/-- The directives with those of one field added. -/
def putField (name : String) (attributes : Attributes) :
    List (String × Attributes) → List (String × Attributes)
  | [] => [(name, Attributes.merge [] attributes)]
  | (n, old) :: rest =>
    if n == name then (n, old.merge attributes) :: rest
    else (n, old) :: putField name attributes rest

/-- Adds directives of one field. Two names are taken by the parameters of this operation. -/
def field (o : Overrides) (name : String) (attributes : Attributes) : Except Failure Overrides :=
  match attributes.find? fun (key, _) => key == "name" || key == "self" with
  | some (key, _) =>
    .error (Failure.wrongType
      ("PlanBuilder.field() got multiple values for argument '" ++ key ++ "'"))
  | Option.none => .ok { o with fields := putField name attributes o.fields }

end Overrides

/-- What compiling a target asks for. -/
structure Lookups (m : Type → Type) where
  /-- The decoder of a type. -/
  decoder : TypeExpr → m (Option Transform)
  /-- The converter from one type to another. -/
  converter : TypeExpr → TypeExpr → m (Option Transform)
  /-- The default of a type. -/
  default : TypeExpr → m (Option Supply)
  /-- The plan of a class that is flattened. -/
  plan : TypeExpr → m DecodePlan
  /-- The registry of a new plan, and its number there. -/
  mark : m (String × Nat)

/-- How a whole row is mapped to a type. -/
inductive Mapping where
  /-- Not at all. -/
  | none
  /-- By what the class itself has or inherits. -/
  | own (mapper : RowMapper)
  /-- By the plan of the class. -/
  | byPlan

/-- How a whole row is mapped to a type. A mapping of the user's own comes first, unless the class is
a derived one. -/
def mappingOf (table : ClassTable) (t : TypeExpr) : Mapping :=
  match t.declared? with
  | none => .none
  | some c =>
    let derived := (table.info c).plan.isSome
    let own : Option RowMapper :=
      if derived then none
      else
        match table.attribute? c "from_row" with
        | some (.rowMapping registry) => some (.inherited c registry)
        | some a => a.function?.map (.hook c)
        | none => none
    match own with
    | some m => .own m
    | none => if derived || (table.schemaOf? c).isSome then .byPlan else .none

namespace Compile

/-! ### Names, keys and requirements -/

/-- How messages name a field of a schema. -/
def ownerName (schema : Schema) (f : FieldSchema) : String :=
  match f.name with
  | some name =>
    if name.isEmpty then schema.name ++ "[" ++ Number.digits f.ordinal ++ "]"
    else schema.name ++ "." ++ name
  | none => schema.name ++ "[" ++ Number.digits f.ordinal ++ "]"

/-- What is said about a field, by the target and from outside. -/
def rawDirectives (overrides : Overrides) (f : FieldSchema) : Attributes :=
  f.attributes.merge ((overrides.fields.lookup (f.name.getD "")).getD [])

/-- What is read from the row for a field: the type to convert from, or its own. -/
def sourceOf (f : FieldSchema) (directives : FieldDirectives) : TypeExpr :=
  directives.tryFrom.getD f.fieldType

/-- The capabilities that a field needs. -/
def requirementsOf (f : FieldSchema) (directives : FieldDirectives) : List Requirement :=
  let source := sourceOf f directives
  let reading : List Requirement :=
    if directives.flatten then [⟨.nestedMapping, [source]⟩]
    else [⟨.decode, [source]⟩, ⟨.typeCompatible, [source]⟩]
  let converting : List Requirement :=
    if directives.tryFrom.isSome then [⟨.convertible, [source, f.fieldType]⟩] else []
  reading ++ converting

/-- The key of the column of a field. -/
def keyOf (schema : Schema) (container : ContainerDirectives) (f : FieldSchema)
    (directives : FieldDirectives) : Value :=
  match schema.addressing with
  | .byName => .text (columnName (f.name.getD "") directives container)
  | .byPosition => .int f.ordinal

/-- The strategy of a field that is read from a column. -/
def columnStrategy (schema : Schema) (container : ContainerDirectives) (f : FieldSchema)
    (directives : FieldDirectives) (decoder : Option Transform) : Strategy RowMapper :=
  let key := keyOf schema container f directives
  if directives.tryFrom.isSome then .thenConvert key decoder
  else
    match schema.addressing with
    | .byName => .byName key decoder
    | .byPosition => .byIndex key decoder

/-- The failure of a requirement that is not satisfied. It describes the types, which fails if one of
them cannot be written. -/
def missingCapability (owner : String) (requirement : Requirement) : Failure :=
  if requirement.types.any (·.isUnwritable) then Fault.tooLongToWrite
  else .schema (.capability .none (some requirement.capability)
    (.text (" -> ".intercalate (requirement.types.map (·.describe)))) (.text owner)) none

/-- The failure of a field that asks for a default that its type does not have. It describes the
type, which fails if the type cannot be written. -/
def missingDefault (owner : String) (t : TypeExpr) : Failure :=
  if t.isUnwritable then Fault.tooLongToWrite
  else .schema (.withoutDefault owner t.describe) none

/-- Refuses directives for fields that the schema does not have. -/
def checkOverrides (schema : Schema) (overrides : Overrides) : Except Failure Unit :=
  let unknown := (overrides.fields.map (·.1)).filter fun name =>
    !schema.fields.any (·.name == some name)
  if unknown.isEmpty then .ok ()
  else
    let sorted := unknown.mergeSort fun a b => decide (a ≤ b)
    .error (.schema (.attributes (.text schema.name)
      (.text ("unknown field(s) [" ++ commaSeparated (sorted.map Text.quote) ++ "]"))) none)

/-! ### Compiling by any lookups -/

section

variable {m : Type → Type} [Monad m] [MonadExceptOf Failure m]

/-- A lookup that may fail. -/
def lift {α : Type} (e : Except Failure α) : m α :=
  match e with
  | .ok a => pure a
  | .error f => throw f

/-- What maps a whole row to a type. -/
def mapperFor (q : Lookups m) (table : ClassTable) (t : TypeExpr) : m (Option RowMapper) :=
  match mappingOf table t with
  | .none => pure none
  | .own mapper => pure (some mapper)
  | .byPlan => do return some (.plan (← q.plan t))

/-- Whether a type has a capability, or a pair of types. -/
def satisfies (q : Lookups m) (table : ClassTable) (requirement : Requirement) : m Bool :=
  match requirement.capability, requirement.types with
  | .decode, t :: _ | .typeCompatible, t :: _ => return (← q.decoder t).isSome
  | .nestedMapping, t :: _ => return (← mapperFor q table t).isSome
  | .convertible, s :: t :: _ => return (← q.converter s t).isSome
  | _, _ => throw (Failure.raised .index "tuple index out of range")

/-- Fails unless a requirement is satisfied. -/
def require (q : Lookups m) (table : ClassTable) (owner : String) (requirement : Requirement) :
    m Unit := do
  if !(← satisfies q table requirement) then throw (missingCapability owner requirement)

/-- The default of a field that asks for one: the declared one, or else that of its type. -/
def defaultOf (q : Lookups m) (f : FieldSchema) (owner : String) : m Supply := do
  match f.declaredDefault with
  | some s => pure s
  | none =>
    match ← q.default f.fieldType with
    | some s => pure s
    | none => throw (missingDefault owner f.fieldType)

/-- What replaces an absent column of a field, if it asks for that. -/
def replacementOf (q : Lookups m) (f : FieldSchema) (directives : FieldDirectives)
    (owner : String) : m (Option Supply) :=
  if directives.default then do
    let s ← defaultOf q f owner
    pure (some s)
  else pure none

/-- The conversion to the type of a field, if another one is read for it. -/
def conversionOf (q : Lookups m) (f : FieldSchema) (directives : FieldDirectives) :
    m (Option Transform) :=
  if directives.tryFrom.isSome then q.converter (sourceOf f directives) f.fieldType else pure none

/-- How a field gets its value. -/
def strategyOf (q : Lookups m) (table : ClassTable) (schema : Schema)
    (container : ContainerDirectives) (f : FieldSchema) (directives : FieldDirectives) :
    m (Strategy RowMapper) :=
  if directives.flatten then do
    let mapper ← mapperFor q table (sourceOf f directives)
    pure (.flatten mapper)
  else do
    let decoder ← q.decoder (sourceOf f directives)
    pure (columnStrategy schema container f directives decoder)

/-- The step of a field. -/
def stepOf (q : Lookups m) (table : ClassTable) (schema : Schema)
    (container : ContainerDirectives) (f : FieldSchema) (directives : FieldDirectives)
    (owner : String) : m DecodeStep := do
  let default ← replacementOf q f directives owner
  let converter ← conversionOf q f directives
  let strategy ← strategyOf q table schema container f directives
  pure ⟨f.name, f.ordinal, f.fieldType, sourceOf f directives, default, converter, strategy⟩

/-- The step of a field with what it requires, every requirement being satisfied. -/
def compileField (q : Lookups m) (table : ClassTable) (schema : Schema)
    (container : ContainerDirectives) (overrides : Overrides) (f : FieldSchema) :
    m (DecodeStep × List Requirement) := do
  let owner := ownerName schema f
  let directives ← lift (resolveField (rawDirectives overrides f) owner)
  let requirements := requirementsOf f directives
  requirements.forM (require q table owner)
  let step ← stepOf q table schema container f directives owner
  pure (step, requirements)

/-- The plan of a schema from its steps with what they require. -/
def planOf (schema : Schema) (compiled : List (DecodeStep × List Requirement))
    (mark : String × Nat) : DecodePlan where
  target := schema.target
  addressing := schema.addressing
  steps := compiled.map (·.1)
  requirements := Requirement.distinct (compiled.flatMap (·.2))
  registry := mark.1
  serial := mark.2

/-- Compiles a target. -/
def buildWith (q : Lookups m) (table : ClassTable) (target : TypeExpr) (overrides : Overrides) :
    m DecodePlan := do
  let schema ← lift (introspect table target)
  let container ←
    lift (resolveContainer (overrides.onContainer schema.container) schema.name)
  lift (checkOverrides schema overrides)
  let compiled ← schema.fields.mapM (compileField q table schema container overrides)
  return planOf schema compiled (← q.mark)

end

/-! ### Compiling in a registry -/

/-- The decoder of a type. -/
def decoderFor (table : ClassTable) (t : TypeExpr) : Compile (Option Transform) := do
  let (result, r) := (← get).decoderFor table t
  set r
  lift result

/-- The converter from one type to another. -/
def converterFor (table : ClassTable) (source target : TypeExpr) : Compile (Option Transform) := do
  lift ((← get).converterFor table source target)

/-- The default of a type. -/
def defaultFor (table : ClassTable) (t : TypeExpr) : Compile (Option Supply) := do
  lift ((← get).defaultFor table t)

/-- The name of the registry and the number of one more plan. -/
def nextMark : Compile (String × Nat) := do
  let r ← get
  set { r with compiled := r.compiled + 1 }
  pure (r.name, r.compiled + 1)

/-- What a registry answers; `planFor` gives the plans of the classes that are flattened. -/
def lookups (table : ClassTable) (planFor : TypeExpr → Compile DecodePlan) : Lookups Compile where
  decoder := decoderFor table
  converter := converterFor table
  default := defaultFor table
  plan := planFor
  mark := nextMark

/-- Runs a computation while a target counts as being compiled, whether it fails or not. -/
def whileBuilding {α : Type} (key : Key) (m : Compile α) : Compile α := do
  modify fun r => { r with building := key :: r.building }
  let finish : Compile Unit := modify fun r => { r with building := r.building.filter (· != key) }
  try
    let a ← m
    finish
    pure a
  catch f =>
    finish
    throw f

/-- The failure of a target that is flattened into itself. -/
def recursiveFlatten (target : TypeExpr) : Failure :=
  .schema (.recursiveFlatten target.describe) none

/-- The failure of a computation that is nested too deeply. -/
def tooDeep : Failure :=
  Failure.raised .recursion "maximum recursion depth exceeded"

/-- The plan of a target, compiled at most once between two registrations. Each nested compilation
takes one unit of fuel. -/
def planWithin (table : ClassTable) : Nat → TypeExpr → Compile DecodePlan
  | 0, _ => throw tooDeep
  | fuel + 1, target => do
    let key ← lift (Registry.keyOf target)
    match (← get).plans.lookup key with
    | some plan => pure plan
    | none =>
      if (← get).building.contains key then throw (recursiveFlatten target)
      else
        let plan ← whileBuilding key
          (buildWith (lookups table (planWithin table fuel)) table target Overrides.none)
        modify fun r => { r with plans := (key, plan) :: r.plans }
        pure plan

/-- Enough fuel for every compilation: a nested one is for a class not yet being compiled. -/
def fuel (table : ClassTable) : Nat :=
  table.classes.length + 2

/-- The plan of a target, from the cache or compiled now. -/
def planFor (table : ClassTable) (target : TypeExpr) : Compile DecodePlan :=
  planWithin table (fuel table) target

/-- What a registry answers. -/
def answers (table : ClassTable) : Lookups Compile :=
  lookups table (planFor table)

/-- Compiles a target with directives from outside. -/
def build (table : ClassTable) (target : TypeExpr) (overrides : Overrides) : Compile DecodePlan :=
  buildWith (answers table) table target overrides

end Compile

end RowDecoding
