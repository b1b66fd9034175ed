import RowDecoding.Schema.Reference

/-!
# Types with a structure

For which types values can be checked by their structure, and what stands in the way for the others:
a class whose structure is not known, a literal type without choices, a name that stands for nothing
yet. The first obstacle on the way through a type and the fields of its classes is the one that
counts. A class of checked records has its structure from its declaration on, unless names in its
fields stood for nothing then.
-/

namespace RowDecoding

/-- Why values of a type cannot be checked by their structure. -/
inductive Obstacle where
  /-- A thing whose structure is not known. -/
  | unknown (t : TypeExpr)
  /-- A text that stands for nothing yet. -/
  | undefined
  /-- A failure on the way. -/
  | failed (f : Fault)

/-- The built-in classes with a structure that no value here is an instance of. -/
def structuredBuiltins : List String :=
  ["complex", "type"]

/-- The failure of a literal type without choices. -/
def withoutChoices : Fault :=
  Fault.raised .assertion ("literal \"expected\" cannot be empty, obj=" ++
    (TypeExpr.literal []).shown)

/-! ### Messages -/

/-- Where more can be read about a failure of structure. -/
def furtherReading (topic : String) : String :=
  "\n\nFor further information visit " ++
    "/".intercalate ["https:", "", "errors.pydantic.dev", "2.12", "u", topic]

/-- The failure of a thing whose structure is not known. -/
def Fault.withoutStructure (t : TypeExpr) : Fault :=
  Fault.raised (.other "PydanticSchemaGenerationError")
    ("Unable to generate pydantic-core schema for " ++ t.shown ++
      ". Set \x60arbitrary_types_allowed=True\x60 in the model_config to ignore this error or " ++
      "implement \x60__get_pydantic_core_schema__\x60 on your type to fully support it." ++
      "\n\nIf you got this error by calling handler(<some type>) within " ++
      "\x60__get_pydantic_core_schema__\x60 then you likely need to call " ++
      "\x60handler.generate_schema(<some type>)\x60 since we do not call " ++
      "\x60__get_pydantic_core_schema__\x60 on \x60<some type>\x60 otherwise to avoid infinite " ++
      "recursion." ++ furtherReading "schema-for-unknown-type")

/-- The failure of a thing that cannot be used before something else is there and `remedy` is
called. -/
def Fault.incomplete (subject missing remedy : String) : Fault :=
  Fault.raised (.other "PydanticUserError")
    (subject ++ " is not fully defined; you should define " ++ missing ++ ", then call " ++
      remedy ++ "." ++ furtherReading "class-not-fully-defined")

/-- The failure of a class with a name in its fields that stands for nothing. -/
def Fault.incompleteClass (cls name : String) : Fault :=
  incomplete ("\x60" ++ cls ++ "\x60") ("\x60" ++ name ++ "\x60")
    ("\x60" ++ cls ++ ".model_rebuild()\x60")

/-- The failure of a type with a text in it that stands for nothing. -/
def Fault.incompleteType (t : TypeExpr) : Fault :=
  incomplete ("\x60TypeAdapter[" ++ t.shown ++ "]\x60")
    ("\x60" ++ t.shown ++ "\x60 and all referenced types")
    "\x60.rebuild()\x60 on the instance"

/-! ### Obstacles -/

mutual

/-- The first obstacle in a type, given those of classes. Where foreign things are allowed, they are
none. -/
def TypeExpr.obstacle? (foreign : Bool) (known : List (Nat × Obstacle)) :
    TypeExpr → Option Obstacle
  | .builtin _ => none
  | .literal choices => if choices.isEmpty then some (.failed withoutChoices) else none
  | .declared c =>
    if c.serial != 0 then known.lookup c.serial
    else if foreign || structuredBuiltins.contains c.name then none
    else some (.unknown (.declared c))
  | .union _ members => firstObstacle? foreign known members
  | .listOf t | .setOf t | .frozensetOf t | .tupleOfAny t => t.obstacle? foreign known
  | .dictOf k v => k.obstacle? foreign known <|> v.obstacle? foreign known
  | .tupleOf _ items => firstObstacle? foreign known items
  | .annotated base _ => base.obstacle? foreign known
  | .forward _ => some .undefined
  | .value v =>
    match v with
    | .none => none
    | .text _ => some .undefined
    | _ => if foreign then none else some (.unknown (.value v))

/-- The first obstacle in several types. -/
def firstObstacle? (foreign : Bool) (known : List (Nat × Obstacle)) :
    List TypeExpr → Option Obstacle
  | [] => none
  | t :: rest => t.obstacle? foreign known <|> firstObstacle? foreign known rest

end

/-- The type of a field as it is declared. -/
def FieldDeclaration.annotation (f : FieldDeclaration) : TypeExpr :=
  (f.declaredType.getD .any).ofNone

/-- The obstacle in the type of a field, with every name looked up. -/
def ClassTable.fieldObstacle? (table : ClassTable) (foreign : Bool)
    (known : List (Nat × Obstacle)) (f : FieldDeclaration) : Option Obstacle :=
  match table.lookUp f.annotation with
  | .ok t => t.obstacle? foreign known
  | .error e => some (if e.isName then .undefined else .failed e)

/-- Whether a text is still in the type of a field. -/
def FieldDeclaration.isOpen (f : FieldDeclaration) : Bool :=
  f.annotation.obstacle? true [] matches some .undefined

/-- The obstacle of a class, given those of others. -/
def ClassTable.classObstacle? (table : ClassTable) (foreign : Bool) (known : List (Nat × Obstacle))
    (c : ClassRef) : Option Obstacle :=
  match c.form, table.schemaOf? c with
  | .enumeration _, _ => none
  | _, none => if foreign then none else some (.unknown (.declared c))
  | _, some info =>
    match info.ref.form with
    | .model _ =>
      if info.fields.any (·.isOpen) then
        info.fields.findSome? (table.fieldObstacle? info.settings.allowsForeign known)
      else none
    | .namedTuple =>
      if info.fields.any fun f => table.fieldObstacle? true [] f matches some .undefined then
        some .undefined
      else info.fields.findSome? (table.fieldObstacle? foreign known)
    | _ => info.fields.findSome? (table.fieldObstacle? foreign known)

/-- The obstacles of all classes. Each round finds those that the round before leads to; there are
no more rounds than classes. -/
def ClassTable.obstacles (table : ClassTable) (foreign : Bool) : List (Nat × Obstacle) :=
  table.classes.foldl
    (fun known _ => table.classes.filterMap fun info =>
      (table.classObstacle? foreign known info.ref).map fun o => (info.ref.serial, o))
    []

/-- A type whose values can be checked by their structure, with every name looked up, or what stands
in the way. Names outside of classes are looked up apart from theirs. -/
def ClassTable.structureOf (table : ClassTable) (t : TypeExpr) : Except Obstacle TypeExpr :=
  match openScope.lookUp t with
  | .error f => .error (if f.isName then .undefined else .failed f)
  | .ok resolved =>
    match resolved.obstacle? false (table.obstacles false) with
    | some o => .error o
    | none => .ok resolved

/-- The failure of a check of values of a type where something stands in the way. -/
def Obstacle.failure (t : TypeExpr) : Obstacle → Fault
  | unknown u => Fault.withoutStructure u
  | undefined => Fault.incompleteType t
  | failed f => f

/-! ### Classes of checked records -/

/-- The fields with every name in their types looked up; a type with a name that stands for nothing
stays as it is. -/
def ClassTable.lookUpFields (table : ClassTable) (fields : List FieldDeclaration) :
    Except Fault (List FieldDeclaration) :=
  fields.mapM fun f =>
    match table.lookUp f.annotation with
    | .ok t => .ok { f with declaredType := some t }
    | .error e => if e.isName then .ok f else .error e

/-- Refuses fields whose structure is not known. -/
def ClassTable.checkStructure (table : ClassTable) (s : CheckSettings)
    (fields : List FieldDeclaration) : Except Fault Unit :=
  if fields.any (·.isOpen) then .ok ()
  else
    match fields.findSome? (table.fieldObstacle? s.allowsForeign (table.obstacles s.allowsForeign))
    with
    | some (.unknown t) => .error (Fault.withoutStructure t)
    | some (.failed f) => .error f
    | _ => .ok ()

/-- A class of checked records with every name in its fields looked up once more, or the first name
that stands for nothing. -/
def ClassTable.completed (table : ClassTable) (info : ClassInfo) : Except String ClassInfo :=
  match (info.fields.filter (·.isOpen)).findSome? fun f => table.scope.undefined? f.annotation with
  | some name => .error name
  | none =>
    .ok (match table.lookUpFields info.fields with
      | .ok fields => { info with fields }
      | .error _ => info)

end RowDecoding
