import RowDecoding.Instance.Builtin
import RowDecoding.Schema.Declaration
import RowDecoding.Schema.Reference

/-!
# Schemas

The fields of a target in order, with their types, directives and declared defaults. Records and
plain classes are addressed by name, tuple types by position. Names in annotations are looked up
when the schema is read, among the classes declared by then and, after them, the built-in ones.
-/

namespace RowDecoding

/-- One field of a schema. -/
structure FieldSchema where
  /-- The fields of a tuple type without names have none. -/
  name : Option String
  fieldType : TypeExpr
  ordinal : Nat
  attributes : Attributes
  declaredDefault : Option Supply
deriving Inhabited, Repr

/-- The fields of a target in order, and what is said about all of them. -/
structure Schema where
  target : TypeExpr
  addressing : Addressing
  fields : List FieldSchema
  container : Entries
deriving Inhabited, Repr

/-- The name of a schema is that of its target. -/
def Schema.name (s : Schema) : String :=
  s.target.describe

/-- The annotations of a schema with every name looked up; a later annotation for a name takes the
place of the earlier one. -/
def resolveAnnotations (table : ClassTable) (schema : String)
    (annotations : List (String × TypeExpr)) : Except Failure (List (String × TypeExpr)) :=
  match annotations.mapM fun (name, t) => (table.lookUp t.ofNone).map fun r => (name, r) with
  | .ok resolved => .ok resolved.reverse
  | .error f =>
    .error (if f.isType || f.isName then .schema (.unresolved schema f.message) (some f) else f)

/-! ### Fields -/

/-- The field schemas of declared fields, numbered in order. -/
def numbered (fields : List (String × TypeExpr × Attributes × Option Supply)) : List FieldSchema :=
  fields.zipIdx.map fun ((name, fieldType, attributes, default), i) =>
    ⟨some name, fieldType, i, attributes, default⟩

/-- The annotation of a field, without and with what is marked on it. -/
def typeAndMarks (annotations : List (String × TypeExpr)) (name : String) :
    TypeExpr × Attributes :=
  splitAnnotated ((annotations.lookup name).getD .any)

/-- The fields of a record class that is called `name`: those that its constructor takes. -/
def recordFields (table : ClassTable) (name : String) (info : ClassInfo) :
    Except Failure (List FieldSchema) := do
  let annotations ← resolveAnnotations table name info.annotations
  pure (numbered ((info.fields.filter (·.inConstructor)).map fun f =>
    let (fieldType, marked) := typeAndMarks annotations f.name
    (f.name, fieldType, f.metadata.merge marked, f.default)))

/-- The fields of a validating record class. -/
def modelFields (info : ClassInfo) : List FieldSchema :=
  numbered (info.fields.map fun f =>
    let (fieldType, marked) := splitAnnotated ((f.declaredType.getD .any).ofNone)
    (f.name, fieldType, marked, f.default))

/-- The fields of a tuple class that is called `name`. -/
def tupleClassFields (table : ClassTable) (name : String) (info : ClassInfo) :
    Except Failure (List FieldSchema) := do
  let annotations ← resolveAnnotations table name info.annotations
  pure (numbered (info.fields.map fun f =>
    let (fieldType, marked) := typeAndMarks annotations f.name
    (f.name, fieldType, marked, f.default)))

/-- Parameters that take all arguments that are left. -/
def ParameterKind.isSpread : ParameterKind → Bool
  | spread | keywordSpread => true
  | _ => false

/-- The fields of a class without fields of its own: the parameters of its constructor, apart from
the one that receives the instance, if it is called `self`, and those that take what is left. -/
def constructorFields (table : ClassTable) (name : String) (c : Constructor) :
    Except Failure (List FieldSchema) := do
  let receiver : List FieldDeclaration :=
    if c.receiver == "self" then []
    else [{ (default : FieldDeclaration) with name := c.receiver }]
  let parameters := (receiver ++ c.parameters).filter fun f => f.name != "self" && !f.kind.isSpread
  if parameters.isEmpty then pure []
  else
    let annotations ← resolveAnnotations table name (annotationsOf c.parameters)
    pure (numbered (parameters.map fun f =>
      let (fieldType, marked) := typeAndMarks annotations f.name
      (f.name, fieldType, marked, f.default)))

/-- The member of the enumeration of how identifiers are made that says nothing. -/
def unknownSafety : Value :=
  .member uuidSafety "unknown" .none

/-- The fields of a built-in class: the parameters of the constructor of identifiers, and none for
the others. -/
def builtinFields : Builtin → List FieldSchema
  | .uuid =>
    numbered ((["hex", "bytes", "bytes_le", "fields", "int", "version"].map fun name =>
      (name, .any, [], some (.constant .none))) ++
        [("is_safe", .any, [], some (.constant unknownSafety))])
  | _ => []

/-- The fields of a tuple type: its items. -/
def aliasFields (alias_ : TypeExpr) : Except Failure (List FieldSchema) :=
  match alias_ with
  | .tupleOfAny _ => .error (.schema (.variableLength alias_.describe) none)
  | .tupleOf _ items =>
    .ok (items.zipIdx.map fun (t, i) =>
      let (fieldType, marked) := splitAnnotated t
      ⟨none, fieldType, i, marked, none⟩)
  | _ => .ok []

/-- The fields of a class that rows are not mapped to by fields of its own. -/
def plainFields (table : ClassTable) (info : ClassInfo) : Except Failure (List FieldSchema) :=
  match info.replaced, info.constructor?, info.ref.form with
  | none, some c, _ => constructorFields table info.ref.name c
  | none, none, .extension b => .ok (builtinFields b)
  | _, _, _ => .ok []

/-- How a declared class is addressed, and its fields: its own, or else those of its nearest
ancestor that has some. -/
def declaredFields (table : ClassTable) (c : ClassRef) :
    Except Failure (Addressing × List FieldSchema) :=
  match table.schemaOf? c with
  | none => return (.byName, ← plainFields table (table.info c))
  | some info =>
    match info.ref.form with
    | .namedTuple => return (.byPosition, ← tupleClassFields table c.name info)
    | .model _ => return (.byName, modelFields info)
    | _ => return (.byName, ← recordFields table c.name info)

/-- What a class says about all its fields, as entries. What is empty says nothing. -/
def containerOf (table : ClassTable) (c : ClassRef) : Except Failure Entries :=
  match table.config? c with
  | none => .ok []
  | some v => if v.isTrue then (Instance.entriesOf v).map Value.mergeEntries else .ok []

/-- Refuses a schema without fields. -/
def nonEmpty (s : Schema) : Except Failure Schema :=
  if s.fields.isEmpty then .error (.schema (.withoutFields s.name) none) else .ok s

/-- The schema of a target. Enumerations, unions, and things that are no classes have none. The
target is described first, which fails if it cannot be written. -/
def introspect (table : ClassTable) (target : TypeExpr) : Except Failure Schema :=
  if target.isUnwritable then .error Fault.tooLongToWrite
  else if target.isTupleAlias then do
    let fields ← aliasFields target
    nonEmpty ⟨target, .byPosition, fields, []⟩
  else
    match target with
    | .builtin b => nonEmpty ⟨target, .byName, builtinFields b, []⟩
    | .declared c =>
      if c.form.isEnumeration then .error (.schema (.enumeration target.describe) none)
      else do
        let container ← containerOf table c
        let (addressing, fields) ← declaredFields table c
        nonEmpty ⟨target, addressing, fields, container⟩
    | _ =>
      .error (.schema (if target.hasOrigin then .unionOrGeneric target.describe
        else .notClass target.describe) none)

end RowDecoding
