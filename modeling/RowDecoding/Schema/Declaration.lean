import RowDecoding.Naming.Words
import RowDecoding.Schema.Enumeration
import RowDecoding.Schema.Structure
import RowDecoding.Text.Name

/-!
# Declaring classes

From what is written down about a class to what is known of it. Fields of the base come first; a
field that is declared again keeps its place. Records refuse a field without a default after one
with a default, and defaults that every instance would share and could change.
-/

namespace RowDecoding

/-- What a declaration makes. -/
inductive DeclarationKind where
  | dataclass
  | model
  | namedTuple
  | plain
  | enumeration (mixin : Mixin)
  | blank
  /-- A class that differs from its base in name only. -/
  | subclass
deriving DecidableEq, Repr, Inhabited

/-- What else is asked for when a class of records is declared. -/
structure RecordOptions where
  /-- Whether it gets a constructor. -/
  init : Bool
  /-- Whether instances with equal fields are equal. -/
  eq : Bool
  order : Bool
  /-- Whether instances are keys even if they can change. -/
  unsafeHash : Bool
  frozen : Bool
  slots : Bool
  /-- Whether instances have a slot for weak references. -/
  weakSlot : Bool
  /-- Something that nobody can ask for. -/
  unknown : Option String
deriving DecidableEq, Repr

namespace RecordOptions

/-- What is asked for if nothing is said. -/
def standard : RecordOptions :=
  ⟨true, true, false, false, false, false, false, none⟩

instance : Inhabited RecordOptions := ⟨standard⟩

/-- What instances are as keys; `inherited` is what those of the base are. -/
def keys (o : RecordOptions) (inherited : KeyUse) : KeyUse :=
  if o.unsafeHash then .byFields
  else if !o.eq then inherited
  else if o.frozen then .byFields
  else .none

end RecordOptions

/-- A declaration as it is written. -/
structure Declaration where
  kind : DeclarationKind
  name : String
  base : Option TypeExpr
  fields : List FieldDeclaration
  config : Option Value
  attributes : List (String × ClassAttribute)
  members : List (String × Value)
  options : RecordOptions
  settings : List Setting
  receiver : String
deriving Inhabited

/-- The fields of a base with those of a class: a field declared again takes the place of the one
before it. -/
def overrideFields (inherited own : List FieldDeclaration) : List FieldDeclaration :=
  own.foldl
    (fun fields f =>
      if fields.any (·.name == f.name) then
        fields.map fun old => if old.name == f.name then f else old
      else fields ++ [f])
    inherited

/-- The annotations of fields by name. -/
def annotationsOf (fields : List FieldDeclaration) : List (String × TypeExpr) :=
  fields.filterMap fun f => f.declaredType.map fun t => (f.name, t)

/-- Whether a field has to be given before those that may be left out. -/
def FieldDeclaration.isOrdinary (f : FieldDeclaration) : Bool :=
  f.inConstructor && f.kind == .ordinary

/-- Whether a field is kept to the instances of a validating class: nothing is given for it. -/
def FieldDeclaration.isPrivate (f : FieldDeclaration) : Bool :=
  f.name.startsWith "_"

/-- The first field without a default after one that has one, and the names of those before it that
have one. -/
def misplacedField? (fields : List FieldDeclaration) : Option (String × List String) :=
  go [] (fields.filter (·.isOrdinary))
where
  /-- The search, with the names seen so far, last one first. -/
  go : List String → List FieldDeclaration → Option (String × List String)
    | _, [] => none
    | seen, f :: rest =>
      match f.default with
      | some _ => go (f.name :: seen) rest
      | none => if seen.isEmpty then go seen rest else some (f.name, seen.reverse)

/-- The default that every instance would share and could change. -/
def sharedDefault? (fields : List FieldDeclaration) : Option (String × Value) :=
  fields.findSome? fun f =>
    match f.default with
    | some (.constant v) =>
      match v with
      | .list _ | .dict _ | .set _ | .binary .bytearray _ => some (f.name, v)
      | .record ⟨_, _, .dataclass .none⟩ _ | .record ⟨_, _, .model .none⟩ _ => some (f.name, v)
      | _ => none
    | _ => none

/-- The name of the class of a value as it is shown. -/
def shownClassOf : Value → String
  | .record c _ => c.qualifiedName
  | v => v.typeName

/-! ### Record classes -/

/-- Refuses defaults that every instance would share. -/
def refuseShared (fields : List FieldDeclaration) : Except Fault Unit :=
  match sharedDefault? fields with
  | some (name, v) =>
    .error (Fault.wrongValue ("mutable default <class '" ++ shownClassOf v ++ "'> for field " ++
      name ++ " is not allowed: use default_factory"))
  | none => .ok ()

/-- Refuses a class that could change what its base keeps as it is, and the other way round. -/
def checkFrozen (frozen : Bool) (bases : List ClassInfo) : Except Fault Unit :=
  if bases.isEmpty then .ok ()
  else
    match bases.any (·.frozen), frozen with
    | true, false => .error (Fault.wrongType
        "cannot inherit non-frozen dataclass from a frozen one")
    | false, true => .error (Fault.wrongType
        "cannot inherit frozen dataclass from a non-frozen one")
    | _, _ => .ok ()

/-- Refuses a field that has to be given after one that may be left out. -/
def refuseMisplaced (fields : List FieldDeclaration) : Except Fault Unit :=
  match misplacedField? fields with
  | some (name, _) =>
    .error (Fault.wrongType ("non-default argument " ++ Text.quote name ++
      " follows default argument"))
  | none => .ok ()

/-- Refuses names of fields that a constructor cannot be written with: a first line gives their
types, under names made of theirs, and a second one has them as parameters. -/
def refuseUnwritable (fields : List FieldDeclaration) : Except Fault Unit :=
  let refuse (line : String) : Except Fault Unit :=
    .error (Fault.raised (.other "SyntaxError")
      ("invalid syntax (<string>, line " ++ line ++ ")"))
  if fields.any fun f => !f.name.toList.all Text.continuesName then refuse "1"
  else if fields.any fun f => f.inConstructor &&
      (!Text.isName f.name.toList || Naming.keywords.contains f.name) then refuse "2"
  else .ok ()

/-- Refuses an option that nobody can ask for. -/
def checkOptions (o : RecordOptions) : Except Fault Unit :=
  match o.unknown with
  | some name => .error (Fault.wrongType
      ("dataclass() got an unexpected keyword argument '" ++ name ++ "'"))
  | none => .ok ()

/-- Checks a class of records: its own fields, those of the classes of records among its ancestors,
and all fields of an instance. -/
def checkRecord (o : RecordOptions) (own all : List FieldDeclaration) (bases : List ClassInfo) :
    Except Fault Unit := do
  checkOptions o
  refuseShared own
  checkFrozen o.frozen bases
  if o.order && !o.eq then throw (Fault.wrongValue "eq must be true if order is true")
  if o.init then
    refuseMisplaced all
    refuseUnwritable all
  if o.weakSlot && !o.slots then
    throw (Fault.wrongType "weakref_slot is True but slots is False")

/-! ### Tuple classes -/

/-- Whether the fields of a tuple class have types. -/
def hasTypes (fields : List FieldDeclaration) : Bool :=
  fields.any (·.declaredType.isSome)

/-- Refuses a typed field without a default after one that has one. -/
def checkTupleDefaults (fields : List FieldDeclaration) : Except Fault Unit :=
  match misplacedField? fields with
  | some (name, seen) =>
    .error (Fault.wrongType ("Non-default namedtuple field " ++ name ++
      " cannot follow default field" ++ (if seen.length == 1 then " " else "s ") ++
      commaSeparated seen))
  | none => .ok ()

/-- Refuses a text that is no name or has a meaning of its own. -/
def checkName (name : String) : Except Fault Unit :=
  if !Text.isName name.toList then
    .error (Fault.wrongValue ("Type names and field names must be valid identifiers: " ++
      Text.quote name))
  else if Naming.keywords.contains name then
    .error (Fault.wrongValue ("Type names and field names cannot be a keyword: " ++
      Text.quote name))
  else .ok ()

/-- Refuses names of fields that begin with an underscore or come twice. -/
def checkFieldNames : List String → List String → Except Fault Unit
  | _, [] => .ok ()
  | seen, name :: rest =>
    if name.startsWith "_" then
      .error (Fault.wrongValue ("Field names cannot start with an underscore: " ++
        Text.quote name))
    else if seen.contains name then
      .error (Fault.wrongValue ("Encountered duplicate field name: " ++ Text.quote name))
    else checkFieldNames (name :: seen) rest

/-- The fields with the defaults that some of them have handed to the last ones, in order. -/
def defaultsLast (fields : List FieldDeclaration) : List FieldDeclaration :=
  let defaults := fields.filterMap (·.default)
  let bare := fields.length - defaults.length
  fields.zipIdx.map fun (f, i) =>
    { f with default := if i < bare then none else defaults[i - bare]? }

/-- The fields of a tuple class. A typed field that is declared again takes the place of the one
before it; without types, defaults belong to the last fields. -/
def tupleFields (name : String) (fields : List FieldDeclaration) :
    Except Fault (List FieldDeclaration) := do
  let fields := if hasTypes fields then overrideFields [] fields else fields
  if hasTypes fields then checkTupleDefaults fields
  (name :: fields.map (·.name)).forM checkName
  checkFieldNames [] (fields.map (·.name))
  pure (if hasTypes fields then fields else defaultsLast fields)

/-! ### Classes of all kinds -/

/-- Refuses a base that no class can be derived from. -/
def checkBase (table : ClassTable) (d : Declaration) : Except Fault Unit :=
  match d.base with
  | some (.builtin .bool) =>
    .error (Fault.wrongType "type 'bool' is not an acceptable base type")
  | some (.builtin .noneType) =>
    .error (Fault.wrongType "type 'NoneType' is not an acceptable base type")
  | some (.declared c) =>
    if c.form.isEnumeration && !(table.info c).members.isEmpty then
      .error (Fault.wrongType ("<enum " ++ Text.quote d.name ++ "> cannot extend " ++
        (TypeExpr.declared c).shown))
    else .ok ()
  | _ => .ok ()

/-- How a class of its own name is made that is like its base otherwise. -/
def formOfBase : Option TypeExpr → ClassForm
  | some (.declared c) => c.form
  | some (.builtin .int) => .wholeNumber
  | some (.builtin .object) | none => .blank
  | some (.builtin b) => .extension b
  | some _ => .blank

/-- What the instances of the base of a class are as keys. -/
def inheritedKeys (bases : List ClassInfo) : KeyUse :=
  let form? : Option ClassForm := bases.head?.map (·.ref.form)
  match form? with
  | some (.dataclass keys) | some (.model keys) => keys
  | _ => .byIdentity

/-- How a class declared so is made. -/
def Declaration.form (d : Declaration) (bases : List ClassInfo) : ClassForm :=
  match d.kind with
  | .dataclass => .dataclass (d.options.keys (inheritedKeys bases))
  | .model => .model (if d.options.frozen || bases.any (·.frozen) then .byFields else .none)
  | .namedTuple => .namedTuple
  | .plain => .plain
  | .enumeration m => .enumeration m
  | .blank => .blank
  | .subclass => formOfBase d.base

/-- The hook that ends the constructor of a class, if it has one. -/
def Declaration.ending (d : Declaration) : Option Hook :=
  match d.attributes.lookup "init" with
  | some (.hook h) => some h
  | _ => none

/-- The name of the parameter that receives the instance where a constructor is made for fields: it
gives way to a field that is called `self`. -/
def receiverFor (fields : List FieldDeclaration) : String :=
  if fields.any (·.name == "self") then "__dataclass_self__" else "self"

/-- The constructor that a class gets; `inherited` is that of its base. -/
def Declaration.constructor (d : Declaration) (fields : List FieldDeclaration)
    (inherited : Option Constructor) : Option Constructor :=
  match d.kind with
  | .dataclass =>
    if d.options.init then some ⟨d.name, .fields, receiverFor fields, fields⟩ else inherited
  | .model => none
  | .namedTuple => some ⟨d.name, .positions, "_cls", fields⟩
  | .plain => some ⟨d.name, .written d.ending, d.receiver, d.fields⟩
  | _ => inherited

/-- What stands in the place of the constructor of a class and cannot be called; `inherited` is what
stands there for its base. -/
def Declaration.replaced (d : Declaration) (inherited : Option Value) : Option Value :=
  match d.attributes.lookup "__init__" with
  | some (.value v) => some v
  | _ =>
    match d.kind with
    | .plain => none
    | .dataclass => if d.options.init then none else inherited
    | _ => inherited

/-- What the declared fields of a class become, those of `before` coming first. -/
def Declaration.allFields (d : Declaration) (before : List FieldDeclaration) :
    Except Fault (List FieldDeclaration) :=
  match d.kind with
  | .dataclass => .ok (overrideFields before d.fields)
  | .model => .ok (overrideFields before (d.fields.filter (!·.isPrivate)))
  | .namedTuple => tupleFields d.name d.fields
  | _ => .ok before

/-- The annotations of a class itself: a constructor that is written out has its own. -/
def Declaration.ownAnnotations (d : Declaration) : List (String × TypeExpr) :=
  match d.kind with
  | .plain => []
  | _ => annotationsOf d.fields

/-- A class of checked records looks up the names in its fields once it is there; its own name is
one of them. -/
def ClassTable.settled (table : ClassTable) (info : ClassInfo) : Except Fault ClassInfo := do
  match info.ref.form with
  | .model _ =>
    let fields ← ((table.add info).bind info.ref).lookUpFields info.fields
    let info := { info with fields }
    ((table.add info).bind info.ref).checkStructure info.settings fields
    pure info
  | _ => pure info

/-- Adds a declared class to a table, without binding its name. -/
def ClassTable.declare (table : ClassTable) (d : Declaration) :
    Except Fault (ClassTable × ClassRef) := do
  checkBase table d
  let lineage := (d.base.bind (·.declared?)).map table.lineage |>.getD []
  let base := lineage.headD default
  let bases := lineage.filter (·.ref.form.isSchema)
  let schema := bases.headD default
  let fields ← d.allFields schema.fields
  if d.kind == .dataclass then checkRecord d.options d.fields fields bases
  let (members, memberNames) ←
    match d.kind with
    | .enumeration mixin => Enumeration.members d.name mixin d.members
    | _ => pure ([], [])
  let ref : ClassRef := ⟨d.name, table.nextSerial, d.form bases⟩
  let info ← table.settled {
    ref
    ancestors := lineage.map (·.ref.serial)
    fields
    annotations := schema.annotations ++ d.ownAnnotations
    frozen := d.options.frozen
    constructor? := d.constructor fields base.constructor?
    replaced := d.replaced base.replaced
    members
    memberNames
    settings := schema.settings.choose d.settings
    attributes := d.attributes
    config := d.config
    plan := none }
  pure (table.add info, ref)

end RowDecoding
