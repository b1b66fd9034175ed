import RowDecoding.Plan.Basic
import RowDecoding.Schema.Settings

/-!
# Declared classes

What is known of a class once it is declared: its fields, including those it has from its base, its
hooks, and what a derivation has attached to it. A table holds the classes of a session; names are
bound to them, and a name may be bound anew while the class it stood for lives on.
-/

namespace RowDecoding

/-- How an argument reaches a parameter. -/
inductive ParameterKind where
  | ordinary
  | positionalOnly
  | keywordOnly
  /-- All positional arguments that are left. -/
  | spread
  /-- All keyword arguments that are left. -/
  | keywordSpread
deriving DecidableEq, Repr, Inhabited

/-- One declared field. -/
structure FieldDeclaration where
  name : String
  declaredType : Option TypeExpr
  default : Option Supply
  /-- The directives given beside the annotation. -/
  metadata : Attributes
  /-- Whether the constructor takes it. -/
  inConstructor : Bool
  kind : ParameterKind
  /-- The name under which a validating constructor takes it. -/
  alternative : Option String
  /-- The least value. -/
  least : Option Value
  /-- The greatest length. -/
  longest : Option Nat
  /-- A check after the others. -/
  validator : Option Hook
deriving Inhabited, Repr

/-- An attribute of a class. -/
inductive ClassAttribute where
  | hook (h : Hook)
  | value (v : Value)
  /-- The row mapping that a derivation attaches; it knows the registry of the derivation. -/
  | rowMapping (registry : String)
deriving Repr

instance : Inhabited ClassAttribute := ⟨.value .none⟩

/-- What a call of an attribute does, if it is a function: a hook, or a class, which makes an instance
of the argument. -/
def ClassAttribute.function? : ClassAttribute → Option Hook
  | hook h => some h
  | value (.type t) => if t.isCallable then some (.make t) else none
  | _ => none

/-- How a constructor makes an instance. -/
inductive Making where
  /-- Its fields hold the arguments. -/
  | fields
  /-- As it is written out: the arguments become attributes, and a hook may end it. -/
  | written (ending : Option Hook)
  /-- Its positions hold the arguments. -/
  | positions
deriving Inhabited, Repr

/-- A constructor that takes arguments. -/
structure Constructor where
  /-- The name of the class that it was made for. -/
  owner : String
  making : Making
  /-- The name of the parameter that receives the instance. -/
  receiver : String
  /-- What it takes, and the fields besides that it fills. -/
  parameters : List FieldDeclaration
deriving Inhabited, Repr

/-- Everything about a declared class. -/
structure ClassInfo where
  ref : ClassRef
  /-- The classes it inherits from, the nearest one first. -/
  ancestors : List Nat
  fields : List FieldDeclaration
  /-- Annotations by name, those of the base first. -/
  annotations : List (String × TypeExpr)
  /-- Whether the fields of an instance stay what they are. -/
  frozen : Bool
  constructor? : Option Constructor
  /-- What stands in the place of the constructor and cannot be called. -/
  replaced : Option Value
  members : List (String × Value)
  /-- Every name of a member in order, with the name that the member has itself. -/
  memberNames : List (String × String)
  settings : CheckSettings
  attributes : List (String × ClassAttribute)
  /-- What the class itself says about all its fields. -/
  config : Option Value
  /-- The plan that a derivation attached to the class itself. -/
  plan : Option DecodePlan

instance : Inhabited ClassInfo :=
  ⟨⟨default, [], [], [], false, none, none, [], [], default, [], none, none⟩⟩

/-- The classes of a session and their names. -/
structure ClassTable where
  classes : List ClassInfo
  bindings : List (String × Nat)
deriving Inhabited

namespace ClassTable

/-- No classes. -/
def empty : ClassTable := ⟨[], []⟩

/-- What is known of a class. -/
def info? (table : ClassTable) (serial : Nat) : Option ClassInfo :=
  table.classes.find? (·.ref.serial == serial)

/-- What is known of a class, if it is one of the table's. -/
def known? (table : ClassTable) (c : ClassRef) : Option ClassInfo :=
  (table.info? c.serial).filter (·.ref == c)

/-- What is known of a class; an unknown one has nothing. -/
def info (table : ClassTable) (c : ClassRef) : ClassInfo :=
  (table.known? c).getD default

/-- The class that a name is bound to. -/
def bound? (table : ClassTable) (name : String) : Option ClassRef := do
  let serial ← table.bindings.lookup name
  let info ← table.info? serial
  pure info.ref

/-- The class that a name refers to, built in or declared. -/
def referred? (table : ClassTable) (name : String) : Option TypeExpr :=
  match Builtin.spelled? name with
  | some b => some (.builtin b)
  | none => (table.bound? name).map .declared

/-- The number of the next class. -/
def nextSerial (table : ClassTable) : Nat :=
  table.classes.length + 1

/-- Adds a class without binding its name. -/
def add (table : ClassTable) (info : ClassInfo) : ClassTable :=
  { table with classes := table.classes ++ [info] }

/-- Binds a name to a class. -/
def bind (table : ClassTable) (c : ClassRef) : ClassTable :=
  { table with bindings := (c.name, c.serial) :: table.bindings }

/-- Changes what is known of a class. -/
def update (table : ClassTable) (c : ClassRef) (change : ClassInfo → ClassInfo) : ClassTable :=
  { table with
    classes := table.classes.map fun info =>
      if info.ref.serial == c.serial then change info else info }

/-- A class and its ancestors, the nearest one first; an unknown class is none. -/
def lineage (table : ClassTable) (c : ClassRef) : List ClassInfo :=
  match table.known? c with
  | some own => own :: own.ancestors.filterMap table.info?
  | none => []

/-- An attribute of a class or of its nearest ancestor that has it. -/
def attribute? (table : ClassTable) (c : ClassRef) (name : String) : Option ClassAttribute :=
  (table.lineage c).findSome? (·.attributes.lookup name)

/-- What a class says about all its fields, or its nearest ancestor that says something. -/
def config? (table : ClassTable) (c : ClassRef) : Option Value :=
  (table.lineage c).findSome? (·.config)

/-- The member of an enumeration with a value equal to the given one. -/
def memberOf? (table : ClassTable) (c : ClassRef) (v : Value) : Option Value :=
  match v with
  | .member d name payload =>
    if d == c then some (.member c name payload) else lookUp v
  | _ => lookUp v
where
  /-- The first member with an equal value. -/
  lookUp (v : Value) : Option Value :=
    ((table.info c).members.find? fun (_, payload) => payload.equal v).map fun (name, payload) =>
      .member c name payload

/-- What the names of members of an enumeration stand for. -/
def memberValues (table : ClassTable) (c : ClassRef) : List Value :=
  let info := table.info c
  info.memberNames.filterMap fun (_, name) => info.members.lookup name

/-- The member of an enumeration with a name. -/
def memberNamed? (table : ClassTable) (c : ClassRef) (name : String) : Option Value := do
  let info := table.info c
  let own ← info.memberNames.lookup name
  let payload ← info.members.lookup own
  pure (.member c own payload)

/-- The class itself or its nearest ancestor that rows can be mapped to by its fields. -/
def schemaOf? (table : ClassTable) (c : ClassRef) : Option ClassInfo :=
  (table.lineage c).find? (·.ref.form.isSchema)

end ClassTable

end RowDecoding
