import RowDecoding.Calendar.Timestamp
import RowDecoding.Naming.Convention
import RowDecoding.Number.Decimal
import RowDecoding.Number.Uuid

/-!
# Values and type expressions

The values that rows hold and that decoding produces, and the type expressions that fields are
declared with. The two are defined together: a literal type lists values, and a type can itself be
handed around as a value.
-/

namespace RowDecoding

open Calendar Number Naming

/-! ### Classes -/

/-- What else the members of an enumeration are. -/
inductive Mixin where
  | none
  | text
  | whole
deriving DecidableEq, Repr, Inhabited

/-- The classes that need no declaration. -/
inductive Builtin where
  | int
  | float
  | str
  | bytes
  | bool
  | decimal
  | datetime
  | date
  | time
  | uuid
  | any
  | object
  | noneType
  | list
  | dict
  | set
  | frozenset
  | tuple
deriving DecidableEq, Repr, Inhabited

/-- What the instances of a class of records are as keys. -/
inductive KeyUse where
  /-- They can change, and are no keys. -/
  | none
  /-- Equal instances are one key. -/
  | byFields
  /-- Every instance is a key of its own. -/
  | byIdentity
deriving DecidableEq, Repr, Inhabited

/-- How a declared class is made. -/
inductive ClassForm where
  /-- A record with a constructor made from its fields. -/
  | dataclass (keys : KeyUse)
  /-- A record whose constructor validates. -/
  | model (keys : KeyUse)
  /-- A tuple with names for its positions. -/
  | namedTuple
  /-- A class with a constructor of its own. -/
  | plain
  /-- A class without a constructor. -/
  | blank
  | enumeration (mixin : Mixin)
  /-- A kind of whole number. -/
  | wholeNumber
  /-- Another built-in class under a name of its own. An instance holds the value of that class that
  it is as its only field, which has no name. -/
  | extension (base : Builtin)
deriving DecidableEq, Repr, Inhabited

/-- A declared class. Two classes of one name are told apart by the order of their declarations. -/
structure ClassRef where
  name : String
  serial : Nat
  form : ClassForm
deriving DecidableEq, Repr, Inhabited

/-- The enumeration of how an identifier was made; it needs no declaration. -/
def uuidSafety : ClassRef :=
  ⟨"SafeUUID", 0, .enumeration .none⟩

/-- What stands for further things where it is written by itself. -/
def furtherThings : ClassRef :=
  ⟨"Ellipsis", 0, .blank⟩

/-- The two ways of writing a union: `int | None` and `Optional[int]`. They are equal as types. -/
inductive UnionForm where
  | bar
  | classic
deriving DecidableEq, Repr, Inhabited

/-- The two ways of writing a tuple type: `tuple[int]` and `Tuple[int]`. They differ as types. -/
inductive TupleForm where
  | plain
  | classic
deriving DecidableEq, Repr, Inhabited

/-- The kinds of binary data. -/
inductive BinaryForm where
  | bytes
  | bytearray
  | memoryview
deriving DecidableEq, Repr, Inhabited

/-- What a row is made of. -/
inductive RowForm where
  /-- Cells under keys. -/
  | mapping
  /-- Cells in order, with or without column names. -/
  | sequence
  /-- A row of a database cursor. -/
  | cursor
  /-- A row of a database cursor that is not adapted yet. -/
  | fetched
  /-- A row object of someone else's making. -/
  | foreign
  /-- A row object that gives nothing for every column. -/
  | empty
deriving DecidableEq, Repr, Inhabited

mutual

/-- A type expression, or a thing that stands where one is expected. -/
inductive TypeExpr where
  | builtin (b : Builtin)
  | declared (c : ClassRef)
  | union (form : UnionForm) (members : List TypeExpr)
  | listOf (item : TypeExpr)
  | setOf (item : TypeExpr)
  | frozensetOf (item : TypeExpr)
  | dictOf (key value : TypeExpr)
  | tupleOf (form : TupleForm) (items : List TypeExpr)
  /-- A tuple of any length. -/
  | tupleOfAny (item : TypeExpr)
  | literal (choices : List Value)
  | annotated (base : TypeExpr) (markers : List Value)
  /-- A name that is looked up when a schema is read. -/
  | forward (name : String)
  /-- A thing that is no type. -/
  | value (v : Value)

/-- A value. -/
inductive Value where
  | none
  | bool (b : Bool)
  | int (n : Int)
  | float (x : Binary64)
  | text (s : String)
  | binary (form : BinaryForm) (bytes : List UInt8)
  | decimal (d : Decimal)
  | datetime (t : Timestamp)
  | date (d : Date)
  | time (t : Clock)
  | timedelta (d : Duration)
  | uuid (u : Uuid)
  | list (items : List Value)
  | tuple (items : List Value)
  | set (items : List Value)
  | frozenset (items : List Value)
  | dict (entries : List (Value × Value))
  | member (cls : ClassRef) (name : String) (payload : Value)
  | record (cls : ClassRef) (fields : List (String × Value))
  /-- An instance of a class that is a kind of whole number. -/
  | whole (cls : ClassRef) (n : Int)
  | type (t : TypeExpr)
  | convention (c : Convention)
  /-- What an annotation says about a column. -/
  | marker (attributes : List (String × Value))
  | row (form : RowForm) (columns : List Value) (cells : List Value)

end

deriving instance Repr for TypeExpr, Value

instance : Inhabited TypeExpr := ⟨.builtin .any⟩

instance : Inhabited Value := ⟨.none⟩

namespace TypeExpr

/-- The type of the value that stands for nothing. -/
abbrev noneType : TypeExpr := .builtin .noneType

/-- The type that admits everything. -/
abbrev any : TypeExpr := .builtin .any

/-- A value where a type is expected; a type handed around as a value is that type. -/
def ofValue : Value → TypeExpr
  | .type t => t
  | v => .value v

/-- Whether the expression is a class, as opposed to something built from classes. -/
def isClass : TypeExpr → Bool
  | builtin _ | declared _ => true
  | _ => false

/-- Whether a call of the expression is tried at all: things that are no types, unions of the newer
form and names to look up are no functions. -/
def isCallable : TypeExpr → Bool
  | value _ | forward _ | union .bar _ => false
  | _ => true

/-- The declared class, if the expression is one. -/
def declared? : TypeExpr → Option ClassRef
  | declared c => some c
  | _ => Option.none

end TypeExpr

namespace ClassForm

/-- Classes that a row can be mapped to by their fields. -/
def isSchema : ClassForm → Bool
  | dataclass _ | model _ | namedTuple => true
  | _ => false

/-- Enumerations. -/
def isEnumeration : ClassForm → Bool
  | enumeration _ => true
  | _ => false

end ClassForm

namespace Value

/-- The value of a built-in class that an instance of it under another name is; any other value is
itself. -/
def content : Value → Value
  | record ⟨_, _, .extension _⟩ [(_, v)] => v
  | v => v

/-- The number that a value is, if it is a kind of whole number. Truth values are. -/
def asInt? : Value → Option Int
  | bool b => some (if b then 1 else 0)
  | int n => some n
  | whole _ n => some n
  | member ⟨_, _, .enumeration .whole⟩ _ (int n) => some n
  | _ => Option.none

/-- A whole number of any class is its own content. -/
theorem content_of_asInt {v : Value} {n : Int} (h : v.asInt? = some n) : v.content = v := by
  unfold asInt? at h
  split at h <;> first | rfl | cases h

/-- Truth values. -/
def isBool : Value → Bool
  | bool _ => true
  | _ => false

/-- The text that a value is, if it is a kind of text. -/
def asText? : Value → Option String
  | text s => some s
  | member ⟨_, _, .enumeration .text⟩ _ (text s) => some s
  | record ⟨_, _, .extension .str⟩ [(_, text s)] => some s
  | _ => Option.none

/-- The elements of a list or of a kind of tuple. -/
def asSequence? : Value → Option (List Value)
  | list items | tuple items => some items
  | record ⟨_, _, .namedTuple⟩ fields => some (fields.map (·.2))
  | _ => Option.none

end Value

end RowDecoding
