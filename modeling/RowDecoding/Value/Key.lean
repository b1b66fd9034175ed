import RowDecoding.Value.Basic

/-!
# Equality of values and of types

Two types count as one where the order of a union's members or the way of writing it differs, and
numbers are equal across their kinds: `1`, `1.0` and `True` are one key. Equality is defined by a
normal form, the *key* of a value or type: a list of texts in which every node opens with its label
and closes, and in which parts without an order are sorted. Being equal keys, equality is an
equivalence by construction.
-/

namespace RowDecoding

open Number

/-- The normal form of a value or type. -/
abbrev Key := List String

namespace Key

/-- A node with its parts in order. -/
def node (label : String) (parts : List Key) : Key :=
  ("<" ++ label) :: parts.flatten ++ [">"]

/-- A node without parts. -/
def leaf (label : String) : Key :=
  node label []

/-- The order of keys, by their first difference. -/
def precedes : Key → Key → Bool
  | [], _ => true
  | _ :: _, [] => false
  | a :: as, b :: bs => if a == b then precedes as bs else decide (a < b)

/-- A node whose parts have no order. -/
def bag (label : String) (parts : List Key) : Key :=
  node label (parts.mergeSort precedes)

/-- A number, whatever kind it is of. -/
def ofMagnitude : Magnitude → Key
  | .undefined => leaf "not a number"
  | .infinite negative => leaf (if negative then "-infinity" else "infinity")
  | .finite negative n e =>
    leaf ("number " ++ (if negative then "-" else "") ++ digits n ++ "e" ++ decimalText e)

/-- A whole number. -/
def ofInt (n : Int) : Key :=
  ofMagnitude (Magnitude.ofInt n)

/-- Binary data of any kind. -/
def ofBytes (bytes : List UInt8) : Key :=
  leaf ("bytes " ++ String.ofList (bytes.flatMap fun b => Text.hex 2 b.toNat))

end Key

/-- The name of a built-in class. -/
def Builtin.name : Builtin → String
  | int => "int"
  | float => "float"
  | str => "str"
  | bytes => "bytes"
  | bool => "bool"
  | decimal => "Decimal"
  | datetime => "datetime"
  | date => "date"
  | time => "time"
  | uuid => "UUID"
  | any => "Any"
  | object => "object"
  | noneType => "NoneType"
  | list => "list"
  | dict => "dict"
  | set => "set"
  | frozenset => "frozenset"
  | tuple => "tuple"

namespace Builtin

/-- Every built-in class. -/
def all : List Builtin :=
  [int, float, str, bytes, bool, decimal, datetime, date, time, uuid, any, object, noneType, list,
    dict, set, frozenset, tuple]

/-- How a built-in class is written where a type is asked for: by its name, the class of nothing by
the word for nothing. -/
def spelling : Builtin → String
  | noneType => "None"
  | b => b.name

/-- The built-in class that is written so. -/
def spelled? (text : String) : Option Builtin :=
  all.find? (·.spelling == text)

end Builtin

/-- How keys tell what the instances of a class are as keys. -/
def KeyUse.label : KeyUse → String
  | none => "changing"
  | byFields => "by fields"
  | byIdentity => "by identity"

/-- How keys tell what else the members of an enumeration are. -/
def Mixin.label : Mixin → String
  | none => "members"
  | text => "texts"
  | whole => "numbers"

/-- How keys tell how a class is made. -/
def ClassForm.key : ClassForm → Key
  | dataclass keys => Key.leaf "record" ++ Key.leaf keys.label
  | model keys => Key.leaf "model" ++ Key.leaf keys.label
  | namedTuple => Key.leaf "named tuple"
  | plain => Key.leaf "plain"
  | blank => Key.leaf "blank"
  | enumeration mixin => Key.leaf "enumeration" ++ Key.leaf mixin.label
  | wholeNumber => Key.leaf "whole number"
  | extension base => Key.leaf "extension" ++ Key.leaf base.name

/-- The key of a declared class. -/
def ClassRef.key (c : ClassRef) : Key :=
  Key.node ("class " ++ digits c.serial ++ " " ++ c.name) [c.form.key]

/-- The name of a kind of binary data. -/
def BinaryForm.name : BinaryForm → String
  | bytes => "bytes"
  | bytearray => "bytearray"
  | memoryview => "memoryview"

/-- The name of the class of a row. -/
def RowForm.name : RowForm → String
  | mapping => "MappingRow"
  | sequence => "SequenceRow"
  | cursor => "SqliteRow"
  | fetched => "Row"
  | foreign => "KeyValueRow"
  | empty => "StubRow"

/-- What kind of thing a type expression is. -/
def TypeExpr.kindName : TypeExpr → String
  | .builtin .any => "_AnyMeta"
  | .builtin _ => "type"
  | .declared c =>
    match c.form with
    | .enumeration _ => "EnumType"
    | .model _ => "ModelMetaclass"
    | _ => "type"
  | .union .bar _ => "UnionType"
  | .union .classic _ => "_UnionGenericAlias"
  | .listOf _ | .setOf _ | .frozensetOf _ | .dictOf .. | .tupleOf .plain _ | .tupleOfAny _ =>
    "GenericAlias"
  | .tupleOf .classic _ => "_GenericAlias"
  | .literal _ => "_LiteralGenericAlias"
  | .annotated .. => "_AnnotatedAlias"
  | .forward _ => "ForwardRef"
  | .value _ => "object"

/-- The name of the class of a value. -/
def Value.typeName : Value → String
  | .none => "NoneType"
  | .bool _ => "bool"
  | .int _ => "int"
  | .float _ => "float"
  | .text _ => "str"
  | .binary form _ => form.name
  | .decimal _ => "Decimal"
  | .datetime _ => "datetime"
  | .date _ => "date"
  | .time _ => "time"
  | .timedelta _ => "timedelta"
  | .uuid _ => "UUID"
  | .list _ => "list"
  | .tuple _ => "tuple"
  | .set _ => "set"
  | .frozenset _ => "frozenset"
  | .dict _ => "dict"
  | .member c .. | .record c _ | .whole c _ => c.name
  | .type t => t.kindName
  | .convention _ => "NamingConvention"
  | .marker _ => "ColumnSpec"
  | .row form .. => form.name

/-- The name of the kind of a type expression, with the module that it is part of if it is built in
but not known everywhere. -/
def TypeExpr.fullKindName (t : TypeExpr) : String :=
  match t with
  | .union .bar _ | .listOf _ | .setOf _ | .frozensetOf _ | .dictOf .. | .tupleOf .plain _
  | .tupleOfAny _ => "types." ++ t.kindName
  | _ => t.kindName

/-- The name of a built-in class, with its module as `TypeExpr.fullKindName` has it. -/
def Builtin.fullName (b : Builtin) : String :=
  match b with
  | .decimal => "decimal." ++ b.name
  | .datetime | .date | .time => "datetime." ++ b.name
  | _ => b.name

/-- The name of the class of a value, with the module that it is part of if it is built in but not
known everywhere. -/
def Value.fullTypeName (v : Value) : String :=
  match v with
  | .decimal _ => "decimal." ++ v.typeName
  | .datetime _ | .date _ | .time _ | .timedelta _ => "datetime." ++ v.typeName
  | .type t => t.fullKindName
  | .row .fetched .. => "sqlite3." ++ v.typeName
  | _ => v.typeName

mutual

/-- The key of a type. -/
def TypeExpr.key : TypeExpr → Key
  | .builtin b => Key.leaf ("built-in " ++ b.name)
  | .declared c => c.key
  | .union _ members => Key.bag "union" (keysOfTypes members)
  | .listOf t => Key.node "list of" [t.key]
  | .setOf t => Key.node "set of" [t.key]
  | .frozensetOf t => Key.node "frozenset of" [t.key]
  | .dictOf k v => Key.node "dict of" [k.key, v.key]
  | .tupleOf .plain items => Key.node "tuple of" (keysOfTypes items)
  | .tupleOf .classic items => Key.node "classic tuple of" (keysOfTypes items)
  | .tupleOfAny t => Key.node "tuple of any" [t.key]
  | .literal choices => Key.bag "literal" (typedKeys choices)
  | .annotated base markers => Key.node "annotated" (base.key :: keysOfValues markers)
  | .forward name => Key.leaf ("forward " ++ name)
  | .value v => Key.node "value" [v.key]

/-- The keys of several types. -/
def keysOfTypes : List TypeExpr → List Key
  | [] => []
  | t :: rest => t.key :: keysOfTypes rest

/-- The key of a value. -/
def Value.key : Value → Key
  | .none => Key.leaf "none"
  | .bool b => Key.ofInt (if b then 1 else 0)
  | .int n => Key.ofInt n
  | .float x => Key.ofMagnitude (Magnitude.ofBinary64 x)
  | .text s => Key.leaf ("text " ++ s)
  | .binary _ bytes => Key.ofBytes bytes
  | .decimal d => Key.ofMagnitude (Magnitude.ofDecimal d)
  | .datetime t =>
    match t.clock.offset with
    | some o => Key.leaf ("instant " ++ decimalText (t.sinceBeginning - o))
    | Option.none => Key.leaf ("datetime " ++ decimalText t.sinceBeginning)
  | .date d => Key.leaf ("date " ++ d.text)
  | .time t =>
    match t.offset with
    | some o => Key.leaf ("time in zone " ++ decimalText (t.sinceMidnight - o))
    | Option.none => Key.leaf ("time " ++ decimalText t.sinceMidnight)
  | .timedelta d => Key.leaf ("duration " ++ decimalText d.microseconds)
  | .uuid u => Key.leaf ("uuid " ++ digits u.value)
  | .list items => Key.node "list" (keysOfValues items)
  | .tuple items => Key.node "tuple" (keysOfValues items)
  | .set items | .frozenset items => Key.bag "set" (keysOfValues items)
  | .dict entries => Key.bag "dict" (keysOfEntries entries)
  | .member c name payload =>
    match c.form with
    | .enumeration .none => Key.node ("member " ++ name) [c.key]
    | _ => payload.key
  | .record c fields =>
    match c.form with
    | .namedTuple => Key.node "tuple" (keysOfFields fields)
    | .extension _ => (keysOfFields fields).headD (Key.node "record" [c.key])
    | _ => Key.node "record" (c.key :: keysOfFields fields)
  | .whole _ n => Key.ofInt n
  | .type t => Key.node "type" [t.key]
  | .convention c => Key.leaf ("convention " ++ c.name)
  | .marker attributes => Key.node "marker" (keysOfAttributes attributes)
  | .row form columns cells =>
    Key.node ("row " ++ form.name) (keysOfValues columns ++ keysOfValues cells)

/-- The keys of several values. -/
def keysOfValues : List Value → List Key
  | [] => []
  | v :: rest => v.key :: keysOfValues rest

/-- The keys of several values, each with the class of the value. -/
def typedKeys : List Value → List Key
  | [] => []
  | v :: rest => Key.node ("of " ++ v.typeName) [v.key] :: typedKeys rest

/-- The keys of the entries of a dictionary. -/
def keysOfEntries : List (Value × Value) → List Key
  | [] => []
  | (k, v) :: rest => Key.node "entry" [k.key, v.key] :: keysOfEntries rest

/-- The keys of the fields of a record; their names belong to the class. -/
def keysOfFields : List (String × Value) → List Key
  | [] => []
  | (_, v) :: rest => v.key :: keysOfFields rest

/-- The keys of named values. -/
def keysOfAttributes : List (String × Value) → List Key
  | [] => []
  | (name, v) :: rest => Key.node ("attribute " ++ name) [v.key] :: keysOfAttributes rest

end

/-- A kind of text has the key of the text that it is. -/
theorem Value.key_of_asText {v : Value} {s : String} (h : v.asText? = some s) :
    v.key = (Value.text s).key := by
  unfold asText? at h
  split at h <;> cases h <;> rfl

/-- Whether two types are the same. -/
def TypeExpr.same (a b : TypeExpr) : Bool :=
  a.key == b.key

/-- The number that a value is, if it is one. -/
def Value.magnitude? (v : Value) : Option Magnitude :=
  match v.content with
  | .float x => some (.ofBinary64 x)
  | .decimal d => some (.ofDecimal d)
  | v => v.asInt?.map .ofInt

/-- Whether a number is undefined, and so differs even from itself. -/
def Value.isUndefined (v : Value) : Bool :=
  match v.content with
  | .float .nan => true
  | .decimal (.nan ..) => true
  | _ => false

/-- Whether two values are equal. -/
def Value.equal (a b : Value) : Bool :=
  a.key == b.key && !a.isUndefined

/-- The elements without those that equal an earlier one. -/
def Value.distinct (items : List Value) : List Value :=
  (items.foldl (fun kept v => if kept.any (v.equal ·) then kept else v :: kept) []).reverse

/-- Entries in which a later value for an equal key takes the place of the earlier one. -/
def Value.mergeEntries (entries : List (Value × Value)) : List (Value × Value) :=
  entries.foldl
    (fun kept (k, v) =>
      if kept.any (k.equal ·.1) then
        kept.map fun (k', v') => if k.equal k' then (k', v) else (k', v')
      else kept ++ [(k, v)])
    []

/-! ### Things that cannot be keys -/

/-- What is said of a thing of a class that can be no key. -/
def notKeyText (name : String) : String :=
  "unhashable type: '" ++ name ++ "'"

mutual

/-- What is said of the first part of a type that can be no key. -/
def TypeExpr.unhashable? : TypeExpr → Option String
  | .builtin _ | .declared _ | .forward _ => Option.none
  | .union _ members => unhashableTypes? members
  | .listOf t | .setOf t | .frozensetOf t | .tupleOfAny t => t.unhashable?
  | .dictOf k v => k.unhashable? <|> v.unhashable?
  | .tupleOf _ items => unhashableTypes? items
  | .literal choices => unhashableValues? choices
  | .annotated base markers => base.unhashable? <|> unhashableValues? markers
  | .value v => v.unhashable?

/-- What is said of the first part of several types that can be no key. -/
def unhashableTypes? : List TypeExpr → Option String
  | [] => Option.none
  | t :: rest => t.unhashable? <|> unhashableTypes? rest

/-- What is said of the first part of a value that can be no key: lists, sets, dictionaries and
records can change. -/
def Value.unhashable? : Value → Option String
  | .list _ => some (notKeyText "list")
  | .set _ => some (notKeyText "set")
  | .dict _ => some (notKeyText "dict")
  | .binary .bytearray _ => some (notKeyText "bytearray")
  | .decimal (.nan _ true _) => some "Cannot hash a signaling NaN value"
  | .tuple items => unhashableValues? items
  | .record c fields =>
    match c.form with
    | .dataclass .none | .model .none => some (notKeyText c.name)
    | .extension .list | .extension .set | .extension .dict => some (notKeyText c.name)
    | .dataclass .byFields | .model .byFields | .namedTuple | .extension _ =>
      unhashableFields? fields
    | _ => Option.none
  | .marker attributes => unhashableFields? attributes
  | .type t => t.unhashable?
  | _ => Option.none

/-- What is said of the first part of several values that can be no key. -/
def unhashableValues? : List Value → Option String
  | [] => Option.none
  | v :: rest => v.unhashable? <|> unhashableValues? rest

/-- What is said of the first part of named values that can be no key. -/
def unhashableFields? : List (String × Value) → Option String
  | [] => Option.none
  | (_, v) :: rest => v.unhashable? <|> unhashableFields? rest

end

end RowDecoding
