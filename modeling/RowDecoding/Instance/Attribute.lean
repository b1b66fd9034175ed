import RowDecoding.Scalar.Moment
import RowDecoding.Schema.Call
import RowDecoding.Schema.Reading

/-!
# Attributes of values

What a value says of itself under a name: the parts of a number, a date, a time or an identifier,
the name and value of a member of an enumeration, the fields of a record, its class, and what that
says.
-/

namespace RowDecoding

open Calendar Number

namespace Instance

/-- A natural number as a value. -/
def natural (n : Nat) : Value :=
  .int n

/-- An attribute of a whole number. -/
def wholeAttribute? (name : String) (n : Int) : Option Value :=
  match name with
  | "numerator" | "real" => some (.int n)
  | "denominator" => some (.int 1)
  | "imag" => some (.int 0)
  | _ => none

/-- An attribute of a double. -/
def doubleAttribute? (name : String) (x : Binary64) : Option Value :=
  match name with
  | "real" => some (.float x)
  | "imag" => some (.float (Binary64.ofInt 0))
  | _ => none

/-- An attribute of a decimal number. -/
def decimalAttribute? (name : String) (d : Decimal) : Option Value :=
  match name with
  | "real" => some (.decimal d)
  | "imag" => some (.decimal Decimal.zero)
  | _ => none

/-! ### Dates and times -/

/-- The first date. -/
def firstDate : Date := ⟨1, 1, 1⟩

/-- The last date. -/
def lastDate : Date := ⟨9999, 12, 31⟩

/-- The last moment of a day. -/
def lastClock : Clock := ⟨23, 59, 59, 999999, none⟩

/-- The shortest length of time that is told apart. -/
def finest : Value :=
  .timedelta ⟨1⟩

/-- An attribute of a date. -/
def dateAttribute? (name : String) (d : Date) : Option Value :=
  match name with
  | "year" => some (natural d.year)
  | "month" => some (natural d.month)
  | "day" => some (natural d.day)
  | "min" => some (.date firstDate)
  | "max" => some (.date lastDate)
  | "resolution" => some (.timedelta ⟨Duration.perDay⟩)
  | _ => none

/-- An attribute of a time of the day. A zone is no value. -/
def clockAttribute? (name : String) (c : Clock) : Option Value :=
  match name with
  | "hour" => some (natural c.hour)
  | "minute" => some (natural c.minute)
  | "second" => some (natural c.second)
  | "microsecond" => some (natural c.microsecond)
  | "fold" => some (natural 0)
  | "tzinfo" => if c.offset.isNone then some .none else none
  | "min" => some (.time Clock.midnight)
  | "max" => some (.time lastClock)
  | "resolution" => some finest
  | _ => none

/-- An attribute of a point in time: those of its date and of its clock. -/
def timestampAttribute? (name : String) (t : Timestamp) : Option Value :=
  match name with
  | "min" => some (.datetime ⟨firstDate, Clock.midnight⟩)
  | "max" => some (.datetime ⟨lastDate, lastClock⟩)
  | "resolution" => some finest
  | _ => (dateAttribute? name t.date).or (clockAttribute? name t.clock)

/-- An attribute of a length of time. -/
def durationAttribute? (name : String) (d : Duration) : Option Value :=
  match name with
  | "days" => some (.int d.days)
  | "seconds" => some (natural d.seconds)
  | "microseconds" => some (natural d.remainder)
  | "min" => some (.timedelta (Duration.ofParts (-Duration.mostDays) 0 0))
  | "max" => some (.timedelta (Duration.ofParts Duration.mostDays 86399 999999))
  | "resolution" => some finest
  | _ => none

/-! ### Identifiers -/

/-- The fields of an identifier by name, each with its lowest bit and its width. -/
def uuidFields : List (String × Nat × Nat) :=
  [("time_low", 96, 32), ("time_mid", 80, 16), ("time_hi_version", 64, 16),
    ("clock_seq_hi_variant", 56, 8), ("clock_seq_low", 48, 8), ("node", 0, 48)]

/-- What the highest bits of the fourth field say about the form of an identifier. -/
def uuidVariant (u : Uuid) : String :=
  let top := u.bits 61 3
  if top < 4 then "reserved for NCS compatibility"
  else if top < 6 then "specified in RFC 4122"
  else if top < 7 then "reserved for Microsoft compatibility"
  else "reserved for future definition"

/-- An attribute of an identifier. -/
def uuidAttribute? (name : String) (u : Uuid) : Option Value :=
  match uuidFields.lookup name with
  | some (low, width) => some (natural (u.bits low width))
  | none =>
    match name with
    | "int" => some (natural u.value)
    | "bytes" => some (.binary .bytes u.toBytes)
    | "bytes_le" => some (.binary .bytes (Uuid.swapped u.toBytes))
    | "hex" => some (.text (String.ofList (Text.hex 32 u.value)))
    | "urn" => some (.text ("urn:uuid:" ++ u.text))
    | "fields" => some (.tuple (uuidFields.map fun (_, low, width) => natural (u.bits low width)))
    | "clock_seq" => some (natural (u.bits 48 14))
    | "time" => some (natural
        (u.bits 64 12 * Nat.pow 2 48 + u.bits 80 16 * Nat.pow 2 32 + u.bits 96 32))
    | "variant" => some (.text (uuidVariant u))
    | "version" => some (if u.bits 62 2 == 2 then natural (u.bits 76 4) else .none)
    | "is_safe" => some unknownSafety
    | _ => none

/-! ### Binary views -/

/-- An attribute of a view of bytes. -/
def viewAttribute? (name : String) (bytes : List UInt8) : Option Value :=
  match name with
  | "nbytes" => some (natural bytes.length)
  | "itemsize" | "ndim" => some (natural 1)
  | "format" => some (.text "B")
  | "shape" => some (.tuple [natural bytes.length])
  | "strides" => some (.tuple [natural 1])
  | "suboffsets" => some (.tuple [])
  | "obj" => some (.binary .bytes bytes)
  | "readonly" | "contiguous" | "c_contiguous" | "f_contiguous" => some (.bool true)
  | _ => none

/-! ### Members, records and classes -/

/-- The class of a value. -/
def ownClass (v : Value) : TypeExpr :=
  match v with
  | .member c .. | .record c _ | .whole c _ => .declared c
  | _ =>
    match Builtin.all.find? (·.name == v.typeName) with
    | some b => .builtin b
    | none => .declared ⟨v.typeName, 0, .blank⟩

/-- The module that a class is part of. -/
def moduleOf (t : TypeExpr) : String :=
  match t.nested.splitOn "." with
  | [home, _] => home
  | _ => "builtins"

/-- The fields that an instance is taken apart by where it is matched. -/
def matchedFields (info : ClassInfo) : Option (List FieldDeclaration) :=
  match info.ref.form with
  | .namedTuple => some info.fields
  | .dataclass _ => some (info.fields.filter fun f => f.inConstructor && f.kind == .ordinary)
  | _ => none

/-- What a class says under a name, as far as it is a value. -/
def classAttribute? (table : ClassTable) (c : ClassRef) (name : String) : Option Value :=
  match table.attribute? c name with
  | some (.value v) => some v
  | some _ => none
  | none =>
    let info := table.info c
    match c.form, name with
    | _, "__module__" => some (.text (moduleOf (.declared c)))
    | _, "__match_args__" =>
      (matchedFields info).map fun fields => .tuple (fields.map fun f => .text f.name)
    | .namedTuple, "_fields" => some (.tuple (info.fields.map fun f => .text f.name))
    | .namedTuple, "_field_defaults" =>
      some (.dict (info.fields.filterMap fun f =>
        match f.default with
        | some (.constant v) => some (.text f.name, v)
        | _ => none))
    | _, _ => none

/-- An attribute of a member of an enumeration; the other members are attributes as well. -/
def memberAttribute? (table : ClassTable) (c : ClassRef) (member name : String) (payload : Value) :
    Option Value :=
  match name with
  | "name" | "_name_" => some (.text member)
  | "value" | "_value_" => some payload
  | "__objclass__" => some (.type (.declared c))
  | "_sort_order_" =>
    ((table.info c).members.findIdx? (·.1 == member)).map natural
  | _ => (table.memberNamed? c name).or (classAttribute? table c name)

/-- The default of a field of a class, if every instance begins with it. -/
def fieldDefault? (table : ClassTable) (c : ClassRef) (name : String) : Option Value :=
  match c.form with
  | .dataclass _ =>
    ((table.info c).fields.find? (·.name == name)).bind fun f =>
      match f.default with
      | some (.constant v) => some v
      | _ => none
  | _ => none

/-- An attribute of a class. -/
def typeAttribute? (table : ClassTable) (name : String) (t : TypeExpr) : Option Value :=
  match name, t.isClass with
  | "__name__", true | "__qualname__", true => some (.text t.describe)
  | "__module__", true => some (.text (moduleOf t))
  | _, _ =>
    match t with
    | .declared c =>
      (table.memberNamed? c name).or
        ((classAttribute? table c name).or (fieldDefault? table c name))
    | _ => none

/-- The fields of a record that have names: what an instance of a built-in class holds has none. -/
def namedFields (c : ClassRef) (fields : Bindings) : Bindings :=
  match c.form with
  | .extension _ => []
  | _ => fields

/-- The fields of a record as a dictionary. -/
def fieldDictionary (fields : Bindings) : Value :=
  .dict (fields.map fun (name, v) => (.text name, v))

/-- What a value says of itself under a name. -/
def attribute? (table : ClassTable) (name : String) (v : Value) : Option Value :=
  match v, name with
  | _, "__class__" => some (.type (ownClass v))
  | .type t, _ => typeAttribute? table name t
  | .decimal _, "__module__" | .uuid _, "__module__" => some (.text (moduleOf (ownClass v)))
  | .record c fields, _ =>
    match (namedFields c fields).lookup name with
    | some x => some x
    | none =>
      if name == "__dict__" && c.form != .namedTuple then
        some (fieldDictionary (namedFields c fields))
      else classAttribute? table c name
  | .member c member payload, _ =>
    (memberAttribute? table c member name payload).or
      (v.asInt?.bind (wholeAttribute? name))
  | .convention c, "name" | .convention c, "_name_" => some (.text c.name)
  | .convention c, "value" | .convention c, "_value_" => some (.text c.spelling)
  | .float x, _ => doubleAttribute? name x
  | .decimal d, _ => decimalAttribute? name d
  | .date d, _ => dateAttribute? name d
  | .time t, _ => clockAttribute? name t
  | .datetime t, _ => timestampAttribute? name t
  | .timedelta d, _ => durationAttribute? name d
  | .uuid u, _ => uuidAttribute? name u
  | .binary .memoryview bytes, _ => viewAttribute? name bytes
  | .row _ columns _, "columns" => if v.knowsColumns then some (.list columns) else none
  | _, _ => v.asInt?.bind (wholeAttribute? name)

/-- What a value says of itself under a name that it has to have. -/
def getAttribute (table : ClassTable) (name : String) (v : Value) : Except Fault Value :=
  match attribute? table name v with
  | some x => .ok x
  | none => .error (v.lacksAttribute name)

end Instance

end RowDecoding
