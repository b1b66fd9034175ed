import RowDecoding.Hook.Basic

/-!
# Transforms

What decoders, converters and default factories are: the built-in ones by name, those supplied by
users as hooks, and the ones derived from them. A transform refers to types and classes and holds
no code, so two registries that agree on their registrations resolve to equal transforms.
-/

namespace RowDecoding

/-- The types whose values a column holds as they are, or as text. -/
inductive Scalar where
  | int
  | float
  | str
  | bytes
  | decimal
  | datetime
  | date
  | time
  | uuid
deriving DecidableEq, Repr, Inhabited

/-- The conversions that every registry knows. -/
inductive Conversion where
  | int
  | float
  | str
  | bool
  | uuid
  | decimal
  | datetime
  | date
  | time
  /-- A number of seconds as a point in time. -/
  | epoch
deriving DecidableEq, Repr, Inhabited

/-- A function from values to values. -/
inductive Transform where
  | passthrough
  | decode (scalar : Scalar)
  /-- Truth values; the numbers zero and one as well, if `fromInt` allows it. -/
  | decodeBool (fromInt : Bool)
  | convert (conversion : Conversion)
  /-- A hook, with the class that it belongs to. -/
  | hook (owner : Option ClassRef) (h : Hook)
  /-- Nothing stays nothing. -/
  | nullable (inner : Transform)
  /-- The member of an enumeration with a value. -/
  | member (cls : ClassRef)
  /-- A check of the whole structure of a value against a type. -/
  | validate (type : TypeExpr) (strict : Bool)
deriving Repr

instance : Inhabited Transform := ⟨.passthrough⟩

/-- Where a default value comes from. -/
inductive Supply where
  | constant (v : Value)
  | hook (owner : Option ClassRef) (h : Hook)
  /-- A class called without arguments. -/
  | make (type : TypeExpr)
deriving Repr

instance : Inhabited Supply := ⟨.constant .none⟩

end RowDecoding
