/-!
# Capabilities

What the steps of a plan ask of a type.
-/

namespace RowDecoding

/-- What a step may require of a type. -/
inductive Capability where
  /-- Values of a column can be decoded into the type. -/
  | decode
  /-- Values of a column may stand for the type. -/
  | typeCompatible
  /-- A whole row can be mapped to the type. -/
  | nestedMapping
  /-- Values of one type can be converted to another. -/
  | convertible
deriving DecidableEq, Repr, Inhabited

namespace Capability

/-- Every capability. -/
def all : List Capability :=
  [decode, typeCompatible, nestedMapping, convertible]

/-- The capability's name in capitals. -/
def name : Capability → String
  | decode => "DECODE"
  | typeCompatible => "TYPE_COMPATIBLE"
  | nestedMapping => "NESTED_MAPPING"
  | convertible => "CONVERTIBLE"

/-- How messages name the capability. -/
def label : Capability → String
  | decode => "decode"
  | typeCompatible => "type compatibility"
  | nestedMapping => "nested row mapping"
  | convertible => "fallible conversion"

/-- The capability with this name. -/
def ofName? (text : String) : Option Capability :=
  all.find? (·.name == text)

end Capability

end RowDecoding
