import RowDecoding.Directive.Resolved
import RowDecoding.Plan.Transform

/-!
# Plans

A compiled plan lists one step per field of its target, with everything that the step needs: nothing
is looked up while a row is decoded. What a step requires of its types is kept beside it.
-/

namespace RowDecoding

/-- How the fields of a target find their columns. -/
inductive Addressing where
  | byName
  | byPosition
deriving DecidableEq, Repr, Inhabited

namespace Addressing

/-- How the way of addressing is called. -/
def label : Addressing → String
  | byName => "name"
  | byPosition => "position"

end Addressing

/-- A capability that a type, or a pair of types, has to have. -/
structure Requirement where
  capability : Capability
  types : List TypeExpr
deriving Repr, Inhabited

namespace Requirement

/-- Requirements are the same if their capabilities are and their types are the same in turn. -/
def same (a b : Requirement) : Bool :=
  a.capability == b.capability && keysOfTypes a.types == keysOfTypes b.types

/-- The requirements without those that are the same as an earlier one. -/
def distinct (requirements : List Requirement) : List Requirement :=
  (requirements.foldl (fun kept r => if kept.any (r.same ·) then kept else r :: kept) []).reverse

end Requirement

/-- How one field gets its value; `M` maps whole rows. -/
inductive Strategy (M : Type) where
  /-- One column, by name. -/
  | byName (column : Value) (decoder : Option Transform)
  /-- One column, by position. -/
  | byIndex (index : Value) (decoder : Option Transform)
  /-- One column, decoded into one type and then converted to another. -/
  | thenConvert (key : Value) (decoder : Option Transform)
  /-- The whole row. -/
  | flatten (mapper : Option M)
  /-- No strategy at all. -/
  | unknown
deriving Repr

instance {M : Type} : Inhabited (Strategy M) := ⟨.unknown⟩

namespace Strategy

variable {M : Type}

/-- The name of the kind of step. -/
def title : Strategy M → String
  | byName .. => "DirectByName"
  | byIndex .. => "DirectByIndex"
  | thenConvert .. => "DirectThenConvert"
  | flatten _ => "Flatten"
  | unknown => "DecodeStep"

/-- The key of the column that is read, if a single one is. -/
def key? : Strategy M → Option Value
  | byName key _ | byIndex key _ | thenConvert key _ => some key
  | _ => none

/-- The decoder of the column that is read. -/
def decoder? : Strategy M → Option Transform
  | byName _ d | byIndex _ d | thenConvert _ d => d
  | _ => none

end Strategy

/-- One field of a plan. -/
structure Step (M : Type) where
  fieldName : Option String
  ordinal : Nat
  fieldType : TypeExpr
  /-- The type that is read from the row. -/
  sourceType : TypeExpr
  /-- The default for an absent column. -/
  default : Option Supply
  /-- The conversion from the source type to the field type. -/
  converter : Option Transform
  strategy : Strategy M
deriving Inhabited, Repr

/-- A compiled plan. -/
structure Plan (M : Type) where
  target : TypeExpr
  addressing : Addressing
  steps : List (Step M)
  requirements : List Requirement
  /-- The registry that compiled the plan, and how many plans it had compiled before: two plans are
  one object just when both agree. -/
  registry : String
  serial : Nat
deriving Inhabited, Repr

/-- What maps a whole row to an instance of a class. -/
inductive RowMapper where
  /-- The fields of the class, by their own plan. -/
  | plan (p : Plan RowMapper)
  /-- A hook of the class. -/
  | hook (owner : ClassRef) (h : Hook)
  /-- The mapping that a class inherits from a derived one: by the plan of `owner` itself, or else
  by whatever plan the registry has for it. -/
  | inherited (owner : ClassRef) (registry : String)
  /-- A hook by itself. -/
  | bare (h : Hook)

instance : Inhabited RowMapper := ⟨.bare .identity⟩

/-- A plan whose nested mappers are plans again. -/
abbrev DecodePlan := Plan RowMapper

/-- A step of such a plan. -/
abbrev DecodeStep := Step RowMapper

end RowDecoding
