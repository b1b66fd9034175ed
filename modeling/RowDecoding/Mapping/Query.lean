import RowDecoding.Mapping.Mapper

/-!
# Asking a registry

The questions that can be put to a registry directly: what decodes a type, what converts one type to
another, which default a type has, what maps a whole row to it, and whether it has a capability.
-/

namespace RowDecoding

namespace Query

/-- A computation in a registry with the classes of the session. -/
def within {α : Type} (registry : String) (m : ClassTable → Compile α) : Run α := do
  Session.inRegistry registry (m (← get).classes)

/-- The decoder of a type. -/
def decoder (registry : String) (t : TypeExpr) : Run (Option Transform) :=
  within registry fun table => Compile.decoderFor table t

/-- The conversion from one type to another. -/
def converter (registry : String) (source target : TypeExpr) : Run (Option Transform) :=
  within registry fun table => Compile.converterFor table source target

/-- The default of a type. -/
def default (registry : String) (t : TypeExpr) : Run (Option Supply) := do
  let r ← Session.getRegistry registry
  Run.lift (r.defaultFor (← get).classes t)

/-- What maps whole rows to a type. -/
def mapper (registry : String) (t : TypeExpr) : Run (Option RowMapper) :=
  within registry fun table => Compile.mapperFor (Compile.answers table) table t

/-- Whether types have a capability that is given as a value. -/
def satisfies (registry : String) (capability : Value) (types : List TypeExpr) : Run Bool := do
  match Failure.capabilityOf capability with
  | some c =>
    within registry fun table => Compile.satisfies (Compile.answers table) table ⟨c, types⟩
  | none => throw (Failure.wrongValue ("Unknown capability: " ++ capability.shown))

/-- Whether a type can be decoded, stands for column values, and can be mapped from rows. -/
structure Support where
  decode : Bool
  typeCompatible : Bool
  nested : Bool
deriving DecidableEq, Repr

/-- What a type can do. -/
def supports (registry : String) (t : TypeExpr) : Run Support := do
  let d ← decoder registry t
  let m ← mapper registry t
  pure ⟨d.isSome, d.isSome, m.isSome⟩

end Query

end RowDecoding
