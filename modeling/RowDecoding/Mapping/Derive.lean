import RowDecoding.Mapping.Mapper

/-!
# Derived classes

A derivation attaches to a class the plan that a registry has for it, and an operation mapping rows
to the class. Classes that inherit from a derived one have the operation too, with a plan of their
own. A convention that is given with the derivation becomes part of what the class says of itself.
-/

namespace RowDecoding

namespace Derive

/-- The class with a convention among what it says about all its fields. -/
def withConvention (table : ClassTable) (c : ClassRef) (convention : Value) :
    Except Failure ClassTable := do
  let config := (← containerOf table c).put "rename_all" convention
  pure (table.update c fun info => { info with config := some (.dict config) })

/-- The class with a plan and the operation that maps rows by it. -/
def withPlan (table : ClassTable) (c : ClassRef) (registry : String) (p : DecodePlan) :
    ClassTable :=
  table.update c fun info =>
    { info with
      plan := some p
      attributes := ("from_row", .rowMapping registry) :: info.attributes }

/-- Derives a row mapping for a class. The convention is noted before the plan is compiled and stays
noted if that fails. -/
def derive (c : ClassRef) (renameAll : Option Value) (registry : String) : Run Unit := do
  match renameAll with
  | some convention => do
    let table ← Run.lift (withConvention (← get).classes c convention)
    modify fun s => { s with classes := table }
  | none => pure ()
  let p ← Session.planFor registry (.declared c)
  modify fun s => { s with classes := withPlan s.classes c registry p }

/-- A derivation as it is asked for. -/
structure Request where
  renameAll : Option Value
  registry : String
deriving Inhabited

/-- Declares a class and derives its row mapping if asked to; its name is bound once all of that has
succeeded. -/
def declare (d : Declaration) (request : Option Request) : Run Unit := do
  let (table, c) ← Run.lift ((← get).classes.declare d)
  modify fun s => { s with classes := table }
  match request with
  | some r => derive c r.renameAll r.registry
  | none => pure ()
  modify fun s => { s with classes := s.classes.bind c }

/-- Maps a row by the mapping of a class. -/
def mapRow (c : ClassRef) (row : Value) : Run Value := do
  match (← get).classes.attribute? c "from_row" with
  | some (.hook h) => Level.top.hook (some c) h row
  | some (.rowMapping registry) => Level.top.mapRow (.inherited c registry) row
  | some (.value v) =>
    match (ClassAttribute.value v).function? with
    | some h => Level.top.hook (some c) h row
    | none => throw (Failure.notCallable v)
  | none => throw ((Value.type (.declared c)).lacksAttribute "from_row" : Failure)

/-- The plan that a derivation attached to a class itself. -/
def planOf (c : ClassRef) : Run DecodePlan := do
  match ((← get).classes.info c).plan with
  | some p => pure p
  | none => throw (Failure.raised .key "__row_plan__")

end Derive

end RowDecoding
