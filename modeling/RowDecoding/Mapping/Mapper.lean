import RowDecoding.Execution.Depth

/-!
# Mappers

A mapper is a plan with the operations on rows. It is compiled when it is made, so that whatever is
wrong with its target shows before the first row.
-/

namespace RowDecoding

namespace Mapper

/-- The directives that a mapper is made with. -/
def overridesOf (renameAll : Option Value) (fields : List (String × Attributes)) :
    Except Failure Overrides :=
  let start := match renameAll with
    | some c => Overrides.none.renameAll c
    | none => Overrides.none
  fields.foldlM (fun o (name, attributes) => o.field name attributes) start

/-- The plan of a mapper: that of its target, unless directives are given. -/
def compile (registry : String) (target : TypeExpr) (renameAll : Option Value)
    (fields : List (String × Attributes)) : Run DecodePlan := do
  if renameAll.isNone && fields.isEmpty then Session.planFor registry target
  else
    let _ ← Session.getRegistry registry
    Session.build registry target (← Run.lift (overridesOf renameAll fields))

/-- Maps one row. -/
def mapOne (p : DecodePlan) (row : Value) : Run Value :=
  execute Level.top p row

/-- Maps rows in turn; the first one that fails ends it. -/
def mapMany (p : DecodePlan) (rows : List Value) : Run Value := do
  return .list (← rows.mapM (mapOne p))

/-- Runs a single step of a plan over a row. -/
def runStepAt (p : DecodePlan) (index : Int) (row : Value) : Run Value := do
  let i := if index < 0 then index + p.steps.length else index
  match (if i < 0 then none else p.steps[i.toNat]?) with
  | some s => runStep Level.top s (← Cell.rowOf row)
  | none => throw (Failure.raised .index "tuple index out of range")

end Mapper

end RowDecoding
