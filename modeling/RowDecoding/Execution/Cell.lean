import RowDecoding.Execution.Level
import RowDecoding.Instance.Attribute
import RowDecoding.Row.Access

/-!
# Cells of rows of every making

Rows are adapted before they are read. An instance of a class that offers both ways of reading
itself is a row as it is; what it offers is called for each cell.
-/

namespace RowDecoding

namespace Cell

/-- The name of the operation that reads a cell by the name of its column. -/
def byName : String := "get_by_name"

/-- The name of the operation that reads a cell by its position. -/
def byIndex : String := "get_by_index"

/-- The hook that an instance has from its class under a name, with that class. -/
def hook? (table : ClassTable) (name : String) : Value → Option (ClassRef × Hook)
  | .record c _ | .whole c _ | .member c .. =>
    match table.attribute? c name with
    | some (.hook h) => some (c, h)
    | _ => none
  | _ => none

/-- Whether a value offers an operation under a name; nothing is no operation. -/
def offers (table : ClassTable) (v : Value) (name : String) : Bool :=
  match Instance.attribute? table name v with
  | some .none => false
  | some _ => true
  | none => (hook? table name v).isSome

/-- Whether a value is a row as it is. -/
def isRow (table : ClassTable) (v : Value) : Bool :=
  offers table v byName && offers table v byIndex

/-- The row that a value is or is adapted to. -/
def rowOf (v : Value) : Run Value := do
  if isRow (← get).classes v then pure v else Run.lift (Row.adapt v)

/-- Calls what a value offers under a name. -/
def call (l : Level) (name : String) (v argument : Value) : Run Value := do
  let table := (← get).classes
  match Instance.attribute? table name v, hook? table name v with
  | some (.type t), _ => l.construct t [argument] []
  | some other, _ => throw (Failure.notCallable other)
  | none, some (c, h) => l.hook (some c) h argument
  | none, none => throw (v.lacksAttribute name : Failure)

/-- The cell of a column by its name. -/
def named (l : Level) (name row : Value) : Run Value :=
  match row with
  | .row .. => Run.lift (Row.cellNamed name row)
  | _ => call l byName row name

/-- The cell at a position. -/
def positioned (l : Level) (index row : Value) : Run Value :=
  match row with
  | .row .. => Run.lift (Row.cellAt index row)
  | _ => call l byIndex row index

/-- The cell that a key stands for: a number is a position, anything else a name. -/
def read (l : Level) (key row : Value) : Run Value :=
  match row with
  | .row .. => Run.lift (Row.cell key row)
  | _ => call l (if key.asInt?.isSome then byIndex else byName) row key

end Cell

end RowDecoding
