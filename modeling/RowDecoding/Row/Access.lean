import RowDecoding.Scalar.Moment

/-!
# Rows

A row gives its cells by column name and by position. Dictionaries, sequences and database rows are
adapted to it. Both ways of reading answer with the same failure for a column that is absent, so
that absence can be told apart from bad data.
-/

namespace RowDecoding

namespace Row

/-! ### Making rows -/

/-- A row whose cells stand under keys. -/
def ofEntries (entries : List (Value × Value)) : Value :=
  .row .mapping (entries.map (·.1)) (entries.map (·.2))

/-- A row whose cells are in order. Column names have to be as many as the cells, unless there are
none. -/
def ofSequence (cells columns : List Value) : Except Fault Value :=
  if !columns.isEmpty && columns.length != cells.length then
    .error (Fault.wrongValue ("Row has " ++ Number.digits cells.length ++ " values but " ++
      Number.digits columns.length ++ " column names"))
  else .ok (.row .sequence columns cells)

/-- How a database stores a value: whole numbers and texts of every class as plain ones, an
undefined number as nothing, binary data of every kind as bytes, and dates and points in time as
texts. It refuses other values, by the position at which they are given, and whole numbers that 64
bits do not hold. -/
def stored (position : Nat) (v : Value) : Except Fault Value :=
  match v.asInt?, v.asText?, v with
  | some n, _, _ =>
    if Number.fitsWord n then .ok (.int n)
    else .error (Fault.raised .overflow "Python int too large to convert to SQLite INTEGER")
  | none, some s, _ => .ok (.text s)
  | none, none, .none => .ok .none
  | none, none, .float x => .ok (if v.isUndefined then .none else .float x)
  | none, none, .binary _ bytes => .ok (.binary .bytes bytes)
  | none, none, .date d => .ok (.text d.text)
  | none, none, .datetime t => .ok (.text (t.textWith " "))
  | none, none, v => .error (Fault.raised (.other "ProgrammingError")
      ("Error binding parameter " ++ Number.digits position ++ ": type '" ++ v.fullTypeName ++
        "' is not supported"))

/-- Refuses a query that no database understands: one for nothing, one with a null character in a
name, and one with more or fewer cells than names. -/
def checkQuery (columns cells : List Value) : Except Fault Unit :=
  let hasNull (c : Value) : Bool := (c.asText?.getD "").toList.any (·.toNat == 0)
  let misused (message : String) : Except Fault Unit :=
    .error (Fault.raised (.other "ProgrammingError") message)
  if columns.any hasNull then misused "the query contains a null character"
  else if columns.isEmpty then
    .error (Fault.raised (.other "OperationalError") "incomplete input")
  else if columns.length != cells.length then
    misused ("Incorrect number of bindings supplied. The current statement uses " ++
      Number.digits columns.length ++ ", and there are " ++ Number.digits cells.length ++
      " supplied.")
  else .ok ()

/-- The row that a database gives back for cells. -/
def ofCursor (columns cells : List Value) : Except Fault Value := do
  checkQuery columns cells
  return .row .fetched columns (← (cells.zipIdx 1).mapM fun (v, i) => stored i v)

/-- Adapts a value to a row: rows stay, dictionaries give their entries, and sequences other than
texts and byte strings their elements. -/
def adapt : Value → Except Fault Value
  | .row .fetched columns cells => .ok (.row .cursor columns cells)
  | .row form columns cells => .ok (.row form columns cells)
  | .dict entries => .ok (ofEntries entries)
  | .binary .memoryview bytes => ofSequence (bytes.map fun b => .int b.toNat) []
  | v =>
    match v.asSequence? with
    | some cells => ofSequence cells []
    | none => .error (Fault.wrongType ("Unsupported row type: " ++ v.typeName))

/-! ### Reading rows -/

/-- The cell below the first column that satisfies a test. -/
def firstCell? (test : Value → Bool) : List Value → List Value → Option Value
  | c :: columns, v :: cells => if test c then some v else firstCell? test columns cells
  | _, _ => none

/-- A text with small letters for the capital ones of ASCII. -/
def foldCase (text : String) : String :=
  String.ofList (text.toList.map Char.toLower)

/-- Whether a text has ASCII characters only. -/
def isAscii (text : String) : Bool :=
  text.toList.all fun c => c.toNat < 128

/-- Whether two column names of a database are the same; case is ignored in ASCII texts. -/
def sameName (a b : Value) : Bool :=
  match a.asText?, b.asText? with
  | some s, some t => s == t || (isAscii s && isAscii t && foldCase s == foldCase t)
  | _, _ => false

/-- The cell of a database row that a name stands for; a number counts cells, from the end if it is
negative. -/
def cursorCell? (name : Value) (columns cells : List Value) : Option Value :=
  match name.asInt? with
  | some i =>
    let i := if i < 0 then i + cells.length else i
    if i < 0 then none else cells[i.toNat]?
  | none => firstCell? (sameName name) columns cells

/-- A cell that has to be there under a key. -/
def found (key : Value) : Option Value → Except Failure Value
  | some v => .ok v
  | none => .error (Failure.absent key)

/-- The cell of a column by its name. -/
def cellNamed (name : Value) (row : Value) : Except Failure Value :=
  match row with
  | .row .fetched .. => .error (row.lacksAttribute "get_by_name")
  | .row .empty .. => .ok .none
  | .row .cursor columns cells => found name (cursorCell? name columns cells)
  | .row .foreign columns cells => found name (firstCell? (·.equal name) columns cells)
  | .row _ columns cells => do
    Fault.ofKey name
    found name (firstCell? (·.equal name) columns cells)
  | v => .error (v.lacksAttribute "get_by_name")

/-- Whether a number is not negative and below a count. -/
def isBelow (count : Nat) (index : Value) : Except Fault Bool :=
  match index.magnitude? with
  | none => .error (Fault.notComparable index)
  | some m =>
    match index, m with
    | .decimal _, .undefined => .error Fault.undefinedOperation
    | _, .undefined => .ok false
    | _, m => .ok (!m.isLess (.ofInt 0) && m.isLess (.ofInt count))

/-- What a row says of a number that is in range but not whole. -/
def notPosition (form : RowForm) (index : Value) : Fault :=
  let holder (name : String) : Fault :=
    Fault.wrongType (name ++ " indices must be integers or slices, not " ++ index.fullTypeName)
  match form with
  | .cursor => Fault.raised .index "Index must be int or string"
  | .sequence => holder "tuple"
  | _ => holder "list"

/-- The cell at a position; positions before the first are absent. -/
def cellAt (index : Value) (row : Value) : Except Failure Value :=
  match row with
  | .row .fetched .. => .error (row.lacksAttribute "get_by_index")
  | .row .empty .. => .ok .none
  | .row form _ cells => do
    if !(← isBelow cells.length index) then throw (Failure.absent index)
    match index.asInt? with
    | some i => found index cells[i.toNat]?
    | none => throw (notPosition form index : Failure)
  | v => .error (v.lacksAttribute "get_by_index")

/-- The cell that a key stands for: a number is a position, anything else a name. -/
def cell (key : Value) (row : Value) : Except Failure Value :=
  match key.asInt? with
  | some _ => cellAt key row
  | none => cellNamed key row

/-- The names of the columns, if the row knows them. -/
def columns? (v : Value) : Option (List Value) :=
  match v with
  | .row _ columns _ => if v.knowsColumns then some columns else none
  | _ => none

end Row

end RowDecoding
