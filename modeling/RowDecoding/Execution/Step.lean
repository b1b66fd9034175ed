import RowDecoding.Execution.Cell
import RowDecoding.Instance.Construct

/-!
# Running plans

A plan runs over one row: its steps in order, and the target is constructed once all of them have
succeeded. The first failure ends the run. A failure that says that a column is absent is replaced
by the default of the step, if it has one; any other failure of the row gets the name of the field
whose step failed, unless a step within has named it already.
-/

namespace RowDecoding

/-! ### Transforms -/

/-- The member of an enumeration that a value is or stands for. -/
def memberOrSelf (c : ClassRef) : ValueCall := fun v => do
  Run.lift (Instance.asMember (← get).classes c v)

/-- The value that a check of its structure accepts. -/
def validateStructure (l : Level) (t : TypeExpr) (strict : Bool) : ValueCall := fun v => do
  let table := (← get).classes
  match table.structureOf t with
  | .error o => throw (o.failure t : Failure)
  | .ok resolved =>
    match ← l.check table (some strict) CheckSettings.standard Bounds.none resolved v with
    | .ok fit => pure fit.value
    | .error issues => throw (.invalid issues)

/-- Runs a decoder, a converter or a part of one. -/
def Transform.run (l : Level) : Transform → ValueCall
  | .passthrough => fun v => pure v
  | .decode s => fun v => Run.lift (s.decode v)
  | .decodeBool fromInt => fun v => Run.lift (RowDecoding.decodeBool fromInt v)
  | .convert c => fun v => Run.lift (c.apply v)
  | .hook owner h => fun v => l.hook owner h v
  | .nullable inner => fun v =>
    match v with
    | .none => pure .none
    | _ => inner.run l v
  | .member c => memberOrSelf c
  | .validate t strict => validateStructure l t strict

/-! ### Steps -/

/-- What a failed decoder becomes: failures of the row stay, and those that say that the value does
not fit become a mismatch. That describes the type, which fails if the type cannot be written. -/
def decodingFailure (s : DecodeStep) (key : Value) (f : Failure) : Failure :=
  if f.isRow then f
  else if f.isValue || f.isType then
    if s.sourceType.isUnwritable then Fault.tooLongToWrite
    else .row (.mismatch key (.text s.sourceType.describe) (.text f.message)) none (some f)
  else f

/-- What a failed converter becomes: failures of the row stay, those of the value or of computing
with it become a failed conversion. That describes both types. -/
def conversionFailure (s : DecodeStep) (f : Failure) : Failure :=
  if f.isRow then f
  else if f.isValue || f.isType || f.isArithmetic then
    if s.sourceType.isUnwritable || s.fieldType.isUnwritable then Fault.tooLongToWrite
    else .row (.conversion (.text s.sourceType.describe) (.text s.fieldType.describe)
      (.text f.message)) none (some f)
  else f

/-- The result of a computation, its failure changed. -/
def Run.mapFailure {α : Type} (change : Failure → Failure) (m : Run α) : Run α :=
  tryCatch m fun f => throw (change f)

/-- Decodes what was read under a key. -/
def decodeRaw (l : Level) (s : DecodeStep) (key raw : Value) : Run Value :=
  match s.strategy.decoder? with
  | none => pure raw
  | some t => (t.run l raw).mapFailure (decodingFailure s key)

/-- Converts what was decoded. -/
def convertDecoded (l : Level) (s : DecodeStep) (v : Value) : Run Value :=
  match s.converter with
  | none => pure v
  | some t => (t.run l v).mapFailure (conversionFailure s)

/-- Maps the whole row. -/
def mapWhole (l : Level) (mapper : Option RowMapper) (row : Value) : Run Value :=
  match mapper with
  | some m => l.mapRow m row
  | none => throw (Failure.wrongType "'NoneType' object is not callable")

/-- What a step makes of a row, before defaults. -/
def attempt (l : Level) (s : DecodeStep) (row : Value) : Run Value := do
  match s.strategy with
  | .flatten mapper => convertDecoded l s (← mapWhole l mapper row)
  | .unknown => throw (Failure.wrongType ("Unknown decode step: " ++ s.strategy.title))
  | .byName key _ | .byIndex key _ | .thenConvert key _ =>
    let raw ← Cell.read l key row
    let v ← decodeRaw l s key raw
    convertDecoded l s v

/-- What becomes of a failed step: its default if a column is absent, or the failure with the name
of the field. -/
def recover (l : Level) (s : DecodeStep) (f : Failure) : Run Value :=
  match f.isAbsence, s.default with
  | true, some supply => l.supply supply
  | _, _ => throw (f.named s.fieldName)

/-- Runs one step. -/
def runStep (l : Level) (s : DecodeStep) (row : Value) : Run Value :=
  tryCatch (attempt l s row) (recover l s)

/-! ### Plans -/

/-- What a failed construction becomes: a target that refuses its fields is a mismatch. -/
def constructionFailure (target : TypeExpr) (f : Failure) : Failure :=
  match f with
  | .invalid _ =>
    if target.isUnwritable then Fault.tooLongToWrite
    else .row (.mismatch .none (.text target.describe) (.text f.message)) none (some f)
  | _ => f

/-- The keyword arguments for the fields of a plan; a later field of a name takes the place of an
earlier one. -/
def keywordsOf (steps : List DecodeStep) (values : List Value) : Bindings :=
  (steps.zip values).foldl
    (fun bound (s, v) => Attributes.put bound (s.fieldName.getD "") v)
    []

/-- Makes the target of its fields: by name or by position, or a tuple if it is no class. -/
def makeTarget (l : Level) (p : DecodePlan) (values : List Value) : Run Value :=
  let made : Run Value :=
    match p.addressing with
    | .byName =>
      if p.steps.all (·.fieldName.isSome) then l.construct p.target [] (keywordsOf p.steps values)
      else throw (Failure.wrongType "keywords must be strings")
    | .byPosition =>
      if p.target.isClass then l.construct p.target values [] else pure (.tuple values)
  made.mapFailure (constructionFailure p.target)

/-- Runs a plan over a row that is adapted already. -/
def executeOn (l : Level) (p : DecodePlan) (row : Value) : Run Value := do
  let values ← p.steps.mapM fun s => runStep l s row
  makeTarget l p values

/-- Runs a plan over a row. -/
def execute (l : Level) (p : DecodePlan) (row : Value) : Run Value := do
  executeOn l p (← Cell.rowOf row)

/-! ### Mapping whole rows -/

/-- The plan of a class: the one that a derivation attached to it, or else the one that a registry
has for it. -/
def planOf (c : ClassRef) (registry : String) : Run DecodePlan := do
  match ((← get).classes.info c).plan with
  | some p => pure p
  | none => Session.planFor registry (.declared c)

/-- Maps a row. -/
def RowMapper.run (l : Level) : RowMapper → ValueCall
  | .plan p => execute l p
  | .hook owner h => l.hook (some owner) h
  | .inherited owner registry => fun row => do
    execute l (← planOf owner registry) row
  | .bare h => l.hook none h

end RowDecoding
