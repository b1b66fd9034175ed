import RowDecoding.Instance.Builtin
import RowDecoding.Instance.Fields

/-!
# Constructing instances

What a call of a class makes. The arguments reach the fields of a record by the rules of calls,
fields without an argument get their defaults, and the hook that a class has for new instances runs
last. A validating class takes keyword arguments only and checks them.
-/

namespace RowDecoding

namespace Instance

/-- What the fields of a new instance hold: arguments, or else defaults. -/
def fill (l : Level) (bound : Bindings) : List FieldDeclaration → Run Bindings
  | [] => pure []
  | f :: rest => do
    match (if f.inConstructor then bound.lookup f.name else none), f.default with
    | some v, _ => return (f.name, v) :: (← fill l bound rest)
    | none, some s => do
      let v ← l.supply s
      return (f.name, v) :: (← fill l bound rest)
    | none, none => fill l bound rest

/-- Runs the hook of a class for new instances. -/
def announce (l : Level) (table : ClassTable) (c : ClassRef) (hookName : String) (v : Value) :
    Run Unit := do
  match table.attribute? c hookName with
  | some (.hook h) => let _ ← l.hook (some c) h v
  | _ => pure ()

/-- The arguments of a call that also hands over the instance itself. -/
def bindInstance (title : String) (maker : Constructor) (positional : List Value)
    (keywords : Bindings) : Except Fault Bindings :=
  Call.bind title (⟨maker.receiver, .ordinary, true⟩ :: maker.signature) (.none :: positional)
    keywords

/-- An instance from the arguments of a constructor. -/
def makeBy (l : Level) (table : ClassTable) (c : ClassRef) (maker : Constructor)
    (positional : List Value) (keywords : Bindings) : Run Value := do
  let operation :=
    match maker.making with
    | .positions => ".__new__()"
    | _ => ".__init__()"
  let bound ← Run.lift (bindInstance (maker.owner ++ operation) maker positional keywords)
  let v := Value.record c (← fill l bound maker.parameters)
  match maker.making with
  | .fields => announce l table c "post_init" v
  | .written (some h) => let _ ← l.hook (some c) h v
  | .written none | .positions => pure ()
  pure v

/-- The class of checked records that a class is or comes from, with the names that its fields have
by now; a name that stands for nothing is a failure. -/
def completed (table : ClassTable) (info : ClassInfo) : Except Fault ClassInfo :=
  match table.completed info with
  | .ok info => .ok info
  | .error name => .error (Fault.incompleteClass info.ref.name name)

/-- A record of a validating class. -/
def makeModel (l : Level) (table : ClassTable) (info : ClassInfo) (positional : List Value)
    (keywords : Bindings) : Run Value := do
  if !positional.isEmpty then
    throw (Failure.wrongType ("BaseModel.__init__() takes 1 positional argument but " ++
      Number.digits (positional.length + 1) ++ " were given"))
  let info ← Run.lift (completed table info)
  modify fun s => { s with classes := s.classes.update info.ref fun _ => info }
  match ← checkModelEntries l table none .lax info.ref info
      (keywords.map fun (k, v) => (.text k, v)) with
  | .ok fit => pure fit.value
  | .error issues => throw (.invalid issues)

/-- Whether a value cannot even be compared with a member of an enumeration: an undefined number
that calls for attention cannot be with any number. -/
def isIncomparable (table : ClassTable) (c : ClassRef) : Value → Bool
  | .decimal (.nan _ true _) => (table.info c).members.any fun (_, payload) =>
      payload.magnitude?.isSome
  | _ => false

/-- The member of an enumeration that a value stands for. -/
def memberFor (table : ClassTable) (c : ClassRef) (v : Value) : Except Fault Value :=
  match table.memberOf? c v with
  | some m => .ok m
  | none =>
    .error (if isIncomparable table c v then Fault.undefinedOperation
      else if v.isUnwritable then Fault.tooLongToWrite
      else Fault.wrongValue (v.shown ++ " is not a valid " ++ c.name))

/-- The value itself if it is an instance of an enumeration, or else the member that it stands for.
-/
def asMember (table : ClassTable) (c : ClassRef) (v : Value) : Except Fault Value :=
  if Check.isInstance table c v then .ok v else memberFor table c v

/-- A member of an enumeration from arguments. -/
def makeMember (table : ClassTable) (c : ClassRef) (positional : List Value) :
    Except Fault Value :=
  match positional with
  | [v] => memberFor table c v
  | [] => refuseCall "EnumType.__call__() missing 1 required positional argument: 'value'"
  | _ => refuseCall ("EnumType.__call__() takes from 2 to 3 positional arguments but " ++
      Number.digits (positional.length + 1) ++ " were given")

/-- A whole number of a class of its own. -/
def makeWhole (c : ClassRef) (positional : List Value) : Except Fault Value :=
  match positional with
  | [] => .ok (.whole c 0)
  | [v] => v.toWhole.map (.whole c)
  | _ => refuseCall ("int() takes at most 2 arguments (" ++ Number.digits positional.length ++
      " given)")

/-- An instance of a class without a constructor of its own. -/
def makeBare (c : ClassRef) (positional : List Value) (keywords : Bindings) :
    Except Fault Value :=
  match c.form with
  | .wholeNumber => makeWhole c positional
  | .extension .any => .ok (.record c [])
  | .extension b => (makeBuiltin b positional keywords).map fun v => .record c [("", v)]
  | _ =>
    if positional.isEmpty && keywords.isEmpty then .ok (.record c [])
    else refuseCall (c.name ++ "() takes no arguments")

/-- An instance of a declared class. What stands in the place of a constructor is called where there
is none, and after one that fills positions. -/
def makeDeclared (l : Level) (table : ClassTable) (c : ClassRef) (positional : List Value)
    (keywords : Bindings) : Run Value := do
  let info := table.info c
  match c.form, info.replaced, info.constructor? with
  | .enumeration _, _, _ => Run.lift (makeMember table c positional)
  | _, none, some maker => makeBy l table c maker positional keywords
  | _, some v, some maker => do
    match maker.making with
    | .positions => let _ ← makeBy l table c maker positional keywords
    | _ => pure ()
    throw (Failure.notCallable v)
  | _, some v, none => throw (Failure.notCallable v)
  | .model _, none, none => makeModel l table info positional keywords
  | _, none, none => Run.lift (makeBare c positional keywords)

/-- The class whose instances the instances of a type are. -/
def classOf : TypeExpr → TypeExpr
  | .listOf _ => .builtin .list
  | .setOf _ => .builtin .set
  | .frozensetOf _ => .builtin .frozenset
  | .dictOf .. => .builtin .dict
  | .tupleOf .. | .tupleOfAny _ => .builtin .tuple
  | .annotated base _ => base
  | t => t

/-- An instance of a type. -/
def construct (l : Level) (t : TypeExpr) (positional : List Value) (keywords : Bindings) :
    Run Value := do
  match classOf t with
  | .builtin b => Run.lift (makeBuiltin b positional keywords)
  | .declared c => makeDeclared l (← get).classes c positional keywords
  | .value v => throw (Failure.notCallable v)
  | .union .bar _ => throw (Failure.wrongType "'types.UnionType' object is not callable")
  | other => throw (Failure.wrongType ("Cannot instantiate " ++ other.shown))

/-- The fields that the instances of a class have. -/
def fieldsOf (table : ClassTable) (c : ClassRef) : List FieldDeclaration :=
  match table.schemaOf? c, (table.info c).constructor? with
  | some schema, _ => schema.fields
  | none, some maker => maker.parameters
  | none, none => []

/-- An instance of a class with given fields. The other fields get their defaults; nothing is
checked, and no hook runs. Of a built-in class under another name it is the first value, if that
class has one. -/
def restore (l : Level) (c : ClassRef) (given : Bindings) : Run Value := do
  let fields ← fill l given
    ((fieldsOf (← get).classes c).map fun f => { f with inConstructor := true })
  match c.form, makeBare c [] [] with
  | .extension _, .ok v => pure v
  | _, _ => pure (.record c fields)

/-! ### Checking records -/

/-- A record of a class that is made from entries without a constructor; the hook for new instances
runs as well. -/
def announced (l : Level) (table : ClassTable) (c : ClassRef) (verdict : Verdict) :
    Run Verdict := do
  match verdict with
  | .error _ => pure verdict
  | .ok fit =>
    try
      announce l table c "post_init" fit.value
      pure verdict
    catch e => verdictOfFailure e

/-- The arguments of a tuple class: by position out of a sequence, by name out of a dictionary. -/
def argumentsOf (v : Value) : Option (List Value × List (Value × Value)) :=
  match v, v.asSequence? with
  | .dict entries, _ => some ([], entries)
  | _, some items => some (items, [])
  | _, _ => none

/-- The verdict on one argument of a tuple class. -/
def checkArgument (l : Level) (table : ClassTable) (mode : Option Bool) (s : CheckSettings)
    (c : ClassRef) (positional : List Value) (named : List (Value × Value)) (f : FieldDeclaration)
    (i : Nat) : Run Verdict := do
  let check := checkField l table mode s c f
  match positional[i]?, named.find? fun (k, _) => k.asText? == some f.name with
  | some v, _ => return (← check v).at_ (.int i)
  | none, some (_, v) => return (← check v).at_ (.text f.name)
  | none, none =>
    match f.default with
    | some supply => do
      let verdict ← checkDefault s check (← l.supply supply)
      pure (verdict.at_ (.text f.name))
    | none =>
      pure ((Verdict.reject "missing_argument" "Missing required argument").at_ (.text f.name))

/-- The issues about positional arguments that a tuple class does not take. -/
def surplusPositions (count : Nat) (positional : List Value) : List Issue :=
  (positional.drop count).zipIdx.map fun (_, i) =>
    ⟨[.int ((count + i : Nat) : Int)], "unexpected_positional_argument",
      "Unexpected positional argument"⟩

/-- An instance of a tuple class. -/
def checkTupleClass (l : Level) (table : ClassTable) (mode : Option Bool) (s : CheckSettings)
    (c : ClassRef) (info : ClassInfo) : ValueCheck := fun v => do
  match argumentsOf v with
  | none => pure (.reject "arguments_type" "Arguments must be a tuple, list or a dictionary")
  | some (positional, named) =>
    let names := info.fields.map (·.name)
    let verdicts ← info.fields.zipIdx.mapM fun (f, i) =>
      checkArgument l table mode s c positional named f i
    match Verdict.allIssues verdicts ++ surplusPositions names.length positional ++
        surplusIssues names (some unexpectedKeyword) named with
    | [] =>
      pure (Verdict.whole (fun values => .record c (names.zip values)) .exact verdicts)
    | issues => pure (.error issues)

/-- A value against a class with fields. A validating class has settings of its own; the others go
by those around them. -/
def checkRecord (l : Level) (mode : Option Bool) (s : CheckSettings) (c : ClassRef) :
    ValueCheck := fun v => do
  let table := (← get).classes
  match table.schemaOf? c with
  | none => Check.anything v
  | some info =>
    match info.ref.form with
    | .namedTuple => checkTupleClass l table mode s c info v
    | .model _ =>
      if Check.isInstance table c v then checkModelInstance l table mode c info v
      else checkModelInput l table mode c info v
    | _ =>
      if Check.isInstance table c v then pure (.exactly v)
      else if s.strict then
        pure (.reject "dataclass_exact_type" ("Input should be an instance of " ++ c.name))
      else
        match v with
        | .dict entries => do
          announced l table c (← checkRecordEntries l table mode s c info entries)
        | _ => pure (.reject "dataclass_type"
            ("Input should be a dictionary or an instance of " ++ c.name))

end Instance

end RowDecoding
