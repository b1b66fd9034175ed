import RowDecoding.Execution.Level
import RowDecoding.Instance.Attribute
import RowDecoding.Schema.Structure

/-!
# Fields of instances

What the fields of a record class hold. A validating class checks each value that is given: first
against the type of the field and its bounds, then by the hook of the field. Values that are not
given are replaced by defaults. The values come from a dictionary, from an instance that is checked
once more, or from what an instance of another class says of itself.
-/

namespace RowDecoding

namespace Instance

/-- The type of a field, without markers and with every name looked up. -/
def fieldType (table : ClassTable) (f : FieldDeclaration) : TypeExpr :=
  let t := (f.declaredType.getD .any).ofNone
  let t := match table.lookUp t with | .ok r => r | .error _ => t
  (splitAnnotated t).1

/-! ### Checks -/

/-- What the failure of a hook says about the value that it was given; other failures than those of
the value pass through. -/
def verdictOfFailure (f : Failure) : Run Verdict :=
  match f with
  | .invalid issues => pure (.error issues)
  | .fault ⟨.assertion, _⟩ =>
    pure (.reject "assertion_error" ("Assertion failed, " ++ f.message))
  | _ =>
    if f.isValue then pure (.reject "value_error" ("Value error, " ++ f.message)) else throw f

/-- The hook of a field on a value that satisfies everything else. -/
def validated (l : Level) (c : ClassRef) (f : FieldDeclaration) (fit : Fit) : Run Verdict :=
  match f.validator with
  | none => pure (.ok fit)
  | some h => do
    try
      let v ← l.hook (some c) h fit.value
      pure (.ok { fit with value := v })
    catch e => verdictOfFailure e

/-- A value given for a field. -/
def checkField (l : Level) (table : ClassTable) (mode : Option Bool) (s : CheckSettings)
    (c : ClassRef) (f : FieldDeclaration) : ValueCheck := fun v => do
  match ← l.check table mode s ⟨f.least, f.longest⟩ (fieldType table f) v with
  | .error issues => pure (.error issues)
  | .ok fit => validated l c f fit

/-- The names under which a field is taken, the first one before the others. -/
def takenUnder (s : CheckSettings) (f : FieldDeclaration) : List String :=
  match f.alternative with
  | none => [f.name]
  | some a =>
    if !s.byAlternative then [f.name]
    else if s.byOwnName then [a, f.name]
    else [a]

/-- What was given for a field, and under which name. -/
def given? (s : CheckSettings) (f : FieldDeclaration) (entries : List (Value × Value)) :
    Option (String × Value) :=
  if !f.inConstructor then none
  else
    (takenUnder s f).findSome? fun name =>
      (entries.find? fun (k, _) => k.asText? == some name).map fun (_, v) => (name, v)

/-- The name that issues with a field stand at, which was taken under another one or not at all. -/
def placeOf (s : CheckSettings) (f : FieldDeclaration) (taken : Option String) : Value :=
  .text (if s.placesByOwnName then f.name
    else taken.getD ((takenUnder s f).headD f.name))

/-- The verdict on a default, which is taken as it is unless the settings ask for more. -/
def checkDefault (s : CheckSettings) (check : ValueCheck) (v : Value) : Run Verdict :=
  if s.checksDefaults then check v else pure (.accept v .exact)

/-- The verdict on one field of a record, given or not, with the place that it is reported at. -/
def checkEntry (l : Level) (table : ClassTable) (mode : Option Bool) (s : CheckSettings)
    (info : ClassInfo) (entries : List (Value × Value)) (f : FieldDeclaration) :
    Run (Option String × Verdict) := do
  let check := checkField l table mode s info.ref f
  match given? s f entries with
  | some (name, v) => do
    let verdict ← check v
    pure (some name, verdict.at_ (placeOf s f (some name)))
  | none => do
    let place := placeOf s f none
    match f.default with
    | some supply => do
      let verdict ← checkDefault s check (← l.supply supply)
      pure (none, verdict.at_ place)
    | none => pure (none, Check.missing.at_ place)

/-- The issues about keys that belong to no field, of which `taken` are the names: a key that is no
text is always wrong, and `refusal` is what is said to another one, if anything. -/
def surplusIssues (taken : List String) (refusal : Option (String × String))
    (entries : List (Value × Value)) : List Issue :=
  entries.filterMap fun (k, _) =>
    match k.asText? with
    | none => some ⟨[k.asPlace], "invalid_key", "Keys should be strings"⟩
    | some name =>
      if taken.contains name then none
      else refusal.map fun (rule, message) => ⟨[k.asPlace], rule, message⟩

/-- A record made from entries, if they are all accepted, with the number of fields that were given
to it and to its parts. It fits no better than `exactness`, and `surplus` tells the issues about
keys besides the names that were taken. A field that no constructor takes and that has no default is
left out. -/
def checkEntries (l : Level) (table : ClassTable) (mode : Option Bool) (s : CheckSettings)
    (exactness : Exactness) (c : ClassRef) (info : ClassInfo) (surplus : List String → List Issue)
    (entries : List (Value × Value)) : Run Verdict := do
  let fields := info.fields.filter fun f => f.inConstructor || f.default.isSome
  let results ← fields.mapM (checkEntry l table mode s info entries)
  let taken := results.filterMap (·.1)
  match surplus taken, Verdict.whole
      (fun values => .record c ((fields.map (·.name)).zip values)) exactness
      (results.map (·.2)) with
  | [], .ok fit =>
    pure (.ok { fit with fieldsGiven := Verdict.together (some taken.length) fit.fieldsGiven })
  | issues, verdict => pure (.error (Verdict.issues verdict ++ issues))

/-- A record of a validating class made from entries. Keys that belong to no field are looked at
unless they are ignored. -/
def checkModelEntries (l : Level) (table : ClassTable) (mode : Option Bool)
    (exactness : Exactness) (c : ClassRef) (info : ClassInfo) (entries : List (Value × Value)) :
    Run Verdict :=
  let s := info.settings.inMode mode
  let surplus (taken : List String) : List Issue :=
    match s.surplus with
    | .ignored => []
    | .forbidden =>
      surplusIssues taken (some ("extra_forbidden", "Extra inputs are not permitted")) entries
    | .kept => surplusIssues taken none entries
  checkEntries l table mode s exactness c info surplus entries

/-- Whether fields can be taken from what a value says of itself. -/
def saysFields (v : Value) : Bool :=
  moduleOf (ownClass v) != "builtins"

/-- What a value says of itself under the names of the fields of a class. -/
def attributeEntries (table : ClassTable) (info : ClassInfo) (v : Value) : List (Value × Value) :=
  (info.fields.flatMap (takenUnder info.settings)).filterMap fun name =>
    (attribute? table name v).map fun x => (.text name, x)

/-- A value that is no instance of a validating class, checked against it. -/
def checkModelInput (l : Level) (table : ClassTable) (mode : Option Bool) (c : ClassRef)
    (info : ClassInfo) (v : Value) : Run Verdict :=
  match v with
  | .dict entries => checkModelEntries l table mode .lax c info entries
  | _ =>
    if !info.settings.takesAttributes then
      pure (.reject "model_type"
        ("Input should be a valid dictionary or instance of " ++ c.name))
    else if saysFields v then
      checkEntries l table mode (info.settings.inMode mode) .lax c info (fun _ => [])
        (attributeEntries table info v)
    else
      pure (.reject "model_attributes_type"
        "Input should be a valid dictionary or object to extract fields from")

/-- Whether an instance of the class `d` is checked once more where one of the class `c` is
expected. -/
def isRechecked (s : CheckSettings) (c d : ClassRef) : Bool :=
  match s.rechecked with
  | .none => false
  | .derived => d != c
  | .all => true

/-- An instance of a validating class or of one derived from it. -/
def checkModelInstance (l : Level) (table : ClassTable) (mode : Option Bool) (c : ClassRef)
    (info : ClassInfo) (v : Value) : Run Verdict :=
  match v with
  | .record d fields =>
    if isRechecked info.settings c d then
      checkModelEntries l table mode .exact c info (fields.map fun (name, x) => (.text name, x))
    else pure (.exactly v)
  | _ => pure (.exactly v)

/-- What is said to an argument that has a name of no parameter. -/
def unexpectedKeyword : String × String :=
  ("unexpected_keyword_argument", "Unexpected keyword argument")

/-- A record of a class that validates for others only, made from entries by the settings around
it. -/
def checkRecordEntries (l : Level) (table : ClassTable) (mode : Option Bool) (s : CheckSettings)
    (c : ClassRef) (info : ClassInfo) (entries : List (Value × Value)) : Run Verdict := do
  let surplus (taken : List String) : List Issue :=
    surplusIssues taken (if s.surplus == .forbidden then some unexpectedKeyword else none) entries
  return (← checkEntries l table mode s .exact c info surplus entries).noBetterThan .strict

end Instance

end RowDecoding
