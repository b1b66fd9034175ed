import RowDecoding.Failure.Basic
import RowDecoding.Value.Expression

/-!
# Building type expressions

Unions flatten the unions among their members and keep the first of equal members; one member alone
is no union. Of the two ways of writing a union the classic one prevails where it is mixed with the
other. The classic forms take a text for the name of a type and nothing for the type of nothing.
-/

namespace RowDecoding

namespace TypeExpr

mutual

/-- The members of a union, with those of the unions among them, or the type itself. -/
def members : TypeExpr → List TypeExpr
  | union _ ms => membersOf ms
  | t => [t]

/-- The members of several types. -/
def membersOf : List TypeExpr → List TypeExpr
  | [] => []
  | t :: rest => t.members ++ membersOf rest

end

/-- The types without those that equal an earlier one. -/
def distinct (types : List TypeExpr) : List TypeExpr :=
  (types.foldl (fun kept t => if kept.any (t.same ·) then kept else t :: kept) []).reverse

/-- The type of nothing, wherever nothing itself is written. -/
def ofNone : TypeExpr → TypeExpr
  | value .none => noneType
  | t => t

/-- A union of one or more types. -/
def ofMembers (form : UnionForm) (types : List TypeExpr) : TypeExpr :=
  match distinct (membersOf types) with
  | [t] => t
  | ms => union form ms

/-- The expression that a text writes where it stands for a type. -/
def readText (text : String) : Except Fault Expression :=
  if text.isEmpty then .error (Fault.raised .index "string index out of range")
  else
    match Expression.read? text with
    | some e => .ok e
    | none => .error (Fault.raised (.other "SyntaxError")
        ("Forward reference must be an expression -- got " ++ Text.quote text))

/-- The type that a text stands for, whatever that is later. -/
def ofText (text : String) : Except Fault TypeExpr :=
  (readText text).map fun _ => forward text

/-- What the classic forms make of an argument; `complaint` is what they say to a tuple of
things. -/
def classicArgument (complaint : String) : TypeExpr → Except Fault TypeExpr
  | value (.text s) => ofText s
  | value (.tuple items) =>
    .error (Fault.wrongType (complaint ++ " Got " ++ (Value.tuple items).shown ++ "."))
  | t => .ok t.ofNone

/-- Refuses types that can be no key. -/
def requireKeys (types : List TypeExpr) : Except Fault Unit :=
  match unhashableTypes? types with
  | some complaint => .error (Fault.wrongType complaint)
  | none => .ok ()

/-- A union in the classic form. -/
def classicUnion (types : List TypeExpr) : Except Fault TypeExpr := do
  if types.isEmpty then throw (Fault.wrongType "Cannot take a Union of no types.")
  let types ← types.mapM (classicArgument "Union[arg, ...]: each arg must be a type.")
  requireKeys (membersOf types)
  pure (ofMembers .classic types)

/-- A type or nothing, in the classic form. -/
def classicOptional (t : TypeExpr) : Except Fault TypeExpr := do
  let t ← classicArgument "typing.Optional requires a single type." t
  classicUnion [t, noneType]

/-- Expressions of the classic forms: they accept anything beside a bar. -/
def isClassic : TypeExpr → Bool
  | union .classic _ | tupleOf .classic _ | literal _ | annotated .. | forward _ => true
  | _ => false

/-- How a thing is called that cannot stand beside a bar. -/
def operandName : TypeExpr → String
  | value v => v.fullTypeName
  | t => t.fullKindName

/-- Things that are no types, nothing itself apart. -/
def isForeign : TypeExpr → Bool
  | value .none => false
  | value _ => true
  | _ => false

/-- Nothing itself. -/
def isNone : TypeExpr → Bool
  | value .none => true
  | _ => false

/-- A union of two types, written with a bar. -/
def bar (a b : TypeExpr) : Except Fault TypeExpr :=
  if a.isClassic || b.isClassic then classicUnion [a, b]
  else if a.isForeign || b.isForeign || (a.isNone && b.isNone) then
    .error (Fault.wrongType ("unsupported operand type(s) for |: '" ++ a.operandName ++
      "' and '" ++ b.operandName ++ "'"))
  else .ok (ofMembers .bar [a.ofNone, b.ofNone])

/-- A union of several types, written with bars. -/
def bars : List TypeExpr → Except Fault TypeExpr
  | [] => classicUnion []
  | t :: rest => rest.foldlM bar t

/-- A classic tuple type. -/
def classicTuple (items : List TypeExpr) : Except Fault TypeExpr :=
  (items.mapM (classicArgument "Tuple[t0, t1, ...]: each t must be a type.")).map (tupleOf .classic)

/-- A type with markers; the markers of an annotated type come first. -/
def annotate (base : TypeExpr) (markers : List Value) : Except Fault TypeExpr :=
  match base with
  | annotated inner before => .ok (annotated inner (before ++ markers))
  | t =>
    (classicArgument "Annotated[t, ...]: t must be a type." t).map fun t => annotated t markers

/-- The choices without those that equal an earlier one of the same class, unless one of them can
be no key. -/
def distinctChoices (choices : List Value) : List Value :=
  if (unhashableValues? choices).isSome then choices
  else
    let same (a b : Value) : Bool := a.typeName == b.typeName && a.equal b
    (choices.foldl (fun kept v => if kept.any (same v) then kept else v :: kept) []).reverse

/-- A literal type; literal types among the choices stand for their own choices. -/
def ofChoices (choices : List Value) : TypeExpr :=
  literal (distinctChoices (choices.flatMap fun
    | .type (literal inner) => inner
    | v => [v]))

/-- What remains of a union with nothing among its members. -/
def optionalInner? (t : TypeExpr) : Option TypeExpr :=
  match t with
  | union _ ms =>
    let ms := membersOf ms
    if ms.any (·.same noneType) then
      some (ofMembers .classic (ms.filter fun m => !m.same noneType))
    else none
  | _ => none

/-- The class that a type is made from by giving arguments, if defaults can be known for it; a type
without arguments is made from nothing. -/
def originKey? : TypeExpr → Option TypeExpr
  | listOf _ => some (builtin .list)
  | setOf _ => some (builtin .set)
  | frozensetOf _ => some (builtin .frozenset)
  | dictOf .. => some (builtin .dict)
  | tupleOf .. | tupleOfAny _ => some (builtin .tuple)
  | union .. | literal _ | annotated .. => none
  | _ => some (value .none)

/-- Whether a type is made by giving arguments. -/
def hasOrigin : TypeExpr → Bool
  | builtin _ | declared _ | forward _ | value _ => false
  | _ => true

/-- Tuple types. -/
def isTupleAlias : TypeExpr → Bool
  | tupleOf .. | tupleOfAny _ => true
  | _ => false

end TypeExpr

end RowDecoding
