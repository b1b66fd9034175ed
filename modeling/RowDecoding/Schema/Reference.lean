import RowDecoding.Schema.Class
import RowDecoding.Scalar.Moment

/-!
# Names in types

What a text stands for where a type is expected. The text writes an expression, and names in it are
looked up in a scope: for the fields of a class, the classes declared by then and, after them, the
built-in ones. A text may stand anywhere in a type, and within what another text writes.
-/

namespace RowDecoding

/-- What names stand for. -/
abbrev Scope := String → Option TypeExpr

/-! ### Built-in names -/

/-- The built-in classes that are types of values here. -/
def namedBuiltins : List (String × TypeExpr) :=
  [("None", .noneType), ("int", .builtin .int), ("float", .builtin .float), ("str", .builtin .str),
    ("bytes", .builtin .bytes), ("bool", .builtin .bool), ("object", .builtin .object),
    ("list", .builtin .list), ("dict", .builtin .dict), ("set", .builtin .set),
    ("frozenset", .builtin .frozenset), ("tuple", .builtin .tuple)]

/-- The built-in classes that no value here is an instance of. -/
def otherBuiltins : List String :=
  ["bytearray", "classmethod", "complex", "enumerate", "filter", "map", "memoryview", "property",
    "range", "reversed", "slice", "staticmethod", "super", "type", "zip",
    "ArithmeticError", "AssertionError", "AttributeError", "BaseException", "BaseExceptionGroup",
    "BlockingIOError", "BrokenPipeError", "BufferError", "BytesWarning", "ChildProcessError",
    "ConnectionAbortedError", "ConnectionError", "ConnectionRefusedError", "ConnectionResetError",
    "DeprecationWarning", "EOFError", "EncodingWarning", "Exception", "ExceptionGroup",
    "FileExistsError", "FileNotFoundError", "FloatingPointError", "FutureWarning", "GeneratorExit",
    "ImportError", "ImportWarning", "IndentationError", "IndexError", "InterruptedError",
    "IsADirectoryError", "KeyError", "KeyboardInterrupt", "LookupError", "MemoryError",
    "ModuleNotFoundError", "NameError", "NotADirectoryError", "NotImplementedError", "OSError",
    "OverflowError", "PendingDeprecationWarning", "PermissionError", "ProcessLookupError",
    "RecursionError", "ReferenceError", "ResourceWarning", "RuntimeError", "RuntimeWarning",
    "StopAsyncIteration", "StopIteration", "SyntaxError", "SyntaxWarning", "SystemError",
    "SystemExit", "TabError", "TimeoutError", "TypeError", "UnboundLocalError",
    "UnicodeDecodeError", "UnicodeEncodeError", "UnicodeError", "UnicodeTranslateError",
    "UnicodeWarning", "UserWarning", "ValueError", "Warning", "ZeroDivisionError"]

/-- What a built-in name stands for. Another name for a fault of the system stands for that. -/
def builtinScope : Scope := fun name =>
  match namedBuiltins.lookup name with
  | some t => some t
  | none =>
    if name == furtherThings.name then some (.declared furtherThings) else
    let name := if name == "EnvironmentError" || name == "IOError" then "OSError" else name
    if otherBuiltins.contains name then some (.declared ⟨name, 0, .blank⟩) else none

/-- The member of an enumeration that a name with a part stands for. -/
def ClassTable.partOf? (table : ClassTable) (name : String) : Option Value :=
  match name.splitOn "." with
  | [owner, part] => (table.bound? owner).bind fun c => table.memberNamed? c part
  | _ => none

/-- The names in the fields of classes. -/
def ClassTable.scope (table : ClassTable) : Scope := fun name =>
  match table.bound? name, table.partOf? name with
  | some c, _ => some (.declared c)
  | none, some v => some (.value v)
  | none, none => builtinScope name

/-- The names in types that stand outside of classes. -/
def openScope : Scope := fun name =>
  match name with
  | "date" => some (.builtin .date)
  | "datetime" => some (.builtin .datetime)
  | "time" => some (.builtin .time)
  | "Decimal" => some (.builtin .decimal)
  | "uuid.UUID" => some (.builtin .uuid)
  | "Any" | "typing.Any" => some .any
  | _ => builtinScope name

/-! ### Evaluating expressions -/

/-- The failure of a name that stands for nothing. -/
def undefinedName (name : String) : Fault :=
  Fault.raised .name ("name '" ++ name ++ "' is not defined")

/-- A type with arguments. -/
def TypeExpr.applied (owner : TypeExpr) (arguments : List TypeExpr) : Except Fault TypeExpr :=
  match owner, arguments with
  | .builtin .list, [t] => .ok (.listOf t)
  | .builtin .set, [t] => .ok (.setOf t)
  | .builtin .frozenset, [t] => .ok (.frozensetOf t)
  | .builtin .dict, [k, v] => .ok (.dictOf k v)
  | .builtin .tuple, items => .ok (.tupleOf .plain items)
  | .builtin b, _ => .error (Fault.wrongType ("type '" ++ b.fullName ++ "' is not subscriptable"))
  | .declared c, _ => .error (Fault.wrongType ("type '" ++ c.name ++ "' is not subscriptable"))
  | .value (.text _), [t] => .error (Fault.wrongType
      ("string indices must be integers, not '" ++ t.toValue.typeName ++ "'"))
  | .value (.text _), _ => .error (Fault.wrongType "string indices must be integers, not 'tuple'")
  | .value v, _ => .error (Fault.wrongType
      ("'" ++ v.fullTypeName ++ "' object is not subscriptable"))
  | t, _ => .error (Fault.wrongType (t.nested ++ " is not a generic class"))

mutual

/-- What an expression stands for. A name with a part is looked up as a whole first. -/
def Expression.evaluate (scope : Scope) : Expression → Except Fault TypeExpr
  | .reference name =>
    match scope name with
    | some t => .ok t
    | none => .error (undefinedName name)
  | .constant v => .ok (.value v)
  | .further => .ok (.declared furtherThings)
  | .part owner name => do
    let whole :=
      match owner with
      | .reference first => scope (first ++ "." ++ name)
      | _ => none
    match whole with
    | some t => pure t
    | none =>
      let t ← owner.evaluate scope
      throw (t.toValue.lacksAttribute name)
  | .index owner [item, .further] => do
    let t ← owner.evaluate scope
    let i ← item.evaluate scope
    match t with
    | .builtin .tuple => pure (.tupleOfAny i)
    | _ => t.applied [i]
  | .index owner arguments => do
    let t ← owner.evaluate scope
    t.applied (← Expression.evaluateAll scope arguments)
  | .bar a b => do
    let s ← a.evaluate scope
    let t ← b.evaluate scope
    s.bar t
  | .tuple items => return .value (.tuple ((← Expression.evaluateAll scope items).map (·.toValue)))
  | .list items => return .value (.list ((← Expression.evaluateAll scope items).map (·.toValue)))

/-- What several expressions stand for. -/
def Expression.evaluateAll (scope : Scope) : List Expression → Except Fault (List TypeExpr)
  | [] => pure []
  | e :: rest => return (← e.evaluate scope) :: (← Expression.evaluateAll scope rest)

end

mutual

/-- The names in an expression, in order. A name with a part counts as a whole if the scope knows
that. -/
def Expression.names (scope : Scope) : Expression → List String
  | .reference name => [name]
  | .constant _ | .further => []
  | .part owner name =>
    match owner with
    | .reference first => if (scope (first ++ "." ++ name)).isSome then [] else [first]
    | _ => owner.names scope
  | .index owner arguments => owner.names scope ++ Expression.namesOfAll scope arguments
  | .bar a b => a.names scope ++ b.names scope
  | .tuple items | .list items => Expression.namesOfAll scope items

/-- The names in several expressions. -/
def Expression.namesOfAll (scope : Scope) : List Expression → List String
  | [] => []
  | e :: rest => e.names scope ++ Expression.namesOfAll scope rest

end

/-! ### Looking up -/

mutual

/-- A type with every text in it replaced by what it stands for. -/
def TypeExpr.withTexts (meaning : String → Except Fault TypeExpr) :
    TypeExpr → Except Fault TypeExpr
  | .forward text => meaning text
  | .value (.text s) => meaning s
  | .union form members => do
    let members ← TypeExpr.allWithTexts meaning members
    match form with
    | .bar => pure (TypeExpr.ofMembers .bar members)
    | .classic => TypeExpr.classicUnion members
  | .listOf t => return .listOf (← t.withTexts meaning)
  | .setOf t => return .setOf (← t.withTexts meaning)
  | .frozensetOf t => return .frozensetOf (← t.withTexts meaning)
  | .dictOf k v => return .dictOf (← k.withTexts meaning) (← v.withTexts meaning)
  | .tupleOf form items => return .tupleOf form (← TypeExpr.allWithTexts meaning items)
  | .tupleOfAny t => return .tupleOfAny (← t.withTexts meaning)
  | .annotated base markers => return .annotated (← base.withTexts meaning) markers
  | t => pure t

/-- Several types with every text in them replaced by what it stands for. -/
def TypeExpr.allWithTexts (meaning : String → Except Fault TypeExpr) :
    List TypeExpr → Except Fault (List TypeExpr)
  | [] => pure []
  | t :: rest => return (← t.withTexts meaning) :: (← TypeExpr.allWithTexts meaning rest)

end

mutual

/-- The texts in a type, in order. -/
def TypeExpr.texts : TypeExpr → List String
  | .forward text => [text]
  | .value v =>
    match v with
    | .text s => [s]
    | _ => []
  | .union _ members => textsOfTypes members
  | .listOf t | .setOf t | .frozensetOf t | .tupleOfAny t => t.texts
  | .dictOf k v => k.texts ++ v.texts
  | .tupleOf _ items => textsOfTypes items
  | .annotated base _ => base.texts
  | .builtin _ | .declared _ | .literal _ => []

/-- The texts in several types. -/
def textsOfTypes : List TypeExpr → List String
  | [] => []
  | t :: rest => t.texts ++ textsOfTypes rest

end

/-- The first name in the texts of a type that stands for nothing. -/
def Scope.undefined? (scope : Scope) (t : TypeExpr) : Option String :=
  (t.texts.flatMap fun text =>
    ((Expression.read? text).map (·.names scope)).getD []).find? fun name => (scope name).isNone

/-- Refuses what an expression may stand for but no type can. -/
def TypeExpr.requireType (t : TypeExpr) : Except Fault TypeExpr :=
  match t with
  | .value (.tuple items) =>
    .error (Fault.wrongType ("Forward references must evaluate to types. Got " ++
      (Value.tuple items).shown ++ "."))
  | t => .ok t.ofNone

/-- What a text stands for. A text within what it writes is shorter, and takes one unit of fuel. -/
def Scope.meaningWithin (scope : Scope) : Nat → String → Except Fault TypeExpr
  | 0, text => .error (undefinedName text)
  | fuel + 1, text => do
    let e ← TypeExpr.readText text
    let t ← (← e.evaluate scope).requireType
    t.withTexts (scope.meaningWithin fuel)

/-- A type with every text in it looked up. -/
def Scope.lookUp (scope : Scope) (t : TypeExpr) : Except Fault TypeExpr :=
  t.withTexts fun text => scope.meaningWithin (text.length + 1) text

/-- A type with every text in it looked up among the names in the fields of classes. -/
def ClassTable.lookUp (table : ClassTable) (t : TypeExpr) : Except Fault TypeExpr :=
  Scope.lookUp table.scope t

end RowDecoding
