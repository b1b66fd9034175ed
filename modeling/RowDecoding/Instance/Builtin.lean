import RowDecoding.Instance.Identifier
import RowDecoding.Instance.Moment
import RowDecoding.Instance.Number
import RowDecoding.Instance.Text

/-!
# Instances of built-in classes

What a call of a built-in class makes: its first value without arguments, a conversion with one, and
whatever the arguments of the class say.
-/

namespace RowDecoding

namespace Instance

/-- A call with arguments that a class does not take. -/
def refuseCall (message : String) : Except Fault Value :=
  .error (Fault.wrongType message)

/-! ### Containers -/

/-- The elements of a value, which has to have some. -/
def elements (v : Value) : Except Fault (List Value) :=
  match v.elements? with
  | some items => .ok items
  | none => .error (Fault.notIterable v)

/-- The elements of a value as keys, each once. -/
def distinctElements (v : Value) : Except Fault (List Value) := do
  let items ← elements v
  items.forM Fault.ofKey
  pure (Value.distinct items)

/-- The elements of the only argument of a class of containers. -/
def elementsOf (title : String) (positional : List Value) (keywords : Bindings)
    (read : Value → Except Fault (List Value)) : Except Fault (List Value) := do
  match ← onlyArgument title positional keywords with
  | some v => read v
  | none => pure []

/-- The entry that an element of a sequence stands for: its two elements. -/
def entryOf (item : Value) (place : Nat) : Except Fault (Value × Value) :=
  let subject := "dictionary update sequence element #" ++ Number.digits place
  match item.elements? with
  | none => .error (Fault.wrongType ("cannot convert " ++ subject ++ " to a sequence"))
  | some [k, v] => do
    Fault.ofKey k
    pure (k, v)
  | some items => .error (Fault.wrongValue (subject ++ " has length " ++
      Number.digits items.length ++ "; 2 is required"))

/-- The entries of a dictionary, or those that the elements of another value stand for. -/
def entriesOf (v : Value) : Except Fault (List (Value × Value)) :=
  match v with
  | .dict entries => .ok entries
  | _ => do (← elements v).zipIdx.mapM fun (item, i) => entryOf item i

/-- A dictionary from the arguments of a call: the entries of the one that is given, and after them
the keyword arguments. -/
def dictOf (positional : List Value) (keywords : Bindings) : Except Fault Value := do
  let given ←
    match positional with
    | [] => pure []
    | [v] => entriesOf v
    | _ => throw (Fault.wrongType ("dict expected at most 1 argument, got " ++
        Number.digits positional.length))
  pure (.dict (Value.mergeEntries (given ++ keywords.map fun (k, v) => (.text k, v))))

/-! ### All classes -/

/-- An instance of the class that everything is an instance of. -/
def featureless : Value :=
  .record ⟨Builtin.object.name, 0, .blank⟩ []

/-- An instance of a built-in class. -/
def makeBuiltin (b : Builtin) (positional : List Value) (keywords : Bindings) :
    Except Fault Value :=
  match b with
  | .int => (wholeOf positional keywords).map .int
  | .float => (doubleOf positional keywords).map .float
  | .decimal => (decimalOf positional keywords).map .decimal
  | .str => textOf positional keywords
  | .bytes => (bytesOf positional keywords).map (.binary .bytes)
  | .bool => do
    match ← onlyArgument "bool" positional keywords with
    | some v => pure (.bool v.isTrue)
    | none => pure (.bool false)
  | .date => (dateOf positional keywords).map .date
  | .time => (clockOf positional keywords).map .time
  | .datetime => (timestampOf positional keywords).map .datetime
  | .uuid => (uuidOf positional keywords).map .uuid
  | .list => (elementsOf "list" positional keywords elements).map .list
  | .tuple => (elementsOf "tuple" positional keywords elements).map .tuple
  | .set => (elementsOf "set" positional keywords distinctElements).map .set
  | .frozenset => (elementsOf "frozenset" positional keywords distinctElements).map .frozenset
  | .dict => dictOf positional keywords
  | .any => refuseCall "Any cannot be instantiated"
  | .noneType =>
    if positional.isEmpty && keywords.isEmpty then .ok .none
    else refuseCall "NoneType takes no arguments"
  | .object =>
    if positional.isEmpty && keywords.isEmpty then .ok featureless
    else refuseCall "object() takes no arguments"

end Instance

end RowDecoding
