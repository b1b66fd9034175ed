import RowDecoding.Execution.Cell
import RowDecoding.Failure.Stated
import RowDecoding.Instance.Construct
import RowDecoding.Scalar.Product

/-!
# Applying hooks

What each elementary hook does to a value. Hooks making instances or running plans ask the level
below.
-/

namespace RowDecoding

open Number

namespace Hook

/-- The failure of a hook that was given a value of another class. -/
def badArgument (name : String) : Fault :=
  Fault.wrongType (name ++ ": bad argument")

/-- The whole number that a value is or writes. -/
def readNumber (base : Option Value) (v : Value) : Except Fault Value :=
  match base, v.asInt?, v.asText? with
  | none, some n, _ => .ok (.int n)
  | none, none, some s => (Value.readWhole 10 v.shown s.toList).map .int
  | some b, _, some s => do
    let base ← Instance.baseOf b
    (Value.readWhole base v.shown s.toList).map .int
  | _, _, _ => .error (badArgument "int")

/-- A number times a factor. -/
def product (factor : Value) (v : Value) : Except Fault Value :=
  match v.asInt? with
  | none => .error (badArgument "mul")
  | some n => v.timesWhole n factor

/-- The text in capitals. -/
def capitals (v : Value) : Except Fault Value :=
  match v.asText? with
  | some s => .ok (.text (String.ofList (Text.upper s.toList)))
  | none => .error (badArgument "upper")

/-- The parts of a text between the places where another one stands; characters of such a place are
skipped, `pending` of them. The part under way comes last character first. -/
def splitAt (separator : List Char) : Nat → List Char → List Char → List (List Char)
  | _, under, [] => [under.reverse]
  | pending + 1, under, _ :: rest => splitAt separator pending under rest
  | 0, under, c :: rest =>
    if separator.isPrefixOf (c :: rest) then
      under.reverse :: splitAt separator (separator.length - 1) [] rest
    else splitAt separator 0 (c :: under) rest

/-- The words of a text between blanks. -/
def splitBlanks (cs : List Char) : List (List Char) :=
  (cs.splitOnP Text.isBlank).filter (!·.isEmpty)

/-- The parts of a text between separators. -/
def parts (separator : Value) (v : Value) : Except Fault Value :=
  let texts (found : List (List Char)) : Value :=
    .list (found.map fun cs => .text (String.ofList cs))
  match v.asText?, separator, separator.asText? with
  | none, _, _ => .error (badArgument "split")
  | some s, .none, _ => .ok (texts (splitBlanks s.toList))
  | some s, _, some sep =>
    if sep.isEmpty then .error (Fault.wrongValue "empty separator")
    else .ok (texts (splitAt sep.toList 0 [] s.toList))
  | _, _, none => .error (Fault.wrongType ("must be str or None, not " ++ separator.fullTypeName))

/-- Refuses a negative number in a value or in one of its attributes. -/
def refuseNegative (table : ClassTable) (name : Option String) (v : Value) :
    Except Fault Value := do
  let x ←
    match name with
    | some n => Instance.getAttribute table n v
    | none => pure v
  match x.asInt? with
  | none => throw (badArgument "nonneg")
  | some n =>
    if 0 ≤ n then pure v
    else if x.isUnwritable then throw Fault.tooLongToWrite
    else throw (Fault.wrongValue ("negative value " ++ x.plain))

/-- The class that a hook makes instances of: the one that it names, or its own. -/
def classFor (owner : Option ClassRef) (named : Option String) : Run TypeExpr := do
  match named, owner with
  | some name, _ => Session.typeNamed name
  | none, some c => pure (.declared c)
  | none, none => throw (Failure.raised .key "class")

/-- The elements of a value as the arguments of a call. -/
def spread (t : TypeExpr) (v : Value) : Except Fault (List Value) :=
  match v.elements? with
  | some items => .ok items
  | none =>
    let title := match t with | .declared c => c.qualifiedName | _ => t.describe
    .error (Fault.wrongType (title ++ "() argument after * must be an iterable, not " ++
      v.fullTypeName))

/-- One more than the number of calls so far. -/
def nextCount : Run Value := do
  let n := (← get).count + 1
  modify fun s => { s with count := n }
  pure (.int n)

mutual

/-- Applies a hook. -/
def apply (l : Level) (owner : Option ClassRef) : Hook → ValueCall
  | .identity => fun v => pure v
  | .constant c => fun _ => pure c
  | .readInt base => fun v => Run.lift (readNumber base v)
  | .text => fun v => Run.lift (Conversion.str.apply v)
  | .multiply factor => fun v => Run.lift (product factor v)
  | .upper => fun v => Run.lift (capitals v)
  | .split separator => fun v => Run.lift (parts separator v)
  | .part name => fun v => do
    Run.lift (Instance.getAttribute (← get).classes name v)
  | .construct named => fun v => do
    l.construct (← classFor owner named) [v] []
  | .make t => fun v => l.construct t [v] []
  | .constructSpread named => fun v => do
    let t ← classFor owner named
    l.construct t (← Run.lift (spread t v)) []
  | .constructFrom named attributes => fun v => do
    let t ← classFor owner named
    let table := (← get).classes
    l.construct t (← Run.lift (attributes.mapM fun name => Instance.getAttribute table name v)) []
  | .columnNamed name => Cell.named l name
  | .columnAt index => Cell.positioned l index
  | .nonNegative name => fun v => do
    Run.lift (refuseNegative (← get).classes name v)
  | .count => fun _ => nextCount
  | .note tag => fun v => do
    modify fun s => { s with notes := tag :: s.notes }
    pure v
  | .pipe hooks => applyAll l owner hooks
  | .run saved => fun v => do
    l.mapRow (.plan (← Session.savedPlan saved)) v
  | .fail failure => fun _ => throw failure

/-- Applies one hook after the other. -/
def applyAll (l : Level) (owner : Option ClassRef) : List Hook → ValueCall
  | [] => fun v => pure v
  | h :: rest => fun v => do
    applyAll l owner rest (← apply l owner h v)

end

end Hook

end RowDecoding
