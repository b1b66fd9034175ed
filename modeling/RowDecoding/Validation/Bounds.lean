import RowDecoding.Validation.Structure
import RowDecoding.Value.Order

/-!
# Bounds

A field may have a least value and a greatest length. Where its type has an order or a length, the
check of the type looks at the bound as well; anywhere else the accepted value is compared or
measured as it is, and one that cannot be is a failure. Where nothing is allowed, nothing has no
bounds.
-/

namespace RowDecoding

open Number

/-- What a field bounds its values by. -/
structure Bounds where
  /-- The least value. -/
  least : Option Value
  /-- The greatest length. -/
  longest : Option Nat
deriving Inhabited

/-- No bounds. -/
def Bounds.none : Bounds := ⟨Option.none, Option.none⟩

namespace Check

/-! ### Least values -/

/-- How the decimal text of a double is laid out where it has no exponent. -/
def positional : Binary64.Layout := ⟨-400, 400, 2⟩

/-- A double in digits, without an exponent and without a fraction that is zero. -/
def plainDouble (x : Binary64) : String :=
  match x with
  | .finite negative m e =>
    let text := Binary64.magnitudeText positional m e
    let text := if text.endsWith ".0" then (text.dropEnd 2).toString else text
    (if negative then "-" else "") ++ text
  | .nan => "NaN"
  | other => other.text

/-- A point in time as it is written in messages. -/
def momentText (t : Calendar.Timestamp) : String :=
  match t.clock.offset with
  | some 0 => ({ t with clock := { t.clock with offset := none } }).text ++ "Z"
  | _ => t.text

/-- How a bound is written for values of a type, if it is of a kind that can be. -/
def boundText? (b : Builtin) (least : Value) : Option String :=
  match b with
  | .int => least.asInt?.map decimalText
  | .float => (numberOf? least).map plainDouble
  | .decimal =>
    match least.toDecimal with
    | .ok d => some d.text
    | .error _ => none
  | .datetime => match least with | .datetime t => some (momentText t) | _ => none
  | .date => match least with | .date d => some d.text | _ => none
  | .time => match least with | .time c => some c.text | _ => none
  | _ => none

/-- How a bound is written for values of any class. -/
def anyBoundText? (least : Value) : Option String :=
  match least, least.asText? with
  | _, some s => some s
  | .float x, _ => some (plainDouble x)
  | .decimal _, _ => (numberOf? least).map plainDouble
  | _, _ => least.asInt?.map decimalText

/-- The verdict on a value that is too small. -/
def tooSmall (bound : String) : Verdict :=
  .reject "greater_than_equal" ("Input should be greater than or equal to " ++ bound)

/-- The types with an order of their own. -/
def isOrdered : Builtin → Bool
  | .int | .float | .decimal | .datetime | .date | .time => true
  | _ => false

/-- A moment without its offset. -/
def withoutOffset : Value → Value
  | .datetime t => .datetime { t with clock := { t.clock with offset := none } }
  | .time c => .time { c with offset := none }
  | v => v

/-- Whether a value of a type with an order is at least as great as a bound. Numbers are compared
across their kinds, and moments by their offsets if both have one. -/
def isAtLeast (v least : Value) : Bool :=
  match v.magnitude?, least.magnitude? with
  | some m, some n => Value.numberAtLeast m n
  | _, _ =>
    match v.atLeast? least with
    | .ok (some found) => found
    | _ => ((withoutOffset v).atLeast? (withoutOffset least)).toOption.join.getD true

/-- An accepted value of a type with an order, compared with the bound. -/
def orderedAtLeast (b : Builtin) (least : Value) (fit : Fit) : Verdict :=
  match b, fit.value.asInt? with
  | .int, none => oversized
  | _, _ =>
    match boundText? b least with
    | none => .ok fit
    | some bound => if isAtLeast fit.value least then .ok fit else tooSmall bound

/-- The failure of a value that a bound cannot be applied to. -/
def inapplicable (bound : String) (v : Value) : Failure :=
  Failure.wrongType ("Unable to apply constraint '" ++ bound ++ "' to supplied value " ++ v.plain)

/-- An accepted value of any class, compared with the bound. -/
def anyAtLeast (least : Value) (fit : Fit) : Run Verdict := do
  match ← Run.lift (fit.value.atLeast? least), anyBoundText? least with
  | some true, _ => pure (.ok fit)
  | some false, some bound => pure (tooSmall bound)
  | _, _ => throw (inapplicable "ge" fit.value)

/-! ### Greatest lengths -/

/-- How many characters or parts a value has. -/
def extent? (v : Value) : Option Nat :=
  match v, v.asText?, v.asSequence? with
  | _, some s, _ => some s.length
  | _, _, some items => some items.length
  | .binary _ bytes, _, _ => some bytes.length
  | .set items, _, _ | .frozenset items, _, _ => some items.length
  | .dict entries, _, _ => some entries.length
  | .row .fetched _ cells, _, _ => some cells.length
  | _, _, _ => none

/-- An accepted value of any class, measured. -/
def anyWithin (longest : Nat) (fit : Fit) : Run Verdict :=
  match extent? fit.value with
  | none => throw (inapplicable "max_length" fit.value)
  | some n => pure (if longest < n then tooLong "Value" longest n else .ok fit)

/-- An accepted value of a type with a length, measured; `refuse` is the verdict on one that is too
long. -/
def measured (longest : Nat) (refuse : Nat → Verdict) (fit : Fit) : Run Verdict :=
  pure (match extent? fit.value with
    | some n => if longest < n then refuse n else .ok fit
    | none => .ok fit)

/-- Binary data that are too long. -/
def tooManyBytes (longest : Nat) : Verdict :=
  .reject "bytes_too_long" ("Data should have at most " ++ digits longest ++ " byte" ++
    plural longest)

/-! ### Both -/

/-- A check whose accepted values are looked at once more. -/
def followed (check : ValueCheck) (next : Fit → Run Verdict) : ValueCheck := fun v => do
  match ← check v with
  | .error issues => pure (.error issues)
  | .ok fit => next fit

/-- The check of a type whose values may have a greatest length. -/
def limited (table : ClassTable) (record : CheckSettings → ClassRef → ValueCheck)
    (s : CheckSettings) (longest : Nat) (t : TypeExpr) : ValueCheck :=
  let check := type table record s
  let most := some longest
  match t with
  | .builtin .str => builtin { s with longest := most } .str
  | .builtin .bytes => followed (check t) (measured longest fun _ => tooManyBytes longest)
  | .builtin .list => container s.strict most .list
  | .builtin .tuple => container s.strict most .tuple
  | .builtin .set => container s.strict most .set
  | .builtin .frozenset => container s.strict most .frozenset
  | .listOf item => eachElement .list s.strict most (check item)
  | .setOf item => eachElement .set s.strict most (check item)
  | .frozensetOf item => eachElement .frozenset s.strict most (check item)
  | .tupleOfAny item => eachElement .tuple s.strict most (check item)
  | .tupleOf _ items =>
    eachPosition s.strict most ((typesOf table record s items).map (·.2))
  | .builtin .dict | .dictOf .. =>
    followed (check t) (measured longest (tooLong "Dictionary" longest))
  | _ => followed (check t) (anyWithin longest)

/-- The check of a type whose values may have a greatest length if `longest` says so. -/
def limitedBy (table : ClassTable) (record : CheckSettings → ClassRef → ValueCheck)
    (s : CheckSettings) (longest : Option Nat) (t : TypeExpr) : ValueCheck :=
  match longest with
  | some most => limited table record s most t
  | none => type table record s t

/-- The check of a type within bounds, where nothing is not allowed. -/
def boundedValue (table : ClassTable) (record : CheckSettings → ClassRef → ValueCheck)
    (s : CheckSettings) (bounds : Bounds) (t : TypeExpr) : ValueCheck :=
  match bounds.least with
  | none => limitedBy table record s bounds.longest t
  | some least =>
    let compared : ValueCheck :=
      match t with
      | .builtin b =>
        if isOrdered b then
          followed (builtin s b) fun fit => pure (orderedAtLeast b least fit)
        else followed (builtin s b) (anyAtLeast least)
      | _ => followed (type table record s t) (anyAtLeast least)
    match bounds.longest with
    | none => compared
    | some most => followed compared (anyWithin most)

/-- What remains of a type without nothing, and whether that was allowed. -/
def withoutNothing (t : TypeExpr) : TypeExpr × Bool :=
  match t.optionalInner? with
  | some inner => (inner, true)
  | none => (t, false)

/-- The check of a type within bounds. -/
def bounded (table : ClassTable) (record : CheckSettings → ClassRef → ValueCheck)
    (s : CheckSettings) (bounds : Bounds) (t : TypeExpr) : ValueCheck :=
  let (inner, optional) := withoutNothing t
  let check := boundedValue table record s bounds (splitAnnotated inner).1
  if optional then nullable check else check

end Check

end RowDecoding
