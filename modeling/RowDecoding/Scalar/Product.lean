import RowDecoding.Number.Rounded
import RowDecoding.Scalar.Number

/-!
# Products

What a whole number times a value is. Numbers are multiplied within their kind, a length of time
becomes longer, and what has elements in order is repeated; nothing else can be multiplied.
-/

namespace RowDecoding

open Calendar Number

namespace Value

/-- A double times another one. -/
def timesDouble : Binary64 → Binary64 → Binary64
  | .nan, _ | _, .nan => .nan
  | .infinite s, .infinite t => .infinite (s != t)
  | .infinite s, .finite t m _ | .finite t m _, .infinite s =>
    if m == 0 then .nan else .infinite (s != t)
  | .finite s m e, .finite t k f =>
    let (num, den) := Binary64.ratio (m * k) (e + f)
    Binary64.ofRatio (s != t) num den

/-- A length of time that is not too long. -/
def duration (d : Duration) : Except Fault Value :=
  if d.days < -2147483648 || 2147483647 < d.days then
    .error (Fault.raised .overflow "Python int too large to convert to C int")
  else if d.days < -Duration.mostDays || Duration.mostDays < d.days then
    .error (Fault.raised .overflow ("days=" ++ decimalText d.days ++
      "; must have magnitude <= " ++ decimalText Duration.mostDays))
  else .ok (.timedelta d)

/-- A decimal result. -/
def ofComputation : Except DecimalSignal Decimal → Except Fault Value
  | .ok d => .ok (.decimal d)
  | .error .undefined => .error Fault.undefinedOperation
  | .error .overflow =>
    .error (Fault.raised (.other "Overflow") "[<class 'decimal.Overflow'>]")

/-- The most elements that anything has. -/
def mostElements : Nat := 9223372036854775807

/-- Elements so many times. -/
def repeated {α : Type} (n : Int) (items : List α) : Except Fault (List α) :=
  if !fitsWord n then
    .error (Fault.raised .overflow "cannot fit 'int' into an index-sized integer")
  else if mostElements < n.toNat * items.length then
    .error ⟨.other "MemoryError", []⟩
  else if items.isEmpty then .ok []
  else .ok (List.replicate n.toNat items).flatten

/-- The whole number `n`, which is what `v` stands for, times a factor. -/
def timesWhole (v : Value) (n : Int) (factor : Value) : Except Fault Value :=
  match factor.asInt?, factor.asText?, factor with
  | some k, _, _ => .ok (.int (n * k))
  | _, some s, _ => (repeated n s.toList).map fun cs => .text (String.ofList cs)
  | _, _, .float x => (nearestDouble n).map fun y => .float (timesDouble y x)
  | _, _, .decimal d => ofComputation (d.times n)
  | _, _, .timedelta d => duration ⟨n * d.microseconds⟩
  | _, _, .list items => (repeated n items).map .list
  | _, _, .binary .bytes bytes => (repeated n bytes).map (.binary .bytes)
  | _, _, .binary .bytearray bytes => (repeated n bytes).map (.binary .bytearray)
  | _, _, _ =>
    match factor.asSequence? with
    | some items => (repeated n items).map .tuple
    | Option.none => .error (Fault.wrongType ("unsupported operand type(s) for *: '" ++
        v.fullTypeName ++ "' and '" ++ factor.fullTypeName ++ "'"))

end Value

end RowDecoding
