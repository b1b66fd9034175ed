import RowDecoding.Number.Decimal

/-!
# Computing with decimal numbers

Results of computing with decimal numbers have at most twenty-eight digits, a half rounded to the
even neighbour, and an exponent within bounds. A result that is too large is refused, and one that
is too small loses its last digits. Not-a-number stays what it is, unless it is a signalling one.
-/

namespace RowDecoding.Number

/-- Why a computation has no result. -/
inductive DecimalSignal where
  /-- The operation is not defined for its operands. -/
  | undefined
  /-- The result is too large. -/
  | overflow
deriving DecidableEq, Repr, Inhabited

namespace Decimal

/-- The greatest number of digits of a result. -/
def precision : Nat := 28

/-- The greatest exponent of the leading digit of a result. -/
def resultGreatest : Int := 999999

/-- The least exponent of the last digit of a result. -/
def resultLeast : Int := -1000026

/-- The coefficient of `coefficient · 10^exponent` without so many of its last digits. -/
def withoutDigits (count coefficient : Nat) : Nat :=
  let length := (digits coefficient).length
  if length < count then 0 else Binary64.roundHalfEven coefficient (Nat.pow 10 count)

/-- How many digits of a result are too many, or too small. -/
def surplusDigits (coefficient : Nat) (exponent : Int) : Nat :=
  Nat.max ((digits coefficient).length - precision) (resultLeast - exponent).toNat

/-- A zero with its exponent within bounds. -/
def zeroWithin (negative : Bool) (exponent : Int) : Decimal :=
  .finite negative 0
    (if exponent < resultLeast then resultLeast
    else if resultGreatest < exponent then resultGreatest
    else exponent)

/-- The result `±coefficient · 10^exponent`. -/
def rounded (negative : Bool) (coefficient : Nat) (exponent : Int) :
    Except DecimalSignal Decimal :=
  if coefficient == 0 then .ok (zeroWithin negative exponent)
  else
    let surplus := surplusDigits coefficient exponent
    let n := withoutDigits surplus coefficient
    let e : Int := exponent + surplus
    let (n, e) := if n == Nat.pow 10 precision then (n / 10, e + 1) else (n, e)
    if resultGreatest < e + (digits n).length - 1 then .error .overflow
    else .ok (.finite negative n e)

/-- A whole number times a decimal one. -/
def times (n : Int) : Decimal → Except DecimalSignal Decimal
  | .nan _ true _ => .error .undefined
  | .nan negative false payload => .ok (.nan negative false (payload % Nat.pow 10 precision))
  | .infinite negative =>
    if n == 0 then .error .undefined else .ok (.infinite (negative != decide (n < 0)))
  | .finite negative coefficient exponent =>
    rounded (negative != decide (n < 0)) (n.natAbs * coefficient) exponent

end Decimal

end RowDecoding.Number
