import RowDecoding.Instance.Arguments
import RowDecoding.Scalar.Number

/-!
# Instances of the classes of numbers

Whole numbers, doubles and decimal numbers made by a call. A whole number is read from a text in a
base if one is given; a double is made a decimal number without any rounding.
-/

namespace RowDecoding

open Number

namespace Instance

/-- The base that a value asks for. -/
def baseOf (base : Value) : Except Fault Nat :=
  match base.asInt? with
  | some n =>
    if n == 0 || (2 ≤ n && n ≤ 36) then .ok n.toNat
    else .error (Fault.wrongValue "int() base must be >= 2 and <= 36, or 0")
  | none => .error (Fault.notWhole base)

/-- The whole number that a text writes in a base. -/
def readInBase (base v : Value) : Except Fault Int := do
  let base ← baseOf base
  match v.asText?, v with
  | some s, _ => Value.readWhole base v.shown s.toList
  | none, .binary .memoryview _ =>
    throw (Fault.wrongType "int() can't convert non-string with explicit base")
  | none, .binary _ bytes => Value.readWholeBytes base bytes
  | none, _ => throw (Fault.wrongType "int() can't convert non-string with explicit base")

/-- A whole number from the arguments of a call. -/
def wholeOf (positional : List Value) (keywords : Bindings) : Except Fault Int := do
  let a : Arguments := ⟨"int()", "int()", ["", "base"], positional, keywords⟩
  a.checkCount
  a.checkNames
  match a.at? 0, a.at? 1 with
  | some v, none => v.toWhole
  | some v, some base => readInBase base v
  | none, some _ => throw (Fault.wrongType "int() missing string argument")
  | none, none => pure 0

/-- A double from the arguments of a call. -/
def doubleOf (positional : List Value) (keywords : Bindings) : Except Fault Binary64 := do
  match ← onlyArgument "float" positional keywords with
  | some v => v.toDouble
  | none => pure (Binary64.ofInt 0)

/-- The decimal number that a value is, to the last digit. -/
def exactDecimal (v : Value) : Except Fault Decimal :=
  match v, v.asText? with
  | .float x, _ => .ok (Decimal.ofBinary64 x)
  | _, some s =>
    match Decimal.parse? s.toList with
    | some d => .ok d
    | none => .error (if Decimal.isLiteral s.toList then Fault.undefinedOperation
        else Fault.decimalSyntax)
  | _, none => v.toDecimal

/-- A decimal number from the arguments of a call. -/
def decimalOf (positional : List Value) (keywords : Bindings) : Except Fault Decimal := do
  let a := Arguments.ofUntitled ["value", "context"] positional keywords
  a.checkCount
  a.checkNames
  match a.at? 1 with
  | none | some .none =>
    match a.at? 0 with
    | some v => exactDecimal v
    | none => pure Decimal.zero
  | some _ => throw (Fault.wrongType "optional argument must be a context")

end Instance

end RowDecoding
