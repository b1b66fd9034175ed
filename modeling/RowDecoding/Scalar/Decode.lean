import RowDecoding.Plan.Transform
import RowDecoding.Scalar.Moment
import RowDecoding.Scalar.Number

/-!
# Decoding and converting scalars

A *decoder* takes what a column may hold for a type: values of the type itself, unchanged, and the
few other forms in which databases hand such values over. Doubles and byte strings of a class of
their own lose that class. A *conversion* is looser; it makes a value of a type out of whatever it
can.
-/

namespace RowDecoding

/-- The failure of a decoder that was given a value of another class. -/
def expected (title : String) (v : Value) : Fault :=
  Fault.wrongType ("expected " ++ title ++ ", got " ++ v.typeName)

/-- The truth value that a number stands for. A signalling not-a-number cannot even be compared. -/
def truthOfNumber (v : Value) : Except Fault Value :=
  match v with
  | .decimal (.nan _ true _) =>
    .error (Fault.undefinedOperation)
  | _ =>
    if v.equal (.int 0) || v.equal (.int 1) then .ok (.bool v.isTrue)
    else if v.isUnwritable then .error Fault.tooLongToWrite
    else .error (Fault.wrongValue (v.plain ++ " is not 0 or 1"))

namespace Scalar

/-- The name of the type. -/
def title : Scalar → String
  | int => "int"
  | float => "float"
  | str => "str"
  | bytes => "bytes"
  | decimal => "Decimal"
  | datetime => "datetime"
  | date => "date"
  | time => "time"
  | uuid => "UUID"

/-- Whether a value is kept as one of the type. A truth value is no number, and a point in time no
date. Doubles and bytes are kept only if they are of no class of their own. -/
def holds (s : Scalar) (v : Value) : Bool :=
  match s, v, v.content with
  | int, _, _ => v.asInt?.isSome && !v.isBool
  | float, .float _, _ => true
  | str, _, _ => v.asText?.isSome
  | bytes, .binary .bytes _, _ => true
  | decimal, _, .decimal _ => true
  | datetime, _, .datetime _ => true
  | date, _, .date _ => true
  | time, _, .time _ => true
  | uuid, _, .uuid _ => true
  | _, _, _ => false

/-- Decodes a value that is not kept. -/
def decodeForeign (s : Scalar) (v : Value) : Except Fault Value :=
  let refusal : Except Fault Value := .error (expected s.title v)
  match s with
  | int | str => refusal
  | float =>
    match v.content, v.asInt?, v.isBool with
    | .float x, _, _ => .ok (.float x)
    | _, some n, false => (Value.nearestDouble n).map .float
    | _, _, _ => refusal
  | bytes =>
    match v.content with
    | .binary _ bs => .ok (.binary .bytes bs)
    | _ => refusal
  | decimal =>
    match v.content with
    | .float _ => v.toDecimal.map .decimal
    | _ =>
      if (v.asInt?.isSome && !v.isBool) || v.asText?.isSome then v.toDecimal.map .decimal
      else refusal
  | datetime =>
    if v.asText?.isSome then (v.readMoment Calendar.Timestamp.parse).map .datetime else refusal
  | date => if v.asText?.isSome then (v.readMoment Calendar.Date.parse).map .date else refusal
  | time => if v.asText?.isSome then (v.readMoment Calendar.Clock.parse).map .time else refusal
  | uuid =>
    match v.content with
    | .binary .memoryview _ => refusal
    | .binary _ bs => if bs.length == 16 then .ok (.uuid (Number.Uuid.ofBytes bs)) else refusal
    | _ => if v.asText?.isSome then v.toUuid.map .uuid else refusal

/-- Decodes a value; one that is kept stays as it is. -/
def decode (s : Scalar) (v : Value) : Except Fault Value :=
  if s.holds v then .ok v else s.decodeForeign v

/-- A value of the type is decoded to itself. -/
theorem decode_of_holds {s : Scalar} {v : Value} (h : s.holds v = true) : s.decode v = .ok v := by
  simp [decode, h]

end Scalar

/-- Decodes a truth value; numbers that stand for one do so only if `fromInt` allows it. -/
def decodeBool (fromInt : Bool) (v : Value) : Except Fault Value :=
  match v with
  | .bool b => .ok (.bool b)
  | _ => if fromInt && v.asInt?.isSome then truthOfNumber v else .error (expected "bool" v)

namespace Conversion

/-- Converts a value. -/
def apply (c : Conversion) (v : Value) : Except Fault Value :=
  match c with
  | int => v.toWhole.map .int
  | float => v.toDouble.map .float
  | str => if v.isUnwritable then .error Fault.tooLongToWrite else .ok (.text v.plain)
  | bool => truthOfNumber v
  | uuid => v.toUuid.map .uuid
  | decimal => v.toDecimal.map .decimal
  | datetime => (v.readMoment Calendar.Timestamp.parse).map .datetime
  | date => (v.readMoment Calendar.Date.parse).map .date
  | time => (v.readMoment Calendar.Clock.parse).map .time
  | epoch => v.toTimestamp.map .datetime

end Conversion

end RowDecoding
