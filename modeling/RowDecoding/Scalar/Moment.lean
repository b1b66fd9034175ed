import RowDecoding.Scalar.Number
import RowDecoding.Value.Union

/-!
# Dates, times and identifiers out of values

Dates, times and points in time are read from texts; a point in time is also made from a number of
seconds. What is wrong with a text is told apart: it has no such form, or one of its numbers is out
of its range.
-/

namespace RowDecoding

open Calendar Number

/-- What is wrong with the text of a date or time. -/
def Calendar.CalendarError.message (shown : String) : CalendarError → String
  | .malformed => "Invalid isoformat string: " ++ shown
  | .year y => "year " ++ decimalText y ++ " is out of range"
  | .month => "month must be in 1..12"
  | .day => "day is out of range for month"
  | .hour => "hour must be in 0..23"
  | .minute => "minute must be in 0..59"
  | .second => "second must be in 0..59"
  | .offset days seconds microseconds =>
    "offset must be a timedelta strictly between -timedelta(hours=24) and " ++
      "timedelta(hours=24), not " ++
      (Duration.ofParts days seconds microseconds).shown ++ "."

namespace Value

/-- Reads a date or time from a kind of text. -/
def readMoment {α : Type} (parse : String → Except CalendarError α) (v : Value) :
    Except Fault α :=
  match v.asText? with
  | .none => .error (Fault.wrongType "fromisoformat: argument must be str")
  | some s =>
    match parse s with
    | .ok a => .ok a
    | .error e => .error (Fault.wrongValue (e.message v.shown))

/-- Seconds beyond what the clock of the host can count. -/
def secondsTooLarge : Fault :=
  Fault.raised .overflow "timestamp out of range for platform time_t"

/-- The point in universal time a number of seconds after the first of January 1970. -/
def atSeconds (seconds : Int) : Except Fault Timestamp :=
  match Timestamp.ofEpochSeconds seconds with
  | .ok t => .ok t
  | .error .secondsTooLarge => .error secondsTooLarge
  | .error .yearTooLarge =>
    .error ⟨.system, [.int 75, .text "Value too large for defined data type"]⟩
  | .error (.year year) =>
    .error (Fault.wrongValue ("year " ++ decimalText year ++ " is out of range"))

/-- A double as whole seconds, rounded towards zero, and the microseconds beyond them: the fraction
times a million is rounded to a double first and then to a whole number, halves to even. -/
def secondsAndMicroseconds (negative : Bool) (mantissa : Nat) (exponent : Int) : Int × Nat :=
  let (num, den) := Binary64.ratio mantissa exponent
  let whole : Int := num / den
  let micros :=
    match Binary64.ofRatio false (num % den * 1000000) den with
    | .finite _ m e =>
      let (num, den) := Binary64.ratio m e
      Binary64.roundHalfEven num den
    | _ => 0
  let (whole, micros) := if micros == 1000000 then (whole + 1, 0) else (whole, micros)
  if !negative then (whole, micros)
  else if micros == 0 then (-whole, 0)
  else (-whole - 1, 1000000 - micros)

/-- The point in universal time that a number of seconds stands for. -/
def toTimestamp (v : Value) : Except Fault Timestamp :=
  match v.asInt? with
  | some n => atSeconds n
  | .none =>
    match v.content with
    | .float .nan => .error (Fault.wrongValue "Invalid value NaN (not a number)")
    | .float (.infinite _) => .error secondsTooLarge
    | .float (.finite negative m e) =>
      let (seconds, micros) := secondsAndMicroseconds negative m e
      (atSeconds seconds).map fun t => { t with clock := { t.clock with microsecond := micros } }
    | _ => .error (Fault.notWhole v)

/-- How a type without an attribute is spoken of, if it is: types made by giving arguments speak for
the class that they are made from, while classes that look attributes up by themselves and forms
without such a class only say what is missing. -/
def attributeOwner? : TypeExpr → Option String
  | .builtin b => some ("type object '" ++ b.fullName ++ "'")
  | .declared c =>
    match c.form with
    | .enumeration _ | .model _ => Option.none
    | _ => some ("type object '" ++ c.name ++ "'")
  | .annotated base _ => attributeOwner? base
  | .union .classic _ | .literal _ => Option.none
  | t =>
    match t.originKey? with
    | some (.builtin b) => some ("type object '" ++ b.fullName ++ "'")
    | _ => some ("'" ++ t.fullKindName ++ "' object")

/-- The failure of a value that has no attribute of a name. -/
def lacksAttribute (v : Value) (name : String) : Fault :=
  let owner? :=
    match v with
    | .type t => attributeOwner? t
    | _ => some ("'" ++ v.fullTypeName ++ "' object")
  Fault.raised .missingAttribute
    (match owner? with
      | some owner => owner ++ " has no attribute '" ++ name ++ "'"
      | Option.none => name)

/-- What is wrong with the text of an identifier. -/
def unreadableUuid : UuidError → Fault
  | .length => Fault.wrongValue "badly formed hexadecimal UUID string"
  | .digits s => malformedWhole 16 (Text.quote s)
  | .range => Fault.wrongValue "int is out of range (need a 128-bit value)"

/-- A call that makes no identifier since it says nothing about one. -/
def unspecifiedUuid : Fault :=
  Fault.wrongType "one of the hex, bytes, bytes_le, fields, or int arguments must be given"

/-- Reads an identifier from a kind of text. -/
def toUuid (v : Value) : Except Fault Uuid :=
  match v.asText? with
  | some s =>
    match Uuid.parse s with
    | .ok u => .ok u
    | .error e => .error (unreadableUuid e)
  | .none =>
    match v.content with
    | .none => .error unspecifiedUuid
    | .binary .memoryview _ => .error (v.lacksAttribute "replace")
    | .binary .. => .error (Fault.wrongType "a bytes-like object is required, not 'str'")
    | .datetime _ | .date _ | .time _ =>
      .error (Fault.wrongType "'str' object cannot be interpreted as an integer")
    | _ => .error (v.lacksAttribute "replace")

end Value

end RowDecoding
