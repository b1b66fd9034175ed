import RowDecoding.Calendar.Standard
import RowDecoding.Validation.Scalar

/-!
# Checking dates and times

Dates, times of the day and points in time. A lax check also reads texts in the standard form,
written in bytes or not, and numbers of seconds, and it takes a date for its first moment, and a
first moment for its date.
-/

namespace RowDecoding

open Calendar Number

namespace Check

/-- A date that was read, unless it is in the year 0. -/
def readDate (d : Date) : Verdict :=
  match Standard.checkYear d with
  | .ok () => .accept (.date d) .lax
  | .error e => .reject "date_parsing"
      ("Input should be a valid date in the format YYYY-MM-DD, " ++ e.message)

/-- A point in time as a date, which it is at the first moment of the day only. -/
def dateOf (t : Timestamp) : Verdict :=
  if t.clock.sinceMidnight == 0 then readDate t.date
  else .reject "date_from_datetime_inexact"
    "Datetimes provided to dates should have zero time - e.g. be exact dates"

/-- A value where a point in time is expected. -/
def unreadableTimestamp (e : StandardError) : Verdict :=
  .reject "datetime_parsing" ("Input should be a valid datetime, " ++ e.message)

/-- A point in time that was read, unless it is in the year 0. -/
def readTimestamp (t : Timestamp) : Verdict :=
  match Standard.checkYear t.date with
  | .ok () => .accept (.datetime t) .lax
  | .error e => unreadableTimestamp e

/-- What a value is read as where a moment is looked for. -/
inductive MomentReading where
  | text (bytes : List UInt8)
  | seconds (n : Except StandardError Standard.Seconds)

/-- What a value is read as: texts, bytes and numbers apart from truth values. A whole number that
64 bits do not hold is read as a double. -/
def momentReading? (v : Value) : Option MomentReading :=
  match v.asText?, v, v.asInt? with
  | some s, _, _ => some (.text (bytesOf s))
  | none, .binary .bytes bytes, _ => some (.text bytes)
  | none, _, some n =>
    if v.isBool then none
    else if fitsWord n then some (.seconds (.ok ⟨n, 0⟩))
    else (numberOf? v).map fun x => .seconds (Standard.secondsOf x)
  | none, _, none => (numberOf? v).map fun x => .seconds (Standard.secondsOf x)

/-- The point in time that a value is read as. -/
def timestampOf : MomentReading → Except StandardError Timestamp
  | .text bytes => Standard.timestampOf bytes
  | .seconds n => n.bind Standard.ofSeconds

/-- A date. -/
def date (strict : Bool) (v : Value) : Verdict :=
  match v with
  | .date _ => .exactly v
  | .datetime t => if strict then refuseDate else dateOf t
  | _ =>
    match (if strict then none else momentReading? v) with
    | none => refuseDate
    | some r =>
      match r with
      | .text bytes =>
        match Standard.whole Standard.date bytes with
        | .ok d => readDate d
        | .error _ => dateOfReading r
      | .seconds _ => dateOfReading r
where
  /-- A value that is no date at all. -/
  refuseDate : Verdict := .reject "date_type" "Input should be a valid date"
  /-- The date of a point in time that is read. -/
  dateOfReading (r : MomentReading) : Verdict :=
    match timestampOf r with
    | .ok t => dateOf t
    | .error e => .reject "date_from_datetime_parsing"
        ("Input should be a valid date or datetime, " ++ e.message)

/-- A point in time. -/
def datetime (strict : Bool) (v : Value) : Verdict :=
  let refuse := Verdict.reject "datetime_type" "Input should be a valid datetime"
  match v with
  | .datetime _ => .exactly v
  | .date d => if strict then refuse else .accept (.datetime ⟨d, Clock.midnight⟩) .lax
  | _ =>
    match (if strict then none else momentReading? v) with
    | none => refuse
    | some r =>
      match timestampOf r, r with
      | .ok t, _ => readTimestamp t
      | .error e, .seconds _ => unreadableTimestamp e
      | .error _, .text bytes =>
        match Standard.dateOf bytes with
        | .ok d => readTimestamp ⟨d, Clock.midnight⟩
        | .error e => .reject "datetime_from_date_parsing"
            ("Input should be a valid datetime or date, " ++ e.message)

/-- A time of the day. -/
def time (strict : Bool) (v : Value) : Verdict :=
  match v with
  | .time _ => .exactly v
  | _ =>
    match (if strict then none else momentReading? v) with
    | none => .reject "time_type" "Input should be a valid time"
    | some r =>
      let found :=
        match r with
        | .text bytes => Standard.whole Standard.clock bytes
        | .seconds n => n.bind Standard.clockOfSeconds
      match found with
      | .ok c => .accept (.time c) .lax
      | .error e => .reject "time_parsing" ("Input should be in a valid time format, " ++ e.message)

end Check

end RowDecoding
