import RowDecoding.Instance.Arguments
import RowDecoding.Scalar.Moment

/-!
# Instances of dates and times

Dates, times of the day and points in time made of their numbers. Every number is looked at in turn;
then their ranges are checked, those of the date first.
-/

namespace RowDecoding

open Calendar

namespace Instance

/-- A number that may be left out, which makes it zero. -/
def optionalWord (a : Arguments) (place : Nat) : Except Fault Int :=
  match a.at? place with
  | some v => wordArgument v
  | none => .ok 0

/-- What is wrong with the numbers of a date or time. -/
def calendarFailure (e : CalendarError) : Fault :=
  Fault.wrongValue (e.message "")

/-- A date of three numbers. -/
def dateOfNumbers (year month day : Int) : Except Fault Date :=
  (Date.make year month.toNat day.toNat).mapError calendarFailure

/-- The numbers of a clock, with the second reading of an hour that occurs twice. -/
structure ClockNumbers where
  hour : Int
  minute : Int
  second : Int
  microsecond : Int
  zone : Option Value
  fold : Int

/-- A clock of its numbers. No value is a zone, so none may be given. -/
def clockOfNumbers (n : ClockNumbers) : Except Fault Clock :=
  if n.hour < 0 || 23 < n.hour then .error (calendarFailure .hour)
  else if n.minute < 0 || 59 < n.minute then .error (calendarFailure .minute)
  else if n.second < 0 || 59 < n.second then .error (calendarFailure .second)
  else if n.microsecond < 0 || 999999 < n.microsecond then
    .error (Fault.wrongValue "microsecond must be in 0..999999")
  else if n.fold != 0 && n.fold != 1 then
    .error (Fault.wrongValue "fold must be either 0 or 1")
  else
    match n.zone with
    | none | some .none =>
      .ok ⟨n.hour.toNat, n.minute.toNat, n.second.toNat, n.microsecond.toNat, none⟩
    | some v => .error (Fault.wrongType
        ("tzinfo argument must be None or of a tzinfo subclass, not type '" ++
          v.fullTypeName ++ "'"))

/-- The numbers of a clock among arguments, from a place on. -/
def clockArguments (a : Arguments) (place : Nat) : Except Fault ClockNumbers := do
  let hour ← optionalWord a place
  let minute ← optionalWord a (place + 1)
  let second ← optionalWord a (place + 2)
  let microsecond ← optionalWord a (place + 3)
  let zone := a.at? (place + 4)
  a.checkPlaces (place + 5)
  let fold ← optionalWord a (place + 5)
  pure ⟨hour, minute, second, microsecond, zone, fold⟩

/-- The names of the numbers of a date. -/
def dateParameters : List String :=
  ["year", "month", "day"]

/-- The names of the numbers of a clock. -/
def clockParameters : List String :=
  ["hour", "minute", "second", "microsecond", "tzinfo", "fold"]

/-- The numbers of a date among arguments. -/
def dateArguments (a : Arguments) : Except Fault (Int × Int × Int) := do
  let year ← (a.required 0).bind wordArgument
  let month ← (a.required 1).bind wordArgument
  let day ← (a.required 2).bind wordArgument
  pure (year, month, day)

/-- A date from the arguments of a call. -/
def dateOf (positional : List Value) (keywords : Bindings) : Except Fault Date := do
  let a := Arguments.ofUntitled dateParameters positional keywords
  a.checkCount
  let (year, month, day) ← dateArguments a
  a.checkNames
  dateOfNumbers year month day

/-- A time of the day from the arguments of a call. -/
def clockOf (positional : List Value) (keywords : Bindings) : Except Fault Clock := do
  let a := Arguments.ofUntitled clockParameters positional keywords
  a.checkCount
  let numbers ← clockArguments a 0
  a.checkNames
  clockOfNumbers numbers

/-- A point in time from the arguments of a call. -/
def timestampOf (positional : List Value) (keywords : Bindings) : Except Fault Timestamp := do
  let a := Arguments.ofUntitled (dateParameters ++ clockParameters) positional keywords
  a.checkCount
  let (year, month, day) ← dateArguments a
  let numbers ← clockArguments a 3
  a.checkNames
  let date ← dateOfNumbers year month day
  let clock ← clockOfNumbers numbers
  pure ⟨date, clock⟩

end Instance

end RowDecoding
