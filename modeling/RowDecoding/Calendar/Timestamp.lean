import RowDecoding.Calendar.Clock

/-!
# Points in time

A date with a time of the day. A text is read in two parts. Where the date ends depends on its
form; one character of any kind separates it from the time.
-/

namespace RowDecoding.Calendar

/-- A date and a time of the day. -/
structure Timestamp where
  date : Date
  clock : Clock
deriving DecidableEq, Repr, Inhabited

namespace Timestamp

/-- The number of bytes of a text that belong to the date. With hyphens there are ten of them, or
eight for a week date without a day. Without hyphens there are eight, or seven for a week date
whose day is missing, which the number of digits up to the next other character tells. -/
def dateLength (bytes : List UInt8) : Nat :=
  let n := bytes.length
  let at_ (i : Nat) : UInt8 := bytes.getD i 0
  if n == 7 then 7
  else if at_ 4 == hyphen then
    if at_ 5 == weekMark then
      if n ≤ 8 then 8
      else if at_ 8 == hyphen then
        if n == 9 then 9
        else if 10 < n && isDigitByte (at_ 10) then 8
        else 10
      else 8
    else 10
  else if at_ 4 == weekMark then
    let digitsEnd := 7 + ((bytes.drop 7).takeWhile isDigitByte).length
    if digitsEnd < 9 then digitsEnd
    else if digitsEnd % 2 == 0 then 7
    else 8
  else 8

/-- The number of bytes of the character that starts with a byte. -/
def characterLength (b : UInt8) : Nat :=
  if b.toNat < 128 then 1
  else if b.toNat / 16 == 14 then 3
  else if b.toNat / 16 == 15 then 4
  else 2

/-- Reads a date with a time of the day, or a date alone. -/
def parse (text : String) : Except CalendarError Timestamp := do
  let bytes := bytesOf text
  if bytes.length < 7 then throw .malformed
  let length := dateLength bytes
  match Date.scan? length bytes with
  | none => throw .malformed
  | some (year, month, day) =>
    match bytes.drop length with
    | [] =>
      let date ← Date.make year month day
      pure ⟨date, Clock.midnight⟩
    | separator :: _ =>
      let (t, offset) ← scanClock ((bytes.drop length).drop (characterLength separator))
      let date ← Date.make year month day
      let clock ← Clock.make t offset
      pure ⟨date, clock⟩

/-- The text of a point in time with a character between its two parts. -/
def textWith (separator : String) (t : Timestamp) : String :=
  t.date.text ++ separator ++ t.clock.text

/-- The text of a point in time. -/
def text (t : Timestamp) : String :=
  textWith "T" t

/-- The microseconds from the beginning of the calendar, on the clock itself. -/
def sinceBeginning (t : Timestamp) : Int :=
  t.date.ordinal * Duration.perDay + t.clock.sinceMidnight

/-- Equality of points in time, as for times of the day. -/
def equal (a b : Timestamp) : Bool :=
  match a.clock.offset, b.clock.offset with
  | none, none => a.sinceBeginning == b.sinceBeginning
  | some x, some y => a.sinceBeginning - x == b.sinceBeginning - y
  | _, _ => false

/-- Why a number of seconds is no point in time: its year is out of the calendar, or the year or
the number itself does not fit the words that hold them. -/
inductive EpochError where
  | year (year : Int)
  | yearTooLarge
  | secondsTooLarge
deriving DecidableEq, Repr

/-- The number of the first of January 1970. -/
def epoch : Int := 719163

/-- A year as a signed 32-bit word holds it. -/
def yearWord (year : Int) : Int :=
  Int.bmod year 4294967296

/-- The point in universal time a number of seconds after the first of January 1970. -/
def ofEpochSeconds (seconds : Int) : Except EpochError Timestamp :=
  if !Number.fitsWord seconds then .error .secondsTooLarge
  else
    let day := Int.fdiv seconds 86400
    let s := (seconds - day * 86400).toNat
    let (year, month, dayOfMonth) := Date.civil (epoch + day)
    if year < -2147481748 || 2147485547 < year then .error .yearTooLarge
    else if year < 1 || 9999 < year then .error (.year (yearWord year))
    else .ok ⟨⟨year.toNat, month, dayOfMonth⟩, ⟨s / 3600, s / 60 % 60, s % 60, 0, some 0⟩⟩

end Timestamp

end RowDecoding.Calendar
