import RowDecoding.Number.Whole

/-!
# Dates

Dates of the proleptic Gregorian calendar from the year 1 to the year 9999, and the ways of writing
them: calendar dates and week dates, with or without hyphens. Texts are read byte by byte.
-/

namespace RowDecoding.Calendar

/-- A date. -/
structure Date where
  year : Nat
  month : Nat
  day : Nat
deriving DecidableEq, Repr, Inhabited

/-- Why a text or a number is no date or time. -/
inductive CalendarError where
  | malformed
  | year (year : Int)
  | month
  | day
  | hour
  | minute
  | second
  | offset (days : Int) (seconds microseconds : Nat)
deriving DecidableEq, Repr

namespace Date

/-- Leap years. -/
def isLeap (year : Nat) : Bool :=
  year % 4 == 0 && (year % 100 != 0 || year % 400 == 0)

/-- The number of days of a month. -/
def daysInMonth (year month : Nat) : Nat :=
  if month == 2 then if isLeap year then 29 else 28
  else if month == 4 || month == 6 || month == 9 || month == 11 then 30
  else 31

/-- Checks the ranges of year, month and day, in this order. -/
def make (year : Int) (month day : Nat) : Except CalendarError Date :=
  if year < 1 || 9999 < year then .error (.year year)
  else if month < 1 || 12 < month then .error .month
  else if day < 1 || daysInMonth year.toNat month < day then .error .day
  else .ok ⟨year.toNat, month, day⟩

/-- The days before a year, counted from the first of January of the year 1. -/
def daysBeforeYear (year : Int) : Int :=
  let y := year - 1
  y * 365 + Int.fdiv y 4 - Int.fdiv y 100 + Int.fdiv y 400

/-- The days of a year before a month. -/
def daysBeforeMonth (year month : Nat) : Nat :=
  (List.range (month - 1)).foldl (fun days m => days + daysInMonth year (m + 1)) 0

/-- The number of a date; the first of January of the year 1 has number 1. -/
def ordinal (d : Date) : Int :=
  daysBeforeYear d.year + daysBeforeMonth d.year d.month + d.day

/-- The month and day of the `n`-th day of a year, counted from zero. -/
def monthAndDay (year : Nat) : Nat → Nat → Nat → Nat × Nat
  | 0, month, n => (month, n + 1)
  | more + 1, month, n =>
    let length := daysInMonth year month
    if n < length then (month, n + 1) else monthAndDay year more (month + 1) (n - length)

/-- Year, month and day of the date with a number; the year may lie out of range. -/
def civil (ordinal : Int) : Int × Nat × Nat :=
  let n := ordinal - 1
  let era := Int.fdiv n 146097
  let day := (n - era * 146097).toNat
  let century := min 3 (day / 36524)
  let day := day - century * 36524
  let quad := day / 1461
  let day := day - quad * 1461
  let single := min 3 (day / 365)
  let day := day - single * 365
  let year : Int := era * 400 + century * 100 + quad * 4 + single + 1
  let (month, d) := monthAndDay (year.emod 400 + 400).toNat 11 1 day
  (year, month, d)

/-- The day of the week, Monday being 0. -/
def weekday (d : Date) : Nat :=
  ((d.ordinal + 6).emod 7).toNat

/-- The text of a date: `2024-01-02`. -/
def text (d : Date) : String :=
  Number.padded 4 d.year ++ "-" ++ Number.padded 2 d.month ++ "-" ++ Number.padded 2 d.day

end Date

/-! ### Reading -/

/-- The bytes of a text. -/
def bytesOf (text : String) : List UInt8 :=
  text.toUTF8.toList

/-- Whether a byte is a decimal digit. -/
def isDigitByte (b : UInt8) : Bool :=
  48 ≤ b.toNat && b.toNat ≤ 57

/-- Exactly `count` decimal digits and what follows them. -/
def takeDigits : Nat → Nat → List UInt8 → Option (Nat × List UInt8)
  | 0, acc, bytes => some (acc, bytes)
  | count + 1, acc, b :: rest =>
    if isDigitByte b then takeDigits count (acc * 10 + (b.toNat - 48)) rest else none
  | _ + 1, _, [] => none

/-- The hyphen. -/
def hyphen : UInt8 := 45

/-- The letter that marks a week date. -/
def weekMark : UInt8 := 87

/-- The bytes after a hyphen, if there has to be one. -/
def afterHyphen (required : Bool) (bytes : List UInt8) : Option (List UInt8) :=
  if required then
    match bytes with
    | b :: rest => if b == hyphen then some rest else none
    | [] => none
  else some bytes

namespace Date

/-- Whether a year has a fifty-third week: it starts on a Thursday, or on a Wednesday and is a leap
year. -/
def hasLongWeekYear (year : Nat) : Bool :=
  let first := weekday ⟨year, 1, 1⟩
  first == 3 || (first == 2 && isLeap year)

/-- The number of the Monday of a year's first week, the one with its first Thursday. -/
def firstMonday (year : Nat) : Int :=
  let first : Date := ⟨year, 1, 1⟩
  let w := weekday first
  first.ordinal - w + (if 3 < w then 7 else 0)

/-- Year, month and day of a week date. A week of the year 0 lies before the calendar begins; it
stands for a date without a month, which the check of the ranges refuses. -/
def ofWeek? (year week day : Nat) : Option (Int × Nat × Nat) :=
  if week < 1 || 53 < week || (week == 53 && !hasLongWeekYear year) then none
  else if day < 1 || 7 < day then none
  else if year == 0 then some (1, 0, 0)
  else some (civil (firstMonday year + (week - 1) * 7 + (day - 1)))

/-- Reads the year, month and day from the beginning of the bytes; `length` bytes of them belong to
the date, which tells whether a week date has a day. -/
def scan? (length : Nat) (bytes : List UInt8) : Option (Int × Nat × Nat) := do
  let (year, rest) ← takeDigits 4 0 bytes
  let separated := rest.head? == some hyphen
  let rest := if separated then rest.tail else rest
  match rest with
  | b :: afterMark =>
    if b == weekMark then
      let (week, rest) ← takeDigits 2 0 afterMark
      if bytes.length - rest.length < length then
        let rest ← afterHyphen separated rest
        let (day, _) ← takeDigits 1 0 rest
        ofWeek? year week day
      else ofWeek? year week 1
    else
      let (month, rest) ← takeDigits 2 0 rest
      let rest ← afterHyphen separated rest
      let (day, _) ← takeDigits 2 0 rest
      pure ((year : Int), month, day)
  | [] => none

/-- Reads a date. Its text has seven, eight or ten bytes. -/
def parse (text : String) : Except CalendarError Date :=
  let bytes := bytesOf text
  let n := bytes.length
  if n == 7 || n == 8 || n == 10 then
    match scan? n bytes with
    | some (year, month, day) => make year month day
    | none => .error .malformed
  else .error .malformed

end Date

end RowDecoding.Calendar
