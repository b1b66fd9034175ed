import RowDecoding.Calendar.Timestamp
import RowDecoding.Number.Binary64

/-!
# The standard form of dates and times

A stricter reader for dates and times: `2024-01-31`, `12:30`, `12:30:05.25`, and both together with
a separator, the time with or without an offset. It says which part of a text is wrong, and it reads
the year 0, which no date has. A number stands for the point in universal time so many seconds after
the first of January 1970, or so many milliseconds if it is beyond twenty milliards.
-/

namespace RowDecoding.Calendar

open Number

/-- Why a text is not in the standard form. -/
inductive StandardError where
  | tooShort
  | extra
  | character (part : String)
  | offset (part : String)
  | dateSeparator
  | separator
  | timeSeparator
  | range (part limits : String)
  | dayRange
  | fractionMissing
  | offsetSign
  | offsetRange
  | tooEarly
  | tooLate
  | negativeTime
  | timeTooLarge
  | undefined
  | yearZero
deriving DecidableEq, Repr

namespace StandardError

/-- What is said about a wrong text. -/
def message : StandardError → String
  | tooShort => "input is too short"
  | extra => "unexpected extra characters at the end of the input"
  | character part => "invalid character in " ++ part
  | offset part => "invalid timezone " ++ part
  | dateSeparator => "invalid date separator, expected \x60-\x60"
  | separator => "invalid datetime separator, expected \x60T\x60, \x60t\x60, \x60_\x60 or space"
  | timeSeparator => "invalid time separator, expected \x60:\x60"
  | range part limits => part ++ " value is outside expected range of " ++ limits
  | dayRange => "day value is outside expected range"
  | fractionMissing => "second fraction digits missing after \x60.\x60"
  | offsetSign => "invalid timezone sign"
  | offsetRange => "timezone offset must be less than 24 hours"
  | tooEarly => "dates before 0000 are not supported as unix timestamps"
  | tooLate => "dates after 9999 are not supported as unix timestamps"
  | negativeTime => "time in seconds should be positive"
  | timeTooLarge => "numeric times may not exceed 86,399 seconds"
  | undefined => "NaN values not permitted"
  | yearZero => "year 0 is out of range"

end StandardError

namespace Standard

/-- A reader of the beginning of some bytes. -/
abbrev Reader (α : Type) := List UInt8 → Except StandardError (α × List UInt8)

/-- The byte of an ASCII character. -/
def byte (c : Char) : UInt8 :=
  c.toNat.toUInt8

/-- A number of so many digits. -/
def number (wrong : StandardError) (count : Nat) : Reader Nat := fun bytes =>
  match takeDigits count 0 bytes with
  | some found => .ok found
  | none => .error wrong

/-- One expected character. -/
def mark (c : Char) (wrong : StandardError) (bytes : List UInt8) :
    Except StandardError (List UInt8) :=
  match bytes with
  | b :: rest => if b == byte c then .ok rest else .error wrong
  | [] => .error wrong

/-- A number in a range. -/
def within (part : String) (greatest : Nat) (limits : String) (n : Nat) :
    Except StandardError Unit :=
  if greatest < n then .error (.range part limits) else .ok ()

/-- Reads a date; its year may be 0. -/
def date : Reader Date := fun bytes => do
  if bytes.length < 10 then throw .tooShort
  let (year, bytes) ← number (.character "year") 4 bytes
  let bytes ← mark '-' .dateSeparator bytes
  let (month, bytes) ← number (.character "month") 2 bytes
  let bytes ← mark '-' .dateSeparator bytes
  let (day, bytes) ← number (.character "day") 2 bytes
  if month < 1 || 12 < month then throw (.range "month" "1-12")
  if day < 1 || Date.daysInMonth year month < day then throw .dayRange
  pure (⟨year, month, day⟩, bytes)

/-- Reads the fraction of a second, of which six digits count. -/
def fraction : Reader Nat := fun bytes =>
  let ds := bytes.takeWhile isDigitByte
  if ds.isEmpty then .error .fractionMissing
  else
    let six := (ds ++ List.replicate 6 (byte '0')).take 6
    .ok (ofDigits 10 (six.map fun b => b.toNat - 48), bytes.drop ds.length)

/-- The sign of an offset: besides the hyphen there is a minus sign of its own. -/
def offsetSign : Reader Int
  | b :: rest =>
    if b == byte '+' then .ok (1, rest)
    else if b == byte '-' then .ok (-1, rest)
    else
      match b :: rest with
      | 226 :: 136 :: 146 :: more => .ok (-1, more)
      | _ => .error .offsetSign
  | [] => .error .offsetSign

/-- Reads an offset in microseconds, if there is one. -/
def offset : Reader (Option Int)
  | [] => .ok (none, [])
  | b :: rest =>
    if b == byte 'Z' || b == byte 'z' then .ok (some 0, rest)
    else do
      let (sign, rest) ← offsetSign (b :: rest)
      let (hours, rest) ← number (.offset "hour") 2 rest
      let rest := if rest.head? == some (byte ':') then rest.tail else rest
      let (minutes, rest) ← number (.offset "minute") 2 rest
      within "timezone minute" 59 "0-59" minutes
      if 23 < hours then throw .offsetRange
      pure (some (sign * ((hours * 60 + minutes) * 60000000 : Nat)), rest)

/-- Reads the seconds and their fraction, if there are some. -/
def secondPart : Reader (Nat × Nat) := fun bytes =>
  if bytes.head? == some (byte ':') then do
    let (second, rest) ← number (.character "second") 2 bytes.tail
    within "second" 59 "0-59" second
    match rest with
    | b :: more =>
      if b == byte '.' || b == byte ',' then do
        let (micros, more) ← fraction more
        pure ((second, micros), more)
      else pure ((second, 0), rest)
    | [] => pure ((second, 0), [])
  else .ok ((0, 0), bytes)

/-- Reads a time of the day, with nothing after it. -/
def clock : Reader Clock := fun bytes => do
  if bytes.length < 5 then throw .tooShort
  let (hour, bytes) ← number (.character "hour") 2 bytes
  let bytes ← mark ':' .timeSeparator bytes
  let (minute, bytes) ← number (.character "minute") 2 bytes
  within "hour" 23 "0-23" hour
  within "minute" 59 "0-59" minute
  let ((second, micros), bytes) ← secondPart bytes
  let (away, bytes) ← offset bytes
  pure (⟨hour, minute, second, micros, away⟩, bytes)

/-- Whether a byte stands between a date and a time. -/
def isSeparator (b : UInt8) : Bool :=
  b == byte 'T' || b == byte 't' || b == byte ' ' || b == byte '_'

/-- Reads a date, a separator and a time of the day. -/
def timestamp : Reader Timestamp := fun bytes => do
  let (d, bytes) ← date bytes
  match bytes with
  | b :: rest =>
    if !isSeparator b then throw .separator
    let (t, rest) ← clock rest
    pure (⟨d, t⟩, rest)
  | [] => throw .separator

/-- Reads all of some bytes. -/
def whole {α : Type} (read : Reader α) (bytes : List UInt8) : Except StandardError α := do
  let (a, rest) ← read bytes
  if rest.isEmpty then pure a else throw .extra

/-! ### Numbers -/

/-- A number of seconds: whole ones, and microseconds after them. -/
structure Seconds where
  whole : Int
  micros : Nat
deriving DecidableEq, Repr

/-- The greatest number that counts seconds; those beyond it count milliseconds. -/
def greatestSeconds : Nat := 20000000000

/-- The most microseconds that are counted. -/
def greatestMicros : Nat := 4294967295

/-- The number in seconds, whether it counts seconds or milliseconds. -/
def Seconds.scaled (n : Seconds) : Seconds :=
  if n.whole.natAbs ≤ greatestSeconds then n
  else
    let seconds := Int.fdiv n.whole 1000
    ⟨seconds, n.micros + (n.whole - seconds * 1000).toNat * 1000⟩

/-- The number with less than a million microseconds. -/
def Seconds.carried (n : Seconds) : Seconds :=
  ⟨n.whole + (n.micros / 1000000 : Nat), n.micros % 1000000⟩

/-- The point in time that a number stands for; its year may be 0. -/
def ofSeconds (n : Seconds) : Except StandardError Timestamp :=
  if n.whole == leastWord then .error .tooEarly
  else if greatestMicros < n.scaled.micros then .error .timeTooLarge
  else
    let n := n.scaled.carried
    if n.whole < -62167219200 then .error .tooEarly
    else if 253402300799 < n.whole then .error .tooLate
    else
      let day := Int.fdiv n.whole 86400
      let s := (n.whole - day * 86400).toNat
      let (year, month, dayOfMonth) := Date.civil (Timestamp.epoch + day)
      .ok ⟨⟨year.toNat, month, dayOfMonth⟩, ⟨s / 3600, s / 60 % 60, s % 60, n.micros, some 0⟩⟩

/-- The time of the day so many seconds after its beginning, in universal time. -/
def clockOfSeconds (n : Seconds) : Except StandardError Clock :=
  if n.whole < 0 then .error .negativeTime
  else
    let n := n.carried
    if 86399 < n.whole then .error .timeTooLarge
    else
      let s := n.whole.toNat
      .ok ⟨s / 3600, s / 60 % 60, s % 60, n.micros, some 0⟩

/-- So many parts of the fraction `num / den`, as a double, rounded to a whole number, a half
upwards. -/
def parts (num den scale : Nat) : Nat :=
  match Binary64.ofRatio false (num * scale) den with
  | .finite _ m e =>
    let (n, d) := Binary64.ratio m e
    (2 * n + d) / (2 * d)
  | _ => greatestMicros

/-- The whole number below the fraction `±num / den`. -/
def floorOf (negative : Bool) (num den : Nat) : Int :=
  if !negative then (num / den : Nat)
  else if num % den == 0 then -((num / den : Nat) : Int)
  else -((num / den : Nat) : Int) - 1

/-- Whether the fraction `num / den` is too large to count seconds. -/
def countsMilliseconds (num den : Nat) : Bool :=
  greatestSeconds * den < num

/-- The number of seconds that a double stands for. A fraction counts away from the whole number
below it, in the unit of the number. -/
def secondsOf (x : Binary64) : Except StandardError Seconds :=
  match x with
  | .nan => .error .undefined
  | .infinite negative => .ok ⟨if negative then leastWord else greatestWord, 0⟩
  | .finite negative m e =>
    let (num, den) := Binary64.ratio m e
    let scale := if countsMilliseconds num den then 1000 else 1000000
    .ok ⟨clampedWord (floorOf negative num den), parts (num % den) den scale⟩

/-- The number of seconds that a double stands for that is written in a text: milliseconds are
counted in seconds before the whole number below is taken. -/
def secondsOfWritten (x : Binary64) : Except StandardError Seconds :=
  match x with
  | .finite negative m e =>
    let (num, den) := Binary64.ratio m e
    let y := if countsMilliseconds num den then Binary64.ofRatio negative num (den * 1000) else x
    match y with
    | .finite _ m e =>
      let (num, den) := Binary64.ratio m e
      let below := clampedWord (floorOf negative num den)
      let signed : Int := if negative then -(num : Int) else num
      .ok ⟨below, min greatestMicros (parts (signed - below * den).toNat den 1000000)⟩
    | _ => .error .timeTooLarge
  | .infinite true => .error .tooEarly
  | _ => .error .timeTooLarge

/-- A number that a text writes: a whole one of 64 bits, or a double with a point. -/
inductive Numeral where
  | whole (n : Int)
  | double (x : Binary64)
deriving DecidableEq, Repr

/-- Reads a number with a sign or without. -/
def numeral? (bytes : List UInt8) : Option Numeral :=
  let (negative, unsigned) :=
    match bytes with
    | b :: c :: rest =>
      if b == byte '-' || b == byte '+' then (b == byte '-', c :: rest) else (false, bytes)
    | _ => (false, bytes)
  let ds := unsigned.takeWhile isDigitByte
  let n : Int := ofDigits 10 (ds.map fun b => b.toNat - 48)
  let rest := unsigned.drop ds.length
  if !fitsWord n then none
  else if rest.isEmpty then
    if ds.isEmpty then none else some (.whole (if negative then -n else n))
  else if rest.head? == some (byte '.') && unsigned.all (·.toNat < 128) then
    (scientific? (unsigned.map fun b => Char.ofNat b.toNat)).map fun (m, e) =>
      .double (Binary64.ofDecimal negative m e)
  else none

/-- The number of seconds that a text writes. -/
def Numeral.seconds : Numeral → Except StandardError Seconds
  | .whole n => .ok ⟨n, 0⟩
  | .double x => secondsOfWritten x

/-- Reads a point in time in the standard form, or a number of seconds. -/
def timestampOf (bytes : List UInt8) : Except StandardError Timestamp :=
  match whole timestamp bytes, numeral? bytes with
  | .ok t, _ => .ok t
  | .error _, some n => n.seconds.bind ofSeconds
  | .error e, none => .error e

/-- Reads a date in the standard form alone; a whole number that is too large to be a point in time
is refused as such. -/
def dateOf (bytes : List UInt8) : Except StandardError Date :=
  match whole date bytes, numeral? bytes with
  | .error _, some (.whole n) => (ofSeconds ⟨n, 0⟩).map (·.date)
  | result, _ => result

/-- Refuses the year 0. -/
def checkYear (d : Date) : Except StandardError Unit :=
  if d.year == 0 then .error .yearZero else .ok ()

end Standard

end RowDecoding.Calendar
