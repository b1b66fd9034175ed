import RowDecoding.Calendar.Date

/-!
# Times of the day

A time of the day to the microsecond, with or without the distance from universal time that it is
meant in. Texts are read byte by byte: hours, then minutes and seconds with or without colons, then
a fraction after a point or comma, then `Z` or a signed offset written in the same way. A zero byte
counts as the end of the text.
-/

namespace RowDecoding.Calendar

open Number (padded)

/-- A time of the day. The offset is the distance from universal time in microseconds. -/
structure Clock where
  hour : Nat
  minute : Nat
  second : Nat
  microsecond : Nat
  offset : Option Int
deriving DecidableEq, Repr, Inhabited

/-! ### Durations -/

/-- A length of time in microseconds. -/
structure Duration where
  microseconds : Int
deriving DecidableEq, Repr, Inhabited

namespace Duration

/-- The microseconds of a day. -/
def perDay : Int := 86400000000

/-- The most days of a length of time. -/
def mostDays : Int := 999999999

/-- A length of time from its days, seconds and microseconds. -/
def ofParts (days seconds microseconds : Int) : Duration :=
  ⟨days * perDay + seconds * 1000000 + microseconds⟩

/-- The whole days, rounded down. -/
def days (d : Duration) : Int :=
  Int.fdiv d.microseconds perDay

/-- The whole seconds beyond the whole days. -/
def seconds (d : Duration) : Nat :=
  ((d.microseconds - d.days * perDay) / 1000000).toNat

/-- The microseconds beyond the whole seconds. -/
def remainder (d : Duration) : Nat :=
  ((d.microseconds - d.days * perDay) % 1000000).toNat

end Duration

/-! ### Reading -/

/-- What is known after reading a clock: its four numbers, and whether text is left that belongs to
no number. -/
structure ClockText where
  hour : Nat
  minute : Nat
  second : Nat
  microsecond : Nat
  leftover : Bool
deriving Repr, Inhabited

namespace ClockText

/-- A colon. -/
def colon : UInt8 := 58

/-- A point or a comma starts a fraction. -/
def isFractionMark (b : UInt8) : Bool :=
  b == 46 || b == 44

/-- A sign or the letter for universal time ends the clock. -/
def endsClock (b : UInt8) : Bool :=
  b == 43 || b == 45 || b == 90

/-- The fraction of a second: up to six digits count, more are skipped. -/
def fraction? (bytes : List UInt8) (more : Bool) : Option (Nat × Bool) :=
  let count := min 6 bytes.length
  (takeDigits count 0 bytes).map fun (n, rest) =>
    let rest := rest.dropWhile isDigitByte
    (n * Nat.pow 10 (6 - count), rest.head?.any (· != 0) || (rest.isEmpty && more))

/-- Reads the pairs of digits that are still to come, `pairs` of them, after `done`, last one
first; `more` says that text follows after these bytes. Whether colons separate the pairs is
decided after the first one. -/
def scan? (more : Bool) : Nat → Bool → List Nat → List UInt8 → Option ClockText
  | 0, _, found, bytes =>
    (fraction? bytes more).map fun (micros, leftover) => build found micros leftover
  | pairs + 1, separated, found, bytes => do
    let (n, rest) ← takeDigits 2 0 bytes
    let found := n :: found
    match rest with
    | [] => pure (build found 0 more)
    | b :: after =>
      let separated := if found.length == 1 then b == colon else separated
      if after.isEmpty then pure (build found 0 (b != 0))
      else if separated && b == colon then scan? more pairs separated found after
      else if isFractionMark b then
        (fraction? after more).map fun (micros, leftover) => build found micros leftover
      else if separated then none
      else scan? more pairs separated found rest
where
  /-- The numbers found, last one first; the missing ones are zero. -/
  build (found : List Nat) (micros : Nat) (leftover : Bool) : ClockText :=
    let parts := found.reverse
    ⟨parts.getD 0 0, parts.getD 1 0, parts.getD 2 0, micros, leftover⟩

/-- The length of the clock in microseconds. -/
def seconds (t : ClockText) : Int :=
  t.hour * 3600 + t.minute * 60 + t.second

end ClockText

/-- Whether a length of time is less than a day in either direction. -/
def isOffset (d : Duration) : Bool :=
  -Duration.perDay < d.microseconds && d.microseconds < Duration.perDay

/-- An offset of a number of seconds and microseconds. One that is less than a second away from
universal time is none at all. -/
def makeOffset (seconds microseconds : Int) : Except CalendarError Int :=
  if seconds == 0 then .ok 0
  else
    let d := Duration.ofParts 0 seconds microseconds
    if isOffset d then .ok d.microseconds
    else .error (.offset d.days d.seconds d.remainder)

/-- The clock and the offset of a text, before the ranges are checked. -/
def scanClock (bytes : List UInt8) : Except CalendarError (ClockText × Option Int) :=
  let body := bytes.takeWhile (!ClockText.endsClock ·)
  let zone := bytes.dropWhile (!ClockText.endsClock ·)
  match ClockText.scan? (!zone.isEmpty) 3 true [] body with
  | none => .error .malformed
  | some clock =>
    match zone with
    | [] => if clock.leftover then .error .malformed else .ok (clock, none)
    | mark :: rest =>
      if mark == 90 then
        if rest.head?.any (· != 0) then .error .malformed else .ok (clock, some 0)
      else
        match ClockText.scan? false 3 true [] rest with
        | none => .error .malformed
        | some away =>
          if away.leftover then .error .malformed
          else
            let sign : Int := if mark == 45 then -1 else 1
            (makeOffset (sign * away.seconds) (sign * away.microsecond)).map fun offset =>
              (clock, some offset)

namespace Clock

/-- Checks the ranges of hour, minute and second, in this order. -/
def make (t : ClockText) (offset : Option Int) : Except CalendarError Clock :=
  if 23 < t.hour then .error .hour
  else if 59 < t.minute then .error .minute
  else if 59 < t.second then .error .second
  else .ok ⟨t.hour, t.minute, t.second, t.microsecond, offset⟩

/-- The first moment of the day, without an offset. -/
def midnight : Clock :=
  ⟨0, 0, 0, 0, none⟩

/-- Reads a time of the day; the letter `T` may stand before it. -/
def parse (text : String) : Except CalendarError Clock := do
  let bytes := bytesOf text
  let bytes := if bytes.head? == some 84 then bytes.tail else bytes
  let (t, offset) ← scanClock bytes
  make t offset

/-! ### Writing -/

/-- A fraction of a second unless it is zero. -/
def fractionText (microsecond : Nat) : String :=
  if microsecond == 0 then "" else "." ++ padded 6 microsecond

/-- An offset as signed hours and minutes, with seconds and a fraction where there are some. -/
def offsetText (offset : Int) : String :=
  let n := offset.natAbs
  let s := n / 1000000
  let micros := n % 1000000
  (if offset < 0 then "-" else "+") ++ padded 2 (s / 3600) ++ ":" ++ padded 2 (s / 60 % 60) ++
    (if s % 60 == 0 && micros == 0 then "" else ":" ++ padded 2 (s % 60) ++ fractionText micros)

/-- The text of a time of the day. -/
def text (c : Clock) : String :=
  padded 2 c.hour ++ ":" ++ padded 2 c.minute ++ ":" ++ padded 2 c.second ++
    fractionText c.microsecond ++ (match c.offset with | some o => offsetText o | none => "")

/-- The microseconds since midnight, on the clock itself. -/
def sinceMidnight (c : Clock) : Int :=
  ((c.hour * 60 + c.minute) * 60 + c.second) * 1000000 + c.microsecond

/-- Equality of times. Two times with offsets are compared in universal time; one with and one
without an offset differ. -/
def equal (a b : Clock) : Bool :=
  match a.offset, b.offset with
  | none, none => a.sinceMidnight == b.sinceMidnight
  | some x, some y => a.sinceMidnight - x == b.sinceMidnight - y
  | _, _ => false

end Clock

end RowDecoding.Calendar
