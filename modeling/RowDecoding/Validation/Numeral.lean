import RowDecoding.Number.Binary64

/-!
# Numerals that a check accepts

Numbers in texts, as a lax check reads them: ASCII digits only, with white space around them. A
whole number may begin with a plus sign or with zeros, end in a point and zeros, and have single
underscores inside. A double may have single underscores inside if there is no white space.
-/

namespace RowDecoding

open Number

namespace Numeral

/-- The text without the white space around it. -/
def bare (cs : List Char) : List Char :=
  Text.trimmed isMargin cs

/-! ### Underscores -/

/-- Whether two underscores stand side by side. -/
def hasDoubleUnderscore : List Char → Bool
  | '_' :: '_' :: _ => true
  | _ :: rest => hasDoubleUnderscore rest
  | [] => false

/-- The text without its underscores, if it has some and all of them are single ones inside. -/
def withoutUnderscores? (cs : List Char) : Option (List Char) :=
  if !cs.contains '_' || cs.head? == some '_' || cs.getLast? == some '_' || hasDoubleUnderscore cs
  then none
  else some (cs.filter (· != '_'))

/-! ### Whole numbers -/

/-- What follows a leading run of zeros and underscores, whose last character is `last`: digits, or
a point with that character before it. A text of nothing but the run is its last character. -/
def afterZeros? (last : Char) : List Char → Option (List Char)
  | [] => some [last]
  | c :: rest =>
    if c == '0' || c == '_' then afterZeros? c rest
    else if Text.isAsciiDigit c then some (c :: rest)
    else if c == '.' then some (last :: c :: rest)
    else none

/-- A text that begins with a digit or a minus sign, without leading zeros. -/
def withoutLeadingZeros? : List Char → Option (List Char)
  | [] => none
  | c :: rest =>
    if c == '0' then afterZeros? c rest
    else if c == '-' || Text.isAsciiDigit c then some (c :: rest)
    else none

/-- A text without a point that is followed by nothing but zeros. -/
def withoutZeroFraction (cs : List Char) : List Char :=
  let whole := cs.takeWhile (· != '.')
  if (cs.drop (whole.length + 1)).all (· == '0') then whole else cs

/-- Reads a canonical numeral: no plus sign, no leading zero, digits only. -/
def canonical? (cs : List Char) : Except WholeError Int :=
  let (negative, ds) :=
    match cs with
    | '-' :: rest => (true, rest)
    | _ => (false, cs)
  if ds.isEmpty || !ds.all Text.isAsciiDigit || (ds.head? == some '0' && ds != ['0']) then
    .error .malformed
  else if digitLimit < cs.length then .error (.tooLong ds.length)
  else
    let n := ofDigits 10 (ds.map fun c => c.toNat - 48)
    .ok (if negative then -(n : Int) else n)

/-- Reads a whole number. -/
def whole (s : String) : Except WholeError Int :=
  let cs := bare s.toList
  let unsigned := if cs.head? == some '+' then cs.tail else cs
  if cs.head? == some '+' && unsigned.head? == some '-' then .error .malformed
  else
    match withoutLeadingZeros? unsigned with
    | none => .error .malformed
    | some ds =>
      let ds := withoutZeroFraction ds
      canonical? ((withoutUnderscores? ds).getD ds)

/-! ### Doubles -/

/-- Reads a double from a text without underscores and without digits of other scripts. -/
def plainDouble? (cs : List Char) : Option Binary64 :=
  if cs.all fun c => c.toNat < 128 && c != '_' && !isMargin c then parseBinary64? cs else none

/-- Reads a double. -/
def double? (s : String) : Option Binary64 :=
  match plainDouble? (bare s.toList) with
  | some x => some x
  | none => (withoutUnderscores? s.toList).bind plainDouble?

end Numeral

end RowDecoding
