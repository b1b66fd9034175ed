import RowDecoding.Number.Whole

/-!
# Double-precision numbers

A number of the binary64 format as a sign, a mantissa and a power of two, with exact rounding from
fractions, the shortest decimal that reads back, and the text made from it. Only whole-number
arithmetic is used: nothing here depends on the machine's floating-point unit.
-/

namespace RowDecoding.Number

/-- A double-precision number. A finite one is `±mantissa · 2^exponent`, where the mantissa is below
`2^53` and is at least `2^52` unless the exponent is the least one, `-1074`. -/
inductive Binary64 where
  | nan
  | infinite (negative : Bool)
  | finite (negative : Bool) (mantissa : Nat) (exponent : Int)
deriving DecidableEq, Repr, Inhabited

namespace Binary64

/-- Zero with a sign. -/
def zero (negative : Bool) : Binary64 :=
  .finite negative 0 (-1074)

/-- A double with the other sign. -/
def negated : Binary64 → Binary64
  | .nan => .nan
  | .infinite negative => .infinite !negative
  | .finite negative m e => .finite (!negative) m e

/-- `num / den` rounded to the nearest whole number, a half to the even neighbour. -/
def roundHalfEven (num den : Nat) : Nat :=
  let q := num / den
  let twice := 2 * (num % den)
  if twice < den || (twice == den && q % 2 == 0) then q else q + 1

/-- `num / den` scaled by `2^(-e)`, as a fraction. -/
def scaled (num den : Nat) (e : Int) : Nat × Nat :=
  if 0 ≤ e then (num, den * Nat.pow 2 e.toNat) else (num * Nat.pow 2 (-e).toNat, den)

/-- The exponent at which `num / den` has a mantissa of 53 bits, if it is not below the least. -/
def exponentOf (num den : Nat) : Int :=
  let guess : Int := (Nat.log2 num : Int) - Nat.log2 den - 53
  let (n, d) := scaled num den guess
  let e := if d * Nat.pow 2 53 ≤ n then guess + 1 else guess
  if e < -1074 then -1074 else e

/-- The double nearest to `num / den`, a half to the even mantissa; infinite beyond the greatest. -/
def ofRatio (negative : Bool) (num den : Nat) : Binary64 :=
  if num == 0 then zero negative
  else
    let e := exponentOf num den
    let (n, d) := scaled num den e
    let m := roundHalfEven n d
    let (m, e) := if m == Nat.pow 2 53 then (Nat.pow 2 52, e + 1) else (m, e)
    if 971 < e then .infinite negative else .finite negative m e

/-- The double nearest to a whole number. -/
def ofInt (n : Int) : Binary64 :=
  ofRatio (n < 0) n.natAbs 1

/-- The double nearest to `±coefficient · 10^exponent`. Exponents so large or so small that the
outcome is certain are settled without computing the power. -/
def ofDecimal (negative : Bool) (coefficient : Nat) (exponent : Int) : Binary64 :=
  if coefficient == 0 then zero negative
  else
    let magnitude : Int := (digits coefficient).length + exponent
    if 400 < magnitude then .infinite negative
    else if magnitude < -400 then zero negative
    else if 0 ≤ exponent then ofRatio negative (coefficient * Nat.pow 10 exponent.toNat) 1
    else ofRatio negative coefficient (Nat.pow 10 (-exponent).toNat)

/-- The absolute value of a finite double as a fraction. -/
def ratio (mantissa : Nat) (exponent : Int) : Nat × Nat :=
  if 0 ≤ exponent then (mantissa * Nat.pow 2 exponent.toNat, 1)
  else (mantissa, Nat.pow 2 (-exponent).toNat)

/-- The exponent of the leading decimal digit of a positive fraction. -/
def leadingExponent (num den : Nat) : Int :=
  if den ≤ num then ((digits (num / den)).length : Int) - 1
  else
    let t := (digits (den / num)).length
    if den == num * Nat.pow 10 (t - 1) then -((t : Int) - 1) else -(t : Int)

/-- Whether `digits · 10^exponent` is read back as this double. -/
def readsBack (mantissa : Nat) (exponent : Int) (value : Nat) (power : Int) : Bool :=
  ofDecimal false value power == .finite false mantissa exponent

/-- The decimal with `count` digits, of the two next to the double, that reads back; the nearer one
if both do, and the even one of two equally near. -/
def decimalOfLength? (mantissa : Nat) (exponent : Int) (leading : Int) (count : Nat) :
    Option (Nat × Int) :=
  let (num, den) := ratio mantissa exponent
  let power := leading - count + 1
  let (n, d) :=
    if 0 ≤ power then (num, den * Nat.pow 10 power.toNat)
    else (num * Nat.pow 10 (-power).toNat, den)
  let low := n / d
  let near := roundHalfEven n d
  if readsBack mantissa exponent near power then some (near, power)
  else if readsBack mantissa exponent low power then some (low, power)
  else if readsBack mantissa exponent (low + 1) power then some (low + 1, power)
  else none

/-- The first hit among the lengths still to be tried. -/
def shortestFrom (mantissa : Nat) (exponent : Int) (leading : Int) : Nat → Nat → Nat × Int
  | 0, _ => (mantissa, exponent)
  | tries + 1, count =>
    match decimalOfLength? mantissa exponent leading count with
    | some found => found
    | none => shortestFrom mantissa exponent leading tries (count + 1)

/-- A coefficient without the zeros at its end, and the exponent that makes up for them. -/
def withoutTrailingZeros : Nat → Nat → Int → Nat × Int
  | 0, n, e => (n, e)
  | fuel + 1, n, e =>
    if n != 0 && n % 10 == 0 then withoutTrailingZeros fuel (n / 10) (e + 1) else (n, e)

/-- The shortest decimal that reads back as a positive finite double: its digits as a number, and
the exponent of the last digit. -/
def shortest (mantissa : Nat) (exponent : Int) : Nat × Int :=
  let (num, den) := ratio mantissa exponent
  let (n, e) := shortestFrom mantissa exponent (leadingExponent num den) 17 1
  withoutTrailingZeros 20 n e

/-- How the digits of a double are laid out. -/
structure Layout where
  /-- The least exponent of the leading digit that is written positionally. -/
  lowest : Int
  /-- The greatest exponent of the leading digit that is written positionally. -/
  highest : Int
  /-- The least number of digits of a written exponent. -/
  exponentDigits : Nat

/-- Between `0.0001` and `10^16` a point is set, elsewhere an exponent of at least two digits. -/
def layout : Layout := ⟨-4, 15, 2⟩

/-- A number of zeros. -/
def zeros (n : Nat) : String :=
  String.ofList (List.replicate n '0')

/-- An exponent with its sign. -/
def exponentText (l : Layout) (e : Int) : String :=
  let ds := digits e.natAbs
  (if e < 0 then "e-" else "e+") ++ zeros (l.exponentDigits - ds.length) ++ ds

/-- Digits with a point after the first `place` of them. -/
def withPoint (ds : String) (place : Nat) : String :=
  String.ofList (ds.toList.take place) ++ "." ++ String.ofList (ds.toList.drop place)

/-- The digits of a positive double laid out. -/
def magnitudeText (l : Layout) (mantissa : Nat) (exponent : Int) : String :=
  if mantissa == 0 then "0.0"
  else
    let (n, e) := shortest mantissa exponent
    let ds := digits n
    let leading : Int := ds.length - 1 + e
    if l.lowest ≤ leading && leading ≤ l.highest then
      if leading < 0 then "0." ++ zeros (-leading - 1).toNat ++ ds
      else if 0 ≤ e then ds ++ zeros e.toNat ++ ".0"
      else withPoint ds (leading + 1).toNat
    else
      (if ds.length == 1 then ds else withPoint ds 1) ++ exponentText l leading

/-- The text of a double: the fewest digits that read back. -/
def text : Binary64 → String
  | .nan => "nan"
  | .infinite negative => if negative then "-inf" else "inf"
  | .finite negative m e => (if negative then "-" else "") ++ magnitudeText layout m e

/-- Whether the number is whole, and which one then. -/
def toInt? : Binary64 → Option Int
  | .finite negative m e =>
    let (num, den) := ratio m e
    if num % den == 0 then
      let n : Int := num / den
      some (if negative then -n else n)
    else none
  | _ => none

/-- The number without its fraction. -/
def truncate? : Binary64 → Option Int
  | .finite negative m e =>
    let (num, den) := ratio m e
    let n : Int := num / den
    some (if negative then -n else n)
  | _ => none

end Binary64

/-! ### Reading -/

/-- Underscores stand between two digits only. -/
def underscoresSeparateDigits : Option Char → List Char → Bool
  | _, [] => true
  | before, '_' :: rest =>
    before.any Text.isAsciiDigit && rest.head?.any Text.isAsciiDigit &&
      underscoresSeparateDigits (some '_') rest
  | _, c :: rest => underscoresSeparateDigits (some c) rest

/-- The decimal digits of every script brought to the ASCII ones. -/
def asciiDigits (cs : List Char) : List Char :=
  cs.map fun c =>
    match Text.decimalDigit? c with
    | some d => Char.ofNat (48 + d)
    | none => c

/-- The value of a run of ASCII digits. -/
def digitRun (cs : List Char) : Nat :=
  ofDigits 10 (cs.map (·.toNat - 48))

/-- An exponent mark with its signed digits, or nothing. -/
def exponentPart? : List Char → Option Int
  | [] => some 0
  | c :: rest =>
    if c == 'e' || c == 'E' then
      let (negative, ds) := splitSign rest
      if !ds.isEmpty && ds.all Text.isAsciiDigit then
        let n : Int := digitRun ds
        some (if negative then -n else n)
      else none
    else none

/-- The digits around an optional point with an optional exponent: a coefficient and the exponent
of its last digit. -/
def scientific? (cs : List Char) : Option (Nat × Int) :=
  let whole := cs.takeWhile Text.isAsciiDigit
  let rest := cs.dropWhile Text.isAsciiDigit
  let (fraction, rest) :=
    match rest with
    | '.' :: more => (more.takeWhile Text.isAsciiDigit, more.dropWhile Text.isAsciiDigit)
    | more => ([], more)
  if whole.isEmpty && fraction.isEmpty then none
  else (exponentPart? rest).map fun e => (digitRun (whole ++ fraction), e - fraction.length)

/-- Reads a double from its decimal text, or from a name of an infinity or of not-a-number. -/
def parseBinary64? (cs : List Char) : Option Binary64 :=
  let cs := asciiDigits (Text.trimmed isMargin cs)
  if !underscoresSeparateDigits none cs then none
  else
    let (negative, body) := splitSign (cs.filter (· != '_'))
    match scientific? body with
    | some (n, e) => some (Binary64.ofDecimal negative n e)
    | none =>
      let word := String.ofList (body.map Char.toLower)
      if word == "inf" || word == "infinity" then some (.infinite negative)
      else if word == "nan" then some .nan
      else none

end RowDecoding.Number
