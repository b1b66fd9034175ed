import RowDecoding.Number.Binary64

/-!
# Decimal numbers

Decimal numbers that keep the exponent they were written with: `1.50` and `1.5` are equal but
differ in their texts. Besides the finite ones there are two infinities, and not-a-number, quiet
or signalling, with a diagnostic number.
-/

namespace RowDecoding.Number

/-- A decimal number; a finite one is `±coefficient · 10^exponent`. -/
inductive Decimal where
  | finite (negative : Bool) (coefficient : Nat) (exponent : Int)
  | infinite (negative : Bool)
  | nan (negative signalling : Bool) (payload : Nat)
deriving DecidableEq, Repr, Inhabited

namespace Decimal

/-- Zero without decimals. -/
def zero : Decimal := .finite false 0 0

/-- A whole number. -/
def ofInt (n : Int) : Decimal :=
  .finite (n < 0) n.natAbs 0

/-- The greatest exponent of a leading digit. -/
def greatestExponent : Int := 999999999999999999

/-- The least exponent of a last digit. -/
def leastExponent : Int := -1999999999999999997

/-- Whether the format can hold `coefficient · 10^exponent`. -/
def representable (coefficient : Nat) (exponent : Int) : Bool :=
  let adjusted : Int := exponent + (digits coefficient).length - 1
  leastExponent ≤ exponent && adjusted ≤ greatestExponent

/-- A diagnostic number after the word for not-a-number. -/
def payload? (cs : List Char) : Option Nat :=
  if cs.all Text.isAsciiDigit then some (digitRun cs) else none

/-- The words for infinities and not-a-number, in any case. -/
def special? (negative : Bool) (cs : List Char) : Option Decimal :=
  match cs.map Char.toLower with
  | ['i', 'n', 'f'] | ['i', 'n', 'f', 'i', 'n', 'i', 't', 'y'] => some (.infinite negative)
  | 'n' :: 'a' :: 'n' :: ds => (payload? ds).map (.nan negative false)
  | 's' :: 'n' :: 'a' :: 'n' :: ds => (payload? ds).map (.nan negative true)
  | _ => none

/-- Reads a decimal number. Blanks around it and underscores anywhere are ignored. -/
def parse? (cs : List Char) : Option Decimal :=
  let (negative, body) := splitSign ((asciiDigits (Text.trim cs)).filter (· != '_'))
  match scientific? body with
  | some (n, e) => if representable n e then some (.finite negative n e) else none
  | none => special? negative body

/-- Whether a text writes a finite number, which may be beyond what the format can hold. -/
def isLiteral (cs : List Char) : Bool :=
  (scientific? (splitSign ((asciiDigits (Text.trim cs)).filter (· != '_'))).2).isSome

/-- A double, to the last digit. -/
def ofBinary64 : Binary64 → Decimal
  | .nan => .nan false false 0
  | .infinite negative => .infinite negative
  | .finite negative m e =>
    if 0 ≤ e then .finite negative (m * Nat.pow 2 e.toNat) 0
    else
      let (num, den) := (m / Nat.gcd m (Nat.pow 2 (-e).toNat),
        Nat.pow 2 (-e).toNat / Nat.gcd m (Nat.pow 2 (-e).toNat))
      let places := Nat.log2 den
      .finite negative (num * Nat.pow 5 places) (-(places : Int))

/-- The digits of a finite number with a point or an exponent: positional if the exponent is not
positive and the leading digit stands no more than six places after the point. -/
def magnitudeText (coefficient : Nat) (exponent : Int) : String :=
  let ds := digits coefficient
  let left : Int := exponent + ds.length
  let place : Int := if exponent ≤ 0 && -6 < left then left else 1
  let body :=
    if place ≤ 0 then "0." ++ Binary64.zeros (-place).toNat ++ ds
    else if (ds.length : Int) ≤ place then ds ++ Binary64.zeros (place - ds.length).toNat
    else Binary64.withPoint ds place.toNat
  let shift := left - place
  if shift == 0 then body
  else body ++ (if shift < 0 then "E-" else "E+") ++ digits shift.natAbs

/-- The text of a decimal number. -/
def text : Decimal → String
  | .finite negative n e => (if negative then "-" else "") ++ magnitudeText n e
  | .infinite negative => if negative then "-Infinity" else "Infinity"
  | .nan negative signalling payload =>
    (if negative then "-" else "") ++ (if signalling then "sNaN" else "NaN") ++
      (if payload == 0 then "" else digits payload)

/-- The number without its fraction. -/
def truncate? : Decimal → Option Int
  | .finite negative n e =>
    let m : Nat := if 0 ≤ e then n * Nat.pow 10 e.toNat else n / Nat.pow 10 (-e).toNat
    some (if negative then -(m : Int) else m)
  | _ => none

end Decimal

/-! ### Comparing numbers of different kinds -/

/-- A number apart from its representation: finite numbers as `±coefficient · 10^exponent` with a
coefficient that does not end in zero. -/
inductive Magnitude where
  | finite (negative : Bool) (coefficient : Nat) (exponent : Int)
  | infinite (negative : Bool)
  | undefined
deriving DecidableEq, Repr

namespace Magnitude

/-- The normal form of `±coefficient · 10^exponent`. -/
def ofScaled (negative : Bool) (coefficient : Nat) (exponent : Int) : Magnitude :=
  if coefficient == 0 then .finite false 0 0
  else
    let (n, e) :=
      Binary64.withoutTrailingZeros (digits coefficient).length coefficient exponent
    .finite negative n e

/-- A whole number. -/
def ofInt (n : Int) : Magnitude :=
  ofScaled (n < 0) n.natAbs 0

/-- A double. -/
def ofBinary64 : Binary64 → Magnitude
  | .nan => .undefined
  | .infinite negative => .infinite negative
  | .finite negative m e =>
    if 0 ≤ e then ofScaled negative (m * Nat.pow 2 e.toNat) 0
    else ofScaled negative (m * Nat.pow 5 (-e).toNat) e

/-- A decimal number. -/
def ofDecimal : Decimal → Magnitude
  | .nan .. => .undefined
  | .infinite negative => .infinite negative
  | .finite negative n e => ofScaled negative n e

/-- Equality of numbers; not-a-number differs from everything. -/
def equal : Magnitude → Magnitude → Bool
  | .undefined, _ => false
  | _, .undefined => false
  | a, b => a == b

/-- Whether `m · 10^e` is less than `n · 10^f`, of two positive numbers; powers are computed only if
the leading digits have the same exponent. -/
def isBelow (m : Nat) (e : Int) (n : Nat) (f : Int) : Bool :=
  let highest : Int := (digits m).length + e
  let other : Int := (digits n).length + f
  if highest == other then m * Nat.pow 10 (e - f).toNat < n * Nat.pow 10 (f - e).toNat
  else highest < other

/-- The order of numbers; not-a-number is not less than anything, nor is anything less than it. -/
def isLess : Magnitude → Magnitude → Bool
  | .undefined, _ => false
  | _, .undefined => false
  | .infinite s, .infinite t => s && !t
  | .infinite s, .finite .. => s
  | .finite .., .infinite t => !t
  | .finite s m e, .finite t n f =>
    if m == 0 then n != 0 && !t
    else if n == 0 || s != t then s
    else if s then isBelow n f m e
    else isBelow m e n f

end Magnitude

end RowDecoding.Number
