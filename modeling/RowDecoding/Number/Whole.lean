import RowDecoding.Text.Case

/-!
# Whole numbers in text

Reading and writing whole numbers. A literal may have blanks around it, a sign, the mark of its
base (`0x`, `0o`, `0b`), digits of any script, and single underscores between digits. In a base
that is not a power of two, texts of more than 4300 digits are refused in both directions, since
the conversion takes quadratic time.
-/

namespace RowDecoding.Number

/-- The decimal digits of a number. -/
def digits (n : Nat) : String :=
  toString n

/-- The decimal digits of a number with zeros before them up to a width. -/
def padded (width n : Nat) : String :=
  let ds := digits n
  String.ofList (List.replicate (width - ds.length) '0') ++ ds

/-- The decimal text of a number. -/
def decimalText (n : Int) : String :=
  toString n

/-- The most digits that a decimal text may have. -/
def digitLimit : Nat := 4300

/-- Whether the decimal text of a number would be too long. -/
def exceedsLimit (n : Int) : Bool :=
  Nat.pow 10 digitLimit ≤ n.natAbs

/-- The least number that 64 bits hold with its sign. -/
def leastWord : Int := -9223372036854775808

/-- The greatest number that 64 bits hold with its sign. -/
def greatestWord : Int := 9223372036854775807

/-- Whether 64 bits hold a number with its sign. -/
def fitsWord (n : Int) : Bool :=
  leastWord ≤ n && n ≤ greatestWord

/-- The nearest number that 64 bits hold with its sign. -/
def clampedWord (n : Int) : Int :=
  if n < leastWord then leastWord else if greatestWord < n then greatestWord else n

/-- The value of a digit or letter in bases up to 36; decimal digits of every script count. -/
def digitValue? (c : Char) : Option Nat :=
  match Text.decimalDigit? c with
  | some d => some d
  | none =>
    if 'a' ≤ c && c ≤ 'z' then some (c.toNat - 87)
    else if 'A' ≤ c && c ≤ 'Z' then some (c.toNat - 55)
    else none

/-- The digits at the beginning of a text, in which single underscores may stand between two digits,
and what follows them. It is no run where a digit has to come next, as `due` says, and none does. -/
def digitRun? (base : Nat) (due : Bool) : List Char → Option (List Nat × List Char)
  | [] => if due then none else some ([], [])
  | c :: rest =>
    match (digitValue? c).filter (· < base) with
    | some d => (digitRun? base false rest).map fun (ds, after) => (d :: ds, after)
    | none =>
      if due then none
      else if c == '_' then digitRun? base true rest
      else some ([], c :: rest)

/-- The number with these digits, the most significant one first. -/
def ofDigits (base : Nat) (ds : List Nat) : Nat :=
  ds.foldl (fun n d => n * base + d) 0

/-- A sign and the characters after it. -/
def splitSign : List Char → Bool × List Char
  | '-' :: rest => (true, rest)
  | '+' :: rest => (false, rest)
  | cs => (false, cs)

/-- The base that a mark after a leading zero stands for. -/
def markedBase? (c : Char) : Option Nat :=
  if c == 'x' || c == 'X' then some 16
  else if c == 'o' || c == 'O' then some 8
  else if c == 'b' || c == 'B' then some 2
  else none

/-- The base to read the digits in, and the digits after the mark. An explicit base may have its
own mark; base 0 stands for whatever the mark says, and ten without one. -/
def resolveBase (base : Nat) (cs : List Char) : Nat × List Char :=
  match cs with
  | zero :: mark :: rest =>
    if digitValue? zero == some 0 then
      match markedBase? mark with
      | some b =>
        if base == 0 || base == b then
          (b, match rest with | '_' :: more => more | more => more)
        else (base, cs)
      | none => (if base == 0 then 10 else base, cs)
    else (if base == 0 then 10 else base, cs)
  | _ => (if base == 0 then 10 else base, cs)

/-- Why a text is no whole number. -/
inductive WholeError where
  | malformed
  | tooLong (digits : Nat)
deriving DecidableEq, Repr

/-- The bases without a limit on the length of a text. -/
def isPowerOfTwo (base : Nat) : Bool :=
  base == 2 || base == 4 || base == 8 || base == 16 || base == 32

/-- White space that may stand around a number: all but the four separators of the controls. -/
def isMargin (c : Char) : Bool :=
  Text.isBlank c && !(28 ≤ c.toNat && c.toNat ≤ 31)

/-- Reads a whole number in a base from 2 to 36, or in base 0 by its mark. Too many digits are
refused whatever follows them. -/
def parseWhole (base : Nat) (cs : List Char) : Except WholeError Int :=
  let (negative, unsigned) := splitSign (Text.trimmed isMargin cs)
  let (b, body) := resolveBase base unsigned
  match digitRun? b true body with
  | none => .error .malformed
  | some (ds, rest) =>
    if !isPowerOfTwo b && digitLimit < ds.length then .error (.tooLong ds.length)
    else if !rest.isEmpty then .error .malformed
    else
      let n := ofDigits b ds
      if base == 0 && b == 10 && ds.head? == some 0 && n != 0 then .error .malformed
      else .ok (if negative then -(n : Int) else n)

end RowDecoding.Number
