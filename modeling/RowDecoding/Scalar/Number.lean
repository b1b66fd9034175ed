import RowDecoding.Failure.Basic

/-!
# Numbers out of values

Whole numbers, doubles and decimal numbers made from values of any class: from numbers by value,
from texts and byte strings by what they write. A value that cannot stand for a number at all is a
failure of its class, one that does not write a number a failure of the value.
-/

namespace RowDecoding

open Number

namespace Value

/-- The characters that binary data is read as. A byte beyond ASCII stands for a character that no
number has. -/
def readable (bytes : List UInt8) : List Char :=
  bytes.map fun b => if b.toNat < 128 then Char.ofNat b.toNat else Char.ofNat 0xFFFD

/-- A failure about a literal of a whole number; at most 200 characters of it are shown. -/
def malformedWhole (base : Nat) (shown : String) : Fault :=
  Fault.wrongValue ("invalid literal for int() with base " ++ digits base ++ ": " ++
    String.ofList (shown.toList.take 200))

/-- Reads a whole number that is shown as `shown` where it cannot be read. -/
def readWhole (base : Nat) (shown : String) (cs : List Char) : Except Fault Int :=
  match parseWhole base cs with
  | .ok n => .ok n
  | .error .malformed => .error (malformedWhole base shown)
  | .error (.tooLong count) => .error (Fault.tooManyDigits count)

/-- Reads a whole number that bytes write; at most 200 of them are shown. -/
def readWholeBytes (base : Nat) (bytes : List UInt8) : Except Fault Int :=
  readWhole base (Text.quoteBytes (bytes.take 200)) (readable bytes)

/-- A number without its fraction, if it is finite. -/
def truncated (whole? : Option Int) (isUndefined : Bool) (infinity undefined : String) :
    Except Fault Int :=
  match whole? with
  | some n => .ok n
  | .none =>
    .error (if isUndefined then Fault.wrongValue ("cannot convert " ++ undefined ++ " to integer")
      else Fault.raised .overflow ("cannot convert " ++ infinity ++ " to integer"))

/-- The whole number that a value makes. Fractions are cut off. -/
def toWhole (v : Value) : Except Fault Int :=
  match v.asInt?, v.asText? with
  | some n, _ => .ok n
  | _, some s => readWhole 10 v.shown s.toList
  | .none, .none =>
    match v.content with
    | .float x => truncated x.truncate? (x == .nan) "float infinity" "float NaN"
    | .decimal d => truncated d.truncate? v.isUndefined "Infinity" "NaN"
    | .binary _ bytes => readWholeBytes 10 bytes
    | .uuid u => .ok u.value
    | _ => .error (Fault.wrongType
        ("int() argument must be a string, a bytes-like object or a real number, not '" ++
          v.fullTypeName ++ "'"))

/-- The double nearest to a whole number. -/
def nearestDouble (n : Int) : Except Fault Binary64 :=
  match Binary64.ofInt n with
  | .infinite _ => .error (Fault.raised .overflow "int too large to convert to float")
  | x => .ok x

/-- Reads a double. -/
def readDouble (shown : String) (cs : List Char) : Except Fault Binary64 :=
  match parseBinary64? cs with
  | some x => .ok x
  | .none => .error (Fault.wrongValue ("could not convert string to float: " ++ shown))

/-- The double that a value makes. -/
def toDouble (v : Value) : Except Fault Binary64 :=
  match v.asInt?, v.asText? with
  | some n, _ => nearestDouble n
  | _, some s => readDouble v.shown s.toList
  | .none, .none =>
    match v.content with
    | .float x => .ok x
    | .decimal (.nan _ true _) =>
      .error (Fault.wrongValue "cannot convert signaling NaN to float")
    | .decimal (.nan ..) => .ok .nan
    | .decimal (.infinite negative) => .ok (.infinite negative)
    | .decimal (.finite negative n e) => .ok (Binary64.ofDecimal negative n e)
    | .binary _ bytes => readDouble v.shown (readable bytes)
    | _ => .error (Fault.wrongType
        ("float() argument must be a string or a real number, not '" ++ v.fullTypeName ++ "'"))

/-! ### Decimal numbers -/

/-- Reads a decimal number; `v` is the value that it comes from. -/
def readDecimal (v : Value) (cs : List Char) : Except Fault Decimal :=
  match Decimal.parse? cs with
  | some d => .ok d
  | .none =>
    .error (if v.isUnwritable then Fault.tooLongToWrite
      else Fault.wrongValue ("invalid decimal literal " ++ v.shown))

/-- The digits of a coefficient that is given as a sequence. -/
def coefficientDigits (v : Value) : Except Fault (List Char) :=
  let refusal := Fault.wrongValue "coefficient must be a tuple of digits"
  match v.asSequence? with
  | .none => .error refusal
  | some items =>
    items.mapM fun item =>
      match item.asInt? with
      | some n => if 0 ≤ n && n ≤ 9 then .ok (Char.ofNat (48 + n.toNat)) else .error refusal
      | .none => .error refusal

/-- What the last of three parts says: the word for a special number, or an exponent. -/
def exponentOrWord (v : Value) : Except Fault (List Char ⊕ Int) :=
  match v with
  | .text "F" => .ok (.inl ['I', 'n', 'f'])
  | .text "n" => .ok (.inl ['N', 'a', 'N'])
  | .text "N" => .ok (.inl ['s', 'N', 'a', 'N'])
  | .text _ => .error (Fault.wrongValue
      "string argument in the third position must be 'F', 'n' or 'N'")
  | v =>
    match v.asInt? with
    | some e => .ok (.inr e)
    | .none => .error (Fault.wrongValue "exponent must be an integer")

/-- The literal of a decimal number that is given as its sign, its digits and its exponent. -/
def literalOfParts : List Value → Except Fault (List Char)
  | [sign, coefficient, exponent] => do
    let negative ←
      match sign.asInt? with
      | some 0 => pure false
      | some 1 => pure true
      | _ => throw (Fault.wrongValue "sign must be an integer with the value 0 or 1")
    let last ← exponentOrWord exponent
    let ds ← coefficientDigits coefficient
    let body :=
      match last with
      | .inl ['I', 'n', 'f'] => ['I', 'n', 'f']
      | .inl word => word ++ ds
      | .inr e => (if ds.isEmpty then ['0'] else ds) ++ 'E' :: (decimalText e).toList
    pure (if negative then '-' :: body else body)
  | _ => throw (Fault.wrongValue "argument must be a sequence of length 3")

/-- The decimal number that a value makes: exactly that of a whole number or a literal, and that of
the shortest text of a double. -/
def toDecimal (v : Value) : Except Fault Decimal :=
  match v.asInt?, v.asText? with
  | some n, _ => .ok (Decimal.ofInt n)
  | _, some s => readDecimal v s.toList
  | .none, .none =>
    match v.content with
    | .decimal d => .ok d
    | .float x => readDecimal v x.text.toList
    | _ =>
      match v.asSequence? with
      | some parts => do readDecimal v (← literalOfParts parts)
      | .none => .error (Fault.wrongType
          ("conversion from " ++ v.fullTypeName ++ " to Decimal is not supported"))

end Value

end RowDecoding
