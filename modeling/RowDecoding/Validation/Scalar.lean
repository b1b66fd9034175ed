import RowDecoding.Scalar.Decode
import RowDecoding.Schema.Settings
import RowDecoding.Validation.Numeral
import RowDecoding.Validation.Verdict

/-!
# Checking scalars

A value against one of the built-in types. A strict check accepts values of the type, and values of
a class derived from it as plain ones; a lax one also reads texts and numbers as values of the type.
-/

namespace RowDecoding

open Number

namespace Value

/-- Values that are just what their class says, not instances of a class derived from it. -/
def isPlain : Value → Bool
  | .whole .. | .member .. | .record .. => false
  | _ => true

/-- The text that bytes write, if they write one. -/
def writtenBy? (bytes : List UInt8) : Option String :=
  String.fromUTF8? ⟨bytes.toArray⟩

/-- What a value is read as where a text is looked for: a kind of text, or what bytes write, which
may be no text at all. Other values are not read. -/
def reading? (v : Value) : Option (Option String) :=
  match v.asText?, v with
  | some s, _ => some (some s)
  | _, .binary .bytes bytes => some (writtenBy? bytes)
  | _, _ => Option.none

/-- What a member of an enumeration stands for. -/
def payload? : Value → Option Value
  | .member _ _ payload => some payload
  | .convention c => some (.text c.spelling)
  | _ => Option.none

end Value

namespace Check

/-! ### Whole numbers -/

/-- A fraction where a whole number is expected. -/
def fractional : Verdict :=
  .reject "int_from_float" "Input should be a valid integer, got a number with a fractional part"

/-- A number too large to be read. -/
def oversized : Verdict :=
  .reject "int_parsing_size" "Unable to parse input string as an integer, exceeded maximum size"

/-- A whole number that is read from a text, or from bytes that may write none. -/
def wholeReading (text : Option String) : Verdict :=
  match text.map Numeral.whole with
  | some (.ok n) => .accept (.int n) .lax
  | some (.error (.tooLong _)) => oversized
  | _ => .reject "int_parsing"
      "Input should be a valid integer, unable to parse string as an integer"

/-- An infinite or undefined number. -/
def notFinite : Verdict :=
  .reject "finite_number" "Input should be a finite number"

/-- Whether a double that is whole can be taken for a whole number: it is less than `2^63`, whatever
its sign. -/
def isModerate (n : Int) : Bool :=
  n.natAbs < Nat.pow 2 63

/-- A double as a whole number, which it is if it has no fraction and is not too large. -/
def wholeDouble (x : Binary64) : Verdict :=
  if x.truncate?.isNone then notFinite
  else
    match x.toInt? with
    | some n => if isModerate n then .accept (.int n) .lax else oversized
    | none => fractional

/-- A decimal number as a whole one, if it is one. -/
def wholeDecimal? (d : Decimal) : Option Int :=
  match d.truncate? with
  | some n => if (Value.decimal d).equal (.int n) then some n else none
  | none => none

/-- A decimal number as a whole number. -/
def wholeDecimal (d : Decimal) : Verdict :=
  if d.truncate?.isNone then notFinite
  else
    match wholeDecimal? d with
    | some n => .accept (.int n) .lax
    | none => fractional

/-- A whole number. A member of an enumeration is taken for what it stands for, whatever that is. -/
def int (strict : Bool) (v : Value) : Verdict :=
  let refuse := Verdict.reject "int_type" "Input should be a valid integer"
  match v.asInt? with
  | some n =>
    if v.isBool then if strict then refuse else .accept (.int n) .lax
    else .accept (.int n) (if v.isPlain then .exact else .strict)
  | none =>
    if strict then refuse
    else
      match v.reading? with
      | some text => wholeReading text
      | none =>
        match v with
        | .float x => wholeDouble x
        | .decimal d => wholeDecimal d
        | _ =>
          match v.payload? with
          | some p => .accept p .lax
          | none => refuse

/-! ### Other numbers -/

/-- The double that a number is, if it is one and fits. -/
def numberOf? (v : Value) : Option Binary64 :=
  let isNumber : Bool :=
    match v with
    | .decimal _ | .float _ => true
    | _ => v.asInt?.isSome
  if isNumber then v.toDouble.toOption else none

/-- A double. Whole and decimal numbers fit, truth values only in a lax check. -/
def anyDouble (strict : Bool) (v : Value) : Verdict :=
  let refuse := Verdict.reject "float_type" "Input should be a valid number"
  match v with
  | .float _ => .exactly v
  | _ =>
    match (if strict then none else v.reading?) with
    | some text =>
      match text.bind Numeral.double? with
      | some x => .accept (.float x) .lax
      | none => .reject "float_parsing"
          "Input should be a valid number, unable to parse string as a number"
    | none =>
      match v with
      | .bool b =>
        if strict then refuse else .accept (.float (Binary64.ofInt (if b then 1 else 0))) .lax
      | _ =>
        match numberOf? v with
        | some x => .accept (.float x) .strict
        | none => refuse

/-- Whether a value is an infinite or undefined number. -/
def isUnbounded : Value → Bool
  | .float (.finite ..) | .decimal (.finite ..) => false
  | .float _ | .decimal _ => true
  | _ => false

/-- A number that has to be finite unless the settings allow others. -/
def finite (allowed : Bool) (verdict : Verdict) : Verdict :=
  match verdict with
  | .ok fit => if isUnbounded fit.value && !allowed then notFinite else verdict
  | .error _ => verdict

/-- A double, which may be infinite or undefined unless the settings forbid it. -/
def float (s : CheckSettings) (v : Value) : Verdict :=
  finite (s.unbounded.getD true) (anyDouble s.strict v)

/-- A decimal number. -/
def anyDecimal (strict : Bool) (v : Value) : Verdict :=
  match v with
  | .decimal _ => .exactly v
  | _ =>
    if strict then .reject "is_instance_of" "Input should be an instance of Decimal"
    else if v.isBool || (v.asText?.isNone && v.asInt?.isNone && !(v matches .float _)) then
      .reject "decimal_type" "Decimal input should be an integer, float, string or Decimal object"
    else
      match v.toDecimal with
      | .ok d => .accept (.decimal d) .lax
      | .error _ => .reject "decimal_parsing" "Input should be a valid decimal"

/-- A decimal number, which has to be finite unless the settings allow others. -/
def decimal (s : CheckSettings) (v : Value) : Verdict :=
  finite (s.unbounded.getD false) (anyDecimal s.strict v)

/-- The texts that stand for truth values. -/
def truthWords : List (String × Bool) :=
  [("0", false), ("off", false), ("f", false), ("false", false), ("n", false), ("no", false),
    ("1", true), ("on", true), ("t", true), ("true", true), ("y", true), ("yes", true)]

/-- A truth value. -/
def bool (strict : Bool) (v : Value) : Verdict :=
  let refuse := Verdict.reject "bool_type" "Input should be a valid boolean"
  let unreadable :=
    Verdict.reject "bool_parsing" "Input should be a valid boolean, unable to interpret input"
  let ofWhole (n : Int) (fits : Bool) : Verdict :=
    if n == 0 then .accept (.bool false) .lax
    else if n == 1 then .accept (.bool true) .lax
    else if fits then unreadable
    else refuse
  match v with
  | .bool _ => .exactly v
  | _ =>
    if strict then refuse
    else
      match v.reading?, v.asInt? with
      | some text, _ =>
        match text.bind fun s => truthWords.lookup (String.ofList (s.toList.map Char.toLower)) with
        | some b => .accept (.bool b) .lax
        | none => unreadable
      | none, some n => ofWhole n (fitsWord n)
      | none, none =>
        match (numberOf? v).bind Binary64.toInt? with
        | some n => ofWhole n (isModerate n)
        | none => refuse

/-! ### Texts and bytes -/

/-- Whether a value is read as a text where numbers are: a number of any class, but no truth
value. -/
def isNumber (v : Value) : Bool :=
  v.magnitude?.isSome && !v.isBool

/-- A text of any form. -/
def anyText (s : CheckSettings) (v : Value) : Verdict :=
  let refuse := Verdict.reject "string_type" "Input should be a valid string"
  match v.asText? with
  | some text => .accept (.text text) (if v.isPlain then .exact else .strict)
  | none =>
    if s.strict then refuse
    else
      match v with
      | .binary .memoryview _ => refuse
      | .binary _ bytes =>
        match Value.writtenBy? bytes with
        | some text => .accept (.text text) .lax
        | none => .reject "string_unicode"
            "Input should be a valid string, unable to parse raw data as a unicode string"
      | _ =>
        if s.numbersAsText && isNumber v then .accept (.text v.plain) .lax
        else
          match v.payload? with
          | some p => .accept (.text p.plain) .lax
          | none => refuse

/-- A number of characters in words. -/
def characters (n : Nat) : String :=
  Number.digits n ++ " character" ++ plural n

/-- A text put right as the settings ask for: first it loses the white space around it, then its
length is looked at, and its letters are changed last. -/
def formed (s : CheckSettings) (text : String) : Except Verdict String :=
  let cs := text.toList
  let cs := if s.strips then Text.trimmed isMargin cs else cs
  if s.shortest.any fun least => cs.length < least then
    .error (.reject "string_too_short"
      ("String should have at least " ++ characters (s.shortest.getD 0)))
  else if s.longest.any fun most => most < cs.length then
    .error (.reject "string_too_long"
      ("String should have at most " ++ characters (s.longest.getD 0)))
  else
    .ok (String.ofList (if s.small then Text.lower cs else if s.capital then Text.upper cs else cs))

/-- A text. -/
def str (s : CheckSettings) (v : Value) : Verdict :=
  match anyText s v with
  | .error issues => .error issues
  | .ok fit =>
    match fit.value with
    | .text text =>
      match formed s text with
      | .ok text => .accept (.text text) fit.exactness
      | .error verdict => verdict
    | _ => .ok fit

/-- Bytes. -/
def bytes (strict : Bool) (v : Value) : Verdict :=
  let refuse := Verdict.reject "bytes_type" "Input should be a valid bytes"
  match v with
  | .binary .bytes _ => .exactly v
  | _ =>
    if strict then refuse
    else
      match v, v.asText? with
      | .binary .bytearray bs, _ => .accept (.binary .bytes bs) .lax
      | _, some s => .accept (.binary .bytes s.toUTF8.toList) .lax
      | _, _ => refuse

/-! ### Identifiers -/

/-- What is wrong with the groups of an identifier. -/
def groupMessage : GroupError → String
  | .character c position =>
    "invalid character: expected an optional prefix of \x60urn:uuid:\x60 followed by " ++
      "[0-9a-fA-F-], found \x60" ++ String.singleton c ++ "\x60 at " ++ digits position
  | .length found =>
    "invalid length: expected length 32 for simple format, found " ++ digits found
  | .groupCount found => "invalid group count: expected 5, found " ++ digits found
  | .groupLength group wanted found =>
    "invalid group length in group " ++ digits group ++ ": expected " ++ digits wanted ++
      ", found " ++ digits found

/-- An identifier that cannot be read. -/
def unreadableUuid (reason : String) : Verdict :=
  .reject "uuid_parsing" ("Input should be a valid UUID, " ++ reason)

/-- An identifier from bytes: the text that they write, or the sixteen bytes themselves. -/
def uuidOfBytes (bs : List UInt8) : Verdict :=
  match (Value.writtenBy? bs).map fun s => Uuid.parseGrouped s.toList with
  | some (.ok u) => .accept (.uuid u) .lax
  | _ =>
    if bs.length == 16 then .accept (.uuid (Uuid.ofBytes bs)) .lax
    else unreadableUuid ("invalid length: expected 16 bytes, found " ++ digits bs.length)

/-- An identifier. -/
def uuid (strict : Bool) (v : Value) : Verdict :=
  match v with
  | .uuid _ => .exactly v
  | _ =>
    if strict then .reject "is_instance_of" "Input should be an instance of UUID"
    else
      match v with
      | .text s =>
        match Uuid.parseGrouped s.toList with
        | .ok u => .accept (.uuid u) .lax
        | .error e => unreadableUuid (groupMessage e)
      | .binary .bytes bs => uuidOfBytes bs
      | _ => .reject "uuid_type" "UUID input should be a string, bytes or UUID object"

/-! ### Nothing -/

/-- Nothing. -/
def noneType (v : Value) : Verdict :=
  match v with
  | .none => .exactly v
  | _ => .reject "none_required" "Input should be None"

end Check

end RowDecoding
