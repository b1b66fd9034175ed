/-!
# Encodings

How texts are written in bytes: ASCII, the first 256 characters, or all of them in one to four
bytes. Bytes that write no text are refused at the first place where they fail, and characters that
an encoding lacks at the first run of them.
-/

namespace RowDecoding

namespace Text

/-- The ways of writing texts in bytes. -/
inductive Encoding where
  | ascii
  | latin
  | utf8
deriving DecidableEq, Repr, Inhabited

/-- Why texts cannot be written or read: the range that is at fault, and what is wrong with it. -/
structure EncodingError where
  start : Nat
  stop : Nat
  reason : String
deriving DecidableEq, Repr, Inhabited

namespace Encoding

/-- The name in messages. -/
def name : Encoding → String
  | ascii => "ascii"
  | latin => "latin-1"
  | utf8 => "utf-8"

/-- The names that an encoding goes by, in small letters and with hyphens. -/
def names : List (String × Encoding) :=
  [("utf-8", utf8), ("utf8", utf8), ("u8", utf8), ("utf", utf8), ("ascii", ascii),
    ("us-ascii", ascii), ("646", ascii), ("latin-1", latin), ("latin1", latin),
    ("iso-8859-1", latin), ("iso8859-1", latin), ("8859", latin), ("l1", latin), ("latin", latin)]

/-- The encoding with a name; case and the choice of hyphens do not matter. -/
def named? (text : String) : Option Encoding :=
  names.lookup (String.ofList (text.toList.map fun c =>
    if c == '_' || c == ' ' then '-' else c.toLower))

/-- The characters that an encoding has. -/
def has : Encoding → Char → Bool
  | ascii, c => c.toNat < 128
  | latin, c => c.toNat < 256
  | utf8, _ => true

/-- The reason why a number is too large. -/
def beyond : Encoding → String
  | ascii => "ordinal not in range(128)"
  | _ => "ordinal not in range(256)"

/-- The bytes that write a text. -/
def encode (e : Encoding) (text : String) : Except EncodingError (List UInt8) :=
  let cs := text.toList
  let before := (cs.takeWhile e.has).length
  let lacking := ((cs.drop before).takeWhile (!e.has ·)).length
  if lacking != 0 then .error ⟨before, before + lacking, e.beyond⟩
  else if e == utf8 then .ok text.toUTF8.toList
  else .ok (cs.map fun c => c.toNat.toUInt8)

/-- Bytes that go on with a character. -/
def isContinuation (b : UInt8) : Bool :=
  128 ≤ b.toNat && b.toNat < 192

/-- How many bytes follow one that a character starts with, and the range of the first of them. -/
def following? (b : UInt8) : Option (Nat × Nat × Nat) :=
  let n := b.toNat
  if n < 128 then some (0, 128, 191)
  else if n < 194 then none
  else if n < 224 then some (1, 128, 191)
  else if n < 240 then some (2, if n == 224 then 160 else 128, if n == 237 then 159 else 191)
  else if n < 245 then some (3, if n == 240 then 144 else 128, if n == 244 then 143 else 191)
  else none

/-- What is wrong with the bytes of one character, `start` bytes after the beginning. -/
def characterError? (start : Nat) (b : UInt8) (rest : List UInt8) : Option EncodingError :=
  match following? b with
  | none => some ⟨start, start + 1, "invalid start byte"⟩
  | some (0, _) => none
  | some (count, least, greatest) =>
    let good := match rest with
      | c :: more =>
        if least ≤ c.toNat && c.toNat ≤ greatest then
          1 + ((more.take (count - 1)).takeWhile isContinuation).length
        else 0
      | [] => 0
    if good == count then none
    else if rest.length ≤ good then some ⟨start, start + 1 + good, "unexpected end of data"⟩
    else some ⟨start, start + 1 + good, "invalid continuation byte"⟩

/-- The first thing that is wrong with bytes; `pending` of them belong to a character that is known
to be sound. -/
def firstError? : Nat → Nat → List UInt8 → Option EncodingError
  | _, _, [] => none
  | start, pending + 1, _ :: rest => firstError? (start + 1) pending rest
  | start, 0, b :: rest =>
    match characterError? start b rest with
    | some e => some e
    | none => firstError? (start + 1) ((following? b).map (·.1) |>.getD 0) rest

/-- The text that bytes write. -/
def decode (e : Encoding) (bytes : List UInt8) : Except EncodingError String :=
  match e with
  | utf8 =>
    match String.fromUTF8? ⟨bytes.toArray⟩, firstError? 0 0 bytes with
    | some s, _ => .ok s
    | none, some found => .error found
    | none, none => .error ⟨0, bytes.length, "invalid start byte"⟩
  | _ =>
    let cs := bytes.map fun b => Char.ofNat b.toNat
    let before := (cs.takeWhile e.has).length
    if before < cs.length then .error ⟨before, before + 1, e.beyond⟩ else .ok (String.ofList cs)

end Encoding

end Text

end RowDecoding
