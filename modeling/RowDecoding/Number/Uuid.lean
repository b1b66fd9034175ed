import RowDecoding.Number.Whole
import RowDecoding.Text.Quoted

/-!
# Universally unique identifiers

Numbers of 128 bits, written as 32 hexadecimal digits in five groups. When one is read, hyphens,
braces around it and the marks `urn:` and `uuid:` are ignored, wherever the hyphens stand.
-/

namespace RowDecoding.Number

/-- A number of 128 bits. -/
structure Uuid where
  value : Nat
deriving DecidableEq, Repr, Inhabited

/-- Why a text is no identifier. -/
inductive UuidError where
  | length
  | digits (text : String)
  | range
deriving DecidableEq, Repr

namespace Uuid

/-- The number of identifiers. -/
def count : Nat := Nat.pow 2 128

/-- The text without every occurrence of a word, from left to right; characters of the occurrence
under way are skipped, `pending` of them. -/
def without (word : List Char) : Nat → List Char → List Char
  | _, [] => []
  | pending + 1, _ :: rest => without word pending rest
  | 0, c :: rest =>
    if !word.isEmpty && word.isPrefixOf (c :: rest) then without word (word.length - 1) rest
    else c :: without word 0 rest

/-- Opening and closing braces. -/
def isBrace (c : Char) : Bool :=
  c.toNat == 123 || c.toNat == 125

/-- The digits of a text without everything that is ignored. -/
def bareDigits (cs : List Char) : List Char :=
  let cs := without ['u', 'u', 'i', 'd', ':'] 0 (without ['u', 'r', 'n', ':'] 0 cs)
  let cs := ((cs.dropWhile isBrace).reverse.dropWhile isBrace).reverse
  cs.filter (· != '-')

/-- Reads an identifier. -/
def parse (text : String) : Except UuidError Uuid :=
  let cs := bareDigits text.toList
  if cs.length != 32 then .error .length
  else
    match parseWhole 16 cs with
    | .error _ => .error (.digits (String.ofList cs))
    | .ok n => if n < 0 || count ≤ n.toNat then .error .range else .ok ⟨n.toNat⟩

/-- The identifier with these sixteen bytes. -/
def ofBytes (bytes : List UInt8) : Uuid :=
  ⟨bytes.foldl (fun n b => n * 256 + b.toNat) 0⟩

/-- The sixteen bytes of an identifier. -/
def toBytes (u : Uuid) : List UInt8 :=
  (List.range 16).reverse.map fun i => (u.value / Nat.pow 256 i % 256).toUInt8

/-- So many bits of an identifier from a bit on. -/
def bits (u : Uuid) (low width : Nat) : Nat :=
  u.value / Nat.pow 2 low % Nat.pow 2 width

/-- The bytes in their other order, in which the first three fields start from their ends. -/
def swapped {α : Type} (items : List α) : List α :=
  (items.take 4).reverse ++ ((items.drop 4).take 2).reverse ++ ((items.drop 6).take 2).reverse ++
    items.drop 8

/-- The five groups of digits. -/
def text (u : Uuid) : String :=
  let ds := Text.hex 32 u.value
  let group (start length : Nat) : List Char := (ds.drop start).take length
  String.ofList (group 0 8 ++ '-' :: group 8 4 ++ '-' :: group 12 4 ++ '-' :: group 16 4 ++
    '-' :: group 20 12)

end Uuid

/-! ### Reading by groups -/

/-- Why a text is no identifier in groups. Positions count bytes from one. -/
inductive GroupError where
  | character (c : Char) (position : Nat)
  | length (found : Nat)
  | groupCount (found : Nat)
  | groupLength (group expected found : Nat)
deriving DecidableEq, Repr

namespace Uuid

/-- The lengths of the five groups. -/
def groupLengths : List Nat := [8, 4, 4, 4, 12]

/-- A text without braces around it or the mark before it, and the length of what stood before. -/
def unwrapped (cs : List Char) : List Char × Nat :=
  let mark := ['u', 'r', 'n', ':', 'u', 'u', 'i', 'd', ':']
  if cs.head?.any (·.toNat == 123) && cs.getLast?.any (·.toNat == 125) && 2 ≤ cs.length then
    (cs.tail.dropLast, 1)
  else if mark.isPrefixOf cs then (cs.drop mark.length, mark.length)
  else (cs, 0)

/-- Digits and hyphens. -/
def isGroupChar (c : Char) : Bool :=
  c == '-' || (c.toNat < 128 && (digitValue? c).any (· < 16))

/-- The first character that is neither a digit nor a hyphen, with its position. -/
def strayChar? : Nat → List Char → Option (Char × Nat)
  | _, [] => none
  | position, c :: rest =>
    if isGroupChar c then strayChar? (position + c.utf8Size) rest else some (c, position)

/-- The lengths of the groups between hyphens. -/
def lengthsOfGroups : List Char → List Nat
  | [] => [0]
  | c :: rest =>
    match lengthsOfGroups rest with
    | n :: more => if c == '-' then 0 :: n :: more else (n + 1) :: more
    | [] => [0]

/-- The first group, counted from `group`, whose length is not the expected one. The length of the
last group is said to be `last`. -/
def unequalGroup? (last : Nat) : Nat → List Nat → List Nat → Option GroupError
  | group, e :: expected, f :: found =>
    if e == f then unequalGroup? last (group + 1) expected found
    else some (.groupLength group e (if expected.isEmpty then last else f))
  | _, _, _ => none

/-- The number of characters before the last group. -/
def beforeLastGroup : Nat := 24

/-- Reads an identifier: 32 digits, or five groups of them, in braces or after a mark or by
themselves. -/
def parseGrouped (cs : List Char) : Except GroupError Uuid :=
  let (body, before) := unwrapped cs
  match strayChar? (before + 1) body with
  | some (c, position) => .error (.character c position)
  | none =>
    let value : Uuid := ⟨ofDigits 16 ((body.filter (· != '-')).filterMap digitValue?)⟩
    match lengthsOfGroups body with
    | [n] =>
      if before != 0 then .error (.groupCount 1)
      else if n == 32 then .ok value
      else .error (.length cs.length)
    | found =>
      if found.length != 5 then .error (.groupCount found.length)
      else
        match unequalGroup? (cs.length - beforeLastGroup) 0 groupLengths found with
        | some e => .error e
        | none => .ok value

end Uuid

end RowDecoding.Number
