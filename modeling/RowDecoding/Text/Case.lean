import RowDecoding.Text.CaseClass
import RowDecoding.Text.CaseMap
import RowDecoding.Text.CharClass

/-!
# Letter case, digits and blanks

The character classes and case mappings that names and texts are judged by. They are the ones of
the whole character set: `ß` becomes `SS` in upper case, `²` is a digit, and a capital sigma at the
end of a word becomes `ς` in lower case. Below code point 128 each function is a comparison of
ranges; above, a look-up in a table of spans.
-/

namespace RowDecoding.Text

/-- Upper-case letters. -/
def isUpper (c : Char) : Bool :=
  if c.toNat < 128 then 'A' ≤ c && c ≤ 'Z' else covered CaseClass.uppercase c.toNat

/-- Lower-case letters. -/
def isLower (c : Char) : Bool :=
  if c.toNat < 128 then 'a' ≤ c && c ≤ 'z' else covered CaseClass.lowercase c.toNat

/-- Digraphs with a capital first half, such as `ǅ`. -/
def isTitle (c : Char) : Bool :=
  128 ≤ c.toNat && covered CaseClass.titlecase c.toNat

/-- Letters that have a case at all. -/
def isCased (c : Char) : Bool :=
  isUpper c || isLower c || isTitle c

/-- Characters that stand inside a word without ending it: marks, apostrophes, full stops. -/
def isCaseIgnorable (c : Char) : Bool :=
  covered CaseClass.caseIgnorable c.toNat

/-- The ten digits of ASCII. -/
def isAsciiDigit (c : Char) : Bool :=
  '0' ≤ c && c ≤ '9'

/-- Characters with a digit value. -/
def isDigit (c : Char) : Bool :=
  if c.toNat < 128 then '0' ≤ c && c ≤ '9' else covered CharClass.digits c.toNat

/-- The value of a decimal digit of any script. -/
def decimalDigit? (c : Char) : Option Nat :=
  if c.toNat < 128 then
    if '0' ≤ c && c ≤ '9' then some (c.toNat - 48) else none
  else
    (CharClass.zeros.find? fun z => z ≤ c.toNat && c.toNat ≤ z + 9).map (c.toNat - ·)

/-- White space: the controls from tab to carriage return and from file to unit separator, the
next-line control, and every space, line and paragraph separator. -/
def blanks : List Span :=
  [⟨9, 13, 1⟩, ⟨28, 32, 1⟩, ⟨133, 133, 1⟩, ⟨160, 160, 1⟩, ⟨5760, 5760, 1⟩, ⟨8192, 8202, 1⟩,
    ⟨8232, 8233, 1⟩, ⟨8239, 8239, 1⟩, ⟨8287, 8287, 1⟩, ⟨12288, 12288, 1⟩]

/-- White space. -/
def isBlank (c : Char) : Bool :=
  covered blanks c.toNat

/-- Characters that a quoted text shows as they are. -/
def isPrintable (c : Char) : Bool :=
  if c.toNat < 128 then ' ' ≤ c && c ≤ '~' else covered CharClass.printable c.toNat

/-- The text without the characters of a kind at its two ends. -/
def trimmed (kind : Char → Bool) (cs : List Char) : List Char :=
  ((cs.dropWhile kind).reverse.dropWhile kind).reverse

/-- The text without the blanks at its two ends. -/
def trim (cs : List Char) : List Char :=
  trimmed isBlank cs

/-- A character moved by the first shift whose span covers it; others stay. -/
def shifted (table : List CaseMap.Shift) (c : Char) : Char :=
  match table.find? (·.span.covers c.toNat) with
  | some s => Char.ofNat (c.toNat + s.distance).toNat
  | none => c

/-- One character mapped by the expansions first and the shifts second. -/
def mapped (expansions : List (Nat × List Nat)) (shifts : List CaseMap.Shift) (c : Char) :
    List Char :=
  match expansions.lookup c.toNat with
  | some codes => codes.map Char.ofNat
  | none => [shifted shifts c]

/-- The upper-case form of one character. -/
def upperChar (c : Char) : List Char :=
  if c.toNat < 128 then
    if 'a' ≤ c && c ≤ 'z' then [Char.ofNat (c.toNat - 32)] else [c]
  else mapped CaseMap.upperExpansions CaseMap.upperShifts c

/-- The lower-case form of one character outside any context. -/
def lowerChar (c : Char) : List Char :=
  if c.toNat < 128 then
    if 'A' ≤ c && c ≤ 'Z' then [Char.ofNat (c.toNat + 32)] else [c]
  else mapped CaseMap.lowerExpansions CaseMap.lowerShifts c

/-- The text in upper case. -/
def upper (cs : List Char) : List Char :=
  cs.flatMap upperChar

/-- Whether the first character that does not stand inside a word is a cased letter. -/
def meetsCased (cs : List Char) : Bool :=
  (cs.dropWhile isCaseIgnorable).head?.any isCased

/-- Lower case with the characters read so far, last one first. A capital sigma between a letter
and the end of its word becomes the final form. -/
def lowerAfter (before : List Char) : List Char → List Char
  | [] => []
  | c :: rest =>
    let form :=
      if c = 'Σ' then
        if meetsCased before && !meetsCased rest then ['ς'] else ['σ']
      else lowerChar c
    form ++ lowerAfter (c :: before) rest

/-- The text in lower case. -/
def lower (cs : List Char) : List Char :=
  lowerAfter [] cs

/-- A text whose cased letters are all upper case, and that has one. -/
def isUpperWord (cs : List Char) : Bool :=
  cs.any isUpper && !cs.any fun c => isLower c || isTitle c

end RowDecoding.Text
