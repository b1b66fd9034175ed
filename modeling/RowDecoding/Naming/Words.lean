import RowDecoding.Text.Case

/-!
# The words of an identifier

Underscores, hyphens and blanks separate words, and so does a change of case: a capital starts a
word after a small letter or a digit (`userId`), and the last capital of a run starts one before a
small letter (`HTTPServer`). Digits stay with the word before them.
-/

namespace RowDecoding.Naming

/-- Underscores, hyphens and blanks separate words and belong to none. -/
def isSeparator (c : Char) : Bool :=
  c == '_' || c == '-' || Text.isBlank c

/-- Whether `b` starts a word right after `a`, with `next` following it. -/
def startsWord (a b : Char) (next : Option Char) : Bool :=
  Text.isUpper b &&
    (Text.isLower a || Text.isDigit a || (Text.isUpper a && next.any Text.isLower))

/-- One more character in front of the first word. -/
def extendFirst (a : Char) : List (List Char) → List (List Char)
  | [] => [[a]]
  | w :: ws => (a :: w) :: ws

/-- The words of an identifier, in order. -/
def splitWords : List Char → List (List Char)
  | [] => []
  | a :: rest =>
    if isSeparator a then splitWords rest
    else match rest with
      | [] => [[a]]
      | b :: _ =>
        if isSeparator b || startsWord a b rest.tail.head? then [a] :: splitWords rest
        else extendFirst a (splitWords rest)

/-- Words that no identifier can be spelt as. -/
def keywords : List String :=
  ["False", "None", "True", "and", "as", "assert", "async", "await", "break", "class", "continue",
    "def", "del", "elif", "else", "except", "finally", "for", "from", "global", "if", "import",
    "in", "is", "lambda", "nonlocal", "not", "or", "pass", "raise", "return", "try", "while",
    "with", "yield"]

/-- Words that are written with a trailing underscore where an identifier is meant: the keywords,
and those that are keywords in some places only. -/
def reservedWords : List String :=
  keywords ++ ["_", "case", "match"]

/-- The reserved words as characters. -/
def isReserved (cs : List Char) : Bool :=
  reservedWords.any (·.toList == cs)

/-- An identifier without the underscore that escapes a reserved word; other identifiers stay as
they are. -/
def unescape (cs : List Char) : List Char :=
  match cs.reverse with
  | '_' :: '_' :: _ => cs
  | '_' :: base => if isReserved base.reverse then base.reverse else cs
  | _ => cs

end RowDecoding.Naming
