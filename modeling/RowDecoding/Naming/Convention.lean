import RowDecoding.Naming.Words

/-!
# Naming conventions

The eight ways of writing a column name, their two spellings, and the conversion of an identifier
into each of them. A convention is read from its own spelling (`camelCase`) or, ignoring case,
blanks around it and the choice of hyphen or underscore, from its name (`CAMEL_CASE`).
-/

namespace RowDecoding.Naming

/-- How the names of columns are written. -/
inductive Convention where
  | lowercase
  | uppercase
  | snakeCase
  | screamingSnakeCase
  | kebabCase
  | screamingKebabCase
  | camelCase
  | pascalCase
deriving DecidableEq, Repr, Inhabited

namespace Convention

/-- Every convention, in the order in which messages list them. -/
def all : List Convention :=
  [lowercase, uppercase, snakeCase, screamingSnakeCase, kebabCase, screamingKebabCase, camelCase,
    pascalCase]

/-- The convention's name written in the convention itself. -/
def spelling : Convention → String
  | lowercase => "lowercase"
  | uppercase => "UPPERCASE"
  | snakeCase => "snake_case"
  | screamingSnakeCase => "SCREAMING_SNAKE_CASE"
  | kebabCase => "kebab-case"
  | screamingKebabCase => "SCREAMING-KEBAB-CASE"
  | camelCase => "camelCase"
  | pascalCase => "PascalCase"

/-- The convention's name in capitals. -/
def name : Convention → String
  | lowercase => "LOWERCASE"
  | uppercase => "UPPERCASE"
  | snakeCase => "SNAKE_CASE"
  | screamingSnakeCase => "SCREAMING_SNAKE_CASE"
  | kebabCase => "KEBAB_CASE"
  | screamingKebabCase => "SCREAMING_KEBAB_CASE"
  | camelCase => "CAMEL_CASE"
  | pascalCase => "PASCAL_CASE"

theorem mem_all (c : Convention) : c ∈ all := by
  cases c <;> simp [all]

/-- The convention with exactly this spelling. -/
def ofSpelling? (text : String) : Option Convention :=
  all.find? (·.spelling == text)

/-- The convention with exactly this name. -/
def ofName? (text : String) : Option Convention :=
  all.find? (·.name == text)

/-- A spelling brought to the form of a name: blanks cut off, capitals, no hyphens. -/
def normalized (cs : List Char) : List Char :=
  (Text.upper (Text.trim cs)).map fun c => if c == '-' then '_' else c

/-- Reads a convention from its spelling or else, loosely, from its name. -/
def parse? (text : String) : Option Convention :=
  ofSpelling? text <|> ofName? (String.ofList (normalized text.toList))

end Convention

/-- A word with a capital first and small letters after it; a word of capitals stays one when
`keepAcronyms` asks for that. -/
def capitalize (keepAcronyms : Bool) (word : List Char) : List Char :=
  if keepAcronyms && Text.isUpperWord word then word
  else Text.upper (word.take 1) ++ Text.lower (word.drop 1)

/-- The words with a character between any two of them. -/
def joinWith (separator : Char) : List (List Char) → List Char
  | [] => []
  | [w] => w
  | w :: ws => w ++ separator :: joinWith separator ws

/-- Every word but the first capitalised, the first in lower case, and nothing between them. -/
def camel (keepAcronyms : Bool) : List (List Char) → List Char
  | [] => []
  | w :: ws => Text.lower w ++ ws.flatMap (capitalize keepAcronyms)

/-- The characters of an identifier written in a convention. An all-capital word is taken for an
acronym, and kept, only in an identifier without separators. -/
def convertChars (identifier : List Char) (convention : Convention) : List Char :=
  let name := unescape identifier
  let words := splitWords name
  let keepAcronyms := !name.any isSeparator
  match convention with
  | .lowercase => Text.lower name
  | .uppercase => Text.upper name
  | .snakeCase => joinWith '_' (words.map Text.lower)
  | .screamingSnakeCase => joinWith '_' (words.map Text.upper)
  | .kebabCase => joinWith '-' (words.map Text.lower)
  | .screamingKebabCase => joinWith '-' (words.map Text.upper)
  | .camelCase => camel keepAcronyms words
  | .pascalCase => words.flatMap (capitalize keepAcronyms)

/-- An identifier written in a convention. -/
def convert (identifier : String) (convention : Convention) : String :=
  String.ofList (convertChars identifier.toList convention)

/-- An identifier without the escape of a reserved word. -/
def unescapeIdentifier (identifier : String) : String :=
  String.ofList (unescape identifier.toList)

/-- The words of an identifier as texts. -/
def wordsOf (identifier : String) : List String :=
  (splitWords identifier.toList).map String.ofList

end RowDecoding.Naming
