import RowDecoding.Naming.Words
import RowDecoding.Text.Name
import RowDecoding.Value.Basic

/-!
# Written types

The expressions that a text may write where it stands for a type: names, their parts, types with
arguments, alternatives between bars, and a few constants. A text is cut into tokens, and the tokens
are read by descent; every step down and every token take one unit of fuel.
-/

namespace RowDecoding

/-- An expression that writes a type. -/
inductive Expression where
  | reference (name : String)
  | constant (v : Value)
  /-- Any number of further things. -/
  | further
  | part (owner : Expression) (name : String)
  | index (owner : Expression) (arguments : List Expression)
  | bar (left right : Expression)
  | tuple (items : List Expression)
  | list (items : List Expression)

instance : Inhabited Expression := ⟨.further⟩

namespace Expression

/-! ### Tokens -/

/-- A piece of a text that is read as a whole. -/
inductive Token where
  | word (text : String)
  | number (text : String)
  | text (s : String)
  | dots
  | mark (c : Char)
deriving DecidableEq, Repr, Inhabited

/-- Characters that stand for themselves. -/
def marks : List Char :=
  ['[', ']', '(', ')', ',', '.', '|', '-']

/-- Characters that may stand between tokens. -/
def isGap (c : Char) : Bool :=
  c == ' ' || c == '\t' || c == '\n' || c == '\r' || c.toNat == 12

/-- Quotation marks. -/
def isQuote (c : Char) : Bool :=
  c.toNat == 34 || c.toNat == 39

/-- The characters at the beginning of a text that belong to a number; `before` is the one before
them. A sign belongs to it after the mark of an exponent. -/
def numeralRun (before : Char) : List Char → List Char
  | [] => []
  | c :: rest =>
    if Text.continuesName c || c == '.' then c :: numeralRun c rest
    else if (c == '-' || c == '+') && (before == 'e' || before == 'E') then c :: numeralRun c rest
    else []

/-- The first token of a text, and what follows it. -/
def token? : List Char → Option (Token × List Char)
  | '.' :: '.' :: '.' :: rest => some (.dots, rest)
  | [] => none
  | c :: rest =>
    if marks.contains c then some (.mark c, rest)
    else if isQuote c then
      let inner := rest.takeWhile fun d => d != c && d != '\\' && d != '\n'
      match rest.drop inner.length with
      | d :: after => if d == c then some (.text (String.ofList inner), after) else none
      | [] => none
    else if Text.beginsName c then
      let word := (c :: rest).takeWhile Text.continuesName
      some (.word (String.ofList word), rest.drop (word.length - 1))
    else if Text.isAsciiDigit c then
      let body := numeralRun c rest
      some (.number (String.ofList (c :: body)), rest.drop body.length)
    else none

/-- The tokens of a text. A text may end in a remark. -/
def tokens? : Nat → List Char → Option (List Token)
  | 0, _ => some []
  | fuel + 1, cs =>
    match cs.dropWhile isGap with
    | [] | '#' :: _ => some []
    | cs => do
      let (t, rest) ← token? cs
      return t :: (← tokens? fuel rest)

/-! ### Reading -/

/-- What a word by itself stands for. A keyword has no meaning of its own. -/
def ofWord? (word : String) : Option Expression :=
  if word == "None" then some (.constant .none)
  else if word == "True" then some (.constant (.bool true))
  else if word == "False" then some (.constant (.bool false))
  else if Naming.keywords.contains word then none
  else some (.reference word)

/-- The number that a text writes: a double if it has a point or an exponent, or else a whole one.
-/
def ofNumeral? (negative : Bool) (text : String) : Option Expression :=
  match Number.parseWhole 0 text.toList with
  | .ok n => some (.constant (.int (if negative then -n else n)))
  | .error _ =>
    if text.toList.all fun c => c != '.' && c != 'e' && c != 'E' then none
    else
      (Number.parseBinary64? text.toList).map fun x =>
        .constant (.float (if negative then x.negated else x))

/-- Several things between commas: one thing without a comma is that thing, anything else a tuple.
-/
def ofItems : List Expression × Bool → Expression
  | ([e], false) => e
  | (items, _) => .tuple items

/-- A thing with arguments in brackets. -/
def indexed (owner : Expression) : List Expression × Bool → Expression
  | ([.tuple items], false) => .index owner items
  | (items, _) => .index owner items

/-- Whether a token closes brackets. -/
def closes : Token → Bool
  | .mark c => c == ']' || c == ')'
  | _ => false

mutual

/-- Reads several things between commas, and whether there was a comma. -/
def items? : Nat → List Token → Option ((List Expression × Bool) × List Token)
  | 0, _ => none
  | fuel + 1, ts => do
    let (e, ts) ← bars? fuel ts
    match ts with
    | .mark ',' :: rest =>
      if rest.isEmpty || rest.head?.any closes then pure (([e], true), rest)
      else
        let ((es, _), rest) ← items? fuel rest
        pure ((e :: es, true), rest)
    | _ => pure (([e], false), ts)

/-- Reads alternatives between bars. -/
def bars? : Nat → List Token → Option (Expression × List Token)
  | 0, _ => none
  | fuel + 1, ts => do
    let (e, ts) ← primary? fuel ts
    moreBars? fuel e ts

/-- Reads the alternatives after the first ones. -/
def moreBars? : Nat → Expression → List Token → Option (Expression × List Token)
  | 0, _, _ => none
  | fuel + 1, left, .mark '|' :: ts => do
    let (right, ts) ← primary? fuel ts
    moreBars? fuel (.bar left right) ts
  | _ + 1, left, ts => some (left, ts)

/-- Reads a thing with its parts and arguments. -/
def primary? : Nat → List Token → Option (Expression × List Token)
  | 0, _ => none
  | fuel + 1, ts => do
    let (e, ts) ← atom? fuel ts
    suffixes? fuel e ts

/-- Reads the parts and arguments that follow a thing. -/
def suffixes? : Nat → Expression → List Token → Option (Expression × List Token)
  | 0, _, _ => none
  | fuel + 1, e, .mark '.' :: .word name :: ts =>
    if Naming.keywords.contains name then none else suffixes? fuel (.part e name) ts
  | fuel + 1, e, .mark '[' :: ts => do
    let (arguments, ts) ← items? fuel ts
    match ts with
    | .mark ']' :: ts => suffixes? fuel (indexed e arguments) ts
    | _ => none
  | _ + 1, e, ts => some (e, ts)

/-- Reads a single thing. -/
def atom? : Nat → List Token → Option (Expression × List Token)
  | _ + 1, .word w :: ts => (ofWord? w).map fun e => (e, ts)
  | _ + 1, .number s :: ts => (ofNumeral? false s).map fun e => (e, ts)
  | _ + 1, .mark '-' :: .number s :: ts => (ofNumeral? true s).map fun e => (e, ts)
  | _ + 1, .text s :: ts => some (.constant (.text s), ts)
  | _ + 1, .dots :: ts => some (.further, ts)
  | _ + 1, .mark '(' :: .mark ')' :: ts => some (.tuple [], ts)
  | fuel + 1, .mark '(' :: ts => do
    let (es, ts) ← items? fuel ts
    match ts with
    | .mark ')' :: ts => pure (ofItems es, ts)
    | _ => none
  | _ + 1, .mark '[' :: .mark ']' :: ts => some (.list [], ts)
  | fuel + 1, .mark '[' :: ts => do
    let ((es, _), ts) ← items? fuel ts
    match ts with
    | .mark ']' :: ts => pure (.list es, ts)
    | _ => none
  | _, _ => none

end

/-- The expression that a text writes, if it writes one. It begins without a gap. -/
def read? (text : String) : Option Expression := do
  let cs := text.toList
  if cs.head?.any fun c => c == ' ' || c == '\t' then none
  else
    let ts ← tokens? (cs.length + 1) cs
    let (es, rest) ← items? (6 * ts.length + 6) ts
    if rest.isEmpty then some (ofItems es) else none

end Expression

end RowDecoding
