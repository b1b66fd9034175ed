import RowDecoding.Text.Quoted
import RowDecoding.Value.Key

/-!
# The texts of values and types

Every value has two texts: the one that shows what it is, with quotes around texts and the class
before most other things (`shown`), and the plain one (`plain`). A type is described by its bare
name if it is a class, and otherwise by the expression that writes it.
-/

namespace RowDecoding

open Number Calendar

/-- Several texts between a comma and a space. -/
def commaSeparated (parts : List String) : String :=
  ", ".intercalate parts

/-- The ending of a noun for a number of things. -/
def plural (n : Nat) : String :=
  if n == 1 then "" else "s"

namespace Calendar

/-- A length of time as its non-zero parts. -/
def Duration.shown (d : Duration) : String :=
  let part (name : String) (n : Int) : List String :=
    if n == 0 then [] else [name ++ "=" ++ decimalText n]
  let parts :=
    part "days" d.days ++ part "seconds" d.seconds ++ part "microseconds" d.remainder
  "datetime.timedelta(" ++ (if parts.isEmpty then "0" else commaSeparated parts) ++ ")"

/-- A length of time as days and a clock. -/
def Duration.plain (d : Duration) : String :=
  let s := d.seconds
  let days :=
    if d.days == 0 then ""
    else decimalText d.days ++ (if d.days.natAbs == 1 then " day, " else " days, ")
  days ++ digits (s / 3600) ++ ":" ++ padded 2 (s / 60 % 60) ++ ":" ++ padded 2 (s % 60) ++
    Clock.fractionText d.remainder

/-- The numbers of a clock that are shown: seconds and microseconds only if they are not zero. -/
def Clock.shownParts (c : Clock) : List String :=
  let hm := [digits c.hour, digits c.minute]
  let sec :=
    if c.microsecond != 0 then [digits c.second, digits c.microsecond]
    else if c.second != 0 then [digits c.second]
    else []
  let zone :=
    match c.offset with
    | none => []
    | some o =>
      if o == 0 then ["tzinfo=datetime.timezone.utc"]
      else ["tzinfo=datetime.timezone(" ++ (Duration.mk o).shown ++ ")"]
  hm ++ sec ++ zone

/-- The numbers of a date that are shown. -/
def Date.shownParts (d : Date) : List String :=
  [digits d.year, digits d.month, digits d.day]

end Calendar

/-- Something of a class without a text of its own. -/
def anonymous (name : String) : String :=
  "<" ++ name ++ " object>"

/-- The module that a built-in class is named with. -/
def Builtin.qualifiedName : Builtin → String
  | .decimal => "decimal.Decimal"
  | .datetime => "datetime.datetime"
  | .date => "datetime.date"
  | .time => "datetime.time"
  | .uuid => "uuid.UUID"
  | .any => "typing.Any"
  | b => b.name

/-- A declared class is named with its module; one that needs no declaration has none. -/
def ClassRef.qualifiedName (c : ClassRef) : String :=
  if c.serial == 0 then c.name else "m." ++ c.name

/-- The text of a list in brackets, in which an empty list stands for an empty tuple. -/
def bracketed (head : String) (parts : List String) : String :=
  head ++ "[" ++ (if parts.isEmpty then "()" else commaSeparated parts) ++ "]"

/-- Entries with a colon between key and value. -/
def braced (parts : List String) : String :=
  "\x7b" ++ commaSeparated parts ++ "\x7d"

/-- A key and its value. -/
def entryText (key value : String) : String :=
  key ++ ": " ++ value

/-- A tuple; a single element is followed by a comma. -/
def parenthesized (parts : List String) : String :=
  match parts with
  | [one] => "(" ++ one ++ ",)"
  | _ => "(" ++ commaSeparated parts ++ ")"

/-- The text of a class on its own. -/
def TypeExpr.shownClass? : TypeExpr → Option String
  | .builtin .any => some "typing.Any"
  | .builtin b => some ("<class '" ++ b.qualifiedName ++ "'>")
  | .declared c =>
    some (if c == furtherThings then c.name
      else if c.form.isEnumeration then "<enum '" ++ c.name ++ "'>"
      else "<class '" ++ c.qualifiedName ++ "'>")
  | _ => none

mutual

/-- The text of a type inside another one. -/
def TypeExpr.nested : TypeExpr → String
  | .builtin b => b.qualifiedName
  | .declared c => if c == furtherThings then "..." else c.qualifiedName
  | .union .bar members => " | ".intercalate (alternatives members)
  | .union .classic [.builtin .noneType, t] => bracketed "typing.Optional" [t.nested]
  | .union .classic [t, .builtin .noneType] => bracketed "typing.Optional" [t.nested]
  | .union .classic members => bracketed "typing.Union" (nestedTypes members)
  | .listOf t => bracketed "list" [t.nested]
  | .setOf t => bracketed "set" [t.nested]
  | .frozensetOf t => bracketed "frozenset" [t.nested]
  | .dictOf k v => bracketed "dict" [k.nested, v.nested]
  | .tupleOf .plain items => bracketed "tuple" (nestedTypes items)
  | .tupleOf .classic items => bracketed "typing.Tuple" (nestedTypes items)
  | .tupleOfAny t => bracketed "tuple" [t.nested, "..."]
  | .literal choices => bracketed "typing.Literal" (shownValues choices)
  | .annotated base markers => bracketed "typing.Annotated" (base.nested :: shownValues markers)
  | .forward name => "ForwardRef(" ++ Text.quote name ++ ")"
  | .value v => v.shown

/-- The texts of types inside another one. -/
def nestedTypes : List TypeExpr → List String
  | [] => []
  | t :: rest => t.nested :: nestedTypes rest

/-- The texts of the members of a union between bars. -/
def alternatives : List TypeExpr → List String
  | [] => []
  | .builtin .noneType :: rest => "None" :: alternatives rest
  | t :: rest => t.nested :: alternatives rest

/-- The text that shows what a value is. -/
def Value.shown : Value → String
  | .none => "None"
  | .bool b => if b then "True" else "False"
  | .int n => decimalText n
  | .float x => x.text
  | .text s => Text.quote s
  | .binary .bytes bytes => Text.quoteBytes bytes
  | .binary .bytearray bytes => "bytearray(" ++ Text.quoteBytes bytes ++ ")"
  | .binary .memoryview _ => "<memory>"
  | .decimal d => "Decimal('" ++ d.text ++ "')"
  | .datetime t =>
    "datetime.datetime(" ++ commaSeparated (t.date.shownParts ++ t.clock.shownParts) ++ ")"
  | .date d => "datetime.date(" ++ commaSeparated d.shownParts ++ ")"
  | .time t => "datetime.time(" ++ commaSeparated t.shownParts ++ ")"
  | .timedelta d => d.shown
  | .uuid u => "UUID('" ++ u.text ++ "')"
  | .list items => "[" ++ commaSeparated (shownValues items) ++ "]"
  | .tuple items => parenthesized (shownValues items)
  | .set [] => "set()"
  | .set items => braced (shownValues items)
  | .frozenset [] => "frozenset()"
  | .frozenset items => "frozenset(" ++ braced (shownValues items) ++ ")"
  | .dict entries => braced (shownEntries entries)
  | .member c name payload => "<" ++ c.name ++ "." ++ name ++ ": " ++ payload.shown ++ ">"
  | .record c fields =>
    match c.form with
    | .dataclass _ | .model _ | .namedTuple =>
      c.name ++ "(" ++ commaSeparated (shownFields fields) ++ ")"
    | .extension _ => shownContent c fields
    | _ => anonymous c.qualifiedName
  | .whole _ n => decimalText n
  | .type t => t.shownClass?.getD t.nested
  | .convention c =>
    "<NamingConvention." ++ c.name ++ ": " ++ Text.quote c.spelling ++ ">"
  | .marker attributes => "ColumnSpec(attrs=" ++ parenthesized (shownPairs attributes) ++ ")"
  | .row .mapping columns cells =>
    "MappingRow(" ++
      braced (List.zipWith entryText (shownValues columns) (shownValues cells)) ++ ")"
  | .row .sequence columns cells =>
    "SequenceRow(" ++ parenthesized (shownValues cells) ++ ", columns=[" ++
      commaSeparated (shownValues columns) ++ "])"
  | .row form .. => anonymous form.name

/-- The texts of several values. -/
def shownValues : List Value → List String
  | [] => []
  | v :: rest => v.shown :: shownValues rest

/-- The texts of the entries of a dictionary. -/
def shownEntries : List (Value × Value) → List String
  | [] => []
  | (k, v) :: rest => entryText k.shown v.shown :: shownEntries rest

/-- The texts of the fields of a record. -/
def shownFields : List (String × Value) → List String
  | [] => []
  | (name, v) :: rest => (name ++ "=" ++ v.shown) :: shownFields rest

/-- The text of an instance of a built-in class under a name of its own: that of what it holds, but
that dates, times, identifiers and sets show their class. -/
def shownContent (c : ClassRef) : List (String × Value) → String
  | [] => anonymous c.qualifiedName
  | (_, .datetime t) :: _ =>
    c.name ++ "(" ++ commaSeparated (t.date.shownParts ++ t.clock.shownParts) ++ ")"
  | (_, .date d) :: _ => c.name ++ "(" ++ commaSeparated d.shownParts ++ ")"
  | (_, .time t) :: _ => c.name ++ "(" ++ commaSeparated t.shownParts ++ ")"
  | (_, .uuid u) :: _ => c.name ++ "('" ++ u.text ++ "')"
  | (_, .set []) :: _ | (_, .frozenset []) :: _ => c.name ++ "()"
  | (_, .set items) :: _ | (_, .frozenset items) :: _ =>
    c.name ++ "(" ++ braced (shownValues items) ++ ")"
  | (_, v) :: _ => v.shown

/-- The texts of named values as pairs. -/
def shownPairs : List (String × Value) → List String
  | [] => []
  | (name, v) :: rest => parenthesized [Text.quote name, v.shown] :: shownPairs rest

end

/-- The plain text of a value. -/
def Value.plain (v : Value) : String :=
  match v.content with
  | .text s => s
  | .decimal d => d.text
  | .datetime t => t.textWith " "
  | .date d => d.text
  | .time t => t.text
  | .timedelta d => d.plain
  | .uuid u => u.text
  | .member c name payload =>
    match c.form with
    | .enumeration .whole => payload.shown
    | _ => c.name ++ "." ++ name
  | .record c fields =>
    match c.form with
    | .model _ => " ".intercalate (shownFields fields)
    | _ => (Value.record c fields).shown
  | .convention c => "NamingConvention." ++ c.name
  | _ => v.shown

mutual

/-- Whether the text of a value would have to write a number that is too long for it. -/
def Value.isUnwritable : Value → Bool
  | .int n | .whole _ n => exceedsLimit n
  | .list items | .tuple items | .set items | .frozenset items => anyUnwritable items
  | .dict entries => anyEntryUnwritable entries
  | .member _ _ payload => payload.isUnwritable
  | .record c fields =>
    match c.form with
    | .dataclass _ | .model _ | .namedTuple | .extension _ => anyFieldUnwritable fields
    | _ => false
  | .marker attributes => anyFieldUnwritable attributes
  | .row .mapping columns cells | .row .sequence columns cells =>
    anyUnwritable columns || anyUnwritable cells
  | .type t => t.isUnwritable
  | _ => false

/-- Whether the expression that writes a type would have to write such a number. -/
def TypeExpr.isUnwritable : TypeExpr → Bool
  | .builtin _ | .declared _ | .forward _ => false
  | .union _ members => anyTypeUnwritable members
  | .listOf t | .setOf t | .frozensetOf t | .tupleOfAny t => t.isUnwritable
  | .dictOf k v => k.isUnwritable || v.isUnwritable
  | .tupleOf _ items => anyTypeUnwritable items
  | .literal choices => anyUnwritable choices
  | .annotated base markers => base.isUnwritable || anyUnwritable markers
  | .value v => v.isUnwritable

/-- Whether the expression that writes one of these types would. -/
def anyTypeUnwritable : List TypeExpr → Bool
  | [] => false
  | t :: rest => t.isUnwritable || anyTypeUnwritable rest

/-- Whether the text of one of these values would be too long. -/
def anyUnwritable : List Value → Bool
  | [] => false
  | v :: rest => v.isUnwritable || anyUnwritable rest

/-- Whether the text of one of these entries would be too long. -/
def anyEntryUnwritable : List (Value × Value) → Bool
  | [] => false
  | (k, v) :: rest => k.isUnwritable || v.isUnwritable || anyEntryUnwritable rest

/-- Whether the text of one of these named values would be too long. -/
def anyFieldUnwritable : List (String × Value) → Bool
  | [] => false
  | (_, v) :: rest => v.isUnwritable || anyFieldUnwritable rest

end

/-- The text of a type on its own. -/
def TypeExpr.shown (t : TypeExpr) : String :=
  t.shownClass?.getD t.nested

/-- How messages name a type. -/
def TypeExpr.describe : TypeExpr → String
  | .builtin b => b.name
  | .declared c => c.name
  | t => t.nested.replace "typing." ""

end RowDecoding
