import RowDecoding.Failure.Basic

/-!
# The wording of failures

What is said about each failure, and what each is called.
-/

namespace RowDecoding

/-- The text of what was said: nothing, one thing by itself, or several in parentheses. -/
def statedText : List Value → String
  | [] => ""
  | [v] => v.plain
  | vs => parenthesized (shownValues vs)

/-- The message of a fault of the system: its number and reason, then the files it is about. Fewer
or more arguments than that are just listed. -/
def systemMessage (kind : FaultKind) : List Value → String
  | code :: reason :: files =>
    let isCount (v : Value) : Bool :=
      kind == .other "BlockingIOError" && v.asInt?.isSome
    let about :=
      match files with
      | [] | .none :: _ => ""
      | file :: rest =>
        if isCount file then ""
        else
          match rest with
          | [_, .none] | [] | [_] => ": " ++ file.shown
          | [_, second] => ": " ++ file.shown ++ " -> " ++ second.shown
          | _ => ""
    if 3 < files.length then statedText (code :: reason :: files)
    else "[Errno " ++ code.plain ++ "] " ++ reason.plain ++ about
  | arguments => statedText arguments

/-- The part of a path after its last slash. -/
def lastSegment (path : String) : String :=
  String.ofList (path.toList.reverse.takeWhile (· != '/')).reverse

/-- The message of a fault of form: what is wrong, and where if the place is known. -/
def formMessage : List Value → String
  | [] => Value.none.plain
  | [message, place] =>
    let parts := (place.asSequence?.getD []).take 2
    let file? :=
      match parts with
      | .text path :: _ => some (lastSegment path)
      | _ => none
    let line? :=
      match parts with
      | [_, .int n] => some ("line " ++ Number.decimalText n)
      | _ => none
    let found := file?.toList ++ line?.toList
    message.plain ++ (if found.isEmpty then "" else " (" ++ commaSeparated found ++ ")")
  | message :: _ => message.plain

/-- A character by its number, with as many hexadecimal digits as its size asks for. -/
def escapedChar (c : Char) : String :=
  let n := c.toNat
  let (letter, width) :=
    if n < 256 then ("x", 2) else if n < 65536 then ("u", 4) else ("U", 8)
  "\\" ++ letter ++ String.ofList (Text.hex width n)

/-- Where something stands, and what is said about it: a single thing by itself, or a range. -/
def placeText (one : Option String) (several : String) (start stop : Int) (reason : String) :
    String :=
  match one with
  | some what =>
    what ++ " in position " ++ Number.decimalText start ++ ": " ++ reason
  | none =>
    several ++ " in position " ++ Number.decimalText start ++ "-" ++
      Number.decimalText (stop - 1) ++ ": " ++ reason

/-- The element at the start of a range of length one. -/
def single? {α : Type} (items : List α) (start stop : Int) : Option α :=
  if stop == start + 1 && 0 ≤ start then items[start.toNat]? else none

/-- The message of a fault of an encoding. -/
def codecMessage : List Value → String
  | [.text encoding, .text given, start, stop, .text reason] =>
    let (a, b) := (start.asInt?.getD 0, stop.asInt?.getD 0)
    let one := (single? given.toList a b).map fun c => "character '" ++ escapedChar c ++ "'"
    "'" ++ encoding ++ "' codec can't encode " ++ placeText one "characters" a b reason
  | [.text encoding, .binary _ bytes, start, stop, .text reason] =>
    let (a, b) := (start.asInt?.getD 0, stop.asInt?.getD 0)
    let one := (single? bytes a b).map fun x =>
      "byte 0x" ++ String.ofList (Text.hex 2 x.toNat)
    "'" ++ encoding ++ "' codec can't decode " ++ placeText one "bytes" a b reason
  | [.text given, start, stop, .text reason] =>
    let (a, b) := (start.asInt?.getD 0, stop.asInt?.getD 0)
    let one := (single? given.toList a b).map fun c => "character '" ++ escapedChar c ++ "'"
    "can't translate " ++ placeText one "characters" a b reason
  | arguments => statedText arguments

/-- The message of a fault. One about a key shows the key. -/
def Fault.message (f : Fault) : String :=
  match f.kind, f.arguments with
  | .key, [v] => v.shown
  | .unicodeEncode, arguments | .unicodeDecode, arguments | .unicodeTranslate, arguments =>
    codecMessage arguments
  | kind, arguments =>
    if kind.isSystem then systemMessage kind arguments
    else if kind.isForm then formMessage arguments
    else statedText arguments

/-- The message of a row failure. -/
def RowProblem.message : RowProblem → String
  | absent column =>
    match column.asInt? with
    | some _ => "Column index " ++ column.plain ++ " not found in row"
    | none => "Column not found: '" ++ column.plain ++ "'"
  | mismatch column expected detail =>
    let place :=
      match column with
      | .none => ""
      | c => " for column " ++ c.shown
    "Cannot decode " ++ expected.plain ++ place ++ ": " ++ detail.plain
  | conversion source target detail =>
    "Cannot convert " ++ source.plain ++ " to " ++ target.plain ++ ": " ++ detail.plain
  | stated arguments => statedText arguments

/-- How a capability that need not be one of the known ones is named. -/
def capabilityLabel (given : Value) : Option Capability → String
  | some c => c.label
  | none =>
    match given with
    | .member _ _ payload => payload.plain
    | .convention c => c.spelling
    | v => v.plain

/-- The message of a schema failure. -/
def SchemaProblem.message : SchemaProblem → String
  | recursiveFlatten type => "Recursive flatten: " ++ type ++ " is flattened into itself"
  | unresolved schema detail => "Cannot resolve field annotations of " ++ schema ++ ": " ++ detail
  | variableLength type => "Variable-length tuples are not supported: " ++ type
  | unionOrGeneric type => "Unions and generic aliases are not supported: " ++ type
  | notClass type => "Cannot map rows to non-class target " ++ type
  | enumeration type => "Enums are not supported: " ++ type
  | withoutFields type => "Unit-like schema " ++ type ++ " has no fields to decode"
  | withoutDefault owner type =>
    owner ++ " is marked default but " ++ type ++ " has no default value"
  | attributes owner detail => "Invalid row attributes on " ++ owner.plain ++ ": " ++ detail.plain
  | capability given known type field =>
    let place := if field.isTrue then " (field '" ++ field.plain ++ "')" else ""
    "Type " ++ type.plain ++ " does not support " ++ capabilityLabel given known ++ place
  | stated arguments => statedText arguments

namespace Failure

/-- The message of a failure. -/
def message : Failure → String
  | row problem _ _ => problem.message
  | schema problem _ => problem.message
  | general arguments => statedText arguments
  | invalid issues => "; ".intercalate (issues.map (·.message))
  | fault f => f.message

/-- The families that a failure belongs to, the narrowest one first. -/
def families : Failure → List String
  | row problem _ _ =>
    let own :=
      match problem with
      | .absent _ => ["ColumnNotFoundError"]
      | .mismatch .. => ["TypeMismatchError"]
      | .conversion .. => ["ConversionError"]
      | .stated _ => []
    own ++ ["RowDecodeError", "RowDeriveError"]
  | schema problem _ =>
    let own :=
      match problem with
      | .attributes .. => ["AttributeConfigError"]
      | .capability .. => ["CapabilityError"]
      | _ => []
    own ++ ["UnsupportedSchemaError", "RowDeriveError"]
  | general _ => ["RowDeriveError"]
  | _ => []

/-- What a failure is called. -/
def title : Failure → String
  | invalid _ => "ValidationError"
  | fault f => f.kind.title
  | f => f.families.headD ""

end Failure

end RowDecoding
