import RowDecoding.Failure.Capability
import RowDecoding.Value.Elements
import RowDecoding.Value.Printed
import RowDecoding.Value.Truth

/-!
# Failures

What can go wrong, as causes. A *row failure* belongs to one row and names the field whose step
failed; a *schema failure* belongs to a target that cannot be compiled; a *validation failure*
lists what the values of a record do not satisfy; a *fault* is any other error, such as those that
the hooks of a class raise. The wording of each is one function of its cause.
-/

namespace RowDecoding

/-- The kinds of faults, by the families that decide how they are handled. -/
inductive FaultKind where
  | type
  | value
  | unicode
  /-- A text that cannot be written in an encoding. -/
  | unicodeEncode
  /-- Bytes that no text is written by. -/
  | unicodeDecode
  /-- A text that cannot be put in other characters. -/
  | unicodeTranslate
  | arithmetic
  | overflow
  | zeroDivision
  | floatingPoint
  | invalidOperation
  | lookup
  | key
  | index
  | missingAttribute
  | name
  | runtime
  | notImplemented
  | recursion
  | system
  | assertion
  /-- A fault of another kind, by its name. -/
  | other (name : String)
deriving DecidableEq, Repr, Inhabited

namespace FaultKind

/-- The kinds that have a constructor of their own. -/
def all : List FaultKind :=
  [type, value, unicode, unicodeEncode, unicodeDecode, unicodeTranslate, arithmetic, overflow,
    zeroDivision, floatingPoint, invalidOperation, lookup, key, index, missingAttribute, name,
    runtime, notImplemented, recursion, system, assertion]

/-- What the kind is called. -/
def title : FaultKind → String
  | type => "TypeError"
  | value => "ValueError"
  | unicode => "UnicodeError"
  | unicodeEncode => "UnicodeEncodeError"
  | unicodeDecode => "UnicodeDecodeError"
  | unicodeTranslate => "UnicodeTranslateError"
  | arithmetic => "ArithmeticError"
  | overflow => "OverflowError"
  | zeroDivision => "ZeroDivisionError"
  | floatingPoint => "FloatingPointError"
  | invalidOperation => "InvalidOperation"
  | lookup => "LookupError"
  | key => "KeyError"
  | index => "IndexError"
  | missingAttribute => "AttributeError"
  | name => "NameError"
  | runtime => "RuntimeError"
  | notImplemented => "NotImplementedError"
  | recursion => "RecursionError"
  | system => "OSError"
  | assertion => "AssertionError"
  | other title => title

/-- The kind called so. -/
def ofTitle (text : String) : FaultKind :=
  (all.find? (·.title == text)).getD (other text)

/-- The faults of the system that an error number of its own stands for, with these numbers. -/
def systemCodes : List (String × List Int) :=
  [("PermissionError", [1, 13]), ("FileNotFoundError", [2]), ("ProcessLookupError", [3]),
    ("InterruptedError", [4]), ("ChildProcessError", [10]),
    ("BlockingIOError", [11, 114, 115]), ("FileExistsError", [17]), ("NotADirectoryError", [20]),
    ("IsADirectoryError", [21]), ("BrokenPipeError", [32, 108]),
    ("ConnectionAbortedError", [103]), ("ConnectionResetError", [104]), ("TimeoutError", [110]),
    ("ConnectionRefusedError", [111]), ("ConnectionError", [])]

/-- Faults of the system. -/
def isSystem : FaultKind → Bool
  | system => true
  | other title => systemCodes.any (·.1 == title)
  | _ => false

/-- Faults of the form of a program. -/
def isForm : FaultKind → Bool
  | other title => title == "SyntaxError" || title == "IndentationError" || title == "TabError"
  | _ => false

/-- Faults of a value that is not fit for its use. -/
def isValue : FaultKind → Bool
  | value | unicode | unicodeEncode | unicodeDecode | unicodeTranslate => true
  | _ => false

/-- Faults of computing with numbers. -/
def isArithmetic : FaultKind → Bool
  | arithmetic | overflow | zeroDivision | floatingPoint | invalidOperation => true
  | other title => title == "Overflow"
  | _ => false

end FaultKind

/-- A fault with what was said about it. -/
structure Fault where
  kind : FaultKind
  arguments : List Value
deriving Repr, Inhabited

/-- What a part of a value does not satisfy. -/
structure Issue where
  /-- Where the part stands: the names and positions that lead to it. -/
  location : List Value
  /-- The rule that is broken. -/
  rule : String
  message : String
deriving Repr, Inhabited

/-- A key as a step on the way to a place. -/
def Value.asPlace (key : Value) : Value :=
  match key.asText?, key.asInt? with
  | some s, _ => .text s
  | Option.none, some n => .int n
  | Option.none, Option.none => .text key.shown

/-- What is wrong with one row. -/
inductive RowProblem where
  /-- The row has no such column. -/
  | absent (column : Value)
  /-- The value of a column, or the whole target, does not fit its type. -/
  | mismatch (column expected detail : Value)
  /-- A value of one type has no counterpart in another. -/
  | conversion (source target detail : Value)
  /-- Whatever a hook says. -/
  | stated (arguments : List Value)
deriving Repr, Inhabited

/-- Why a target cannot be compiled. -/
inductive SchemaProblem where
  | recursiveFlatten (type : String)
  | unresolved (schema detail : String)
  | variableLength (type : String)
  | unionOrGeneric (type : String)
  | notClass (type : String)
  | enumeration (type : String)
  | withoutFields (type : String)
  | withoutDefault (owner type : String)
  | attributes (owner detail : Value)
  | capability (capability : Value) (known : Option Capability) (type field : Value)
  /-- Whatever a hook says. -/
  | stated (arguments : List Value)
deriving Repr, Inhabited

/-- Anything that can go wrong. -/
inductive Failure where
  | row (problem : RowProblem) (field : Option String) (cause : Option Failure)
  | schema (problem : SchemaProblem) (cause : Option Failure)
  /-- A failure of the library without further distinction. -/
  | general (arguments : List Value)
  | invalid (issues : List Issue)
  | fault (fault : Fault)
deriving Repr

instance : Inhabited Failure := ⟨.general []⟩

namespace Fault

/-- A fault of a kind with a message. -/
def raised (kind : FaultKind) (message : String) : Fault :=
  ⟨kind, [.text message]⟩

/-- Faults of a value of the wrong class. -/
def isType (f : Fault) : Bool :=
  f.kind == .type

/-- Faults of a name that stands for nothing. -/
def isName (f : Fault) : Bool :=
  f.kind == .name

/-- A value of the wrong class. -/
def wrongType (message : String) : Fault :=
  raised .type message

/-- A value that is not fit for its use. -/
def wrongValue (message : String) : Fault :=
  raised .value message

/-- A value where a whole number is asked for. -/
def notWhole (v : Value) : Fault :=
  wrongType ("'" ++ v.fullTypeName ++ "' object cannot be interpreted as an integer")

/-- A value that cannot be gone through. -/
def notIterable (v : Value) : Fault :=
  wrongType ("'" ++ v.fullTypeName ++ "' object is not iterable")

/-- A value that cannot be called. -/
def notCallable (v : Value) : Fault :=
  wrongType ("'" ++ v.fullTypeName ++ "' object is not callable")

/-- A value that cannot be compared with a whole number. -/
def notComparable (v : Value) : Fault :=
  wrongType ("'<=' not supported between instances of 'int' and '" ++ v.fullTypeName ++ "'")

/-- A text that writes no decimal number. -/
def decimalSyntax : Fault :=
  raised .invalidOperation "[<class 'decimal.ConversionSyntax'>]"

/-- An operation that has no result for a decimal number. -/
def undefinedOperation : Fault :=
  raised .invalidOperation "[<class 'decimal.InvalidOperation'>]"

/-- Refuses a value that can be no key. -/
def ofKey (v : Value) : Except Fault Unit :=
  match v.unhashable? with
  | some complaint => .error (wrongType complaint)
  | none => .ok ()

/-- A text of a number with too many digits. -/
def tooManyDigits (count : Nat) : Fault :=
  wrongValue ("Exceeds the limit (" ++ Number.digits Number.digitLimit ++
    " digits) for integer string conversion: value has " ++ Number.digits count ++
    " digits; use sys.set_int_max_str_digits() to increase the limit")

/-- A number whose text would have too many digits. -/
def tooLongToWrite : Fault :=
  wrongValue ("Exceeds the limit (" ++ Number.digits Number.digitLimit ++
    " digits) for integer string conversion; " ++
    "use sys.set_int_max_str_digits() to increase the limit")

end Fault

/-- What can be given as the cause of a failed computation. -/
class Cause (ε : Type) where
  failure : ε → Failure

instance : Cause Failure := ⟨id⟩

instance : Cause Fault := ⟨.fault⟩

instance : Coe Fault Failure := ⟨.fault⟩

instance : MonadLift (Except Fault) (Except Failure) := ⟨fun e => e.mapError .fault⟩

namespace Failure

/-- A fault of a kind with a message. -/
def raised (kind : FaultKind) (message : String) : Failure :=
  Fault.raised kind message

/-- A value of the wrong class. -/
def wrongType (message : String) : Failure :=
  Fault.wrongType message

/-- A value that is not fit for its use. -/
def wrongValue (message : String) : Failure :=
  Fault.wrongValue message

/-- A value that cannot be called. -/
def notCallable (v : Value) : Failure :=
  Fault.notCallable v

/-- A column that a row does not have. The failure names the column, so a position that cannot be
written is a failure of its own. -/
def absent (column : Value) : Failure :=
  if column.isUnwritable then Fault.tooLongToWrite else .row (.absent column) none none

/-- Failures that say that a column is absent. -/
def isAbsence : Failure → Bool
  | .row (.absent _) _ _ => true
  | _ => false

/-- Failures of one row. -/
def isRow : Failure → Bool
  | .row .. => true
  | _ => false

/-- Failures of a value that is not fit for its use; an invalid record is one. -/
def isValue : Failure → Bool
  | .invalid _ => true
  | .fault f => f.kind.isValue
  | _ => false

/-- Failures of a value of the wrong class. -/
def isType : Failure → Bool
  | .fault f => f.isType
  | _ => false

/-- Failures of computing with numbers. -/
def isArithmetic : Failure → Bool
  | .fault f => f.kind.isArithmetic
  | _ => false

/-- The failure with the name of the field whose step failed, unless one is named already. -/
def named (name : Option String) : Failure → Failure
  | .row problem none cause => .row problem name cause
  | f => f

end Failure

end RowDecoding
