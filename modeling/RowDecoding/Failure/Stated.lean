import RowDecoding.Failure.Fault
import RowDecoding.Schema.Call

/-!
# Stated failures

Failures that a hook asks for by what they are called, with what it says about them. The failures of
this library take as many arguments as they have parts; faults take anything.
-/

namespace RowDecoding

namespace Failure

/-- A parameter of a failure. -/
def part (name : String) (required : Bool) : Parameter :=
  ⟨name, .ordinary, required⟩

/-- What the arguments say about each part of a failure; the parts that nothing is said about are
nothing. -/
def partsOf (title : String) (parameters : List Parameter) (arguments : List Value) :
    Except Failure (String → Value) := do
  let bound ← Call.bind (title ++ ".__init__()") (part "self" true :: parameters)
    (.none :: arguments) []
  pure fun name => (bound.lookup name).getD .none

/-- A capability that is given by its name, if it is one. -/
def capabilityOf (v : Value) : Option Capability :=
  match v with
  | .text s => Capability.ofName? s
  | _ => none

/-- The failure that is called so, with these arguments; calling it so may fail itself. -/
def ofTitle (title : String) (arguments : List Value) : Except Failure Failure :=
  match title with
  | "RowDeriveError" => .ok (.general arguments)
  | "RowDecodeError" => .ok (.row (.stated arguments) none none)
  | "UnsupportedSchemaError" => .ok (.schema (.stated arguments) none)
  | "ColumnNotFoundError" => do
    let parts ← partsOf title [part "column" true] arguments
    pure (absent (parts "column"))
  | "TypeMismatchError" | "DecodeFailure" => do
    let parts ← partsOf "TypeMismatchError"
      [part "column" true, part "expected" true, part "detail" true] arguments
    pure (.row (.mismatch (parts "column") (parts "expected") (parts "detail")) none none)
  | "ConversionError" => do
    let parts ← partsOf title
      [part "source" true, part "target" true, part "detail" true] arguments
    pure (.row (.conversion (parts "source") (parts "target") (parts "detail")) none none)
  | "AttributeConfigError" => do
    let parts ← partsOf title [part "owner" true, part "detail" true] arguments
    pure (.schema (.attributes (parts "owner") (parts "detail")) none)
  | "CapabilityError" => do
    let parts ← partsOf title
      [part "capability" true, part "type_name" true, part "field_name" false] arguments
    let capability := parts "capability"
    pure (.schema (.capability capability (capabilityOf capability) (parts "type_name")
      (parts "field_name")) none)
  | _ => (Fault.make title arguments).map .fault

end Failure

end RowDecoding
