import RowDecoding.Failure.Fault
import RowDecoding.Instance.Arguments
import RowDecoding.Scalar.Decode
import RowDecoding.Text.Encoding

/-!
# Instances of texts and bytes

A text is made of any value, or read from bytes in an encoding. Bytes are made of so many zeros, of
numbers, or of a text in an encoding.
-/

namespace RowDecoding

open Text (Encoding)

namespace Instance

/-- The text of an argument that has to be one. -/
def textArgument (title parameter : String) (v : Value) : Except Fault String :=
  match v.asText? with
  | some s => .ok s
  | none => .error (Fault.wrongType (title ++ "() argument '" ++ parameter ++
      "' must be str, not " ++ Fault.givenName v))

/-- The encoding that a name asks for. -/
def encodingNamed (name : String) : Except Fault Encoding :=
  match Encoding.named? name with
  | some e => .ok e
  | none => .error (Fault.raised .lookup ("unknown encoding: " ++ name))

/-- The encoding and what to do about errors, as a call of a class with three parameters says. -/
def encodingArguments (title : String) (a : Arguments) :
    Except Fault (Option String × Option String) := do
  let encoding ← (a.at? 1).mapM (textArgument title "encoding")
  let errors ← (a.at? 2).mapM (textArgument title "errors")
  pure (encoding, errors)

/-- A fault of an encoding. -/
def encodingFault (kind : FaultKind) (e : Encoding) (given : Value) (found : Text.EncodingError) :
    Fault :=
  ⟨kind, [.text e.name, given, .int found.start, .int found.stop, .text found.reason]⟩

/-- The text that bytes write in an encoding. -/
def decodeText (encoding : Option String) (v : Value) : Except Fault String :=
  match v with
  | .binary _ bytes => do
    let e ← encodingNamed (encoding.getD "utf-8")
    (e.decode bytes).mapError (encodingFault .unicodeDecode e (.binary .bytes bytes))
  | _ =>
    .error (Fault.wrongType (if v.asText?.isSome then "decoding str is not supported"
      else "decoding to str: need a bytes-like object, " ++ v.fullTypeName ++ " found"))

/-- A text from the arguments of a call. -/
def textOf (positional : List Value) (keywords : Bindings) : Except Fault Value := do
  let a := Arguments.ofTitled "str" ["object", "encoding", "errors"] positional keywords
  a.checkCount
  a.checkNames
  let (encoding, errors) ← encodingArguments "str" a
  match a.at? 0, encoding, errors with
  | none, _, _ => pure (.text "")
  | some v, none, none => Conversion.str.apply v
  | some v, _, _ => (decodeText encoding v).map .text

/-- A byte that is given as a number. -/
def byteArgument (v : Value) : Except Fault UInt8 :=
  match v.asInt? with
  | none => .error (Fault.notWhole v)
  | some n =>
    if 0 ≤ n && n < 256 then .ok n.toNat.toUInt8
    else .error (Fault.wrongValue "bytes must be in range(0, 256)")

/-- The most bytes that are made at once. -/
def mostBytes : Nat := Nat.pow 2 32

/-- So many zero bytes. -/
def zeroBytes (n : Int) : Except Fault (List UInt8) :=
  if n < 0 then .error (Fault.wrongValue "negative count")
  else if !Number.fitsWord n then
    .error (Fault.raised .overflow "cannot fit 'int' into an index-sized integer")
  else if mostBytes ≤ n.toNat then .error ⟨.other "MemoryError", []⟩
  else .ok (List.replicate n.toNat 0)

/-- The bytes of a value that is no text. -/
def bytesOfValue (v : Value) : Except Fault (List UInt8) :=
  match v, v.asInt?, v.elements? with
  | .binary _ bytes, _, _ => .ok bytes
  | _, some n, _ => zeroBytes n
  | _, none, some items => items.mapM byteArgument
  | _, none, none =>
    .error (Fault.wrongType ("cannot convert '" ++ v.fullTypeName ++ "' object to bytes"))

/-- Bytes from the arguments of a call. -/
def bytesOf (positional : List Value) (keywords : Bindings) : Except Fault (List UInt8) := do
  let a := Arguments.ofTitled "bytes" ["source", "encoding", "errors"] positional keywords
  a.checkCount
  a.checkNames
  let (encoding, errors) ← encodingArguments "bytes" a
  match a.at? 0, (a.at? 0).bind (·.asText?), encoding, errors with
  | some v, some s, some name, _ =>
    let e ← encodingNamed name
    (e.encode s).mapError (encodingFault .unicodeEncode e v)
  | _, some _, none, _ => throw (Fault.wrongType "string argument without an encoding")
  | _, none, some _, _ => throw (Fault.wrongType "encoding without a string argument")
  | _, none, none, some _ => throw (Fault.wrongType "errors without a string argument")
  | some v, none, none, none => bytesOfValue v
  | none, _, _, _ => pure []

end Instance

end RowDecoding
