import RowDecoding.Failure.Message

/-!
# Making faults

What is said about a fault when it is made. Most faults take any arguments. Those of an encoding, of
the form of a program and of a group of faults ask for certain ones, and making them without is a
fault by itself. A fault of the system that has a number is the one that the number stands for.
-/

namespace RowDecoding

namespace Fault

/-- How a value is spoken of where another class is asked for. -/
def givenName (v : Value) : String :=
  match v with
  | .none => "None"
  | _ => v.fullTypeName

/-- Refuses a value that is no text, at a place among arguments. -/
def requireText (place : Nat) (v : Value) : Except Fault Unit :=
  if v.asText?.isSome then .ok ()
  else .error (Fault.wrongType ("argument " ++ Number.digits place ++ " must be str, not " ++
    givenName v))

/-- Refuses a value that is no whole number. -/
def requireWhole (v : Value) : Except Fault Unit :=
  match v.asInt? with
  | none => .error (Fault.notWhole v)
  | some n =>
    if Number.fitsWord n then .ok ()
    else .error (Fault.raised .overflow "Python int too large to convert to C ssize_t")

/-- Refuses a value that is no binary data. -/
def requireBytes (v : Value) : Except Fault Unit :=
  match v with
  | .binary .. => .ok ()
  | _ => .error (Fault.wrongType ("a bytes-like object is required, not '" ++
      v.fullTypeName ++ "'"))

/-- Refuses another number of arguments than the one asked for. -/
def requireCount (subject : String) (count : Nat) (arguments : List Value) :
    Except Fault Unit :=
  if arguments.length == count then .ok ()
  else .error (Fault.wrongType (subject ++ " takes exactly " ++ Number.digits count ++
    " arguments (" ++ Number.digits arguments.length ++ " given)"))

/-- Checks the arguments of a fault of an encoding. -/
def checkCodec (kind : FaultKind) (arguments : List Value) : Except Fault Unit := do
  match kind, arguments with
  | .unicodeTranslate, [given, start, stop, reason] =>
    requireText 1 given
    requireWhole start
    requireWhole stop
    requireText 4 reason
  | .unicodeTranslate, _ => requireCount "function" 4 arguments
  | _, [encoding, given, start, stop, reason] =>
    requireText 1 encoding
    if kind == .unicodeEncode then requireText 2 given
    requireWhole start
    requireWhole stop
    requireText 5 reason
    if kind == .unicodeDecode then requireBytes given
  | _, _ => requireCount "function" 5 arguments

/-- Checks where a fault of form is said to be: file, line, column and text, and perhaps where it
ends. -/
def checkPlace (place : Value) : Except Fault Unit :=
  match place.elements? with
  | none => .error (Fault.notIterable place)
  | some parts =>
    let n := parts.length
    if n < 4 then
      .error (Fault.wrongType ("function takes at least 4 arguments (" ++ Number.digits n ++
        " given)"))
    else if 6 < n then
      .error (Fault.wrongType ("function takes at most 6 arguments (" ++ Number.digits n ++
        " given)"))
    else if n == 5 then
      .error (Fault.wrongType "end_offset must be provided when end_lineno is provided")
    else .ok ()

/-- Refuses the arguments of a group of faults: no value is a fault, and a group needs one. -/
def refuseGroup (arguments : List Value) : Fault :=
  let subject := "BaseExceptionGroup.__new__()"
  match arguments with
  | [title, members] =>
    if title.asText?.isNone then
      Fault.wrongType (subject ++ " argument 1 must be str, not " ++ givenName title)
    else
      let items? :=
        match members with
        | .binary _ bytes => some bytes.length
        | _ =>
          match members.asText? with
          | some s => some s.length
          | none => members.asSequence?.map List.length
      match items? with
      | none => Fault.wrongType "second argument (exceptions) must be a sequence"
      | some 0 => Fault.wrongValue "second argument (exceptions) must be a non-empty sequence"
      | some _ => Fault.wrongValue "Item 0 of second argument (exceptions) is not an exception"
  | _ =>
    Fault.wrongType (subject ++ " takes exactly 2 arguments (" ++
      Number.digits arguments.length ++ " given)")

/-- The kind of a fault of the system without a kind of its own: the one that its number stands for,
if a reason is given besides the number. -/
def systemKind (arguments : List Value) : FaultKind :=
  match arguments with
  | code :: _ :: more =>
    let known? := code.asInt?.bind fun n => FaultKind.systemCodes.find? (·.2.contains n)
    match (if 3 < more.length then none else known?) with
    | some (title, _) => .other title
    | none => .system
  | _ => .system

/-- Whether a value is a number that counts nothing. -/
def isUncountable : Value → Bool
  | .float _ | .decimal _ | .uuid _ => true
  | _ => false

/-- Checks what a fault of a transfer that would have to wait says besides the number and the
reason: a number there counts what was transferred. -/
def checkTransferred (arguments : List Value) : Except Fault Unit :=
  match arguments with
  | _ :: _ :: count :: more =>
    if 2 < more.length then .ok ()
    else if isUncountable count then .error (Fault.notWhole count)
    else
      match count.asInt? with
      | some n =>
        if Number.fitsWord n then .ok ()
        else .error (Fault.wrongValue ("cannot fit '" ++ count.fullTypeName ++
          "' into an index-sized integer"))
      | none => .ok ()
  | _ => .ok ()

/-- A fault of the system. -/
def makeSystem (kind : FaultKind) (arguments : List Value) : Except Fault Fault := do
  if kind == .other "BlockingIOError" then checkTransferred arguments
  pure ⟨kind, arguments⟩

/-- The fault that is called so, with these arguments. -/
def make (title : String) (arguments : List Value) : Except Fault Fault := do
  match FaultKind.ofTitle title with
  | .unicodeEncode | .unicodeDecode | .unicodeTranslate =>
    let kind := FaultKind.ofTitle title
    checkCodec kind arguments
    pure ⟨kind, arguments⟩
  | .system | .other "EnvironmentError" | .other "IOError" =>
    makeSystem (systemKind arguments) arguments
  | .other "BlockingIOError" => makeSystem (.other "BlockingIOError") arguments
  | .other "ExceptionGroup" | .other "BaseExceptionGroup" => throw (refuseGroup arguments)
  | kind =>
    match kind.isForm, arguments with
    | true, [_, place] => checkPlace place
    | _, _ => pure ()
    pure ⟨kind, arguments⟩

end Fault

end RowDecoding
