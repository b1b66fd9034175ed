import RowDecoding.Schema.Call
import RowDecoding.Scalar.Moment
import RowDecoding.Value.Order

/-!
# Instances of identifiers

An identifier is made of its digits, its bytes in either order, its six fields or its number, of
which exactly one has to be given; a version may be written into it.
-/

namespace RowDecoding

open Number

namespace Instance

/-! ### Numbers -/

/-- Whether a value is at least as great as another one, both of which have to be numbers; `given`
is the one that need not be. -/
def isAtLeast (given a b : Value) : Except Fault Bool := do
  match ← a.atLeast? b with
  | some answer => pure answer
  | none => throw (Fault.notComparable given)

/-- Whether a value is a natural number below a limit, or a fraction within the same range. -/
def isBelow (limit : Nat) (v : Value) : Except Fault Bool := do
  if ← isAtLeast v v (.int 0) then return !(← isAtLeast v v (.int limit))
  else pure false

/-- The failure of an operation on bits with something that is no whole number. -/
def withoutBits (operation left right : String) : Fault :=
  Fault.wrongType ("unsupported operand type(s) for " ++ operation ++ ": '" ++ left ++
    "' and '" ++ right ++ "'")

/-- A whole number that is moved to higher bits. -/
def shiftable (v : Value) : Except Fault Nat :=
  match v.asInt? with
  | some n => .ok n.toNat
  | none => .error (withoutBits "<<" v.fullTypeName "int")

/-- A whole number that is put beside higher bits. -/
def joinable (v : Value) : Except Fault Nat :=
  match v.asInt? with
  | some n => .ok n.toNat
  | none => .error (withoutBits "|" "int" v.fullTypeName)

/-! ### Identifiers -/

/-- A version that is asked for. -/
def checkVersion (version : Value) : Except Fault Unit := do
  let fits ← if ← isAtLeast version version (.int 1) then isAtLeast version (.int 5) version
    else pure false
  if !fits then throw (Fault.wrongValue "illegal version number")

/-- The identifier with its version written into it, if one is asked for. -/
def withVersion (version : Value) (u : Uuid) : Except Fault Uuid := do
  match version with
  | .none => pure u
  | _ =>
    checkVersion version
    let n ← shiftable version
    let low := u.value % Nat.pow 2 62 + Nat.pow 2 63
    let middle := u.value / Nat.pow 2 64 % Nat.pow 2 12 + n * Nat.pow 2 12
    pure ⟨u.value / Nat.pow 2 80 * Nat.pow 2 80 + middle * Nat.pow 2 64 + low⟩

/-- What is wrong with a fraction for a number: no version can be written into it, and it cannot be
written itself. -/
def refuseFraction (version v : Value) : Except Fault Uuid := do
  match version with
  | .none =>
    throw (Fault.wrongType ("%x format: an integer is required, not " ++ v.fullTypeName))
  | _ =>
    checkVersion version
    throw (withoutBits "&=" v.fullTypeName "int")

/-- The identifier with a number. -/
def uuidOfNumber (version v : Value) : Except Fault Uuid := do
  if !(← isBelow Uuid.count v) then throw (Value.unreadableUuid .range)
  match v.asInt? with
  | some n => withVersion version ⟨n.toNat⟩
  | none => refuseFraction version v

/-- How many elements a value has, which has to have some. -/
def lengthOf (v : Value) : Except Fault Nat :=
  match v.elements? with
  | some items => .ok items.length
  | none => .error (Fault.wrongType ("object of type '" ++ v.fullTypeName ++ "' has no len()"))

/-- The identifier with sixteen bytes. -/
def uuidOfBytes (v : Value) : Except Fault Uuid := do
  if (← lengthOf v) != 16 then throw (Fault.wrongValue "bytes is not a 16-char string")
  match v with
  | .binary .bytes bytes => pure (Uuid.ofBytes bytes)
  | _ => throw (Fault.raised .assertion v.shown)

/-- The value with its elements in the other order. -/
def swappedValue : Value → Value
  | .binary form bytes => .binary form (Uuid.swapped bytes)
  | .list items => .list (Uuid.swapped items)
  | .tuple items => .tuple (Uuid.swapped items)
  | .text s => .text (String.ofList (Uuid.swapped s.toList))
  | v => v

/-- The identifier with sixteen bytes in the other order. -/
def uuidOfSwappedBytes (v : Value) : Except Fault Uuid := do
  if (← lengthOf v) != 16 then throw (Fault.wrongValue "bytes_le is not a 16-char string")
  uuidOfBytes (swappedValue v)

/-- The widths of the six fields in bits, and what is said about one that does not fit. -/
def fieldWidths : List (Nat × String) :=
  [(32, "field 1 out of range (need a 32-bit value)"),
    (16, "field 2 out of range (need a 16-bit value)"),
    (16, "field 3 out of range (need a 16-bit value)"),
    (8, "field 4 out of range (need an 8-bit value)"),
    (8, "field 5 out of range (need an 8-bit value)"),
    (48, "field 6 out of range (need a 48-bit value)")]

/-- Refuses a field that does not fit. -/
def checkWidth (width : Nat) (refusal : String) (v : Value) : Except Fault Unit := do
  if !(← isBelow (Nat.pow 2 width) v) then throw (Fault.wrongValue refusal)

/-- The identifier with six fields, the first one in its highest bits. -/
def uuidOfFields (v : Value) : Except Fault Uuid := do
  if (← lengthOf v) != 6 then throw (Fault.wrongValue "fields is not a 6-tuple")
  let parts := v.elements?.getD []
  (fieldWidths.zip parts).forM fun ((width, refusal), part) => checkWidth width refusal part
  match parts with
  | [low, mid, high, variant, sequence, node] =>
    let d ← shiftable variant
    let e ← joinable sequence
    let a ← shiftable low
    let b ← shiftable mid
    let c ← shiftable high
    let f ← joinable node
    pure ⟨((((a * Nat.pow 2 16 + b) * Nat.pow 2 16 + c) * Nat.pow 2 8 + d) * Nat.pow 2 8 + e) *
      Nat.pow 2 48 + f⟩
  | _ => throw (Fault.wrongValue "fields is not a 6-tuple")

/-- The ways of saying what an identifier is, of which one has to be used. -/
def uuidSources : List String :=
  ["hex", "bytes", "bytes_le", "fields", "int"]

/-- The parameters of the constructor of identifiers. -/
def uuidParameters : List Parameter :=
  ⟨"self", .ordinary, true⟩ ::
    (uuidSources ++ ["version"]).map (fun name => ⟨name, .ordinary, false⟩) ++
    [⟨"is_safe", .keywordOnly, false⟩]

/-- An identifier from the arguments of a call. -/
def uuidOf (positional : List Value) (keywords : Bindings) : Except Fault Uuid := do
  let bound ← Call.bind "UUID.__init__()" uuidParameters (.none :: positional) keywords
  let given := (bound.filter fun (name, _) => uuidSources.contains name).filter fun (_, v) =>
    !(v matches .none)
  let version := (bound.lookup "version").getD .none
  match given with
  | [("hex", v)] => withVersion version (← v.toUuid)
  | [("int", v)] => uuidOfNumber version v
  | [("bytes", v)] => withVersion version (← uuidOfBytes v)
  | [("bytes_le", v)] => withVersion version (← uuidOfSwappedBytes v)
  | [("fields", v)] => withVersion version (← uuidOfFields v)
  | _ => throw Value.unspecifiedUuid

end Instance

end RowDecoding
