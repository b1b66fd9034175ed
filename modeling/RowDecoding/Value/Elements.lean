import RowDecoding.Value.Basic

/-!
# Elements of values

What there is in a value that can be gone through: the elements of a container, the keys of a
dictionary, the characters of a text, the bytes of binary data.
-/

namespace RowDecoding

namespace Value

/-- The elements of a value that can be gone through. -/
def elements? : Value → Option (List Value)
  | .set items | .frozenset items => some items
  | .dict entries => some (entries.map (·.1))
  | .row .fetched _ cells => some cells
  | .binary _ bytes => some (bytes.map fun b => .int b.toNat)
  | v =>
    match v.asText? with
    | some s => some (s.toList.map fun c => .text (String.singleton c))
    | Option.none => v.asSequence?

/-- Whether a value is a row that knows the names of its columns. -/
def knowsColumns : Value → Bool
  | .row .mapping .. | .row .sequence .. | .row .cursor .. => true
  | _ => false

end Value

end RowDecoding
