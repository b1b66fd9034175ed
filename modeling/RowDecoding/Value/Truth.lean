import RowDecoding.Value.Key

/-!
# Truth of values

A value counts as true unless it is nothing, zero, or empty.
-/

namespace RowDecoding

open Number

namespace Value

/-- Whether a value counts as true. -/
def isTrue (v : Value) : Bool :=
  match v.content with
  | none => false
  | bool b => b
  | int n | whole _ n => n != 0
  | float (.finite _ m _) => m != 0
  | decimal (.finite _ n _) => n != 0
  | text s => !s.isEmpty
  | binary _ bytes => !bytes.isEmpty
  | timedelta d => d.microseconds != 0
  | list items | tuple items | set items | frozenset items => !items.isEmpty
  | dict entries => !entries.isEmpty
  | record ⟨_, _, .namedTuple⟩ fields => !fields.isEmpty
  | member ⟨_, _, .enumeration .text⟩ _ (text s) => !s.isEmpty
  | member ⟨_, _, .enumeration .whole⟩ _ (int n) => n != 0
  | _ => true

end Value

end RowDecoding
