import RowDecoding.Failure.Basic

/-!
# Hooks

The functions that users supply: decoders, converters, default factories, validators and the hooks
of classes. They are data, built from a few elementary functions of one value, so that what they do
can be stated and computed.
-/

namespace RowDecoding

/-- A function of one value. -/
inductive Hook where
  | identity
  | constant (v : Value)
  /-- The whole number that a number is or that a text writes, in a base if one is given. -/
  | readInt (base : Option Value)
  | text
  | multiply (factor : Value)
  | upper
  | split (separator : Value)
  /-- An attribute of the value. -/
  | part (name : String)
  /-- An instance made from the value; of the class that the hook belongs to if none is named. -/
  | construct (cls : Option String)
  /-- An instance of a type made from the value, where a class stands for a function. -/
  | make (type : TypeExpr)
  /-- An instance made from the elements of the value. -/
  | constructSpread (cls : Option String)
  /-- An instance made from attributes of the value. -/
  | constructFrom (cls : Option String) (attributes : List String)
  /-- A cell of the row that the value is. -/
  | columnNamed (name : Value)
  | columnAt (index : Value)
  /-- The value itself, unless it or its attribute is a negative number. -/
  | nonNegative (part : Option String)
  /-- One more than at the last call, wherever that was. -/
  | count
  /-- The value itself; the tag is noted. -/
  | note (tag : Value)
  /-- One hook after the other. -/
  | pipe (hooks : List Hook)
  /-- A saved plan or mapper, run on the value. -/
  | run (saved : String)
  /-- A failure. -/
  | fail (failure : Failure)
deriving Repr

instance : Inhabited Hook := ⟨.identity⟩

end RowDecoding
