import RowDecoding.Text.NameClass

/-!
# Names

A name begins with a letter or an underscore and goes on with letters, digits and underscores, of
any script.
-/

namespace RowDecoding.Text

/-- Whether a name may begin with a character. -/
def beginsName (c : Char) : Bool :=
  if c.toNat < 128 then c.isAlpha || c == '_' else covered NameClass.initial c.toNat

/-- Whether a name may go on with a character. -/
def continuesName (c : Char) : Bool :=
  beginsName c ||
    (if c.toNat < 128 then c.isDigit else covered NameClass.further c.toNat)

/-- Whether a text can be a name. -/
def isName : List Char → Bool
  | [] => false
  | c :: rest => beginsName c && rest.all continuesName

end RowDecoding.Text
