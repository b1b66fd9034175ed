import RowDecoding.Directive.Raw

/-!
# Settings of checks

Where a check of a value leaves a choice, settings decide: whether it is strict, what becomes of
values that belong to no field, how texts are put right. A class of checked records has settings of
its own, which begin with those of its base.
-/

namespace RowDecoding

/-- What a class does with values that belong to no field. -/
inductive Surplus where
  | ignored
  | forbidden
  | kept
deriving DecidableEq, Repr, Inhabited

/-- Which instances of a class are checked once more where an instance of it is expected. -/
inductive Rechecked where
  | none
  /-- Those of classes derived from it. -/
  | derived
  | all
deriving DecidableEq, Repr, Inhabited

/-- How values are checked, where a check leaves a choice. -/
structure CheckSettings where
  /-- Whether values of other classes are refused even if they can be read as the type. -/
  strict : Bool
  surplus : Surplus
  /-- Whether a field with an alternative name is taken under its own name. -/
  byOwnName : Bool
  /-- Whether a field with an alternative name is taken under that name. -/
  byAlternative : Bool
  /-- Whether issues with a field stand at its own name, whatever name it was taken under. -/
  placesByOwnName : Bool
  /-- Whether fields are also taken from what instances of other classes say of themselves. -/
  takesAttributes : Bool
  rechecked : Rechecked
  /-- Whether texts lose the white space around them. -/
  strips : Bool
  /-- Whether texts are put in small letters. -/
  small : Bool
  /-- Whether texts are put in capitals. -/
  capital : Bool
  /-- The least length of a text. -/
  shortest : Option Nat
  /-- The greatest length of a text. -/
  longest : Option Nat
  /-- Whether numbers may be infinite or undefined; if nothing is said, doubles may. -/
  unbounded : Option Bool
  /-- Whether the value of a member of an enumeration is taken in place of the member. -/
  plainMembers : Bool
  /-- Whether numbers are read as texts. -/
  numbersAsText : Bool
  /-- Whether defaults are checked as well. -/
  checksDefaults : Bool
  /-- Whether classes without a known structure are allowed. -/
  allowsForeign : Bool
deriving DecidableEq, Repr

namespace CheckSettings

/-- The settings where none are given. -/
def standard : CheckSettings :=
  ⟨false, .ignored, false, true, false, false, .none, false, false, false, none, none, none, false,
    false, false, false⟩

instance : Inhabited CheckSettings := ⟨standard⟩

/-- The settings with a strictness from outside, if one is given. -/
def inMode (s : CheckSettings) : Option Bool → CheckSettings
  | some strict => { s with strict }
  | none => s

end CheckSettings

/-- One choice. -/
inductive Setting where
  | strict (on : Bool)
  | surplus (choice : Surplus)
  | byOwnName (on : Bool)
  | byAlternative (on : Bool)
  | placesByOwnName (on : Bool)
  | takesAttributes (on : Bool)
  | rechecked (which : Rechecked)
  | strips (on : Bool)
  | small (on : Bool)
  | capital (on : Bool)
  | shortest (length : Nat)
  | longest (length : Nat)
  | unbounded (on : Bool)
  | plainMembers (on : Bool)
  | numbersAsText (on : Bool)
  | checksDefaults (on : Bool)
  | allowsForeign (on : Bool)
deriving DecidableEq, Repr

/-- The settings with one more choice made. -/
def Setting.apply (s : CheckSettings) : Setting → CheckSettings
  | strict on => { s with strict := on }
  | surplus choice => { s with surplus := choice }
  | byOwnName on => { s with byOwnName := on }
  | byAlternative on => { s with byAlternative := on }
  | placesByOwnName on => { s with placesByOwnName := on }
  | takesAttributes on => { s with takesAttributes := on }
  | rechecked which => { s with rechecked := which }
  | strips on => { s with strips := on }
  | small on => { s with small := on }
  | capital on => { s with capital := on }
  | shortest length => { s with shortest := some length }
  | longest length => { s with longest := some length }
  | unbounded on => { s with unbounded := some on }
  | plainMembers on => { s with plainMembers := on }
  | numbersAsText on => { s with numbersAsText := on }
  | checksDefaults on => { s with checksDefaults := on }
  | allowsForeign on => { s with allowsForeign := on }

/-- The settings with choices made one after the other. -/
def CheckSettings.choose (s : CheckSettings) (choices : List Setting) : CheckSettings :=
  choices.foldl Setting.apply s

end RowDecoding
