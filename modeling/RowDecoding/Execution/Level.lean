import RowDecoding.Validation.Bounds

/-!
# Levels

Hooks run plans, plans construct instances, and instances run hooks. Each of these computations is
written against a *level*, which offers the others one level further down. Levels are stacked upon
one that offers nothing, so every computation ends.
-/

namespace RowDecoding

/-- A computation from a value to a value. -/
abbrev ValueCall := Value → Run Value

/-- What a computation may ask of the level below. -/
structure Level where
  /-- A hook, with the class that it belongs to. -/
  hook : Option ClassRef → Hook → ValueCall
  /-- A mapping of whole rows. -/
  mapRow : RowMapper → ValueCall
  /-- An instance of a class, from positional and keyword arguments. -/
  construct : TypeExpr → List Value → Bindings → Run Value
  /-- A check against a class with fields, by the settings around it. A strictness that is given
  prevails over that of every class. -/
  record : Option Bool → CheckSettings → ClassRef → ValueCheck

namespace Level

/-- What is left when the levels are used up. -/
def exhausted : Failure :=
  Failure.raised .recursion "maximum recursion depth exceeded"

/-- The level that offers nothing. -/
def none : Level where
  hook _ _ _ := throw exhausted
  mapRow _ _ := throw exhausted
  construct _ _ _ := throw exhausted
  record _ _ _ _ := throw exhausted

/-- A default value. -/
def supply (l : Level) : Supply → Run Value
  | .constant v => pure v
  | .hook owner h => l.hook owner h .none
  | .make t => l.construct t [] []

/-- A check against any type within bounds. -/
def check (l : Level) (table : ClassTable) (mode : Option Bool) (s : CheckSettings)
    (bounds : Bounds) (t : TypeExpr) : ValueCheck :=
  Check.bounded table (l.record mode) (s.inMode mode) bounds t

end Level

end RowDecoding
