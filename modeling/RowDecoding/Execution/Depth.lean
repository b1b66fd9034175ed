import RowDecoding.Execution.Hook
import RowDecoding.Execution.Step

/-!
# Stacked levels

The levels in full: each one offers hooks, mappings, instances and checks that rely on the level
below it. The lowest level offers nothing.
-/

namespace RowDecoding

namespace Level

/-- The level above another one. -/
def above (l : Level) : Level where
  hook owner h := h.apply l owner
  mapRow m := m.run l
  construct := Instance.construct l
  record := Instance.checkRecord l

/-- The level above so many others. -/
def ofDepth : Nat → Level
  | 0 => none
  | n + 1 => (ofDepth n).above

/-- How deep computations may be nested in each other. -/
def depth : Nat := 1000

/-- The level that computations start from. -/
def top : Level := ofDepth depth

end Level

end RowDecoding
