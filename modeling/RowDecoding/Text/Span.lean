/-!
# Spans of code points

A character property is stored as a list of spans: `⟨first, last, step⟩` stands for the code points
`first, first + step, …, last`. Letters of the cased scripts alternate between the two cases, so a
step of two keeps the tables short. Membership in a table is a linear search; text is short, and
ASCII never reaches a table.
-/

namespace RowDecoding.Text

/-- The code points `first, first + step, …, last`. -/
structure Span where
  first : Nat
  last : Nat
  step : Nat
deriving DecidableEq, Repr

/-- Whether a code point lies on the span. -/
def Span.covers (s : Span) (code : Nat) : Bool :=
  s.first ≤ code && code ≤ s.last && (code - s.first) % s.step == 0

/-- Whether some span of the table covers the code point. -/
def covered (table : List Span) (code : Nat) : Bool :=
  table.any (·.covers code)

theorem covered_append (xs ys : List Span) (code : Nat) :
    covered (xs ++ ys) code = (covered xs code || covered ys code) := by
  simp [covered]

end RowDecoding.Text
