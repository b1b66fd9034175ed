import RowDecoding.Failure.Basic

/-!
# Verdicts

What a check of a value against a type finds: issues, or the value as it is accepted. An accepted
value also says how well it fitted, which decides between the members of a union.
-/

namespace RowDecoding

/-- How well a value fits a type: as it is, after a change of class that keeps what it says, or only
by reading it as something else. -/
inductive Exactness where
  | lax
  | strict
  | exact
deriving DecidableEq, Repr, Inhabited

namespace Exactness

/-- The place of an exactness in their order. -/
def rank : Exactness → Nat
  | lax => 0
  | strict => 1
  | exact => 2

/-- The lesser of two. -/
def least (a b : Exactness) : Exactness :=
  if a.rank ≤ b.rank then a else b

end Exactness

/-- An accepted value. -/
structure Fit where
  value : Value
  exactness : Exactness
  /-- How many fields were given, if the value or a part of it has fields. -/
  fieldsGiven : Option Nat
  /-- Whether a union in it ended its search at a perfect member: how well the parts before that one
  fitted no longer counts. -/
  renewed : Bool
deriving Inhabited

/-- What a check finds. -/
abbrev Verdict := Except (List Issue) Fit

namespace Verdict

/-- A value accepted as well as `exactness` says. -/
def accept (v : Value) (exactness : Exactness) : Verdict :=
  .ok ⟨v, exactness, none, false⟩

/-- A value accepted as it is. -/
def exactly (v : Value) : Verdict :=
  accept v .exact

/-- A value that breaks a rule. -/
def reject (rule message : String) : Verdict :=
  .error [⟨[], rule, message⟩]

/-- The verdict on a part that stands at a place. -/
def at_ (place : Value) (verdict : Verdict) : Verdict :=
  verdict.mapError fun issues => issues.map fun i => { i with location := place :: i.location }

/-- The issues of a verdict. -/
def issues : Verdict → List Issue
  | .ok _ => []
  | .error found => found

/-- The issues of several verdicts in turn. -/
def allIssues (verdicts : List Verdict) : List Issue :=
  verdicts.flatMap issues

/-- The accepted ones among several verdicts. -/
def fits (verdicts : List Verdict) : List Fit :=
  verdicts.filterMap fun | .ok fit => some fit | .error _ => none

/-- The given fields of two parts together. -/
def together : Option Nat → Option Nat → Option Nat
  | some m, some n => some (m + n)
  | some m, none => some m
  | none, n => n

/-- How well a whole fits once one more part of it is looked at. -/
def withPart (fit part : Fit) : Fit :=
  if part.renewed then { part with value := fit.value }
  else
    { fit with
      exactness := fit.exactness.least part.exactness
      fieldsGiven := together fit.fieldsGiven part.fieldsGiven }

/-- What becomes of a whole from the verdicts on its parts: all issues, or the whole made of the
accepted parts, which fits no better than any of them and to which as many fields were given as to
all of them. -/
def whole (make : List Value → Value) (exactness : Exactness) (verdicts : List Verdict) : Verdict :=
  match allIssues verdicts with
  | [] =>
    let parts := fits verdicts
    .ok (parts.foldl withPart ⟨make (parts.map (·.value)), exactness, none, false⟩)
  | found => .error found

/-- The verdict on a value that fits no better than `exactness`. -/
def noBetterThan (exactness : Exactness) (verdict : Verdict) : Verdict :=
  verdict.map fun fit => { fit with exactness := fit.exactness.least exactness }

end Verdict

/-! ### The best of several -/

/-- Whether a fit is better than another one: more fields were given, or as many and the value fits
more exactly. -/
def Fit.betterThan (a b : Fit) : Bool :=
  match b.fieldsGiven, a.fieldsGiven with
  | some m, some n => if m == n then b.exactness.rank < a.exactness.rank else m < n
  | _, _ => b.exactness.rank < a.exactness.rank

/-- Whether a fit cannot be beaten. -/
def Fit.isPerfect (fit : Fit) : Bool :=
  fit.exactness == .exact && fit.fieldsGiven.isNone

/-- The first perfect fit, or else the first of the best ones. -/
def bestFit? (candidates : List Fit) : Option Fit :=
  match candidates.find? (·.isPerfect) with
  | some fit => some fit
  | none =>
    candidates.foldl
      (fun best fit =>
        match best with
        | none => some fit
        | some b => if fit.betterThan b then some fit else best)
      none

end RowDecoding
