import RowDecoding.Failure.Basic

/-!
# Order of values

Which values are at least as great as others. Numbers are compared across their kinds; texts, binary
data and sequences by their first difference; sets by inclusion; dates and times of one kind by when
they are. Anything else cannot be compared, and an undefined decimal number refuses to be.
-/

namespace RowDecoding

open Number

namespace Value

/-- Whether a number is at least as great as another one; undefined numbers are not. -/
def numberAtLeast (a b : Magnitude) : Bool :=
  match a, b with
  | .undefined, _ | _, .undefined => false
  | _, _ => !a.isLess b

/-- Whether a value is an undefined decimal number. -/
def isUndefinedDecimal : Value → Bool
  | .decimal (.nan ..) => true
  | _ => false

/-- Whether a list of bytes is at least as great as another one. -/
def bytesAtLeast : List UInt8 → List UInt8 → Bool
  | _, [] => true
  | [], _ :: _ => false
  | a :: as, b :: bs => if a == b then bytesAtLeast as bs else b.toNat < a.toNat

/-- When something is that may have an offset, if another one can be compared with it. -/
def comparable? (a b : Int) : Option Int → Option Int → Option Bool
  | some o, some p => some (decide (b - p ≤ a - o))
  | Option.none, Option.none => some (decide (b ≤ a))
  | _, _ => Option.none

/-- Whether a value without parts is at least as great as another one, if they can be compared. -/
def simpleAtLeast? (a b : Value) : Except Fault (Option Bool) :=
  match a.magnitude?, b.magnitude? with
  | some m, some n =>
    if a.isUndefinedDecimal || b.isUndefinedDecimal then .error Fault.undefinedOperation
    else .ok (some (numberAtLeast m n))
  | _, _ =>
    .ok (match a.asText?, b.asText? with
      | some s, some t => some (!decide (s < t))
      | _, _ =>
        match a, b with
        | .binary .memoryview _, _ | _, .binary .memoryview _ => Option.none
        | .binary _ x, .binary _ y => some (bytesAtLeast x y)
        | .datetime t, .datetime u =>
          comparable? t.sinceBeginning u.sinceBeginning t.clock.offset u.clock.offset
        | .date d, .date e =>
          some (decide (d.ordinal ≥ e.ordinal))
        | .time t, .time u => comparable? t.sinceMidnight u.sinceMidnight t.offset u.offset
        | .timedelta d, .timedelta e => some (decide (e.microseconds ≤ d.microseconds))
        | .uuid u, .uuid w => some (decide (w.value ≤ u.value))
        | .set xs, .set ys | .set xs, .frozenset ys | .frozenset xs, .set ys
        | .frozenset xs, .frozenset ys => some (ys.all fun y => xs.any (·.equal y))
        | _, _ => Option.none)

mutual

/-- Whether a value is at least as great as another one, if they can be compared. -/
def atLeast? : Value → Value → Except Fault (Option Bool)
  | .list xs, b =>
    match b with
    | .list ys => sequenceAtLeast? xs ys
    | _ => .ok Option.none
  | .tuple xs, b =>
    match b with
    | .tuple ys => sequenceAtLeast? xs ys
    | .record ⟨_, _, .namedTuple⟩ fields => sequenceAtLeast? xs (fields.map (·.2))
    | _ => .ok Option.none
  | a, b => simpleAtLeast? a b

/-- Whether a sequence is at least as great as another one: so is the first element that differs, or
there are as many or more. -/
def sequenceAtLeast? : List Value → List Value → Except Fault (Option Bool)
  | _, [] => .ok (some true)
  | [], _ :: _ => .ok (some false)
  | a :: as, b :: bs => if a.equal b then sequenceAtLeast? as bs else atLeast? a b

end

end Value

end RowDecoding
