import RowDecoding.Schema.Class
import RowDecoding.Validation.Scalar

/-!
# Checking choices

One of several given values, or a member of an enumeration. A value is looked for among the choices
of its own class first: truth values, whole numbers that 64 bits hold, and texts. Then come the
other choices, and last all truth values, numbers and texts once more, among which the last one that
is equal is taken. A whole number that 64 bits do not hold is refused where smaller ones are
choices.
-/

namespace RowDecoding

namespace Check

/-- A choice, with what is taken if a value equals it. -/
abbrev Choice := Value × Value

/-- Whether a value is a whole number of no class of its own that 64 bits hold. -/
def isWord : Value → Bool
  | .int n => Number.fitsWord n
  | _ => false

/-- Whether a value is a text of no class of its own. -/
def isText : Value → Bool
  | .text _ => true
  | _ => false

/-- Whether a value can be a key. -/
def isKey (v : Value) : Bool :=
  v.unhashable?.isNone

/-- The last of some choices that a value equals. -/
def lastEqual? (choices : List Choice) (v : Value) : Option Value :=
  (choices.reverse.find? fun (c, _) => c.equal v).map (·.2)

/-- The choice of the same class that a value equals. -/
def sameClass? (choices : List Choice) (v : Value) : Option Value :=
  match v with
  | .bool _ => lastEqual? (choices.filter (·.1.isBool)) v
  | .int _ => lastEqual? (choices.filter fun (c, _) => isWord c) v
  | .text _ => lastEqual? (choices.filter fun (c, _) => isText c) v
  | _ => none

/-- The choice of any class that a value equals. -/
def anyClass? (choices : List Choice) (v : Value) : Option Value :=
  let others := choices.filter fun (c, _) => !isWord c && !isText c
  let simple := choices.filter fun (c, _) => c.isBool || isText c || c matches .int _
  let among (cs : List Choice) : Option Value := if isKey v then lastEqual? cs v else none
  (among (others.filter fun (c, _) => isKey c)).or
    (((others.find? fun (c, _) => !isKey c && c.equal v).map (·.2)).or (among simple))

/-- Whether a value is too large to be looked for among the choices. -/
def outgrows (choices : List Choice) (v : Value) : Bool :=
  match v with
  | .int n => !Number.fitsWord n && choices.any fun (c, _) => isWord c
  | _ => false

/-- What a value is taken for. -/
def choose (choices : List Choice) (v : Value) : Except Verdict (Option Value) :=
  if outgrows choices v then .error oversized
  else .ok ((sameClass? choices v).or (anyClass? choices v))

/-- Choices with commas between them and `or` before the last one. -/
def choiceText (choices : List Value) : String :=
  let shown := choices.map (·.shown)
  match shown with
  | [] => ""
  | [a] => a
  | _ => commaSeparated shown.dropLast ++ " or " ++ shown.getLastD ""

/-- One of several given values. -/
def literal (choices : List Value) (v : Value) : Verdict :=
  match choose (choices.map fun c => (c, c)) v with
  | .error verdict => verdict
  | .ok (some c) => .exactly c
  | .ok none => .reject "literal_error" ("Input should be " ++ choiceText choices)

/-! ### Enumerations -/

/-- The values of the members of an enumeration, with the members. -/
def memberChoices (table : ClassTable) (c : ClassRef) : List Choice :=
  (table.info c).members.map fun (name, payload) => (payload, .member c name payload)

/-- A value as a lax check reads it, looked for among the choices; a value that cannot be read is no
choice. -/
def readAndChoose (choices : List Choice) (reading : Verdict) : Except Verdict (Option Value) :=
  match reading with
  | .ok fit => choose choices fit.value
  | .error _ => .ok none

/-- What a lax check takes a value for among the members of an enumeration of a kind. -/
def chooseMember (mixin : Mixin) (choices : List Choice) (v : Value) :
    Except Verdict (Option Value) :=
  match mixin with
  | .whole =>
    match int false v with
    | .ok fit =>
      if choices.any (fun (c, _) => isWord c) && !isWord fit.value && !fit.value.isBool then
        .error oversized
      else choose choices fit.value
    | .error _ => .ok none
  | .text => readAndChoose choices (str .standard v)
  | .none =>
    match v.asInt? with
    | some n => if v.isBool then choose choices v else choose choices (.int n)
    | none => choose choices v

/-- An instance of a class where one has to be given. -/
def refuseInstance (name : String) : Verdict :=
  .reject "is_instance_of" ("Input should be an instance of " ++ name)

/-- A member of an enumeration; in a lax check also the value of one. -/
def enumeration (table : ClassTable) (strict : Bool) (c : ClassRef) (mixin : Mixin) (v : Value) :
    Verdict :=
  let isMember : Bool := match v with | .member d _ _ => d == c | _ => false
  let choices := memberChoices table c
  if isMember then .exactly v
  else if strict || choices.isEmpty then refuseInstance c.name
  else
    match chooseMember mixin choices v with
    | .error verdict => verdict
    | .ok found =>
      match found.or (table.memberOf? c v) with
      | some m => .accept m .lax
      | none => .reject "enum" ("Input should be " ++ choiceText (table.memberValues c))

/-- What a member of an enumeration stands for, in its place; other values stay. -/
def unwrapped (verdict : Verdict) : Verdict :=
  verdict.map fun fit =>
    match fit.value with
    | .member _ _ payload => { fit with value := payload }
    | _ => fit

end Check

end RowDecoding
