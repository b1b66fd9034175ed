import RowDecoding.Session.Basic
import RowDecoding.Validation.Choice
import RowDecoding.Validation.Moment

/-!
# Checking structures

A value against any type expression. Containers are checked part by part, and all that is wrong with
the parts is reported, each issue with the place where the part stands. A union takes the first
member that accepts the value as it is, or else the one that it fits best. What classes accept is
left to a function that is given.
-/

namespace RowDecoding

/-- A check of one value. -/
abbrev ValueCheck := Value → Run Verdict

namespace Check

/-! ### What a type is called among the members of a union -/

/-- The name of a built-in type as a member of a union. -/
def builtinLabel : Builtin → String
  | .any | .object => "any"
  | .noneType => "none"
  | .decimal => "decimal"
  | .uuid => "uuid"
  | .list => "list[any]"
  | .dict => "dict[any,any]"
  | .set => "set[any]"
  | .frozenset => "frozenset[any]"
  | .tuple => "tuple[any, ...]"
  | b => b.name

/-- The name of an enumeration with members as a member of a union. -/
def enumerationLabel (mixin : Mixin) (name : String) : String :=
  match mixin with
  | .none => "enum[" ++ name ++ "]"
  | .whole => "int-enum[" ++ name ++ "]"
  | .text => "str-enum[" ++ name ++ "]"

/-- The name of a check that takes what members of enumerations stand for. -/
def unwrappingLabel (step inner : String) : String :=
  "function-after[" ++ step ++ "(), " ++ inner ++ "]"

/-- The name of a declared class as a member of a union. -/
def classLabel (table : ClassTable) (s : CheckSettings) (c : ClassRef) : String :=
  match c.form, table.schemaOf? c with
  | .enumeration mixin, _ =>
    if (table.info c).members.isEmpty then "is-instance[" ++ c.name ++ "]"
    else
      let own := enumerationLabel mixin c.name
      if s.plainMembers then unwrappingLabel "operator.attrgetter('value')" own else own
  | _, some info => if info.ref.form == .namedTuple then "call[" ++ c.name ++ "]" else c.name
  | _, none => "is-instance[" ++ c.name ++ "]"

/-- The name of a literal type as a member of a union. -/
def literalLabel (s : CheckSettings) (choices : List Value) : String :=
  let own := "literal[" ++ ",".intercalate (choices.map (·.shown)) ++ "]"
  if s.plainMembers && choices.any (·.payload?.isSome) then
    unwrappingLabel "GenerateSchema._literal_schema.<locals>.<lambda>" own
  else own

mutual

/-- The name of a type as a member of a union. -/
def label (table : ClassTable) (s : CheckSettings) : TypeExpr → String
  | .builtin b => builtinLabel b
  | .declared c => classLabel table s c
  | .union _ members =>
    let names := (labels table s members).filter (· != "none")
    let body :=
      match names with
      | [name] => name
      | _ => "union[" ++ ",".intercalate names ++ "]"
    if names.length == members.length then body else "nullable[" ++ body ++ "]"
  | .listOf t => "list[" ++ label table s t ++ "]"
  | .setOf t => "set[" ++ label table s t ++ "]"
  | .frozensetOf t => "frozenset[" ++ label table s t ++ "]"
  | .dictOf k v => "dict[" ++ label table s k ++ "," ++ label table s v ++ "]"
  | .tupleOf _ items => "tuple[" ++ ", ".intercalate (labels table s items) ++ "]"
  | .tupleOfAny t => "tuple[" ++ label table s t ++ ", ...]"
  | .literal choices => literalLabel s choices
  | .annotated base _ => label table s base
  | .forward name => name
  | .value .none => "none"
  | .value v => v.plain

/-- The names of several types. -/
def labels (table : ClassTable) (s : CheckSettings) : List TypeExpr → List String
  | [] => []
  | t :: rest => label table s t :: labels table s rest

end

/-! ### Containers -/

/-- The kinds of containers with elements. -/
inductive Container where
  | list
  | tuple
  | set
  | frozenset
deriving DecidableEq, Repr

namespace Container

/-- The elements of a value, if it is such a container; in a lax check any container will do. -/
def elements? (kind : Container) (strict : Bool) (v : Value) : Option (List Value × Exactness) :=
  match kind, v, v.asSequence? with
  | list, .list items, _ => some (items, .exact)
  | set, .set items, _ => some (items, .exact)
  | frozenset, .frozenset items, _ => some (items, .exact)
  | tuple, .list items, _ => if strict then none else some (items, .lax)
  | tuple, _, some items => some (items, .exact)
  | _, _, some items => if strict then none else some (items, .lax)
  | _, .set items, _ => if strict then none else some (items, .lax)
  | _, .frozenset items, _ => if strict then none else some (items, .lax)
  | _, .binary .memoryview bytes, _ =>
    if strict then none else some (bytes.map fun b => .int b.toNat, .lax)
  | _, _, _ => none

/-- A value that is no such container. -/
def refuse : Container → Verdict
  | list => .reject "list_type" "Input should be a valid list"
  | tuple => .reject "tuple_type" "Input should be a valid tuple"
  | set => .reject "set_type" "Input should be a valid set"
  | frozenset => .reject "frozen_set_type" "Input should be a valid frozenset"

/-- Whether elements have to be keys. -/
def keepsDistinct : Container → Bool
  | set | frozenset => true
  | _ => false

/-- The container with these elements. -/
def make : Container → List Value → Value
  | list, items => .list items
  | tuple, items => .tuple items
  | set, items => .set (Value.distinct items)
  | frozenset, items => .frozenset (Value.distinct items)

end Container

/-- The verdict on an element that has to be a key. -/
def requireKey (verdict : Verdict) : Verdict :=
  match verdict with
  | .ok fit =>
    if fit.value.unhashable?.isSome then
      .reject "set_item_not_hashable" "Set items should be hashable"
    else verdict
  | .error _ => verdict

/-- The verdict on a field that was not given. -/
def missing : Verdict :=
  .reject "missing" "Field required"

/-- The verdict on a container with more parts than it may have; `found` says how many it has. -/
def tooLongBy (title : String) (most : Nat) (found : String) : Verdict :=
  .reject "too_long" (title ++ " should have at most " ++ Number.digits most ++ " item" ++
    plural most ++ " after validation, not " ++ found)

/-- The verdict on a container with more parts than it may have. -/
def tooLong (title : String) (most found : Nat) : Verdict :=
  tooLongBy title most (Number.digits found)

/-- What becomes of a container with a bound on its length: elements of a list count whether they
are accepted or not, those of a tuple if they are, and those of a set if no other one is equal. -/
def withinLength (kind : Container) (longest : Option Nat) (count : Nat)
    (verdicts : List Verdict) (otherwise : Verdict) : Verdict :=
  match longest with
  | none => otherwise
  | some most =>
    let accepted := (Verdict.fits verdicts).map (·.value)
    match kind with
    | .list => if most < count then tooLong "List" most count else otherwise
    | .tuple => if most < accepted.length then tooLong "Tuple" most count else otherwise
    | .set =>
      if most < (Value.distinct accepted).length then tooLongBy "Set" most "more" else otherwise
    | .frozenset =>
      if most < (Value.distinct accepted).length then tooLongBy "Frozenset" most "more"
      else otherwise

/-- The elements that are looked at: of a list with a bound on its length no more than the first one
beyond it. -/
def lookedAt (kind : Container) (longest : Option Nat) (items : List Value) : List Value :=
  match kind, longest with
  | .list, some most => items.take (most + 1)
  | _, _ => items

/-- Every element of a container, which may have a greatest length. -/
def eachElement (kind : Container) (strict : Bool) (longest : Option Nat) (item : ValueCheck) :
    ValueCheck := fun v => do
  match kind.elements? strict v with
  | none => pure kind.refuse
  | some (items, exactness) =>
    let verdicts ← (lookedAt kind longest items).zipIdx.mapM fun (v, i) => do
      let verdict ← item v
      let verdict := if kind.keepsDistinct then requireKey verdict else verdict
      pure (verdict.at_ (.int i))
    pure (withinLength kind longest items.length verdicts
      (Verdict.whole kind.make exactness verdicts))

/-- Each position of a tuple by its own check. -/
def eachPosition (strict : Bool) (longest : Option Nat) (checks : List ValueCheck) :
    ValueCheck := fun v => do
  match Container.tuple.elements? strict v with
  | none => pure Container.tuple.refuse
  | some (items, exactness) =>
    let verdicts ← checks.zipIdx.mapM fun (check, i) => do
      let verdict ←
        match items[i]? with
        | some v => check v
        | none => pure missing
      pure (verdict.at_ (.int i))
    pure (withinLength .tuple longest items.length verdicts
      (if checks.length < items.length then tooLong "Tuple" checks.length items.length
        else Verdict.whole .tuple exactness verdicts))

/-- Every key and value of a dictionary; an entry is accepted if both are. -/
def eachEntry (key value : ValueCheck) : ValueCheck := fun v => do
  match v with
  | .dict entries =>
    let verdicts ← entries.mapM fun (k, v) => do
      let place := k.asPlace
      let onKey ← key k
      let onValue ← value v
      let onKey := (onKey.at_ (.text "[key]")).at_ place
      pure (Verdict.whole .tuple .exact [onKey, onValue.at_ place])
    let ofPairs (pairs : List Value) : Value :=
      .dict (Value.mergeEntries (pairs.filterMap fun
        | .tuple [k, v] => some (k, v)
        | _ => none))
    pure (Verdict.whole ofPairs .exact verdicts)
  | _ => pure (.reject "dict_type" "Input should be a valid dictionary")

/-! ### Unions -/

/-- A member of a union: what it is called, and its check. -/
abbrev Alternative := String × ValueCheck

/-- The verdicts of the members in turn, up to the first perfect one. -/
def tryEach (v : Value) : List Alternative → Run (List (String × Verdict))
  | [] => pure []
  | (name, check) :: rest => do
    let verdict ← check v
    match verdict with
    | .ok fit =>
      if fit.isPerfect then pure [(name, verdict)]
      else return (name, verdict) :: (← tryEach v rest)
    | .error _ => return (name, verdict) :: (← tryEach v rest)

/-- The best of the members that accept a value, or what is wrong with it for each of them. A member
that cannot be beaten ends the search, and what was known of a larger value before is forgotten. -/
def oneOf (alternatives : List Alternative) : ValueCheck := fun v => do
  let verdicts ← tryEach v alternatives
  match bestFit? (Verdict.fits (verdicts.map (·.2))) with
  | some fit => pure (.ok { fit with renewed := fit.isPerfect })
  | none =>
    pure (.error (Verdict.allIssues (verdicts.map fun (name, verdict) =>
      verdict.at_ (.text name))))

/-- A union without the member for nothing; one member alone needs no name. -/
def anyOf (alternatives : List Alternative) : ValueCheck :=
  match alternatives with
  | [(_, check)] => check
  | _ => oneOf alternatives

/-- Nothing, or whatever else is accepted. -/
def nullable (check : ValueCheck) : ValueCheck := fun v => do
  match v with
  | .none => pure (.exactly v)
  | _ => check v

/-! ### All types -/

/-- A check that finds its verdict by itself. -/
def plainly (check : Value → Verdict) : ValueCheck := fun v => pure (check v)

/-- Anything at all. -/
def anything : ValueCheck :=
  plainly fun v => .accept v .lax

/-- A built-in container, which may have a greatest length. -/
def container (strict : Bool) (longest : Option Nat) (kind : Container) : ValueCheck :=
  eachElement kind strict longest (plainly .exactly)

/-- A built-in type. -/
def builtin (s : CheckSettings) : Builtin → ValueCheck
  | .int => plainly (int s.strict)
  | .float => plainly (float s)
  | .str => plainly (str s)
  | .bytes => plainly (bytes s.strict)
  | .bool => plainly (bool s.strict)
  | .decimal => plainly (decimal s)
  | .datetime => plainly (datetime s.strict)
  | .date => plainly (date s.strict)
  | .time => plainly (time s.strict)
  | .uuid => plainly (uuid s.strict)
  | .any | .object => anything
  | .noneType => plainly noneType
  | .list => container s.strict none .list
  | .tuple => container s.strict none .tuple
  | .set => container s.strict none .set
  | .frozenset => container s.strict none .frozenset
  | .dict => eachEntry (plainly .exactly) (plainly .exactly)

/-- Whether a value is an instance of a class or of one that inherits from it. -/
def isInstance (table : ClassTable) (c : ClassRef) : Value → Bool
  | .record d _ | .whole d _ | .member d .. =>
    (table.lineage d).any (·.ref.serial == c.serial)
  | _ => false

/-- An instance of a class without a known structure. -/
def instanceOf (table : ClassTable) (c : ClassRef) (v : Value) : Verdict :=
  if isInstance table c v then .exactly v else refuseInstance c.name

/-- A declared class; `record` checks those with fields. -/
def declared (table : ClassTable) (record : CheckSettings → ClassRef → ValueCheck)
    (s : CheckSettings) (c : ClassRef) : ValueCheck :=
  match c.form, table.schemaOf? c with
  | .enumeration mixin, _ =>
    plainly fun v =>
      let verdict := enumeration table s.strict c mixin v
      if s.plainMembers then unwrapped verdict else verdict
  | _, some _ => record s c
  | _, none => plainly (instanceOf table c)

mutual

/-- The check of a type. Names that are still in it stand for nothing. -/
def type (table : ClassTable) (record : CheckSettings → ClassRef → ValueCheck)
    (s : CheckSettings) : TypeExpr → ValueCheck
  | .builtin b => builtin s b
  | .declared c => declared table record s c
  | .union _ members =>
    let alternatives := (typesOf table record s members).filter (·.1 != "none")
    if alternatives.length == members.length then anyOf alternatives
    else nullable (anyOf alternatives)
  | .listOf t => eachElement .list s.strict none (type table record s t)
  | .setOf t => eachElement .set s.strict none (type table record s t)
  | .frozensetOf t => eachElement .frozenset s.strict none (type table record s t)
  | .dictOf k v => eachEntry (type table record s k) (type table record s v)
  | .tupleOf _ items =>
    eachPosition s.strict none ((typesOf table record s items).map (·.2))
  | .tupleOfAny t => eachElement .tuple s.strict none (type table record s t)
  | .literal choices =>
    plainly fun v =>
      let verdict := literal choices v
      if s.plainMembers then unwrapped verdict else verdict
  | .annotated base _ => type table record s base
  | .value .none => plainly noneType
  | .forward _ | .value _ => anything

/-- The checks of several types with what they are called. -/
def typesOf (table : ClassTable) (record : CheckSettings → ClassRef → ValueCheck)
    (s : CheckSettings) : List TypeExpr → List Alternative
  | [] => []
  | t :: rest => (label table s t, type table record s t) :: typesOf table record s rest

end

end Check

end RowDecoding
