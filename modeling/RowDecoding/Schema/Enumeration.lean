import RowDecoding.Instance.Number
import RowDecoding.Instance.Text

/-!
# Members of enumerations

From the names and values that are written down to the members of an enumeration. Names between
underscores and the private names of the class are no members. The members of an enumeration of
texts or numbers are made by the class of texts or numbers from what is written. A name for a value
that an earlier one has is another name for that member.
-/

namespace RowDecoding

namespace Enumeration

/-- Whether a text begins and ends with so many underscores, and no more, around something else. -/
def isBetweenUnderscores (count : Nat) (cs : List Char) : Bool :=
  let leading (cs : List Char) : Nat := (cs.takeWhile (· == '_')).length
  2 * count < cs.length && leading cs == count && leading cs.reverse == count

/-- Whether a name is a private one of the class. -/
def isPrivate (cls name : String) : Bool :=
  let mark := "_" ++ cls ++ "__"
  mark.length < name.length && name.startsWith mark && !name.endsWith "__"

/-- The members among what is given. A name may be given once. -/
def collect (cls : String) :
    List (String × Value) → List (String × Value) → Except Fault (List (String × Value))
  | found, [] => .ok found
  | found, (name, v) :: rest =>
    if isPrivate cls name || isBetweenUnderscores 2 name.toList then collect cls found rest
    else if isBetweenUnderscores 1 name.toList then
      .error (Fault.wrongValue ("_sunder_ names, such as " ++ Text.quote name ++
        ", are reserved for future Enum use"))
    else
      match found.lookup name with
      | some old =>
        .error (Fault.wrongType (Text.quote name ++ " already defined as " ++ old.shown))
      | none => collect cls (found ++ [(name, v)]) rest

/-- The names that no member can have. -/
def impossibleNames : List String :=
  ["", "mro"]

/-- Refuses names that no member can have. -/
def checkNames (members : List (String × Value)) : Except Fault Unit :=
  match impossibleNames.filter fun name => members.any (·.1 == name) with
  | [] => .ok ()
  | names => .error (Fault.wrongValue ("invalid enum member name(s) " ++
      ",".intercalate (names.map Text.quote)))

/-- What is given for a member as the arguments of a call. -/
def argumentsOf : Value → List Value
  | .tuple items => items
  | .record ⟨_, _, .namedTuple⟩ fields => fields.map (·.2)
  | v => [v]

/-- The value of a member. -/
def payload (mixin : Mixin) (v : Value) : Except Fault Value :=
  match mixin with
  | .none => .ok v
  | .text => Instance.textOf (argumentsOf v) []
  | .whole => (Instance.wholeOf (argumentsOf v) []).map .int

/-- The members, and every name with the name of its member. -/
def split (given : List (String × Value)) : List (String × Value) × List (String × String) :=
  given.foldl
    (fun (members, names) (name, v) =>
      match members.find? (·.2.equal v) with
      | some (canonical, _) => (members, names ++ [(name, canonical)])
      | none => (members ++ [(name, v)], names ++ [(name, name)]))
    ([], [])

/-- The members of an enumeration from what is given, with all their names. -/
def members (cls : String) (mixin : Mixin) (given : List (String × Value)) :
    Except Fault (List (String × Value) × List (String × String)) := do
  let found ← collect cls [] given
  checkNames found
  let made ← found.mapM fun (name, v) => (payload mixin v).map fun p => (name, p)
  pure (split made)

end Enumeration

end RowDecoding
