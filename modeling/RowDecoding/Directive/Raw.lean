import RowDecoding.Value.Union

/-!
# Raw directives

What is said about a field or a container before it is checked: values under names, in the order in
which the names were first given. A later value for a name takes the place of the earlier one. What
a class says about all its fields may stand under anything that can be a key.
-/

namespace RowDecoding

/-- Values under names, each name once. -/
abbrev Attributes := List (String × Value)

namespace Attributes

/-- The value under a name. -/
def get? (attributes : Attributes) (name : String) : Option Value :=
  attributes.lookup name

/-- Puts a value under a name; a name that is there already keeps its place. -/
def put : Attributes → String → Value → Attributes
  | [], name, v => [(name, v)]
  | (n, old) :: rest, name, v => if n == name then (n, v) :: rest else (n, old) :: put rest name v

/-- Puts several values under their names, one after the other. -/
def merge (attributes later : Attributes) : Attributes :=
  later.foldl (fun as (name, v) => as.put name v) attributes

end Attributes

/-- Values under keys, each key once. -/
abbrev Entries := List (Value × Value)

namespace Entries

/-- The value under a name. -/
def get? (entries : Entries) (name : String) : Option Value :=
  entries.findSome? fun (k, v) => if k.asText? == some name then some v else none

/-- Puts a value under a name; a name that is there already keeps its place. -/
def put (entries : Entries) (name : String) (v : Value) : Entries :=
  Value.mergeEntries (entries ++ [(.text name, v)])

end Entries

/-- A type as a value; a thing that is no type stands for itself. -/
def TypeExpr.toValue : TypeExpr → Value
  | .value v => v
  | t => .type t

/-- The names of the directives of a field, in the order of their checks. -/
def directiveNames : List String :=
  ["rename", "flatten", "try_from", "default"]

/-- The mark that an annotation carries: the directives given, without those given as nothing. -/
def columnMarker (given : Attributes) : Except Failure Attributes :=
  match given.find? fun (name, _) => !directiveNames.contains name with
  | some (name, _) =>
    .error (Failure.wrongType ("column() got an unexpected keyword argument '" ++ name ++ "'"))
  | none =>
    .ok (directiveNames.filterMap fun name =>
      match given.get? name with
      | none | some .none => none
      | some v => some (name, v))

/-- The directives of the column marks among the markers of an annotation. -/
def markedAttributes (markers : List Value) : Attributes :=
  markers.foldl
    (fun as m =>
      match m with
      | .marker given => as.merge given
      | _ => as)
    []

/-- An annotation without its markers, and what the column marks among them say. -/
def splitAnnotated : TypeExpr → TypeExpr × Attributes
  | .annotated base markers => (base, markedAttributes markers)
  | t => (t, [])

end RowDecoding
