import RowDecoding.Directive.Raw
import RowDecoding.Failure.Message

/-!
# Directives

The checked directives of a field and of a container, and the name of the column that they give a
field. A check reports every directive that is at fault; that a flattened field has no column of
its own is checked last, once each directive by itself is sound.
-/

namespace RowDecoding

open Naming

/-- What is said about one field. -/
structure FieldDirectives where
  /-- The name of its column. -/
  rename : Option String
  /-- Whether it is built from the whole row. -/
  flatten : Bool
  /-- The type to read before converting to the type of the field. -/
  tryFrom : Option TypeExpr
  /-- Whether an absent column is replaced by a default. -/
  default : Bool
deriving Inhabited

/-- What is said about every field of a target. -/
structure ContainerDirectives where
  renameAll : Option Convention
deriving Inhabited

/-! ### Reading conventions -/

/-- The message about a text that names no convention. -/
def unknownConvention (given : String) : String :=
  "Unknown naming convention '" ++ given ++ "'. Expected one of: [" ++
    commaSeparated (Convention.all.map fun c => Text.quote c.spelling) ++ "]"

/-- Reads a convention from a value: a convention itself, or the text of a value. -/
def conventionOf (v : Value) : Except Failure Convention :=
  match v with
  | .convention c => .ok c
  | _ =>
    match Convention.all.find? fun c => v.equal (.text c.spelling) with
    | some c => .ok c
    | none =>
      if v.isUnwritable then .error Fault.tooLongToWrite
      else
        match Convention.parse? v.plain with
        | some c => .ok c
        | none => .error (Failure.wrongValue (unknownConvention v.plain))

/-! ### Checks -/

/-- An issue with a directive. -/
def directiveIssue (name rule message : String) : Issue :=
  ⟨[.text name], rule, message⟩

/-- An issue that a check of the library itself finds. -/
def statedIssue (location : List Value) (message : String) : Issue :=
  ⟨location, "value_error", "Value error, " ++ message⟩

/-- A directive of truth values. -/
def checkFlag (raw : Attributes) (name : String) : Except Issue Bool :=
  match raw.get? name with
  | none => .ok false
  | some (.bool b) => .ok b
  | some _ => .error (directiveIssue name "bool_type" "Input should be a valid boolean")

/-- The directive that names the column. -/
def checkRename (raw : Attributes) : Except Issue (Option String) :=
  match raw.get? "rename" with
  | none | some .none => .ok none
  | some v =>
    match v.asText? with
    | none => .error (directiveIssue "rename" "string_type" "Input should be a valid string")
    | some s =>
      if s.isEmpty then
        .error (statedIssue [.text "rename"] "rename must be a non-empty column name")
      else .ok (some s)

/-- The directive that names a type to read. -/
def checkTryFrom (raw : Attributes) : Except Issue (Option TypeExpr) :=
  match raw.get? "try_from" with
  | none | some .none => .ok none
  | some v =>
    let refuse : Except Issue (Option TypeExpr) :=
      .error (statedIssue [.text "try_from"]
        (if v.isUnwritable then Fault.tooLongToWrite.message
        else "try_from must be a type, got " ++ v.shown))
    match v with
    | .type t => if t.isClass || t.hasOrigin then .ok (some t) else refuse
    | _ => refuse

/-- The directive that names a convention. -/
def checkRenameAll (raw : Entries) : Except Issue (Option Convention) :=
  match raw.get? "rename_all" with
  | none | some .none => .ok none
  | some (.convention c) => .ok (some c)
  | some v =>
    match v.asText? with
    | none => .error (statedIssue [.text "rename_all"]
        ("rename_all must be a string, got " ++ v.typeName))
    | some _ =>
      match conventionOf v with
      | .ok c => .ok (some c)
      | .error f => .error (statedIssue [.text "rename_all"] f.message)

/-- The issues with names that are no directives of a field. -/
def unknownIssues (raw : Attributes) : List Issue :=
  (raw.filter fun (name, _) => !directiveNames.contains name).map fun (name, _) =>
    directiveIssue name "extra_forbidden" "Extra inputs are not permitted"

/-- The issues with keys of a container: one that is no text can be no directive, and only
`rename_all` is one. -/
def containerIssues (raw : Entries) : List Issue :=
  raw.filterMap fun (k, _) =>
    match k.asText? with
    | none => some ⟨[k.asPlace], "invalid_key", "Keys should be strings"⟩
    | some "rename_all" => none
    | some name => some (directiveIssue name "extra_forbidden" "Extra inputs are not permitted")

/-- The issue that a check found, if any. -/
def issueOf {α : Type} : Except Issue α → List Issue
  | .ok _ => []
  | .error i => [i]

/-- One issue with the place where it was found. -/
def issueText (i : Issue) : String :=
  let place := ".".intercalate (i.location.map (·.plain))
  (if place.isEmpty then "attributes" else place) ++ ": " ++ i.message

/-- The failure that lists what is wrong with the directives of an owner. -/
def directiveFailure (owner : String) (issues : List Issue) : Failure :=
  .schema (.attributes (.text owner) (.text ("; ".intercalate (issues.map issueText))))
    (some (.invalid issues))

/-- The issue of a field that is flattened and renamed. -/
def flattenedColumn : Issue :=
  statedIssue [] ("flatten cannot be combined with rename: a flattened field is decoded from " ++
    "the whole row, not from a single column")

/-- Checks the directives of a field. -/
def resolveField (raw : Attributes) (owner : String) : Except Failure FieldDirectives :=
  let rename := checkRename raw
  let flatten := checkFlag raw "flatten"
  let tryFrom := checkTryFrom raw
  let default := checkFlag raw "default"
  let unknown := unknownIssues raw
  match rename, flatten, tryFrom, default, unknown with
  | .ok r, .ok f, .ok t, .ok d, [] =>
    if f && r.isSome then .error (directiveFailure owner [flattenedColumn])
    else .ok ⟨r, f, t, d⟩
  | _, _, _, _, _ =>
    .error (directiveFailure owner
      (issueOf rename ++ issueOf flatten ++ issueOf tryFrom ++ issueOf default ++ unknown))

/-- Checks the directives of a container. -/
def resolveContainer (raw : Entries) (owner : String) : Except Failure ContainerDirectives :=
  let renameAll := checkRenameAll raw
  let unknown := containerIssues raw
  match renameAll, unknown with
  | .ok c, [] => .ok ⟨c⟩
  | _, _ => .error (directiveFailure owner (issueOf renameAll ++ unknown))

/-- The column of a field: the name given for it, or its own name in the convention of the
container, or its own name without an escape. -/
def columnName (field : String) (directives : FieldDirectives) (container : ContainerDirectives) :
    String :=
  match directives.rename with
  | some name => name
  | none =>
    match container.renameAll with
    | some c => convert field c
    | none => unescapeIdentifier field

end RowDecoding
