import RowDecoding.Schema.Class

/-!
# Calls

How the arguments of a call reach the parameters of a constructor. Positional arguments fill the
parameters in order, keyword arguments by name; what is left over goes to the parameters that take
it, or the call fails. A failed call says which arguments were missing, doubled or unexpected.
-/

namespace RowDecoding

/-- A parameter of a constructor. -/
structure Parameter where
  name : String
  kind : ParameterKind
  required : Bool
deriving DecidableEq, Repr, Inhabited

/-- What has reached a parameter. -/
abbrev Bindings := List (String × Value)

namespace Parameter

/-- Parameters that positional arguments fill. -/
def isPositional (p : Parameter) : Bool :=
  p.kind == .ordinary || p.kind == .positionalOnly

/-- Parameters that keyword arguments fill. -/
def isNamed (p : Parameter) : Bool :=
  p.kind == .ordinary || p.kind == .keywordOnly

end Parameter

/-- Names between quotes, the last two with `and` between them. -/
def enumerated (names : List String) : String :=
  let quoted := names.map Text.quote
  match quoted with
  | [] => ""
  | [a] => a
  | [a, b] => a ++ " and " ++ b
  | _ => commaSeparated quoted.dropLast ++ ", and " ++ quoted.getLastD ""

namespace Call

/-- Where keyword arguments go: to the parameter of their name, or to those that are left over. -/
def placeKeywords (title : String) (parameters : List Parameter) (keepsRest : Bool)
    (given : Bindings) :
    Bindings → Bindings × Bindings → Except Fault (Bindings × Bindings)
  | [], placed => .ok placed
  | (name, v) :: rest, (bound, left) =>
    if parameters.any fun p => p.isNamed && p.name == name then
      if bound.any (·.1 == name) then
        .error (Fault.wrongType
          (title ++ " got multiple values for argument " ++ Text.quote name))
      else placeKeywords title parameters keepsRest given rest (bound ++ [(name, v)], left)
    else if keepsRest then
      placeKeywords title parameters keepsRest given rest (bound, left ++ [(name, v)])
    else
      let positionalOnly := parameters.filter fun p =>
        p.kind == .positionalOnly && given.any (·.1 == p.name)
      if positionalOnly.isEmpty then
        .error (Fault.wrongType (title ++ " got an unexpected keyword argument " ++
          Text.quote name))
      else
        .error (Fault.wrongType (title ++
          " got some positional-only arguments passed as keyword arguments: '" ++
          commaSeparated (positionalOnly.map (·.name)) ++ "'"))

/-- The failure of a call with too many positional arguments. -/
def tooMany (title : String) (parameters : List Parameter) (given : Nat) (bound : Bindings) :
    Fault :=
  let positional := parameters.filter (·.isPositional)
  let optional := (positional.filter (!·.required)).length
  let most := positional.length
  let takes :=
    if optional == 0 then Number.digits most
    else "from " ++ Number.digits (most - optional) ++ " to " ++ Number.digits most
  let several := if optional == 0 then plural most else "s"
  let named := (parameters.filter fun p =>
    p.kind == .keywordOnly && bound.any (·.1 == p.name)).length
  let besides :=
    if named == 0 then ""
    else " positional argument" ++ plural given ++ " (and " ++ Number.digits named ++
      " keyword-only argument" ++ plural named ++ ")"
  Fault.wrongType (title ++ " takes " ++ takes ++ " positional argument" ++ several ++ " but " ++
    Number.digits given ++ besides ++ (if given == 1 && named == 0 then " was" else " were") ++
    " given")

/-- The failure of a call without all required arguments of a sort. -/
def missing (title sort : String) (names : List String) : Fault :=
  Fault.wrongType (title ++ " missing " ++ Number.digits names.length ++ " required " ++ sort ++
    " argument" ++ plural names.length ++ ": " ++ enumerated names)

/-- What reaches each parameter; parameters that may be left out and were are not listed. -/
def bind (title : String) (parameters : List Parameter) (positional : List Value)
    (keywords : Bindings) : Except Fault Bindings := do
  let places := parameters.filter (·.isPositional)
  let bound := (places.zip positional).map fun (p, v) => (p.name, v)
  let extra := positional.drop places.length
  let rest? := parameters.find? (·.kind == .spread)
  let keywordRest? := parameters.find? (·.kind == .keywordSpread)
  let (bound, left) ←
    placeKeywords title parameters keywordRest?.isSome keywords keywords (bound, [])
  if !extra.isEmpty && rest?.isNone then throw (tooMany title parameters positional.length bound)
  let absent (p : Parameter) : Bool := p.required && !bound.any (·.1 == p.name)
  let lacking := (places.filter absent).map (·.name)
  if !lacking.isEmpty then throw (missing title "positional" lacking)
  let lacking := (parameters.filter fun p => p.kind == .keywordOnly && absent p).map (·.name)
  if !lacking.isEmpty then throw (missing title "keyword-only" lacking)
  let spread := (rest?.map fun p => (p.name, Value.tuple extra)).toList
  let keywordSpread :=
    (keywordRest?.map fun p => (p.name, Value.dict (left.map fun (k, v) => (.text k, v)))).toList
  pure (bound ++ spread ++ keywordSpread)

end Call

/-- The parameters of a constructor, without the one that receives the instance; those of a class of
records that are filled by name only come last. -/
def Constructor.signature (c : Constructor) : List Parameter :=
  let all := (c.parameters.filter (·.inConstructor)).map fun f =>
    (⟨f.name, f.kind,
      f.default.isNone && f.kind != .spread && f.kind != .keywordSpread⟩ : Parameter)
  match c.making with
  | .fields => all.filter (·.kind != .keywordOnly) ++ all.filter (·.kind == .keywordOnly)
  | _ => all

end RowDecoding
