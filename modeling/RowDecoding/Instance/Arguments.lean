import RowDecoding.Schema.Call

/-!
# Arguments of built-in classes

How the arguments of a call reach the parameters of a built-in class. The parameters have fixed
places; a place is filled by position or by name. Arguments are looked at in the order of the
parameters, so that what is wrong with an earlier one is said before a later one is missed, and
names that belong to no parameter are refused last.
-/

namespace RowDecoding

/-- A call of a built-in class. -/
structure Arguments where
  /-- How the class is spoken of where a call is refused. -/
  subject : String
  /-- How the class is spoken of where a name is refused. -/
  owner : String
  parameters : List String
  positional : List Value
  keywords : Bindings

namespace Arguments

/-- A call of a class that is named in messages. -/
def ofTitled (title : String) (parameters : List String) (positional : List Value)
    (keywords : Bindings) : Arguments :=
  ⟨title ++ "()", title ++ "()", parameters, positional, keywords⟩

/-- A call of a class that is not named in messages. -/
def ofUntitled (parameters : List String) (positional : List Value) (keywords : Bindings) :
    Arguments :=
  ⟨"function", "this function", parameters, positional, keywords⟩

/-- Refuses more arguments than there are parameters. -/
def checkCount (a : Arguments) : Except Fault Unit :=
  let most := a.parameters.length
  let given := a.positional.length + a.keywords.length
  if given ≤ most then .ok ()
  else .error (Fault.wrongType (a.subject ++ " takes at most " ++ Number.digits most ++ " " ++
    (if a.positional.isEmpty then "keyword " else "") ++ "argument" ++ plural most ++ " (" ++
    Number.digits given ++ " given)"))

/-- Refuses more positional arguments than there are places for. -/
def checkPlaces (a : Arguments) (most : Nat) : Except Fault Unit :=
  if a.positional.length ≤ most then .ok ()
  else .error (Fault.wrongType (a.subject ++ " takes at most " ++ Number.digits most ++
    " positional argument" ++ plural most ++ " (" ++ Number.digits a.positional.length ++
    " given)"))

/-- What was given for the parameter at a place. -/
def at? (a : Arguments) (place : Nat) : Option Value :=
  match a.positional[place]? with
  | some v => some v
  | none => a.parameters[place]?.bind fun name => a.keywords.lookup name

/-- What was given for a parameter that has to be given. -/
def required (a : Arguments) (place : Nat) : Except Fault Value :=
  match a.at? place with
  | some v => .ok v
  | none => .error (Fault.wrongType (a.subject ++ " missing required argument '" ++
      a.parameters.getD place "" ++ "' (pos " ++ Number.digits (place + 1) ++ ")"))

/-- Refuses names that belong to no parameter, or to one that is filled by position. -/
def checkNames (a : Arguments) : Except Fault Unit :=
  let filled := (a.parameters.take a.positional.length).zipIdx.find? fun (name, _) =>
    (a.keywords.lookup name).isSome
  match filled, a.keywords.find? fun (name, _) => !a.parameters.contains name with
  | some (name, place), _ => .error (Fault.wrongType ("argument for " ++ a.subject ++
      " given by name ('" ++ name ++ "') and position (" ++ Number.digits (place + 1) ++ ")"))
  | none, some (name, _) => .error (Fault.wrongType ("'" ++ name ++
      "' is an invalid keyword argument for " ++ a.owner))
  | none, none => .ok ()

end Arguments

/-- Refuses keyword arguments. -/
def refuseKeywords (title : String) (keywords : Bindings) : Except Fault Unit :=
  if keywords.isEmpty then .ok ()
  else .error (Fault.wrongType (title ++ "() takes no keyword arguments"))

/-- The only argument of a class that takes no more than one by position. -/
def onlyArgument (title : String) (positional : List Value) (keywords : Bindings) :
    Except Fault (Option Value) := do
  refuseKeywords title keywords
  match positional with
  | [] => pure none
  | [v] => pure (some v)
  | _ => throw (Fault.wrongType (title ++ " expected at most 1 argument, got " ++
      Number.digits positional.length))

/-- A whole number that fits a machine word of 32 bits. -/
def wordArgument (v : Value) : Except Fault Int :=
  match v.asInt? with
  | none => .error (Fault.notWhole v)
  | some n =>
    if !Number.fitsWord n then
      .error (Fault.raised .overflow "Python int too large to convert to C long")
    else if (Nat.pow 2 31 : Int) ≤ n then
      .error (Fault.raised .overflow "signed integer is greater than maximum")
    else if n < -(Nat.pow 2 31 : Int) then
      .error (Fault.raised .overflow "signed integer is less than minimum")
    else .ok n

end RowDecoding
