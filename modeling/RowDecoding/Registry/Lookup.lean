import RowDecoding.Registry.Basic
import RowDecoding.Schema.Structure

/-!
# Looking up capabilities

How decoders, converters and defaults follow from the registrations. A registration for the very
type comes first. Without one, a union with nothing among its members is handled like the rest of
it, an enumeration by its members, and any other type by checking the structure of its values, if
that can be done for the type.
-/

namespace RowDecoding

namespace Registry

/-! ### Decoders -/

/-- The decoder that checks the structure of values. A type with a name that stands for nothing yet
has one all the same. -/
def structuralDecoder (r : Registry) (table : ClassTable) (t : TypeExpr) :
    Except Failure (Option Transform) :=
  let check : Option Transform := some (.validate t r.config.strict)
  if !r.config.structural then .ok none
  else
    match table.structureOf t with
    | .ok _ | .error .undefined => .ok check
    | .error (.unknown _) => .ok none
    | .error (.failed f) => if f.isType then .ok none else .error f

/-- The decoder of a type that has none registered and is not optional. -/
def derivedDecoder (r : Registry) (table : ClassTable) (t : TypeExpr) :
    Except Failure (Option Transform) :=
  match t.declared? with
  | some c => if c.form.isEnumeration then .ok (some (.member c)) else r.structuralDecoder table t
  | none => r.structuralDecoder table t

/-- The decoder of a type that is not optional: the registered one, or else a derived one. -/
def ownDecoder (r : Registry) (table : ClassTable) (t : TypeExpr) :
    Except Failure (Option Transform) :=
  match r.decoders.lookup t.key with
  | some d => .ok (some d)
  | none => r.derivedDecoder table t

/-- The decoder that follows from the registrations alone. -/
def decoderOf (r : Registry) (table : ClassTable) (t : TypeExpr) :
    Except Failure (Option Transform) :=
  match r.decoders.lookup t.key, t.optionalInner? with
  | none, some inner => (r.ownDecoder table inner).map (·.map .nullable)
  | _, _ => r.ownDecoder table t

/-- Remembers what was resolved for a type. -/
def remember (r : Registry) (t : TypeExpr) (decoder : Option Transform) : Registry :=
  { r with resolved := (t.key, decoder) :: r.resolved }

/-- What was resolved for a type, remembered unless that failed. -/
def remembering (r : Registry) (t : TypeExpr) (result : Except Failure (Option Transform)) :
    Except Failure (Option Transform) × Registry :=
  match result with
  | .ok d => (.ok d, r.remember t d)
  | .error f => (.error f, r)

/-- The decoder of a type that is not optional, remembered from now on. -/
def directDecoder (r : Registry) (table : ClassTable) (t : TypeExpr) :
    Except Failure (Option Transform) × Registry :=
  match r.resolved.lookup t.key with
  | some d => (.ok d, r)
  | none => r.remembering t (r.ownDecoder table t)

/-- The decoder of a type, remembered from now on. -/
def decoderFor (r : Registry) (table : ClassTable) (t : TypeExpr) :
    Except Failure (Option Transform) × Registry :=
  match keyOf t with
  | .error f => (.error f, r)
  | .ok key =>
    match r.resolved.lookup key with
    | some d => (.ok d, r)
    | none =>
      match r.decoders.lookup key, t.optionalInner? with
      | none, some inner =>
        let (d, r) := r.directDecoder table inner
        r.remembering t (d.map (·.map .nullable))
      | _, _ => r.remembering t (r.ownDecoder table t)

/-! ### Converters -/

/-- The conversion to a type that has none registered and is not optional. -/
def derivedConverter (table : ClassTable) (source target : TypeExpr) : Option Transform :=
  if source.same target || target.admitsAll then some .passthrough
  else
    match target.declared? with
    | none => none
    | some c =>
      match (table.attribute? c "try_from").bind (·.function?) with
      | some h => some (.hook (some c) h)
      | none => if c.form.isEnumeration then some (.member c) else none

/-- The conversion from one type to another. -/
def converterFor (r : Registry) (table : ClassTable) (source target : TypeExpr) :
    Except Failure (Option Transform) := do
  let s ← keyOf source
  let t ← keyOf target
  match r.converters.lookup (s, t) with
  | some c => pure (some c)
  | none =>
    match derivedConverter table source target with
    | some c => pure (some c)
    | none =>
      match target.optionalInner? with
      | none => pure none
      | some inner =>
        match r.converters.lookup (s, inner.key) with
        | some c => pure (some (.nullable c))
        | none => pure ((derivedConverter table source inner).map .nullable)

/-! ### Defaults -/

/-- The built-in classes whose parameters cannot be told. -/
def withoutSignature : List Builtin :=
  [.int, .str, .bytes, .bool, .datetime, .date, .time, .dict, .set, .frozenset]

/-- Whether a class can be called without arguments, as far as its parameters tell. -/
def madeFromNothing (info : ClassInfo) : Bool :=
  match info.replaced, info.constructor?, info.ref.form with
  | _, _, .enumeration _ | some _, _, _ => false
  | none, some c, _ => !c.signature.any (·.required)
  | none, none, .wholeNumber => false
  | none, none, .extension b => !withoutSignature.contains b
  | none, none, .model _ =>
    !info.fields.any fun f => f.inConstructor && f.default.isNone
  | none, none, _ => true

/-- The default of a type. -/
def defaultFor (r : Registry) (table : ClassTable) (t : TypeExpr) :
    Except Failure (Option Supply) := do
  let key ← keyOf t
  match r.defaults.lookup key with
  | some s => pure (some s)
  | none =>
    if t.admitsAll || t.optionalInner?.isSome then pure (some (.constant .none))
    else
      match t.originKey?.bind fun origin => r.defaults.lookup origin.key with
      | some s => pure (some s)
      | none =>
        match t.declared? with
        | some c => pure (if madeFromNothing (table.info c) then some (.make t) else none)
        | none => pure none

end Registry

end RowDecoding
