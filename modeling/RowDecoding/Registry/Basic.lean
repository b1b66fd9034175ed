import RowDecoding.Schema.Reading
import RowDecoding.Schema.Call

/-!
# Registries

What each type can do when a row is decoded: how its values are decoded, what it can be converted
from, and which default it has. Registrations are kept by the keys of types, so equal types share
them. Two caches hold what was resolved from the registrations: decoders and plans. A registration
drops the plans, and one of a decoder the resolved decoders as well.
-/

namespace RowDecoding

/-- The settings of a registry. -/
structure RegistryConfig where
  /-- Whether structures are checked without coercing their parts. -/
  strict : Bool
  /-- Whether types without a decoder are decoded by checking their structure. -/
  structural : Bool
  /-- Whether the numbers zero and one are decoded as truth values. -/
  boolFromInt : Bool
deriving DecidableEq, Repr, Inhabited

namespace RegistryConfig

/-- Strict, with both conveniences. -/
def standard : RegistryConfig := ⟨true, true, true⟩

end RegistryConfig

/-- The registrations made so far, and what was resolved from them. -/
structure Registry where
  name : String
  config : RegistryConfig
  decoders : List (Key × Transform)
  converters : List ((Key × Key) × Transform)
  defaults : List (Key × Supply)
  resolved : List (Key × Option Transform)
  plans : List (Key × DecodePlan)
  /-- The targets whose plans are being compiled. -/
  building : List Key
  /-- How many plans were compiled. -/
  compiled : Nat
deriving Inhabited

namespace Registry

/-! ### What every registry knows -/

/-- The decoders that every registry starts with. -/
def standardDecoders (config : RegistryConfig) : List (TypeExpr × Transform) :=
  [(.builtin .int, .decode .int), (.builtin .float, .decode .float), (.builtin .str, .decode .str),
    (.builtin .bytes, .decode .bytes), (.builtin .bool, .decodeBool config.boolFromInt),
    (.builtin .decimal, .decode .decimal), (.builtin .datetime, .decode .datetime),
    (.builtin .date, .decode .date), (.builtin .time, .decode .time),
    (.builtin .uuid, .decode .uuid), (.builtin .any, .passthrough),
    (.builtin .object, .passthrough)]

/-- The converters that every registry starts with. -/
def standardConverters : List ((Builtin × Builtin) × Conversion) :=
  [((.str, .int), .int), ((.str, .float), .float), ((.int, .float), .float), ((.int, .str), .str),
    ((.int, .bool), .bool), ((.str, .uuid), .uuid), ((.str, .decimal), .decimal),
    ((.int, .decimal), .decimal), ((.float, .decimal), .decimal), ((.str, .datetime), .datetime),
    ((.str, .date), .date), ((.str, .time), .time), ((.int, .datetime), .epoch)]

/-- The classes whose default is what they make without arguments. -/
def madeDefaults : List Builtin :=
  [.int, .float, .str, .bytes, .bool, .decimal, .time, .list, .dict, .set, .frozenset, .tuple]

/-- The defaults that every registry starts with. -/
def standardDefaults : List (Builtin × Supply) :=
  (.uuid, .constant (.uuid ⟨0⟩)) :: madeDefaults.map fun b => (b, .make (.builtin b))

/-- A registry without registrations of its own. -/
def create (name : String) (config : RegistryConfig) : Registry where
  name
  config
  decoders := (standardDecoders config).map fun (t, d) => (t.key, d)
  converters := standardConverters.map fun ((s, t), c) =>
    (((TypeExpr.builtin s).key, (TypeExpr.builtin t).key), .convert c)
  defaults := standardDefaults.map fun (b, s) => ((TypeExpr.builtin b).key, s)
  resolved := []
  plans := []
  building := []
  compiled := 0

/-! ### Registering -/

/-- The key of a type, unless it can be none. -/
def keyOf (t : TypeExpr) : Except Failure Key :=
  match t.unhashable? with
  | some complaint => .error (Failure.wrongType complaint)
  | none => .ok t.key

/-- Registers how values of a column are decoded into a type. -/
def registerDecoder (r : Registry) (t : TypeExpr) (decoder : Transform) : Except Failure Registry :=
  (keyOf t).map fun key =>
    { r with decoders := (key, decoder) :: r.decoders, resolved := [], plans := [] }

/-- Registers a conversion from one type to another. -/
def registerConverter (r : Registry) (source target : TypeExpr) (converter : Transform) :
    Except Failure Registry := do
  let s ← keyOf source
  let t ← keyOf target
  pure { r with converters := ((s, t), converter) :: r.converters, plans := [] }

/-- Registers the default of a type. -/
def registerDefault (r : Registry) (t : TypeExpr) (supply : Supply) : Except Failure Registry :=
  (keyOf t).map fun key => { r with defaults := (key, supply) :: r.defaults, plans := [] }

end Registry

/-- Types that admit everything. -/
def TypeExpr.admitsAll (t : TypeExpr) : Bool :=
  t.same .any || t.same (.builtin .object)

end RowDecoding
