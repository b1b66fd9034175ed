import RowDecoding.Proofs.Decoding
import RowDecoding.Validation.Structure

/-!
# Values of types

A value is an instance of a built-in class if what it holds is a value of that class
(`Builtin.hasInstance`). Of the scalar classes a value is one more strictly (`Builtin.Has`): a truth
value is no number, and a point in time no date. What such a value looks like is said class by class
(`Scalar.has_iff`).

A value of a type is looked into, part by part (`ClassTable.inhabits`).
-/

namespace RowDecoding

/-! ## Instances of built-in classes -/

/-- Whether a value is an instance of a built-in class or of a class derived from it. -/
def Builtin.hasInstance (b : Builtin) (v : Value) : Bool :=
  match b, v.content with
  | .any, _ | .object, _ | .noneType, .none | .float, .float _ | .bytes, .binary .bytes _
  | .decimal, .decimal _ | .datetime, .datetime _ | .date, .date _ | .date, .datetime _
  | .time, .time _ | .uuid, .uuid _ | .list, .list _ | .dict, .dict _ | .set, .set _
  | .frozenset, .frozenset _ | .tuple, .tuple _ | .tuple, .record ⟨_, _, .namedTuple⟩ _ => true
  | .int, _ => v.asInt?.isSome
  | .str, _ => v.asText?.isSome
  | .bool, _ => v.isBool
  | _, _ => false

/-- Whether a value is one of a built-in class where classes derived from one another are told apart:
a truth value is no number here, and a point in time no date. -/
def Builtin.Has (b : Builtin) (v : Value) : Prop :=
  b.hasInstance v = true ∧ (b = .int → v.isBool = false) ∧
    (b = .date → datetime.hasInstance v = false)

/-- A value is a truth value just if it is one of the two. -/
theorem Builtin.bool_has_iff {v : Value} : Builtin.bool.Has v ↔ ∃ b, v = .bool b := by
  constructor
  · rintro ⟨h, -⟩
    cases v with
    | bool b => exact ⟨b, rfl⟩
    | _ => cases h
  · rintro ⟨b, rfl⟩
    exact ⟨rfl, nofun, nofun⟩

/-- What the values of each scalar class are. -/
theorem Scalar.has_iff {s : Scalar} {v : Value} :
    s.builtin.Has v ↔ match s with
      | int => (∃ n, v.asInt? = some n) ∧ v.isBool = false
      | float => ∃ x, v.content = .float x
      | str => ∃ t, v.asText? = some t
      | bytes => ∃ bs, v.content = .binary .bytes bs
      | decimal => ∃ d, v.content = .decimal d
      | datetime => ∃ t, v.content = .datetime t
      | date => ∃ d, v.content = .date d
      | time => ∃ t, v.content = .time t
      | uuid => ∃ u, v.content = .uuid u := by
  have hinstance : ∀ b : Builtin, b ≠ .int → b ≠ .date → (b.Has v ↔ b.hasInstance v = true) :=
    fun b hint hdate => ⟨fun h => h.1, fun h => ⟨h, fun hb => absurd hb hint,
      fun hb => absurd hb hdate⟩⟩
  cases s with
  | int =>
    rw [← Option.isSome_iff_exists]
    exact ⟨fun h => ⟨h.1, h.2.1 rfl⟩, fun h => ⟨h.1, fun _ => h.2, nofun⟩⟩
  | str => exact (hinstance .str nofun nofun).trans Option.isSome_iff_exists
  | date =>
    unfold Builtin.Has Builtin.hasInstance
    cases v.content <;> simp [builtin]
  | bytes =>
    refine (hinstance .bytes nofun nofun).trans ?_
    unfold Builtin.hasInstance
    cases v.content with
    | binary form bs => cases form <;> simp
    | _ => simp
  | float | decimal | datetime | time | uuid =>
    refine (hinstance _ (by decide) (by decide)).trans ?_
    unfold Builtin.hasInstance
    cases v.content <;> simp [builtin]

/-- The elements of a tuple, also of one with names for its positions. -/
def Value.tupleElements? : Value → Option (List Value)
  | .tuple items => some items
  | .record ⟨_, _, .namedTuple⟩ fields => some (fields.map (·.2))
  | _ => Option.none

namespace ClassTable

mutual

/-- Whether a value is one of a type: containers are looked into, and a tuple with a place for every
element has just these. A name that is not looked up yet has no values. -/
def inhabits (table : ClassTable) : TypeExpr → Value → Bool
  | .builtin b, v => b.hasInstance v
  | .declared c, v => Check.isInstance table c v
  | .union _ members, v => inhabitsAny table members v
  | .listOf t, .list items => items.all (inhabits table t)
  | .setOf t, .set items => items.all (inhabits table t)
  | .frozensetOf t, .frozenset items => items.all (inhabits table t)
  | .dictOf k t, .dict entries => entries.all fun e => inhabits table k e.1 && inhabits table t e.2
  | .tupleOf _ types, v => v.tupleElements?.any (inhabitsEach table types)
  | .tupleOfAny t, v => v.tupleElements?.any fun items => items.all (inhabits table t)
  | .literal choices, v => choices.any fun c => c.equal v && c.typeName == v.typeName
  | .annotated base _, v => inhabits table base v
  | .value .none, .none => true
  | _, _ => false

/-- Whether a value is one of some type of several. -/
def inhabitsAny (table : ClassTable) : List TypeExpr → Value → Bool
  | [], _ => false
  | t :: rest, v => inhabits table t v || inhabitsAny table rest v

/-- Whether values are of these types in turn, as many as there are. -/
def inhabitsEach (table : ClassTable) : List TypeExpr → List Value → Bool
  | [], [] => true
  | t :: types, v :: values => inhabits table t v && inhabitsEach table types values
  | _, _ => false

end

example : inhabits .empty (.tupleOf .plain [.builtin .int, .builtin .str])
    (.tuple [.int 0, .text ""]) = true := by decide

example : inhabits .empty (.listOf (.builtin .int)) (.list [.int 0, .text ""]) = false := by decide

variable {table : ClassTable}

/-- A value of a member of a union, also of one among its members, is a value of the union. -/
theorem inhabitsAny_of_membersOf {m : TypeExpr} {v : Value} (hv : table.inhabits m v = true) :
    ∀ types : List TypeExpr, m ∈ TypeExpr.membersOf types → table.inhabitsAny types v = true := by
  refine TypeExpr.membersOf.induct (fun t => m ∈ t.members → table.inhabits t v = true)
    (fun types => m ∈ TypeExpr.membersOf types → table.inhabitsAny types v = true) ?_ ?_ ?_ ?_
  · intro form ms ih
    exact ih
  · intro t ht hm
    rw [TypeExpr.NotUnion.members ht, List.mem_singleton] at hm
    exact hm ▸ hv
  · intro hm
    cases hm
  · intro t rest iht ihrest hm
    unfold inhabitsAny
    rcases List.mem_append.mp hm with hm | hm
    · rw [iht hm, Bool.true_or]
    · rw [ihrest hm, Bool.or_true]

end ClassTable

end RowDecoding
