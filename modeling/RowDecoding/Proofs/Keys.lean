import RowDecoding.Value.Key

/-!
# What keys tell

Values are compared by their keys, and what a registry answers for a type is kept under the key of
the type. A key opens with a label, and the label of the key of a type tells the shape of the type
(`TypeExpr.Shape.ofLabel`): whether it is a built-in or a declared class, a container and of which
sort, or something else. So types whose keys begin alike have one shape (`shape_of_append`), and of a
class the key tells which one it is (`declared_of_append`).
-/

namespace RowDecoding

/-! ## Labels -/

/-- Keys that begin alike begin with the same label. -/
theorem Key.label_of_append {l l' : String} {parts parts' : List Key} {rest rest' : Key}
    (h : Key.node l parts ++ rest = Key.node l' parts' ++ rest') : l = l' := by
  have hlabel : "<" ++ l = "<" ++ l' := by
    have := congrArg List.head? h
    simpa [Key.node] using this
  exact String.append_right_inj _ |>.mp hlabel

theorem Key.label_inj {l l' : String} {parts parts' : List Key}
    (h : Key.node l parts = Key.node l' parts') : l = l' :=
  Key.label_of_append (congrArg (· ++ []) h)

/-- A kind of text is equal to a text just if they are the same. -/
theorem Value.text_equal {v : Value} {s : String} (h : v.asText? = some s) (t : String) :
    (Value.text t).equal v = (s == t) := by
  unfold Value.equal
  rw [Value.key_of_asText h, Bool.eq_iff_iff, Bool.and_eq_true, beq_iff_eq, beq_iff_eq]
  constructor
  · rintro ⟨h, -⟩
    exact ((String.append_right_inj _).mp (Key.label_inj h)).symm
  · rintro rfl
    exact ⟨rfl, rfl⟩

/-! ## Keys of classes -/

theorem digits_inj {n m : Nat} (h : (Number.digits n).toList = (Number.digits m).toList) :
    n = m := by
  have hdigits : Nat.toDigits 10 n = Nat.toDigits 10 m := by
    simpa [Number.digits] using h
  have := congrArg (fun ds => Nat.ofDigitChars 10 ds 0) hdigits
  simpa only [Nat.ofDigitChars_ten_toDigits] using this

theorem digits_isDigit (n : Nat) : ∀ c ∈ (Number.digits n).toList, c.isDigit = true := by
  intro c hc
  refine Nat.isDigit_of_mem_toDigits (b := 10) (n := n) (by decide) (by decide) ?_
  simpa [Number.digits] using hc

theorem Builtin.name_inj {b b' : Builtin} (h : b.name = b'.name) : b = b' := by
  revert h
  cases b <;> cases b' <;> decide

theorem KeyUse.label_inj {k k' : KeyUse} (h : k.label = k'.label) : k = k' := by
  revert h
  cases k <;> cases k' <;> decide

theorem Mixin.label_inj {m m' : Mixin} (h : m.label = m'.label) : m = m' := by
  revert h
  cases m <;> cases m' <;> decide

/-- Classes whose keys begin alike are made in the same way. -/
theorem ClassForm.eq_of_append {f g : ClassForm} {rest rest' : Key}
    (h : f.key ++ rest = g.key ++ rest') : f = g := by
  -- The first label names the constructor, the second one its argument.
  cases f <;> cases g <;> simp [ClassForm.key, Key.leaf, Key.node] at h ⊢
  case dataclass.dataclass => exact KeyUse.label_inj h.1
  case model.model => exact KeyUse.label_inj h.1
  case enumeration.enumeration => exact Mixin.label_inj h.1
  case extension.extension => exact Builtin.name_inj h.1

/-- Classes whose keys begin alike are one class. -/
theorem ClassRef.eq_of_append {c d : ClassRef} {rest rest' : Key}
    (h : c.key ++ rest = d.key ++ rest') : c = d := by
  have hlabel := congrArg String.toList (Key.label_of_append h)
  simp only [String.toList_append, List.append_assoc] at hlabel
  have hrest := List.append_cancel_left hlabel
  -- The number ends at the blank before the name, which is no digit.
  have hspace : ∀ n : Nat, ∀ rest : List Char,
      ((Number.digits n).toList ++ (" ".toList ++ rest)).takeWhile Char.isDigit =
        (Number.digits n).toList := by
    intro n rest
    rw [List.takeWhile_append_of_pos (digits_isDigit n)]
    simp
  have hdigits := congrArg (List.takeWhile Char.isDigit) hrest
  rw [hspace, hspace] at hdigits
  have hserial : c.serial = d.serial := digits_inj hdigits
  rw [hserial] at hrest
  have hname : c.name = d.name :=
    String.toList_inj.mp (List.append_cancel_left (List.append_cancel_left hrest))
  have hforms : c.form.key ++ (">" :: rest) = d.form.key ++ (">" :: rest') := by
    simpa [ClassRef.key, Key.node] using congrArg List.tail h
  have hform : c.form = d.form := ClassForm.eq_of_append hforms
  cases c
  cases d
  exact (ClassRef.mk.injEq ..).mpr ⟨hname, hserial, hform⟩

/-- Classes with the same key are one class. -/
theorem ClassRef.eq_of_key {c d : ClassRef} (h : c.key = d.key) : c = d :=
  ClassRef.eq_of_append (congrArg (· ++ []) h)

/-! ## Shapes of types -/

namespace TypeExpr

/-- The sorts of containers. -/
inductive Container where
  | list
  | set
  | frozenset
  | dict
  | tuple (form : TupleForm)
  | anyTuple
  deriving DecidableEq

/-- The label of the key of a container. -/
def Container.label : Container → String
  | list => "list of"
  | set => "set of"
  | frozenset => "frozenset of"
  | dict => "dict of"
  | tuple .plain => "tuple of"
  | tuple .classic => "classic tuple of"
  | anyTuple => "tuple of any"

/-- Which container of what a type is, if it is one. -/
def container? : TypeExpr → Option (Container × List TypeExpr)
  | listOf t => some (.list, [t])
  | setOf t => some (.set, [t])
  | frozensetOf t => some (.frozenset, [t])
  | dictOf k t => some (.dict, [k, t])
  | tupleOf form types => some (.tuple form, types)
  | tupleOfAny t => some (.anyTuple, [t])
  | _ => none

/-- What a type is, but for its parts. -/
inductive Shape where
  | builtin
  | declared
  | union
  | container (sort : Container)
  | literal
  | annotated
  | forward
  | value
  deriving DecidableEq

def shape : TypeExpr → Shape
  | .builtin _ => .builtin
  | .declared _ => .declared
  | .union .. => .union
  | listOf _ => .container .list
  | setOf _ => .container .set
  | frozensetOf _ => .container .frozenset
  | dictOf .. => .container .dict
  | tupleOf form _ => .container (.tuple form)
  | tupleOfAny _ => .container .anyTuple
  | .literal _ => .literal
  | .annotated .. => .annotated
  | .forward _ => .forward
  | .value _ => .value

/-- The shape of a type whose key opens with this label. Names stand at the end of a label only. -/
def Shape.ofLabel (label : String) : Shape :=
  match label.toList with
  | 'b' :: _ => .builtin
  | 'c' :: 'l' :: 'a' :: 's' :: 's' :: ' ' :: _ => .declared
  | 'u' :: _ => .union
  | 'l' :: 'i' :: 's' :: _ => .container .list
  | 's' :: _ => .container .set
  | 'f' :: 'r' :: _ => .container .frozenset
  | 'd' :: _ => .container .dict
  | ['t', 'u', 'p', 'l', 'e', ' ', 'o', 'f'] => .container (.tuple .plain)
  | 'c' :: _ => .container (.tuple .classic)
  | 't' :: _ => .container .anyTuple
  | 'l' :: _ => .literal
  | 'a' :: _ => .annotated
  | 'f' :: _ => .forward
  | _ => .value

/-- The key of a type opens with a label, which tells the shape of the type. -/
theorem exists_key (t : TypeExpr) :
    ∃ label parts, t.key = Key.node label parts ∧ Shape.ofLabel label = t.shape := by
  cases t with
  | builtin b => exact ⟨_, _, rfl, by cases b <;> rfl⟩
  | declared c =>
    refine ⟨_, _, rfl, ?_⟩
    unfold Shape.ofLabel
    simp only [String.toList_append]
    rfl
  | forward name =>
    refine ⟨_, _, rfl, ?_⟩
    unfold Shape.ofLabel
    rw [String.toList_append]
    rfl
  | tupleOf form items => cases form <;> exact ⟨_, _, rfl, rfl⟩
  | _ => exact ⟨_, _, rfl, rfl⟩

section

variable {t u : TypeExpr} {c : Container} {types : List TypeExpr}

theorem key_ne_nil (t : TypeExpr) : t.key ≠ [] := by
  obtain ⟨label, parts, hkey, -⟩ := t.exists_key
  rw [hkey]
  exact List.cons_ne_nil _ _

/-- What begins with a key does not close anything first. -/
theorem key_append_ne (t : TypeExpr) (rest rest' : Key) : t.key ++ rest ≠ ">" :: rest' := by
  obtain ⟨label, parts, hkey, -⟩ := t.exists_key
  rw [hkey]
  intro h
  have hopen : "<" ++ label = ">" := List.head_eq_of_cons_eq h
  exact absurd (congrArg (·.toList.head?) hopen) (by simp)

/-- Types whose keys begin alike have one shape. -/
theorem shape_of_append {rest rest' : Key} (h : u.key ++ rest = t.key ++ rest') :
    u.shape = t.shape := by
  obtain ⟨label, parts, hkey, hshape⟩ := t.exists_key
  obtain ⟨label', parts', hkey', hshape'⟩ := u.exists_key
  rw [hkey, hkey'] at h
  rw [← hshape, ← hshape', Key.label_of_append h]

/-- Types with the same key have one shape. -/
theorem shape_of_key (h : u.key = t.key) : u.shape = t.shape :=
  shape_of_append (congrArg (· ++ []) h)

theorem container_iff : t.shape = .container c ↔ ∃ types, t.container? = some (c, types) := by
  cases t <;> simp [shape, container?]

end

end TypeExpr

/-- No key but that of the class begins like the key of a class. -/
theorem declared_of_append {t : TypeExpr} {c : ClassRef} {rest rest' : Key}
    (h : t.key ++ rest = (TypeExpr.declared c).key ++ rest') : t = .declared c := by
  have hshape : t.shape = .declared := TypeExpr.shape_of_append h
  cases t with
  | declared d => rw [ClassRef.eq_of_append h]
  | _ => cases hshape

/-- Nothing but the class has the key of a class. -/
theorem declared_of_key {t : TypeExpr} {c : ClassRef} (h : t.key = (TypeExpr.declared c).key) :
    t = .declared c :=
  declared_of_append (congrArg (· ++ []) h)

end RowDecoding
