import Mathlib.Data.List.Permutation
import RowDecoding.Proofs.Keys
import RowDecoding.Value.Union

/-!
# Types that are written in one way

A registry remembers what it answers for a type under the key of the type, and there are types that
are written in several ways but have one key. A type is `Settled` if no other one equals it, up to
where nothing stands in a union and in which form this is written.

Keys are lists that are put together from the keys of the parts, so more than equality is needed to
carry this over to the parts: a type is `Marked` if no other key begins with its key. Built-in and
declared classes are marked, and so is a container of marked types, whatever the container
(`marked_of_container`). A marked type is settled, and so is a marked type or nothing
(`settled_optional`). The union of a class and nothing is not marked, as it is written in two forms,
so a list of it is not settled.
-/

namespace RowDecoding

/-! ## The rest of a union -/

namespace TypeExpr

/-- A type that is no union. -/
def NotUnion (t : TypeExpr) : Prop :=
  ∀ form ms, t ≠ union form ms

/-- A type that is no union is its only member. -/
theorem NotUnion.members {t : TypeExpr} (ht : t.NotUnion) : t.members = [t] := by
  cases t with
  | union form ms => exact absurd rfl (ht form ms)
  | _ => rfl

theorem membersOf_notUnion : ∀ types : List TypeExpr, ∀ m ∈ membersOf types, m.NotUnion := by
  refine membersOf.induct (fun t => ∀ m ∈ t.members, m.NotUnion)
    (fun types => ∀ m ∈ membersOf types, m.NotUnion) ?_ ?_ ?_ ?_
  · intro form ms ih
    exact ih
  · intro t ht m hm
    rw [NotUnion.members ht, List.mem_singleton] at hm
    exact hm ▸ ht
  · intro m hm
    cases hm
  · intro t rest iht ihrest m hm
    rcases List.mem_append.mp hm with hm | hm
    · exact iht m hm
    · exact ihrest m hm

theorem membersOf_of_notUnion {types : List TypeExpr} (h : ∀ m ∈ types, m.NotUnion) :
    membersOf types = types := by
  induction types with
  | nil => rfl
  | cons t rest ih =>
    show t.members ++ membersOf rest = _
    rw [(h t (List.mem_cons_self ..)).members, ih fun m hm => h m (List.mem_cons_of_mem _ hm)]
    rfl

theorem mem_of_mem_distinct {types : List TypeExpr} {t : TypeExpr} (h : t ∈ distinct types) :
    t ∈ types := by
  have hfold : ∀ (l kept : List TypeExpr),
      t ∈ l.foldl (fun kept t => if kept.any (t.same ·) then kept else t :: kept) kept →
      t ∈ kept ∨ t ∈ l := by
    intro l
    induction l with
    | nil => exact fun _ h => Or.inl h
    | cons a l ih =>
      intro kept h
      rcases ih _ h with h | h
      · dsimp only at h
        split at h
        · exact Or.inl h
        · rcases List.mem_cons.mp h with rfl | h
          · exact Or.inr (List.mem_cons_self ..)
          · exact Or.inl h
      · exact Or.inr (List.mem_cons_of_mem _ h)
  rcases hfold types [] (List.mem_reverse.mp h) with h | h
  · cases h
  · exact h

/-- What remains of a union with nothing among its members has nothing among them no more. -/
theorem optionalInner?_rest {t inner : TypeExpr} (h : t.optionalInner? = some inner) :
    inner.optionalInner? = none := by
  unfold optionalInner? at h
  split at h
  next form ms =>
    dsimp only at h
    split at h
    · obtain rfl := Option.some.inj h
      -- The members are no unions themselves, and none of them is the one for nothing.
      have hrest : ∀ m ∈ (membersOf ms).filter (fun m => !m.same noneType),
          m.NotUnion ∧ m.same noneType = false := by
        intro m hm
        rw [List.mem_filter] at hm
        exact ⟨membersOf_notUnion ms m hm.1, by simpa using hm.2⟩
      unfold ofMembers
      rw [membersOf_of_notUnion fun m hm => (hrest m hm).1]
      split
      next single hsingle =>
        have hmem := mem_of_mem_distinct (hsingle ▸ List.mem_singleton_self single)
        unfold optionalInner?
        split
        next form' ms' => exact absurd rfl ((hrest _ hmem).1 form' ms')
        next => rfl
      next =>
        show (if _ then _ else _) = none
        rw [membersOf_of_notUnion fun m hm => (hrest m (mem_of_mem_distinct hm)).1, if_neg]
        intro hany
        obtain ⟨m, hm, hsame⟩ := List.any_eq_true.mp hany
        rw [(hrest m (mem_of_mem_distinct hm)).2] at hsame
        cases hsame
    · cases h
  next => cases h

end TypeExpr

/-! ## Types that no other one equals -/

/-- A type that no other one equals. -/
def TypeExpr.Sole (t : TypeExpr) : Prop :=
  ∀ u : TypeExpr, u.key = t.key → u = t

/-- A type that no other one equals, but those of which the same remains without nothing, which no
other type equals. -/
structure TypeExpr.Settled (t : TypeExpr) : Prop where
  equal : ∀ u : TypeExpr, u.key = t.key →
    u = t ∨ (u.optionalInner? = t.optionalInner? ∧ t.optionalInner? ≠ none)
  rest : ∀ inner, t.optionalInner? = some inner → inner.Sole

/-- A type whose key no other key begins with. -/
def TypeExpr.Marked (t : TypeExpr) : Prop :=
  ∀ (u : TypeExpr) (rest rest' : Key), u.key ++ rest = t.key ++ rest' → u = t

theorem TypeExpr.Marked.sole {t : TypeExpr} (ht : t.Marked) : t.Sole :=
  fun u hu => ht u [] [] (congrArg (· ++ []) hu)

/-- No other key begins with that of a built-in class. -/
theorem TypeExpr.marked_builtin (b : Builtin) : (TypeExpr.builtin b).Marked := by
  intro u rest rest' hu
  have hshape : u.shape = .builtin := shape_of_append hu
  cases u with
  | builtin b' =>
    have hname : b'.name = b.name := (String.append_right_inj _).mp (Key.label_of_append hu)
    rw [Builtin.name_inj hname]
  | _ => cases hshape

theorem TypeExpr.marked_declared (c : ClassRef) : (TypeExpr.declared c).Marked :=
  fun _ _ _ hu => declared_of_append hu

/-- No other type equals a built-in class. -/
theorem TypeExpr.sole_builtin (b : Builtin) : (TypeExpr.builtin b).Sole :=
  (marked_builtin b).sole

/-- A marked type is settled. -/
theorem TypeExpr.Marked.settled {t : TypeExpr} (ht : t.Marked) (hrest : t.optionalInner? = none) :
    t.Settled :=
  ⟨fun u hu => Or.inl (ht.sole u hu), fun _ h => nomatch hrest.symm.trans h⟩

theorem TypeExpr.settled_builtin (b : Builtin) : (TypeExpr.builtin b).Settled :=
  (marked_builtin b).settled rfl

theorem TypeExpr.settled_declared (c : ClassRef) : (TypeExpr.declared c).Settled :=
  (marked_declared c).settled rfl

/-- An equal type is settled as well. -/
theorem TypeExpr.Settled.of_key {t t' : TypeExpr} (ht : t.Settled) (hkey : t'.key = t.key) :
    t'.Settled := by
  rcases ht.equal t' hkey with rfl | ⟨hinner, hsome⟩
  · exact ht
  · refine ⟨fun u hu => ?_, fun inner h => ht.rest inner (hinner ▸ h)⟩
    rw [hinner]
    rcases ht.equal u (hu.trans hkey) with rfl | h
    · exact Or.inr ⟨rfl, hsome⟩
    · exact Or.inr h

/-! ### Containers -/

namespace TypeExpr

theorem keysOfTypes_eq_map (types : List TypeExpr) : keysOfTypes types = types.map key := by
  induction types with
  | nil => rfl
  | cons t rest ih =>
    unfold keysOfTypes
    rw [ih, List.map_cons]

section

variable {t u : TypeExpr} {c : Container} {types : List TypeExpr}

theorem key_of_container (h : t.container? = some (c, types)) :
    t.key = Key.node c.label (types.map key) := by
  cases t with
  | tupleOf form items =>
    cases h
    rw [← keysOfTypes_eq_map]
    cases form <;> rfl
  | _ => cases h <;> rfl

theorem container?_inj (ht : t.container? = some (c, types))
    (hu : u.container? = some (c, types)) : u = t := by
  cases t <;> cases ht <;> cases u <;> cases hu <;> rfl

/-- Rows of types whose keys read alike up to where they close are the same, if those of one row are
marked. -/
theorem eq_of_keys {types types' : List TypeExpr} (hmarked : ∀ t ∈ types, t.Marked)
    {rest rest' : Key} (h : (types'.map key).flatten ++ ">" :: rest =
      (types.map key).flatten ++ ">" :: rest') : types' = types := by
  induction types generalizing types' with
  | nil =>
    cases types' with
    | nil => rfl
    | cons u us =>
      rw [List.map_cons, List.flatten_cons, List.append_assoc] at h
      exact absurd h (u.key_append_ne _ _)
  | cons t ts ih =>
    cases types' with
    | nil =>
      rw [List.map_cons, List.flatten_cons, List.append_assoc] at h
      exact absurd h.symm (t.key_append_ne _ _)
    | cons u us =>
      simp only [List.map_cons, List.flatten_cons, List.append_assoc] at h
      obtain rfl := hmarked t (List.mem_cons_self ..) u _ _ h
      rw [ih (fun s hs => hmarked s (List.mem_cons_of_mem _ hs)) (List.append_cancel_left h)]

/-- A container of marked types is marked. -/
theorem marked_of_container (ht : t.container? = some (c, types))
    (hmarked : ∀ s ∈ types, s.Marked) : t.Marked := by
  intro u rest rest' hu
  obtain ⟨types', hcontainer⟩ :=
    container_iff.mp ((shape_of_append hu).trans (container_iff.mpr ⟨types, ht⟩))
  rw [key_of_container ht, key_of_container hcontainer] at hu
  have hrow : (types'.map key).flatten ++ ">" :: rest =
      (types.map key).flatten ++ ">" :: rest' := by
    simpa [Key.node] using hu
  obtain rfl := eq_of_keys hmarked hrow
  exact container?_inj ht hcontainer

/-- A container of marked types is settled. -/
theorem settled_of_container (ht : t.container? = some (c, types))
    (hmarked : ∀ s ∈ types, s.Marked) : t.Settled := by
  refine (marked_of_container ht hmarked).settled ?_
  cases t with
  | union form ms => cases ht
  | _ => rfl

end

/-! ### Types with nothing among their values -/

variable {t s : TypeExpr} {form : UnionForm} {ms : List TypeExpr}

/-- Keys in a row that read as two marked keys are these. -/
theorem keys_of_flatten (ht : t.Marked) (hs : s.Marked) {keys : List Key}
    (hkeys : ∀ k ∈ keys, ∃ u : TypeExpr, u.key = k) (h : keys.flatten = t.key ++ s.key) :
    keys = [t.key, s.key] := by
  match keys with
  | [] => exact absurd (List.append_eq_nil_iff.mp h.symm).1 t.key_ne_nil
  | first :: rest =>
    obtain ⟨u, rfl⟩ := hkeys first (List.mem_cons_self ..)
    obtain rfl := ht u _ _ h
    have hrest : rest.flatten = s.key := List.append_cancel_left h
    match rest with
    | [] => exact absurd hrest.symm s.key_ne_nil
    | second :: rest =>
      obtain ⟨v, rfl⟩ := hkeys second (by simp)
      -- The second key is followed by nothing, as the second marked one is.
      obtain rfl := hs v _ [] (hrest.trans (List.append_nil _).symm)
      match rest with
      | [] => rfl
      | third :: rest =>
        obtain ⟨w, rfl⟩ := hkeys third (by simp)
        have hnone : (w.key :: rest).flatten = [] := List.self_eq_append_right.mp hrest.symm
        exact absurd (List.append_eq_nil_iff.mp hnone).1 w.key_ne_nil

/-- What equals a union of two marked types is one of the same types. -/
theorem union_of_key (ht : t.Marked) (hs : s.Marked) (hms : ms.Perm [t, s]) {u : TypeExpr}
    (hu : u.key = (union form ms).key) : ∃ form' ms', u = union form' ms' ∧ ms'.Perm [t, s] := by
  have hshape : u.shape = .union := shape_of_key hu
  cases u with
  | union form' ms' =>
    refine ⟨form', ms', rfl, ?_⟩
    have hflat : ((ms'.map key).mergeSort Key.precedes).flatten =
        ((ms.map key).mergeSort Key.precedes).flatten := by
      rw [← keysOfTypes_eq_map, ← keysOfTypes_eq_map]
      exact List.append_cancel_right (List.tail_eq_of_cons_eq hu)
    have hkeys : ∀ k ∈ (ms'.map key).mergeSort Key.precedes, ∃ u : TypeExpr, u.key = k := by
      intro k hk
      obtain ⟨u, -, hu⟩ := List.mem_map.mp (List.mem_mergeSort.mp hk)
      exact ⟨u, hu⟩
    have hsorted : ((ms'.map key).mergeSort Key.precedes).Perm [t.key, s.key] := by
      rcases List.perm_pair.mp ((List.mergeSort_perm (ms.map key) Key.precedes).trans (hms.map key))
        with h | h
      · rw [h] at hflat
        rw [keys_of_flatten ht hs hkeys (by simpa using hflat)]
      · rw [h] at hflat
        rw [keys_of_flatten hs ht hkeys (by simpa using hflat)]
        exact .swap ..
    have hmap : (ms'.map key).Perm [t.key, s.key] := (List.mergeSort_perm _ _).symm.trans hsorted
    -- Marked types are told by their keys.
    obtain ⟨a, b, rfl⟩ := List.length_eq_two.mp (by simpa using hmap.length_eq)
    rcases List.perm_pair.mp hmap with h | h
    · obtain ⟨ha, hb⟩ : a.key = t.key ∧ b.key = s.key := by simpa using h
      rw [ht.sole a ha, hs.sole b hb]
    · obtain ⟨ha, hb⟩ : a.key = s.key ∧ b.key = t.key := by simpa using h
      rw [hs.sole a ha, ht.sole b hb]
      exact .swap ..
  | _ => cases hshape

/-- What remains of a type or nothing is the type. -/
theorem optionalInner?_of_perm (hunion : t.NotUnion) (hnone : t.same noneType = false)
    (hms : ms.Perm [t, noneType]) : (union form ms).optionalInner? = some t := by
  have hself : noneType.same noneType = true := beq_self_eq_true _
  have hsingle : ofMembers .classic [t] = t := by
    unfold ofMembers membersOf
    rw [hunion.members]
    rfl
  rcases List.perm_pair.mp hms with rfl | rfl <;>
    simp [optionalInner?, membersOf, hunion.members, members, hnone, hself, hsingle]

/-- A marked type or nothing is settled, in whatever order and form it is written. -/
theorem settled_optional (ht : t.Marked) (hunion : t.NotUnion) (hnone : t.same noneType = false)
    (hms : ms.Perm [t, noneType]) : (union form ms).Settled := by
  have hinner : ∀ {form ms}, ms.Perm [t, noneType] → (union form ms).optionalInner? = some t :=
    fun h => optionalInner?_of_perm hunion hnone h
  refine ⟨fun u hu => Or.inr ?_, fun inner h => ?_⟩
  · obtain ⟨form', ms', rfl, hms'⟩ := union_of_key ht (marked_builtin .noneType) hms hu
    rw [hinner hms, hinner hms']
    exact ⟨rfl, nofun⟩
  · rw [hinner hms] at h
    cases h
    exact ht.sole

/-- The union of a class and nothing is settled, but a list of it is not: the union in the other form
equals it, and so does a list of that. -/
example : (union .bar [builtin .int, noneType]).Settled ∧
    ¬ (listOf (union .bar [builtin .int, noneType])).Settled := by
  refine ⟨settled_optional (marked_builtin .int) nofun rfl (.refl _), fun h => ?_⟩
  rcases h.equal (listOf (union .classic [builtin .int, noneType])) rfl with h | ⟨-, h⟩
  · cases h
  · exact h rfl

end TypeExpr

end RowDecoding
