import RowDecoding.Proofs.Decoding

/-!
# Types that can be written

A failure names the types that it is about, and the text of a type may need a number that is too long
for it: as a choice of a literal type, or among the markers of an annotated one. The built-in
transforms are for types without such numbers: for classes, and for a class or nothing. So what they
fail with can always be named.
-/

namespace RowDecoding

open Number

namespace TypeExpr

/-- What equals a class is one as well, and is written without a number. -/
theorem isUnwritable_of_same {a b : TypeExpr} (hb : b.isClass = true) (h : a.same b = true) :
    a.isUnwritable = false := by
  have hshape : a.shape = b.shape := shape_of_key (eq_of_beq h)
  have hclass : b.shape = .builtin ∨ b.shape = .declared := by
    cases b with
    | builtin | declared => simp [shape]
    | _ => cases hb
  rw [← hshape] at hclass
  cases a with
  | builtin | declared => rfl
  | _ => rcases hclass with h | h <;> cases h

/-- Types whose members can be written can be written together. -/
theorem anyTypeUnwritable_of_membersOf (types : List TypeExpr) :
    (∀ m ∈ membersOf types, m.isUnwritable = false) → anyTypeUnwritable types = false := by
  refine membersOf.induct
    (fun t => (∀ m ∈ t.members, m.isUnwritable = false) → t.isUnwritable = false)
    (fun types => (∀ m ∈ membersOf types, m.isUnwritable = false) →
      anyTypeUnwritable types = false) ?_ ?_ ?_ ?_ types
  · intro form ms ih h
    exact ih h
  · intro t ht h
    refine h t ?_
    rw [NotUnion.members ht]
    exact List.mem_singleton_self t
  · intro _
    rfl
  · intro t rest iht ihrest h
    show (t.isUnwritable || anyTypeUnwritable rest) = false
    rw [iht fun m hm => h m (List.mem_append_left _ hm),
      ihrest fun m hm => h m (List.mem_append_right _ hm)]
    rfl

/-- A type among others is the same as one of those that are kept of them. -/
theorem same_of_mem_distinct {types : List TypeExpr} {t : TypeExpr} (h : t ∈ types) :
    ∃ u ∈ distinct types, t.same u = true := by
  have hfold : ∀ l kept : List TypeExpr, t ∈ l ∨ (∃ u ∈ kept, t.same u = true) →
      ∃ u ∈ l.foldl (fun kept t => if kept.any (t.same ·) then kept else t :: kept) kept,
        t.same u = true := by
    intro l
    induction l with
    | nil => exact fun kept h => h.resolve_left fun h => nomatch h
    | cons a l ih =>
      intro kept h
      refine ih _ ?_
      dsimp only
      rcases h with h | ⟨u, hu, hsame⟩
      · rcases List.mem_cons.mp h with rfl | h
        · right
          split
          next hany => exact List.any_eq_true.mp hany
          next => exact ⟨t, List.mem_cons_self .., beq_self_eq_true _⟩
        · exact Or.inl h
      · right
        split
        · exact ⟨u, hu, hsame⟩
        · exact ⟨u, List.mem_cons_of_mem _ hu, hsame⟩
  obtain ⟨u, hu, hsame⟩ := hfold types [] (Or.inl h)
  exact ⟨u, List.mem_reverse.mpr hu, hsame⟩

/-- A class or nothing can be written. -/
theorem isUnwritable_of_optional {t u : TypeExpr} (h : t.optionalInner? = some u)
    (hu : u.isClass = true) : t.isUnwritable = false := by
  unfold optionalInner? at h
  split at h
  next form ms =>
    dsimp only at h
    split at h
    · refine anyTypeUnwritable_of_membersOf ms fun m hm => ?_
      cases hnone : m.same noneType with
      | true => exact isUnwritable_of_same rfl hnone
      | false =>
        -- The other members are all the same, since only one of them was kept.
        have hrest : ∀ m ∈ (membersOf ms).filter (fun m => !m.same noneType), m.NotUnion :=
          fun m hm => membersOf_notUnion ms m (List.mem_filter.mp hm).1
        obtain rfl := Option.some.inj h
        unfold ofMembers at hu
        rw [membersOf_of_notUnion hrest] at hu
        obtain ⟨v, hv, hsame⟩ := same_of_mem_distinct
          (List.mem_filter.mpr ⟨hm, by rw [hnone]; rfl⟩ :
            m ∈ (membersOf ms).filter fun m => !m.same noneType)
        split at hu
        next single hsingle =>
          rw [hsingle, List.mem_singleton] at hv
          subst hv
          exact isUnwritable_of_same hu hsame
        next => cases hu
    · cases h
  next => cases h

/-- A class can be written. -/
theorem isUnwritable_of_isClass {t : TypeExpr} (h : t.isClass = true) : t.isUnwritable = false :=
  isUnwritable_of_same h (beq_self_eq_true _)

end TypeExpr

namespace Transform

/-- What has a built-in decoder is a class, or a class or nothing. -/
theorem isClass_core_of_decodes {d : Transform} {t : TypeExpr} (h : d.decodes t = true) :
    t.core.isClass = true := by
  induction d generalizing t with
  | decode | decodeBool | member => cases t <;> first | rfl | cases h
  | nullable inner ih =>
    unfold decodes at h
    split at h
    next u hu =>
      obtain ⟨hcore, hsame⟩ := TypeExpr.core_of_optional hu
      rw [hcore, ← hsame]
      exact ih h
    next => cases h
  | _ => cases h

/-- So is what a built-in converter that fails converts to. -/
theorem isClass_core_of_converts {c : Transform} {source target : TypeExpr} {table : ClassTable}
    {v : Value} {f : Fault} (h : c.converts source target = true)
    (hfails : c.result table v = .error f) : target.core.isClass = true := by
  induction c generalizing target with
  | passthrough => cases hfails
  | convert | member => cases source <;> cases target <;> first | rfl | cases h
  | nullable inner ih =>
    unfold converts at h
    split at h
    next u hu =>
      obtain ⟨hcore, hsame⟩ := TypeExpr.core_of_optional hu
      rw [hcore, ← hsame]
      refine ih h ?_
      by_cases hv : v = .none
      · subst hv
        cases hfails
      · rw [← result_nullable hv]
        exact hfails
    next => cases h
  | _ => cases source <;> cases target <;> cases h

end Transform

/-- What is a class, or a class or nothing, can be written. -/
theorem TypeExpr.isUnwritable_of_core {t : TypeExpr} (h : t.core.isClass = true) :
    t.isUnwritable = false := by
  cases hoptional : t.optionalInner? with
  | none =>
    rw [show t.core = t by unfold core; rw [hoptional]; rfl] at h
    exact isUnwritable_of_isClass h
  | some u =>
    rw [(core_of_optional hoptional).1] at h
    exact isUnwritable_of_optional hoptional h

end RowDecoding
