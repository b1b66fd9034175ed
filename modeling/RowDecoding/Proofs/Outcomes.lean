import Mathlib.Data.List.Forall2
import RowDecoding.Registry.Compile

/-!
# Possible outcomes

A computation with several possible outcomes, each a value or a failure. Compiling a target is
written for any monad, so it can be run here as well, with lookups that leave open what they answer:
a plan that a registry compiles is then one of the possible ones, and what holds of every possible
plan holds of it, whatever the registry had in its caches.

`Outcomes.mapM_ok` is the lemma that the theory of compilation stands on: a list of fields is
compiled to a list of steps just if each field is compiled to its step.
-/

namespace RowDecoding

/-- What stands on the right has something on the left that it is related to. -/
theorem Forall₂.exists_left {α β : Type} {R : α → β → Prop} {l : List α} {l' : List β}
    (h : List.Forall₂ R l l') {b : β} (hb : b ∈ l') : ∃ a ∈ l, R a b := by
  induction h with
  | nil => cases hb
  | cons hr _ ih =>
    rcases List.mem_cons.mp hb with rfl | hb
    · exact ⟨_, List.mem_cons_self .., hr⟩
    · obtain ⟨a, ha, hab⟩ := ih hb
      exact ⟨a, List.mem_cons_of_mem _ ha, hab⟩

/-- What stands on the left has something on the right that it is related to. -/
theorem Forall₂.exists_right {α β : Type} {R : α → β → Prop} {l : List α} {l' : List β}
    (h : List.Forall₂ R l l') {a : α} (ha : a ∈ l) : ∃ b ∈ l', R a b := by
  obtain ⟨b, hb, hab⟩ := Forall₂.exists_left h.flip ha
  exact ⟨b, hb, hab⟩

/-- A computation with several possible outcomes. -/
def Outcomes (α : Type) : Type :=
  Except Failure α → Prop

namespace Outcomes

instance : Monad Outcomes where
  pure a := fun x => x = .ok a
  bind m k := fun y => (∃ a, m (.ok a) ∧ k a y) ∨ ∃ f, m (.error f) ∧ y = .error f

instance : MonadExceptOf Failure Outcomes where
  throw f := fun x => x = .error f
  tryCatch m h := fun y => (∃ a, m (.ok a) ∧ y = .ok a) ∨ ∃ f, m (.error f) ∧ h f y

variable {α β : Type}

@[simp] theorem pure_apply {a : α} {x : Except Failure α} :
    (pure a : Outcomes α) x ↔ x = .ok a := Iff.rfl

@[simp] theorem throw_apply {f : Failure} {x : Except Failure α} :
    (throw f : Outcomes α) x ↔ x = .error f := Iff.rfl

theorem bind_apply {m : Outcomes α} {k : α → Outcomes β} {y : Except Failure β} :
    (m >>= k) y ↔ (∃ a, m (.ok a) ∧ k a y) ∨ ∃ f, m (.error f) ∧ y = .error f := Iff.rfl

/-- A value of two computations in turn is a value of the second one from a value of the first. -/
theorem bind_ok {m : Outcomes α} {k : α → Outcomes β} {b : β} :
    (m >>= k) (.ok b) ↔ ∃ a, m (.ok a) ∧ k a (.ok b) := by
  rw [bind_apply]
  constructor
  · rintro (h | ⟨f, -, hf⟩)
    · exact h
    · cases hf
  · exact Or.inl

/-- Two computations in turn fail as the first one does, or as the second one from a value of the
first. -/
theorem bind_error {m : Outcomes α} {k : α → Outcomes β} {f : Failure} :
    (m >>= k) (.error f) ↔ m (.error f) ∨ ∃ a, m (.ok a) ∧ k a (.error f) := by
  rw [bind_apply]
  constructor
  · rintro (h | ⟨g, hg, hfg⟩)
    · exact Or.inr h
    · cases hfg
      exact Or.inl hg
  · rintro (h | h)
    · exact Or.inr ⟨f, h, rfl⟩
    · exact Or.inl h

@[simp] theorem lift_apply {e x : Except Failure α} :
    (Compile.lift e : Outcomes α) x ↔ x = e := by
  cases e <;> exact Iff.rfl

theorem lift_ok_bind {a : α} {k : α → Outcomes β} {y : Except Failure β} :
    (Compile.lift (.ok a) >>= k) y ↔ k a y := by
  rw [bind_apply]
  constructor
  · rintro (⟨b, hb, hy⟩ | ⟨f, hf, -⟩)
    · cases hb
      exact hy
    · cases hf
  · exact fun hy => Or.inl ⟨a, rfl, hy⟩

theorem lift_error_bind {f : Failure} {k : α → Outcomes β} {y : Except Failure β} :
    (Compile.lift (.error f) >>= k) y ↔ y = .error f := by
  rw [bind_apply]
  constructor
  · rintro (⟨b, hb, -⟩ | ⟨g, hg, hy⟩)
    · cases hb
    · cases hg
      exact hy
  · exact fun hy => Or.inr ⟨f, rfl, hy⟩

theorem mapM_loop_ok {f : α → Outcomes β} :
    ∀ (l : List α) (done bs : List β),
      List.mapM.loop f l done (.ok bs) ↔
        ∃ new, bs = done.reverse ++ new ∧ List.Forall₂ (fun a b => f a (.ok b)) l new := by
  intro l
  induction l with
  | nil =>
    intro done bs
    constructor
    · intro h
      exact ⟨[], by simpa using Except.ok.inj h, .nil⟩
    · rintro ⟨new, hbs, hall⟩
      cases hall
      exact congrArg Except.ok (by simpa using hbs)
  | cons a l ih =>
    intro done bs
    rw [List.mapM.loop, bind_ok]
    constructor
    · rintro ⟨b, hb, hrest⟩
      obtain ⟨new, hbs, hall⟩ := (ih _ _).mp hrest
      exact ⟨b :: new, by simpa using hbs, .cons hb hall⟩
    · rintro ⟨new, hbs, hall⟩
      cases hall with
      | cons hb hall => exact ⟨_, hb, (ih _ _).mpr ⟨_, by simpa using hbs, hall⟩⟩

/-- A list is mapped to a list just if each of its elements is mapped to the one at its place. -/
theorem mapM_ok {f : α → Outcomes β} {l : List α} {bs : List β} :
    l.mapM f (.ok bs) ↔ List.Forall₂ (fun a b => f a (.ok b)) l bs := by
  rw [List.mapM, mapM_loop_ok]
  simp

theorem mapM_loop_error {f : α → Outcomes β} {e : Failure} :
    ∀ (l : List α) (done : List β), List.mapM.loop f l done (.error e) → ∃ a ∈ l, f a (.error e) := by
  intro l
  induction l with
  | nil =>
    intro done h
    cases h
  | cons a l ih =>
    intro done h
    rw [List.mapM.loop, bind_error] at h
    rcases h with h | ⟨b, -, h⟩
    · exact ⟨a, List.mem_cons_self .., h⟩
    · obtain ⟨a', ha', h⟩ := ih _ h
      exact ⟨a', List.mem_cons_of_mem _ ha', h⟩

/-- What a list is mapped by fails as it does for one of the elements. -/
theorem mapM_error {f : α → Outcomes β} {l : List α} {e : Failure} (h : l.mapM f (.error e)) :
    ∃ a ∈ l, f a (.error e) :=
  mapM_loop_error l [] h

theorem forM_ok {f : α → Outcomes PUnit} {l : List α} {u : PUnit} :
    l.forM f (.ok u) ↔ ∀ a ∈ l, f a (.ok ⟨⟩) := by
  induction l with
  | nil => simp [List.forM, show u = PUnit.unit from rfl]
  | cons a l ih =>
    show ((f a >>= fun _ => l.forM f) (.ok u)) ↔ _
    rw [bind_ok, List.forall_mem_cons]
    exact ⟨fun ⟨_, ha, hl⟩ => ⟨ha, ih.mp hl⟩, fun ⟨ha, hl⟩ => ⟨⟨⟩, ha, ih.mpr hl⟩⟩

/-- Checks in turn fail as the first one does that fails. -/
theorem forM_error {f : α → Outcomes PUnit} {l : List α} {e : Failure} (h : l.forM f (.error e)) :
    ∃ met a rest, l = met ++ a :: rest ∧ (∀ b ∈ met, f b (.ok ⟨⟩)) ∧ f a (.error e) := by
  induction l with
  | nil => cases h
  | cons a l ih =>
    have hturn : (f a >>= fun _ => l.forM f) (.error e) := h
    rw [bind_error] at hturn
    rcases hturn with herror | ⟨u, hok, hrest⟩
    · exact ⟨[], a, l, rfl, fun _ hb => absurd hb List.not_mem_nil, herror⟩
    · obtain ⟨met, b, rest, rfl, hmet, herror⟩ := ih hrest
      exact ⟨a :: met, b, rest, rfl, List.forall_mem_cons.mpr ⟨hok, hmet⟩, herror⟩

end Outcomes

end RowDecoding
