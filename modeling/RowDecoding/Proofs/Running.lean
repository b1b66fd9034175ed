import RowDecoding.Failure.Basic

/-!
# Running computations

Computations here may fail and keep a state either way: those in a session and those in a registry.
What such a computation does from a given state is a pair, its result and the state after it, and
each lemma below reads one way of putting computations together as what the run does. Later proofs
go by these equations and open no monad. Results without a state are read off by `bind_eq_ok`.
-/

namespace RowDecoding

namespace Running

/-- A value of two results in turn is a value of the second one from a value of the first. -/
theorem bind_eq_ok {ε α β : Type} {e : Except ε α} {k : α → Except ε β} {b : β} :
    (e >>= k) = .ok b ↔ ∃ a, e = .ok a ∧ k a = .ok b := by
  cases e with
  | error f =>
    constructor
    · intro h
      cases h
    · rintro ⟨a, ha, -⟩
      cases ha
  | ok a =>
    constructor
    · exact fun h => ⟨a, rfl, h⟩
    · rintro ⟨a', ha, h⟩
      cases ha
      exact h

/-- Two results in turn fail as the first one does, or as the second one from a value of the first.
-/
theorem bind_eq_error {ε α β : Type} {e : Except ε α} {k : α → Except ε β} {f : ε} :
    (e >>= k) = .error f ↔ e = .error f ∨ ∃ a, e = .ok a ∧ k a = .error f := by
  cases e with
  | error g =>
    constructor
    · intro h
      cases h
      exact Or.inl rfl
    · rintro (h | ⟨a, ha, -⟩)
      · cases h
        rfl
      · cases ha
  | ok a =>
    constructor
    · exact fun h => Or.inr ⟨a, rfl, h⟩
    · rintro (h | ⟨a', ha, h⟩)
      · cases h
      · cases ha
        exact h

/-- A result that is no failure is that of a value. -/
theorem eq_ok_of_isOk {ε α : Type} [Inhabited α] {e : Except ε α} (h : e.isOk = true) :
    e = .ok (e.toOption.getD default) := by
  cases e with
  | error f => cases h
  | ok a => rfl

/-- A result with a value that passes a test is that of such a value. -/
theorem eq_ok_of_test {ε α : Type} {e : Except ε α} {test : α → Bool}
    (h : e.toOption.any test = true) : ∃ a, e = .ok a ∧ test a = true := by
  cases e with
  | error f => cases h
  | ok a => exact ⟨a, rfl, h⟩

/-- What a computation gives passes a test. -/
theorem exists_of_test {ε α σ : Type} {x : Except ε α × σ} {test : α → Bool}
    (h : x.1.toOption.any test = true) : ∃ a t, x = (.ok a, t) ∧ test a = true := by
  obtain ⟨a, ha, htest⟩ := eq_ok_of_test h
  exact ⟨a, x.2, Prod.ext ha rfl, htest⟩

/-- A computation that does not fail gives something. -/
theorem exists_of_isOk {ε α σ : Type} {x : Except ε α × σ} (h : x.1.isOk = true) :
    ∃ a t, x = (.ok a, t) := by
  rcases x with ⟨_ | a, t⟩
  · cases h
  · exact ⟨a, t, rfl⟩

/-- What a list is mapped by fails as it does for one of the elements. -/
theorem exists_of_mapM_eq_error {ε α β : Type} {k : α → Except ε β} {f : ε} {l : List α}
    (h : l.mapM k = .error f) : ∃ a ∈ l, k a = .error f := by
  induction l with
  | nil => cases h
  | cons a l ih =>
    rw [List.mapM_cons, bind_eq_error] at h
    rcases h with h | ⟨b, -, h⟩
    · exact ⟨a, List.mem_cons_self .., h⟩
    rcases bind_eq_error.mp h with h | ⟨bs, -, h⟩
    · obtain ⟨a', ha', h⟩ := ih h
      exact ⟨a', List.mem_cons_of_mem _ ha', h⟩
    · cases h

variable {σ α β : Type} {m : ExceptT Failure (StateM σ) α} {s t : σ}

@[simp] theorem run_pure (a : α) (s : σ) :
    (pure a : ExceptT Failure (StateM σ) α).run s = (.ok a, s) := rfl

@[simp] theorem run_throw (f : Failure) (s : σ) :
    (throw f : ExceptT Failure (StateM σ) α).run s = (.error f, s) := rfl

@[simp] theorem run_get (s : σ) : (get : ExceptT Failure (StateM σ) σ).run s = (.ok s, s) := rfl

@[simp] theorem run_modify (change : σ → σ) (s : σ) :
    (modify change : ExceptT Failure (StateM σ) PUnit).run s = (.ok ⟨⟩, change s) := rfl

/-- A computation after another one starts where that one ended, unless it failed. -/
theorem run_bind (m : ExceptT Failure (StateM σ) α) (k : α → ExceptT Failure (StateM σ) β) (s : σ) :
    (m >>= k).run s =
      match m.run s with
      | (.ok a, t) => (k a).run t
      | (.error f, t) => (.error f, t) := by
  show (ExceptT.bindCont k (m.run s).1) (m.run s).2 = _
  rcases m.run s with ⟨_ | _, _⟩ <;> rfl

/-- What failed is caught where it ended. -/
theorem run_tryCatch (m : ExceptT Failure (StateM σ) α)
    (h : Failure → ExceptT Failure (StateM σ) α) (s : σ) :
    (tryCatch m h).run s =
      match m.run s with
      | (.ok a, t) => (.ok a, t)
      | (.error f, t) => (h f).run t := by
  show ExceptT.run (ExceptT.tryCatch m h) s = _
  simp only [ExceptT.tryCatch, ExceptT.run, ExceptT.mk, bind, StateT.bind]
  rcases m s with ⟨_ | _, _⟩ <;> rfl

theorem run_bind_of_ok {k : α → ExceptT Failure (StateM σ) β} {a : α}
    (h : m.run s = (.ok a, t)) : (m >>= k).run s = (k a).run t := by
  rw [run_bind, h]

theorem run_bind_of_error {k : α → ExceptT Failure (StateM σ) β} {f : Failure}
    (h : m.run s = (.error f, t)) : (m >>= k).run s = (.error f, t) := by
  rw [run_bind, h]

/-- A function of what is computed. -/
theorem run_return (m : ExceptT Failure (StateM σ) α) (f : α → β) (s : σ) :
    (do return f (← m) : ExceptT Failure (StateM σ) β).run s = ((m.run s).1.map f, (m.run s).2) := by
  rw [run_bind]
  rcases m.run s with ⟨_ | a, t⟩ <;> rfl

/-- One computation after another succeeds just if both of them do. -/
theorem run_bind_eq_ok {k : α → ExceptT Failure (StateM σ) β} {b : β} :
    (m >>= k).run s = (.ok b, t) ↔ ∃ a u, m.run s = (.ok a, u) ∧ (k a).run u = (.ok b, t) := by
  constructor
  · intro h
    rw [run_bind] at h
    rcases hm : m.run s with ⟨_ | a, u⟩
    · rw [hm] at h
      cases h
    · rw [hm] at h
      exact ⟨a, u, rfl, h⟩
  · rintro ⟨a, u, hm, hk⟩
    rw [run_bind_of_ok hm, hk]

/-- One computation after another fails just if the first one does, or else the second one. -/
theorem run_bind_eq_error {k : α → ExceptT Failure (StateM σ) β} {f : Failure} :
    (m >>= k).run s = (.error f, t) ↔ m.run s = (.error f, t) ∨
      ∃ a u, m.run s = (.ok a, u) ∧ (k a).run u = (.error f, t) := by
  rw [run_bind]
  rcases m.run s with ⟨g | a, u⟩
  · exact ⟨fun h => by cases h; exact Or.inl rfl, fun h => by
      rcases h with h | ⟨_, _, h, -⟩ <;> cases h; rfl⟩
  · refine ⟨fun h => Or.inr ⟨a, u, rfl, h⟩, fun h => ?_⟩
    rcases h with h | ⟨_, _, h, hk⟩ <;> cases h
    exact hk

/-- Computations for the elements of a list succeed just if the first one does and then the rest. -/
theorem run_mapM_cons_eq_ok {ι : Type} {f : ι → ExceptT Failure (StateM σ) β} {i : ι} {l : List ι}
    {bs : List β} :
    ((i :: l).mapM f).run s = (.ok bs, t) ↔ ∃ b rest u,
      (f i).run s = (.ok b, u) ∧ (l.mapM f).run u = (.ok rest, t) ∧ bs = b :: rest := by
  rw [List.mapM_cons, run_bind_eq_ok]
  constructor
  · rintro ⟨b, u, hfirst, h⟩
    obtain ⟨rest, u', hrest, hpure⟩ := run_bind_eq_ok.mp h
    cases hpure
    exact ⟨b, rest, u, hfirst, hrest, rfl⟩
  · rintro ⟨b, rest, u, hfirst, hrest, rfl⟩
    exact ⟨b, u, hfirst, run_bind_eq_ok.mpr ⟨rest, t, hrest, rfl⟩⟩

end Running

end RowDecoding
