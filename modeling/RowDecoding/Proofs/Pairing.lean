import Mathlib.Data.List.Forall2
import RowDecoding.Proofs.ClassHooks

/-!
# Runs side by side

What running a plan leaves as it was, how it may fail and what it depends on are questions of one
kind. Each is asked of sessions, of hooks and of failures, and the answer holds of a computation if it
holds of the computations that it is put together from. A `Pairing` is such a question: it says which
sessions two runs may be in side by side, which hooks they may call and with which failures they may
end. `Paired P m m'` then says of two computations that from paired sessions they come to the same
result in paired sessions, and fail as allowed if they fail.

With `m` for `m'` and each session paired with itself, that is an invariant of the session. With
sessions paired that differ in their registries, it says that the registries do not matter; and with a
computation that may run fewer plans inside of each other for `m'`, that no more of them are run.

Each way of putting computations together has its rule here. The files after this one go through the
program with them once, for all pairings.
-/

namespace RowDecoding

/-- The same session with other registries. -/
def Session.withRegistries (σ : Session) (registries : List Registry) : Session :=
  { σ with registries }

/-- A class whose instances are checked when they are made. -/
def ClassForm.IsModel (form : ClassForm) : Prop :=
  ∃ keys, form = .model keys

/-- What two runs side by side are held to. Sessions that are paired differ in their registries at
most and have no hooks in their classes but those that may be called, and they stay paired where the
fields of a class are looked up once more. Checks and constructors fail by faults and by issues of
their own. -/
structure Pairing where
  /-- The sessions that the runs may be in. -/
  Pairs : Session → Session → Prop
  /-- The hooks that may be called. -/
  Hooks : Hook → Prop
  /-- The failures that may end a run, by the session that is left. -/
  Failures : Failure → Session → Prop
  apart : ∀ {σ σ'}, Pairs σ σ' → ∃ registries, σ' = σ.withRegistries registries
  classes : ∀ {σ σ'}, Pairs σ σ' → σ.classes.HooksIn Hooks
  completed : ∀ {σ σ' : Session} {c : ClassRef} {info : ClassInfo}, Pairs σ σ' → c.form.IsModel →
    Instance.completed σ.classes (σ.classes.info c) = .ok info →
    Pairs { σ with classes := σ.classes.update info.ref fun _ => info }
      { σ' with classes := σ'.classes.update info.ref fun _ => info }
  fault : ∀ f σ, Failures (.fault f) σ
  invalid : ∀ issues σ, Failures (.invalid issues) σ

/-- Two runs end side by side: with one result and in paired sessions, and if they fail, as they are
allowed to. -/
structure Pairing.Ends (P : Pairing) {α : Type} (r r' : Except Failure α × Session) : Prop where
  result : r'.1 = r.1
  pairs : P.Pairs r.2 r'.2
  failure : ∀ f, r.1 = .error f → P.Failures f r.2

/-- From paired sessions, two computations end side by side. -/
def Paired (P : Pairing) {α : Type} (m m' : Run α) : Prop :=
  ∀ ⦃σ σ'⦄, P.Pairs σ σ' → P.Ends (m.run σ) (m'.run σ')

/-! ## Runs from given sessions -/

namespace Pairing.Ends

variable {P : Pairing} {α β : Type} {m m' : Run α} {σ σ' : Session}

theorem ok (h : P.Pairs σ σ') (a : α) : P.Ends (.ok a, σ) (.ok a, σ') :=
  ⟨rfl, h, fun _ hf => nomatch hf⟩

theorem error {f : Failure} (h : P.Pairs σ σ') (hf : P.Failures f σ) :
    P.Ends (α := α) (.error f, σ) (.error f, σ') :=
  ⟨rfl, h, fun _ hg => Except.error.inj hg ▸ hf⟩

/-- One computation after another: the second one starts where the first one ended. -/
theorem bind {k k' : α → Run β} (hm : P.Ends (m.run σ) (m'.run σ'))
    (hk : ∀ a τ τ', m.run σ = (.ok a, τ) → P.Pairs τ τ' → P.Ends ((k a).run τ) ((k' a).run τ')) :
    P.Ends ((m >>= k).run σ) ((m' >>= k').run σ') := by
  obtain ⟨hresult, hpairs, hfailure⟩ := hm
  rw [Running.run_bind, Running.run_bind]
  rcases hrun : m.run σ with ⟨f | a, τ⟩ <;> rcases hrun' : m'.run σ' with ⟨r', τ'⟩ <;>
    rw [hrun, hrun'] at hresult hpairs <;> cases hresult
  · rw [hrun] at hfailure
    exact .error hpairs (hfailure f rfl)
  · exact hk a τ τ' hrun hpairs

/-- What comes after a result that may be a fault. -/
theorem lift_bind {e : Except Fault α} {k k' : α → Run β} (h : P.Pairs σ σ')
    (hk : ∀ a, e = .ok a → P.Ends ((k a).run σ) ((k' a).run σ')) :
    P.Ends ((Run.lift e >>= k).run σ) ((Run.lift e >>= k').run σ') := by
  cases e with
  | ok a => exact hk a rfl
  | error f => exact .error h (P.fault f σ)

end Pairing.Ends

/-! ## Computations from any sessions -/

namespace Paired

variable {P : Pairing} {α β : Type} {m m' : Run α}

theorem pure (a : α) : Paired P (pure a) (pure a) :=
  fun _ _ hσ => .ok hσ a

theorem throw {f : Failure} (h : ∀ σ, P.Failures f σ) :
    Paired P (throw f : Run α) (throw f : Run α) :=
  fun σ _ hσ => .error hσ (h σ)

/-- One computation after another. -/
theorem bind {k k' : α → Run β} (hm : Paired P m m') (hk : ∀ a, Paired P (k a) (k' a)) :
    Paired P (m >>= k) (m' >>= k') :=
  fun _ _ hσ => (hm hσ).bind fun a _ _ _ hτ => hk a hτ

/-- A computation whose failures are handled, each one in the sessions that it left. -/
theorem tryCatch {handle handle' : Failure → Run α} (hm : Paired P m m')
    (hhandle : ∀ f τ τ', P.Pairs τ τ' → P.Failures f τ →
      P.Ends ((handle f).run τ) ((handle' f).run τ')) :
    Paired P (tryCatch m handle) (tryCatch m' handle') := by
  intro σ σ' hσ
  obtain ⟨hresult, hpairs, hfailure⟩ := hm hσ
  rw [Running.run_tryCatch, Running.run_tryCatch]
  rcases hrun : m.run σ with ⟨f | a, τ⟩ <;> rcases hrun' : m'.run σ' with ⟨r', τ'⟩ <;>
    rw [hrun, hrun'] at hresult hpairs <;> cases hresult
  · rw [hrun] at hfailure
    exact hhandle f τ τ' hpairs (hfailure f rfl)
  · exact .ok hpairs a

/-- A failure that is changed to another one. -/
theorem mapFailure {change : Failure → Failure} (hm : Paired P m m')
    (h : ∀ f σ, P.Failures f σ → P.Failures (change f) σ) :
    Paired P (m.mapFailure change) (m'.mapFailure change) :=
  tryCatch hm fun f σ _ hσ hf => .error hσ (h f σ hf)

/-- A look at the session, the registries apart, in what is done next from there. -/
theorem get_bind_at {k k' : Session → Run β} (hblind : ∀ σ ρ, k' (σ.withRegistries ρ) = k' σ)
    (hk : ∀ σ σ', P.Pairs σ σ' → P.Ends ((k σ).run σ) ((k' σ).run σ')) :
    Paired P (get >>= k) (get >>= k') := by
  intro σ σ' hσ
  rw [Running.run_bind_of_ok (Running.run_get σ), Running.run_bind_of_ok (Running.run_get σ')]
  obtain ⟨ρ, hρ⟩ := P.apart hσ
  have hsame : k' σ' = k' σ := by rw [hρ, hblind]
  rw [hsame]
  exact hk σ σ' hσ

/-- A look at the classes of the session. -/
theorem get_bind {k k' : Session → Run β} (hblind : ∀ σ ρ, k' (σ.withRegistries ρ) = k' σ)
    (hk : ∀ σ : Session, σ.classes.HooksIn P.Hooks → Paired P (k σ) (k' σ)) :
    Paired P (get >>= k) (get >>= k') :=
  get_bind_at hblind fun σ _ hσ => hk σ (P.classes hσ) hσ

/-- A change of the session. -/
theorem modify {change : Session → Session}
    (h : ∀ σ σ', P.Pairs σ σ' → P.Pairs (change σ) (change σ')) :
    Paired P (modify change) (modify change) := by
  intro σ σ' hσ
  rw [Running.run_modify, Running.run_modify]
  exact .ok (h σ σ' hσ) _

/-- A result that may be a failure. -/
theorem lift {ε : Type} [Cause ε] {e : Except ε α}
    (h : ∀ f σ, e = .error f → P.Failures (Cause.failure f) σ) :
    Paired P (Run.lift e) (Run.lift e) := by
  cases e with
  | ok a => exact pure a
  | error f => exact throw fun σ => h f σ rfl

/-- A result that may be a fault. -/
theorem liftFault (e : Except Fault α) : Paired P (Run.lift e) (Run.lift e) :=
  lift fun f σ _ => P.fault f σ

theorem mapM_loop {γ δ : Type} {f : γ → Run β} {f' : δ → Run β} {l : List γ} {l' : List δ}
    (h : List.Forall₂ (fun a a' => Paired P (f a) (f' a')) l l') :
    ∀ done : List β, Paired P (List.mapM.loop f l done) (List.mapM.loop f' l' done) := by
  induction h with
  | nil => exact fun _ => pure _
  | cons ha _ ih => exact fun done => bind ha fun b => ih (b :: done)

/-- Computations for the elements of two lists in turn. -/
theorem mapM₂ {γ δ : Type} {f : γ → Run β} {f' : δ → Run β} {l : List γ} {l' : List δ}
    (h : List.Forall₂ (fun a a' => Paired P (f a) (f' a')) l l') :
    Paired P (l.mapM f) (l'.mapM f') :=
  mapM_loop h []

/-- A computation for each element of a list in turn. -/
theorem mapM {γ : Type} {f f' : γ → Run β} {l : List γ}
    (h : ∀ a ∈ l, Paired P (f a) (f' a)) : Paired P (l.mapM f) (l.mapM f') :=
  mapM₂ (List.forall₂_same.mpr h)

end Paired

/-! ## Levels -/

/-- Two checks are paired, whatever the value. -/
def Check.Paired (P : Pairing) (check check' : ValueCheck) : Prop :=
  ∀ v, RowDecoding.Paired P (check v) (check' v)

/-- What two levels offer is paired: hooks that may be called, the mappers of `Maps`, instances and
checks of records. -/
structure Level.Paired (P : Pairing) (Maps : RowMapper → Prop) (l l' : Level) : Prop where
  hook : ∀ owner h v, P.Hooks h → RowDecoding.Paired P (l.hook owner h v) (l'.hook owner h v)
  mapRow : ∀ m row, Maps m → RowDecoding.Paired P (l.mapRow m row) (l'.mapRow m row)
  construct : ∀ t positional keywords,
    RowDecoding.Paired P (l.construct t positional keywords) (l'.construct t positional keywords)
  record : ∀ mode s c, Check.Paired P (l.record mode s c) (l'.record mode s c)

section

variable {P : Pairing} {Maps : RowMapper → Prop} {l l' : Level}

/-- A default is paired unless it is a hook that may not be called. -/
theorem Level.Paired.supply (hl : Level.Paired P Maps l l') {s : Supply}
    (hs : ∀ owner h, s = .hook owner h → P.Hooks h) :
    RowDecoding.Paired P (l.supply s) (l'.supply s) := by
  cases s with
  | constant v => exact .pure v
  | hook owner h => exact hl.hook owner h .none (hs owner h rfl)
  | make t => exact hl.construct t [] []

end

end RowDecoding
