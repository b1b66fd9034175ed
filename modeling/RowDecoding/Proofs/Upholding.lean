import RowDecoding.Proofs.Executing

/-!
# What running leaves as it was

Running plans and hooks changes a session in few ways. Hooks count their calls and take notes, a
class of checked records looks up the names in its fields once more when an instance is made, and a
mapping that a class inherits asks a registry for a plan. A property of sessions that each of these
keeps is `Session.Stable`, and whatever runs on a row keeps a stable property, however it ends:
`Upholds` says so of a computation. A stable property is a pairing, in which a session with that
property stands beside itself and every hook may be called.

> `Level.ofDepth_upholds`: on every level, hooks, mappings, instances and checks keep whatever is
> stable.
-/

namespace RowDecoding

/-- A property of sessions that survives what hooks and constructors do to a session, and questions
to its registries. -/
structure Session.Stable (I : Session → Prop) : Prop where
  counted : ∀ {σ} count, I σ → I { σ with count }
  noted : ∀ {σ} notes, I σ → I { σ with notes }
  completed : ∀ {σ} {c : ClassRef} {info : ClassInfo}, c.form.IsModel →
    Instance.completed σ.classes (σ.classes.info c) = .ok info →
    I σ → I { σ with classes := σ.classes.update info.ref fun _ => info }
  planned : ∀ {σ} name t, I σ → I ((Session.planFor name t).run σ).2

/-- The computation keeps a property of sessions, however it ends. -/
def Upholds (I : Session → Prop) {α : Type} (m : Run α) : Prop :=
  ∀ σ, I σ → I (m.run σ).2

namespace Upholds

variable {I : Session → Prop} {α β : Type} {m : Run α}

theorem pure (a : α) : Upholds I (pure a) :=
  fun _ hσ => hσ

theorem lift {ε : Type} [Cause ε] (e : Except ε α) : Upholds I (Run.lift e) := by
  cases e with
  | ok a => exact pure a
  | error f => exact fun _ hσ => hσ

/-- What is known of a run of the computation. -/
theorem of_run (hm : Upholds I m) {e : Except Failure α} {σ σ' : Session}
    (hrun : m.run σ = (e, σ')) (hσ : I σ) : I σ' := by
  have h := hm σ hσ
  rwa [hrun] at h

/-- One computation after another. -/
theorem bind {k : α → Run β} (hm : Upholds I m) (hk : ∀ a, Upholds I (k a)) :
    Upholds I (m >>= k) := by
  intro σ hσ
  have hnext := hm σ hσ
  rw [Running.run_bind]
  rcases hrun : m.run σ with ⟨f | a, σ'⟩ <;> rw [hrun] at hnext
  · exact hnext
  · exact hk a σ' hnext

/-- A look at the session. -/
theorem get_bind {k : Session → Run β} (hk : ∀ σ, I σ → I ((k σ).run σ).2) :
    Upholds I (get >>= k) := by
  intro σ hσ
  rw [Running.run_bind_of_ok (Running.run_get σ)]
  exact hk σ hσ

theorem modify {change : Session → Session} (h : ∀ σ, I σ → I (change σ)) :
    Upholds I (modify change) :=
  h

theorem throw (f : Failure) : Upholds I (throw f : Run α) :=
  fun _ hσ => hσ

/-- A computation, and what is done about its failure. -/
theorem tryCatch {handle : Failure → Run α} (hm : Upholds I m) (hh : ∀ f, Upholds I (handle f)) :
    Upholds I (tryCatch m handle) := by
  intro σ hσ
  have hnext := hm σ hσ
  rw [Running.run_tryCatch]
  rcases hrun : m.run σ with ⟨f | a, σ'⟩ <;> rw [hrun] at hnext
  · exact hh f σ' hnext
  · exact hnext

theorem mapFailure (hm : Upholds I m) (change : Failure → Failure) :
    Upholds I (m.mapFailure change) :=
  hm.tryCatch fun f => throw (change f)

theorem mapM {k : α → Run β} {l : List α} (h : ∀ a ∈ l, Upholds I (k a)) :
    Upholds I (l.mapM k) := by
  induction l with
  | nil => exact pure []
  | cons a l ih =>
    rw [List.mapM_cons]
    refine (h a (List.mem_cons_self ..)).bind fun b => ?_
    exact (ih fun a' ha' => h a' (List.mem_cons_of_mem _ ha')).bind fun bs => pure (b :: bs)

end Upholds

/-- All that a level offers keeps a property of sessions. -/
structure Level.Upholds (I : Session → Prop) (l : Level) : Prop where
  hook : ∀ owner h v, RowDecoding.Upholds I (l.hook owner h v)
  mapRow : ∀ m v, RowDecoding.Upholds I (l.mapRow m v)
  construct : ∀ t positional keywords, RowDecoding.Upholds I (l.construct t positional keywords)
  record : ∀ mode s c v, RowDecoding.Upholds I (l.record mode s c v)

section

variable {I : Session → Prop}

/-! ## Stable properties as pairings -/

namespace Session.Stable

/-- A session with a stable property beside itself; nothing is asked of hooks and failures. -/
def pairing (hI : Stable I) : Pairing where
  Pairs σ σ' := I σ ∧ σ' = σ
  Hooks _ := True
  Failures _ _ := True
  apart := by
    rintro _ σ ⟨-, rfl⟩
    exact ⟨σ.registries, rfl⟩
  classes _ _ _ _ _ := trivial
  completed := by
    rintro _ σ c info ⟨hσ, rfl⟩ hc hcompleted
    exact ⟨hI.completed hc hcompleted hσ, rfl⟩
  fault _ _ := trivial
  invalid _ _ := trivial

theorem onRows (hI : Stable I) : hI.pairing.OnRows fun _ => True where
  counted := by
    rintro _ σ count ⟨hσ, rfl⟩
    exact ⟨hI.counted count hσ, rfl⟩
  noted := by
    rintro _ σ tag ⟨hσ, rfl⟩
    exact ⟨hI.noted _ hσ, rfl⟩
  row _ _ _ _ := trivial
  stated _ _ := trivial
  piped _ _ _ := trivial
  saved _ _ _ := trivial

/-- A computation keeps a stable property just if it is paired with itself. -/
theorem upholds_iff (hI : Stable I) {α : Type} {m : Run α} :
    Upholds I m ↔ Paired hI.pairing m m := by
  constructor
  · rintro hm _ σ ⟨hσ, rfl⟩
    exact ⟨rfl, ⟨hm σ hσ, rfl⟩, fun _ _ => trivial⟩
  · exact fun hm σ hσ => (hm ⟨hσ, rfl⟩).pairs.1

end Session.Stable

/-! ## Levels -/

theorem planOf_upholds (hI : Session.Stable I) (c : ClassRef) (registry : String) :
    Upholds I (planOf c registry) := by
  refine .get_bind fun σ hσ => ?_
  split
  · exact hσ
  · exact hI.planned registry _ hσ

/-- Levels are paired with themselves, whichever mapper maps a row. The induction is on their number.
-/
theorem Session.Stable.ofDepth_paired (hI : Stable I) (n : Nat) :
    Level.Paired hI.pairing (fun _ => True) (.ofDepth n) (.ofDepth n) := by
  induction n with
  | zero => exact Level.none_paired
  | succ n ih =>
    have hexecute : ∀ p row, Paired hI.pairing (execute (.ofDepth n) p row)
        (execute (.ofDepth n) p row) := fun p row =>
      execute_paired hI.onRows ih (fun _ _ => ⟨fun _ _ => trivial, fun _ _ => trivial⟩) row
    refine Level.above_paired hI.onRows ih fun m row _ => ?_
    cases m with
    | plan p => exact hexecute p row
    | hook owner h => exact ih.hook _ h row trivial
    | inherited owner registry =>
      exact .bind (hI.upholds_iff.mp (planOf_upholds hI owner registry)) fun p => hexecute p row
    | bare h => exact ih.hook _ h row trivial

/-- **Running keeps what is stable.** A property of sessions that survives counting, taking notes,
completing a class of checked records and asking a registry for a plan survives whatever a level
offers. -/
theorem Level.ofDepth_upholds (hI : Session.Stable I) (n : Nat) : (ofDepth n).Upholds I := by
  have hl := hI.ofDepth_paired n
  exact
    { hook := fun owner h v => hI.upholds_iff.mpr (hl.hook owner h v trivial)
      mapRow := fun m v => hI.upholds_iff.mpr (hl.mapRow m v trivial)
      construct := fun t positional keywords =>
        hI.upholds_iff.mpr (hl.construct t positional keywords)
      record := fun mode s c v => hI.upholds_iff.mpr (hl.record mode s c v) }

/-! ## Rows -/

section

variable (hI : Session.Stable I) (n : Nat)
include hI

theorem rowOf_upholds (v : Value) : Upholds I (Cell.rowOf v) :=
  hI.upholds_iff.mpr (Cell.rowOf_paired v)

theorem unconverted_upholds (s : DecodeStep) (row : Value) :
    Upholds I (unconverted (.ofDepth n) s row) :=
  hI.upholds_iff.mpr (unconverted_paired hI.onRows (hI.ofDepth_paired n) (fun _ _ => trivial)
    (fun _ _ => trivial) row)

theorem attempt_upholds (s : DecodeStep) (row : Value) : Upholds I (attempt (.ofDepth n) s row) :=
  hI.upholds_iff.mpr (attempt_paired hI.onRows (hI.ofDepth_paired n) (fun _ _ => trivial)
    (fun _ _ => trivial) row)

theorem runSteps_upholds (steps : List DecodeStep) (row : Value) :
    Upholds I (steps.mapM fun s => runStep (.ofDepth n) s row) :=
  hI.upholds_iff.mpr <| .mapM fun _ _ => runStep_paired hI.onRows (hI.ofDepth_paired n)
    (fun _ _ => trivial) (fun _ _ => trivial) row

/-- Running a plan keeps what is stable. -/
theorem execute_upholds (p : DecodePlan) (row : Value) : Upholds I (execute (.ofDepth n) p row) :=
  hI.upholds_iff.mpr (execute_paired hI.onRows (hI.ofDepth_paired n)
    (fun _ _ => ⟨fun _ _ => trivial, fun _ _ => trivial⟩) row)

/-- Mapping a row by the mapping of a class keeps what is stable. -/
theorem Derive.mapRow_upholds (c : ClassRef) (row : Value) : Upholds I (Derive.mapRow c row) := by
  have htop : Level.top.Upholds I := Level.ofDepth_upholds hI _
  refine .get_bind fun σ hσ => ?_
  split
  · exact htop.hook _ _ _ σ hσ
  · exact htop.mapRow _ _ σ hσ
  · split
    · exact htop.hook _ _ _ σ hσ
    · exact hσ
  · exact hσ

end

end

end RowDecoding
