import RowDecoding.Proofs.Upholding

/-!
# What hooks raise

Making an instance fills fields, runs constructors, and checks what is given to it, each on the level
below. None of that raises a failure of the row of its own: one that ends it was raised by a hook of a
class, and nothing happened after that. `Passing H E m` says so of a computation `m`, for a set `H` of
hooks: if the classes of the session have no other hooks, they have no other ones afterwards, and a
failure of the row that ends `m` is one of `E`. What passes failures on is paired with itself, so what
is known of plans side by side is known here (`passing_iff`). The hooks come out of the session, and
running gives no class another one, so those of the session at the start are all there are.

> `Level.ofDepth_upkeep`: on every level, a failure of the row that ends the making of an instance or
> the check of a record was raised by a hook of a class.
-/

namespace RowDecoding

/-! ## Passing failures on -/

/-- Where the classes have no hooks but those of `H`, the computation leaves them so, and a failure
of the row that ends it is one that `E` allows in the session that is left. -/
def Passing (H : Hook → Prop) (E : Failure → Session → Prop) {α : Type} (m : Run α) : Prop :=
  ∀ σ : Session, σ.classes.HooksIn H → (m.run σ).2.classes.HooksIn H ∧
    ∀ f, (m.run σ).1 = .error f → f.isRow = true → E f (m.run σ).2

section

variable {H H' : Hook → Prop} {E : Failure → Session → Prop} {α : Type} {m : Run α}

theorem Passing.mono {E' : Failure → Session → Prop} (hm : Passing H E m)
    (h : ∀ f σ, E f σ → E' f σ) : Passing H E' m :=
  fun σ hσ => ⟨(hm σ hσ).1, fun f hf hrow => h f _ ((hm σ hσ).2 f hf hrow)⟩

/-- What is known of a run of the computation. -/
theorem Passing.of_run (hm : Passing H E m) {e : Except Failure α} {σ σ' : Session}
    (hrun : m.run σ = (e, σ')) (hσ : σ.classes.HooksIn H) :
    σ'.classes.HooksIn H ∧ ∀ f, e = .error f → f.isRow = true → E f σ' := by
  have h := hm σ hσ
  rwa [hrun] at h

/-- A session without other hooks beside itself. The hooks of the classes may be called, and others
besides; of the failures, only those of the row matter. -/
def Pairing.passing (hH : ∀ h, H h → H' h) (E : Failure → Session → Prop) : Pairing where
  Pairs σ σ' := σ.classes.HooksIn H ∧ σ' = σ
  Hooks := H'
  Failures f σ := f.isRow = true → E f σ
  apart := by
    rintro _ σ ⟨-, rfl⟩
    exact ⟨σ.registries, rfl⟩
  classes hσ info hinfo h hh := hH h (hσ.1 info hinfo h hh)
  completed := by
    rintro _ σ c info ⟨hσ, rfl⟩ - hcompleted
    exact ⟨hσ.completed hcompleted, rfl⟩
  fault _ _ h := nomatch h
  invalid _ _ h := nomatch h

/-- A computation passes failures on just if it is paired with itself. -/
theorem passing_iff (hH : ∀ h, H h → H' h) :
    Passing H E m ↔ Paired (Pairing.passing hH E) m m := by
  constructor
  · rintro hm _ σ ⟨hσ, rfl⟩
    exact ⟨rfl, ⟨(hm σ hσ).1, rfl⟩, (hm σ hσ).2⟩
  · intro hm σ hσ
    obtain ⟨-, hpairs, hfailure⟩ := hm ⟨hσ, rfl⟩
    exact ⟨hpairs.1, hfailure⟩

/-- Asking a registry for a plan gives no class another hook. -/
theorem Session.planFor_hooksIn (H : Hook → Prop) (name : String) (t : TypeExpr) :
    Upholds (fun σ => σ.classes.HooksIn H) (planFor name t) := by
  have hasked : ∀ m : Compile DecodePlan,
      Upholds (fun σ => σ.classes.HooksIn H) (inRegistry name m) := by
    refine fun m => .bind (.get_bind fun σ hσ => ?_) fun r => ?_
    · split <;> exact hσ
    · exact .bind (.modify fun _ hσ => hσ) fun _ => .lift _
  exact .get_bind fun σ hσ => hasked _ σ hσ

/-- Whatever runs gives no class another hook. -/
theorem Session.stable_hooksIn (H : Hook → Prop) : Stable fun σ => σ.classes.HooksIn H where
  counted _ hσ := hσ
  noted _ hσ := hσ
  completed _ hcompleted hσ := hσ.completed hcompleted
  planned name t hσ := planFor_hooksIn H name t _ hσ

end

/-! ## Raised failures -/

/-- A call of a hook of `H` ends with the failure and leaves the session. -/
def Raised (H : Hook → Prop) (f : Failure) (σ' : Session) : Prop :=
  ∃ n owner h v σ, H h ∧ ((Level.ofDepth n).hook owner h v).run σ = (.error f, σ')

theorem Raised.mono {H H' : Hook → Prop} {f : Failure} {σ' : Session} (h : Raised H f σ')
    (hH : ∀ hook, H hook → H' hook) : Raised H' f σ' := by
  obtain ⟨n, owner, hook, v, σ, hhook, hrun⟩ := h
  exact ⟨n, owner, hook, v, σ, hH hook hhook, hrun⟩

/-- Nothing that a level offers gives a class another hook. What a hook raises is its own, and what is
made and checked passes on what the hooks of the classes raise. -/
structure Level.Upkeep (H : Hook → Prop) (l : Level) : Prop where
  hook : ∀ owner h v, RowDecoding.Passing H (Raised (· = h)) (l.hook owner h v)
  construct : ∀ t positional keywords,
    RowDecoding.Passing H (Raised H) (l.construct t positional keywords)
  record : ∀ mode s c v, RowDecoding.Passing H (Raised H) (l.record mode s c v)

section

variable {H H' : Hook → Prop} {E : Failure → Session → Prop} {l : Level}

/-- A level that passes failures on is paired with itself, also where more hooks may be called than
those of classes. -/
theorem Level.Upkeep.paired (hl : l.Upkeep H) (hH : ∀ h, H h → H' h)
    (hE : ∀ f σ, Raised H' f σ → E f σ) :
    Level.Paired (Pairing.passing hH E) (fun _ => False) l l where
  hook owner h v hh := (passing_iff hH).mp <| (hl.hook owner h v).mono fun f σ hraised =>
    hE f σ (hraised.mono fun _ heq => heq ▸ hh)
  mapRow _ _ hm := hm.elim
  construct t positional keywords := (passing_iff hH).mp <|
    (hl.construct t positional keywords).mono fun f σ hraised => hE f σ (hraised.mono hH)
  record mode s c v := (passing_iff hH).mp <|
    (hl.record mode s c v).mono fun f σ hraised => hE f σ (hraised.mono hH)

/-- What a hook raises on a level is raised by that hook. -/
theorem passing_raised (H : Hook → Prop) (n : Nat) (owner : Option ClassRef) (h : Hook) (v : Value) :
    Passing H (Raised (· = h)) ((Level.ofDepth n).hook owner h v) := by
  intro σ hσ
  have hkept := (Level.ofDepth_upholds (Session.stable_hooksIn H) n).hook owner h v σ hσ
  exact ⟨hkept, fun f hf _ => ⟨n, owner, h, v, σ, rfl, Prod.ext hf rfl⟩⟩

/-- **Failures of the row come out of hooks.** On every level, one that ends the making of an instance
or the check of a record was raised by a hook of a class. The induction is on the levels. -/
theorem Level.ofDepth_upkeep (H : Hook → Prop) (n : Nat) : (ofDepth n).Upkeep H := by
  induction n with
  | zero =>
    have hnone : Level.Paired (Pairing.passing (fun h (hh : H h) => hh) (Raised H)) (fun _ => False)
      none none := none_paired
    exact
      { hook := passing_raised H 0
        construct := fun t positional keywords =>
          (passing_iff _).mpr (hnone.construct t positional keywords)
        record := fun mode s c v => (passing_iff _).mpr (hnone.record mode s c v) }
  | succ n ih =>
    have hl := ih.paired (fun h (hh : H h) => hh) fun _ _ => id
    exact
      { hook := passing_raised H (n + 1)
        construct := fun t positional keywords =>
          (passing_iff _).mpr (Instance.construct_paired hl t positional keywords)
        record := fun mode s c v =>
          (passing_iff _).mpr (Instance.checkRecord_paired hl mode s c v) }

/-! ## Parts of a run -/

theorem rowOf_passing (H : Hook → Prop) (E : Failure → Session → Prop) (v : Value) :
    Passing H E (Cell.rowOf v) :=
  (passing_iff fun _ => id).mpr (Cell.rowOf_paired v)

section

variable (hl : l.Upkeep H)
include hl

/-- Reading a cell fails for the row if there is no such column, or as the hooks of classes do. -/
theorem read_passing (key row : Value) :
    Passing H (fun f σ => f = .row (.absent key) none none ∨ Raised H f σ)
      (Cell.read l key row) := by
  refine (passing_iff fun _ => id).mpr ?_
  unfold Cell.read
  split
  · refine .lift fun f σ hf hrow => ?_
    rcases Row.misses_cell _ _ f hf with ⟨g, rfl⟩ | rfl
    · cases hrow
    · exact Or.inl rfl
  · exact Cell.call_paired (hl.paired _ fun _ _ => Or.inr) _ _ _

/-- A transform fails for the row as its own hook or those of classes do. -/
theorem transform_passing (t : Transform) (v : Value) :
    Passing H (Raised fun h => H h ∨ t.hook? = some h) (t.run l v) :=
  (passing_iff fun _ => Or.inl).mpr <|
    Transform.run_paired (hl.paired _ fun _ _ => id) (fun _ => Or.inr) v

/-- A default fails for the row as its own hook or those of classes do. -/
theorem supply_passing (supply : Supply) :
    Passing H (Raised fun h => H h ∨ ∃ owner, supply = .hook owner h) (l.supply supply) :=
  (passing_iff fun _ => Or.inl).mpr <|
    (hl.paired _ fun _ _ => id).supply fun owner _ hs => Or.inr ⟨owner, hs⟩

/-- Making a target fails for the row as the hooks of classes do. -/
theorem assembled_passing (p : DecodePlan) (values : List Value) :
    Passing H (Raised H) (assembled l p values) :=
  (passing_iff fun _ => id).mpr (assembled_paired (hl.paired _ fun _ _ => id) p values)

end

end

end RowDecoding
