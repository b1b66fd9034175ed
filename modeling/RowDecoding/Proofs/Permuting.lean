import Mathlib.Data.List.FinRange
import RowDecoding.Proofs.Adapters
import RowDecoding.Proofs.Indifference

/-!
# Tuple types with their items permuted

The schema of a tuple type has a field for each item, which differs from that of the same item at
another place in its place only (`aliasSchema`). So the steps of the permuted type are the permuted
steps, each with the column at its new place (`Compiles.permuted`). On rows with permuted values each
of them reads what the step of the same item reads at its old place (`Row.Permuted`).

> `tuple_reordered`: permuted tuple types make the permuted tuples of permuted rows.
-/

namespace RowDecoding

/-! ## Rows with permuted values -/

section

variable {n : Nat} {π : Equiv.Perm (Fin n)} {l : Level}

/-- Two rows of which the first values are the same but for a permutation: at each position the
second one has what the first one has where the position goes to. -/
def Row.Permuted (l : Level) (π : Equiv.Perm (Fin n)) (row row' : Value) : Prop :=
  ∀ i : Fin n, (Cell.read l (.int (π i)) row).Alike (Cell.read l (.int i) row')

/-- Rows of cells are so, whatever comes after the cells that are permuted and whatever the columns
are called. -/
theorem Row.permuted_of_cells (l : Level) (π : Equiv.Perm (Fin n)) (form : RowForm)
    (columns columns' : List Value) (cells : Fin n → Value) (rest rest' : List Value) :
    Row.Permuted l π (.row form columns (List.ofFn cells ++ rest))
      (.row form columns' (List.ofFn (cells ∘ π) ++ rest')) := by
  intro i
  show Run.Alike (Run.lift (Row.cellAt _ _)) (Run.lift (Row.cellAt _ _))
  refine Run.lift_alike ?_
  by_cases hform : form ≠ .fetched ∧ form ≠ .empty
  · have hcell : ∀ (cells : Fin n → Value) (rest : List Value) (j : Fin n),
        (List.ofFn cells ++ rest)[(j : Int).toNat]? = some (cells j) := by
      intro cells rest j
      rw [Int.toNat_natCast, List.getElem?_append_left (by simp), List.getElem?_ofFn]
      simp
    rw [cellAt_of_asInt hform rfl, cellAt_of_asInt hform rfl, if_pos (Int.natCast_nonneg _),
      if_pos (Int.natCast_nonneg _), hcell, hcell]
    rfl
  · cases form <;> first | rfl | exact absurd ⟨nofun, nofun⟩ hform

end

/-! ## Tuple types -/

/-- The field of an item of a tuple type. -/
def itemField (t : TypeExpr) : FieldSchema :=
  ⟨none, (splitAnnotated t).1, 0, (splitAnnotated t).2, none⟩

/-- The schema of a tuple type. -/
def aliasSchema (form : TupleForm) (items : List TypeExpr) : Schema where
  target := .tupleOf form items
  addressing := .byPosition
  fields := items.zipIdx.map fun (t, i) => (itemField t).placed i
  container := []

section

variable {table : ClassTable} {form : TupleForm}

theorem introspect_alias_iff {items : List TypeExpr} {schema : Schema} :
    introspect table (.tupleOf form items) = .ok schema ↔
      (TypeExpr.tupleOf form items).isUnwritable = false ∧ items ≠ [] ∧
        schema = aliasSchema form items := by
  have hfields : aliasFields (.tupleOf form items) = .ok (aliasSchema form items).fields := rfl
  have hempty : (aliasSchema form items).fields = [] ↔ items = [] := by
    cases items with
    | nil => exact iff_of_true rfl rfl
    | cons => exact iff_of_false nofun nofun
  unfold introspect
  cases hwritable : (TypeExpr.tupleOf form items).isUnwritable with
  | true => simp
  | false =>
    have halias : (TypeExpr.tupleOf form items).isTupleAlias = true := rfl
    have hread : nonEmpty (aliasSchema form items) = .ok schema ↔ _ := nonEmpty_eq_ok_iff
    rw [if_neg Bool.false_ne_true, if_pos halias, hfields]
    rw [ne_eq, not_congr hempty] at hread
    exact hread.trans ⟨fun h => ⟨rfl, h⟩, fun h => h.2⟩

theorem zipIdx_ofFn {α β : Type} {n : Nat} (items : Fin n → α) (g : α × Nat → β) :
    (List.ofFn items).zipIdx.map g = List.ofFn fun i => g (items i, i) := by
  refine List.ext_getElem (by simp) fun i _ _ => ?_
  simp

theorem anyTypeUnwritable_eq (types : List TypeExpr) :
    anyTypeUnwritable types = types.any (·.isUnwritable) := by
  induction types with
  | nil => rfl
  | cons t rest ih =>
    rw [List.any_cons, ← ih]
    rfl

end

section

variable {table : ClassTable} {form : TupleForm} {overrides : Overrides} {r s r' : Registry}
  {p : DecodePlan} {n : Nat} {items : Fin n → TypeExpr} {S : Session → Prop}

/-- The steps of a tuple type, each at the place of its item. -/
theorem Plan.Places.steps_alias {step : FieldSchema → DecodeStep}
    (h : p.Places (aliasSchema form (List.ofFn items)) step) :
    p.steps =
      (List.finRange n).map fun i => (step (itemField (items i))).placed .byPosition i := by
  rw [h.steps, ← List.ofFn_eq_map]
  unfold aliasSchema
  dsimp only
  rw [zipIdx_ofFn, List.map_ofFn]
  rfl

theorem aliasSchema_unplaced (form : TupleForm) (items : List TypeExpr) :
    (aliasSchema form items).fields.map (·.placed 0) = items.map itemField := by
  unfold aliasSchema
  dsimp only
  rw [List.map_map]
  conv_rhs => rw [← List.zipIdx_map_fst 0 items, List.map_map]
  rfl

/-- A tuple type that a registry compiled is compiled with its items permuted as well, and then each
item has the same step, at its new place. -/
theorem Compiles.permuted (h : Compiles table (.tupleOf form (List.ofFn items)) overrides r p s)
    (hlasts : s.Lasts r') (π : Equiv.Perm (Fin n)) :
    ∃ step : FieldSchema → DecodeStep, p.Places (aliasSchema form (List.ofFn items)) step ∧
      (∃ p' s', Compiles table (.tupleOf form (List.ofFn (items ∘ π))) overrides r' p' s') ∧
      ∀ p' s', Compiles table (.tupleOf form (List.ofFn (items ∘ π))) overrides r' p' s' →
        p'.Places (aliasSchema form (List.ofFn (items ∘ π))) step := by
  have hperm : (List.ofFn (items ∘ π)).Perm (List.ofFn items) := π.ofFn_comp_perm items
  obtain ⟨schema, -, -, -, -, hschema, -⟩ := Compile.run_buildWith_iff.mp h.choose_spec
  obtain ⟨hwritable, hitems, rfl⟩ := introspect_alias_iff.mp hschema
  have hschema' : introspect table (.tupleOf form (List.ofFn (items ∘ π))) =
      .ok (aliasSchema form (List.ofFn (items ∘ π))) := by
    refine introspect_alias_iff.mpr ⟨?_, fun hnil => hitems ?_, rfl⟩
    · have hany : anyTypeUnwritable (List.ofFn items) = false := hwritable
      show anyTypeUnwritable (List.ofFn (items ∘ π)) = false
      rw [anyTypeUnwritable_eq] at hany ⊢
      rw [hperm.any_eq, hany]
    · rw [hnil] at hperm
      exact hperm.nil_eq.symm
  refine h.again hschema hschema' rfl rfl ?_ hlasts
  rw [aliasSchema_unplaced, aliasSchema_unplaced]
  exact hperm.map itemField

/-- A tuple is decoded to what its steps come to. -/
theorem execute_tuple_gives {l : Level} {v row : Value} {values : Option (List Value)}
    (htarget : p.target.isClass = false) (haddressing : p.addressing = .byPosition)
    (hrow : ∀ σ, S σ → (Cell.rowOf v).run σ = (.ok row, σ))
    (hsteps : (p.steps.mapM fun st => runStep l st row).Gives S values) :
    (execute l p v).Gives S (values.map .tuple) := by
  have hmade : ∀ values, (makeTarget l p values).Gives S (some (.tuple values)) := by
    intro values
    unfold makeTarget
    rw [haddressing]
    dsimp only
    rw [htarget, if_neg Bool.false_ne_true]
    exact (Run.Gives.pure S (Value.tuple values)).mapFailure _
  rw [Option.map_eq_bind]
  exact (Run.Gives.of_run hrow).bind_some (hsteps.bind fun values _ => hmade values)

/-- Items that each come to something come to it permuted. -/
theorem mapM_finRange_comp {n : Nat} (outcomes : Fin n → Option Value) :
    ∃ outcome : Option (Fin n → Value), ∀ π : Equiv.Perm (Fin n),
      (List.finRange n).mapM (outcomes ∘ π) =
        outcome.map fun values => List.ofFn (values ∘ π) := by
  rcases outcomes_cases outcomes (List.finRange n) with hall | ⟨i, -, hnone⟩
  · choose values hvalues using fun i => hall i (List.mem_finRange i)
    refine ⟨some values, fun π => ?_⟩
    have hpermuted : ∀ i ∈ List.finRange n, (outcomes ∘ π) i = some ((values ∘ π) i) :=
      fun i _ => hvalues (π i)
    rw [mapM_eq_some_map hpermuted, ← List.ofFn_eq_map]
    rfl
  · refine ⟨none, fun π => mapM_eq_none ⟨π.symm i, List.mem_finRange _, ?_⟩⟩
    rw [Function.comp_apply, π.apply_symm_apply, hnone]

/-- A plan makes tuples of rows, and another one makes the permuted tuples of rows with permuted
values: it gives one just if the first plan does. What is needed of a row is that no step of the
first plan takes notice of what another one does. -/
def DecodesPermuted (π : Equiv.Perm (Fin n)) (p p' : DecodePlan) : Prop :=
  ∀ (S : Session → Prop) (v v' row row' : Value),
    (∀ σ, S σ → (Cell.rowOf v).run σ = (.ok row, σ)) →
    (∀ σ, S σ → (Cell.rowOf v').run σ = (.ok row', σ)) →
    Row.Permuted Level.top π row row' →
    (∀ st ∈ p.steps, (runStep Level.top st row).Indifferent S) →
    ∃ outcome : Option (Fin n → Value),
      (execute Level.top p v).Gives S (outcome.map fun values => .tuple (List.ofFn values)) ∧
      (execute Level.top p' v').Gives S
        (outcome.map fun values => .tuple (List.ofFn (values ∘ π)))

/-- **Permuted tuple types decode permuted rows.** Take a tuple type of fields that each read their
own column and have no default, as a registry compiled it, and a permutation of its items. As long as
nothing is registered, the registry compiles the permuted type as well, and its plan makes the
permuted tuples of the permuted rows. -/
theorem tuple_reordered
    (h : Compiles table (.tupleOf form (List.ofFn items)) overrides r p s)
    (hdirect : ∀ st ∈ p.steps, st.IsDirect) (hlasts : s.Lasts r') (π : Equiv.Perm (Fin n)) :
    (∃ p' s', Compiles table (.tupleOf form (List.ofFn (items ∘ π))) overrides r' p' s') ∧
    ∀ p' s', Compiles table (.tupleOf form (List.ofFn (items ∘ π))) overrides r' p' s' →
      DecodesPermuted π p p' := by
  obtain ⟨step, hp, hcompiles, hpermuted⟩ := h.permuted hlasts π
  refine ⟨hcompiles, fun p' s' h' S v v' row row' hrow hrow' hrows hsteps => ?_⟩
  have hp' := hpermuted p' s' h'
  -- What the step of an item is in both plans, but for its place.
  let item (i : Fin n) : DecodeStep := step (itemField (items i))
  have hitem : ∀ i, (item i).placed .byPosition i ∈ p.steps := fun i => by
    rw [hp.steps_alias]
    exact List.mem_map_of_mem (List.mem_finRange i)
  have halike : ∀ i, (runStep Level.top ((item (π i)).placed .byPosition (π i)) row).Alike
      (runStep Level.top ((item (π i)).placed .byPosition i) row') := by
    intro i
    obtain ⟨hcolumn, hdefault⟩ := hdirect _ (hitem (π i))
    exact runStep_placed_alike
      ((Strategy.placed_key?_isSome .byPosition _ (item (π i)).strategy).symm.trans hcolumn) hdefault
      (hrows i)
  choose outcomes houtcomes using fun i => hsteps _ (hitem i)
  obtain ⟨outcome, houtcome⟩ := mapM_finRange_comp outcomes
  have hgives : (execute Level.top p v).Gives S
      (((List.finRange n).mapM (outcomes ∘ Equiv.refl (Fin n))).map .tuple) :=
    execute_tuple_gives (by rw [hp.target]; rfl) hp.addressing hrow
      (by rw [hp.steps_alias, List.mapM_map]; exact .mapM fun i _ => houtcomes i)
  have hgives' : (execute Level.top p' v').Gives S
      (((List.finRange n).mapM (outcomes ∘ π)).map .tuple) :=
    execute_tuple_gives (by rw [hp'.target]; rfl) hp'.addressing hrow'
      (by
        rw [hp'.steps_alias, List.mapM_map]
        exact .mapM fun i _ => (houtcomes (π i)).congr (halike i))
  rw [houtcome, Option.map_map] at hgives hgives'
  exact ⟨outcome, hgives, hgives'⟩

end

end RowDecoding
