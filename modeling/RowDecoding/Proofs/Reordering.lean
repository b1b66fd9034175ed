import RowDecoding.Proofs.Absence
import RowDecoding.Proofs.Declaring
import RowDecoding.Proofs.Permuting
import RowDecoding.Proofs.Undisturbed

/-!
# The order of fields

The steps of a plan run in the order of the fields of its target. For a tuple type the order is also
that of the columns, for a class of records it is not. So a tuple type with its items permuted makes
the permuted tuples of rows with permuted values, and a class of records with its fields in another
order makes records that hold the same under every name, of the same rows. Which failure it is that
a row fails with may differ, since the first step that fails decides that.

What is needed is that no step takes notice of what another one does. Steps that use what is built
in do not, those that flatten a plan of such steps included (`Step.IsBuiltin.indifferent`); decoders
that count their calls do, and what they make of permuted rows is not the permuted tuple
(`CountedColumns.counted_in_order`).

> `fields_reordered`: permuted tuple types, and records in any order of their fields.
-/

namespace RowDecoding

section

variable {table : ClassTable} {overrides : Overrides} {r s r' : Registry} {p : DecodePlan}

/-- **The order of fields matters for positions, and only for positions.** A registry in which
nothing was registered since it compiled a target compiles the target with its fields in another
order as well. If it is a tuple type of fields that each read their own column and have no default,
permuted rows make the permuted tuples; if it is a class of records, the same rows make the same
records, as they do for two declarations of the same fields. No step may take notice of what another
one does; steps that use what is built in do not, on any row that was adapted, and also if they
flatten plans of such steps. -/
theorem fields_reordered (hlasts : s.Lasts r') :
    (∀ (form : TupleForm) (n : Nat) (items : Fin n → TypeExpr) (π : Equiv.Perm (Fin n)),
      Compiles table (.tupleOf form (List.ofFn items)) overrides r p s →
      (∀ st ∈ p.steps, st.IsDirect) →
      (∃ p' s', Compiles table (.tupleOf form (List.ofFn (items ∘ π))) overrides r' p' s') ∧
      ∀ p' s', Compiles table (.tupleOf form (List.ofFn (items ∘ π))) overrides r' p' s' →
        DecodesPermuted π p p') ∧
    (∀ (c c' : ClassRef) (info info' : ClassInfo),
      table.Records c info → table.Records c' info' → info.Reorders info' →
      table.config? c' = table.config? c → Compiles table (.declared c) overrides r p s →
      (∃ p' s', Compiles table (.declared c') overrides r' p' s') ∧
      ∀ p' s', Compiles table (.declared c') overrides r' p' s' → DecodesAlike table c c' p p') ∧
    (∀ (before between : ClassTable) (d : Declaration) (fields : List FieldDeclaration)
      (name : String) (c c' : ClassRef), d.IsRecord → fields.Perm d.fields → before.IsNumbered →
      before.declare d = .ok (between, c) →
      (between.bind c).declare (d.reordered name fields) = .ok (table, c') →
      Compiles table (.declared c) overrides r p s →
      (∃ p' s', Compiles table (.declared c') overrides r' p' s') ∧
      ∀ p' s', Compiles table (.declared c') overrides r' p' s' → DecodesAlike table c c' p p') ∧
    ∀ (σ : Session) (row : Value), Row.IsReady row → ∀ st ∈ p.steps, st.IsBuiltin σ.classes →
      (runStep Level.top st row).Indifferent (· = σ) := by
  refine ⟨fun _ _ _ π h hdirect => tuple_reordered h hdirect hlasts π,
    fun _ _ _ _ hc hc' hsame hconfig h => record_reordered hc hc' hsame hconfig h hlasts, ?_,
    fun _ _ hrow _ _ hbuiltin => hbuiltin.indifferent Level.depth hrow⟩
  intro before between d fields name c c' hd hperm hnumbered hdeclared hdeclared' h
  obtain ⟨info, info', hc, hc', hsame, hconfig⟩ :=
    declared_reorders hd hperm name hnumbered hdeclared hdeclared'
  exact record_reordered hc hc' hsame hconfig h hlasts

end

/-! ## Targets that are compiled -/

/-- Compiles a target that flattens classes which flatten nothing. -/
def Compile.alone (table : ClassTable) (t : TypeExpr) : Compile DecodePlan :=
  Compile.buildWith (Compile.lookups table (Compile.planWithin table 1)) table t Overrides.none

/-- A compilation whose plan passes a test. -/
theorem compiles_of_test {table : ClassTable} {t : TypeExpr} {r : Registry}
    {test : DecodePlan → Bool}
    (h : ((Compile.alone table t).run r).1.toOption.any test = true) :
    ∃ p s, Compiles table t Overrides.none r p s ∧ test p = true := by
  obtain ⟨p, s, hrun, htest⟩ := Running.exists_of_test h
  exact ⟨p, s, ⟨0, hrun⟩, htest⟩

/-- Whether every step of a plan reads its own column, has no default and uses what is built in. -/
def Plan.isPlain (p : DecodePlan) : Bool :=
  p.steps.all fun st => st.strategy.key?.isSome && st.default.isNone && st.usesBuiltins

theorem Plan.isPlain_spec {p : DecodePlan} (h : Plan.isPlain p = true) :
    (∀ st ∈ p.steps, st.IsDirect) ∧ ∀ st ∈ p.steps, st.usesBuiltins = true := by
  have hall : ∀ st ∈ p.steps, (st.strategy.key?.isSome = true ∧ st.default = none) ∧
      st.usesBuiltins = true := by
    simpa [Plan.isPlain] using h
  exact ⟨fun st hst => ⟨(hall st hst).1.1, (hall st hst).1.2⟩, fun st hst => (hall st hst).2⟩

/-! ## Plain columns -/

namespace PlainColumns

/-- A number and a text. -/
def items : Fin 2 → TypeExpr
  | 0 => .builtin .int
  | 1 => .builtin .str

def swap : Equiv.Perm (Fin 2) := Equiv.swap 0 1

/-- A record of two numbers. -/
def point : Declaration :=
  .dataclass "Point" none [.given "x" (.builtin .int), .given "y" (.builtin .int)]

/-- The table with `point`. -/
def before : ClassTable × ClassRef :=
  (ClassTable.empty.declare point).toOption.getD default

def count : FieldDeclaration := .given "count" (.builtin .int)

/-- A record that is read from the same row. -/
def place : FieldDeclaration :=
  .given "at" (.annotated (.declared before.2) [.marker [("flatten", .bool true)]])

/-- A text that may be absent. -/
def label : FieldDeclaration :=
  { FieldDeclaration.given "label"
      (.annotated (.builtin .str) [.marker [("default", .bool true)]]) with
    default := some (.constant (.text "")) }

def entry : Declaration :=
  .dataclass "Entry" none [count, place, label]

/-- The table with `entry` as well. -/
def between : ClassTable × ClassRef :=
  (before.1.declare entry).toOption.getD default

/-- The table with a class that has the fields of `entry` in another order. -/
def after : ClassTable × ClassRef :=
  ((between.1.bind between.2).declare
    (entry.reordered "Swapped" [place, count, label])).toOption.getD default

def registry : Registry := Registry.create "main" .standard

theorem declare_entry : before.1.declare entry = .ok (between.1, between.2) := by
  have h : before.1.declare entry = .ok between := Running.eq_ok_of_isOk (by decide +kernel)
  exact h

theorem declare_swapped :
    (between.1.bind between.2).declare (entry.reordered "Swapped" [place, count, label]) =
      .ok (after.1, after.2) := by
  have h : (between.1.bind between.2).declare (entry.reordered "Swapped" [place, count, label]) =
      .ok after := Running.eq_ok_of_isOk (by decide +kernel)
  exact h

theorem isNumbered_before : before.1.IsNumbered := by
  have h : before.1.classes.all (fun info => decide (info.ref.serial < before.1.nextSerial)) =
      true := by decide +kernel
  simpa [ClassTable.IsNumbered] using h

theorem entry_isRecord : entry.IsRecord where
  kind := rfl
  base := rfl
  nodup := by decide
  receiver := by decide
  kinds f hf _ := by
    have hall : ∀ f ∈ entry.fields, f.kind = .ordinary := by decide
    exact Or.inl (hall f hf)
  silent h := nofun

/-- The defaults of `entry` are constants. -/
theorem defaults_isBuiltin : ∀ maker, (after.1.info between.2).constructor? = some maker →
    ∀ f ∈ maker.parameters, ∀ s, f.default = some s → s.isBuiltin = true := by
  have h : (after.1.info between.2).constructor?.all (fun maker =>
      maker.parameters.all fun f => f.default.all Supply.isBuiltin) = true := by decide +kernel
  intro maker hmaker f hf s hs
  have hall := (Option.all_eq_true _ _).mp h maker hmaker
  exact (Option.all_eq_true _ _).mp (List.all_eq_true.mp hall f hf) s hs

theorem compiles_items : ∃ p s,
    Compiles after.1 (.tupleOf .plain (List.ofFn items)) Overrides.none registry p s ∧
      Plan.isPlain p = true :=
  compiles_of_test (by decide +kernel)

/-- Whether a plan flattens and defaults, and uses what is built in with plans nested once. -/
def flattensPlainly (p : DecodePlan) : Bool :=
  p.steps.any (fun st => st.strategy.key?.isNone) && p.steps.any (fun st => st.default.isSome) &&
    p.steps.all (·.isBuiltinWithin after.1 1)

theorem compiles_entry : ∃ p s,
    Compiles after.1 (.declared between.2) Overrides.none registry p s ∧ flattensPlainly p = true :=
  compiles_of_test (by decide +kernel)

/-- Pairs of any two cells, and records of any entries, where one field is flattened and another one
has a default. -/
theorem fields_reordered_plain :
    ∃ p q s s', Compiles after.1 (.tupleOf .plain (List.ofFn items)) Overrides.none registry p s ∧
      Compiles after.1 (.declared between.2) Overrides.none registry q s' ∧
      (∃ st ∈ q.steps, st.strategy.key? = none) ∧ (∃ st ∈ q.steps, st.default ≠ none) ∧
      (∃ p' s'', Compiles after.1 (.tupleOf .plain (List.ofFn (items ∘ swap))) Overrides.none s p'
          s'' ∧
        ∀ (σ : Session) (cells : Fin 2 → Value), ∃ outcome : Option (Fin 2 → Value),
          (execute Level.top p (.list (List.ofFn cells))).Gives (· = σ)
            (outcome.map fun values => .tuple (List.ofFn values)) ∧
          (execute Level.top p' (.list (List.ofFn (cells ∘ swap)))).Gives (· = σ)
            (outcome.map fun values => .tuple (List.ofFn (values ∘ swap)))) ∧
      ∃ q' s'', Compiles after.1 (.declared after.2) Overrides.none s' q' s'' ∧
        ∀ (σ : Session) (entries : List (Value × Value)), σ.classes = after.1 →
          Run.MakeAlike (· = σ) between.2 after.2 (execute Level.top q (.dict entries))
            (execute Level.top q' (.dict entries)) := by
  obtain ⟨p, s, hp, hplain⟩ := compiles_items
  obtain ⟨q, s', hq, hflattens⟩ := compiles_entry
  obtain ⟨hdirect, hbuiltin⟩ := Plan.isPlain_spec hplain
  simp only [flattensPlainly, Bool.and_eq_true, List.any_eq_true, List.all_eq_true,
    Option.isNone_iff_eq_none, Option.isSome_iff_ne_none] at hflattens
  obtain ⟨⟨hflatten, hdefault⟩, hwithin⟩ := hflattens
  obtain ⟨htuple, -, -, hindifferent⟩ :=
    @fields_reordered after.1 Overrides.none registry s s p (Registry.Lasts.refl s)
  obtain ⟨-, -, hrecord, hindifferent'⟩ :=
    @fields_reordered after.1 Overrides.none registry s' s' q (Registry.Lasts.refl s')
  obtain ⟨⟨p', s₁, hp'⟩, hpermuted⟩ := htuple .plain 2 items swap hp hdirect
  obtain ⟨⟨q', s₂, hq'⟩, halike⟩ :=
    hrecord before.1 between.1 entry [place, count, label] "Swapped" between.2 after.2
      entry_isRecord (List.Perm.swap _ _ _) isNumbered_before declare_entry declare_swapped hq
  refine ⟨p, q, s, s', hp, hq, hflatten, hdefault, ⟨p', s₁, hp', fun σ cells => ?_⟩,
    q', s₂, hq', fun σ entries hσ => ?_⟩
  · -- A list is a row of its elements, and permuted cells make the permuted row.
    have hadapts : ∀ (cells : List Value) (τ : Session),
        Row.Adapts τ.classes (.list cells) (.row .sequence [] cells) := fun _ _ => ⟨rfl, rfl⟩
    have hrows := Row.permuted_of_cells Level.top swap .sequence [] [] cells [] []
    rw [List.append_nil, List.append_nil] at hrows
    exact hpermuted p' s₁ hp' (· = σ) _ _ _ _ (fun τ _ => (hadapts _ τ).run_rowOf)
      (fun τ _ => (hadapts _ τ).run_rowOf) hrows
      fun st hst => hindifferent σ _ (hadapts _ σ).isReady st hst (.column (hbuiltin st hst))
  · have hadapts : ∀ τ : Session,
        Row.Adapts τ.classes (.dict entries) (Row.ofEntries entries) := fun _ => ⟨rfl, rfl⟩
    refine halike q' s₂ hq' (· = σ) _ _ ?_ ?_ (fun τ _ => (hadapts τ).run_rowOf)
      (fun st hst => hindifferent' σ _ (hadapts σ).isReady st hst ?_)
      fun maker hmaker f hf supply hs =>
        Supply.indifferent 999 (defaults_isBuiltin maker hmaker f hf supply hs)
    · rintro _ rfl
      rw [hσ]
    · rintro _ rfl
      rw [hσ]
    · rw [hσ]
      exact Step.isBuiltin_of_within (hwithin st hst)

end PlainColumns

/-! ## Columns that are counted -/

namespace CountedColumns

/-- A registry whose decoders for both kinds of numbers give the number of the call. -/
def registry : Registry :=
  (do
    let r ← (Registry.create "main" .standard).registerDecoder (.builtin .int) (.hook none .count)
    r.registerDecoder (.builtin .float) (.hook none .count) : Except Failure Registry)
    |>.toOption.getD default

/-- What a plan makes of two numbers in a new session. -/
def made (p : DecodePlan) (a b : Int) : Except Failure Value :=
  ((execute Level.top p (.list [.int a, .int b])).run (Session.create [])).1

/-- Whether a plan with columns of its own makes the pair of one and two. -/
def countsTo (a b : Int) (p : DecodePlan) : Bool :=
  p.steps.all (fun st => st.strategy.key?.isSome && st.default.isNone) &&
    match made p a b with
    | .ok (.tuple [.int x, .int y]) => x == 1 && y == 2
    | _ => false

theorem countsTo_spec {a b : Int} {p : DecodePlan} (h : countsTo a b p = true) :
    (∀ st ∈ p.steps, st.IsDirect) ∧ made p a b = .ok (.tuple [.int 1, .int 2]) := by
  obtain ⟨hdirect, hmade⟩ := Bool.and_eq_true_iff.mp h
  refine ⟨fun st hst => ?_, ?_⟩
  · have hboth := List.all_eq_true.mp hdirect st hst
    rw [Bool.and_eq_true, Option.isNone_iff_eq_none] at hboth
    exact ⟨hboth.1, hboth.2⟩
  · split at hmade
    next x y heq =>
      rw [Bool.and_eq_true, beq_iff_eq, beq_iff_eq] at hmade
      rw [heq, hmade.1, hmade.2]
    next => cases hmade

/-- Both of two types that differ in the order of their items make the pair of one and two, since
the first step is counted first. Were the pair permuted like the items, one of them would make that
of two and one. -/
theorem counted_in_order :
    ∃ p s p' s',
      Compiles .empty (.tupleOf .plain [.builtin .int, .builtin .float]) Overrides.none registry p
        s ∧
      Compiles .empty (.tupleOf .plain [.builtin .float, .builtin .int]) Overrides.none registry p'
        s' ∧
      (∀ st ∈ p.steps, st.IsDirect) ∧ made p 5 6 = .ok (.tuple [.int 1, .int 2]) ∧
      made p' 6 5 = .ok (.tuple [.int 1, .int 2]) := by
  have hcounted : ∃ p s, Compiles .empty (.tupleOf .plain [.builtin .int, .builtin .float])
      Overrides.none registry p s ∧ countsTo 5 6 p = true :=
    compiles_of_test (by decide +kernel)
  have hcounted' : ∃ p s, Compiles .empty (.tupleOf .plain [.builtin .float, .builtin .int])
      Overrides.none registry p s ∧ countsTo 6 5 p = true :=
    compiles_of_test (by decide +kernel)
  obtain ⟨p, s, hp, htest⟩ := hcounted
  obtain ⟨p', s', hp', htest'⟩ := hcounted'
  obtain ⟨hdirect, hmade⟩ := countsTo_spec htest
  exact ⟨p, s, p', s', hp, hp', hdirect, hmade, (countsTo_spec htest').2⟩

end CountedColumns

end RowDecoding
