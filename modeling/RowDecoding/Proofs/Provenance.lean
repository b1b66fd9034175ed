import RowDecoding.Proofs.BuildFailures
import RowDecoding.Proofs.Deriving
import RowDecoding.Proofs.Escaping
import RowDecoding.Proofs.Raising

/-!
# Where failures of the row come from

A failed run of a plan is described by how it came to fail: the steps that were running, the outermost
one first, and the part of the innermost run that failed (`Fails`). Every step before them has given a
value, by itself or by its default. On its way out a failure keeps its problem and its cause; the
steps that are running only fill in the name of the field, the innermost one first, unless the failure
has a name already.

> `execute_provenance`: every failure of the row comes about like that; it is made by the part that
> failed, in the words of that part, or raised by a hook.
-/

namespace RowDecoding

/-! ## What fails -/

/-- The hook that maps whole rows, if one does. -/
def RowMapper.hook? : RowMapper → Option Hook
  | .hook _ h | .bare h => some h
  | .plan _ | .inherited .. => none

/-- The part of a run that a failure comes from. -/
inductive Culprit where
  /-- Making the instance of a target out of the values of its fields. -/
  | construction (target : TypeExpr)
  /-- Reading the cell of a key. -/
  | reading (s : DecodeStep) (key : Value)
  /-- Decoding the cell of a key. -/
  | decoding (s : DecodeStep) (key : Value)
  /-- The conversion of what was decoded or mapped. -/
  | converting (s : DecodeStep)
  /-- A hook that maps the whole row. -/
  | mapping (s : DecodeStep)
  /-- The default for a column that is absent. -/
  | supplying (s : DecodeStep)

namespace Culprit

/-- The hooks that a part of a step calls by itself. -/
def HasHook : Culprit → Hook → Prop
  | construction _, _ | reading .., _ => False
  | decoding s _, h => ∃ t, s.strategy.decoder? = some t ∧ t.hook? = some h
  | converting s, h => ∃ t, s.converter = some t ∧ t.hook? = some h
  | mapping s, h => ∃ m, s.strategy = .flatten (some m) ∧ m.hook? = some h
  | supplying s, h => ∃ owner, s.default = some (.hook owner h)

/-- The failures of the row that a part makes by itself. A cell is absent under the very key that is
read. A mismatch with a column is about the key that is decoded, and one without a column about the
target. A failed conversion tells the types that the step converts between. -/
def Makes : Culprit → Failure → Prop
  | construction target, f => ∃ cause : Failure, f =
      .row (.mismatch .none (.text target.describe) (.text cause.message)) none (some cause)
  | reading _ key, f => f = .row (.absent key) none none
  | decoding s key, f => ∃ cause : Failure, f =
      .row (.mismatch key (.text s.sourceType.describe) (.text cause.message)) none (some cause)
  | converting s, f => ∃ cause : Failure, f =
      .row (.conversion (.text s.sourceType.describe) (.text s.fieldType.describe)
        (.text cause.message)) none (some cause)
  | mapping _, _ | supplying _, _ => False

end Culprit

/-! ## How a run fails -/

/-- A part of a step fails: it ends with this failure and leaves this session. -/
inductive Breaks (l : Level) (s : DecodeStep) (row : Value) (σ : Session) :
    Culprit → Failure → Session → Prop
  | reading {key : Value} {f : Failure} {σ' : Session} (hkey : s.strategy.key? = some key)
    (hread : (Cell.read l key row).run σ = (.error f, σ')) : Breaks l s row σ (.reading s key) f σ'
  | decoding {key raw : Value} {t : Transform} {f : Failure} {σ₁ σ' : Session}
    (hkey : s.strategy.key? = some key) (hread : (Cell.read l key row).run σ = (.ok raw, σ₁))
    (ht : s.strategy.decoder? = some t) (hrun : (t.run l raw).run σ₁ = (.error f, σ')) :
    Breaks l s row σ (.decoding s key) (decodingFailure s key f) σ'
  | converting {v : Value} {t : Transform} {f : Failure} {σ₁ σ' : Session}
    (hvalue : (unconverted l s row).run σ = (.ok v, σ₁)) (ht : s.converter = some t)
    (hrun : (t.run l v).run σ₁ = (.error f, σ')) :
    Breaks l s row σ (.converting s) (conversionFailure s f) σ'
  | mapping {m : RowMapper} {h : Hook} {f : Failure} {σ' : Session}
    (hm : s.strategy = .flatten (some m)) (hh : m.hook? = some h)
    (hrun : (l.mapRow m row).run σ = (.error f, σ')) : Breaks l s row σ (.mapping s) f σ'

/-- The plan that a mapper runs: its own, or the one that is found for the class it inherits from. -/
inductive RowMapper.Enters : RowMapper → Session → DecodePlan → Session → Prop
  | plan (p : DecodePlan) (σ : Session) : Enters (.plan p) σ p σ
  | inherited {owner : ClassRef} {registry : String} {p : DecodePlan} {σ σ' : Session}
    (h : (planOf owner registry).run σ = (.ok p, σ')) : Enters (.inherited owner registry) σ p σ'

/-- The row is adapted, and all of these steps give values for it. -/
def Passed (l : Level) (steps : List DecodeStep) (row : Value) (σ : Session) (adapted : Value)
    (values : List Value) (σ' : Session) : Prop :=
  ∃ σ₁, (Cell.rowOf row).run σ = (.ok adapted, σ₁) ∧
    (steps.mapM fun s => runStep l s adapted).run σ₁ = (.ok values, σ')

/-- How running a plan comes to fail, on the level above `n` others: the steps that are running and
name the field, the outermost one first, what fails, and how. A default that fails gets no name from
its own step. -/
inductive Fails : Nat → DecodePlan → Value → Session → List DecodeStep → Culprit → Failure →
    Session → Prop
  /-- All steps give values, and the target cannot be made of them. -/
  | construction {n : Nat} {p : DecodePlan} {row adapted : Value} {values : List Value} {f : Failure}
    {σ σ₁ σ' : Session} (hsteps : Passed (.ofDepth n) p.steps row σ adapted values σ₁)
    (hmake : (makeTarget (.ofDepth n) p values).run σ₁ = (.error f, σ')) :
    Fails n p row σ [] (.construction p.target) f σ'
  /-- A step fails after others that give values. -/
  | step {n : Nat} {p : DecodePlan} {row adapted : Value} {before after : List DecodeStep}
    {s : DecodeStep} {values : List Value} {culprit : Culprit} {f : Failure} {σ σ₁ σ' : Session}
    (hsplit : p.steps = before ++ s :: after)
    (hbefore : Passed (.ofDepth n) before row σ adapted values σ₁)
    (hbreaks : Breaks (.ofDepth n) s adapted σ₁ culprit f σ') : Fails n p row σ [s] culprit f σ'
  /-- A column is absent, and the default of its step fails. -/
  | supplying {n : Nat} {p : DecodePlan} {row adapted : Value} {before after : List DecodeStep}
    {s : DecodeStep} {values : List Value} {supply : Supply} {f g : Failure} {σ σ₁ σ₂ σ' : Session}
    (hsplit : p.steps = before ++ s :: after)
    (hbefore : Passed (.ofDepth n) before row σ adapted values σ₁)
    (habsent : (attempt (.ofDepth n) s adapted).run σ₁ = (.error g, σ₂)) (hg : g.isAbsence = true)
    (hdefault : s.default = some supply)
    (hsupply : (Level.supply (.ofDepth n) supply).run σ₂ = (.error f, σ')) :
    Fails n p row σ [] (.supplying s) f σ'
  /-- The plan fails that a step runs on the whole row. -/
  | nested {n : Nat} {p q : DecodePlan} {row adapted : Value} {before after path : List DecodeStep}
    {s : DecodeStep} {m : RowMapper} {values : List Value} {culprit : Culprit} {f : Failure}
    {σ σ₁ σ₂ σ' : Session} (hsplit : p.steps = before ++ s :: after)
    (hbefore : Passed (.ofDepth (n + 1)) before row σ adapted values σ₁)
    (hm : s.strategy = .flatten (some m)) (hruns : m.Enters σ₁ q σ₂)
    (hnested : Fails n q adapted σ₂ path culprit f σ') :
    Fails (n + 1) p row σ (s :: path) culprit f σ'

/-! ## The name of the field -/

/-- A failure as it leaves the steps that are running, the outermost one first. -/
def namedAlong (path : List DecodeStep) (f : Failure) : Failure :=
  path.foldr (fun s f => f.named s.fieldName) f

/-- The name of the innermost step that has one. -/
def innermostName? (path : List DecodeStep) : Option String :=
  path.reverse.findSome? (·.fieldName)

theorem Failure.named_row (name : Option String) (problem : RowProblem) (field : Option String)
    (cause : Option Failure) :
    (Failure.row problem field cause).named name = .row problem (field.or name) cause := by
  cases field <;> rfl

theorem Failure.isRow_named (name : Option String) (f : Failure) : (f.named name).isRow = f.isRow := by
  rcases f with ⟨problem, field, cause⟩ | _ | _ | _ | _
  · rw [named_row]
    rfl
  all_goals rfl

/-- Only the name is filled in on the way out, by the innermost step that has one. -/
theorem namedAlong_row (path : List DecodeStep) (problem : RowProblem) (field : Option String)
    (cause : Option Failure) :
    namedAlong path (.row problem field cause) =
      .row problem (field.or (innermostName? path)) cause := by
  induction path with
  | nil => cases field <;> rfl
  | cons s path ih =>
    have hname : innermostName? (s :: path) = (innermostName? path).or s.fieldName := by
      rw [innermostName?, List.reverse_cons, List.findSome?_append, List.findSome?_singleton]
      rfl
    show (namedAlong path _).named s.fieldName = _
    rw [ih, Failure.named_row, hname, Option.or_assoc]

theorem isRow_namedAlong (path : List DecodeStep) (f : Failure) :
    (namedAlong path f).isRow = f.isRow := by
  induction path with
  | nil => rfl
  | cons s path ih => exact (Failure.isRow_named _ _).trans ih

/-! ## Every failure comes about so -/

/-- Of several computations in turn, all before the one that fails give values. -/
theorem exists_of_run_mapM_error {α β : Type} {k : α → Run β} {l : List α} {f : Failure}
    {σ σ' : Session} (h : (l.mapM k).run σ = (.error f, σ')) :
    ∃ before a after values σ₁, l = before ++ a :: after ∧
      (before.mapM k).run σ = (.ok values, σ₁) ∧ (k a).run σ₁ = (.error f, σ') := by
  induction l generalizing σ with
  | nil => cases h
  | cons a l ih =>
    rw [List.mapM_cons] at h
    rcases Running.run_bind_eq_error.mp h with hrun | ⟨b, σ₁, hrun, h⟩
    · exact ⟨[], a, l, [], σ, rfl, rfl, hrun⟩
    · rcases Running.run_bind_eq_error.mp h with hrest | ⟨bs, σ₂, -, h⟩
      · obtain ⟨before, c, after, values, σ₃, rfl, hbefore, hc⟩ := ih hrest
        exact ⟨a :: before, c, after, b :: values, σ₃, rfl,
          Running.run_mapM_cons_eq_ok.mpr ⟨b, values, σ₁, hrun, hbefore, rfl⟩, hc⟩
      · cases h

/-- What changes a failure does so after the computation has ended. -/
theorem run_mapFailure_error {α : Type} {m : Run α} {change : Failure → Failure} {f : Failure}
    {σ σ' : Session} (h : (m.mapFailure change).run σ = (.error f, σ')) :
    ∃ g, m.run σ = (.error g, σ') ∧ f = change g := by
  rcases hrun : m.run σ with ⟨g | a, σ₁⟩
  · rw [run_mapFailure hrun] at h
    cases h
    exact ⟨g, rfl, rfl⟩
  · rw [run_mapFailure hrun] at h
    cases h

theorem resolveAnnotations_isRow {table : ClassTable} {name : String}
    {annotations : List (String × TypeExpr)} {e : Failure}
    (h : resolveAnnotations table name annotations = .error e) : e.isRow = false := by
  unfold resolveAnnotations at h
  split at h
  · cases h
  · cases h
    split <;> rfl

/-- Reading the fields of a class fails otherwise than for a row. -/
theorem declaredFields_isRow {table : ClassTable} {c : ClassRef} {e : Failure}
    (h : declaredFields table c = .error e) : e.isRow = false := by
  have hbind : ∀ {name : String} {annotations : List (String × TypeExpr)} {α : Type}
      {k : List (String × TypeExpr) → α},
      (resolveAnnotations table name annotations >>= fun found => pure (k found)) = .error e →
      e.isRow = false := by
    intro name annotations α k h
    rcases Running.bind_eq_error.mp h with h | ⟨_, -, h⟩
    · exact resolveAnnotations_isRow h
    · cases h
  unfold declaredFields at h
  split at h
  · rcases Running.bind_eq_error.mp h with h | ⟨_, -, h⟩
    · unfold plainFields at h
      split at h
      · unfold constructorFields at h
        dsimp only at h
        split at h
        all_goals
          split at h
          · cases h
          · exact hbind h
      · cases h
      · cases h
    · cases h
  · split at h
    · rcases Running.bind_eq_error.mp h with h | ⟨_, -, h⟩
      · exact hbind h
      · cases h
    · cases h
    · rcases Running.bind_eq_error.mp h with h | ⟨_, -, h⟩
      · exact hbind h
      · cases h

/-- Compiling fails otherwise than for a row. -/
theorem Compile.Raises.isRow_eq_false {table : ClassTable} {overrides : Overrides} {t : TypeExpr}
    {e : Failure} (h : Raises table overrides t e) : e.isRow = false := by
  have hschema : ∀ e : Failure, e.isSchema = true → e.isRow = false := by
    intro e he
    cases e with
    | row => cases he
    | _ => rfl
  induction h with
  | schema h => exact hschema _ h
  | unwritable => rfl
  | container h =>
    unfold containerOf at h
    split at h
    · cases h
    · next v _ =>
      split at h
      · cases hentries : Instance.entriesOf v with
        | error g =>
          rw [hentries] at h
          cases h
          rfl
        | ok entries =>
          rw [hentries] at h
          cases h
      · cases h
  | fields h => exact declaredFields_isRow h
  | field _ h =>
    cases h with
    | unhashable _ h =>
      unfold Registry.keyOf at h
      split at h
      · cases h
        rfl
      · cases h
    | unwritable => rfl
    | jammed => rfl
  | nested _ _ ih => exact ih

theorem planOf_error {c : ClassRef} {registry : String} {f : Failure} {σ σ' : Session}
    (h : (planOf c registry).run σ = (.error f, σ')) : f.isRow = false := by
  unfold planOf at h
  rw [Running.run_bind_of_ok (Running.run_get σ)] at h
  split at h
  · cases h
  · cases hr : σ.registryNamed? registry with
    | some r =>
      rw [Session.run_planFor hr] at h
      exact (Compile.raises_of_planFor (congrArg Prod.fst h)).isRow_eq_false
    | none =>
      -- There is no such registry.
      unfold Session.planFor Session.inRegistry Session.getRegistry at h
      rw [Running.run_bind_of_ok (Running.run_get σ), bind_assoc,
        Running.run_bind_of_ok (Running.run_get σ), hr] at h
      cases h
      rfl

/-- A step that fails before its conversion: a part of it fails, or the plan that it runs on the whole
row. -/
theorem breaks_of_unconverted {n : Nat} {s : DecodeStep} {row : Value} {f : Failure} {σ σ' : Session}
    (h : (unconverted (.ofDepth n) s row).run σ = (.error f, σ')) (hf : f.isRow = true) :
    (∃ culprit, Breaks (.ofDepth n) s row σ culprit f σ') ∨
      ∃ k m q σ₁, n = k + 1 ∧ s.strategy = .flatten (some m) ∧ m.Enters σ q σ₁ ∧
        (execute (.ofDepth k) q row).run σ₁ = (.error f, σ') := by
  have hcolumn : ∀ key, s.strategy.key? = some key →
      (Cell.read (.ofDepth n) key row >>= decodeRaw (.ofDepth n) s key).run σ = (.error f, σ') →
      ∃ culprit, Breaks (.ofDepth n) s row σ culprit f σ' := by
    intro key hkey h
    rcases Running.run_bind_eq_error.mp h with hread | ⟨raw, σ₁, hread, h⟩
    · exact ⟨_, .reading hkey hread⟩
    · unfold decodeRaw at h
      split at h
      · cases h
      next t ht =>
        obtain ⟨g, hg, rfl⟩ := run_mapFailure_error h
        exact ⟨_, .decoding hkey hread ht hg⟩
  unfold unconverted at h
  cases hstrategy : s.strategy with
  | byName key d | byIndex key d | thenConvert key d =>
    rw [hstrategy] at h
    exact Or.inl (hcolumn key (by rw [hstrategy]; rfl) h)
  | unknown =>
    rw [hstrategy] at h
    cases h
    cases hf
  | flatten mapper =>
    rw [hstrategy] at h
    cases mapper with
    | none =>
      cases h
      cases hf
    | some m =>
      cases n with
      | zero =>
        cases h
        cases hf
      | succ k =>
        change (m.run (.ofDepth k) row).run σ = (.error f, σ') at h
        cases m with
        | plan q => exact Or.inr ⟨k, _, q, σ, rfl, rfl, .plan q σ, h⟩
        | hook owner hook => exact Or.inl ⟨_, .mapping hstrategy rfl h⟩
        | bare hook => exact Or.inl ⟨_, .mapping hstrategy rfl h⟩
        | inherited owner registry =>
          change (planOf owner registry >>= fun q => execute (.ofDepth k) q row).run σ = _ at h
          rcases Running.run_bind_eq_error.mp h with hplan | ⟨q, σ₁, hplan, h⟩
          · exact absurd ((planOf_error hplan).symm.trans hf) Bool.false_ne_true
          · exact Or.inr ⟨k, _, q, σ₁, rfl, rfl, .inherited hplan, h⟩

/-- A step that fails for the row: its default does, or else a part of it or the plan that it runs on
the whole row, and the failure gets the name of the field. -/
theorem cases_of_runStep {n : Nat} {s : DecodeStep} {row : Value} {f : Failure} {σ σ' : Session}
    (h : (runStep (.ofDepth n) s row).run σ = (.error f, σ')) (hf : f.isRow = true) :
    (∃ g supply σ₁, (attempt (.ofDepth n) s row).run σ = (.error g, σ₁) ∧ g.isAbsence = true ∧
      s.default = some supply ∧ (Level.supply (.ofDepth n) supply).run σ₁ = (.error f, σ')) ∨
    ∃ g, f = g.named s.fieldName ∧ g.isRow = true ∧
      ((∃ culprit, Breaks (.ofDepth n) s row σ culprit g σ') ∨
        ∃ k m q σ₁, n = k + 1 ∧ s.strategy = .flatten (some m) ∧ m.Enters σ q σ₁ ∧
          (execute (.ofDepth k) q row).run σ₁ = (.error g, σ')) := by
  unfold runStep at h
  rw [Running.run_tryCatch] at h
  rcases hattempt : (attempt (.ofDepth n) s row).run σ with ⟨g | v, σ₁⟩
  · rw [hattempt] at h
    dsimp only at h
    unfold recover at h
    split at h
    next supply habsent hdefault => exact Or.inl ⟨g, supply, σ₁, rfl, habsent, hdefault, h⟩
    next =>
      cases h
      have hg : g.isRow = true := (Failure.isRow_named _ g).symm.trans hf
      refine Or.inr ⟨g, rfl, hg, ?_⟩
      rw [attempt_eq] at hattempt
      rcases Running.run_bind_eq_error.mp hattempt with hvalue | ⟨v, σ₂, hvalue, hattempt⟩
      · exact breaks_of_unconverted hvalue hg
      · unfold convertDecoded at hattempt
        split at hattempt
        · cases hattempt
        next t ht =>
          obtain ⟨g', hg', rfl⟩ := run_mapFailure_error hattempt
          exact Or.inl ⟨_, .converting hvalue ht hg'⟩
  · rw [hattempt] at h
    cases h

/-- **Every failure of the row comes about so.** The induction is on the levels: a plan that a step runs
on the whole row is run on the level below. -/
theorem fails_of_execute {n : Nat} {p : DecodePlan} {row : Value} {f : Failure} {σ σ' : Session}
    (h : (execute (.ofDepth n) p row).run σ = (.error f, σ')) (hf : f.isRow = true) :
    ∃ path culprit raw, Fails n p row σ path culprit raw σ' ∧ f = namedAlong path raw := by
  induction n using Nat.strongRecOn generalizing p row f σ σ' with
  | _ n ih =>
    unfold execute at h
    rcases Running.run_bind_eq_error.mp h with hrow | ⟨adapted, σ₁, hrow, h⟩
    · have hno := (rowOf_passing (fun _ => True) (fun _ _ => False) row).of_run hrow
        fun _ _ _ _ => trivial
      exact (hno.2 f rfl hf).elim
    · unfold executeOn at h
      rcases Running.run_bind_eq_error.mp h with hsteps | ⟨values, σ₂, hsteps, h⟩
      · obtain ⟨before, s, after, values, σ₃, hsplit, hvalues, hstep⟩ :=
          exists_of_run_mapM_error hsteps
        have hbefore : Passed (.ofDepth n) before row σ adapted values σ₃ := ⟨σ₁, hrow, hvalues⟩
        rcases cases_of_runStep hstep hf with
          ⟨g, supply, σ₄, habsent, hg, hdefault, hsupply⟩ | ⟨g, rfl, hg, hcase⟩
        · exact ⟨[], _, f, .supplying hsplit hbefore habsent hg hdefault hsupply, rfl⟩
        rcases hcase with ⟨culprit, hbreaks⟩ | ⟨k, m, q, σ₄, rfl, hm, hruns, hq⟩
        · exact ⟨[s], culprit, g, .step hsplit hbefore hbreaks, rfl⟩
        · obtain ⟨path, culprit, raw, hnested, rfl⟩ := ih k (Nat.lt_succ_self k) hq hg
          exact ⟨s :: path, culprit, raw, .nested hsplit hbefore hm hruns hnested, rfl⟩
      · exact ⟨[], _, f, .construction ⟨σ₁, hrow, hsteps⟩ h, rfl⟩

/-! ## Who made a failure -/

section

variable {H : Hook → Prop} {n : Nat} {p : DecodePlan} {row : Value} {path : List DecodeStep}
  {culprit : Culprit} {f : Failure} {σ σ' : Session}

theorem Passed.hooksIn {steps : List DecodeStep} {adapted : Value} {values : List Value}
    (h : Passed (.ofDepth n) steps row σ adapted values σ') (hσ : σ.classes.HooksIn H) :
    σ'.classes.HooksIn H := by
  obtain ⟨σ₁, hrow, hsteps⟩ := h
  have hstable := Session.stable_hooksIn H
  have hσ₁ := (rowOf_upholds hstable row).of_run hrow hσ
  exact (runSteps_upholds hstable n steps adapted).of_run hsteps hσ₁

theorem RowMapper.Enters.hooksIn {m : RowMapper} {q : DecodePlan} (h : m.Enters σ q σ')
    (hσ : σ.classes.HooksIn H) : σ'.classes.HooksIn H := by
  cases h with
  | plan => exact hσ
  | @inherited owner registry _ _ _ h =>
    exact (planOf_upholds (Session.stable_hooksIn H) owner registry).of_run h hσ

/-- The failure of a decoder stays what it is, unless it becomes a mismatch of the key. -/
theorem decodingFailure_cases (s : DecodeStep) (key : Value) (f : Failure) :
    decodingFailure s key f = f ∨ decodingFailure s key f = .fault Fault.tooLongToWrite ∨
      (Culprit.decoding s key).Makes (decodingFailure s key f) := by
  unfold decodingFailure
  split
  · exact Or.inl rfl
  · split
    · split
      · exact Or.inr (Or.inl rfl)
      · exact Or.inr (Or.inr ⟨f, rfl⟩)
    · exact Or.inl rfl

/-- The failure of a converter stays what it is, unless it becomes a failed conversion. -/
theorem conversionFailure_cases (s : DecodeStep) (f : Failure) :
    conversionFailure s f = f ∨ conversionFailure s f = .fault Fault.tooLongToWrite ∨
      (Culprit.converting s).Makes (conversionFailure s f) := by
  unfold conversionFailure
  split
  · exact Or.inl rfl
  · split
    · split
      · exact Or.inr (Or.inl rfl)
      · exact Or.inr (Or.inr ⟨f, rfl⟩)
    · exact Or.inl rfl

/-- The failure of a construction stays what it is, unless it becomes a mismatch of the target. -/
theorem constructionFailure_cases (target : TypeExpr) (f : Failure) :
    constructionFailure target f = f ∨
      constructionFailure target f = .fault Fault.tooLongToWrite ∨
      (Culprit.construction target).Makes (constructionFailure target f) := by
  unfold constructionFailure
  split
  · split
    · exact Or.inr (Or.inl rfl)
    · exact Or.inr (Or.inr ⟨_, rfl⟩)
  · exact Or.inl rfl

/-- A failure of the row is made by the part that failed, or raised by a hook of that part or of a
class. -/
def Culprit.Answers (H : Hook → Prop) (culprit : Culprit) (f : Failure) (σ' : Session) : Prop :=
  culprit.Makes f ∨ Raised (fun h => H h ∨ culprit.HasHook h) f σ'

/-- Where failures are changed, the changed one is raised like the one before or made anew. -/
theorem answers_of_cases {g : Failure} {K : Hook → Prop}
    (hcases : f = g ∨ f = .fault Fault.tooLongToWrite ∨ culprit.Makes f)
    (hf : f.isRow = true) (hraised : g.isRow = true → Raised (fun h => H h ∨ K h) g σ')
    (hK : ∀ h, K h → culprit.HasHook h) : culprit.Answers H f σ' := by
  rcases hcases with rfl | rfl | hmade
  · exact Or.inr ((hraised hf).mono fun h hh => hh.imp_right (hK h))
  · cases hf
  · exact Or.inl hmade

/-- What a part of a step fails with is made by it or raised by a hook. -/
theorem Breaks.answers {s : DecodeStep} (h : Breaks (.ofDepth n) s row σ culprit f σ')
    (hσ : σ.classes.HooksIn H) (hf : f.isRow = true) : culprit.Answers H f σ' := by
  have hl := Level.ofDepth_upkeep H n
  cases h with
  | @reading key _ _ hkey hread =>
    exact (((read_passing hl key row).of_run hread hσ).2 f rfl hf).imp_right
      fun hraised => hraised.mono fun _ => Or.inl
  | @decoding key raw t g σ₁ _ hkey hread ht hrun =>
    have hσ₁ := ((read_passing hl key row).of_run hread hσ).1
    refine answers_of_cases (decodingFailure_cases s key g) hf
      (((transform_passing hl t raw).of_run hrun hσ₁).2 g rfl) fun h hh => ⟨t, ht, hh⟩
  | @converting v t g σ₁ _ hvalue ht hrun =>
    have hσ₁ := (unconverted_upholds (Session.stable_hooksIn H) n s row).of_run hvalue hσ
    refine answers_of_cases (conversionFailure_cases s g) hf
      (((transform_passing hl t v).of_run hrun hσ₁).2 g rfl) fun h hh => ⟨t, ht, hh⟩
  | @mapping m h _ _ hm hh hrun =>
    cases n with
    | zero =>
      cases hrun
      cases hf
    | succ n =>
      -- A hook that maps the whole row is called on the level below.
      have hraised : Raised (· = h) f σ' := by
        cases m with
        | plan | inherited => cases hh
        | hook owner hook =>
          cases hh
          exact (((Level.ofDepth_upkeep H n).hook (some owner) h row).of_run hrun hσ).2 f rfl hf
        | bare hook =>
          cases hh
          exact (((Level.ofDepth_upkeep H n).hook none h row).of_run hrun hσ).2 f rfl hf
      exact Or.inr (hraised.mono fun _ heq => Or.inr ⟨m, hm, heq ▸ hh⟩)

/-- What a plan fails with is made by the part that failed or raised by a hook. -/
theorem Fails.answers (h : Fails n p row σ path culprit f σ') (hσ : σ.classes.HooksIn H)
    (hf : f.isRow = true) : culprit.Answers H f σ' := by
  induction h with
  | @construction n p row adapted values f σ σ₁ σ' hsteps hmake =>
    obtain ⟨g, hg, rfl⟩ := run_mapFailure_error hmake
    refine answers_of_cases (K := fun _ => False) (constructionFailure_cases p.target g) hf
      (fun hrow => ?_) fun _ h => h.elim
    have hmade := assembled_passing (Level.ofDepth_upkeep H n) p values
    exact ((hmade.of_run hg (hsteps.hooksIn hσ)).2 g rfl hrow).mono fun _ => Or.inl
  | step hsplit hbefore hbreaks => exact hbreaks.answers (hbefore.hooksIn hσ) hf
  | @supplying n p row adapted before after s values supply f g σ σ₁ σ₂ σ' hsplit hbefore habsent hg
      hdefault hsupply =>
    have hl := Level.ofDepth_upkeep H n
    have hσ₂ := (attempt_upholds (Session.stable_hooksIn H) n s adapted).of_run habsent
      (hbefore.hooksIn hσ)
    have hraised := ((supply_passing hl supply).of_run hsupply hσ₂).2 f rfl hf
    refine Or.inr (hraised.mono fun h hh => hh.imp_right ?_)
    rintro ⟨owner, rfl⟩
    exact ⟨owner, hdefault⟩
  | nested hsplit hbefore hm hruns hnested ih =>
    exact ih (hruns.hooksIn (hbefore.hooksIn hσ)) hf

/-! ## Plans with named fields -/

/-- The steps that were running belong to the plan or to plans that it runs; without any, making the
target failed, or a default. -/
theorem Fails.head (h : Fails n p row σ path culprit f σ') :
    (∃ s ∈ p.steps, path.head? = some s) ∨
      path = [] ∧ (culprit = .construction p.target ∨ ∃ s, culprit = .supplying s) := by
  cases h with
  | construction => exact Or.inr ⟨rfl, Or.inl rfl⟩
  | step hsplit => exact Or.inl ⟨_, by rw [hsplit]; simp, rfl⟩
  | supplying => exact Or.inr ⟨rfl, Or.inr ⟨_, rfl⟩⟩
  | nested hsplit => exact Or.inl ⟨_, by rw [hsplit]; simp, rfl⟩

/-- If the outermost step has a name, some name is filled in. -/
theorem innermostName?_isSome {s : DecodeStep} (hpath : path.head? = some s)
    (hs : s.fieldName.isSome = true) : (innermostName? path).isSome = true := by
  unfold innermostName?
  rw [List.findSome?_isSome_iff]
  exact ⟨s, List.mem_reverse.mpr (List.mem_of_mem_head? hpath), hs⟩

/-- All fields have names, unless the target is a tuple type. -/
theorem introspect_named {table : ClassTable} {target : TypeExpr} {schema : Schema}
    (h : introspect table target = .ok schema) (halias : target.isTupleAlias = false)
    {field : FieldSchema} (hfield : field ∈ schema.fields) : field.name.isSome = true := by
  have hmem : field.name ∈ table.declaredNames target := by
    rw [← (introspect_ordered h).names]
    exact List.mem_map_of_mem hfield
  unfold ClassTable.declaredNames at hmem
  split at hmem
  · obtain ⟨name, -, hname⟩ := List.mem_map.mp hmem
    rw [← hname]
    rfl
  · obtain ⟨name, -, hname⟩ := List.mem_map.mp hmem
    rw [← hname]
    rfl
  · unfold TypeExpr.items at hmem
    split at hmem
    · cases halias
    · cases hmem

/-- The step that a part belongs to, if it takes the names of the steps that are running. -/
def Culprit.step? : Culprit → Option DecodeStep
  | reading s _ | decoding s _ | converting s | mapping s => some s
  | construction _ | supplying _ => none

/-- The part that failed belongs to the innermost of the steps that are running. -/
theorem Fails.innermost (h : Fails n p row σ path culprit f σ') {s : DecodeStep}
    (hs : culprit.step? = some s) : path.getLast? = some s := by
  induction h with
  | construction | supplying => cases hs
  | step _ _ hbreaks =>
    cases hbreaks with
    | reading | decoding | converting | mapping =>
      cases hs
      rfl
  | nested _ _ _ _ _ ih => rw [List.getLast?_cons, ih hs]; rfl

/-- What is decoded stands under the key of the step. -/
theorem Fails.decoding_key (h : Fails n p row σ path culprit f σ') {s : DecodeStep} {key : Value}
    (hculprit : culprit = .decoding s key) : s.strategy.key? = some key := by
  induction h with
  | construction | supplying => cases hculprit
  | step _ _ hbreaks =>
    cases hbreaks with
    | reading | converting | mapping => cases hculprit
    | decoding hkey =>
      cases hculprit
      exact hkey
  | nested _ _ _ _ _ ih => exact ih hculprit

/-- A failed conversion is made by a converter. -/
theorem Culprit.Makes.of_conversion {source target detail : Value} {field : Option String}
    {cause : Option Failure} (h : culprit.Makes (.row (.conversion source target detail) field cause)) :
    ∃ s, culprit = .converting s ∧ source = .text s.sourceType.describe ∧
      target = .text s.fieldType.describe := by
  cases culprit with
  | construction | decoding =>
    obtain ⟨g, hg⟩ := h
    cases hg
  | reading => cases h
  | converting s =>
    obtain ⟨g, hg⟩ := h
    cases hg
    exact ⟨s, rfl, rfl, rfl⟩
  | mapping | supplying => exact h.elim

/-- A mismatch with a column is made by the decoding of that column. -/
theorem Culprit.Makes.of_mismatch {column expected detail : Value} {field : Option String}
    {cause : Option Failure} (h : culprit.Makes (.row (.mismatch column expected detail) field cause))
    (hcolumn : column ≠ .none) : ∃ s, culprit = .decoding s column := by
  cases culprit with
  | construction =>
    obtain ⟨g, hg⟩ := h
    cases hg
    exact absurd rfl hcolumn
  | converting =>
    obtain ⟨g, hg⟩ := h
    cases hg
  | reading => cases h
  | decoding s key =>
    obtain ⟨g, hg⟩ := h
    cases hg
    exact ⟨s, rfl⟩
  | mapping | supplying => exact h.elim

theorem Culprit.Makes.unnamed {problem : RowProblem} {field : Option String} {cause : Option Failure}
    (h : culprit.Makes (.row problem field cause)) : field = none := by
  cases culprit with
  | construction | decoding | converting =>
    obtain ⟨g, hg⟩ := h
    cases hg
    rfl
  | reading =>
    cases h
    rfl
  | mapping | supplying => exact h.elim

end

section

variable {table : ClassTable} {name : String} {config : RegistryConfig} {calls : List Call}
  {overrides : Overrides} {size : Nat} {p : DecodePlan}

/-- The steps of a plan that is handed out have names, unless its target is a tuple type. -/
theorem HandsOut.steps_named
    (handed : HandsOut table (Call.runAll table calls (Registry.create name config)) overrides size
      p) (halias : p.target.isTupleAlias = false) {s : DecodeStep} (hs : s ∈ p.steps) :
    s.fieldName.isSome = true := by
  obtain ⟨fuel, building, hbuilt, -⟩ :=
    handed.built (Call.runAll_cached calls (create_cached table name config))
  obtain ⟨schema, container, compiled, mark, hschema, -, hall, hp⟩ :=
    Compile.buildWith_compiled hbuilt
  have hsteps : p.steps = compiled.map (·.1) := by rw [hp]; rfl
  obtain ⟨c, hc, rfl⟩ := List.mem_map.mp (hsteps ▸ hs)
  obtain ⟨i, hi⟩ := List.getElem?_of_mem hc
  obtain ⟨f, hf, d, -, hmirrors, -⟩ := Compile.getElem?_of_forall₂ hall.flip hi
  rw [hmirrors.fieldName]
  exact introspect_named hschema halias (List.mem_of_getElem? hf)

/-- **Where a failure of the row comes from.** Take a plan that a registry hands out, whose target is
no tuple type, and a row for which it fails. On each level all steps before the one that was running
have given values. The failure keeps the problem and the cause that it had where it came about, also
where a converter stands on its way, and its field is the one that a hook named, or else that of the
innermost step that was running and has a name. It has no field only if no step was running: the
outermost target could not be made, or a default failed. Unless a hook raised it, the part that failed
made it: a failed conversion comes from the converter of the innermost step and tells the types of
that step, and a mismatch with a column from decoding that very column. -/
theorem execute_provenance
    (handed : HandsOut table (Call.runAll table calls (Registry.create name config)) overrides size
      p)
    (halias : p.target.isTupleAlias = false) {n : Nat} {row : Value} {problem : RowProblem}
    {field : Option String} {cause : Option Failure} {σ σ' : Session}
    (hrun : (execute (.ofDepth n) p row).run σ = (.error (.row problem field cause), σ')) :
    ∃ path culprit given,
      Fails n p row σ path culprit (.row problem given cause) σ' ∧
      field = given.or (innermostName? path) ∧
      (field = none →
        path = [] ∧ (culprit = .construction p.target ∨ ∃ s, culprit = .supplying s)) ∧
      (Raised (fun h => σ.classes.HasHook h ∨ culprit.HasHook h) (.row problem given cause) σ' ∨
        given = none ∧ culprit.Makes (.row problem none cause) ∧
          (∀ source target detail, problem = .conversion source target detail →
            ∃ s, path.getLast? = some s ∧ culprit = .converting s ∧
              source = .text s.sourceType.describe ∧ target = .text s.fieldType.describe) ∧
          (∀ column expected detail, problem = .mismatch column expected detail → column ≠ .none →
            ∃ s, path.getLast? = some s ∧ culprit = .decoding s column ∧
              s.strategy.key? = some column)) := by
  obtain ⟨path, culprit, raw, hfails, hraw⟩ := fails_of_execute hrun rfl
  obtain ⟨given, rfl⟩ : ∃ given, raw = .row problem given cause := by
    have hrow : raw.isRow = true := by rw [← isRow_namedAlong path raw, ← hraw]; rfl
    cases raw with
    | row problem' given cause' =>
      rw [namedAlong_row] at hraw
      cases hraw
      exact ⟨given, rfl⟩
    | _ => cases hrow
  rw [namedAlong_row] at hraw
  obtain ⟨-, hfield, -⟩ := Failure.row.inj hraw
  refine ⟨path, culprit, given, hfails, hfield, fun hnone => ?_, ?_⟩
  · rcases hfails.head with ⟨s, hs, hpath⟩ | hhead
    · have hname := innermostName?_isSome hpath (handed.steps_named halias hs)
      rw [hnone] at hfield
      cases given with
      | none =>
        rw [Option.none_or] at hfield
        rw [← hfield] at hname
        cases hname
      | some => cases hfield
    · exact hhead
  · rcases hfails.answers (H := σ.classes.HasHook) (fun info hinfo h hh => ⟨info, hinfo, hh⟩) rfl
      with hmade | hraised
    · obtain rfl := hmade.unnamed
      refine Or.inr ⟨rfl, hmade, ?_, ?_⟩
      · rintro source target detail rfl
        obtain ⟨s, rfl, hsource, htarget⟩ := hmade.of_conversion
        exact ⟨s, hfails.innermost rfl, rfl, hsource, htarget⟩
      · rintro column expected detail rfl hcolumn
        obtain ⟨s, rfl⟩ := hmade.of_mismatch hcolumn
        exact ⟨s, hfails.innermost rfl, rfl, hfails.decoding_key rfl⟩
    · exact Or.inl hraised

end

/-! ## A failure within a flattened field -/

namespace Nested

/-- A class with a number. -/
def inner : ClassRef := ⟨"Inner", 1, .dataclass .none⟩

/-- A class with a text, and an `inner` that is made from the same row. -/
def outer : ClassRef := ⟨"Outer", 2, .dataclass .none⟩

/-- Declares both classes. -/
def declare : Run Unit := do
  Derive.declare (.dataclass "Inner" none [.given "n" (.builtin .int)]) none
  Derive.declare (.dataclass "Outer" none
    [.given "a" (.builtin .str),
      .given "point" (.annotated (.declared inner) [.marker [("flatten", .bool true)]])]) none

def session : Session :=
  (declare.run (Session.create [])).2

def registry : Registry :=
  Call.runAll session.classes [] (Registry.create Session.standardRegistry .standard)

/-- A row whose number is none. -/
def row : Value :=
  .dict [(.text "a", .text "x"), (.text "n", .text "one")]

/-- The name of the field that a run fails for. -/
def failsFor? (p : DecodePlan) : Option String :=
  match ((execute (.ofDepth 4) p row).run session).1 with
  | .error (.row _ field _) => field
  | _ => none

/-- The failure of the row has the name of the nested field, and it comes about as described. -/
theorem execute_provenance_nested : ∃ p problem cause σ',
    HandsOut session.classes registry Overrides.none session.classes.classes.length p ∧
      p.target.isTupleAlias = false ∧
      (execute (.ofDepth 4) p row).run session = (.error (.row problem (some "n") cause), σ') ∧
      ∃ path culprit given, Fails 4 p row session path culprit (.row problem given cause) σ' ∧
        some "n" = given.or (innermostName? path) := by
  have hcheck : (((Compile.planFor session.classes (.declared outer)).run registry).1.toOption.any
      fun p => !p.target.isTupleAlias && failsFor? p == some "n") = true := by
    decide +kernel
  obtain ⟨p, r', hrun, htest⟩ := Running.exists_of_test hcheck
  rw [Bool.and_eq_true, Bool.not_eq_true', beq_iff_eq] at htest
  obtain ⟨halias, hfails⟩ := htest
  unfold failsFor? at hfails
  rcases hexecute : (execute (.ofDepth 4) p row).run session with ⟨f | v, σ'⟩
  · rw [hexecute] at hfails
    cases f with
    | row problem field cause =>
      cases hfails
      obtain ⟨path, culprit, given, h, hname, -⟩ :=
        execute_provenance (.ofClass hrun) halias hexecute
      exact ⟨p, problem, cause, σ', .ofClass hrun, halias, hexecute, path, culprit, given, h,
        hname⟩
    | _ => cases hfails
  · rw [hexecute] at hfails
    cases hfails

end Nested

end RowDecoding
