import RowDecoding.Proofs.Assembling
import RowDecoding.Proofs.Decoding
import RowDecoding.Proofs.Mirroring
import RowDecoding.Proofs.Nesting
import RowDecoding.Proofs.Writable

/-!
# What escapes

A plan that uses built-in decoders, converters and defaults only is meant to give a value for every
row or to fail with a failure of the row: an absent column, a mismatch or a failed conversion. This
file finds the failures that escape instead. A step has three places where one can come from
(`Escapes`):

* its decoder, on a value that overwhelms it,
* its converter, on a value that outruns it,
* its own position, if it is absent and too long to be written into the failure.

`runStep_escapes_iff` says so for a step. A run ends with the first failure, and making the target
does not fail, so a plan fails otherwise than for its row just if the first step that fails at all
does (`execute_escapes_iff`).
-/

namespace RowDecoding

/-! ## Failures of the row -/

/-- The failures of a row that are raised without a hook. -/
def Failure.isDecoding : Failure → Bool
  | .row (.absent _) _ _ | .row (.mismatch ..) _ _ | .row (.conversion ..) _ _ => true
  | _ => false

theorem Failure.named_isDecoding (name : Option String) (f : Failure) :
    (f.named name).isDecoding = f.isDecoding := by
  rcases f with ⟨problem, field, cause⟩ | _ | _ | _ | _
  · cases field <;> cases problem <;> rfl
  all_goals rfl

/-- What says that a column is absent is a failure of the row, unless the column is too long to be
written. -/
theorem Failure.absent_cases (key : Value) :
    (key.isUnwritable = true ∧ Failure.absent key = .fault Fault.tooLongToWrite) ∨
      Failure.absent key = .row (.absent key) none none := by
  unfold Failure.absent
  split
  next h => exact Or.inl ⟨h, rfl⟩
  next => exact Or.inr rfl

section

variable {s : DecodeStep} {key : Value}

theorem decodingFailure_misfit {f : Fault} (hs : s.sourceType.isUnwritable = false)
    (h : f.isMisfit = true) :
    decodingFailure s key f = .row (.mismatch key (.text s.sourceType.describe)
      (.text (Failure.fault f).message)) none (some f) := by
  have htest : (Failure.isValue f || Failure.isType f) = true := by
    rw [Bool.or_comm]
    exact h
  unfold decodingFailure
  rw [if_neg (by exact Bool.false_ne_true), if_pos htest,
    if_neg (by rw [hs]; exact Bool.false_ne_true)]

theorem decodingFailure_other {f : Fault} (h : f.isMisfit = false) :
    decodingFailure s key f = .fault f := by
  have htest : (Failure.isValue f || Failure.isType f) = false := by
    rw [Bool.or_comm]
    exact h
  unfold decodingFailure
  rw [if_neg (by exact Bool.false_ne_true), if_neg (by rw [htest]; exact Bool.false_ne_true)]

theorem conversionFailure_computing {f : Fault} (hs : s.sourceType.isUnwritable = false)
    (ht : s.fieldType.isUnwritable = false) (h : f.isComputing = true) :
    conversionFailure s f = .row (.conversion (.text s.sourceType.describe)
      (.text s.fieldType.describe) (.text (Failure.fault f).message)) none (some f) := by
  have htest : (Failure.isValue f || Failure.isType f || Failure.isArithmetic f) = true := by
    rw [Bool.or_comm (Failure.isValue f)]
    exact h
  unfold conversionFailure
  rw [if_neg (by exact Bool.false_ne_true), if_pos htest,
    if_neg (by rw [hs, ht]; exact Bool.false_ne_true)]

theorem conversionFailure_other {f : Fault} (h : f.isComputing = false) :
    conversionFailure s f = .fault f := by
  have htest : (Failure.isValue f || Failure.isType f || Failure.isArithmetic f) = false := by
    rw [Bool.or_comm (Failure.isValue f)]
    exact h
  unfold conversionFailure
  rw [if_neg (by exact Bool.false_ne_true), if_neg (by rw [htest]; exact Bool.false_ne_true)]

theorem decodingFailure_isAbsence (f : Fault) :
    (decodingFailure s key (.fault f)).isAbsence = false := by
  unfold decodingFailure
  repeat' split
  all_goals rfl

theorem conversionFailure_isAbsence (f : Fault) :
    (conversionFailure s (.fault f)).isAbsence = false := by
  unfold conversionFailure
  repeat' split
  all_goals rfl

end

/-! ## Running built-in transforms -/

/-- Whether a transform runs no hook and checks no structure. -/
def Transform.isBuiltin : Transform → Bool
  | .hook .. | .validate .. => false
  | .nullable inner => inner.isBuiltin
  | _ => true

theorem Transform.isBuiltin_of_decodes {d : Transform} {t : TypeExpr} (h : d.decodes t = true) :
    d.isBuiltin = true := by
  induction d generalizing t with
  | nullable inner ih =>
    unfold decodes at h
    split at h
    next u _ => exact ih h
    next => cases h
  | hook | validate => cases h
  | _ => rfl

theorem Transform.isBuiltin_of_converts {c : Transform} {source target : TypeExpr}
    (h : c.converts source target = true) : c.isBuiltin = true := by
  induction c generalizing target with
  | nullable inner ih =>
    unfold converts at h
    split at h
    next u _ => exact ih h
    next => cases h
  | hook | validate => cases source <;> cases target <;> cases h
  | _ => rfl

theorem run_lift {α ε : Type} [Cause ε] (e : Except ε α) (σ : Session) :
    (Run.lift e).run σ = (e.mapError Cause.failure, σ) := by
  cases e <;> rfl

/-- A built-in transform gives its result, and the session stays as it is. -/
theorem Transform.run_builtin {t : Transform} (ht : t.isBuiltin = true) (l : Level) (v : Value)
    (σ : Session) : (t.run l v).run σ = ((t.result σ.classes v).mapError .fault, σ) := by
  induction t generalizing v with
  | nullable inner ih =>
    by_cases hv : v = .none
    · subst hv
      rfl
    · have hrun : (nullable inner).run l v = inner.run l v := by
        cases v <;> first | rfl | exact absurd rfl hv
      rw [hrun, Transform.result_nullable hv]
      exact ih ht v
  | hook | validate => cases ht
  | passthrough => rfl
  | decode s => exact run_lift (s.decode v) σ
  | decodeBool fromInt => exact run_lift (RowDecoding.decodeBool fromInt v) σ
  | convert c => exact run_lift (c.apply v) σ
  | member c =>
    have hrun : (member c).run l v =
        (do Run.lift (Instance.asMember (← get).classes c v)) := rfl
    rw [hrun, Running.run_bind_of_ok (Running.run_get σ)]
    exact run_lift _ σ

theorem run_mapFailure {α : Type} {m : Run α} {change : Failure → Failure} {e : Except Failure α}
    {σ σ' : Session} (h : m.run σ = (e, σ')) :
    (m.mapFailure change).run σ = (e.mapError change, σ') := by
  rw [Run.mapFailure, Running.run_tryCatch, h]
  cases e <;> rfl

/-! ## Using a cell -/

/-- An outcome fails otherwise than for its row by the faults with a property, and by nothing else.
-/
def EscapesBy {α : Type} (P : Fault → Prop) (e : Except Failure α) : Prop :=
  ∀ f, (e = .error f ∧ f.isDecoding = false) ↔ ∃ g, f = .fault g ∧ P g

theorem EscapesBy.congr {α : Type} {P Q : Fault → Prop} {e : Except Failure α}
    (h : EscapesBy P e) (hiff : ∀ g, P g ↔ Q g) : EscapesBy Q e := by
  intro f
  rw [h f]
  exact exists_congr fun g => and_congr_right fun _ => hiff g

/-- A value escapes by nothing. -/
theorem EscapesBy.ok {α : Type} {P : Fault → Prop} {a : α} (hno : ∀ g, ¬P g) :
    EscapesBy P (.ok a) := by
  intro f
  refine ⟨fun h => (nomatch h.1), ?_⟩
  rintro ⟨g, -, hg⟩
  exact absurd hg (hno g)

/-- Whether a step decodes, converts and defaults by what is built in for its types. -/
def Step.usesBuiltins {M : Type} (s : Step M) : Bool :=
  s.strategy.decoder?.any (·.decodes s.sourceType) &&
    s.converter.all (·.converts s.sourceType s.fieldType) && s.default.all Supply.isBuiltin

section

variable {s : DecodeStep} {key raw : Value} {σ : Session} {d : Transform}

theorem usesBuiltins_spec (h : s.usesBuiltins = true) :
    (∃ d, s.strategy.decoder? = some d ∧ d.decodes s.sourceType = true) ∧
      (∀ c, s.converter = some c → c.converts s.sourceType s.fieldType = true) ∧
      ∀ supply, s.default = some supply → supply.isBuiltin = true := by
  unfold Step.usesBuiltins at h
  rw [Bool.and_eq_true, Bool.and_eq_true, Option.any_eq_true, Option.all_eq_true,
    Option.all_eq_true] at h
  exact ⟨h.1.1, h.1.2, h.2⟩

/-- What decodes a column reads one. -/
theorem Strategy.key_of_decoder {M : Type} {strategy : Strategy M} {d : Transform}
    (h : strategy.decoder? = some d) : ∃ key, strategy.key? = some key := by
  cases strategy with
  | byName key | byIndex key | thenConvert key => exact ⟨key, rfl⟩
  | flatten | unknown => cases h

/-- A whole number is decoded as one. -/
theorem result_of_whole {table : ClassTable} (hd : d.decodes (.builtin .int) = true) {n : Int}
    (hraw : raw.asInt? = some n) (hbool : raw.isBool = false) : d.result table raw = .ok raw := by
  cases d with
  | decode k =>
    obtain hk : k.builtin = .int := by simpa [Transform.decodes] using hd
    have hholds : Scalar.holds .int raw = true := by
      show (raw.asInt?.isSome && !raw.isBool) = true
      rw [hraw, hbool]
      rfl
    cases k <;> first | exact Scalar.decode_of_holds hholds | cases hk
  | decodeBool fromInt => cases hd
  | _ => cases hd

/-- What the use of a cell escapes with: what its decoder is overwhelmed by, or what its converter is
outrun by. -/
def Strays (table : ClassTable) (s : DecodeStep) (raw : Value) (f : Fault) : Prop :=
  Overwhelms table s.sourceType raw f ∨
    (s.converter.isSome = true ∧ Outruns s.sourceType s.fieldType raw f)

/-- Naming the field of a failure changes nothing of that. -/
theorem EscapesBy.named {α : Type} {P : Fault → Prop} {f : Failure}
    (h : EscapesBy P (.error f : Except Failure α)) (name : Option String) :
    EscapesBy P (.error (f.named name) : Except Failure α) := by
  intro f'
  constructor
  · rintro ⟨hf, hdecoding⟩
    cases hf
    rw [Failure.named_isDecoding] at hdecoding
    obtain ⟨g, rfl, hg⟩ := (h f).mp ⟨rfl, hdecoding⟩
    exact ⟨g, rfl, hg⟩
  · rintro ⟨g, rfl, hg⟩
    obtain ⟨hf, -⟩ := (h (.fault g)).mpr ⟨g, rfl, hg⟩
    cases hf
    exact ⟨rfl, rfl⟩

/-- A transform whose faults are caught by a test, where the others escape. -/
theorem escapesBy_of_faults {e : Except Fault Value} {test : Fault → Bool}
    {change : Failure → Failure} {P : Fault → Prop}
    (hiff : ∀ g, (e = .error g ∧ test g = false) ↔ P g)
    (hcaught : ∀ g, e = .error g → test g = true → (change (.fault g)).isDecoding = true)
    (hother : ∀ g, test g = false → change (.fault g) = .fault g) :
    EscapesBy P ((e.mapError Failure.fault).mapError change) := by
  cases e with
  | ok v => exact .ok fun g hg => (nomatch ((hiff g).mpr hg).1)
  | error g =>
    intro f
    constructor
    · rintro ⟨hf, hdecoding⟩
      obtain rfl : change (.fault g) = f := Except.error.inj hf
      cases htest : test g with
      | true =>
        rw [hcaught g rfl htest] at hdecoding
        cases hdecoding
      | false => exact ⟨g, hother g htest, (hiff g).mp ⟨rfl, htest⟩⟩
    · rintro ⟨g', rfl, hg'⟩
      obtain ⟨hg, htest⟩ := (hiff g').mpr hg'
      cases hg
      refine ⟨?_, rfl⟩
      show Except.error (change (.fault g)) = _
      rw [hother g htest]

theorem not_isAbsence_of_faults {e : Except Fault Value} {change : Failure → Failure}
    (h : ∀ g, (change (.fault g)).isAbsence = false) {f : Failure}
    (hf : (e.mapError Failure.fault).mapError change = .error f) : f.isAbsence = false := by
  cases e with
  | ok v => cases hf
  | error g =>
    obtain rfl : change (.fault g) = f := Except.error.inj hf
    exact h g

/-- The use of a cell leaves the session as it is, and escapes by what makes it stray. -/
theorem run_useCell (hs : s.usesBuiltins = true) (l : Level) (key raw : Value) (σ : Session) :
    ∃ e, (useCell l s key raw).run σ = (e, σ) ∧ EscapesBy (Strays σ.classes s raw) e ∧
      ∀ f, e = .error f → f.isAbsence = false := by
  obtain ⟨⟨d, hdecoder, hd⟩, hconverter, -⟩ := usesBuiltins_spec hs
  have hdecode : (decodeRaw l s key raw).run σ =
      (((d.result σ.classes raw).mapError .fault).mapError (decodingFailure s key), σ) := by
    unfold decodeRaw
    rw [hdecoder]
    exact run_mapFailure (Transform.run_builtin (Transform.isBuiltin_of_decodes hd) l raw σ)
  have hwritable : s.sourceType.isUnwritable = false :=
    TypeExpr.isUnwritable_of_core (Transform.isClass_core_of_decodes hd)
  unfold useCell
  cases hresult : d.result σ.classes raw with
  | error g =>
    -- What is not decoded outruns no converter.
    have hno : ∀ g, ¬(s.converter.isSome = true ∧ Outruns s.sourceType s.fieldType raw g) := by
      rintro g ⟨-, hsource, -, hraw, hbool, -⟩
      rw [hsource] at hd
      rw [result_of_whole hd hraw hbool] at hresult
      cases hresult
    have hescapes : EscapesBy (Overwhelms σ.classes s.sourceType raw)
        (((d.result σ.classes raw).mapError .fault).mapError (decodingFailure s key)) :=
      escapesBy_of_faults (fun g => result_misfit_iff hd)
        (fun g _ hg => by rw [decodingFailure_misfit hwritable hg]; rfl)
        fun g => decodingFailure_other
    rw [hresult] at hescapes hdecode
    refine ⟨.error (decodingFailure s key (.fault g)), Running.run_bind_of_error hdecode,
      hescapes.congr fun g => (or_iff_left (hno g)).symm, ?_⟩
    rintro f hf
    cases hf
    exact decodingFailure_isAbsence g
  | ok w =>
    have hno : ∀ g, ¬Overwhelms σ.classes s.sourceType raw g := by
      intro g hg
      obtain ⟨herror, -⟩ := (result_misfit_iff hd).mpr hg
      rw [hresult] at herror
      cases herror
    rw [Running.run_bind_of_ok (hdecode.trans (by rw [hresult]; rfl))]
    unfold convertDecoded
    cases hc : s.converter with
    | none =>
      refine ⟨.ok w, rfl, .ok ?_, fun f hf => (nomatch hf)⟩
      rintro g (hg | ⟨hsome, -⟩)
      · exact hno g hg
      · rw [hc] at hsome
        cases hsome
    | some c =>
      have hconverts := hconverter c hc
      have hconvert : ((c.run l w).mapFailure (conversionFailure s)).run σ =
          (((c.result σ.classes w).mapError .fault).mapError (conversionFailure s), σ) :=
        run_mapFailure (Transform.run_builtin (Transform.isBuiltin_of_converts hconverts) l w σ)
      have hescapes : EscapesBy (Outruns s.sourceType s.fieldType raw)
          (((c.result σ.classes w).mapError .fault).mapError (conversionFailure s)) :=
        escapesBy_of_faults (fun g => result_computing_iff hd hresult hconverts)
          (fun g hfails hg => by
            rw [conversionFailure_computing hwritable (TypeExpr.isUnwritable_of_core
              (Transform.isClass_core_of_converts hconverts hfails)) hg]
            rfl)
          fun g => conversionFailure_other
      refine ⟨_, hconvert, hescapes.congr fun g => ?_, fun f hf => ?_⟩
      · unfold Strays
        rw [hc, or_iff_right (hno g)]
        exact (and_iff_right rfl).symm
      · exact not_isAbsence_of_faults (fun g => conversionFailure_isAbsence g) hf

end

/-! ## Steps -/

namespace Row

/-- Rows of cells under keys, and rows of cells in order. -/
inductive IsAdapted : Value → Prop
  | mapping (columns cells : List Value) : IsAdapted (.row .mapping columns cells)
  | sequence (columns cells : List Value) : IsAdapted (.row .sequence columns cells)

theorem isBelow_int (count : Nat) (n : Int) : ∃ b, isBelow count (.int n) = .ok b := by
  unfold isBelow Value.magnitude?
  dsimp only [Value.content, Value.asInt?, Option.map]
  cases Number.Magnitude.ofInt n <;> exact ⟨_, rfl⟩

/-- Such a row has a cell under the name or the position that a plan reads, or says that it is
absent. -/
theorem cell_cases {row key : Value} (hrow : IsAdapted row)
    (hkey : (∃ name, key = .text name) ∨ ∃ n, key = .int n) :
    (∃ raw, cell key row = .ok raw) ∨ cell key row = .error (Failure.absent key) := by
  have hfound : ∀ cell?, (∃ raw, found key cell? = .ok raw) ∨
      found key cell? = .error (Failure.absent key) := by
    rintro (_ | raw)
    · exact Or.inr rfl
    · exact Or.inl ⟨raw, rfl⟩
  rcases hkey with ⟨name, rfl⟩ | ⟨n, rfl⟩
  · cases hrow <;> exact hfound _
  · cases hrow with
    | mapping columns cells | sequence columns cells =>
      obtain ⟨b, hb⟩ := isBelow_int cells.length n
      unfold cell cellAt
      dsimp only [Value.asInt?]
      rw [hb]
      cases b with
      | false => exact Or.inr rfl
      | true => exact hfound _

end Row

section

variable {s : DecodeStep} {cells key : Value} {σ : Session}

/-- How a step with built-in transforms fails otherwise than for its row. -/
inductive Escapes (table : ClassTable) (s : DecodeStep) (cells : Value) : Fault → Prop
  /-- The value of its column overwhelms its decoder. -/
  | decoder {key raw : Value} {f : Fault} (hkey : s.strategy.key? = some key)
    (hcell : Row.cell key cells = .ok raw) (h : Overwhelms table s.sourceType raw f) :
    Escapes table s cells f
  /-- The value of its column outruns its converter. -/
  | converter {key raw : Value} {f : Fault} (hkey : s.strategy.key? = some key)
    (hcell : Row.cell key cells = .ok raw) (hsome : s.converter.isSome = true)
    (h : Outruns s.sourceType s.fieldType raw f) : Escapes table s cells f
  /-- The row has nothing at its position, which is too long to be written into a failure. -/
  | position {key : Value} (hkey : s.strategy.key? = some key) (hlong : key.isUnwritable = true)
    (hcell : Row.cell key cells = .error (.fault Fault.tooLongToWrite)) :
    Escapes table s cells Fault.tooLongToWrite

/-- Where a column is there, a step escapes by what makes it stray. -/
theorem escapes_of_cell (table : ClassTable) {raw : Value} {f : Fault}
    (hkey : s.strategy.key? = some key) (hcell : Row.cell key cells = .ok raw) :
    Escapes table s cells f ↔ Strays table s raw f := by
  constructor
  · rintro (⟨hkey', hcell', h⟩ | ⟨hkey', hcell', hsome, h⟩ | ⟨hkey', -, hcell'⟩)
    all_goals
      cases hkey.symm.trans hkey'
      cases hcell.symm.trans hcell'
    · exact Or.inl h
    · exact Or.inr ⟨hsome, h⟩
  · rintro (h | ⟨hsome, h⟩)
    · exact .decoder hkey hcell h
    · exact .converter hkey hcell hsome h

/-- Where a column is absent, a step escapes if that cannot even be said. -/
theorem escapes_of_absent (table : ClassTable) {failure : Failure} {f : Fault}
    (hkey : s.strategy.key? = some key) (hcell : Row.cell key cells = .error failure)
    (h : Escapes table s cells f) :
    failure = .fault Fault.tooLongToWrite ∧ f = Fault.tooLongToWrite := by
  rcases h with ⟨hkey', hcell', -⟩ | ⟨hkey', hcell', -, -⟩ | ⟨hkey', -, hcell'⟩
  all_goals
    cases hkey.symm.trans hkey'
    cases hcell.symm.trans hcell'
  exact ⟨rfl, rfl⟩

/-- **What escapes a step.** A step with built-in transforms leaves the session as it is. -/
theorem run_runStep (hs : s.usesBuiltins = true) (hkey : s.strategy.key? = some key)
    (htext : (∃ name, key = .text name) ∨ ∃ n, key = .int n) (hcells : Row.IsAdapted cells)
    (l : Level) (σ : Session) :
    ∃ e, (runStep l.above s cells).run σ = (e, σ) ∧ EscapesBy (Escapes σ.classes s cells) e := by
  have hread : (Cell.read l.above key cells).run σ = (Row.cell key cells, σ) := by
    have hlift : Cell.read l.above key cells = Run.lift (Row.cell key cells) := by
      cases hcells <;> rfl
    rw [hlift, run_lift]
    cases Row.cell key cells <;> rfl
  rw [runStep_direct hkey, hread]
  rcases Row.cell_cases hcells htext with ⟨raw, hcell⟩ | hcell
  · rw [hcell]
    dsimp only
    obtain ⟨e, huse, hescapes, hpresent⟩ := run_useCell hs l.above key raw σ
    rw [huse]
    have hescapes := hescapes.congr fun g => (escapes_of_cell σ.classes hkey hcell).symm
    cases e with
    | ok v => exact ⟨.ok v, rfl, hescapes⟩
    | error f =>
      dsimp only
      rw [run_recover_error (Or.inl (hpresent f rfl))]
      exact ⟨_, rfl, hescapes.named s.fieldName⟩
  · rw [hcell]
    dsimp only
    rcases Failure.absent_cases key with ⟨hlong, habsent⟩ | habsent
    · rw [habsent] at hcell ⊢
      rw [run_recover_error (Or.inl rfl)]
      refine ⟨_, rfl, fun f => ⟨?_, ?_⟩⟩
      · rintro ⟨hf, -⟩
        cases hf
        exact ⟨_, rfl, .position hkey hlong hcell⟩
      · rintro ⟨g, rfl, hg⟩
        rw [(escapes_of_absent σ.classes hkey hcell hg).2]
        exact ⟨rfl, rfl⟩
    · rw [habsent] at hcell ⊢
      have hno : ∀ g, ¬Escapes σ.classes s cells g := by
        intro g hg
        cases (escapes_of_absent σ.classes hkey hcell hg).1
      rw [run_recover]
      cases hdefault : s.default with
      | none =>
        refine ⟨_, rfl, fun f => ⟨?_, ?_⟩⟩
        · rintro ⟨hf, hdecoding⟩
          cases hf
          cases hdecoding
        · rintro ⟨g, -, hg⟩
          exact absurd hg (hno g)
      | some supply =>
        obtain ⟨v, hv⟩ := run_supply ((usesBuiltins_spec hs).2.2 supply hdefault) l σ
        exact ⟨.ok v, hv, .ok hno⟩

end

/-! ## Runs -/

/-- The first of several computations that fails, those before it giving values. -/
def FailsFirst {α β : Type} (f : α → Run β) (σ : Session) (l : List α) (a : α)
    (failure : Failure) : Prop :=
  ∃ before after, l = before ++ a :: after ∧
    (∀ b ∈ before, ∃ v, ((f b).run σ).1 = .ok v) ∧ ((f a).run σ).1 = .error failure

/-- Computations in turn that leave the session as it is do so together. They fail as the first one
that fails at all, and give one value each otherwise. -/
theorem run_mapM {α β : Type} {f : α → Run β} {σ : Session} {l : List α}
    (hkeeps : ∀ a ∈ l, ((f a).run σ).2 = σ) :
    ∃ e, (l.mapM f).run σ = (e, σ) ∧ (∀ values, e = .ok values → values.length = l.length) ∧
      ∀ failure, e = .error failure ↔ ∃ a, FailsFirst f σ l a failure := by
  induction l with
  | nil =>
    refine ⟨.ok [], rfl, fun values h => ?_, fun failure => ⟨fun h => (nomatch h), ?_⟩⟩
    · cases h
      rfl
    · rintro ⟨a, before, after, hl, -⟩
      cases before <;> cases hl
  | cons a l ih =>
    obtain ⟨e, hrest, hlength, hfirst⟩ := ih fun b hb => hkeeps b (List.mem_cons_of_mem _ hb)
    have ha := hkeeps a (List.mem_cons_self ..)
    rw [List.mapM_cons]
    rcases hrun : (f a).run σ with ⟨failure | v, σ'⟩
    · rw [hrun] at ha
      obtain rfl : σ' = σ := ha
      refine ⟨.error failure, Running.run_bind_of_error hrun, fun _ h => (nomatch h), ?_⟩
      intro failure'
      constructor
      · intro h
        cases h
        exact ⟨a, [], l, rfl, fun b hb => (nomatch hb), by rw [hrun]⟩
      · rintro ⟨b, before, after, hl, hbefore, hb⟩
        cases before with
        | nil =>
          cases hl
          rw [hrun] at hb
          cases hb
          rfl
        | cons c before =>
          cases hl
          obtain ⟨v, hv⟩ := hbefore a (List.mem_cons_self ..)
          rw [hrun] at hv
          cases hv
    · rw [hrun] at ha
      obtain rfl : σ' = σ := ha
      rw [Running.run_bind_of_ok hrun]
      -- The first failure of the rest is that of the whole, since the one before gives a value.
      have hwhole : ∀ b failure, FailsFirst f σ' (a :: l) b failure ↔ FailsFirst f σ' l b failure := by
        intro b failure
        constructor
        · rintro ⟨before, after, hl, hbefore, hb⟩
          cases before with
          | nil =>
            cases hl
            rw [hrun] at hb
            cases hb
          | cons c before =>
            cases hl
            exact ⟨before, after, rfl, fun d hd => hbefore d (List.mem_cons_of_mem _ hd), hb⟩
        · rintro ⟨before, after, rfl, hbefore, hb⟩
          refine ⟨a :: before, after, rfl, fun c hc => ?_, hb⟩
          rcases List.mem_cons.mp hc with rfl | hc
          · exact ⟨v, by rw [hrun]⟩
          · exact hbefore c hc
      cases e with
      | error failure =>
        refine ⟨.error failure, Running.run_bind_of_error hrest, fun _ h => (nomatch h), ?_⟩
        intro failure'
        simp only [hwhole]
        exact hfirst failure'
      | ok values =>
        refine ⟨.ok (v :: values), by rw [Running.run_bind_of_ok hrest]; rfl, ?_, ?_⟩
        · intro values' h
          cases h
          rw [List.length_cons, List.length_cons, hlength values rfl]
        · intro failure
          simp only [hwhole]
          exact ⟨fun h => (nomatch h), fun h => (nomatch ((hfirst failure).mpr h))⟩

/-! ## Plans -/

/-- The row that a dictionary, a list or a tuple is adapted to. -/
def Row.ofContainer : Value → Option Value
  | .dict entries => some (Row.ofEntries entries)
  | .list cells | .tuple cells => some (.row .sequence [] cells)
  | _ => none

theorem run_rowOf {row cells : Value} (h : Row.ofContainer row = some cells) (σ : Session) :
    (Cell.rowOf row).run σ = (.ok cells, σ) ∧ Row.IsAdapted cells := by
  unfold Row.ofContainer at h
  split at h
  · cases h
    exact ⟨rfl, .mapping _ _⟩
  · cases h
    exact ⟨rfl, .sequence _ _⟩
  · cases h
    exact ⟨rfl, .sequence _ _⟩
  · cases h

/-- A compiled plan mirrors a schema. -/
theorem Compile.planMirrors_of_buildWith {q : Lookups Outcomes} {table : ClassTable}
    {overrides : Overrides} {target : TypeExpr} {p : DecodePlan}
    (h : Compile.buildWith q table target overrides (.ok p)) :
    ∃ schema container, PlanMirrors schema container overrides p := by
  obtain ⟨schema, container, compiled, mark, hschema, -, hall, rfl⟩ := buildWith_compiled h
  exact ⟨schema, container, planMirrors (introspect_ordered hschema) hall mark⟩

/-- A step that uses built-in transforms reads a column, by its name or by its position. -/
theorem key_of_usesBuiltins {p : DecodePlan} {schema : Schema} {container : ContainerDirectives}
    {overrides : Overrides} (hp : PlanMirrors schema container overrides p) {s : DecodeStep}
    (hmem : s ∈ p.steps) (hs : s.usesBuiltins = true) :
    ∃ key, s.strategy.key? = some key ∧ ((∃ name, key = .text name) ∨ ∃ n, key = .int n) := by
  obtain ⟨⟨d, hdecoder, -⟩, -⟩ := usesBuiltins_spec hs
  obtain ⟨key, hkey⟩ := Strategy.key_of_decoder hdecoder
  refine ⟨key, hkey, ?_⟩
  rcases hp.keys with hnames | hpositions
  · exact Or.inl (hnames s hmem key hkey)
  · exact Or.inr ⟨s.ordinal, hpositions s hmem key hkey⟩

theorem Level.top_eq : ∃ l : Level, Level.top = l.above.above :=
  ⟨Level.ofDepth 998, rfl⟩

section

variable {table : ClassTable} {name : String} {config : RegistryConfig} {calls : List Call}
  {overrides : Overrides} {size : Nat} {p : DecodePlan}

/-- **What escapes a plan.** Take a plan whose steps use built-in decoders, converters and defaults
only, and whose target is a tuple type or a class that takes the fields of the plan without hooks.
For every dictionary, list or tuple, with any values, the plan leaves the session as it is, and it
gives a value or fails for the row, unless a step escapes after others that all gave values; then
the plan fails with the fault that escapes. -/
theorem execute_escapes_iff
    (handed : HandsOut table (Call.runAll table calls (Registry.create name config)) overrides size
      p)
    (hbuiltin : ∀ s ∈ p.steps, s.usesBuiltins = true) {σ : Session}
    (hassembled : p.isAssembled σ.classes = true) {row cells : Value}
    (hrow : Row.ofContainer row = some cells) :
    ((execute Level.top p row).run σ).2 = σ ∧
    ∀ f, (((execute Level.top p row).run σ).1 = .error f ∧ f.isDecoding = false) ↔
      ∃ before s after g, p.steps = before ++ s :: after ∧
        (∀ t ∈ before, ∃ v, ((runStep Level.top t cells).run σ).1 = .ok v) ∧
        Escapes σ.classes s cells g ∧ f = .fault g := by
  obtain ⟨fuel, building, hbuilt, -⟩ :=
    handed.built (Call.runAll_cached calls (create_cached table name config))
  obtain ⟨schema, container, hmirrors⟩ := Compile.planMirrors_of_buildWith hbuilt
  obtain ⟨l, hl⟩ := Level.top_eq
  obtain ⟨hadapted, hcells⟩ := run_rowOf hrow σ
  have hstep : ∀ s ∈ p.steps, ∃ e, (runStep Level.top s cells).run σ = (e, σ) ∧
      EscapesBy (Escapes σ.classes s cells) e := by
    intro s hs
    obtain ⟨key, hkey, htext⟩ := key_of_usesBuiltins hmirrors hs (hbuiltin s hs)
    rw [hl]
    exact run_runStep (hbuiltin s hs) hkey htext hcells l.above σ
  have hkeeps : ∀ s ∈ p.steps, ((runStep Level.top s cells).run σ).2 = σ := by
    intro s hs
    obtain ⟨e, hrun, -⟩ := hstep s hs
    rw [hrun]
  obtain ⟨e, hsteps, hlength, hfirst⟩ := run_mapM hkeeps
  have hexecute : (execute Level.top p row).run σ =
      ((p.steps.mapM fun s => runStep Level.top s cells) >>= makeTarget Level.top p).run σ :=
    Running.run_bind_of_ok hadapted
  -- The target is made whatever the values are, so the plan fails as the steps do.
  have hfails : ((execute Level.top p row).run σ).2 = σ ∧
      ∀ f, ((execute Level.top p row).run σ).1 = .error f ↔ e = .error f := by
    rw [hexecute]
    cases e with
    | error f =>
      rw [Running.run_bind_of_error hsteps]
      exact ⟨rfl, fun f' => ⟨fun h => by cases h; rfl, fun h => by cases h; rfl⟩⟩
    | ok values =>
      rw [Running.run_bind_of_ok hsteps, hl]
      obtain ⟨v, hv⟩ := run_makeTarget hassembled (hlength values rfl) l
      rw [hv]
      exact ⟨rfl, fun f => ⟨fun h => (nomatch h), fun h => (nomatch h)⟩⟩
  refine ⟨hfails.1, fun f => ?_⟩
  rw [hfails.2 f, hfirst f]
  constructor
  · rintro ⟨⟨s, before, after, hsplit, hbefore, hfail⟩, hdecoding⟩
    obtain ⟨e', hrun, hescapes⟩ := hstep s (by rw [hsplit]; simp)
    rw [hrun] at hfail
    obtain ⟨g, hf, hg⟩ := (hescapes f).mp ⟨hfail, hdecoding⟩
    exact ⟨before, s, after, g, hsplit, hbefore, hg, hf⟩
  · rintro ⟨before, s, after, g, hsplit, hbefore, hg, rfl⟩
    obtain ⟨e', hrun, hescapes⟩ := hstep s (by rw [hsplit]; simp)
    obtain ⟨hfail, hdecoding⟩ := (hescapes (.fault g)).mpr ⟨g, rfl, hg⟩
    exact ⟨⟨s, before, after, hsplit, hbefore, by rw [hrun, hfail]⟩, hdecoding⟩

end

/-! ## A fault that escapes -/

namespace Overwhelmed

/-- A class with a double, and a point in time that is read as a number of seconds. -/
def reading : ClassRef := ⟨"Reading", 1, .dataclass .none⟩

def session : Session :=
  ((Derive.declare (.dataclass "Reading" none
    [.given "x" (.builtin .float),
      .given "at" (.annotated (.builtin .datetime)
        [.marker [("try_from", .type (.builtin .int))]])]) none).run (Session.create [])).2

/-- A new registry, in which nothing was called. -/
def registry : Registry :=
  Call.runAll session.classes [] (Registry.create Session.standardRegistry .standard)

/-- A number that is too large for a double. -/
def row : Value :=
  .dict [(.text "x", .int (Int.ofNat (Nat.pow 10 400))), (.text "at", .int 0)]

/-- Whether a plan fails otherwise than for the row. -/
def failsOtherwise (p : DecodePlan) : Bool :=
  match ((execute Level.top p row).run session).1 with
  | .ok _ => false
  | .error f => !f.isRow

/-- The plan of the class uses built-in transforms and is assembled, and it fails so. -/
theorem exists_plan : ∃ p,
    HandsOut session.classes registry Overrides.none session.classes.classes.length p ∧
      (∀ s ∈ p.steps, s.usesBuiltins = true) ∧ p.isAssembled session.classes = true ∧
      failsOtherwise p = true := by
  have hcheck : (((Compile.planFor session.classes (.declared reading)).run registry).1.toOption.any
      fun p => p.steps.all (·.usesBuiltins) && p.isAssembled session.classes &&
        failsOtherwise p) = true := by
    decide +kernel
  obtain ⟨p, r', hrun, htest⟩ := Running.exists_of_test hcheck
  rw [Bool.and_eq_true, Bool.and_eq_true, List.all_eq_true] at htest
  exact ⟨p, .ofClass hrun, htest.1.1, htest.1.2, htest.2⟩

/-- No class has a hook, a plan uses built-in transforms only, and a dictionary makes it fail
otherwise than for the row. -/
theorem fault_escapes :
    session.classes.classes.all (·.isPlain) = true ∧
    ∃ p, HandsOut session.classes registry Overrides.none session.classes.classes.length p ∧
      (∀ s ∈ p.steps, s.usesBuiltins = true) ∧
      ∃ f σ', (execute Level.top p row).run session = (.error f, σ') ∧ f.isRow = false := by
  refine ⟨by decide +kernel, ?_⟩
  obtain ⟨p, hp, hbuiltin, -, hfails⟩ := exists_plan
  refine ⟨p, hp, hbuiltin, ?_⟩
  unfold failsOtherwise at hfails
  rcases hexecute : (execute Level.top p row).run session with ⟨f | v, σ'⟩
  · rw [hexecute] at hfails
    exact ⟨f, σ', rfl, by simpa using hfails⟩
  · rw [hexecute] at hfails
    cases hfails

/-- What escapes the plan of the class. -/
theorem execute_escapes_reading : ∃ p cells,
    HandsOut session.classes registry Overrides.none session.classes.classes.length p ∧
      Row.ofContainer row = some cells ∧
      ((execute Level.top p row).run session).2 = session ∧
      ∀ f, (((execute Level.top p row).run session).1 = .error f ∧ f.isDecoding = false) ↔
        ∃ before s after g, p.steps = before ++ s :: after ∧
          (∀ t ∈ before, ∃ v, ((runStep Level.top t cells).run session).1 = .ok v) ∧
          Escapes session.classes s cells g ∧ f = .fault g := by
  obtain ⟨p, hp, hbuiltin, hassembled, -⟩ := exists_plan
  exact ⟨p, _, hp, rfl, execute_escapes_iff hp hbuiltin hassembled rfl⟩

end Overwhelmed

end RowDecoding
