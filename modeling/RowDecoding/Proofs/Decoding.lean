import RowDecoding.Execution.Step
import RowDecoding.Proofs.Caching

/-!
# What built-in decoders refuse

A decoder may say that a value is of the wrong class or not fit for its use, and a step takes that
for a mismatch; of a converter it also takes what is wrong with computing. So the faults that matter
are the others. This file goes through all built-in decoders and converters and finds each of them:

* the decoder of doubles, with a whole number that is too large for one (`Overwhelms.double`),
* the decoder of an enumeration with numbers among its members, with an undefined number that calls
  for attention (`Overwhelms.member`),
* the converter from seconds to points in time, with a year beyond what the clock of the host counts
  (`Outruns`).

Whether a decoder is the built-in one of a type is computed (`Transform.decodes`), and so is what it
makes of a value (`Transform.result`). `result_misfit_iff` and `result_computing_iff` say that the
list above is complete, for every value.
-/

namespace RowDecoding

open Calendar Number

/-! ## Faults that steps take for mismatches -/

/-- Faults of a value that is of the wrong class or not fit for its use. -/
def Fault.isMisfit (f : Fault) : Bool :=
  f.isType || f.kind.isValue

/-- Misfits and faults of computing with numbers. -/
def Fault.isComputing (f : Fault) : Bool :=
  f.isMisfit || f.kind.isArithmetic

/-- All faults of a computation pass a test. -/
def Faults {α : Type} (test : Fault → Bool) (e : Except Fault α) : Prop :=
  ∀ f, e = .error f → test f = true

namespace Faults

variable {α β : Type} {test : Fault → Bool} {e : Except Fault α}

theorem ok {a : α} : Faults test (.ok a) := by
  intro f h
  cases h

theorem error {f : Fault} (h : test f = true) : Faults test (.error f : Except Fault α) := by
  intro g hg
  cases hg
  exact h

theorem map (h : Faults test e) (g : α → β) : Faults test (e.map g) := by
  cases e with
  | ok a => exact ok
  | error f => exact error (h f rfl)

theorem bind {k : α → Except Fault β} (h : Faults test e) (hk : ∀ a, Faults test (k a)) :
    Faults test (e >>= k) := by
  cases e with
  | ok a => exact hk a
  | error f => exact error (h f rfl)

theorem mapM_loop {f : β → Except Fault α} (h : ∀ b, Faults test (f b)) :
    ∀ (l : List β) (done : List α), Faults test (List.mapM.loop f l done) := by
  intro l
  induction l with
  | nil => exact fun _ => ok
  | cons b l ih => exact fun done => bind (h b) fun a => ih (a :: done)

theorem mapM {f : β → Except Fault α} (h : ∀ b, Faults test (f b)) (l : List β) :
    Faults test (l.mapM f) :=
  mapM_loop h l []

theorem computing (h : Faults Fault.isMisfit e) : Faults Fault.isComputing e := by
  intro f hf
  unfold Fault.isComputing
  rw [h f hf]
  rfl

end Faults

/-! ## Reading scalars -/

namespace Value

theorem readWhole_faults (base : Nat) (shown : String) (cs : List Char) :
    Faults Fault.isMisfit (readWhole base shown cs) := by
  unfold readWhole
  split
  · exact .ok
  · exact .error rfl
  · exact .error rfl

theorem readDouble_faults (shown : String) (cs : List Char) :
    Faults Fault.isMisfit (readDouble shown cs) := by
  unfold readDouble
  split
  · exact .ok
  · exact .error rfl

theorem truncated_faults (whole? : Option Int) (isUndefined : Bool) (infinity undefined : String) :
    Faults Fault.isComputing (truncated whole? isUndefined infinity undefined) := by
  unfold truncated
  split
  · exact .ok
  · cases isUndefined <;> exact .error rfl

/-- Making a whole number fails with what is wrong with the value or with computing. -/
theorem toWhole_faults (v : Value) : Faults Fault.isComputing v.toWhole := by
  unfold toWhole
  split
  · exact .ok
  · exact (readWhole_faults _ _ _).computing
  · split
    · exact truncated_faults _ _ _ _
    · exact truncated_faults _ _ _ _
    · exact (readWhole_faults _ _ _).computing
    · exact .ok
    · exact .error rfl

theorem nearestDouble_faults (n : Int) : Faults Fault.isComputing (nearestDouble n) := by
  unfold nearestDouble
  split
  · exact .error rfl
  · exact .ok

/-- Making a double fails with what is wrong with the value or with computing. -/
theorem toDouble_faults (v : Value) : Faults Fault.isComputing v.toDouble := by
  unfold toDouble
  split
  · exact nearestDouble_faults _
  · exact (readDouble_faults _ _).computing
  · split
    · exact .ok
    · exact .error rfl
    · exact .ok
    · exact .ok
    · exact .ok
    · exact (readDouble_faults _ _).computing
    · exact .error rfl

theorem readDecimal_faults (v : Value) (cs : List Char) :
    Faults Fault.isMisfit (readDecimal v cs) := by
  unfold readDecimal
  split
  · exact .ok
  · cases v.isUnwritable <;> exact .error rfl

theorem coefficientDigits_faults (v : Value) : Faults Fault.isMisfit (coefficientDigits v) := by
  unfold coefficientDigits
  dsimp only
  split
  · exact .error rfl
  · refine .mapM (fun item => ?_) _
    split
    · split
      · exact .ok
      · exact .error rfl
    · exact .error rfl

theorem exponentOrWord_faults (v : Value) : Faults Fault.isMisfit (exponentOrWord v) := by
  unfold exponentOrWord
  split
  · exact .ok
  · exact .ok
  · exact .ok
  · exact .error rfl
  · split
    · exact .ok
    · exact .error rfl

theorem literalOfParts_faults (parts : List Value) :
    Faults Fault.isMisfit (literalOfParts parts) := by
  unfold literalOfParts
  split
  next sign coefficient exponent =>
    dsimp only
    -- Whatever the sign is, the parts after it are read alike.
    split
    · refine .bind .ok fun negative => .bind (exponentOrWord_faults _) fun last => ?_
      exact .bind (coefficientDigits_faults _) fun ds => .ok
    · refine .bind .ok fun negative => .bind (exponentOrWord_faults _) fun last => ?_
      exact .bind (coefficientDigits_faults _) fun ds => .ok
    · exact .error rfl
  next => exact .error rfl

/-- Making a decimal number fails with what is wrong with the value. -/
theorem toDecimal_faults (v : Value) : Faults Fault.isMisfit v.toDecimal := by
  unfold toDecimal
  split
  · exact .ok
  · exact readDecimal_faults _ _
  · split
    · exact .ok
    · exact readDecimal_faults _ _
    · split
      · exact .bind (literalOfParts_faults _) fun cs => readDecimal_faults _ cs
      · exact .error rfl

/-- Reading a date or time fails with what is wrong with the value. -/
theorem readMoment_faults {α : Type} (parse : String → Except CalendarError α) (v : Value) :
    Faults Fault.isMisfit (v.readMoment parse) := by
  unfold readMoment
  split
  · exact .error rfl
  · split
    · exact .ok
    · exact .error rfl

theorem unreadableUuid_isMisfit (e : UuidError) : (unreadableUuid e).isMisfit = true := by
  cases e <;> rfl

/-- Reading an identifier from a text fails with what is wrong with the value. -/
theorem toUuid_faults {v : Value} (hv : v.asText?.isSome = true) :
    Faults Fault.isMisfit v.toUuid := by
  obtain ⟨s, hs⟩ := Option.isSome_iff_exists.mp hv
  unfold toUuid
  rw [hs]
  dsimp only
  split
  · exact .ok
  · exact .error (unreadableUuid_isMisfit _)

end Value

/-- Only a decimal number can be one that cannot be compared. -/
theorem truthOfNumber_faults (v : Value) : Faults Fault.isComputing (truthOfNumber v) := by
  unfold truthOfNumber
  split
  · exact .error rfl
  · split
    · exact .ok
    · cases v.isUnwritable <;> exact .error rfl

theorem truthOfNumber_faults_of_whole {v : Value} (hv : v.asInt?.isSome = true) :
    Faults Fault.isMisfit (truthOfNumber v) := by
  unfold truthOfNumber
  split
  · cases hv
  · split
    · exact .ok
    · cases v.isUnwritable <;> exact .error rfl

theorem decodeBool_faults (fromInt : Bool) (v : Value) :
    Faults Fault.isMisfit (decodeBool fromInt v) := by
  unfold decodeBool
  split
  · exact .ok
  · split
    next h =>
      rw [Bool.and_eq_true] at h
      exact truthOfNumber_faults_of_whole h.2
    next => exact .error rfl

/-! ## Built-in transforms -/

/-- The class of the values that a scalar is. -/
def Scalar.builtin : Scalar → Builtin
  | int => .int
  | float => .float
  | str => .str
  | bytes => .bytes
  | decimal => .decimal
  | datetime => .datetime
  | date => .date
  | time => .time
  | uuid => .uuid

/-- What a built-in transform makes of a value. Hooks and checks of structure are none. -/
def Transform.result (table : ClassTable) : Transform → Value → Except Fault Value
  | passthrough, v => .ok v
  | decode s, v => s.decode v
  | decodeBool fromInt, v => RowDecoding.decodeBool fromInt v
  | convert c, v => c.apply v
  | nullable inner, v =>
    match v with
    | .none => .ok .none
    | _ => inner.result table v
  | member c, v => Instance.asMember table c v
  | hook .., v | validate .., v => .ok v

/-- A value is decoded or converted as if it could not be nothing. -/
theorem Transform.result_nullable {table : ClassTable} {inner : Transform} {v : Value}
    (hv : v ≠ .none) : (nullable inner).result table v = inner.result table v := by
  cases v <;> first | rfl | exact absurd rfl hv

/-- Whether a transform is the built-in decoder of a type: of a scalar, of an enumeration, or of one
of these or nothing. -/
def Transform.decodes : Transform → TypeExpr → Bool
  | decode s, .builtin b => s.builtin == b
  | decodeBool _, .builtin b => b == .bool
  | member c, .declared d => c == d && c.form.isEnumeration
  | nullable inner, t =>
    match t.optionalInner? with
    | some u => inner.decodes u
    | none => false
  | _, _ => false

/-- Whether a transform is a built-in converter from one type to another: to the same type, between
scalars, to an enumeration, or to one of these or nothing. -/
def Transform.converts : Transform → TypeExpr → TypeExpr → Bool
  | passthrough, source, target => source.same target
  | convert c, .builtin a, .builtin b => Registry.standardConverters.contains ((a, b), c)
  | member c, _, .declared d => c == d && c.form.isEnumeration
  | nullable inner, source, target =>
    match target.optionalInner? with
    | some u => inner.converts source u
    | none => false
  | _, _, _ => false

/-- The type of the values of a type that are not nothing. -/
def TypeExpr.core (t : TypeExpr) : TypeExpr :=
  t.optionalInner?.getD t

theorem TypeExpr.core_of_optional {t u : TypeExpr} (h : t.optionalInner? = some u) :
    t.core = u ∧ u.core = u := by
  refine ⟨?_, ?_⟩
  · unfold core
    rw [h]
    rfl
  · unfold core
    rw [optionalInner?_rest h]
    rfl

/-- What the built-in decoder of a type fails on although nothing is wrong with the class of the
value, and how. -/
inductive Overwhelms (table : ClassTable) (t : TypeExpr) (v : Value) : Fault → Prop
  /-- A whole number that is too large for a double. -/
  | double {n : Int} {negative : Bool} (ht : t.core = .builtin .float) (hv : v.asInt? = some n)
    (hbool : v.isBool = false) (hn : Binary64.ofInt n = .infinite negative) :
    Overwhelms table t v (Fault.raised .overflow "int too large to convert to float")
  /-- An undefined number that calls for attention, where members are numbers. -/
  | member {c : ClassRef} (ht : t.core = .declared c) (hnone : table.memberOf? c v = none)
    (hv : Instance.isIncomparable table c v = true) : Overwhelms table t v Fault.undefinedOperation

/-- What the built-in converter from seconds to points in time fails on, and how: a year beyond what
the clock of the host counts. -/
inductive Outruns (source target : TypeExpr) (v : Value) : Fault → Prop
  | mk {n : Int} (hsource : source = .builtin .int) (htarget : target.core = .builtin .datetime)
    (hv : v.asInt? = some n) (hbool : v.isBool = false)
    (hn : Timestamp.ofEpochSeconds n = .error .yearTooLarge) :
    Outruns source target v ⟨.system, [.int 75, .text "Value too large for defined data type"]⟩

section

variable {table : ClassTable} {t source target : TypeExpr} {d c : Transform} {v w : Value}
  {f : Fault}

/-! ## Decoders -/

/-- The decoder of doubles is the only one of scalars that fails otherwise. -/
theorem decodeForeign_faults {s : Scalar} (hs : s ≠ .float) (v : Value) :
    Faults Fault.isMisfit (s.decodeForeign v) := by
  unfold Scalar.decodeForeign
  cases s with
  | float => exact absurd rfl hs
  | int | str => exact .error rfl
  | bytes =>
    dsimp only
    split
    · exact .ok
    · exact .error rfl
  | decimal =>
    dsimp only
    split
    · exact (Value.toDecimal_faults _).map _
    · split
      · exact (Value.toDecimal_faults _).map _
      · exact .error rfl
  | datetime | date | time =>
    dsimp only
    split
    · exact (Value.readMoment_faults _ _).map _
    · exact .error rfl
  | uuid =>
    dsimp only
    split
    · exact .error rfl
    · split
      · exact .ok
      · exact .error rfl
    · split
      next htext => exact (Value.toUuid_faults htext).map _
      next => exact .error rfl

theorem decode_faults {s : Scalar} (hs : s ≠ .float) (v : Value) :
    Faults Fault.isMisfit (s.decode v) := by
  unfold Scalar.decode
  split
  · exact .ok
  · exact decodeForeign_faults hs v

/-- What the decoder of doubles fails on. -/
theorem decode_float_iff :
    (Scalar.decode .float v = .error f ∧ f.isMisfit = false) ↔
      Overwhelms table (.builtin .float) v f := by
  constructor
  · rintro ⟨hf, hmisfit⟩
    unfold Scalar.decode at hf
    split at hf
    · cases hf
    · unfold Scalar.decodeForeign at hf
      dsimp only at hf
      split at hf
      next => cases hf
      next n hn hbool _ =>
        unfold Value.nearestDouble at hf
        split at hf
        next negative hinfinite =>
          cases hf
          exact .double rfl hn hbool hinfinite
        next => cases hf
      next =>
        cases hf
        cases hmisfit
  · intro h
    cases h with
    | member ht => cases ht
    | @double n negative _ hv hbool hn =>
      refine ⟨?_, rfl⟩
      have hholds : Scalar.holds .float v = false := by
        cases v <;> first | rfl | cases hv
      unfold Scalar.decode Scalar.decodeForeign
      rw [if_neg (by rw [hholds]; exact Bool.false_ne_true)]
      dsimp only
      have hnearest : Value.nearestDouble n =
          .error (Fault.raised .overflow "int too large to convert to float") := by
        unfold Value.nearestDouble
        rw [hn]
      rw [Value.content_of_asInt hv, hv, hbool]
      cases v <;> first | (dsimp only; rw [hnearest]; rfl) | cases hv

/-- A number is no instance of an enumeration. -/
theorem isInstance_of_isIncomparable {c : ClassRef} (h : Instance.isIncomparable table c v = true) :
    Check.isInstance table c v = false := by
  cases v <;> first | rfl | cases h

/-- What the decoder of an enumeration fails on. -/
theorem memberFor_iff {c : ClassRef} :
    (Instance.memberFor table c v = .error f ∧ f.isMisfit = false) ↔
      Overwhelms table (.declared c) v f := by
  unfold Instance.memberFor
  constructor
  · rintro ⟨hf, hmisfit⟩
    split at hf
    · cases hf
    next hnone =>
      cases hf
      cases hincomparable : Instance.isIncomparable table c v with
      | true => exact .member rfl hnone hincomparable
      | false =>
        rw [hincomparable] at hmisfit
        cases hunwritable : v.isUnwritable <;> rw [hunwritable] at hmisfit <;> cases hmisfit
  · intro h
    cases h with
    | double ht => cases ht
    | @member c' ht hnone hv =>
      cases ht
      rw [hnone, hv]
      exact ⟨rfl, rfl⟩

theorem asMember_iff {c : ClassRef} :
    (Instance.asMember table c v = .error f ∧ f.isMisfit = false) ↔
      Overwhelms table (.declared c) v f := by
  unfold Instance.asMember
  split
  next hinstance =>
    refine iff_of_false (fun h => nomatch h.1) fun h => ?_
    cases h with
    | double ht => cases ht
    | @member c' ht _ hv =>
      cases ht
      rw [isInstance_of_isIncomparable hv] at hinstance
      cases hinstance
  next => exact memberFor_iff

/-- Whether a value overwhelms a decoder depends on the type without nothing. -/
theorem Overwhelms.core_iff {u : TypeExpr} (h : t.optionalInner? = some u) :
    Overwhelms table t v f ↔ Overwhelms table u v f := by
  obtain ⟨ht, hu⟩ := TypeExpr.core_of_optional h
  constructor
  · rintro (⟨hc, hv, hbool, hn⟩ | ⟨hc, hnone, hv⟩)
    · exact .double (by rw [hu, ← ht, hc]) hv hbool hn
    · exact .member (by rw [hu, ← ht, hc]) hnone hv
  · rintro (⟨hc, hv, hbool, hn⟩ | ⟨hc, hnone, hv⟩)
    · exact .double (by rw [ht, ← hu, hc]) hv hbool hn
    · exact .member (by rw [ht, ← hu, hc]) hnone hv

/-- Nothing overwhelms no decoder. -/
theorem not_overwhelms_none (table : ClassTable) (t : TypeExpr) (f : Fault) :
    ¬Overwhelms table t .none f := by
  rintro (⟨-, hv, -, -⟩ | ⟨-, -, hv⟩)
  · cases hv
  · cases hv

/-- **What built-in decoders refuse.** For every value, the built-in decoder of a type fails with a
fault that is no misfit just if the value overwhelms it. -/
theorem result_misfit_iff (hd : d.decodes t = true) :
    (d.result table v = .error f ∧ f.isMisfit = false) ↔ Overwhelms table t v f := by
  induction d generalizing t with
  | decode s =>
    cases t with
    | builtin b =>
      obtain rfl : s.builtin = b := by simpa [Transform.decodes] using hd
      by_cases hs : s = .float
      · subst hs
        exact decode_float_iff
      · constructor
        · rintro ⟨hf, hmisfit⟩
          rw [decode_faults hs v f hf] at hmisfit
          cases hmisfit
        · rintro (⟨ht, -, -, -⟩ | ⟨ht, -, -⟩)
          · cases s <;> first | exact absurd rfl hs | cases ht
          · cases ht
    | _ => cases hd
  | decodeBool fromInt =>
    cases t with
    | builtin b =>
      obtain rfl : b = .bool := by simpa [Transform.decodes] using hd
      constructor
      · rintro ⟨hf, hmisfit⟩
        rw [decodeBool_faults fromInt v f hf] at hmisfit
        cases hmisfit
      · rintro (⟨ht, -, -, -⟩ | ⟨ht, -, -⟩) <;> cases ht
    | _ => cases hd
  | member c =>
    cases t with
    | declared e =>
      obtain ⟨rfl, -⟩ : c = e ∧ c.form.isEnumeration = true := by
        simpa [Transform.decodes] using hd
      exact asMember_iff
    | _ => cases hd
  | nullable inner ih =>
    unfold Transform.decodes at hd
    split at hd
    next u hu =>
      rw [Overwhelms.core_iff hu, ← ih hd]
      by_cases hv : v = .none
      · subst hv
        have hno := (ih hd).not.mpr (not_overwhelms_none table u f)
        exact ⟨fun h => (nomatch h.1), fun h => absurd h hno⟩
      · rw [Transform.result_nullable hv]
    next => cases hd
  | _ => cases hd

/-! ## Converters -/

/-- The decoders of whole numbers and of texts keep what they accept. -/
theorem kept_of_decodes {b : Builtin} (hb : b = .int ∨ b = .str)
    (hd : d.decodes (.builtin b) = true) (hw : d.result table v = .ok w) :
    w = v ∧ ∃ s : Scalar, s.builtin = b ∧ s.holds v = true := by
  cases d with
  | decode s =>
    obtain rfl : s.builtin = b := by simpa [Transform.decodes] using hd
    change s.decode v = .ok w at hw
    unfold Scalar.decode at hw
    split at hw
    next hholds =>
      cases hw
      exact ⟨rfl, s, rfl, hholds⟩
    next hholds =>
      -- Nothing else is accepted.
      exfalso
      unfold Scalar.decodeForeign at hw
      cases s with
      | int | str => cases hw
      | _ => rcases hb with hb | hb <;> cases hb
  | decodeBool fromInt =>
    obtain rfl : b = .bool := by simpa [Transform.decodes] using hd
    rcases hb with hb | hb <;> cases hb
  | _ => cases hd

theorem text_of_decodes (hd : d.decodes (.builtin .str) = true) (hw : d.result table v = .ok w) :
    w.asText?.isSome = true := by
  obtain ⟨rfl, s, hs, hholds⟩ := kept_of_decodes (Or.inr rfl) hd hw
  cases s <;> first | exact hholds | cases hs

theorem whole_of_decodes (hd : d.decodes (.builtin .int) = true) (hw : d.result table v = .ok w) :
    w = v ∧ (∃ n, v.asInt? = some n) ∧ v.isBool = false := by
  obtain ⟨rfl, s, hs, hholds⟩ := kept_of_decodes (Or.inl rfl) hd hw
  cases s with
  | int =>
    have hholds : (w.asInt?.isSome && !w.isBool) = true := hholds
    rw [Bool.and_eq_true, Bool.not_eq_true'] at hholds
    exact ⟨rfl, Option.isSome_iff_exists.mp hholds.1, hholds.2⟩
  | _ => cases hs

/-- Other conversions than that of seconds fail with what is wrong with the value or with computing
if identifiers are made from texts. -/
theorem apply_faults {k : Conversion} (hepoch : k ≠ .epoch)
    (htext : k = .uuid → w.asText?.isSome = true) : Faults Fault.isComputing (k.apply w) := by
  cases k with
  | int => exact (Value.toWhole_faults w).map _
  | float => exact (Value.toDouble_faults w).map _
  | str =>
    unfold Conversion.apply
    dsimp only
    split
    · exact .error rfl
    · exact .ok
  | bool => exact truthOfNumber_faults w
  | uuid => exact ((Value.toUuid_faults (htext rfl)).map _).computing
  | decimal => exact ((Value.toDecimal_faults w).map _).computing
  | datetime => exact ((Value.readMoment_faults _ w).map _).computing
  | date => exact ((Value.readMoment_faults _ w).map _).computing
  | time => exact ((Value.readMoment_faults _ w).map _).computing
  | epoch => exact absurd rfl hepoch

/-- What the conversion of seconds fails on. -/
theorem apply_epoch_iff {n : Int} (hn : w.asInt? = some n) :
    (Conversion.epoch.apply w = .error f ∧ f.isComputing = false) ↔
      Timestamp.ofEpochSeconds n = .error .yearTooLarge ∧
        f = ⟨.system, [.int 75, .text "Value too large for defined data type"]⟩ := by
  have happly : Conversion.epoch.apply w = (Value.atSeconds n).map .datetime := by
    unfold Conversion.apply Value.toTimestamp
    rw [hn]
  rw [happly]
  unfold Value.atSeconds
  cases hsplit : Timestamp.ofEpochSeconds n with
  | ok t => exact ⟨fun h => (nomatch h.1), fun h => (nomatch h.1)⟩
  | error e =>
    cases e with
    | yearTooLarge =>
      refine ⟨fun h => ⟨rfl, ?_⟩, fun h => ⟨?_, ?_⟩⟩
      · exact (Except.error.inj h.1).symm
      · rw [h.2]
        rfl
      · rw [h.2]
        rfl
    | secondsTooLarge | year =>
      refine ⟨fun h => ?_, fun h => (nomatch h.1)⟩
      obtain ⟨hf, hcomputing⟩ := h
      cases hf
      cases hcomputing

/-- Making a member of an enumeration fails with what is wrong with the value or with computing. -/
theorem memberFor_faults (c : ClassRef) (v : Value) :
    Faults Fault.isComputing (Instance.memberFor table c v) := by
  unfold Instance.memberFor
  split
  · exact .ok
  · cases Instance.isIncomparable table c v
    · cases v.isUnwritable <;> exact .error rfl
    · exact .error rfl

theorem asMember_faults (c : ClassRef) (v : Value) :
    Faults Fault.isComputing (Instance.asMember table c v) := by
  unfold Instance.asMember
  split
  · exact .ok
  · exact memberFor_faults c v

/-- The standard converters: all but that of seconds convert otherwise than from a whole number to a
point in time, and identifiers are made from texts. -/
theorem standardConverters_cases {a b : Builtin} {k : Conversion}
    (h : Registry.standardConverters.contains ((a, b), k) = true) :
    (k = .epoch ∧ a = .int ∧ b = .datetime) ∨
      (k ≠ .epoch ∧ (a ≠ .int ∨ b ≠ .datetime) ∧ (k = .uuid → a = .str)) := by
  simp only [Registry.standardConverters, List.contains_cons, List.contains_nil, Bool.or_false,
    Bool.or_eq_true, beq_iff_eq, Prod.mk.injEq] at h
  rcases h with h | h | h | h | h | h | h | h | h | h | h | h | h <;>
    obtain ⟨⟨rfl, rfl⟩, rfl⟩ := h <;> decide

/-- Whether a value outruns a converter depends on the target without nothing. -/
theorem Outruns.core_iff {u : TypeExpr} (h : target.optionalInner? = some u) :
    Outruns source target v f ↔ Outruns source u v f := by
  obtain ⟨ht, hu⟩ := TypeExpr.core_of_optional h
  constructor
  · rintro ⟨hs, hc, hv, hbool, hn⟩
    exact .mk hs (by rw [hu, ← ht, hc]) hv hbool hn
  · rintro ⟨hs, hc, hv, hbool, hn⟩
    exact .mk hs (by rw [ht, ← hu, hc]) hv hbool hn

/-- No type is the same as that of whole numbers and has points in time as its values. -/
theorem not_outruns_same (h : source.same target = true) : ¬Outruns source target v f := by
  rintro ⟨rfl, htarget, -, -, -⟩
  obtain rfl := TypeExpr.sole_builtin .int target (beq_iff_eq.mp h).symm
  cases htarget

/-- **What built-in converters refuse.** For every value that the built-in decoder of a type makes,
a built-in converter from that type fails with a fault that is neither a misfit nor one of computing
just if the value outruns it. -/
theorem result_computing_iff (hd : d.decodes source = true) (hw : d.result table v = .ok w)
    (hc : c.converts source target = true) :
    (c.result table w = .error f ∧ f.isComputing = false) ↔ Outruns source target v f := by
  induction c generalizing target with
  | passthrough =>
    exact ⟨fun h => (nomatch h.1), fun h => absurd h (not_outruns_same hc)⟩
  | convert k =>
    cases source with
    | builtin a =>
      cases target with
      | builtin b =>
        rcases standardConverters_cases hc with ⟨rfl, rfl, rfl⟩ | ⟨hk, hab, huuid⟩
        · obtain ⟨rfl, ⟨n, hn⟩, hbool⟩ := whole_of_decodes hd hw
          refine (apply_epoch_iff hn).trans ⟨?_, ?_⟩
          · rintro ⟨hyear, rfl⟩
            exact .mk rfl rfl hn hbool hyear
          · rintro ⟨-, -, hn', -, hyear⟩
            cases hn.symm.trans hn'
            exact ⟨hyear, rfl⟩
        · have hfaults : Faults Fault.isComputing (k.apply w) := by
            refine apply_faults hk fun h => ?_
            cases huuid h
            exact text_of_decodes hd hw
          constructor
          · rintro ⟨hf, hcomputing⟩
            rw [hfaults f hf] at hcomputing
            cases hcomputing
          · rintro ⟨hsource, htarget, -, -, -⟩
            cases hsource
            cases htarget
            exact absurd hab (by decide)
      | _ => cases hc
    | _ => cases hc
  | member e =>
    cases target with
    | declared e' =>
      constructor
      · rintro ⟨hf, hcomputing⟩
        rw [asMember_faults e w f hf] at hcomputing
        cases hcomputing
      · rintro ⟨-, htarget, -, -, -⟩
        cases htarget
    | _ => cases source <;> cases hc
  | nullable inner ih =>
    unfold Transform.converts at hc
    split at hc
    next u hu =>
      rw [Outruns.core_iff hu, ← ih hc]
      by_cases hnone : w = .none
      · subst hnone
        refine ⟨fun h => (nomatch h.1), fun h => ?_⟩
        -- A converter from whole numbers is never given nothing.
        obtain ⟨hsource, -, hv, -, -⟩ := (ih hc).mp h
        subst hsource
        obtain ⟨rfl, -, -⟩ := whole_of_decodes hd hw
        cases hv
      · rw [Transform.result_nullable hnone]
    next => cases hc
  | _ => cases source <;> cases target <;> cases hc

end

end RowDecoding
