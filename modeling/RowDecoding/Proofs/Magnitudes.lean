import Mathlib.Algebra.Group.Nat.Defs
import RowDecoding.Number.Decimal

/-!
# Whole numbers in order

Numbers of different kinds are compared in a normal form, by their leading exponents first, so that
no great power has to be computed for numbers that are far apart. For whole numbers this is their
order.

> `isLess_ofInt`: `ofInt i` is less than `ofInt j` just if `i < j`.
-/

namespace RowDecoding.Number

theorem length_digits_pos (n : Nat) : 0 < (digits n).length := by
  unfold digits
  rw [Nat.toString_eq_ofList_toDigits, String.length_ofList]
  exact Nat.length_toDigits_pos

theorem length_digits_le_iff {n k : Nat} (hk : 0 < k) : (digits n).length ≤ k ↔ n < 10 ^ k := by
  unfold digits
  rw [Nat.toString_eq_ofList_toDigits, String.length_ofList]
  exact Nat.length_toDigits_le_iff (by decide) hk

/-- A number of so many digits is less than the power of ten with one digit more. -/
theorem lt_pow_length_digits (n : Nat) : n < 10 ^ (digits n).length :=
  (length_digits_le_iff (length_digits_pos n)).mp (Nat.le_refl _)

/-- A number but zero is not less than the power of ten with as many digits. -/
theorem pow_le_of_lt_length_digits {n k : Nat} (hn : 0 < n) (hk : k < (digits n).length) :
    10 ^ k ≤ n := by
  rcases Nat.eq_zero_or_pos k with rfl | hpos
  · exact hn
  · have hlonger : ¬(digits n).length ≤ k := Nat.not_le.mpr hk
    rw [length_digits_le_iff hpos] at hlonger
    exact Nat.not_lt.mp hlonger

namespace Binary64

/-- Taking zeros from the end moves them to the exponent. -/
theorem withoutTrailingZeros_spec (fuel n : Nat) (e : Nat) :
    ∃ n' e' : Nat, withoutTrailingZeros fuel n e = (n', (e' : Int)) ∧
      n' * 10 ^ e' = n * 10 ^ e := by
  induction fuel generalizing n e with
  | zero => exact ⟨n, e, rfl, rfl⟩
  | succ fuel ih =>
    unfold withoutTrailingZeros
    split
    · next hzero =>
      rw [Bool.and_eq_true, beq_iff_eq] at hzero
      obtain ⟨n', e', heq, hvalue⟩ := ih (n / 10) (e + 1)
      refine ⟨n', e', heq, hvalue.trans ?_⟩
      have hn : n / 10 * 10 = n := Nat.div_mul_cancel (Nat.dvd_of_mod_eq_zero hzero.2)
      rw [Nat.pow_succ', ← Nat.mul_assoc, hn]
    · exact ⟨n, e, rfl, rfl⟩

end Binary64

namespace Magnitude

/-- A number with a lower leading exponent is less. -/
theorem scaled_lt_scaled {m n e f : Nat} (hn : 0 < n)
    (h : (digits m).length + e < (digits n).length + f) : m * 10 ^ e < n * 10 ^ f := by
  have hpos : 0 < 10 ^ e := Nat.pow_pos (by decide)
  have hdigits : 0 < (digits n).length := length_digits_pos n
  calc m * 10 ^ e < 10 ^ (digits m).length * 10 ^ e :=
        (Nat.mul_lt_mul_right hpos).mpr (lt_pow_length_digits m)
    _ = 10 ^ ((digits m).length + e) := (Nat.pow_add ..).symm
    _ ≤ 10 ^ ((digits n).length - 1 + f) := Nat.pow_le_pow_right (by decide) (by omega)
    _ = 10 ^ ((digits n).length - 1) * 10 ^ f := Nat.pow_add ..
    _ ≤ n * 10 ^ f := Nat.mul_le_mul_right _ (pow_le_of_lt_length_digits hn (by omega))

/-- Comparing by leading exponents first compares. -/
theorem isBelow_iff {m n : Nat} (hm : 0 < m) (hn : 0 < n) (e f : Nat) :
    isBelow m e n f = true ↔ m * 10 ^ e < n * 10 ^ f := by
  unfold isBelow
  dsimp only
  split
  · next heq =>
    -- The power that both have is left out.
    rw [decide_eq_true_iff, Int.toNat_sub, Int.toNat_sub]
    have hcommon : 0 < 10 ^ min e f := Nat.pow_pos (by decide)
    have hleft : 10 ^ e = 10 ^ (e - f) * 10 ^ min e f := by
      rw [← Nat.pow_add]
      congr 1
      omega
    have hright : 10 ^ f = 10 ^ (f - e) * 10 ^ min e f := by
      rw [← Nat.pow_add]
      congr 1
      omega
    rw [hleft, hright, ← Nat.mul_assoc, ← Nat.mul_assoc, Nat.mul_lt_mul_right hcommon]
    rfl
  · next hne =>
    rw [beq_iff_eq] at hne
    rw [decide_eq_true_iff]
    rcases Int.lt_or_gt_of_ne hne with hless | hgreater
    · exact iff_of_true hless (scaled_lt_scaled hn (by omega))
    · have habove : n * 10 ^ f < m * 10 ^ e := scaled_lt_scaled hm (by omega)
      exact iff_of_false (by omega) (by omega)

/-- The normal form of a whole number: its sign, and a value that makes up its size. -/
theorem ofInt_spec {i : Int} (hi : i ≠ 0) :
    ∃ n e : Nat, ofInt i = .finite (decide (i < 0)) n e ∧ n * 10 ^ e = i.natAbs ∧ 0 < n := by
  have hsize : i.natAbs ≠ 0 := Int.natAbs_ne_zero.mpr hi
  obtain ⟨n, e, heq, hvalue⟩ :=
    Binary64.withoutTrailingZeros_spec (digits i.natAbs).length i.natAbs 0
  refine ⟨n, e, ?_, by rw [hvalue, Nat.pow_zero, Nat.mul_one], ?_⟩
  · unfold ofInt ofScaled
    rw [if_neg (by simpa using hsize)]
    dsimp only
    rw [show (0 : Int) = ((0 : Nat) : Int) from rfl, heq]
  · refine Nat.pos_of_ne_zero ?_
    rintro rfl
    rw [Nat.zero_mul, Nat.pow_zero, Nat.mul_one] at hvalue
    exact hsize hvalue.symm

theorem ofInt_zero : ofInt 0 = .finite false 0 0 := rfl

/-- Finite numbers other than zero: signs come first, then sizes. -/
theorem isLess_finite {s t : Bool} {m n : Nat} (hm : 0 < m) (hn : 0 < n) (e f : Int) :
    (finite s m e).isLess (finite t n f) =
      if s != t then s else if s then isBelow n f m e else isBelow m e n f := by
  have hmne : (m == 0) = false := by simpa using Nat.ne_of_gt hm
  have hnne : (n == 0) = false := by simpa using Nat.ne_of_gt hn
  show (if m == 0 then _ else if n == 0 || s != t then s else _) = _
  rw [hmne, hnne, Bool.false_or]
  rfl

/-- Whole numbers are in their order. -/
theorem isLess_ofInt (i j : Int) : (ofInt i).isLess (ofInt j) = decide (i < j) := by
  by_cases hi : i = 0
  · by_cases hj : j = 0
    · subst hi hj
      rfl
    · obtain ⟨n, f, hn, -, hpos⟩ := ofInt_spec hj
      subst hi
      have hne : (n != 0) = true := by simpa using Nat.ne_of_gt hpos
      rw [ofInt_zero, hn]
      show (n != 0 && !decide (j < 0)) = decide (0 < j)
      rw [hne, Bool.true_and, ← decide_not]
      exact decide_eq_decide.mpr (by omega)
  · obtain ⟨m, e, hm, hmvalue, hmpos⟩ := ofInt_spec hi
    by_cases hj : j = 0
    · subst hj
      have hne : (m == 0) = false := by simpa using Nat.ne_of_gt hmpos
      rw [ofInt_zero, hm]
      show (if m == 0 then false else decide (i < 0)) = decide (i < 0)
      rw [hne]
      rfl
    · obtain ⟨n, f, hn, hnvalue, hnpos⟩ := ofInt_spec hj
      rw [hm, hn, isLess_finite hmpos hnpos]
      by_cases hineg : i < 0 <;> by_cases hjneg : j < 0
      · rw [decide_eq_true hineg, decide_eq_true hjneg]
        refine (Bool.eq_iff_iff.mpr ?_ : isBelow n f m e = decide (i < j))
        rw [isBelow_iff hnpos hmpos, hmvalue, hnvalue, decide_eq_true_iff]
        omega
      · rw [decide_eq_true hineg, decide_eq_false hjneg]
        exact (decide_eq_true (by omega)).symm
      · rw [decide_eq_false hineg, decide_eq_true hjneg]
        exact (decide_eq_false (by omega)).symm
      · rw [decide_eq_false hineg, decide_eq_false hjneg]
        refine (Bool.eq_iff_iff.mpr ?_ : isBelow m e n f = decide (i < j))
        rw [isBelow_iff hmpos hnpos, hmvalue, hnvalue, decide_eq_true_iff]
        omega

end Magnitude

end RowDecoding.Number
