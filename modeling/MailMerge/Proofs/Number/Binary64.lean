import MailMerge.Number.Decimal
import Mathlib.Algebra.Order.Field.Power
import Mathlib.Data.Nat.Cast.Order.Field
import Mathlib.Tactic.Linarith
import Mathlib.Tactic.Positivity
import Mathlib.Tactic.Ring

/-!
# `MailMerge.Proofs.Number.Binary64`: double-precision numbers are canonical

A finite number is kept in its one normal form. All operations end in one rounding of a quotient
(`ofRatio`), so it is enough to show it there: the exponent is guessed by the logarithms of the two
numbers, which tell the quotient up to a factor of two.

* `exponentOf_spec`: the quotient has a mantissa of 53 bits at this exponent, or it is the least one.
* `canonical_ofRatio`, `Canonical.mul`, `Canonical.div`: results are canonical.
-/

set_option autoImplicit false

namespace MailMerge.Number

/-- An integer power as a quotient of natural ones. -/
theorem zpow_mul_pow_toNat {b : ℚ} (hb : b ≠ 0) (z : ℤ) : b ^ z * b ^ (-z).toNat = b ^ z.toNat := by
  rw [← zpow_natCast, ← zpow_natCast, ← zpow_add₀ hb]
  congr 1
  omega

namespace Binary64

/-- The normal form of a finite number: 53 bits, or the least exponent. -/
structure IsCanonical (mantissa : ℕ) (exponent : ℤ) : Prop where
  bits : mantissa < 2 ^ 53
  least : minExponent ≤ exponent
  greatest : exponent ≤ maxExponent
  normal : 2 ^ 52 ≤ mantissa ∨ exponent = minExponent

/-- A number is canonical if it is finite. -/
def Canonical : Binary64 → Prop
  | .finite _ mantissa exponent => IsCanonical mantissa exponent
  | _ => True

theorem isCanonical_zero : IsCanonical 0 minExponent :=
  ⟨by decide, le_refl _, by decide, .inr rfl⟩

/-! ### The exponent -/

theorem scaledRatio_pos (num : ℕ) {den : ℕ} (hden : 0 < den) (exponent : ℤ) :
    0 < (scaledRatio num den exponent).2 := by
  unfold scaledRatio
  split
  · simp only [Nat.pow_eq]
    positivity
  · exact hden

theorem scaledRatio_eq (num den : ℕ) (exponent : ℤ) :
    ((scaledRatio num den exponent).1 : ℚ) / (scaledRatio num den exponent).2
      = num / den / 2 ^ exponent := by
  have hsplit := zpow_mul_pow_toNat (two_ne_zero : (2 : ℚ) ≠ 0) exponent
  have hpos : (0 : ℚ) < 2 ^ exponent := by positivity
  unfold scaledRatio
  split
  · rw [show (-exponent).toNat = 0 by omega, pow_zero, mul_one] at hsplit
    rw [hsplit, div_div]
    simp only [Nat.pow_eq, Nat.cast_mul, Nat.cast_pow, Nat.cast_ofNat]
  · rw [show exponent.toNat = 0 by omega, pow_zero] at hsplit
    simp only [Nat.pow_eq, Nat.cast_mul, Nat.cast_pow, Nat.cast_ofNat]
    rw [eq_div_iff hpos.ne', div_mul_eq_mul_div, mul_assoc, mul_comm _ (2 ^ exponent), hsplit,
      mul_one]

/-- The logarithms tell a quotient up to a factor of two on either side. -/
theorem ratio_bracket {num den : ℕ} (hnum : num ≠ 0) (hden : 0 < den) :
    (2 : ℚ) ^ ((num.log2 : ℤ) - den.log2 - 1) ≤ num / den
      ∧ (num : ℚ) / den < 2 ^ ((num.log2 : ℤ) - den.log2 + 1) := by
  have hnumlow : (2 : ℚ) ^ num.log2 ≤ num := by exact_mod_cast Nat.log2_self_le hnum
  have hnumhigh : (num : ℚ) < 2 ^ (num.log2 + 1) := by exact_mod_cast Nat.lt_log2_self
  have hdenlow : (2 : ℚ) ^ den.log2 ≤ den := by exact_mod_cast Nat.log2_self_le hden.ne'
  have hdenhigh : (den : ℚ) < 2 ^ (den.log2 + 1) := by exact_mod_cast Nat.lt_log2_self
  have hdenpos : (0 : ℚ) < den := by exact_mod_cast hden
  have hlow : (2 : ℚ) ^ ((num.log2 : ℤ) - den.log2 - 1) = 2 ^ num.log2 / 2 ^ (den.log2 + 1) := by
    rw [sub_sub, zpow_sub₀ two_ne_zero, zpow_natCast]
    rfl
  have hhigh : (2 : ℚ) ^ ((num.log2 : ℤ) - den.log2 + 1) = 2 ^ (num.log2 + 1) / 2 ^ den.log2 := by
    rw [sub_add_eq_add_sub, zpow_sub₀ two_ne_zero, zpow_natCast]
    rfl
  rw [hlow, hhigh]
  exact ⟨by gcongr, by gcongr⟩

/-- The quotient has a mantissa of 53 bits at this exponent, or it is the least one. -/
theorem exponentOf_spec {num den : ℕ} (hnum : num ≠ 0) (hden : 0 < den) :
    (num : ℚ) / den / 2 ^ exponentOf num den < 2 ^ 53
      ∧ minExponent ≤ exponentOf num den
      ∧ (2 ^ 52 ≤ (num : ℚ) / den / 2 ^ exponentOf num den
        ∨ exponentOf num den = minExponent) := by
  obtain ⟨hlow, hhigh⟩ := ratio_bracket hnum hden
  generalize hguess : max minExponent ((num.log2 : ℤ) - den.log2 - 53) = guess
  have hmin : minExponent ≤ guess := by omega
  have hlog : (num.log2 : ℤ) - den.log2 - 53 ≤ guess := by omega
  have hcompare : (scaledRatio num den guess).1 / (scaledRatio num den guess).2 < Nat.pow 2 53
      ↔ (num : ℚ) / den / 2 ^ guess < 2 ^ 53 := by
    have hpos := scaledRatio_pos num hden guess
    rw [Nat.div_lt_iff_lt_mul hpos, ← scaledRatio_eq, div_lt_iff₀ (by exact_mod_cast hpos)]
    exact_mod_cast Iff.rfl
  unfold exponentOf
  rw [hguess]
  dsimp only
  split
  · rename_i hlt
    refine ⟨hcompare.1 hlt, hmin, ?_⟩
    by_cases heq : guess = minExponent
    · exact .inr heq
    · have hexact : guess = (num.log2 : ℤ) - den.log2 - 53 := by omega
      refine .inl ((le_div_iff₀ (by positivity)).2 ?_)
      calc (2 : ℚ) ^ 52 * 2 ^ guess = 2 ^ (52 + guess) := by
            rw [zpow_add₀ two_ne_zero]
            rfl
        _ = 2 ^ ((num.log2 : ℤ) - den.log2 - 1) := by
            congr 1
            omega
        _ ≤ num / den := hlow
  · rename_i hnot
    have hge : 2 ^ 53 ≤ (num : ℚ) / den / 2 ^ guess := le_of_not_gt (mt hcompare.2 hnot)
    have hhalf : (num : ℚ) / den / 2 ^ (guess + 1) = num / den / 2 ^ guess / 2 := by
      rw [zpow_add_one₀ two_ne_zero, ← div_div]
    refine ⟨(div_lt_iff₀ (by positivity)).2 ?_, by omega, .inl ?_⟩
    · calc (num : ℚ) / den < 2 ^ ((num.log2 : ℤ) - den.log2 + 1) := hhigh
        _ ≤ 2 ^ (53 + (guess + 1)) := zpow_le_zpow_right₀ one_le_two (by omega)
        _ = 2 ^ 53 * 2 ^ (guess + 1) := by
            rw [zpow_add₀ two_ne_zero]
            rfl
    · rw [hhalf]
      linarith

/-! ### Rounding -/

theorem roundDiv_bounds (num den : ℕ) : num / den ≤ roundDiv num den
    ∧ roundDiv num den ≤ num / den + 1 := by
  unfold roundDiv
  dsimp only
  split
  · omega
  · split
    · omega
    · omega

/-- The mantissa before a carry. -/
theorem roundDiv_scaledRatio {num den : ℕ} (hnum : num ≠ 0) (hden : 0 < den) :
    roundDiv (scaledRatio num den (exponentOf num den)).1
        (scaledRatio num den (exponentOf num den)).2 ≤ 2 ^ 53
      ∧ (2 ^ 52 ≤ roundDiv (scaledRatio num den (exponentOf num den)).1
          (scaledRatio num den (exponentOf num den)).2
        ∨ exponentOf num den = minExponent) := by
  obtain ⟨hlt, -, hnormal⟩ := exponentOf_spec hnum hden
  generalize exponentOf num den = exponent at hlt hnormal ⊢
  have hpos := scaledRatio_pos num hden exponent
  have hposq : (0 : ℚ) < (scaledRatio num den exponent).2 := by exact_mod_cast hpos
  obtain ⟨hlow, hhigh⟩ := roundDiv_bounds (scaledRatio num den exponent).1
    (scaledRatio num den exponent).2
  rw [← scaledRatio_eq] at hlt hnormal
  rw [div_lt_iff₀ hposq] at hlt
  rw [le_div_iff₀ hposq] at hnormal
  have hquotient : (scaledRatio num den exponent).1 / (scaledRatio num den exponent).2 < 2 ^ 53 :=
    (Nat.div_lt_iff_lt_mul hpos).2 (by exact_mod_cast hlt)
  refine ⟨by omega, hnormal.imp_left fun hle => ?_⟩
  have hquotient' : 2 ^ 52 ≤ (scaledRatio num den exponent).1 / (scaledRatio num den exponent).2 :=
    (Nat.le_div_iff_mul_le hpos).2 (by exact_mod_cast hle)
  omega

theorem canonical_ofRatio (negative : Bool) (num : ℕ) {den : ℕ} (hden : 0 < den) :
    (ofRatio negative num den).Canonical := by
  unfold ofRatio
  split
  · exact isCanonical_zero
  · rename_i hnum
    obtain ⟨hbits, hnormal⟩ := roundDiv_scaledRatio hnum hden
    have hleast := (exponentOf_spec hnum hden).2.1
    dsimp only
    split
    · split
      · trivial
      · rename_i hgreatest
        show IsCanonical (2 ^ 52) (exponentOf num den + 1)
        exact ⟨by decide, by omega, le_of_not_gt hgreatest, .inl (le_refl _)⟩
    · rename_i hcarry
      split
      · trivial
      · rename_i hgreatest
        exact ⟨lt_of_le_of_ne hbits hcarry, hleast, le_of_not_gt hgreatest, hnormal⟩

/-! ### Operations -/

theorem ratio_pos (mantissa : ℕ) (exponent : ℤ) : 0 < (ratio mantissa exponent).2 := by
  unfold ratio
  split
  · exact one_pos
  · simp only [Nat.pow_eq]
    positivity

theorem ratio_pos_of_ne_zero {mantissa : ℕ} (h : mantissa ≠ 0) (exponent : ℤ) :
    0 < (ratio mantissa exponent).1 := by
  have hpos := Nat.pos_of_ne_zero h
  unfold ratio
  split
  · simp only [Nat.pow_eq]
    positivity
  · exact hpos

theorem Canonical.mul {x : Binary64} (h : x.Canonical) (y : Binary64) : (x.mul y).Canonical := by
  cases x with
  | finite s m e =>
      cases y with
      | finite s' m' e' => exact canonical_ofRatio _ _ (Nat.mul_pos (ratio_pos m e) (ratio_pos m' e'))
      | infinite s' => exact h
      | nan => exact h
  | infinite s => exact h
  | nan => exact h

/-- A quotient by a number that is not zero. -/
theorem Canonical.div {x y : Binary64} (h : x.Canonical) (hy : y.isZero = false) :
    (x.div y).Canonical := by
  cases x with
  | finite s m e =>
      cases y with
      | finite s' m' e' =>
          have hne : m' ≠ 0 := by simpa [isZero] using hy
          exact canonical_ofRatio _ _ (Nat.mul_pos (ratio_pos m e) (ratio_pos_of_ne_zero hne e'))
      | infinite s' => exact h
      | nan => exact h
  | infinite s => exact h
  | nan => exact h

theorem Canonical.neg {x : Binary64} (h : x.Canonical) : x.neg.Canonical := by
  cases x <;> exact h

theorem canonical_ofNat (n : ℕ) : (ofNat n).Canonical := canonical_ofRatio false n one_pos

end Binary64

end MailMerge.Number
