import MailMerge.Number.Shortest
import MailMerge.Proofs.Number.Binary64
import Mathlib.Data.Rat.Floor

/-!
# `MailMerge.Proofs.Number.Shortest`: the decimal that a number is written as

The reals that round to a number are an interval around it, and `RoundsTo` says which they are. What
is written is the shortest decimal among them, and of all shortest ones the nearest to the number.

The search tries one grid after the other and looks only at the two points next to the number, which
is enough, as the interval is around it (`nearestOnGrid?_cases`). It needs no more than its twenty
grids, since the place that it starts at is known up to a factor of ten.

* `contains_onGrid_iff`: the search computes in natural numbers what is meant about the reals.
* `not_roundsTo_of_leadingPlace_lt`, `exists_roundsTo_leadingPlace`: it starts and ends in time.
* `isShortest_shortest`, `shortestDecimal_spec`: the decimal that is written is the shortest.
-/

set_option autoImplicit false

namespace MailMerge.Number

/-! ### The reals that round to a number -/

/-- Half way down to the next number, which lies twice as close below a power of two. -/
def lowerEnd (mantissa : ℕ) (exponent : ℤ) : ℚ :=
  if mantissa = 2 ^ 52 ∧ Binary64.minExponent < exponent then (mantissa - 1 / 4) * 2 ^ exponent
  else (mantissa - 1 / 2) * 2 ^ exponent

/-- Half way up to the next number. -/
def upperEnd (mantissa : ℕ) (exponent : ℤ) : ℚ := (mantissa + 1 / 2) * 2 ^ exponent

/-- A real rounds to the number `mantissa * 2 ^ exponent`. Half way it rounds to the even one. -/
def RoundsTo (mantissa : ℕ) (exponent : ℤ) (x : ℚ) : Prop :=
  if mantissa % 2 = 0 then lowerEnd mantissa exponent ≤ x ∧ x ≤ upperEnd mantissa exponent
  else lowerEnd mantissa exponent < x ∧ x < upperEnd mantissa exponent

/-- The digits and the place of a decimal that rounds to a number. No decimal on a coarser grid
does, and on its own grid it is nearest to the number. -/
structure IsShortest (mantissa : ℕ) (exponent : ℤ) (digits : ℕ) (place : ℤ) : Prop where
  rounds : RoundsTo mantissa exponent (digits * 10 ^ place)
  fewest : ∀ (k : ℕ) (coarser : ℤ), place < coarser →
    ¬RoundsTo mantissa exponent (k * 10 ^ coarser)
  nearest : ∀ k : ℕ, RoundsTo mantissa exponent (k * 10 ^ place) →
    |(digits : ℚ) * 10 ^ place - mantissa * 2 ^ exponent|
      ≤ |(k : ℚ) * 10 ^ place - mantissa * 2 ^ exponent|

/-- A decimal that is shortest ends in no zero, which would be on a coarser grid. -/
theorem IsShortest.digits_mod_ten {mantissa : ℕ} {exponent : ℤ} {digits : ℕ} {place : ℤ}
    (h : IsShortest mantissa exponent digits place) : digits % 10 ≠ 0 := by
  intro hzero
  refine h.fewest (digits / 10) (place + 1) (lt_add_one place) ?_
  have hdigits : digits = digits / 10 * 10 := by omega
  have heq : ((digits / 10 : ℕ) : ℚ) * 10 ^ (place + 1) = digits * 10 ^ place := by
    rw [zpow_add_one₀ (by norm_num), ← mul_assoc, mul_right_comm]
    exact_mod_cast congrArg (fun n : ℕ => (n : ℚ) * 10 ^ place) hdigits.symm
  rw [heq]
  exact h.rounds

theorem RoundsTo.bounds {mantissa : ℕ} {exponent : ℤ} {x : ℚ} (h : RoundsTo mantissa exponent x) :
    lowerEnd mantissa exponent ≤ x ∧ x ≤ upperEnd mantissa exponent := by
  unfold RoundsTo at h
  split at h
  · exact h
  · exact ⟨h.1.le, h.2.le⟩

theorem roundsTo_of_lt {mantissa : ℕ} {exponent : ℤ} {x : ℚ} (hlow : lowerEnd mantissa exponent < x)
    (hhigh : x < upperEnd mantissa exponent) : RoundsTo mantissa exponent x := by
  unfold RoundsTo
  split
  · exact ⟨hlow.le, hhigh.le⟩
  · exact ⟨hlow, hhigh⟩

theorem lowerEnd_lt (mantissa : ℕ) (exponent : ℤ) :
    lowerEnd mantissa exponent < mantissa * 2 ^ exponent := by
  have hpower : (0 : ℚ) < 2 ^ exponent := by positivity
  unfold lowerEnd
  split <;> linarith

theorem lt_upperEnd (mantissa : ℕ) (exponent : ℤ) :
    mantissa * 2 ^ exponent < upperEnd mantissa exponent := by
  have hpower : (0 : ℚ) < 2 ^ exponent := by positivity
  unfold upperEnd
  linarith

theorem lowerEnd_pos {mantissa : ℕ} (hpos : 0 < mantissa) (exponent : ℤ) :
    0 < lowerEnd mantissa exponent := by
  have hpower : (0 : ℚ) < 2 ^ exponent := by positivity
  have hone : (1 : ℚ) ≤ mantissa := by exact_mod_cast hpos
  unfold lowerEnd
  split
  · exact mul_pos (by linarith) hpower
  · exact mul_pos (by linarith) hpower

/-! ### On a grid of natural numbers -/

theorem RoundingInterval.contains_of_between {r : RoundingInterval} {a b x : ℕ}
    (ha : r.contains a = true) (hb : r.contains b = true) (hax : a ≤ x) (hxb : x ≤ b) :
    r.contains x = true := by
  unfold contains at ha hb ⊢
  cases hinclusive : r.inclusive with
  | true =>
      simp only [hinclusive, ↓reduceIte, Bool.and_eq_true, decide_eq_true_eq] at ha hb ⊢
      omega
  | false =>
      simp only [hinclusive, Bool.false_eq_true, ↓reduceIte, Bool.and_eq_true,
        decide_eq_true_eq] at ha hb ⊢
      omega

/-- Every grid point is beyond one of the two next to the value. -/
theorem grid_cases (value : ℕ) {step : ℕ} (hstep : 0 < step) (k : ℕ) :
    value / step * step ≤ value ∧ value < (value / step + 1) * step
      ∧ (k * step ≤ value / step * step ∨ (value / step + 1) * step ≤ k * step) := by
  refine ⟨Nat.div_mul_le_self value step, ?_, ?_⟩
  · rw [Nat.mul_comm]
    exact Nat.lt_mul_div_succ value hstep
  · rcases Nat.lt_or_ge (value / step) k with hk | hk
    · exact .inr (Nat.mul_le_mul_right step hk)
    · exact .inl (Nat.mul_le_mul_right step hk)

/-- What is found is one of the two grid points next to the value: one in the interval, and the
nearer one where both are. -/
theorem nearestOnGrid?_cases (tie : Tie) (r : RoundingInterval) (step : ℕ) :
    match nearestOnGrid? tie r step with
    | none => r.contains (r.value / step * step) = false
        ∧ r.contains ((r.value / step + 1) * step) = false
    | some count =>
        (count = r.value / step ∧ r.contains (r.value / step * step) = true
          ∧ (r.contains ((r.value / step + 1) * step) = true →
            2 * (r.value - r.value / step * step) ≤ step))
        ∨ (count = r.value / step + 1 ∧ r.contains ((r.value / step + 1) * step) = true
          ∧ (r.contains (r.value / step * step) = true →
            step ≤ 2 * (r.value - r.value / step * step))) := by
  unfold nearestOnGrid?
  dsimp only
  generalize r.value / step = n
  cases hdown : r.contains (n * step) with
  | false =>
      cases hup : r.contains ((n + 1) * step) with
      | false => exact ⟨rfl, rfl⟩
      | true => exact .inr ⟨rfl, rfl, nofun⟩
  | true =>
      cases hup : r.contains ((n + 1) * step) with
      | false => exact .inl ⟨rfl, rfl, nofun⟩
      | true =>
          rw [Bool.and_self, if_pos rfl]
          rcases lt_trichotomy (2 * (r.value - n * step)) step with hlt | heq | hgt
          · rw [if_pos hlt]
            exact .inl ⟨rfl, rfl, fun _ => hlt.le⟩
          · rw [if_neg heq.not_lt, if_neg heq.not_gt]
            cases tie with
            | up => exact .inr ⟨rfl, rfl, fun _ => heq.ge⟩
            | even =>
                rcases Nat.mod_two_eq_zero_or_one n with heven | hodd
                · exact .inl ⟨by rw [heven, Nat.add_zero], rfl, fun _ => heq.le⟩
                · exact .inr ⟨by rw [hodd], rfl, fun _ => heq.ge⟩
          · rw [if_neg hgt.not_gt, if_pos hgt]
            exact .inr ⟨rfl, rfl, fun _ => hgt.le⟩

/-- Where no count is found, there is no grid point in the interval. -/
theorem not_contains_of_nearestOnGrid? {tie : Tie} {r : RoundingInterval} {step : ℕ}
    (hvalue : r.contains r.value = true) (hstep : 0 < step)
    (h : nearestOnGrid? tie r step = none) (k : ℕ) : r.contains (k * step) = false := by
  have hnone := nearestOnGrid?_cases tie r step
  rw [h] at hnone
  obtain ⟨hlow, hhigh, hk⟩ := grid_cases r.value hstep k
  by_contra hcontains
  rw [Bool.not_eq_false] at hcontains
  rcases hk with hk | hk
  · rw [RoundingInterval.contains_of_between hcontains hvalue hk hlow] at hnone
    exact absurd hnone.1 (by decide)
  · rw [RoundingInterval.contains_of_between hvalue hcontains hhigh.le hk] at hnone
    exact absurd hnone.2 (by decide)

/-- The count that is found is that of a point in the interval, and of those the nearest. -/
theorem contains_of_nearestOnGrid? {tie : Tie} {r : RoundingInterval} {step count : ℕ}
    (hvalue : r.contains r.value = true) (hstep : 0 < step)
    (h : nearestOnGrid? tie r step = some count) :
    r.contains (count * step) = true
      ∧ ∀ k, r.contains (k * step) = true →
          (((count * step : ℕ) : ℤ) - r.value).natAbs ≤ (((k * step : ℕ) : ℤ) - r.value).natAbs := by
  have hsome := nearestOnGrid?_cases tie r step
  rw [h] at hsome
  have hnext : (r.value / step + 1) * step = r.value / step * step + step := Nat.succ_mul ..
  rcases hsome with ⟨rfl, hdown, hup⟩ | ⟨rfl, hup, hdown⟩
  · refine ⟨hdown, fun k hk => ?_⟩
    obtain ⟨hlow, hhigh, hbeyond⟩ := grid_cases r.value hstep k
    rcases hbeyond with hbeyond | hbeyond
    · omega
    · have hnear := hup (RoundingInterval.contains_of_between hvalue hk hhigh.le hbeyond)
      omega
  · refine ⟨hup, fun k hk => ?_⟩
    obtain ⟨hlow, hhigh, hbeyond⟩ := grid_cases r.value hstep k
    rcases hbeyond with hbeyond | hbeyond
    · have hnear := hdown (RoundingInterval.contains_of_between hk hvalue hbeyond hlow)
      omega
    · omega

/-! ### From the grid to the reals -/

theorem onGrid_step_pos (r : RoundingInterval) (exponent place : ℤ) :
    0 < (onGrid r exponent place).2 := by
  unfold onGrid
  simp only [Nat.pow_eq]
  positivity

/-- The grid and the interval are the reals in some unit. -/
theorem exists_unit {mantissa : ℕ} (hpos : 0 < mantissa) (exponent place : ℤ) :
    ∃ unit : ℚ, 0 < unit
      ∧ (∀ k : ℕ, ((k * (onGrid (roundingInterval mantissa exponent) exponent place).2 : ℕ) : ℚ)
          = k * 10 ^ place * unit)
      ∧ ((onGrid (roundingInterval mantissa exponent) exponent place).1.low : ℚ)
          = lowerEnd mantissa exponent * unit
      ∧ ((onGrid (roundingInterval mantissa exponent) exponent place).1.value : ℚ)
          = mantissa * 2 ^ exponent * unit
      ∧ ((onGrid (roundingInterval mantissa exponent) exponent place).1.high : ℚ)
          = upperEnd mantissa exponent * unit := by
  have htwo := zpow_mul_pow_toNat (two_ne_zero : (2 : ℚ) ≠ 0) (exponent - 2)
  have hten := zpow_mul_pow_toNat (by norm_num : (10 : ℚ) ≠ 0) place
  have hquarter : (2 : ℚ) ^ (exponent - 2) = 2 ^ exponent / 4 := by
    rw [zpow_sub₀ two_ne_zero]
    norm_num
  rw [hquarter] at htwo
  refine ⟨2 ^ (-(exponent - 2)).toNat * 10 ^ (-place).toNat, by positivity, fun k => ?_, ?_, ?_, ?_⟩
  · simp only [onGrid, Nat.pow_eq, Nat.cast_mul, Nat.cast_pow, Nat.cast_ofNat]
    rw [← hten]
    ring
  · simp only [onGrid, roundingInterval, lowerEnd, Nat.pow_eq]
    by_cases hhalf : mantissa = 2 ^ 52 ∧ Binary64.minExponent < exponent
    · rw [if_pos hhalf, if_pos hhalf, Nat.cast_mul, Nat.cast_sub (by omega)]
      push_cast
      rw [← htwo]
      ring
    · rw [if_neg hhalf, if_neg hhalf, Nat.cast_mul, Nat.cast_sub (by omega)]
      push_cast
      rw [← htwo]
      ring
  · simp only [onGrid, roundingInterval, Nat.pow_eq]
    push_cast
    rw [← htwo]
    ring
  · simp only [onGrid, roundingInterval, upperEnd, Nat.pow_eq]
    push_cast
    rw [← htwo]
    ring

/-- A grid point is in the interval exactly where its decimal rounds to the number. -/
theorem contains_onGrid_iff {mantissa : ℕ} (hpos : 0 < mantissa) (exponent place : ℤ) (k : ℕ) :
    (onGrid (roundingInterval mantissa exponent) exponent place).1.contains
        (k * (onGrid (roundingInterval mantissa exponent) exponent place).2) = true
      ↔ RoundsTo mantissa exponent (k * 10 ^ place) := by
  obtain ⟨unit, hunit, hpoint, hlow, -, hhigh⟩ := exists_unit hpos exponent place
  have hinclusive : (onGrid (roundingInterval mantissa exponent) exponent place).1.inclusive
      = decide (mantissa % 2 = 0) := rfl
  generalize onGrid (roundingInterval mantissa exponent) exponent place = grid at *
  have hle : grid.1.low ≤ k * grid.2 ↔ lowerEnd mantissa exponent ≤ k * 10 ^ place := by
    rw [← mul_le_mul_iff_of_pos_right hunit, ← hlow, ← hpoint, Nat.cast_le]
  have hge : k * grid.2 ≤ grid.1.high ↔ k * 10 ^ place ≤ upperEnd mantissa exponent := by
    rw [← mul_le_mul_iff_of_pos_right hunit, ← hhigh, ← hpoint, Nat.cast_le]
  have hlt : grid.1.low < k * grid.2 ↔ lowerEnd mantissa exponent < k * 10 ^ place := by
    rw [← mul_lt_mul_iff_of_pos_right hunit, ← hlow, ← hpoint, Nat.cast_lt]
  have hgt : k * grid.2 < grid.1.high ↔ k * 10 ^ place < upperEnd mantissa exponent := by
    rw [← mul_lt_mul_iff_of_pos_right hunit, ← hhigh, ← hpoint, Nat.cast_lt]
  unfold RoundingInterval.contains RoundsTo
  rw [hinclusive]
  by_cases heven : mantissa % 2 = 0
  · simp only [heven, decide_true, if_true, Bool.and_eq_true, decide_eq_true_eq, hle, hge]
  · simp only [heven, decide_false, Bool.false_eq_true, if_false, Bool.and_eq_true,
      decide_eq_true_eq, hlt, hgt]

theorem contains_onGrid_value {mantissa : ℕ} (hpos : 0 < mantissa) (exponent place : ℤ) :
    (onGrid (roundingInterval mantissa exponent) exponent place).1.contains
      (onGrid (roundingInterval mantissa exponent) exponent place).1.value = true := by
  obtain ⟨unit, hunit, -, hlow, hvalue, hhigh⟩ := exists_unit hpos exponent place
  generalize (onGrid (roundingInterval mantissa exponent) exponent place).1 = r at *
  have hlt : r.low < r.value := by
    rw [← Nat.cast_lt (α := ℚ), hlow, hvalue]
    exact mul_lt_mul_of_pos_right (lowerEnd_lt mantissa exponent) hunit
  have hgt : r.value < r.high := by
    rw [← Nat.cast_lt (α := ℚ), hhigh, hvalue]
    exact mul_lt_mul_of_pos_right (lt_upperEnd mantissa exponent) hunit
  unfold RoundingInterval.contains
  split
  · simp [hlt.le, hgt.le]
  · simp [hlt, hgt]

/-! ### One grid -/

theorem not_roundsTo_of_nearestOnGrid? {tie : Tie} {mantissa : ℕ} (hpos : 0 < mantissa)
    {exponent place : ℤ}
    (h : nearestOnGrid? tie (onGrid (roundingInterval mantissa exponent) exponent place).1
      (onGrid (roundingInterval mantissa exponent) exponent place).2 = none) (k : ℕ) :
    ¬RoundsTo mantissa exponent (k * 10 ^ place) := by
  rw [← contains_onGrid_iff hpos, not_contains_of_nearestOnGrid?
    (contains_onGrid_value hpos exponent place) (onGrid_step_pos ..) h k]
  exact Bool.false_ne_true

theorem roundsTo_of_nearestOnGrid? {tie : Tie} {mantissa : ℕ} (hpos : 0 < mantissa)
    {exponent place : ℤ} {count : ℕ}
    (h : nearestOnGrid? tie (onGrid (roundingInterval mantissa exponent) exponent place).1
      (onGrid (roundingInterval mantissa exponent) exponent place).2 = some count) :
    RoundsTo mantissa exponent (count * 10 ^ place)
      ∧ ∀ k : ℕ, RoundsTo mantissa exponent (k * 10 ^ place) →
          |(count : ℚ) * 10 ^ place - mantissa * 2 ^ exponent|
            ≤ |(k : ℚ) * 10 ^ place - mantissa * 2 ^ exponent| := by
  obtain ⟨hcontains, hnearest⟩ := contains_of_nearestOnGrid?
    (contains_onGrid_value hpos exponent place) (onGrid_step_pos ..) h
  refine ⟨(contains_onGrid_iff hpos exponent place count).1 hcontains, fun k hk => ?_⟩
  have hnear := hnearest k ((contains_onGrid_iff hpos exponent place k).2 hk)
  obtain ⟨unit, hunit, hpoint, -, hvalue, -⟩ := exists_unit hpos exponent place
  generalize onGrid (roundingInterval mantissa exponent) exponent place = grid at *
  have hdistance : ∀ n : ℕ, ((((n * grid.2 : ℕ) : ℤ) - grid.1.value).natAbs : ℚ)
      = |(n : ℚ) * 10 ^ place - mantissa * 2 ^ exponent| * unit := by
    intro n
    rw [Nat.cast_natAbs, Int.cast_abs, Int.cast_sub, Int.cast_natCast, Int.cast_natCast, hpoint,
      hvalue, ← sub_mul, abs_mul, abs_of_pos hunit]
  rw [← mul_le_mul_iff_of_pos_right hunit, ← hdistance, ← hdistance]
  exact_mod_cast hnear

/-! ### Powers of two and of ten

The place that the search starts at comes from `30103 / 100000`, which is a little more than the
logarithm of two to the base ten. -/

/-- Two powers are compared as all powers of the same bases are, if the ratio of exponents is. -/
theorem pow_le_pow_of_pow_le_pow {x y a b n k : ℕ} (hy : 0 < y) (ha : a ≠ 0) (h : x ^ a ≤ y ^ b)
    (hnk : n * b ≤ k * a) : x ^ n ≤ y ^ k := by
  have hpower : (x ^ n) ^ a ≤ (y ^ k) ^ a := by
    calc (x ^ n) ^ a = (x ^ a) ^ n := by rw [← pow_mul, ← pow_mul, Nat.mul_comm]
      _ ≤ (y ^ b) ^ n := Nat.pow_le_pow_left h n
      _ = y ^ (n * b) := by rw [← pow_mul, Nat.mul_comm]
      _ ≤ y ^ (k * a) := Nat.pow_le_pow_right hy hnk
      _ = (y ^ k) ^ a := by rw [← pow_mul]
  exact (Nat.pow_le_pow_iff_left ha).1 hpower

theorem two_pow_le_ten_pow {n k : ℕ} (h : n * 30103 ≤ k * 100000) : 2 ^ n ≤ 10 ^ k :=
  pow_le_pow_of_pow_le_pow (by decide) (by decide) (by decide +kernel) h

theorem ten_pow_le_two_pow {n k : ℕ} (h : n * 100000 ≤ k * 30102) : 10 ^ n ≤ 2 ^ k :=
  pow_le_pow_of_pow_le_pow (by decide) (by decide) (by decide +kernel) h

/-- Down to the least number the estimate of the logarithm is good enough. -/
theorem ten_pow_le_three_mul_two_pow {n : ℕ} (hn : n < 1075) :
    2 * 10 ^ ((n * 30103 + 99999) / 100000 - 1) ≤ 3 * 2 ^ n := by
  have hall : ∀ n < 1075,
      2 * Nat.pow 10 ((n * 30103 + 99999) / 100000 - 1) ≤ 3 * Nat.pow 2 n := by
    decide +kernel
  exact hall n hn

/-- The power of ten that the search starts at is not much below the leading bit. -/
theorem two_zpow_le {lead : ℤ} (h : -1074 ≤ lead) :
    (2 : ℚ) ^ (lead + 1) ≤ 3 * 10 ^ (lead * 30103 / 100000 + 1) := by
  rcases Int.lt_or_le lead 0 with hlead | hlead
  · obtain ⟨n, rfl⟩ := Int.exists_eq_neg_ofNat hlead.le
    have hpower : (2 : ℚ) * 10 ^ ((n * 30103 + 99999) / 100000 - 1) ≤ 3 * 2 ^ n := by
      exact_mod_cast ten_pow_le_three_mul_two_pow (by omega)
    have hplace : -(n : ℤ) * 30103 / 100000 + 1
        = -(((n * 30103 + 99999) / 100000 - 1 : ℕ) : ℤ) := by
      omega
    rw [hplace, zpow_add_one₀ (by norm_num), zpow_neg, zpow_neg, zpow_natCast, zpow_natCast,
      inv_mul_eq_div, ← div_eq_mul_inv, div_le_div_iff₀ (by positivity) (by positivity)]
    exact hpower
  · obtain ⟨n, rfl⟩ := Int.eq_ofNat_of_zero_le hlead
    have hpower : (2 : ℚ) ^ n ≤ 10 ^ (n * 30103 / 100000 + 1) := by
      exact_mod_cast two_pow_le_ten_pow (by omega)
    have hplace : (n : ℤ) * 30103 / 100000 + 1 = ((n * 30103 / 100000 + 1 : ℕ) : ℤ) := by
      push_cast
      rfl
    rw [hplace, zpow_natCast, zpow_add_one₀ (by norm_num), zpow_natCast]
    have hpos : (0 : ℚ) < 10 ^ (n * 30103 / 100000 + 1) := by positivity
    linarith

/-- The power of ten that the search starts at is not much above the leading bit. -/
theorem ten_zpow_le {lead : ℤ} (h : lead ≤ 1024) :
    (10 : ℚ) ^ (lead * 30103 / 100000) ≤ 10 * 2 ^ lead := by
  rcases Int.lt_or_le lead 0 with hlead | hlead
  · obtain ⟨n, rfl⟩ := Int.exists_eq_neg_ofNat hlead.le
    have hpower : (2 : ℚ) ^ n ≤ 10 * 10 ^ ((n * 30103 + 99999) / 100000) := by
      rw [← pow_succ']
      exact_mod_cast two_pow_le_ten_pow (by omega)
    have hplace : -(n : ℤ) * 30103 / 100000 = -(((n * 30103 + 99999) / 100000 : ℕ) : ℤ) := by
      omega
    rw [hplace, zpow_neg, zpow_neg, zpow_natCast, zpow_natCast, ← div_eq_mul_inv,
      inv_le_comm₀ (by positivity) (by positivity), inv_div, div_le_iff₀ (by norm_num)]
    linarith
  · obtain ⟨n, rfl⟩ := Int.eq_ofNat_of_zero_le hlead
    have hpower : (10 : ℚ) ^ (n * 30102 / 100000) ≤ 2 ^ n := by
      exact_mod_cast ten_pow_le_two_pow (by omega)
    have hplace : (n : ℤ) * 30103 / 100000 ≤ ((n * 30102 / 100000 + 1 : ℕ) : ℤ) := by
      omega
    calc (10 : ℚ) ^ ((n : ℤ) * 30103 / 100000) ≤ 10 ^ ((n * 30102 / 100000 + 1 : ℕ) : ℤ) :=
          zpow_le_zpow_right₀ (by norm_num) hplace
      _ = 10 * 10 ^ (n * 30102 / 100000) := by rw [zpow_natCast, pow_succ']
      _ ≤ 10 * 2 ^ (n : ℤ) := by
          rw [zpow_natCast]
          linarith

/-! ### The search -/

theorem searchGrids_succ (tie : Tie) (r : RoundingInterval) (exponent : ℤ) (tries : ℕ)
    (place : ℤ) :
    searchGrids tie r exponent (tries + 1) place
      = match nearestOnGrid? tie (onGrid r exponent place).1 (onGrid r exponent place).2 with
        | some count => (count, place)
        | none => searchGrids tie r exponent tries (place - 1) := rfl

/-- The search ends at the first grid on which there is a count. -/
theorem searchGrids_cases (tie : Tie) (r : RoundingInterval) (exponent : ℤ) (tries : ℕ)
    (place : ℤ) :
    (∃ count lower, searchGrids tie r exponent tries place = (count, lower)
        ∧ nearestOnGrid? tie (onGrid r exponent lower).1 (onGrid r exponent lower).2 = some count
        ∧ ∀ other, lower < other → other ≤ place →
          nearestOnGrid? tie (onGrid r exponent other).1 (onGrid r exponent other).2 = none)
      ∨ ∀ other, place - tries < other → other ≤ place →
          nearestOnGrid? tie (onGrid r exponent other).1 (onGrid r exponent other).2 = none := by
  induction tries generalizing place with
  | zero => exact .inr fun other hlow hhigh => by omega
  | succ tries ih =>
      rw [searchGrids_succ]
      cases hcount : nearestOnGrid? tie (onGrid r exponent place).1 (onGrid r exponent place).2 with
      | some count => exact .inl ⟨count, place, rfl, hcount, fun other hlow hhigh => by omega⟩
      | none =>
          have hstep : ∀ other, other ≤ place → other = place ∨ other ≤ place - 1 := by omega
          rcases ih (place - 1) with ⟨count, lower, hsearch, hfound, habove⟩ | hnone
          · refine .inl ⟨count, lower, hsearch, hfound, fun other hlow hhigh => ?_⟩
            rcases hstep other hhigh with rfl | hhigh
            · exact hcount
            · exact habove other hlow hhigh
          · refine .inr fun other hlow hhigh => ?_
            rcases hstep other hhigh with rfl | hhigh
            · exact hcount
            · exact hnone other (by omega) hhigh

/-! ### The shortest decimal -/

/-- A number lies between the powers of two of its leading bit. -/
theorem mul_two_zpow_bounds {mantissa : ℕ} (hpos : 0 < mantissa) (exponent : ℤ) :
    (2 : ℚ) ^ (mantissa.log2 + exponent) ≤ mantissa * 2 ^ exponent
      ∧ mantissa * 2 ^ exponent < (2 : ℚ) ^ (mantissa.log2 + exponent + 1) := by
  have hlow : (2 : ℚ) ^ mantissa.log2 ≤ mantissa := by exact_mod_cast Nat.log2_self_le hpos.ne'
  have hhigh : (mantissa : ℚ) < 2 ^ (mantissa.log2 + 1) := by exact_mod_cast Nat.lt_log2_self
  rw [add_right_comm, zpow_add₀ two_ne_zero, zpow_add₀ two_ne_zero]
  exact ⟨by gcongr; exact_mod_cast hlow, by gcongr; exact_mod_cast hhigh⟩

/-- On a grid that is fine enough there is a decimal that rounds to the number. -/
theorem exists_roundsTo {mantissa : ℕ} {exponent place : ℤ} (h : (10 : ℚ) ^ place < 2 ^ exponent / 2) :
    ∃ k : ℕ, RoundsTo mantissa exponent (k * 10 ^ place) := by
  have hplace : (0 : ℚ) < 10 ^ place := by positivity
  have hvalue : (0 : ℚ) ≤ mantissa * 2 ^ exponent / 10 ^ place := by positivity
  have hfloor := (le_div_iff₀ hplace).1 (Nat.floor_le hvalue)
  have hnext := (div_lt_iff₀ hplace).1 (Nat.lt_floor_add_one (mantissa * 2 ^ exponent / 10 ^ place : ℚ))
  refine ⟨⌊(mantissa * 2 ^ exponent / 10 ^ place : ℚ)⌋₊ + 1, roundsTo_of_lt ?_ ?_⟩
  · push_cast
    exact (lowerEnd_lt mantissa exponent).trans hnext
  · push_cast
    unfold upperEnd
    linarith

/-- On a grid that is too coarse there is none. -/
theorem not_roundsTo_of_lt {mantissa : ℕ} (hpos : 0 < mantissa) {exponent place : ℤ}
    (h : upperEnd mantissa exponent < 10 ^ place) (k : ℕ) :
    ¬RoundsTo mantissa exponent (k * 10 ^ place) := by
  intro hrounds
  obtain ⟨hlow, hhigh⟩ := hrounds.bounds
  have hend := lowerEnd_pos hpos exponent
  rcases Nat.eq_zero_or_pos k with rfl | hk
  · rw [Nat.cast_zero, zero_mul] at hlow
    linarith
  · have hone : (1 : ℚ) ≤ k := by exact_mod_cast hk
    have hplace : (0 : ℚ) < 10 ^ place := by positivity
    have hmul := le_mul_of_one_le_left hplace.le hone
    linarith

section

variable {mantissa : ℕ} {exponent : ℤ}

/-- The search does not start too low: above its first grid no decimal rounds to the number. -/
theorem not_roundsTo_of_leadingPlace_lt (hpos : 0 < mantissa)
    (h : Binary64.IsCanonical mantissa exponent) {place : ℤ}
    (hplace : leadingPlace mantissa exponent < place) (k : ℕ) :
    ¬RoundsTo mantissa exponent (k * 10 ^ place) := by
  have hleast : -1074 ≤ exponent := h.least
  refine not_roundsTo_of_lt hpos ?_ k
  have hone : (1 : ℚ) ≤ mantissa := by exact_mod_cast hpos
  have hpower : (0 : ℚ) < 2 ^ exponent := by positivity
  have hstart : (0 : ℚ) < 10 ^ leadingPlace mantissa exponent := by positivity
  calc upperEnd mantissa exponent
      ≤ 3 / 2 * (mantissa * 2 ^ exponent) := by
        unfold upperEnd
        nlinarith
    _ < 3 / 2 * 2 ^ (mantissa.log2 + exponent + 1 : ℤ) := by
        have hbound := (mul_two_zpow_bounds hpos exponent).2
        linarith
    _ ≤ 3 / 2 * (3 * 10 ^ leadingPlace mantissa exponent) := by
        have hbound : (2 : ℚ) ^ (mantissa.log2 + exponent + 1 : ℤ)
          ≤ 3 * 10 ^ leadingPlace mantissa exponent := two_zpow_le (by omega)
        linarith
    _ ≤ 10 ^ (leadingPlace mantissa exponent + 1) := by
        rw [zpow_add_one₀ (by norm_num)]
        linarith
    _ ≤ 10 ^ place := zpow_le_zpow_right₀ (by norm_num) (by omega)

/-- The search does not end too soon: on its last grid a decimal rounds to the number. -/
theorem exists_roundsTo_leadingPlace (hpos : 0 < mantissa)
    (h : Binary64.IsCanonical mantissa exponent) :
    ∃ k : ℕ, RoundsTo mantissa exponent (k * 10 ^ (leadingPlace mantissa exponent - 19)) := by
  have hgreatest : exponent ≤ 971 := h.greatest
  have hlog : mantissa.log2 < 53 := (Nat.log2_lt hpos.ne').2 h.bits
  have hpower : (0 : ℚ) < 2 ^ exponent := by positivity
  refine exists_roundsTo ?_
  have hlead : (10 : ℚ) ^ ((mantissa.log2 + exponent : ℤ) * 30103 / 100000)
      ≤ 10 * 2 ^ (mantissa.log2 + exponent : ℤ) := ten_zpow_le (by omega)
  have hbits : (2 : ℚ) ^ (mantissa.log2 + exponent : ℤ) ≤ 2 ^ 52 * 2 ^ exponent := by
    rw [zpow_add₀ two_ne_zero, zpow_natCast]
    gcongr
    · exact one_le_two
    · omega
  have hplace : (10 : ℚ) ^ (leadingPlace mantissa exponent - 19)
      = 10 ^ ((mantissa.log2 + exponent : ℤ) * 30103 / 100000) / 10 ^ 18 := by
    rw [leadingPlace, show ∀ z : ℤ, z + 1 - 19 = z - 18 by intro z; ring, zpow_sub₀ (by norm_num)]
    norm_num
  rw [hplace, div_lt_iff₀ (by positivity)]
  linarith

/-- The decimal that is found is the shortest. It has no zeros at its end to be dropped. -/
theorem isShortest_shortest (tie : Tie) (hpos : 0 < mantissa)
    (h : Binary64.IsCanonical mantissa exponent) :
    IsShortest mantissa exponent (shortest tie mantissa exponent).1
      (shortest tie mantissa exponent).2 := by
  rcases searchGrids_cases tie (roundingInterval mantissa exponent) exponent 20
    (leadingPlace mantissa exponent) with ⟨count, lower, hsearch, hfound, habove⟩ | hnone
  · obtain ⟨hrounds, hnearest⟩ := roundsTo_of_nearestOnGrid? hpos hfound
    have hshortest : IsShortest mantissa exponent count lower := by
      refine ⟨hrounds, fun k coarser hcoarser => ?_, hnearest⟩
      rcases Int.lt_or_le (leadingPlace mantissa exponent) coarser with hlead | hlead
      · exact not_roundsTo_of_leadingPlace_lt hpos h hlead k
      · exact not_roundsTo_of_nearestOnGrid? hpos (habove coarser hcoarser hlead) k
    have hlast := hshortest.digits_mod_ten
    have heq : shortest tie mantissa exponent = (count, lower) := by
      unfold shortest
      dsimp only
      rw [hsearch]
      dsimp only
      rw [if_neg (by omega), dropZeros, if_neg hlast]
    rw [heq]
    exact hshortest
  · obtain ⟨k, hk⟩ := exists_roundsTo_leadingPlace hpos h
    exact absurd hk (not_roundsTo_of_nearestOnGrid? hpos (hnone _ (by omega) (by omega)) k)

end

/-- A number other than zero is written by its shortest decimal, and zero by the digit zero. -/
theorem shortestDecimal_spec (tie : Tie) (negative : Bool) {mantissa : ℕ} {exponent : ℤ}
    (h : Binary64.IsCanonical mantissa exponent) :
    (mantissa = 0 ∧ shortestDecimal tie negative mantissa exponent = ⟨negative, 0, 0⟩)
      ∨ IsShortest mantissa exponent (shortestDecimal tie negative mantissa exponent).digits
          (shortestDecimal tie negative mantissa exponent).exponent := by
  unfold shortestDecimal
  rcases Nat.eq_zero_or_pos mantissa with hzero | hpos
  · rw [if_pos hzero]
    exact .inl ⟨hzero, rfl⟩
  · rw [if_neg hpos.ne']
    exact .inr (isShortest_shortest tie hpos h)

end MailMerge.Number
