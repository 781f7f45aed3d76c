import MailMerge.Text.CaseMapping

/-!
# `MailMerge.Proofs.Text.Capital`: a capital is its own capital

Upper case comes from a table of shifts and a table of expansions. The code points that have an
entry in one of them are put into one number, a bit for each, and no row of shifts leads to one of
these bits. So a character to which a row leads has no entry, and is its own upper case.

* `testBit_bitsOf`: what the bits of the number say.
* `capital?_capital?`: the capital of a character is its own capital.
-/

set_option autoImplicit false

namespace MailMerge.Text

/-- A row `(first, last, step, shift)` of a table of shifts. -/
abbrev Row := Nat × Nat × Nat × Int

/-- The code points of a row. -/
def Covers (row : Row) (n : Nat) : Prop :=
  row.1 ≤ n ∧ n ≤ row.2.1 ∧ (n - row.1) % row.2.2.1 = 0

theorem exists_covers_of_find? {shifts : Shifts} {n : Nat} {shift : Int}
    (h : shifts.find? n = some shift) : ∃ row ∈ shifts, Covers row n ∧ row.2.2.2 = shift := by
  unfold Shifts.find? at h
  obtain ⟨row, hrow, hshift⟩ := List.exists_of_findSome?_eq_some h
  simp only [Option.ite_none_right_eq_some, Option.some.injEq, Bool.and_eq_true,
    decide_eq_true_eq] at hshift
  exact ⟨row, hrow, ⟨hshift.1.1.1, hshift.1.1.2, hshift.1.2⟩, hshift.2⟩

theorem find?_eq_none_of_not_covers {shifts : Shifts} {n : Nat}
    (h : ∀ row ∈ shifts, ¬Covers row n) : shifts.find? n = none := by
  unfold Shifts.find?
  rw [List.findSome?_eq_none_iff]
  intro row hrow
  refine if_neg fun hcovers => h row hrow ?_
  simp only [Bool.and_eq_true, decide_eq_true_eq] at hcovers
  exact ⟨hcovers.1.1, hcovers.1.2, hcovers.2⟩

/-- The code points that a row covers, listed. -/
def codes (row : Row) : List Nat :=
  (List.range ((row.2.1 - row.1) / row.2.2.1 + 1)).map fun k => row.1 + row.2.2.1 * k

theorem Covers.mem_codes {row : Row} {n : Nat} (h : Covers row n) : n ∈ codes row := by
  obtain ⟨hfirst, hlast, hstep⟩ := h
  refine List.mem_map.2 ⟨(n - row.1) / row.2.2.1, ?_, ?_⟩
  · rw [List.mem_range, Nat.lt_succ_iff]
    exact Nat.div_le_div_right (by omega)
  · rw [Nat.mul_div_cancel' (Nat.dvd_of_mod_eq_zero hstep)]
    omega

/-! ### Sets of code points -/

/-- Numbers as the bits of one number. -/
def bitsOf (ns : List Nat) : Nat := ns.foldr (fun n bits => bits ||| 1 <<< n) 0

theorem testBit_bitsOf {ns : List Nat} {n : Nat} : (bitsOf ns).testBit n = true ↔ n ∈ ns := by
  induction ns with
  | nil => simp [bitsOf]
  | cons m ns ih =>
      show (bitsOf ns ||| 1 <<< m).testBit n = true ↔ _
      rw [Nat.testBit_or, Bool.or_eq_true, ih, Nat.one_shiftLeft, Nat.testBit_two_pow,
        decide_eq_true_eq, List.mem_cons, or_comm, eq_comm]

/-- The code points whose upper case is not themselves. -/
def changedByUpperCase : List Nat := upperShifts.flatMap codes ++ upperExpansions.map (·.1)

/-! ### Where a row leads -/

/-- Whether a row leads to characters. -/
def landsOnCharacters (row : Row) : Bool :=
  0 ≤ row.1 + row.2.2.2
    && (row.2.1 + row.2.2.2 < 0xD800
      || (0xDFFF < row.1 + row.2.2.2 && row.2.1 + row.2.2.2 < 0x110000))

theorem toNat_shifted {row : Row} (h : landsOnCharacters row) {c : Char}
    (hc : Covers row c.toNat) : ((shifted c row.2.2.2).toNat : Int) = c.toNat + row.2.2.2 := by
  obtain ⟨first, last, step, shift⟩ := row
  simp only [landsOnCharacters, Bool.or_eq_true, Bool.and_eq_true, decide_eq_true_eq] at h
  simp only [Covers] at hc ⊢
  have hvalid : (c.toNat + shift).toNat.isValidChar := by
    unfold Nat.isValidChar
    omega
  have hnat : (shifted c shift).toNat = (c.toNat + shift).toNat := by
    unfold shifted
    rw [Char.ofNat, dif_pos hvalid]
    rfl
  rw [hnat]
  omega

/-! ### The table of upper case -/

theorem landsOnCharacters_upperShifts : ∀ row ∈ upperShifts, landsOnCharacters row := by
  decide +kernel

/-- No row leads to a code point that is changed. -/
theorem testBit_landing : (upperShifts.all fun row => (codes row).all fun n =>
    !(bitsOf changedByUpperCase).testBit (n + row.2.2.2).toNat) = true := by
  decide +kernel

theorem length_upperExpansions : ∀ expansion ∈ upperExpansions, expansion.2.length ≠ 1 := by
  decide +kernel

/-- A code point without an entry is its own upper case. -/
theorem upperOf_of_not_mem {c : Char} (h : c.toNat ∉ changedByUpperCase) : upperOf c = [c] := by
  unfold changedByUpperCase at h
  rw [List.mem_append, not_or] at h
  have hshifts : upperShifts.find? c.toNat = none :=
    find?_eq_none_of_not_covers fun row hrow hcovers =>
      h.1 (List.mem_flatMap.2 ⟨row, hrow, hcovers.mem_codes⟩)
  have hexpansions : upperExpansions.find? (·.1 == c.toNat) = none := by
    rw [List.find?_eq_none]
    intro expansion hexpansion heq
    exact h.2 (List.mem_map.2 ⟨expansion, hexpansion, beq_iff_eq.1 heq⟩)
  unfold upperOf
  rw [hexpansions]
  dsimp only
  rw [hshifts]

/-- A character to which a row leads is its own upper case. -/
theorem upperOf_shifted {row : Row} (hrow : row ∈ upperShifts) {c : Char}
    (hc : Covers row c.toNat) : upperOf (shifted c row.2.2.2) = [shifted c row.2.2.2] := by
  have hcode := toNat_shifted (landsOnCharacters_upperShifts row hrow) hc
  have hlanding := List.all_eq_true.1 (List.all_eq_true.1 testBit_landing row hrow) c.toNat
    hc.mem_codes
  refine upperOf_of_not_mem fun hmem => ?_
  rw [← hcode, Int.toNat_natCast, testBit_bitsOf.2 hmem] at hlanding
  cases hlanding

theorem capital?_eq_some_iff {c d : Char} : capital? c = some d ↔ upperOf c = [d] := by
  unfold capital?
  split
  · rename_i upper hupper
    rw [hupper, Option.some.injEq, List.singleton_inj]
  · rename_i hne
    refine iff_of_false (by simp) fun h => hne d h

/-- A capital is its own capital. -/
theorem capital?_capital? {c d : Char} (h : capital? c = some d) : capital? d = some d := by
  rw [capital?_eq_some_iff] at h ⊢
  unfold upperOf at h
  split at h
  · -- The upper case of `c` has several characters, so it is not `d` alone.
    rename_i code codes hfind
    have hlength := length_upperExpansions _ (List.mem_of_find?_eq_some hfind)
    rw [← List.length_map, h] at hlength
    exact absurd rfl hlength
  · rename_i hexpansions
    split at h
    · rename_i shift hshift
      obtain ⟨row, hrow, hcovers, rfl⟩ := exists_covers_of_find? hshift
      rw [← List.singleton_inj.1 h]
      exact upperOf_shifted hrow hcovers
    · rename_i hshifts
      rw [← List.singleton_inj.1 h]
      unfold upperOf
      rw [hexpansions]
      dsimp only
      rw [hshifts]

end MailMerge.Text
