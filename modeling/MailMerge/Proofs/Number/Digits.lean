import MailMerge.Number.Layout

/-!
# `MailMerge.Proofs.Number.Digits`: rows of decimal digits

A number and its row of digits tell each other, if no zero stands in front of the row.

* `isWhole_toDigits`, `toDigits_digitsValue`: the rows of the numbers are the rows without such a
  zero.
* `exists_toDigits_eq_append`: the last digit is zero only where ten divides the number.
-/

set_option autoImplicit false

namespace MailMerge.Number

theorem digitChar_of_isDigit {c : Char} (h : c.isDigit = true) :
    c.toNat - '0'.toNat < 10 ∧ Nat.digitChar (c.toNat - '0'.toNat) = c := by
  obtain ⟨hlow, hhigh⟩ := Char.isDigit_iff_toNat.1 h
  change 48 ≤ c.toNat at hlow
  change c.toNat ≤ 57 at hhigh
  have hlt : c.toNat - 48 < 10 := by omega
  refine ⟨hlt, Char.toNat_inj.1 ?_⟩
  rw [show '0'.toNat = 48 from rfl, Nat.toNat_digitChar_of_lt_ten hlt]
  omega

/-- The minus in front of a number. -/
def minus (negative : Bool) : List Char := if negative then ['-'] else []

/-- One digit or more. -/
structure IsDigits (cs : List Char) : Prop where
  ne_nil : cs ≠ []
  digits : ∀ c ∈ cs, c.isDigit = true

/-- A row of digits in which no zero stands in front of others. -/
structure IsWhole (cs : List Char) : Prop extends IsDigits cs where
  head : cs.head? = some '0' → cs.length = 1

/-- The number of a row of digits behind the digits of another number. -/
def appendDigits (n : Nat) (cs : List Char) : Nat :=
  cs.foldl (fun n c => n * 10 + (c.toNat - '0'.toNat)) n

theorem appendDigits_cons (n : Nat) (c : Char) (cs : List Char) :
    appendDigits n (c :: cs) = appendDigits (n * 10 + (c.toNat - '0'.toNat)) cs :=
  List.foldl_cons ..

theorem digitsValue_eq (cs : List Char) : digitsValue cs = appendDigits 0 cs := rfl

theorem le_appendDigits (n : Nat) (cs : List Char) : n ≤ appendDigits n cs := by
  induction cs generalizing n with
  | nil => exact Nat.le_refl n
  | cons c cs ih =>
      have hstep : n ≤ n * 10 + (c.toNat - '0'.toNat) := by omega
      exact Nat.le_trans hstep (ih _)

/-! ### From rows to numbers -/

/-- Digits behind the row of a number that is not zero. -/
theorem toDigits_append {n : Nat} (hn : 0 < n) {cs : List Char}
    (h : ∀ c ∈ cs, c.isDigit = true) :
    Nat.toDigits 10 n ++ cs = Nat.toDigits 10 (appendDigits n cs) := by
  induction cs generalizing n with
  | nil => exact List.append_nil _
  | cons c cs ih =>
      rw [List.forall_mem_cons] at h
      obtain ⟨hlt, hchar⟩ := digitChar_of_isDigit h.1
      have hstep := Nat.toDigits_append_toDigits (by decide) hn hlt
      rw [Nat.toDigits_of_lt_base hlt, hchar, Nat.mul_comm] at hstep
      rw [appendDigits_cons, ← ih (by omega) h.2, ← hstep, List.append_assoc, List.singleton_append]

/-- The row of a row's number. -/
theorem toDigits_digitsValue {cs : List Char} (h : IsWhole cs) :
    Nat.toDigits 10 (digitsValue cs) = cs := by
  obtain ⟨⟨hne, hdigits⟩, hhead⟩ := h
  cases cs with
  | nil => exact absurd rfl hne
  | cons c cs =>
      rw [List.forall_mem_cons] at hdigits
      obtain ⟨hlt, hchar⟩ := digitChar_of_isDigit hdigits.1
      by_cases hzero : c = '0'
      · subst hzero
        have hnil : cs = [] := by simpa using hhead rfl
        rw [hnil]
        decide
      · have hpos : 0 < c.toNat - '0'.toNat := Nat.pos_of_ne_zero fun h => by
          rw [h] at hchar
          exact hzero hchar.symm
        rw [digitsValue_eq, appendDigits_cons, Nat.zero_mul, Nat.zero_add,
          ← toDigits_append hpos hdigits.2, Nat.toDigits_of_lt_base hlt, hchar,
          List.singleton_append]

/-! ### From numbers to rows -/

/-- A number's row is that of the number without its last digit, and this digit. -/
theorem toDigits_eq_append {n : Nat} (h : 10 ≤ n) :
    Nat.toDigits 10 n = Nat.toDigits 10 (n / 10) ++ [(n % 10).digitChar] :=
  Nat.toDigits_of_base_le (by decide) h

/-- Only the row of zero starts with zero. -/
theorem head?_toDigits {n : Nat} (h : n ≠ 0) : (Nat.toDigits 10 n).head? ≠ some '0' := by
  induction n using Nat.strongRecOn with
  | ind n ih =>
      by_cases hten : 10 ≤ n
      · rw [toDigits_eq_append hten, List.head?_append, Option.or_of_isSome]
        · exact ih (n / 10) (by omega) (by omega)
        · rw [List.isSome_head?]
          exact Nat.toDigits_ne_nil
      · rw [Nat.toDigits_of_lt_base (Nat.lt_of_not_le hten), List.head?_cons, Ne, Option.some.injEq,
          Nat.digitChar_eq_zero]
        exact h

theorem isWhole_toDigits (n : Nat) : IsWhole (Nat.toDigits 10 n) where
  ne_nil := Nat.toDigits_ne_nil
  digits _ hc := Nat.isDigit_of_mem_toDigits (by decide) (by decide) hc
  head hhead := by
    by_cases h : n = 0
    · rw [h, Nat.toDigits_zero]
      rfl
    · exact absurd hhead (head?_toDigits h)

/-- The last digit of a number that ten does not divide is not zero. -/
theorem exists_toDigits_eq_append {n : Nat} (h : n % 10 ≠ 0) :
    ∃ front c, Nat.toDigits 10 n = front ++ [c] ∧ c ≠ '0' := by
  by_cases hten : 10 ≤ n
  · exact ⟨_, _, toDigits_eq_append hten, mt Nat.digitChar_eq_zero.1 h⟩
  · have hlt : n < 10 := Nat.lt_of_not_le hten
    rw [Nat.mod_eq_of_lt hlt] at h
    exact ⟨[], _, Nat.toDigits_of_lt_base hlt, mt Nat.digitChar_eq_zero.1 h⟩

end MailMerge.Number
