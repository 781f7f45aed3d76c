import MailMerge.Proofs.Number.Digits
import MailMerge.Proofs.Number.Shortest

/-!
# `MailMerge.Proofs.Number.Layout`: what a number looks like as text

`IsPrinted` says what the texts of numbers look like that have a fraction or an exponent: there is
no digit that says nothing, such as a zero at the end of a fraction.

* `isPrinted_text`: the text of a finite number, in a layout that has a fraction for integers.
-/

set_option autoImplicit false

namespace MailMerge.Number

/-- Digits of which the last is not zero. -/
structure EndsNotInZero (cs : List Char) : Prop where
  digits : ∀ c ∈ cs, c.isDigit = true
  last : ∃ front c, cs = front ++ [c] ∧ c ≠ '0'

/-- A number with a fraction or an exponent, without a digit that says nothing. -/
inductive IsPrinted : List Char → Prop where
  | positional {negative : Bool} {whole fraction : List Char} (hwhole : IsWhole whole)
      (hfraction : fraction = ['0'] ∨ EndsNotInZero fraction) :
      IsPrinted (minus negative ++ (whole ++ '.' :: fraction))
  | scientific {negative : Bool} {digit sign : Char} {fraction power : List Char}
      (hdigit : digit.isDigit = true ∧ digit ≠ '0')
      (hfraction : fraction = [] ∨ ∃ part, fraction = '.' :: part ∧ EndsNotInZero part)
      (hsign : sign = '+' ∨ sign = '-') (hpower : IsWhole power) :
      IsPrinted (minus negative ++ (digit :: (fraction ++ 'e' :: sign :: power)))

/-! ### The row of digits -/

theorem endsNotInZero_toDigits {n : Nat} (h : n % 10 ≠ 0) : EndsNotInZero (Nat.toDigits 10 n) :=
  ⟨(isWhole_toDigits n).digits, exists_toDigits_eq_append h⟩

theorem EndsNotInZero.drop {cs : List Char} (h : EndsNotInZero cs) {n : Nat} (hn : n < cs.length) :
    EndsNotInZero (cs.drop n) := by
  obtain ⟨front, c, rfl, hc⟩ := h.last
  refine ⟨fun d hd => h.digits d (List.mem_of_mem_drop hd), front.drop n, c, ?_, hc⟩
  rw [List.length_append, List.length_singleton] at hn
  exact List.drop_append_of_le_length (by omega)

/-- Zeros in front of a row that ends in no zero. -/
theorem EndsNotInZero.replicate_append {cs : List Char} (h : EndsNotInZero cs) (n : Nat) :
    EndsNotInZero (List.replicate n '0' ++ cs) := by
  obtain ⟨hdigits, front, c, rfl, hc⟩ := h
  refine ⟨fun d hd => ?_, List.replicate n '0' ++ front, c, (List.append_assoc ..).symm, hc⟩
  rcases List.mem_append.1 hd with hd | hd
  · rw [List.eq_of_mem_replicate hd]
    decide
  · exact hdigits d hd

/-! ### Around a point -/

/-- The digits before the point, with zeros in front of the row so that there is one. -/
theorem isWhole_take {row : List Char} (h : IsDigits row) (hhead : row.head? ≠ some '0') {n : Nat}
    {padded : List Char} (hpadded : padded = List.replicate (n + 1 - row.length) '0' ++ row) :
    IsWhole (padded.take (padded.length - n)) := by
  have hlength : padded.length = n + 1 - row.length + row.length := by
    rw [hpadded, List.length_append, List.length_replicate]
  refine ⟨⟨?_, fun c hc => ?_⟩, fun hzero => ?_⟩
  · refine List.ne_nil_of_length_pos ?_
    rw [List.length_take]
    omega
  · rw [hpadded] at hc
    rcases List.mem_append.1 (List.mem_of_mem_take hc) with hc | hc
    · rw [List.eq_of_mem_replicate hc]
      decide
    · exact h.digits c hc
  · -- Without such zeros the digits begin with the row, which does not begin with zero.
    by_cases hrow : n + 1 ≤ row.length
    · rw [Nat.sub_eq_zero_of_le hrow, List.replicate_zero, List.nil_append] at hpadded
      rw [List.head?_take, if_neg (by omega), hpadded] at hzero
      exact absurd hzero hhead
    · rw [List.length_take]
      omega

/-- A row that is divided by a point. -/
theorem exists_positionalText (ending : String) {digits : Nat} {place : Int}
    (hdigits : digits % 10 ≠ 0) (hplace : place < 0) :
    ∃ whole fraction, positionalText ending digits place = .ofList (whole ++ '.' :: fraction)
      ∧ IsWhole whole ∧ EndsNotInZero fraction := by
  have hne : digits ≠ 0 := by
    rintro rfl
    exact hdigits rfl
  obtain ⟨n, hn⟩ : ∃ n, (-place).toNat = n + 1 := ⟨(-place).toNat - 1, by omega⟩
  unfold positionalText
  rw [if_neg (by omega), digitsOf, if_neg hne, hn]
  dsimp only
  generalize hpadded : List.replicate (n + 1 + 1 - (Nat.toDigits 10 digits).length) '0'
    ++ Nat.toDigits 10 digits = padded
  have hlength : n + 1 < padded.length := by
    rw [← hpadded, List.length_append, List.length_replicate]
    omega
  refine ⟨padded.take (padded.length - (n + 1)), padded.drop (padded.length - (n + 1)), ?_, ?_, ?_⟩
  · rw [List.splitAt_eq]
    dsimp only
    rw [show "." = String.ofList ['.'] from rfl, ← String.ofList_append, ← String.ofList_append,
      List.append_assoc, List.singleton_append]
  · exact isWhole_take (isWhole_toDigits digits).toIsDigits (head?_toDigits hne) hpadded.symm
  · rw [← hpadded] at hlength ⊢
    exact ((endsNotInZero_toDigits hdigits).replicate_append _).drop (by omega)

/-- A row with zeros behind it. -/
theorem exists_positionalText_of_nonneg (ending : String) {digits : Nat} {place : Int}
    (hdigits : digits ≠ 0) (hplace : 0 ≤ place) :
    ∃ whole, positionalText ending digits place = .ofList whole ++ ending ∧ IsWhole whole := by
  have hrow := isWhole_toDigits digits
  obtain ⟨c, cs, hcons⟩ := List.exists_cons_of_ne_nil hrow.ne_nil
  have hhead := head?_toDigits hdigits
  refine ⟨Nat.toDigits 10 digits ++ List.replicate place.toNat '0', ?_,
    ⟨by simp [hcons], fun d hd => ?_⟩, fun hzero => ?_⟩
  · unfold positionalText
    rw [if_pos hplace, digitsOf, if_neg hdigits, hcons]
    rfl
  · rcases List.mem_append.1 hd with hd | hd
    · exact hrow.digits d hd
    · rw [List.eq_of_mem_replicate hd]
      decide
  · rw [hcons] at hzero hhead
    exact absurd hzero hhead

/-! ### With an exponent -/

theorem exists_exponentText {digits : Nat} (lead : Int) (hdigits : digits % 10 ≠ 0) :
    ∃ digit fraction sign power,
      exponentText digits lead = .ofList (digit :: (fraction ++ 'e' :: sign :: power))
        ∧ (digit.isDigit = true ∧ digit ≠ '0')
        ∧ (fraction = [] ∨ ∃ part, fraction = '.' :: part ∧ EndsNotInZero part)
        ∧ (sign = '+' ∨ sign = '-') ∧ IsWhole power := by
  have hne : digits ≠ 0 := by
    rintro rfl
    exact hdigits rfl
  have hrow := isWhole_toDigits digits
  have hends := endsNotInZero_toDigits hdigits
  have hhead := head?_toDigits hne
  obtain ⟨digit, tail, hcons⟩ := List.exists_cons_of_ne_nil hrow.ne_nil
  rw [hcons] at hrow hends hhead
  have hdigit : digit.isDigit = true ∧ digit ≠ '0' :=
    ⟨hrow.digits digit List.mem_cons_self, fun h => hhead (h ▸ rfl)⟩
  obtain ⟨sign, hsign, hmark⟩ : ∃ sign, (sign = '+' ∨ sign = '-')
      ∧ (if lead < 0 then "e-" else "e+") = String.ofList ['e', sign] := by
    split
    · exact ⟨'-', .inr rfl, rfl⟩
    · exact ⟨'+', .inl rfl, rfl⟩
  have hpower : (if lead < 0 then "e-" else "e+") ++ toString lead.natAbs
      = String.ofList ('e' :: sign :: Nat.toDigits 10 lead.natAbs) := by
    rw [hmark, Nat.toString_eq_ofList_toDigits, ← String.ofList_append]
    rfl
  unfold exponentText
  rw [digitsOf, if_neg hne, hcons, hpower]
  cases tail with
  | nil =>
      refine ⟨digit, [], sign, _, ?_, hdigit, .inl rfl, hsign, isWhole_toDigits lead.natAbs⟩
      exact (String.ofList_append ..).symm
  | cons c tail =>
      refine ⟨digit, '.' :: c :: tail, sign, _, ?_, hdigit, .inr ⟨_, rfl, ?_⟩, hsign,
        isWhole_toDigits lead.natAbs⟩
      · exact (String.ofList_append ..).symm
      · exact hends.drop (by simp : 1 < (digit :: c :: tail).length)

/-! ### Numbers -/

/-- A decimal is written around a point or with an exponent, and zero is written around a point. -/
theorem exists_decimalText (layout : Layout) (d : Decimal) :
    ∃ isPositional : Bool, (d.digits = 0 → isPositional = true)
      ∧ (layout.decimalText d).toList = minus d.negative
          ++ (if isPositional then positionalText layout.integerEnding d.digits d.exponent
            else exponentText d.digits (digitCount d.digits + d.exponent - 1)).toList := by
  have hminus : ∀ text : String,
      (if d.negative then "-" ++ text else text).toList = minus d.negative ++ text.toList := by
    intro text
    cases d.negative with
    | true => exact String.toList_append
    | false => rfl
  refine ⟨_, fun hzero => ?_, hminus _⟩
  split
  · rfl
  · rw [hzero]
    rfl

/-- The texts of finite numbers in a layout that writes a fraction for integers too. -/
theorem isPrinted_text {layout : Layout} (hending : layout.integerEnding = ".0") (negative : Bool)
    {mantissa : Nat} {exponent : Int} (h : Binary64.IsCanonical mantissa exponent) :
    IsPrinted (layout.text (.finite negative mantissa exponent)).toList := by
  obtain ⟨isPositional, hzero, htext⟩ := exists_decimalText layout
    (shortestDecimal layout.tie negative mantissa exponent)
  show IsPrinted (layout.decimalText _).toList
  rw [htext, hending]
  rcases shortestDecimal_spec layout.tie negative h with ⟨-, hnone⟩ | hshortest
  · rw [hnone] at hzero ⊢
    rw [if_pos (hzero rfl)]
    have htext : positionalText ".0" 0 0 = .ofList ['0', '.', '0'] := by decide +kernel
    dsimp only
    rw [htext, String.toList_ofList]
    exact .positional (isWhole_toDigits 0) (.inl rfl)
  · have hdigits := hshortest.digits_mod_ten
    generalize shortestDecimal layout.tie negative mantissa exponent = d at hdigits
    have hne : d.digits ≠ 0 := fun hzero => by
      rw [hzero] at hdigits
      exact hdigits rfl
    cases isPositional with
    | false =>
        obtain ⟨digit, fraction, sign, power, hexponent, hdigit, hfraction, hsign, hpower⟩ :=
          exists_exponentText (digitCount d.digits + d.exponent - 1) hdigits
        rw [if_neg Bool.false_ne_true, hexponent, String.toList_ofList]
        exact .scientific hdigit hfraction hsign hpower
    | true =>
        rw [if_pos rfl]
        by_cases hplace : 0 ≤ d.exponent
        · obtain ⟨whole, hwhole, hiswhole⟩ :=
            exists_positionalText_of_nonneg ".0" hne hplace
          rw [hwhole, String.toList_append, String.toList_ofList]
          exact .positional hiswhole (.inl rfl)
        · obtain ⟨whole, fraction, hpoint, hiswhole, hfraction⟩ :=
            exists_positionalText ".0" hdigits (Int.lt_of_not_ge hplace)
          rw [hpoint, String.toList_ofList]
          exact .positional hiswhole (.inr hfraction)

end MailMerge.Number
