import MailMerge.Command.Scalars
import MailMerge.Proofs.Number.Binary64
import MailMerge.Proofs.Number.Layout
import MailMerge.Proofs.Text.Cut

/-!
# `MailMerge.Proofs.Command.Numeral`: numbers in a file of values

`IsNumeral` is the grammar of numbers, together with the parts that the text of a number is divided
into. A number that is an integer of 64 bits stands for its own text, as this text has no zero in
front and no sign that says nothing. All others are printed again from a double-precision number.

* `exists_of_readNumeral?`, `readNumeral?_append`: what is read is a number, and a number is read
  where nothing behind it goes on with it.
* `text?_of_isWord`, `text?_of_not_isWord`: the text that a number stands for.
-/

set_option autoImplicit false

namespace MailMerge.Scalars

open MailMerge.Number MailMerge.Text

/-! ### The grammar -/

/-- The sign of an exponent. -/
inductive IsSign : List Char → Bool → Prop where
  | none : IsSign [] false
  | plus : IsSign ['+'] false
  | minus : IsSign ['-'] true

/-- A fraction with its digits. -/
inductive IsFraction : List Char → List Char → Prop where
  | none : IsFraction [] []
  | some {digits : List Char} (h : IsDigits digits) : IsFraction ('.' :: digits) digits

/-- An exponent with its sign and digits. -/
inductive IsExponent : List Char → Option (Bool × List Char) → Prop where
  | none : IsExponent [] none
  | some {mark : Char} {sign digits : List Char} {negative : Bool} (hmark : mark = 'e' ∨ mark = 'E')
      (hsign : IsSign sign negative) (hdigits : IsDigits digits) :
      IsExponent (mark :: (sign ++ digits)) (some (negative, digits))

/-- A text is a number and has these parts. -/
inductive IsNumeral : List Char → Numeral → Prop where
  | mk {negative : Bool} {whole point fraction power : List Char}
      {exponent : Option (Bool × List Char)} (hwhole : IsWhole whole)
      (hfraction : IsFraction point fraction) (hexponent : IsExponent power exponent) :
      IsNumeral (minus negative ++ (whole ++ (point ++ power)))
        ⟨negative, whole, fraction, exponent⟩

/-- A text does not go on with a number in front of it. -/
def Stops (rest : List Char) : Prop :=
  ∀ c ∈ rest.head?, c.isDigit = false ∧ c ≠ '.' ∧ c ≠ 'e' ∧ c ≠ 'E'

/-! ### Reading -/

theorem spanDigits_eq_iff {cs digits rest : List Char} :
    spanDigits cs = (digits, rest)
      ↔ cs = digits ++ rest ∧ (∀ c ∈ digits, c.isDigit = true)
          ∧ ∀ c ∈ rest.head?, c.isDigit = false := by
  unfold spanDigits
  rw [Prod.mk.injEq, takeWhile_dropWhile_iff]

theorem exists_isSign (cs : List Char) :
    ∃ sign, IsSign sign (takeSign cs).1 ∧ cs = sign ++ (takeSign cs).2 := by
  unfold takeSign
  split
  · exact ⟨_, .minus, rfl⟩
  · exact ⟨_, .plus, rfl⟩
  · exact ⟨_, .none, rfl⟩

theorem takeSign_append {sign cs : List Char} {negative : Bool} (h : IsSign sign negative)
    (hcs : ∀ c ∈ cs.head?, c.isDigit = true) : takeSign (sign ++ cs) = (negative, cs) := by
  cases h with
  | plus => rfl
  | minus => rfl
  | none =>
      rw [List.nil_append]
      unfold takeSign
      split
      · exact absurd (hcs '-' rfl) (by decide)
      · exact absurd (hcs '+' rfl) (by decide)
      · rfl

theorem isDigit_of_head?_append {digits : List Char} (h : IsDigits digits) (rest : List Char) :
    ∀ c ∈ (digits ++ rest).head?, c.isDigit = true := by
  obtain ⟨d, digits', rfl⟩ := List.exists_cons_of_ne_nil h.ne_nil
  intro c hc
  obtain rfl : d = c := by simpa using hc
  exact h.digits d List.mem_cons_self

theorem exists_of_readExponent? {cs rest : List Char} {exponent : Option (Bool × List Char)}
    (h : readExponent? cs = some (exponent, rest)) :
    ∃ source, IsExponent source exponent ∧ cs = source ++ rest := by
  unfold readExponent? at h
  split at h
  · cases h
    exact ⟨[], .none, rfl⟩
  · rename_i mark cs
    split at h
    · rename_i hmark
      obtain ⟨sign, hsign, hcs⟩ := exists_isSign cs
      obtain ⟨hspan, hdigits, -⟩ := spanDigits_eq_iff.1 (Prod.eta (spanDigits (takeSign cs).2)).symm
      dsimp only at h
      split at h
      · cases h
      · rename_i hne
        cases h
        refine ⟨_, .some hmark hsign ⟨by simpa using hne, hdigits⟩, ?_⟩
        rw [List.cons_append, List.append_assoc, ← hspan, ← hcs]
    · cases h
      exact ⟨[], .none, rfl⟩

theorem readExponent?_append {source rest : List Char} {exponent : Option (Bool × List Char)}
    (h : IsExponent source exponent) (hrest : Stops rest) :
    readExponent? (source ++ rest) = some (exponent, rest) := by
  cases h with
  | none =>
      rw [List.nil_append]
      cases rest with
      | nil => rfl
      | cons c rest =>
          obtain ⟨-, -, hlower, hupper⟩ := hrest c rfl
          simp [readExponent?, hlower, hupper]
  | some hmark hsign hdigits =>
      have hspan := spanDigits_eq_iff.2 ⟨rfl, hdigits.digits, fun c hc => (hrest c hc).1⟩
      rw [List.cons_append, List.append_assoc, readExponent?, if_pos hmark,
        takeSign_append hsign (isDigit_of_head?_append hdigits rest)]
      simp [hspan, hdigits.ne_nil]

theorem exists_of_readFraction? {cs fraction rest : List Char}
    (h : readFraction? cs = some (fraction, rest)) :
    ∃ source, IsFraction source fraction ∧ cs = source ++ rest := by
  unfold readFraction? at h
  split at h
  · rename_i cs
    obtain ⟨hspan, hdigits, -⟩ := spanDigits_eq_iff.1 (rfl : spanDigits cs = (_, _))
    dsimp only at h
    split at h
    · cases h
    · rename_i hne
      cases h
      exact ⟨_, .some ⟨by simpa using hne, hdigits⟩, congrArg ('.' :: ·) hspan⟩
  · cases h
    exact ⟨[], .none, rfl⟩

theorem readFraction?_append {source fraction rest : List Char} (h : IsFraction source fraction)
    (hrest : ∀ c ∈ rest.head?, c.isDigit = false ∧ c ≠ '.') :
    readFraction? (source ++ rest) = some (fraction, rest) := by
  cases h with
  | none =>
      rw [List.nil_append]
      unfold readFraction?
      split
      · exact absurd rfl (hrest _ rfl).2
      · rfl
  | some hdigits =>
      have hspan := spanDigits_eq_iff.2 ⟨rfl, hdigits.digits, fun c hc => (hrest c hc).1⟩
      simp [readFraction?, hspan, hdigits.ne_nil]

/-- The number that follows a minus or not. -/
def readUnsigned? (negative : Bool) (cs : List Char) : Option (Numeral × List Char) :=
  let (whole, rest) := spanDigits cs
  if whole.isEmpty || (whole.head? = some '0' && whole.length ≠ 1) then none
  else do
    let (fraction, rest) ← readFraction? rest
    let (exponent, rest) ← readExponent? rest
    return (⟨negative, whole, fraction, exponent⟩, rest)

theorem readNumeral?_minus (cs : List Char) :
    readNumeral? ('-' :: cs) = readUnsigned? true cs := rfl

theorem readNumeral?_of_head? {cs : List Char} (h : cs.head? ≠ some '-') :
    readNumeral? cs = readUnsigned? false cs := by
  unfold readNumeral?
  split
  rename_i negative rest heq
  split at heq
  · exact absurd rfl h
  · cases heq
    rfl

theorem exists_of_readUnsigned? {negative : Bool} {cs rest : List Char} {x : Numeral}
    (h : readUnsigned? negative cs = some (x, rest)) :
    ∃ source, IsNumeral (minus negative ++ source) x ∧ cs = source ++ rest := by
  obtain ⟨hspan, hdigits, -⟩ := spanDigits_eq_iff.1 (Prod.eta (spanDigits cs)).symm
  unfold readUnsigned? at h
  dsimp only at h
  split at h
  · cases h
  · rename_i hwhole
    simp only [Option.bind_eq_bind, Option.bind_eq_some_iff] at h
    obtain ⟨⟨fraction, behind⟩, hfraction, ⟨exponent, rest'⟩, hexponent, heq⟩ := h
    cases heq
    obtain ⟨point, hpoint, hbehind⟩ := exists_of_readFraction? hfraction
    obtain ⟨power, hpower, hrest⟩ := exists_of_readExponent? hexponent
    have hiswhole : IsWhole (spanDigits cs).1 := by
      refine ⟨⟨?_, hdigits⟩, fun hzero => ?_⟩
      · rintro hnil
        exact hwhole (by simp [hnil])
      · by_contra hlength
        exact hwhole (by simp [hzero, hlength])
    refine ⟨_, .mk hiswhole hpoint hpower, ?_⟩
    rw [List.append_assoc, List.append_assoc, ← hrest, ← hbehind, ← hspan]

theorem exists_of_readNumeral? {cs rest : List Char} {x : Numeral}
    (h : readNumeral? cs = some (x, rest)) :
    ∃ source, IsNumeral source x ∧ cs = source ++ rest := by
  by_cases hminus : cs.head? = some '-'
  · obtain ⟨cs, rfl⟩ := List.head?_eq_some_iff.1 hminus
    rw [readNumeral?_minus] at h
    obtain ⟨source, hsource, rfl⟩ := exists_of_readUnsigned? h
    exact ⟨_, hsource, rfl⟩
  · rw [readNumeral?_of_head? hminus] at h
    exact exists_of_readUnsigned? h

theorem readNumeral?_append {source rest : List Char} {x : Numeral} (h : IsNumeral source x)
    (hrest : Stops rest) : readNumeral? (source ++ rest) = some (x, rest) := by
  obtain @⟨negative, whole, point, fraction, power, exponent, hwhole, hfraction, hexponent⟩ := h
  -- Neither the exponent nor what follows it goes on with the fraction.
  have hpower : ∀ c ∈ (power ++ rest).head?, c.isDigit = false ∧ c ≠ '.' := by
    intro c hc
    cases hexponent with
    | none => exact ⟨(hrest c hc).1, (hrest c hc).2.1⟩
    | some hmark _ _ =>
        cases hc
        rcases hmark with rfl | rfl <;> decide
  have hpoint : ∀ c ∈ (point ++ (power ++ rest)).head?, c.isDigit = false := by
    intro c hc
    cases hfraction with
    | none => exact (hpower c hc).1
    | some _ =>
        cases hc
        decide
  have hspan := spanDigits_eq_iff.2 ⟨rfl, hwhole.digits, hpoint⟩
  have hunsigned : readUnsigned? negative (whole ++ (point ++ (power ++ rest)))
      = some (⟨negative, whole, fraction, exponent⟩, rest) := by
    have hnot : ¬(whole.isEmpty || (whole.head? = some '0' && whole.length ≠ 1)) = true := by
      simp only [Bool.or_eq_true, Bool.and_eq_true, List.isEmpty_iff, decide_eq_true_eq]
      rintro (hnil | ⟨hzero, hlength⟩)
      · exact hwhole.ne_nil hnil
      · exact hlength (hwhole.head hzero)
    unfold readUnsigned?
    rw [hspan]
    dsimp only
    rw [if_neg hnot, readFraction?_append hfraction hpower]
    simp only [Option.bind_eq_bind, Option.bind_some, readExponent?_append hexponent hrest]
    rfl
  simp only [List.append_assoc]
  cases negative with
  | true => exact hunsigned
  | false =>
      have hhead : (whole ++ (point ++ (power ++ rest))).head? ≠ some '-' := fun hminus =>
        absurd (isDigit_of_head?_append hwhole.toIsDigits _ '-' hminus) (by decide)
      rw [← hunsigned, ← readNumeral?_of_head? hhead]
      rfl

/-! ### The text that a number stands for -/

/-- A number is an integer of 64 bits. `-0` is none, as an integer has no sign of its own. -/
structure Numeral.IsWord (x : Numeral) : Prop where
  fraction : x.fraction = []
  exponent : x.exponent = none
  range : if x.negative then 0 < digitsValue x.whole ∧ digitsValue x.whole ≤ signedLimit
    else digitsValue x.whole < wordLimit

theorem Numeral.isWord_iff (x : Numeral) :
    x.IsWord ↔ (digitsValue x.whole < wordLimit ∧ x.fraction = [] ∧ x.exponent = none)
      ∧ (x.negative = true → 0 < digitsValue x.whole ∧ digitsValue x.whole ≤ signedLimit) := by
  constructor
  · rintro ⟨hfraction, hexponent, hrange⟩
    cases hnegative : x.negative with
    | false =>
        rw [if_neg (by simp [hnegative])] at hrange
        exact ⟨⟨hrange, hfraction, hexponent⟩, nofun⟩
    | true =>
        rw [if_pos hnegative] at hrange
        exact ⟨⟨Nat.lt_of_le_of_lt hrange.2 (by decide), hfraction, hexponent⟩, fun _ => hrange⟩
  · rintro ⟨⟨hlt, hfraction, hexponent⟩, hnegative⟩
    refine ⟨hfraction, hexponent, ?_⟩
    split
    · rename_i h
      exact hnegative h
    · exact hlt

instance (x : Numeral) : Decidable x.IsWord := decidable_of_iff' _ x.isWord_iff

theorem fill_of_lt {n : Nat} {cs : List Char} (h : appendDigits n cs < wordLimit) :
    fill n cs = (appendDigits n cs, []) := by
  induction cs generalizing n with
  | nil => rfl
  | cons c cs ih =>
      rw [appendDigits_cons] at h ⊢
      rw [fill, if_pos (Nat.lt_of_le_of_lt (le_appendDigits _ cs) h), ih h]

theorem fill_of_le {n : Nat} {cs : List Char} (hn : n < wordLimit)
    (h : wordLimit ≤ appendDigits n cs) : (fill n cs).2 ≠ [] := by
  induction cs generalizing n with
  | nil => exact absurd hn (Nat.not_lt.2 h)
  | cons c cs ih =>
      rw [appendDigits_cons] at h
      rw [fill]
      split
      · rename_i hnext
        exact ih hnext h
      · exact List.cons_ne_nil c cs

/-- All digits of a number fit exactly where the number does. -/
theorem fill_zero_eq_nil_iff {cs : List Char} :
    (fill 0 cs).2 = [] ↔ digitsValue cs < wordLimit := by
  constructor
  · intro h
    by_contra hle
    exact fill_of_le (by decide) (Nat.le_of_not_lt hle) h
  · intro h
    rw [fill_of_lt h]

/-- A row of digits is the text of its number. -/
theorem toString_digitsValue {cs : List Char} (h : IsWhole cs) :
    toString (digitsValue cs) = .ofList cs := by
  rw [Nat.toString_eq_ofList_toDigits, toDigits_digitsValue h]

theorem text?_eq (x : Numeral) :
    x.text? = if x.IsWord then some (.ofList (minus x.negative) ++ toString (digitsValue x.whole))
      else x.toBinary64?.map numberLayout.text := by
  have hinteger : ((fill 0 x.whole).2.isEmpty && x.fraction.isEmpty && x.exponent.isNone) = true
      ↔ digitsValue x.whole < wordLimit ∧ x.fraction = [] ∧ x.exponent = none := by
    simp [fill_zero_eq_nil_iff, and_assoc]
  unfold Numeral.text?
  simp only [x.isWord_iff, ← hinteger]
  generalize ((fill 0 x.whole).2.isEmpty && x.fraction.isEmpty && x.exponent.isNone) = isInteger
    at hinteger ⊢
  cases isInteger with
  | false => simp
  | true =>
      rw [fill_of_lt (hinteger.1 rfl).1, ← digitsValue_eq]
      cases x.negative with
      | false => simp [minus]
      | true => simp [minus]

theorem text?_of_isWord {source : List Char} {x : Numeral} (h : IsNumeral source x)
    (hword : x.IsWord) : x.text? = some (.ofList source) := by
  rw [text?_eq, if_pos hword]
  obtain @⟨negative, whole, point, fraction, power, exponent, hwhole, hfraction, hexponent⟩ := h
  obtain ⟨hpoint, hpower, -⟩ := hword
  dsimp only at hpoint hpower
  subst hpoint hpower
  cases hexponent
  cases hfraction with
  | some hdigits => exact absurd rfl hdigits.ne_nil
  | none =>
      rw [toString_digitsValue hwhole, List.append_nil, List.append_nil, String.ofList_append]

theorem text?_of_not_isWord {x : Numeral} (h : ¬x.IsWord) :
    x.text? = x.toBinary64?.map numberLayout.text := by
  rw [text?_eq, if_neg h]

/-! ### Numbers that are printed again -/

/-- The powers of ten that numbers are divided by. -/
theorem isZero_powerOfTen {n : Nat} (h : n ≤ 308) : (powerOfTen n).isZero = false := by
  have hall : ∀ n < 309, (powerOfTen n).isZero = false := by decide +kernel
  exact hall n (Nat.lt_succ_of_le h)

theorem canonical_divideBy {x : Binary64} (h : x.Canonical) (power : Nat) :
    (divideBy x power).Canonical := by
  fun_induction divideBy x power with
  | case1 x power hle => exact h.div (isZero_powerOfTen hle)
  | case2 x power hlt hzero => exact h
  | case3 x power hlt hzero ih => exact ih (h.div (isZero_powerOfTen (Nat.le_refl 308)))

theorem canonical_scale? {n : Nat} {power : Int} {y : Binary64} (h : scale? n power = some y) :
    y.Canonical := by
  have hnat := Binary64.canonical_ofNat n
  unfold scale? at h
  dsimp only at h
  split at h
  · cases h
    exact canonical_divideBy hnat power.natAbs
  · split at h
    · cases h
      exact hnat
    · split at h
      · cases h
      · rw [Option.filter_eq_some_iff] at h
        cases h.1
        exact hnat.mul (powerOfTen power.toNat)

theorem canonical_toBinary64? {x : Numeral} {y : Binary64} (h : x.toBinary64? = some y) :
    y.Canonical := by
  unfold Numeral.toBinary64? at h
  obtain ⟨m, hm, rfl⟩ := Option.map_eq_some_iff.1 h
  have hcanonical : m.Canonical := by
    split at hm
    · exact canonical_scale? hm
    · rename_i negative power _
      dsimp only at hm
      by_cases hlimit : exponentLimit ≤ digitsValue power
      · rw [if_pos hlimit] at hm
        split at hm
        · cases hm
          exact Binary64.isCanonical_zero
        · cases hm
      · rw [if_neg hlimit] at hm
        exact canonical_scale? hm
  split
  · exact hcanonical.neg
  · exact hcanonical

/-- A number that is printed as it is written has no digit that says nothing. -/
theorem isPrinted_of_text_eq {source : List Char} {x : Numeral} {y : Binary64}
    (h : IsNumeral source x) (hy : x.toBinary64? = some y)
    (heq : numberLayout.text y = .ofList source) : IsPrinted source := by
  have hsource : (numberLayout.text y).toList = source := by rw [heq, String.toList_ofList]
  have hcanonical := canonical_toBinary64? hy
  have hread : readNumeral? (source ++ []) = some (x, []) := readNumeral?_append h nofun
  rw [List.append_nil, ← hsource] at hread
  cases y with
  | finite negative mantissa exponent =>
      rw [← hsource]
      exact isPrinted_text rfl negative hcanonical
  -- The words for other numbers are no numbers of a file.
  | infinite negative => cases negative <;> cases hread
  | nan => cases hread

end MailMerge.Scalars
