import MailMerge.Number.Shortest

/-!
# `MailMerge.Number.Layout`: how a number is laid out as text

A number is written with the fewest digits that read back. A `Layout` says for which numbers the
digits stand around a point, and how the others carry an exponent.
-/

set_option autoImplicit false

namespace MailMerge.Number

/-- The decisions of a number format. -/
structure Layout where
  /-- Which of two equally near shortest decimals is written. -/
  tie : Tie
  /-- The powers of ten of the leading digit, both included, between which no exponent is used. -/
  positional : Option (Int × Int)
  /-- What follows the digits of a number that has no fraction. -/
  integerEnding : String

/-- Shortest digits around a point, never an exponent; an integer has no point. -/
def plainLayout : Layout := ⟨.up, none, ""⟩

/-- The decimal digits of a number, none for zero. -/
def digitsOf (n : Nat) : List Char := if n = 0 then [] else Nat.toDigits 10 n

/-- Digits around a point: `digits * 10 ^ place`. -/
def positionalText (ending : String) (digits : Nat) (place : Int) : String :=
  let row := digitsOf digits
  if 0 ≤ place then
    let whole := row ++ List.replicate place.toNat '0'
    String.ofList (if whole.isEmpty then ['0'] else whole) ++ ending
  else
    let fraction := (-place).toNat
    -- Zeros in front make sure of one digit before the point.
    let padded := List.replicate (fraction + 1 - row.length) '0' ++ row
    let (whole, part) := padded.splitAt (padded.length - fraction)
    String.ofList whole ++ "." ++ String.ofList part

/-- One digit before the point, and the power of ten of that digit with its sign. -/
def exponentText (digits : Nat) (lead : Int) : String :=
  let power := (if lead < 0 then "e-" else "e+") ++ toString lead.natAbs
  match digitsOf digits with
  | [] => "0"
  | [digit] => String.ofList [digit] ++ power
  | digit :: fraction => String.ofList (digit :: '.' :: fraction) ++ power

/-- The text of a decimal. -/
def Layout.decimalText (layout : Layout) (d : Decimal) : String :=
  -- The power of ten that the first digit stands for.
  let lead := (digitCount d.digits : Int) + d.exponent - 1
  let isPositional :=
    match layout.positional with
    | none => true
    | some (least, greatest) => d.digits = 0 || (least ≤ lead && lead ≤ greatest)
  let text :=
    if isPositional then positionalText layout.integerEnding d.digits d.exponent
    else exponentText d.digits lead
  if d.negative then "-" ++ text else text

/-- The text of a number. -/
def Layout.text (layout : Layout) : Binary64 → String
  | .finite negative mantissa exponent =>
    layout.decimalText (shortestDecimal layout.tie negative mantissa exponent)
  | .infinite negative => if negative then "-inf" else "inf"
  | .nan => "NaN"

theorem positionalText_ne_empty (ending : String) (digits : Nat) (place : Int) :
    positionalText ending digits place ≠ "" := by
  unfold positionalText
  dsimp only
  split
  · rw [Ne, String.append_eq_empty_iff, String.ofList_eq_empty_iff]
    rintro ⟨hnil, -⟩
    split at hnil
    · cases hnil
    · rename_i hne
      exact hne (by simp [hnil])
  · simp

theorem exponentText_ne_empty (digits : Nat) (lead : Int) : exponentText digits lead ≠ "" := by
  unfold exponentText
  dsimp only
  split
  · decide
  · simp
  · simp

theorem Layout.decimalText_ne_empty (layout : Layout) (d : Decimal) :
    layout.decimalText d ≠ "" := by
  have hcases : ∀ isPositional : Bool,
      (if isPositional then positionalText layout.integerEnding d.digits d.exponent
        else exponentText d.digits (digitCount d.digits + d.exponent - 1)) ≠ "" := by
    intro isPositional
    cases isPositional with
    | false => exact exponentText_ne_empty _ _
    | true => exact positionalText_ne_empty _ _ _
  unfold Layout.decimalText
  dsimp only
  split
  · simp
  · exact hcases _

/-- A number is never written as nothing. -/
theorem Layout.text_ne_empty (layout : Layout) (x : Binary64) : layout.text x ≠ "" := by
  cases x with
  | finite negative mantissa exponent => exact layout.decimalText_ne_empty _
  | infinite negative => cases negative <;> simp [Layout.text]
  | nan => simp [Layout.text]

end MailMerge.Number
