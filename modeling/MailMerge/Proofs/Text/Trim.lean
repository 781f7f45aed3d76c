import MailMerge.Text.Blank
import MailMerge.Text.Uppercase
import MailMerge.Text.WordCharacter
import Mathlib.Data.List.DropRight

/-!
# `MailMerge.Proofs.Text.Trim`: what trimming leaves

A trimmed text is one that trimming leaves as it is.

* `trimChars_eq_self_iff`: a text is trimmed when neither its first nor its last character is white
  space.
* `trimChars_trimChars`: trimming makes texts trimmed.
* `trimChars_append_of_blank`, `trimChars_blank_append`: white space around a text makes no
  difference.
* `exists_append_trimChars`: trimming takes nothing but white space.
* `isUppercase_of_isBlank`, `isWordCharacter_of_isBlank`: white space is apart from the tables.
-/

set_option autoImplicit false

namespace MailMerge.Text

theorem trimEnd_eq_rdropWhile (cs : List Char) : trimEnd cs = cs.rdropWhile isBlank := rfl

theorem trimEnd_eq_self_iff {cs : List Char} :
    trimEnd cs = cs ↔ ∀ c ∈ cs.getLast?, isBlank c = false := by
  rw [trimEnd_eq_rdropWhile, List.rdropWhile_eq_self_iff]
  constructor
  · intro h c hc
    have hne : cs ≠ [] := by
      rintro rfl
      cases hc
    rw [List.getLast?_eq_getLast_of_ne_nil hne, Option.mem_some_iff] at hc
    simpa [hc] using h hne
  · intro h hne
    have := h _ (List.getLast?_eq_getLast_of_ne_nil hne)
    simpa using this

theorem dropWhile_isBlank_eq_self_iff {cs : List Char} :
    cs.dropWhile isBlank = cs ↔ ∀ c ∈ cs.head?, isBlank c = false := by
  cases cs with
  | nil => simp
  | cons c cs => simp [List.dropWhile_eq_self_iff]

theorem trimChars_eq_self_iff {cs : List Char} :
    trimChars cs = cs
      ↔ (∀ c ∈ cs.head?, isBlank c = false) ∧ ∀ c ∈ cs.getLast?, isBlank c = false := by
  constructor
  · intro h
    -- Trimming at the end cannot give back what trimming at the front has taken.
    have hfront : cs.dropWhile isBlank = cs := by
      have hle : (trimChars cs).length ≤ (cs.dropWhile isBlank).length :=
        (List.rdropWhile_prefix isBlank _).length_le
      rw [h] at hle
      exact (List.dropWhile_suffix isBlank).eq_of_length_le hle
    refine ⟨dropWhile_isBlank_eq_self_iff.1 hfront, trimEnd_eq_self_iff.1 ?_⟩
    unfold trimChars at h
    rwa [hfront] at h
  · intro ⟨hfront, hback⟩
    unfold trimChars
    rw [dropWhile_isBlank_eq_self_iff.2 hfront, trimEnd_eq_self_iff.2 hback]

/-- What trimming leaves is a part of the text. -/
theorem trimChars_subset (cs : List Char) : trimChars cs ⊆ cs := by
  unfold trimChars
  rw [trimEnd_eq_rdropWhile]
  exact fun _ h => (List.dropWhile_suffix isBlank).subset ((List.rdropWhile_prefix _ _).subset h)

/-- A text that does not begin with white space keeps its first character. -/
theorem head?_trimChars {c : Char} (cs : List Char) (h : isBlank c = false) :
    (trimChars (c :: cs)).head? = some c := by
  have hfront : (c :: cs).dropWhile isBlank = c :: cs :=
    dropWhile_isBlank_eq_self_iff.2 (by simpa using h)
  unfold trimChars
  rw [hfront, trimEnd_eq_rdropWhile]
  obtain ⟨rest, hrest⟩ := List.rdropWhile_prefix isBlank (c :: cs)
  cases hkept : (c :: cs).rdropWhile isBlank with
  | nil =>
      have := List.rdropWhile_eq_nil_iff.1 hkept c List.mem_cons_self
      rw [h] at this
      cases this
  | cons c' kept =>
      rw [hkept, List.cons_append, List.cons.injEq] at hrest
      rw [hrest.1, List.head?_cons]

theorem trimChars_trimChars (cs : List Char) : trimChars (trimChars cs) = trimChars cs := by
  rw [trimChars_eq_self_iff]
  refine ⟨fun c hc => ?_, trimEnd_eq_self_iff.1 (List.rdropWhile_idempotent isBlank _)⟩
  -- The first character left is the first that is not white space.
  obtain ⟨rest, hrest⟩ := List.rdropWhile_prefix isBlank (cs.dropWhile isBlank)
  have hhead : (cs.dropWhile isBlank).head? = some c := by
    have hhead : (trimChars cs).head? = some c := hc
    rw [← hrest, List.head?_append]
    show (trimChars cs).head?.or _ = some c
    rw [hhead, Option.some_or]
  have := List.head?_dropWhile_not isBlank cs
  rw [hhead] at this
  simpa using this

theorem trimChars_append_of_blank {cs pad : List Char} (h : ∀ c ∈ pad, isBlank c = true) :
    trimChars (cs ++ pad) = trimChars cs := by
  have hend : ∀ xs : List Char, trimEnd (xs ++ pad) = trimEnd xs := by
    intro xs
    unfold trimEnd
    rw [List.reverse_append, List.dropWhile_append_of_pos fun c hc => h c (List.mem_reverse.1 hc)]
  unfold trimChars
  rw [List.dropWhile_append]
  split
  · rename_i hempty
    have hpad : pad.dropWhile isBlank = [] := List.dropWhile_eq_nil_iff.2 h
    rw [hpad, List.isEmpty_iff.1 hempty]
  · exact hend _

theorem trimChars_blank_append {pad cs : List Char} (h : ∀ c ∈ pad, isBlank c = true) :
    trimChars (pad ++ cs) = trimChars cs := by
  unfold trimChars
  rw [List.dropWhile_append_of_pos h]

theorem exists_append_trimChars (cs : List Char) :
    ∃ front back, cs = front ++ trimChars cs ++ back
      ∧ (∀ c ∈ front, isBlank c = true) ∧ ∀ c ∈ back, isBlank c = true := by
  refine ⟨cs.takeWhile isBlank, (cs.dropWhile isBlank).rtakeWhile isBlank, ?_, ?_, ?_⟩
  · unfold trimChars
    rw [trimEnd_eq_rdropWhile, List.append_assoc, List.rdropWhile_append_rtakeWhile,
      List.takeWhile_append_dropWhile]
  · exact fun c hc => List.mem_takeWhile_imp hc
  · exact fun c hc => List.mem_rtakeWhile_imp hc

/-- What trimming leaves of a text stands behind the white space at its front. -/
theorem takeWhile_append_trimChars_isPrefix (cs : List Char) :
    cs.takeWhile isBlank ++ trimChars cs <+: cs := by
  obtain ⟨back, hback⟩ := List.rdropWhile_prefix isBlank (cs.dropWhile isBlank)
  refine ⟨back, ?_⟩
  show cs.takeWhile isBlank ++ trimEnd (cs.dropWhile isBlank) ++ back = cs
  rw [trimEnd_eq_rdropWhile, List.append_assoc, hback, List.takeWhile_append_dropWhile]

/-- Of a text that does not begin with white space trimming leaves a front. -/
theorem trimChars_isPrefix {cs : List Char} (h : ∀ c ∈ cs.head?, isBlank c = false) :
    trimChars cs <+: cs := by
  unfold trimChars
  rw [dropWhile_isBlank_eq_self_iff.2 h, trimEnd_eq_rdropWhile]
  exact List.rdropWhile_prefix isBlank cs

/-- Trimming leaves nothing of white space alone. -/
theorem trimChars_eq_nil_iff {cs : List Char} :
    trimChars cs = [] ↔ ∀ c ∈ cs, isBlank c = true := by
  constructor
  · intro h c hc
    obtain ⟨front, back, hcs, hfront, hback⟩ := exists_append_trimChars cs
    rw [hcs, h, List.append_nil] at hc
    rcases List.mem_append.1 hc with hc | hc
    · exact hfront c hc
    · exact hback c hc
  · intro h
    have htrim : trimChars ([] ++ cs) = trimChars [] := trimChars_append_of_blank h
    exact htrim

/-! ### Characters that are no white space -/

/-- Whether a range of code points lies between two places of white space. -/
def isBetweenBlanks (range : Nat × Nat) : Bool :=
  (0x20 < range.1 && range.2 < 0x85) || (0xA0 < range.1 && range.2 < 0x1680)
    || (0x1680 < range.1 && range.2 < 0x2000) || (0x200A < range.1 && range.2 < 0x2028)
    || (0x202F < range.1 && range.2 < 0x205F) || (0x205F < range.1 && range.2 < 0x3000)
    || 0x3000 < range.1

theorem contains_eq_false_of_isBlank {ranges : Ranges} (h : ranges.all isBetweenBlanks = true)
    {c : Char} (hc : isBlank c = true) : ranges.contains c = false := by
  unfold Ranges.contains
  rw [List.any_eq_false]
  intro range hrange hin
  have hgap := List.all_eq_true.1 h range hrange
  simp only [isBlank, isBetweenBlanks, Bool.or_eq_true, Bool.and_eq_true, decide_eq_true_eq,
    beq_iff_eq] at hc hgap hin
  omega

/-- White space has no capitals. -/
theorem isUppercase_of_isBlank {c : Char} (h : isBlank c = true) : isUppercase c = false :=
  contains_eq_false_of_isBlank (by decide +kernel) h

/-- There is no white space in a word. -/
theorem isWordCharacter_of_isBlank {c : Char} (h : isBlank c = true) : isWordCharacter c = false :=
  contains_eq_false_of_isBlank (by decide +kernel) h

theorem toLower_of_isBlank {c : Char} (h : isBlank c = true) : c.toLower = c := by
  unfold Char.toLower
  split
  · rename_i hupper
    have hfirst : 65 ≤ c.toNat := hupper.1
    have hlast : c.toNat ≤ 90 := hupper.2
    simp only [isBlank, Bool.or_eq_true, Bool.and_eq_true, decide_eq_true_eq, beq_iff_eq] at h
    omega
  · rfl

end MailMerge.Text
