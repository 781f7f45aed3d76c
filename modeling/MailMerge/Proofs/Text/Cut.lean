import MailMerge.Text.Cut
import Mathlib.Data.List.Infix
import Mathlib.Data.List.TakeWhile

/-!
# `MailMerge.Proofs.Text.Cut`: where a text is cut

* `segments_append_mark`: the segments of two texts with a mark between them are those of the one,
  then those of the other.
* `cutLast?_append_mark`: a text is cut at a mark that no other follows.
* `cutAt?_append_of_cutAt?`: where a text is cut depends on nothing behind the mark.
* `takeWhile_dropWhile_iff`: where the characters of a class end at the front of a text.
-/

set_option autoImplicit false

namespace MailMerge.Text

/-! ### At every mark -/

theorem segments_of_not_mem {mark : Char} {cs : List Char} (h : mark ∉ cs) :
    segments mark cs = (cs, []) := by
  induction cs with
  | nil => rfl
  | cons c cs ih =>
      rw [List.mem_cons, not_or] at h
      simp [segments, ih h.2, Ne.symm h.1]

theorem segments_append_mark (mark : Char) (xs ys : List Char) :
    segments mark (xs ++ mark :: ys)
      = ((segments mark xs).1,
          (segments mark xs).2 ++ (segments mark ys).1 :: (segments mark ys).2) := by
  induction xs with
  | nil => simp [segments]
  | cons c cs ih =>
      by_cases h : c = mark
      · simp [segments, ih, h]
      · simp [segments, ih, h]

/-- There is no mark in a segment. -/
theorem not_mem_segments (mark : Char) (cs : List Char) :
    mark ∉ (segments mark cs).1 ∧ ∀ segment ∈ (segments mark cs).2, mark ∉ segment := by
  induction cs with
  | nil => simp [segments]
  | cons c cs ih =>
      obtain ⟨hfirst, hothers⟩ := ih
      by_cases h : c = mark
      · simp only [segments, if_pos h]
        refine ⟨List.not_mem_nil, fun segment hsegment => ?_⟩
        rcases List.mem_cons.1 hsegment with rfl | hmem
        · exact hfirst
        · exact hothers segment hmem
      · simp only [segments, if_neg h]
        exact ⟨by simpa using ⟨Ne.symm h, hfirst⟩, hothers⟩

/-! ### At the last mark -/

theorem cutLast?_eq_none {mark : Char} {cs : List Char} (h : mark ∉ cs) :
    cutLast? mark cs = none := by
  induction cs with
  | nil => rfl
  | cons c cs ih =>
      rw [List.mem_cons, not_or] at h
      simp [cutLast?, ih h.2, Ne.symm h.1]

theorem cutLast?_append_mark {mark : Char} {before behind : List Char} (h : mark ∉ behind) :
    cutLast? mark (before ++ mark :: behind) = some (before, behind) := by
  induction before with
  | nil => simp [cutLast?, cutLast?_eq_none h]
  | cons c cs ih => simp [cutLast?, ih]

theorem exists_append_last_mark {mark : Char} {cs : List Char} (h : mark ∈ cs) :
    ∃ before behind, cs = before ++ mark :: behind ∧ mark ∉ behind := by
  induction cs with
  | nil => simp at h
  | cons c cs ih =>
      by_cases hmem : mark ∈ cs
      · obtain ⟨before, behind, rfl, hbehind⟩ := ih hmem
        exact ⟨c :: before, behind, rfl, hbehind⟩
      · rcases List.mem_cons.1 h with rfl | hmem'
        · exact ⟨[], cs, rfl, hmem⟩
        · exact absurd hmem' hmem

theorem cutLast?_eq_none_iff {mark : Char} {cs : List Char} :
    cutLast? mark cs = none ↔ mark ∉ cs := by
  constructor
  · intro h hmem
    obtain ⟨before, behind, rfl, hbehind⟩ := exists_append_last_mark hmem
    rw [cutLast?_append_mark hbehind] at h
    cases h
  · exact cutLast?_eq_none

/-- A mark in a text that begins with characters other than the mark stands behind them. -/
theorem exists_append_of_not_mem {mark : Char} {front rest before behind : List Char}
    (h : mark ∉ front) (heq : front ++ rest = before ++ mark :: behind) :
    ∃ between, before = front ++ between ∧ rest = between ++ mark :: behind := by
  rcases List.append_eq_append_iff.1 heq with ⟨between, hbefore, hrest⟩ | ⟨tail, hfront, hbehind⟩
  · exact ⟨between, hbefore, hrest⟩
  · -- The mark is not in `front`, so `front` and `before` end at one place.
    cases tail with
    | nil => exact ⟨[], by simpa using hfront.symm, by simpa using hbehind.symm⟩
    | cons c tail =>
        rw [List.cons_append, List.cons.injEq] at hbehind
        rw [hfront, hbehind.1] at h
        simp at h

/-! ### At the first place of a text -/

theorem cutAt?_append_of_cutAt? {mark before rest : List Char}
    (h : cutAt? mark (before ++ mark ++ rest) = some (before, rest)) (behind : List Char) :
    cutAt? mark (before ++ mark ++ behind) = some (before, behind) := by
  induction before with
  | nil =>
      cases mark with
      | nil => cases behind <;> simp [cutAt?]
      | cons m mark =>
          have hfound : (m :: mark).isPrefixOf (m :: (mark ++ behind)) = true := by simp
          show cutAt? (m :: mark) (m :: (mark ++ behind)) = _
          rw [cutAt?, if_pos hfound]
          simp
  | cons c before ih =>
      -- The mark is as long as the part that stays, so nothing behind it makes it begin earlier.
      have hlength : mark.length ≤ (c :: before ++ mark).length := by
        simp only [List.length_append]
        omega
      have hbegins : ∀ cs, mark.isPrefixOf (c :: (before ++ mark ++ cs))
          = mark.isPrefixOf (c :: before ++ mark) := by
        intro cs
        rw [Bool.eq_iff_iff, List.isPrefixOf_iff_prefix, List.isPrefixOf_iff_prefix]
        exact List.isPrefix_append_of_length hlength
      simp only [List.cons_append, cutAt?] at h ⊢
      rw [hbegins] at h ⊢
      split at h
      · simp at h
      · rename_i hnone
        simp only [Option.map_eq_some_iff, Prod.mk.injEq, List.cons.injEq] at h
        obtain ⟨⟨before', rest'⟩, hcut, ⟨-, rfl⟩, rfl⟩ := h
        rw [if_neg hnone, ih hcut]
        rfl

/-! ### Where a class of characters ends -/

theorem not_of_head?_dropWhile (p : Char → Bool) (cs : List Char) :
    ∀ c ∈ (cs.dropWhile p).head?, p c = false := by
  intro c hc
  have hstop := List.head?_dropWhile_not p cs
  rw [Option.mem_def.1 hc] at hstop
  simpa using hstop

/-- The longest front of a text in a class of characters, and what follows. -/
theorem takeWhile_dropWhile_iff {p : Char → Bool} {cs front rest : List Char} :
    cs.takeWhile p = front ∧ cs.dropWhile p = rest
      ↔ cs = front ++ rest ∧ (∀ c ∈ front, p c = true) ∧ ∀ c ∈ rest.head?, p c = false := by
  constructor
  · rintro ⟨rfl, rfl⟩
    exact ⟨List.takeWhile_append_dropWhile.symm, fun c hc => List.mem_takeWhile_imp hc,
      not_of_head?_dropWhile p cs⟩
  · rintro ⟨rfl, hfront, hrest⟩
    rw [List.takeWhile_append_of_pos hfront, List.dropWhile_append_of_pos hfront]
    cases rest with
    | nil => simp
    | cons c rest =>
        have hc : p c = false := hrest c rfl
        simp [hc]

end MailMerge.Text
