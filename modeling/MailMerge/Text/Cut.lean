/-!
# `MailMerge.Text.Cut`: cutting a text at a mark

`segments` cuts at every occurrence of a character, `cutAt?` at the first occurrence of a text and
`cutLast?` at the last occurrence of a character. None of them loses anything but the marks.
-/

set_option autoImplicit false

namespace MailMerge.Text

/-- The part before the first mark, and the part after each mark up to the next. -/
def segments (mark : Char) : List Char → List Char × List (List Char)
  | [] => ([], [])
  | c :: cs =>
    let (first, others) := segments mark cs
    if c = mark then ([], first :: others) else (c :: first, others)

/-- The parts before and after the first occurrence of a text. -/
def cutAt? (mark : List Char) : List Char → Option (List Char × List Char)
  | [] => if mark.isEmpty then some ([], []) else none
  | c :: cs =>
    if mark.isPrefixOf (c :: cs) then some ([], (c :: cs).drop mark.length)
    else (cutAt? mark cs).map fun (before, after) => (c :: before, after)

/-- The parts before and after the last occurrence of a character. -/
def cutLast? (mark : Char) : List Char → Option (List Char × List Char)
  | [] => none
  | c :: cs =>
    match cutLast? mark cs with
    | some (before, after) => some (c :: before, after)
    | none => if c = mark then some ([], cs) else none

theorem append_of_cutAt? {mark cs before after : List Char}
    (h : cutAt? mark cs = some (before, after)) : before ++ mark ++ after = cs := by
  induction cs generalizing before with
  | nil =>
    by_cases hm : mark.isEmpty <;> simp_all [cutAt?]
  | cons c cs ih =>
    by_cases hp : mark.isPrefixOf (c :: cs)
    · obtain ⟨t, ht⟩ := List.isPrefixOf_iff_prefix.1 hp
      simp only [cutAt?, if_pos hp, Option.some.injEq, Prod.mk.injEq] at h
      obtain ⟨rfl, rfl⟩ := h
      simp [← ht]
    · simp only [cutAt?, if_neg hp, Option.map_eq_some_iff, Prod.mk.injEq] at h
      obtain ⟨⟨b, a⟩, hb, rfl, rfl⟩ := h
      simpa using ih hb

theorem append_of_cutLast? {mark : Char} {cs before after : List Char}
    (h : cutLast? mark cs = some (before, after)) : before ++ mark :: after = cs := by
  induction cs generalizing before with
  | nil => simp [cutLast?] at h
  | cons c cs ih =>
    cases hc : cutLast? mark cs with
    | some parts =>
      obtain ⟨b, a⟩ := parts
      simp only [cutLast?, hc, Option.some.injEq, Prod.mk.injEq] at h
      obtain ⟨rfl, rfl⟩ := h
      simpa using ih hc
    | none =>
      by_cases hm : c = mark
      · simp only [cutLast?, hc, if_pos hm, Option.some.injEq, Prod.mk.injEq] at h
        obtain ⟨rfl, rfl⟩ := h
        simp [hm]
      · simp [cutLast?, hc, hm] at h

end MailMerge.Text
