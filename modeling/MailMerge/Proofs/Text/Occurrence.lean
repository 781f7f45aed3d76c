import MailMerge.Text.Utf8
import Mathlib.Data.List.Infix

/-!
# `MailMerge.Proofs.Text.Occurrence`: places of a text in another

A text `needle` stands in a text `whole` behind `before` when `before ++ needle <+: whole`. The
searches for the first and the last place give the size of what stands before it.

* `offset?_eq_some_iff`, `offset?_eq_none_iff`: the first place.
* `lastOffset?_eq_some_iff`, `lastOffset?_eq_none_iff`: the last place.
* `eq_of_byteSize_eq`: a place is told by its offset.
-/

set_option autoImplicit false

namespace MailMerge.Text

/-! ### Beginnings of a text -/

theorem byteSize_eq_zero_iff {cs : List Char} : byteSize cs = 0 ↔ cs = [] := by
  cases cs with
  | nil => simp
  | cons c cs =>
      have := c.utf8Size_pos
      simp only [byteSize_cons, reduceCtorEq, iff_false]
      omega

/-- Of two beginnings of a text the one of fewer bytes is a beginning of the other. -/
theorem prefix_of_byteSize_le {text before other : List Char} (h : before <+: text)
    (h' : other <+: text) (hle : byteSize before ≤ byteSize other) : before <+: other := by
  rcases List.prefix_or_prefix_of_prefix h h' with hprefix | ⟨between, rfl⟩
  · exact hprefix
  · have hnil : between = [] := by
      rw [byteSize_append] at hle
      exact byteSize_eq_zero_iff.1 (by omega)
    rw [hnil, List.append_nil]

/-- A beginning of a text is told by its length. -/
theorem prefix_eq_of_length_eq {text before other : List Char} (h : before <+: text)
    (h' : other <+: text) (heq : before.length = other.length) : before = other :=
  (List.prefix_of_prefix_length_le h h' heq.le).eq_of_length heq

/-- It is told by its size as well. -/
theorem eq_of_byteSize_eq {text before other : List Char} (h : before <+: text)
    (h' : other <+: text) (heq : byteSize before = byteSize other) : before = other :=
  prefix_eq_of_length_eq h h' (Nat.le_antisymm (prefix_of_byteSize_le h h' heq.le).length_le
    (prefix_of_byteSize_le h' h heq.ge).length_le)

/-- A place in a text is its front, or a place behind the first character. -/
theorem append_prefix_cons_iff {needle before cs : List Char} {c : Char} :
    before ++ needle <+: c :: cs
      ↔ (before = [] ∧ needle <+: c :: cs)
        ∨ ∃ before', before = c :: before' ∧ before' ++ needle <+: cs := by
  cases before with
  | nil => simp
  | cons d before =>
      rw [List.cons_append, List.cons_prefix_cons]
      simp [and_assoc]

theorem forall_place_cons_iff {needle cs : List Char} {c : Char} {P : List Char → Prop} :
    (∀ before, before ++ needle <+: c :: cs → P before)
      ↔ (needle <+: c :: cs → P []) ∧ ∀ before, before ++ needle <+: cs → P (c :: before) := by
  constructor
  · intro h
    exact ⟨fun hfront => h [] hfront,
      fun before hbefore => h _ (append_prefix_cons_iff.2 (.inr ⟨before, rfl, hbefore⟩))⟩
  · intro ⟨hfront, hrest⟩ before hbefore
    rcases append_prefix_cons_iff.1 hbefore with ⟨rfl, h⟩ | ⟨before', rfl, h⟩
    · exact hfront h
    · exact hrest before' h

/-! ### The first place -/

section First

variable {needle : List Char}

theorem offset?_eq_none_iff {cs : List Char} :
    offset? needle cs = none ↔ ∀ before, ¬ before ++ needle <+: cs := by
  induction cs with
  | nil => cases needle <;> simp [offset?]
  | cons c cs ih =>
      simp only [offset?, List.isPrefixOf_iff_prefix]
      rw [forall_place_cons_iff (P := fun _ => False), ← ih]
      split
      · rename_i hfront
        simp [hfront]
      · rename_i hfront
        simp [hfront]

/-- The first place of a text: no other begins further left. -/
theorem offset?_eq_some_iff {cs : List Char} {n : Nat} :
    offset? needle cs = some n ↔ ∃ before, n = byteSize before ∧ before ++ needle <+: cs
      ∧ ∀ other, other ++ needle <+: cs → before.length ≤ other.length := by
  induction cs generalizing n with
  | nil => cases needle <;> simp [offset?, eq_comm]
  | cons c cs ih =>
      simp only [offset?, List.isPrefixOf_iff_prefix]
      split
      · rename_i hfront
        constructor
        · intro h
          cases h
          exact ⟨[], rfl, hfront, fun other _ => Nat.zero_le _⟩
        · rintro ⟨before, rfl, -, hfirst⟩
          have hnil : before = [] := List.length_eq_zero_iff.1 (by simpa using hfirst [] hfront)
          rw [hnil, byteSize_nil]
      · rename_i hfront
        -- A place is not the front, so it lies behind the first character.
        rw [Option.map_eq_some_iff]
        constructor
        · rintro ⟨m, hm, rfl⟩
          obtain ⟨before, rfl, hbefore, hfirst⟩ := ih.1 hm
          exact ⟨c :: before, rfl, append_prefix_cons_iff.2 (.inr ⟨before, rfl, hbefore⟩),
            forall_place_cons_iff.2 ⟨fun h => absurd h hfront,
              fun other hother => Nat.succ_le_succ (hfirst other hother)⟩⟩
        · rintro ⟨place, rfl, hplace, hfirst⟩
          rcases append_prefix_cons_iff.1 hplace with ⟨-, h⟩ | ⟨before, rfl, hbefore⟩
          · exact absurd h hfront
          · have hfirst := (forall_place_cons_iff.1 hfirst).2
            exact ⟨byteSize before, ih.2 ⟨before, rfl, hbefore,
              fun other hother => Nat.le_of_succ_le_succ (hfirst other hother)⟩, rfl⟩

/-- The first place of a text that has one. -/
theorem exists_offset? {before cs : List Char} (h : before ++ needle <+: cs) :
    ∃ first, offset? needle cs = some (byteSize first) ∧ first ++ needle <+: cs
      ∧ ∀ other, other ++ needle <+: cs → first.length ≤ other.length := by
  cases hoffset : offset? needle cs with
  | none => exact absurd h (offset?_eq_none_iff.1 hoffset before)
  | some n =>
      obtain ⟨first, rfl, hfirst⟩ := offset?_eq_some_iff.1 hoffset
      exact ⟨first, rfl, hfirst⟩

end First

/-! ### The last place -/

section Last

variable {needle : List Char}

theorem lastOffset?_eq_none_iff {cs : List Char} :
    lastOffset? needle cs = none ↔ ∀ before, ¬ before ++ needle <+: cs := by
  induction cs with
  | nil => cases needle <;> simp [lastOffset?]
  | cons c cs ih =>
      simp only [lastOffset?, List.isPrefixOf_iff_prefix]
      rw [forall_place_cons_iff (P := fun _ => False), ← ih]
      cases lastOffset? needle cs with
      | none => simp
      | some n => simp

/-- The last place of a text: no other begins further right. -/
theorem lastOffset?_eq_some_iff {cs : List Char} {n : Nat} :
    lastOffset? needle cs = some n ↔ ∃ before, n = byteSize before ∧ before ++ needle <+: cs
      ∧ ∀ other, other ++ needle <+: cs → other.length ≤ before.length := by
  induction cs generalizing n with
  | nil => cases needle <;> simp [lastOffset?, eq_comm]
  | cons c cs ih =>
      simp only [lastOffset?, List.isPrefixOf_iff_prefix]
      cases hlast : lastOffset? needle cs with
      | none =>
          -- With no place behind the first character the front is the only one left.
          have hnone := lastOffset?_eq_none_iff.1 hlast
          have hplace (before : List Char) : before ++ needle <+: c :: cs
              ↔ before = [] ∧ needle <+: c :: cs := by
            rw [append_prefix_cons_iff]
            simp [hnone]
          simp only [hplace]
          split
          · rename_i hfront
            simp [hfront, eq_comm]
          · rename_i hfront
            simp [hfront]
      | some m =>
          obtain ⟨before, rfl, hbefore, hmax⟩ := ih.1 hlast
          have hplace : c :: before ++ needle <+: c :: cs :=
            append_prefix_cons_iff.2 (.inr ⟨before, rfl, hbefore⟩)
          have hlongest : ∀ other, other ++ needle <+: c :: cs
              → other.length ≤ (c :: before).length :=
            forall_place_cons_iff.2 ⟨fun _ => Nat.zero_le _,
              fun other hother => Nat.succ_le_succ (hmax other hother)⟩
          constructor
          · intro h
            cases h
            exact ⟨c :: before, rfl, hplace, hlongest⟩
          · rintro ⟨other, rfl, hother, hother'⟩
            -- Two last places are equally long beginnings of the text.
            have hsame : other = c :: before :=
              prefix_eq_of_length_eq ((List.prefix_append _ _).trans hother)
                ((List.prefix_append _ _).trans hplace)
                (Nat.le_antisymm (hlongest other hother) (hother' _ hplace))
            rw [hsame]
            rfl

/-- The last place of a text that has one. -/
theorem exists_lastOffset? {before cs : List Char} (h : before ++ needle <+: cs) :
    ∃ last, lastOffset? needle cs = some (byteSize last) ∧ last ++ needle <+: cs
      ∧ ∀ other, other ++ needle <+: cs → other.length ≤ last.length := by
  cases hoffset : lastOffset? needle cs with
  | none => exact absurd h (lastOffset?_eq_none_iff.1 hoffset before)
  | some n =>
      obtain ⟨last, rfl, hlast⟩ := lastOffset?_eq_some_iff.1 hoffset
      exact ⟨last, rfl, hlast⟩

end Last

end MailMerge.Text
