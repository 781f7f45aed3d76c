import MailMerge.Expression.Suggestion
import Mathlib.Order.Bounds.Defs
import Mathlib.Order.MinMax

/-!
# `MailMerge.Proofs.Text.EditDistance`: the least number of edits between two texts

An edit inserts, deletes or replaces one character anywhere in a text. The distance of two texts is
computed row by row, each row for one more character of the first text, from the distances to all
tails of the second. The rows satisfy the recursion that looks at both first characters
(`charDistance_cons_cons`), and everything else is told from this recursion.

* `editedIn_charDistance`: as many edits as the distance says are enough. Common first characters
  stay, so the edits of the tails are edits of the texts.
* `Edit.charDistance_le`: one edit changes the distance to a third text by at most one, wherever the
  edit is. So no smaller number of edits is enough.
* `isLeast_editDistance`: the distance is the least number of edits.
-/

set_option autoImplicit false

namespace MailMerge

/-! ### Edits -/

/-- One character is inserted, deleted or replaced. -/
inductive Edit : List Char → List Char → Prop where
  | insert (front : List Char) (c : Char) (behind : List Char) :
      Edit (front ++ behind) (front ++ c :: behind)
  | delete (front : List Char) (c : Char) (behind : List Char) :
      Edit (front ++ c :: behind) (front ++ behind)
  | replace (front : List Char) (c d : Char) (behind : List Char) :
      Edit (front ++ c :: behind) (front ++ d :: behind)

/-- A number of edits, one after another, turn one text into another. -/
inductive EditedIn : Nat → List Char → List Char → Prop where
  | none (xs : List Char) : EditedIn 0 xs xs
  | next {n : Nat} {xs ys zs : List Char} (first : Edit xs ys) (rest : EditedIn n ys zs) :
      EditedIn (n + 1) xs zs

/-- Edits behind a character that stays. -/
theorem Edit.cons {xs ys : List Char} (c : Char) (h : Edit xs ys) : Edit (c :: xs) (c :: ys) := by
  cases h with
  | insert front d behind => exact .insert (c :: front) d behind
  | delete front d behind => exact .delete (c :: front) d behind
  | replace front d d' behind => exact .replace (c :: front) d d' behind

theorem EditedIn.cons {n : Nat} {xs ys : List Char} (c : Char) (h : EditedIn n xs ys) :
    EditedIn n (c :: xs) (c :: ys) := by
  induction h with
  | none xs => exact .none _
  | next first rest ih => exact .next (first.cons c) ih

/-! ### The rows of distances -/

/-- The distance of two lists of characters. -/
def charDistance (xs ys : List Char) : Nat := (tailDistances xs ys).headD 0

/-- The row for all tails of a list is the row for the tails of its tail, with one more distance. -/
theorem tailDistances_cons (xs : List Char) (y : Char) (ys : List Char) :
    tailDistances xs (y :: ys) = charDistance xs (y :: ys) :: tailDistances xs ys := by
  induction xs with
  | nil =>
      show (List.range (ys.length + 1 + 1)).reverse = _
      rw [List.range_succ, List.reverse_append]
      simp [charDistance, tailDistances, List.range_succ]
  | cons x xs ih =>
      -- The row of `xs` has a distance in front, so the row of `x :: xs` gets one.
      have hrow : tailDistances (x :: xs) (y :: ys)
          = extendDistances x (y :: ys) (tailDistances xs (y :: ys)) := rfl
      rw [charDistance, hrow, ih, extendDistances]
      rfl

theorem tailDistances_nil (xs : List Char) : tailDistances xs [] = [xs.length] := by
  induction xs with
  | nil => rfl
  | cons x xs ih =>
      show extendDistances x [] (tailDistances xs []) = _
      rw [ih]
      rfl

@[simp] theorem charDistance_nil_left (ys : List Char) : charDistance [] ys = ys.length := by
  show (List.range (ys.length + 1)).reverse.headD 0 = _
  simp [List.range_succ]

@[simp] theorem charDistance_nil_right (xs : List Char) : charDistance xs [] = xs.length := by
  rw [charDistance, tailDistances_nil]
  rfl

/-- The first characters become one another, or the first text loses its first character, or the
second text gains its own. -/
theorem charDistance_cons_cons (x : Char) (xs : List Char) (y : Char) (ys : List Char) :
    charDistance (x :: xs) (y :: ys)
      = min (charDistance xs ys + if x = y then 0 else 1)
          (min (charDistance xs (y :: ys) + 1) (charDistance (x :: xs) ys + 1)) := by
  have hrow : tailDistances (x :: xs) (y :: ys)
      = extendDistances x (y :: ys) (tailDistances xs (y :: ys)) := rfl
  rw [charDistance, hrow, tailDistances_cons, extendDistances]
  rfl

/-! ### The distance is enough -/

theorem editedIn_nil_left (ys : List Char) : EditedIn ys.length [] ys := by
  induction ys with
  | nil => exact .none []
  | cons y ys ih => exact .next (.insert [] y []) (ih.cons y)

theorem editedIn_nil_right (xs : List Char) : EditedIn xs.length xs [] := by
  induction xs with
  | nil => exact .none []
  | cons x xs ih => exact .next (.delete [] x xs) ih

/-- As many edits as the distance says are enough. -/
theorem editedIn_charDistance (xs ys : List Char) : EditedIn (charDistance xs ys) xs ys := by
  induction xs generalizing ys with
  | nil =>
      rw [charDistance_nil_left]
      exact editedIn_nil_left ys
  | cons x xs ih =>
      induction ys with
      | nil =>
          rw [charDistance_nil_right]
          exact editedIn_nil_right (x :: xs)
      | cons y ys ih' =>
          -- One of the three ways has the least number of edits.
          rw [charDistance_cons_cons]
          rcases min_choice (charDistance xs ys + if x = y then 0 else 1)
            (min (charDistance xs (y :: ys) + 1) (charDistance (x :: xs) ys + 1)) with h | h
          · rw [h]
            by_cases hxy : x = y
            · subst hxy
              rw [if_pos rfl]
              exact (ih ys).cons x
            · rw [if_neg hxy]
              exact .next (.replace [] x y xs) ((ih ys).cons y)
          · rw [h]
            rcases min_choice (charDistance xs (y :: ys) + 1) (charDistance (x :: xs) ys + 1)
              with h' | h'
            · rw [h']
              exact .next (.delete [] x xs) (ih (y :: ys))
            · rw [h']
              exact .next (.insert [] y (x :: xs)) (ih'.cons y)

/-! ### No smaller number is enough -/

theorem charDistance_self (xs : List Char) : charDistance xs xs = 0 := by
  induction xs with
  | nil => rfl
  | cons x xs ih =>
      rw [charDistance_cons_cons, ih, if_pos rfl]
      exact Nat.zero_min _

theorem charDistance_cons_right_le (xs : List Char) (y : Char) (ys : List Char) :
    charDistance xs (y :: ys) ≤ charDistance xs ys + 1 := by
  cases xs with
  | nil => simp
  | cons x xs =>
      rw [charDistance_cons_cons]
      omega

theorem charDistance_cons_left_le (x : Char) (xs ys : List Char) :
    charDistance (x :: xs) ys ≤ charDistance xs ys + 1 := by
  cases ys with
  | nil => simp
  | cons y ys =>
      rw [charDistance_cons_cons]
      omega

/-- To lack a character costs at most one edit. -/
theorem charDistance_le_cons_left (x : Char) (xs ys : List Char) :
    charDistance xs ys ≤ charDistance (x :: xs) ys + 1 := by
  induction ys with
  | nil =>
      simp only [charDistance_nil_right, List.length_cons]
      omega
  | cons y ys ih =>
      have hbelow := charDistance_cons_right_le xs y ys
      rw [charDistance_cons_cons]
      split <;> omega

/-- To have another first character costs at most one edit. -/
theorem charDistance_head_le (x x' : Char) (xs ys : List Char) :
    charDistance (x :: xs) ys ≤ charDistance (x' :: xs) ys + 1 := by
  induction ys with
  | nil => simp
  | cons y ys ih =>
      rw [charDistance_cons_cons, charDistance_cons_cons]
      split <;> split <;> omega

/-- What an edit can do at most, it can do at most behind a character that stays. -/
theorem charDistance_cons_le_of_forall {xs xs' : List Char}
    (h : ∀ ys, charDistance xs ys ≤ charDistance xs' ys + 1) (x : Char) (ys : List Char) :
    charDistance (x :: xs) ys ≤ charDistance (x :: xs') ys + 1 := by
  induction ys with
  | nil =>
      have hnil := h []
      simp only [charDistance_nil_right, List.length_cons] at hnil ⊢
      omega
  | cons y ys ih =>
      have htail := h ys
      have hwhole := h (y :: ys)
      rw [charDistance_cons_cons, charDistance_cons_cons]
      omega

theorem charDistance_append_le_of_forall {xs xs' : List Char}
    (h : ∀ ys, charDistance xs ys ≤ charDistance xs' ys + 1) (front ys : List Char) :
    charDistance (front ++ xs) ys ≤ charDistance (front ++ xs') ys + 1 := by
  induction front generalizing ys with
  | nil => exact h ys
  | cons c front ih => exact charDistance_cons_le_of_forall ih c ys

/-- One edit changes the distance to any text by at most one. -/
theorem Edit.charDistance_le {xs xs' : List Char} (h : Edit xs xs') (ys : List Char) :
    charDistance xs ys ≤ charDistance xs' ys + 1 := by
  cases h with
  | insert front c behind =>
      exact charDistance_append_le_of_forall (charDistance_le_cons_left c behind) front ys
  | delete front c behind =>
      exact charDistance_append_le_of_forall (charDistance_cons_left_le c behind) front ys
  | replace front c d behind =>
      exact charDistance_append_le_of_forall (charDistance_head_le c d behind) front ys

theorem EditedIn.charDistance_le {n : Nat} {xs ys : List Char} (h : EditedIn n xs ys) :
    charDistance xs ys ≤ n := by
  induction h with
  | none xs => rw [charDistance_self]
  | next first rest ih => exact (first.charDistance_le _).trans (Nat.succ_le_succ ih)

/-! ### Texts -/

/-- The distance of two texts is the least number of edits that turn one into the other. -/
theorem isLeast_editDistance (a b : String) :
    IsLeast {n | EditedIn n a.toList b.toList} (editDistance a b) :=
  ⟨editedIn_charDistance a.toList b.toList, fun _ h => h.charDistance_le⟩

/-- A text is within a number of edits exactly when its distance is. -/
theorem editDistance_le_iff (a b : String) (reach : Nat) :
    editDistance a b ≤ reach ↔ ∃ n ≤ reach, EditedIn n a.toList b.toList := by
  constructor
  · intro h
    exact ⟨_, h, (isLeast_editDistance a b).1⟩
  · intro ⟨n, hn, hedited⟩
    exact ((isLeast_editDistance a b).2 hedited).trans hn

end MailMerge
