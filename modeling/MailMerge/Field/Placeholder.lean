import MailMerge.Text.Blank
import MailMerge.Text.Utf8

/-!
# `MailMerge.Field.Placeholder`: places in a text that a value replaces

A placeholder is a span of byte offsets with the expression and format modifiers of its value.
`substitute` puts values in place of placeholders and copies all else. `findBracketed` finds
placeholders written `[[Name]]`: two opening brackets, at least one character that is no bracket,
two closing brackets. The expression is what stands between, without the white space around it; of
white space alone it is the last character. These are the matches of a pattern
(`MailMerge.Proofs.Field.Pattern`).
-/

set_option autoImplicit false

namespace MailMerge

open MailMerge.Text

/-- A place in a text that a value replaces. -/
structure Placeholder where
  start : Nat
  stop : Nat
  expression : String
  modifiers : List String
deriving DecidableEq, Repr

namespace Placeholder

/-- The text from `cursor` on with values in place of placeholders; a placeholder without a value
stays. -/
def substituteFrom (cursor : Nat) (text : List Char) :
    List Placeholder → List (Option String) → List Char
  | p :: ps, value :: values =>
    slice cursor p.start text
      ++ (match value with
        | some value => value.toList
        | none => slice p.start p.stop text)
      ++ substituteFrom p.stop text ps values
  | _, _ => dropBytes cursor text

/-- The text with values in place of placeholders, paired in order. -/
def substitute (text : String) (placeholders : List Placeholder) (values : List (Option String)) :
    String :=
  .ofList (substituteFrom 0 text.toList placeholders values)

/-! ### Placeholders in brackets -/

/-- Whether a character is no square bracket. -/
def isPlain (c : Char) : Bool := c != '[' && c != ']'

/-- What stands between the brackets of a placeholder at the front of a text, and what follows. -/
def bracketed? : List Char → Option (List Char × List Char)
  | '[' :: '[' :: cs =>
    match cs.takeWhile isPlain, cs.dropWhile isPlain with
    | c :: body, ']' :: ']' :: rest => some (c :: body, rest)
    | _, _ => none
  | _ => none

/-- The expression between brackets. -/
def bracketedExpression (body : List Char) : List Char :=
  match trimChars body with
  | [] => body.getLast?.toList
  | cs => cs

theorem eq_of_bracketed? {cs body rest : List Char} (h : bracketed? cs = some (body, rest)) :
    cs = '[' :: '[' :: body ++ ']' :: ']' :: rest := by
  unfold bracketed? at h
  split at h
  · rename_i tail
    split at h
    · rename_i htake hdrop
      simp only [Option.some.injEq, Prod.mk.injEq] at h
      obtain ⟨rfl, rfl⟩ := h
      have := List.takeWhile_append_dropWhile (p := isPlain) (l := tail)
      rw [htake, hdrop] at this
      simp [← this]
    · simp at h
  · simp at h

/-- Placeholders in brackets in a text that begins at an offset. -/
def findBracketedFrom (offset : Nat) (cs : List Char) : List Placeholder :=
  match _h : bracketed? cs with
  | some (body, rest) =>
    -- The four brackets have a byte each.
    let stop := offset + byteSize body + 4
    ⟨offset, stop, .ofList (bracketedExpression body), []⟩ :: findBracketedFrom stop rest
  | none =>
    match cs with
    | [] => []
    | c :: cs => findBracketedFrom (offset + c.utf8Size) cs
termination_by cs.length
decreasing_by
  · rw [eq_of_bracketed? _h]
    simp
    omega
  · simp

/-- Placeholders in brackets, from left to right. -/
def findBracketed (text : String) : List Placeholder := findBracketedFrom 0 text.toList

end Placeholder

end MailMerge
