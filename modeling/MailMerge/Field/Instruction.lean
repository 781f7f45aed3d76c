import MailMerge.Text.Blank
import MailMerge.Text.WordCharacter

/-!
# `MailMerge.Field.Instruction`: what a field code says

A merge field's code is the word `MERGEFIELD` in any letter case, a name that is quoted or runs up
to white space or a quote, and switches `\*` each with the word of a format modifier. What follows
the last complete switch is not read. This is what a pattern matches
(`MailMerge.Proofs.Field.Pattern`).
-/

set_option autoImplicit false

namespace MailMerge

open MailMerge.Text

/-- What a merge field's code says. -/
structure Instruction where
  name : String
  modifiers : List String
deriving DecidableEq, Repr

namespace Instruction

/-- Takes a lower-case keyword in any letter case off the front. -/
def takeKeyword? : List Char → List Char → Option (List Char)
  | [], cs => some cs
  | k :: ks, c :: cs => if c.toLower = k then takeKeyword? ks cs else none
  | _ :: _, [] => none

/-- The name at the front, quoted or bare, and what follows. -/
def readName? : List Char → Option (List Char × List Char)
  | '"' :: cs =>
    match cs.takeWhile (· != '"'), cs.dropWhile (· != '"') with
    | c :: name, _ :: rest => some (c :: name, rest)
    | _, _ => none
  | cs =>
    match cs.takeWhile fun c => !isBlank c && c != '"' with
    | [] => none
    | name => some (name, cs.dropWhile fun c => !isBlank c && c != '"')

/-- The word of the switch at the front and what follows. -/
def readSwitch? (cs : List Char) : Option (List Char × List Char) :=
  match cs.dropWhile isBlank with
  | '\\' :: '*' :: rest =>
    match (rest.dropWhile isBlank).takeWhile isWordCharacter with
    | [] => none
    | word => some (word, (rest.dropWhile isBlank).dropWhile isWordCharacter)
  | _ => none

theorem length_lt_of_readSwitch? {cs word rest : List Char}
    (h : readSwitch? cs = some (word, rest)) : rest.length < cs.length := by
  unfold readSwitch? at h
  split at h
  · rename_i tail heq
    have hcs := (List.dropWhile_suffix (l := cs) isBlank).length_le
    rw [heq] at hcs
    split at h
    · simp at h
    · simp only [Option.some.injEq, Prod.mk.injEq] at h
      obtain ⟨-, rfl⟩ := h
      have h₁ := (List.dropWhile_suffix (l := tail) isBlank).length_le
      have h₂ := (List.dropWhile_suffix (l := tail.dropWhile isBlank) isWordCharacter).length_le
      simp only [List.length_cons] at hcs
      omega
  · simp at h

/-- The words of the switches at the front. -/
def readSwitches (cs : List Char) : List String :=
  match _h : readSwitch? cs with
  | none => []
  | some (word, rest) => .ofList word :: readSwitches rest
termination_by cs.length
decreasing_by exact length_lt_of_readSwitch? _h

/-- Reads the code of a merge field; other codes are none. -/
def parse? (text : String) : Option Instruction :=
  match takeKeyword? "mergefield".toList (text.toList.dropWhile isBlank) with
  | none => none
  | some rest =>
    if rest.head?.any isBlank then
      (readName? (rest.dropWhile isBlank)).map fun (name, switches) =>
        ⟨.ofList name, readSwitches switches⟩
    else none

end Instruction

end MailMerge
