import MailMerge.Xml.Basic
import MailMerge.Xml.Reference

/-!
# `MailMerge.Xml.Tag`: reading the inside of a tag

The content of a start tag is a name up to the first space, then attributes. Names are not checked.
Positions are byte offsets into the content.
-/

set_option autoImplicit false

namespace MailMerge.Xml

open MailMerge.Text

/-- White space of markup. -/
def isSpace (c : Char) : Bool := c == ' ' || c == '\t' || c == '\r' || c == '\n'

/-- Whether a character can follow the first one of an attribute's name. -/
def inKey (c : Char) : Bool := c != '=' && !isSpace c

namespace Tag

/-- Reads a quoted value at the front of what is left of a tag's content of `total` bytes. -/
def readValue (total : Nat) (cs : List Char) : Except Error (List Char × List Char) :=
  match cs with
  | [] => .error (.tag (.valueExpected total))
  | quote :: body =>
    if quote = '"' ∨ quote = '\'' then
      match body.dropWhile (· != quote) with
      | [] => .error (.tag (.quoteUnclosed total quote))
      | _ :: rest =>
        match Reference.decode (body.takeWhile (· != quote)) with
        | .error fault => .error (.reference fault)
        | .ok value => .ok (value, rest)
    else .error (.tag (.quoteExpected (total - byteSize cs)))

/-- Reads the attribute at the front of what is left of a tag's content of `total` bytes. `seen`
holds the names of the attributes before it with their positions. -/
def readAttribute (total : Nat) (seen : List (String × Nat)) (first : Char) (cs : List Char) :
    Except Error (Attribute × List Char) :=
  let position := total - byteSize (first :: cs)
  let name := String.ofList (first :: cs.takeWhile inKey)
  match (cs.dropWhile inKey).dropWhile isSpace with
  | '=' :: rest =>
    -- A repeated name is reported before anything is said about the value.
    match seen.find? (·.1 = name) with
    | some (_, earlier) => .error (.tag (.duplicate position earlier))
    | none =>
      match readValue total (rest.dropWhile isSpace) with
      | .error e => .error e
      | .ok (value, rest) => .ok (⟨name, .ofList value⟩, rest)
  | rest => .error (.tag (.equalsExpected (total - byteSize rest)))

theorem length_dropWhile_le {α : Type} (p : α → Bool) (xs : List α) :
    (xs.dropWhile p).length ≤ xs.length :=
  (List.dropWhile_suffix p).length_le

theorem length_lt_of_readValue {total : Nat} {cs value rest : List Char}
    (h : readValue total cs = .ok (value, rest)) : rest.length < cs.length := by
  unfold readValue at h
  split at h
  · simp at h
  · rename_i quote body
    split at h
    · have hle := length_dropWhile_le (· != quote) body
      split at h
      · simp at h
      · rename_i hd
        rw [hd] at hle
        split at h
        · simp at h
        · simp only [Except.ok.injEq, Prod.mk.injEq] at h
          obtain ⟨-, rfl⟩ := h
          simp only [List.length_cons] at hle ⊢
          omega
    · simp at h

theorem length_le_of_readAttribute {total : Nat} {seen : List (String × Nat)} {first : Char}
    {cs rest : List Char} {a : Attribute}
    (h : readAttribute total seen first cs = .ok (a, rest)) : rest.length < cs.length := by
  unfold readAttribute at h
  split at h
  · rename_i tail heq
    have hkey := length_dropWhile_le inKey cs
    have hspace := length_dropWhile_le isSpace (cs.dropWhile inKey)
    rw [heq] at hspace
    dsimp only at h
    split at h
    · simp at h
    · split at h
      · simp at h
      · rename_i hv
        simp only [Except.ok.injEq, Prod.mk.injEq] at h
        obtain ⟨-, rfl⟩ := h
        have hlt := length_lt_of_readValue hv
        have hle := length_dropWhile_le isSpace tail
        simp only [List.length_cons] at hspace
        omega
  · simp at h

/-- Reads the attributes that are left of a tag's content of `total` bytes. -/
def readAttributes (total : Nat) (seen : List (String × Nat)) (cs : List Char) :
    Except Error (List Attribute) :=
  match _hcs : cs.dropWhile isSpace with
  | [] => .ok []
  | first :: tail =>
    match _h : readAttribute total seen first tail with
    | .error e => .error e
    | .ok (a, rest) =>
      (readAttributes total ((a.name, total - byteSize (first :: tail)) :: seen) rest).map (a :: ·)
termination_by cs.length
decreasing_by
  have hlt := length_le_of_readAttribute _h
  have hle := length_dropWhile_le isSpace cs
  rw [_hcs, List.length_cons] at hle
  omega

/-- Reads the content of a start tag. -/
def read (content : List Char) : Except Error Tag :=
  let name := content.takeWhile (!isSpace ·)
  (readAttributes (byteSize content) [] (content.dropWhile (!isSpace ·))).map
    fun attributes => ⟨.ofList name, attributes⟩

end Tag

end MailMerge.Xml
