/-!
# `MailMerge.Text.Blank`: white space and trimming

White space is the standard's property White_Space. `trim` takes it off both ends of a text.
-/

set_option autoImplicit false

namespace MailMerge.Text

/-- Whether a character is white space. -/
def isBlank (c : Char) : Bool :=
  let n := c.toNat
  (0x09 ≤ n && n ≤ 0x0D) || n == 0x20 || n == 0x85 || n == 0xA0 || n == 0x1680
    || (0x2000 ≤ n && n ≤ 0x200A) || n == 0x2028 || n == 0x2029 || n == 0x202F || n == 0x205F
    || n == 0x3000

/-- The characters up to the last that is not white space. -/
def trimEnd (cs : List Char) : List Char :=
  (cs.reverse.dropWhile isBlank).reverse

/-- The characters from the first to the last that is not white space. -/
def trimChars (cs : List Char) : List Char :=
  trimEnd (cs.dropWhile isBlank)

/-- A text without the white space at its ends. -/
def trim (text : String) : String :=
  .ofList (trimChars text.toList)

/-- Whether a text begins or ends with white space. -/
def hasBlankEnd (text : String) : Bool :=
  text.toList.head?.any isBlank || text.toList.getLast?.any isBlank

/-- Core's white space is white space. -/
theorem isBlank_of_isWhitespace {c : Char} (h : c.isWhitespace = true) : isBlank c = true := by
  have h' : c = ' ' ∨ c = '\t' ∨ c = '\r' ∨ c = '\n' := by
    simpa [Char.isWhitespace, or_assoc] using h
  rcases h' with rfl | rfl | rfl | rfl <;> decide

end MailMerge.Text
