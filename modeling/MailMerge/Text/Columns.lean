import MailMerge.Text.Columns.Emoji
import MailMerge.Text.Columns.Ligature

/-!
# `MailMerge.Text.Columns`: how wide a text is on a terminal

A text is as wide as its characters, but for those that are drawn together: ligatures, emoji of
several characters, a line end of two, and characters with a selector of style behind them. It is
measured from its end, where each character needs to know what the text after it begins with.
-/

set_option autoImplicit false

namespace MailMerge.Text

/-- A selector of style, which stands behind the character that it is for. -/
inductive StyleSelector where
  /-- A quotation mark as wide as an ideograph. -/
  | wide
  | text
  | emoji
deriving DecidableEq, Repr

/-- The selector that a character is. -/
def StyleSelector.ofChar? (c : Char) : Option StyleSelector :=
  if c = '\uFE01' then some .wide
  else if c = '\uFE0E' then some .text
  else if c = '\uFE0F' then some .emoji
  else none

/-- What a text begins with, as far as characters before it are concerned. -/
inductive Opening where
  | plain
  | lineEnd
  | emoji (part : EmojiPart)
  | ligature (part : LigaturePart)
  | raiVowel (vowel : RaiVowel)
deriving DecidableEq, Repr

namespace Opening

/-- The opening that a character makes by itself. -/
def ofChar (c : Char) : Opening :=
  if c = '\n' then lineEnd
  else
    match LigaturePart.ofChar? c, RaiVowel.ofChar? c, EmojiPart.ofChar? c with
    | some part, _, _ => ligature part
    | _, some vowel, _ => raiVowel vowel
    | _, _, some part => emoji part
    | none, none, none => plain

/-- The columns that a character adds before an opening, and the opening that both make, if they
belong together. -/
def before? (c : Char) : Opening → Option (Int × Opening)
  | plain => none
  | lineEnd => if c = '\r' then some (0, plain) else none
  | emoji part => (part.before? c).map fun (n, both) => (n, emoji both)
  | ligature part => (part.before? c).map fun (n, both) => (n, (both.map ligature).getD plain)
  | raiVowel vowel => (vowel.before? c).map fun (n, both) => (n, (both.map raiVowel).getD plain)

/-- What is seen of an opening through a selector before it: ligatures, and for an emoji also what
it can be joined to. -/
def behind (selector : StyleSelector) : Opening → Opening
  | ligature part => ligature part
  | emoji part => if selector = .emoji && part.takesEmoji then emoji part else plain
  | _ => plain

/-- What is left of an opening behind a selector that has nothing to select. -/
def pastSelector : Opening → Opening
  | ligature part => ligature part
  | _ => plain

/-- Whether an opening is a part of a ligature. -/
def isLigature : Opening → Bool
  | ligature _ => true
  | _ => false

end Opening

/-- What stands after a character. -/
structure Following where
  /-- The selectors right after the character, the nearest first. Behind one of them only a
  ligature leaves the others in force. -/
  selectors : List StyleSelector
  opening : Opening
deriving DecidableEq, Repr

namespace Following

/-- The end of a text. -/
def nothing : Following := ⟨[], .plain⟩

/-- Whether a character is a curved quotation mark. -/
def isQuotationMark (c : Char) : Bool := c = '‘' || c = '’' || c = '“' || c = '”'

/-- Whether an emoji makes one with what it is joined to. -/
def takesEmoji (next : Following) : Bool :=
  match next.opening with
  | .emoji part => part.takesEmoji
  | _ => false

/-- The columns of a character with a selector for it after it. The selector of emoji has to be
the nearest. -/
def styled? (c : Char) (next : Following) : Option (Int × Following) :=
  if next.selectors.head? = some .emoji ∧ hasEmojiStyle c then
    some (if next.takesEmoji then 0 else 2, ⟨[], .emoji .whole⟩)
  else if next.selectors.contains .text ∧ hasTextStyle c then some (1, nothing)
  else if next.selectors.contains .wide ∧ isQuotationMark c then some (2, nothing)
  else none

/-- What stands after a character that no selector is for. -/
def unselected (next : Following) : Opening :=
  if next.selectors.isEmpty then next.opening else next.opening.pastSelector

/-- What stands after a character with one more selector after it. -/
def select (selector : StyleSelector) (next : Following) : Following :=
  let opening := next.unselected.behind selector
  ⟨selector :: if opening.isLigature then next.selectors else [], opening⟩

/-- The columns that a character adds before an opening, and what both are then. -/
def unstyled (c : Char) (opening : Opening) : Int × Following :=
  match opening.before? c with
  | some (n, both) => (n, ⟨[], both⟩)
  | none => (columnsOf c, ⟨[], .ofChar c⟩)

/-- The columns that a character adds, and what stands after a character before it. -/
def before (c : Char) (next : Following) : Int × Following :=
  match next.styled? c, StyleSelector.ofChar? c with
  | some both, _ => both
  | none, some selector => (0, next.select selector)
  | none, none => unstyled c next.unselected

end Following

/-- Columns that a text takes, and what stands after a character before it. -/
def measure : List Char → Int × Following
  | [] => (0, .nothing)
  | c :: cs =>
    -- The columns added may be fewer than none, where two characters are drawn as one.
    let (after, next) := measure cs
    let (added, both) := next.before c
    (added + after, both)

/-- Columns that a text takes. -/
def columns (text : String) : Nat := (measure text.toList).1.toNat

end MailMerge.Text
