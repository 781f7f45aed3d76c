import MailMerge.Text.Columns.Character

/-!
# `MailMerge.Text.Columns.Ligature`: letters that are drawn as one

Some letters that follow each other share a column: the Arabic lam and alef, a Khmer letter below
the one before it, tone letters of Lisu. Marks that are not seen may stand between them, and in
some scripts a joiner has to. They are read from the end: `LigaturePart` tells what a text begins
with, and `LigaturePart.before?` what a character before that adds.
-/

set_option autoImplicit false

namespace MailMerge.Text

/-- Code points of the forms of the Arabic letter alef. -/
def alefRanges : Ranges := [
  (0x622, 0x623), (0x625, 0x625), (0x627, 0x627), (0x671, 0x673), (0x675, 0x675), (0x773, 0x774),
  (0x870, 0x882)]

/-- Code points of the forms of the Arabic letter lam. -/
def lamRanges : Ranges := [
  (0x644, 0x644), (0x6B5, 0x6B8), (0x76A, 0x76A), (0x8A6, 0x8A6), (0x8C7, 0x8C7)]

/-- Code points of Khmer letters that can stand below another. -/
def subscriptRanges : Ranges := [
  (0x1780, 0x1782), (0x1784, 0x1787), (0x1789, 0x178C), (0x178E, 0x1793), (0x1795, 0x1798),
  (0x179B, 0x179D), (0x17A0, 0x17A0), (0x17A2, 0x17A2), (0x17A7, 0x17A7), (0x17AB, 0x17AC),
  (0x17AF, 0x17AF)]

/-- Code points of Tifinagh consonants. -/
def tifinaghRanges : Ranges := [
  (0x2D31, 0x2D65), (0x2D6F, 0x2D6F)]

/-- Code points of marks that are not seen and do not part letters. -/
def unseenRanges : Ranges := [
  (0x34F, 0x34F), (0x17B4, 0x17B5), (0x180B, 0x180D), (0x180F, 0x180F), (0x200D, 0x200D),
  (0xFE00, 0xFE0F), (0xE0100, 0xE01EF)]

/-- Code points that take no column and yet part Arabic letters. -/
def partingRanges : Ranges := [
  (0x605, 0x605), (0x890, 0x891), (0x8E2, 0x8E2), (0x9BE, 0x9BE), (0x9D7, 0x9D7), (0xB3E, 0xB3E),
  (0xB57, 0xB57), (0xBBE, 0xBBE), (0xBD7, 0xBD7), (0xCC0, 0xCC0), (0xCC2, 0xCC2), (0xCC7, 0xCC8),
  (0xCCA, 0xCCB), (0xCD5, 0xCD6), (0xD3E, 0xD3E), (0xD4E, 0xD4E), (0xD57, 0xD57), (0xDCF, 0xDCF),
  (0xDDF, 0xDDF), (0x1160, 0x11FF), (0x1715, 0x1715), (0x1734, 0x1734), (0x180E, 0x180E),
  (0x1B35, 0x1B35), (0x1B3B, 0x1B3B), (0x1B3D, 0x1B3D), (0x1B43, 0x1B44), (0x1BAA, 0x1BAA),
  (0x1BF2, 0x1BF3), (0x200C, 0x200D), (0x2065, 0x2069), (0x302E, 0x302F), (0x3164, 0x3164),
  (0xA8FA, 0xA8FA), (0xA953, 0xA953), (0xA9C0, 0xA9C0), (0xD7B0, 0xD7C6), (0xD7CB, 0xD7FB),
  (0xFFA0, 0xFFA0), (0xFFF0, 0xFFF8), (0x111C0, 0x111C0), (0x111C2, 0x111C3), (0x11235, 0x11235),
  (0x1133E, 0x1133E), (0x1134D, 0x1134D), (0x11357, 0x11357), (0x113B8, 0x113B8),
  (0x113C2, 0x113C2), (0x113C5, 0x113C5), (0x113C7, 0x113C9), (0x113CF, 0x113CF),
  (0x113D1, 0x113D1), (0x114B0, 0x114B0), (0x114BD, 0x114BD), (0x115AF, 0x115AF),
  (0x116B6, 0x116B6), (0x11930, 0x11930), (0x1193D, 0x1193D), (0x1193F, 0x1193F),
  (0x11941, 0x11941), (0x11A84, 0x11A89), (0x11D46, 0x11D46), (0x11F02, 0x11F02),
  (0x11F41, 0x11F41), (0x16FF0, 0x16FF1), (0x1D165, 0x1D166), (0x1D16D, 0x1D172),
  (0x1D250, 0x1D252), (0x1D25F, 0x1D25F), (0x1D280, 0x1D281), (0xE0000, 0xE0000),
  (0xE0002, 0xE001F), (0xE0080, 0xE00FF), (0xE01F0, 0xE0FFF)]

/-- The part of a ligature that a text begins with, and whether a joiner stands before it. -/
inductive LigaturePart where
  /-- The Arabic alef, with or without marks before it. -/
  | alef
  /-- The Hebrew lamed. -/
  | lamed (joined : Bool)
  /-- The Buginese ya. -/
  | ya (joined : Bool)
  /-- The Buginese vowel i, a joiner and ya. -/
  | vowelYa
  /-- A Tifinagh consonant. -/
  | tifinagh (joined : Bool)
  /-- The Tifinagh joiner and a consonant. -/
  | joinedTifinagh
  /-- A second tone letter of Lisu. -/
  | tone
  /-- A Khmer letter that can stand below another. -/
  | subscript
  /-- The Old Turkic i. -/
  | orkhonI (joined : Bool)
deriving DecidableEq, Repr

namespace LigaturePart

/-- The part that a character is by itself. -/
def ofChar? (c : Char) : Option LigaturePart :=
  if alefRanges.contains c then some .alef
  else if c = 'ל' then some (.lamed false)
  else if c = 'ᨐ' then some (.ya false)
  else if tifinaghRanges.contains c then some (.tifinagh false)
  else if c = 'ꓼ' || c = 'ꓽ' then some .tone
  else if subscriptRanges.contains c then some .subscript
  else if c = '𐰃' then some (.orkhonI false)
  else none

/-- The part with a joiner before it. -/
def join : LigaturePart → LigaturePart
  | lamed _ => lamed true
  | ya _ => ya true
  | tifinagh _ => tifinagh true
  | orkhonI _ => orkhonI true
  | part => part

/-- What a letter does before a part of a ligature. -/
def letterBefore? (c : Char) : LigaturePart → Option (Int × Option LigaturePart)
  | alef =>
    if lamRanges.contains c then some (0, none)
    else if widthlessRanges.contains c && !partingRanges.contains c then some (0, some alef)
    else none
  | lamed true => if c = 'א' then some (0, none) else none
  | ya true => if c = '\u1A17' then some (0, some vowelYa) else none
  | vowelYa => if c = 'ᨕ' then some (0, none) else none
  | tifinagh joined =>
    if c = '\u2D7F' then some (1, some joinedTifinagh)
    else if joined && tifinaghRanges.contains c then some (0, none)
    else none
  | joinedTifinagh => if tifinaghRanges.contains c then some (-1, none) else none
  | tone => if 'ꓸ' ≤ c ∧ c ≤ 'ꓻ' then some (0, none) else none
  | subscript => if c = '\u17D2' then some (-1, none) else none
  | orkhonI true => if c = '𐰲' then some (0, none) else none
  | _ => none

/-- The columns that a character adds before a part of a ligature, and the part that both make, if
they belong together. -/
def before? (c : Char) (part : LigaturePart) : Option (Int × Option LigaturePart) :=
  if part ≠ alef ∧ c = '\u200D' then some (0, some part.join)
  else if part ≠ alef ∧ unseenRanges.contains c then some (0, some part)
  else part.letterBefore? c

end LigaturePart

/-- A vowel sign of Kirat Rai that a text begins with. Signs are drawn as one where they are
another spelling of one sign, so nothing can stand between them. -/
inductive RaiVowel where
  | e
  | ai
deriving DecidableEq, Repr

namespace RaiVowel

/-- The vowel sign that a character is by itself. -/
def ofChar? (c : Char) : Option RaiVowel :=
  if c.toNat = 0x16D67 then some e else if c.toNat = 0x16D68 then some ai else none

/-- The columns that a character adds before a vowel sign, and the sign that both make, as far as
others can be joined to it. -/
def before? (c : Char) : RaiVowel → Option (Int × Option RaiVowel)
  | e =>
    if c.toNat = 0x16D63 ∨ c.toNat = 0x16D69 then some (0, none)
    else if c.toNat = 0x16D67 then some (0, some ai)
    else if c.toNat = 0x16D68 then some (1, some e)
    else none
  | ai => if c.toNat = 0x16D63 then some (0, none) else none

end RaiVowel

end MailMerge.Text
