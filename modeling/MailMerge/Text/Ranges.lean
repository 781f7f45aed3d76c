/-!
# `MailMerge.Text.Ranges`: properties of characters as tables

A property of characters that no short rule describes is a table of code point ranges, both ends
included, in ascending order. `Ranges.contains` looks a character up.
-/

set_option autoImplicit false

namespace MailMerge.Text

/-- Ranges of code points, both ends included. -/
abbrev Ranges := List (Nat × Nat)

/-- Whether a character's code point lies in one of the ranges. -/
def Ranges.contains (ranges : Ranges) (c : Char) : Bool :=
  ranges.any fun range => range.1 ≤ c.toNat && c.toNat ≤ range.2

end MailMerge.Text
