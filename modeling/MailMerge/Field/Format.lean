import MailMerge.Text.CaseMapping

/-!
# `MailMerge.Field.Format`: format modifiers

Of the modifiers of a field's code only `FirstCap`, in any letter case, changes a value: it
capitalizes the first character where the capital is a single character. All others are ignored.
-/

set_option autoImplicit false

namespace MailMerge

/-- A text with its first character capitalized. -/
def capitalizeFirst (value : String) : String :=
  match value.toList with
  | [] => ""
  | c :: cs => .ofList ((Text.capital? c).getD c :: cs)

/-- Whether a modifier asks for a capital. -/
def isFirstCap (modifier : String) : Bool :=
  modifier.toList.map Char.toLower = "firstcap".toList

/-- A value formatted by modifiers, one after another. -/
def applyFormat (value : String) (modifiers : List String) : String :=
  modifiers.foldl (fun value modifier =>
    if isFirstCap modifier then capitalizeFirst value else value) value

end MailMerge
