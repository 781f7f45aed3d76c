import MailMerge.Expression.Basic
import MailMerge.Text.Blank
import MailMerge.Text.CaseMapping

/-!
# `MailMerge.Expression.Builtin`: the functions of the command line

`upper`, `lower` and `trim` take one argument; `or` gives its second argument when the first is
blank, and `join` puts a space between its arguments.
-/

set_option autoImplicit false

namespace MailMerge

/-- The first text, or the second where the first is blank. -/
def orElseText (value fallback : String) : String :=
  if Text.trim value = "" then fallback else value

/-- The functions of the command line. -/
def builtinFunctions : Functions :=
  .ofList
    [("upper", .unary Text.upperCase),
     ("lower", .unary Text.lowerCase),
     ("trim", .unary Text.trim),
     ("or", .binary orElseText),
     ("join", .binary fun left right => left ++ " " ++ right)]

end MailMerge
