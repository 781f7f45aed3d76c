import MailMerge.Expression.Parser
import MailMerge.Text.Utf8

/-!
# `MailMerge.Expression.Diagnostic`: where an expression is wrong

A diagnostic labels the part of the text that an error is about and offers help. A segment is
looked for from the right, a function's name from the first `(` on; where nothing is found the label
covers the whole text, or all from the first `(`. Labels are byte offsets and lengths.
-/

set_option autoImplicit false

namespace MailMerge

open MailMerge.Text

/-- An error with the part of the text that it is about. -/
structure Diagnostic where
  offset : Nat
  length : Nat
  message : String
  help : String
deriving DecidableEq, Repr

namespace Diagnostic

/-- The identifying code of a diagnostic about an expression. -/
def code : String := "docmerge::expression"

/-- The text of every label. -/
def label : String := "error here"

/-- Offset and length of the last occurrence of a text, or of the whole. -/
def spanOfLast (whole needle : List Char) : Nat × Nat :=
  match lastOffset? needle whole with
  | some offset => if needle.isEmpty then (0, byteSize whole) else (offset, byteSize needle)
  | none => (0, byteSize whole)

/-- Offset and length of the first occurrence of a name after the first `(`, or of all from there
on. -/
def spanOfCall (whole name : List Char) : Nat × Nat :=
  match offset? ['('] whole with
  | none => spanOfLast whole name
  | some start =>
    let calls := dropBytes start whole
    match offset? name calls with
    | some offset =>
      if name.isEmpty then (start, byteSize calls) else (start + offset, byteSize name)
    | none => (start, byteSize calls)

/-- The part of the text that an error is about. -/
def span (text : List Char) : ParseError → Nat × Nat
  | .empty => (0, byteSize text)
  | .unterminatedLiteral literal => spanOfLast text literal.toList
  | .unclosedCall segment => spanOfLast text segment.toList
  | .missingFunctionName segment => spanOfLast text segment.toList
  | .unknownFunction name => spanOfCall text name.toList
  | .argumentCount name _ _ => spanOfCall text name.toList

/-- What to do about an error. -/
def helpFor (functions : Functions) : ParseError → String
  | .empty => "start the expression with a field name or a quoted literal"
  | .unterminatedLiteral _ => "close the literal with '\"'"
  | .unclosedCall _ => "close the function application with ')'"
  | .missingFunctionName _ => "name a function after '('"
  | .unknownFunction _ => "available functions: " ++ ", ".intercalate functions.names
  | .argumentCount name expected _ =>
    "'" ++ name ++ "' takes " ++ toString expected ++ " argument(s)"

/-- The diagnostic of an error in a text. -/
def ofParseError (functions : Functions) (text : String) (e : ParseError) : Diagnostic :=
  let (offset, length) := span text.toList e
  ⟨offset, length, "invalid expression: " ++ e.message, helpFor functions e⟩

end Diagnostic

end MailMerge
