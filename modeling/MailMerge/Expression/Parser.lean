import MailMerge.Expression.Basic
import MailMerge.Text.Blank
import MailMerge.Text.Cut
import MailMerge.Text.Uppercase

/-!
# `MailMerge.Expression.Parser`: reading expressions

An expression is a literal in quotes or the name of a property, then any count of applications such
as `(upper)` or `(join Surname)`. Each `(` begins a new application, which takes all before it as
its first argument. The function's name ends where the second argument begins, at an upper-case
letter or a quote; so names can hold spaces.
-/

set_option autoImplicit false

namespace MailMerge

open MailMerge.Text

/-- Why a text is no expression. -/
inductive ParseError where
  /-- There is nothing where a literal or a property is expected. -/
  | empty
  | unterminatedLiteral (text : String)
  | unclosedCall (segment : String)
  | missingFunctionName (segment : String)
  | unknownFunction (name : String)
  | argumentCount (name : String) (expected got : Nat)
deriving DecidableEq, Repr

/-- Wording for a wrong count of arguments. -/
def argumentCountMessage (name : String) (expected got : Nat) : String :=
  "function '" ++ name ++ "' expects " ++ toString expected ++ " arguments, got " ++ toString got

/-- Wording for a function that is not known. -/
def unknownFunctionMessage (name : String) : String := "unknown function '" ++ name ++ "'"

def ParseError.message : ParseError → String
  | empty => "expression is empty"
  | unterminatedLiteral text => "unterminated literal: " ++ text
  | unclosedCall segment => "function application '(" ++ segment ++ "' is missing ')'"
  | missingFunctionName segment => "function application '(" ++ segment ++ "' names no function"
  | unknownFunction name => unknownFunctionMessage name
  | argumentCount name expected got => argumentCountMessage name expected got

namespace Expression

/-- Reads a trimmed literal or name of a property. A literal runs to the last quote. -/
def readPrimary : List Char → Except ParseError Expression
  | [] => .error .empty
  | '"' :: cs =>
    match cutLast? '"' cs with
    | some (text, _) => .ok (.literal (.ofList text))
    | none => .error (.unterminatedLiteral (.ofList ('"' :: cs)))
  | cs => .ok (.field (.ofList cs))

/-- Whether a character begins the second argument. -/
def startsArgument (c : Char) : Bool := isUppercase c || c == '"'

/-- White space that can stand before a function's name. -/
def isPadding (c : Char) : Bool := c == ' ' || c == '\t' || c == '\r' || c == '\n'

/-- The function's name and the second argument in the inside of an application. -/
def readApplication? (body : List Char) : Option (List Char × List Char) :=
  let cs := body.dropWhile isPadding
  let name := cs.takeWhile (!startsArgument ·)
  if name.isEmpty then none
  else some (trimChars name, trimChars (cs.dropWhile (!startsArgument ·)))

/-- The second argument of an application, if there is one. -/
def readSecond (second : List Char) : Except ParseError (List Expression) :=
  if second.isEmpty then .ok [] else (readPrimary second).map ([·])

/-- A call of a known function with the right count of arguments. -/
def checkedCall (functions : Functions) (name : String) (arguments : List Expression) :
    Except ParseError Expression :=
  match functions.get? name with
  | none => .error (.unknownFunction name)
  | some function =>
    if function.arity = arguments.length then .ok (.call name arguments)
    else .error (.argumentCount name function.arity arguments.length)

/-- Applies the trimmed segment that follows a `(` to the expression before it. -/
def applySegment (functions : Functions) (inner : Expression) (segment : List Char) :
    Except ParseError Expression :=
  if segment.getLast? ≠ some ')' then .error (.unclosedCall (.ofList segment))
  else
    match readApplication? segment.dropLast with
    | none => .error (.missingFunctionName (.ofList segment))
    | some (name, second) =>
      match readSecond second with
      | .error e => .error e
      | .ok others => checkedCall functions (.ofList name) (inner :: others)

/-- Applies segments one after another. -/
def applySegments (functions : Functions) (inner : Expression) :
    List (List Char) → Except ParseError Expression
  | [] => .ok inner
  | segment :: segments =>
    match applySegment functions inner (trimChars segment) with
    | .error e => .error e
    | .ok outer => applySegments functions outer segments

/-- Reads an expression whose functions are all known. -/
def parse (functions : Functions) (text : String) : Except ParseError Expression :=
  let (first, others) := segments '(' text.toList
  match readPrimary (trimChars first) with
  | .error e => .error e
  | .ok inner => applySegments functions inner others

end Expression

end MailMerge
