import MailMerge.Expression.Parser
import MailMerge.Expression.Suggestion

/-!
# `MailMerge.Expression.Evaluation`: the value of an expression

A literal is its text, a property its value, a call the function's result on the values of its
arguments from left to right. The first fault met ends the evaluation: in a call, first an unknown
function, then the faults of the arguments, then their count.
-/

set_option autoImplicit false

namespace MailMerge

/-- Why an expression has no value. -/
inductive EvalError where
  | unresolvedField (name : String) (suggestions : List String)
  | unknownFunction (name : String)
  | argumentCount (name : String) (expected got : Nat)
deriving DecidableEq, Repr

/-- Wording for suggestions after a message, none where there are no suggestions. -/
def didYouMean (suggestions : List String) : String :=
  if suggestions.isEmpty then "" else "; did you mean: " ++ ", ".intercalate suggestions ++ "?"

def EvalError.message : EvalError → String
  | unresolvedField name suggestions =>
    "unresolved field '" ++ name ++ "'" ++ didYouMean suggestions
  | unknownFunction name => unknownFunctionMessage name
  | argumentCount name expected got => argumentCountMessage name expected got

namespace Expression

mutual

/-- The value of an expression. -/
def evaluate (functions : Functions) (properties : Properties) :
    Expression → Except EvalError String
  | .literal text => .ok text
  | .field name =>
    match properties.get? name with
    | some value => .ok value
    | none => .error (.unresolvedField name (suggestions name properties.names))
  | .call name arguments =>
    match functions.get? name with
    | none => .error (.unknownFunction name)
    | some function =>
      match evaluateAll functions properties arguments with
      | .error e => .error e
      | .ok values =>
        match function.call? values with
        | some value => .ok value
        | none => .error (.argumentCount name function.arity values.length)

/-- The values of expressions, from left to right. -/
def evaluateAll (functions : Functions) (properties : Properties) :
    List Expression → Except EvalError (List String)
  | [] => .ok []
  | e :: es =>
    match evaluate functions properties e with
    | .error fault => .error fault
    | .ok value => (evaluateAll functions properties es).map (value :: ·)

end

/-- The value of an expression's text, if it can be read and all its properties have values. -/
def eval? (functions : Functions) (properties : Properties) (text : String) : Option String :=
  match parse functions text with
  | .error _ => none
  | .ok e =>
    if e.missing properties = [] then (e.evaluate functions properties).toOption else none

/-- The properties without a value that an expression's text refers to. -/
def missingIn (functions : Functions) (properties : Properties) (text : String) :
    Except ParseError (List String) :=
  (parse functions text).map (·.missing properties)

end Expression

end MailMerge
