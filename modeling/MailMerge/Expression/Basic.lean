import MailMerge.Dictionary

/-!
# `MailMerge.Expression.Basic`: what a field asks for

A field's expression is a literal text, a named property, or a function applied to expressions.
Functions take one argument or two.
-/

set_option autoImplicit false

namespace MailMerge

/-- What a field asks for. -/
inductive Expression where
  | literal (text : String)
  /-- The value of a property. -/
  | field (name : String)
  | call (function : String) (arguments : List Expression)
deriving Repr, Inhabited

/-- The values of the properties. -/
abbrev Properties := Dictionary String

/-- A function on texts. -/
inductive Function where
  | unary (f : String → String)
  | binary (f : String → String → String)

namespace Function

/-- Count of the arguments that the function takes. -/
def arity : Function → Nat
  | unary _ => 1
  | binary _ => 2

/-- The result, if the count of arguments is right. -/
def call? : Function → List String → Option String
  | unary f, [value] => some (f value)
  | binary f, [value, second] => some (f value second)
  | _, _ => none

theorem isSome_call?_iff (f : Function) (values : List String) :
    (f.call? values).isSome = true ↔ values.length = f.arity := by
  cases f <;> rcases values with _ | ⟨a, _ | ⟨b, _ | ⟨c, cs⟩⟩⟩ <;> simp [call?, arity]

end Function

/-- The functions that expressions can name. -/
abbrev Functions := Dictionary Function

mutual

/-- Names of the properties that an expression refers to, in order. -/
def Expression.references : Expression → List String
  | .literal _ => []
  | .field name => [name]
  | .call _ arguments => Expression.referencesAll arguments

/-- Names of the properties that expressions refer to, in order. -/
def Expression.referencesAll : List Expression → List String
  | [] => []
  | e :: es => e.references ++ Expression.referencesAll es

end

/-- Names of the properties that an expression refers to and that have no value, each once, in the
order of first reference. -/
def Expression.missing (e : Expression) (properties : Properties) : List String :=
  (e.references.filter (!properties.contains ·)).eraseDups

end MailMerge
