import MailMerge.Expression.Evaluation
import MailMerge.Field.Format
import MailMerge.Field.Placeholder
import MailMerge.Number.Decimal

/-!
# `MailMerge.Field.Merge`: filling in fields

A `FieldSource` says how fields are found, read and written in some kind of document. `mergeFields`
fills in the fields of any source: each placeholder's expression is read, checked for properties
without a value, evaluated and formatted. A placeholder for which this fails stays as it is and is
reported, and the others go on.
-/

set_option autoImplicit false

namespace MailMerge

open MailMerge.Number

/-- A language of messages. -/
inductive Language where
  | english
  | russian
deriving DecidableEq, Repr

/-- Why a placeholder is not filled in. -/
inductive FieldError where
  | invalidExpression (expression : String)
  | missingField (name : String)
deriving DecidableEq, Repr

namespace FieldError

/-- The expression or the name that the error is about. -/
def subject : FieldError → String
  | invalidExpression expression => expression
  | missingField name => name

/-- The short description of the error. -/
def description : FieldError → String
  | invalidExpression expression => "invalid expression: " ++ expression
  | missingField name => "missing value for field '" ++ name ++ "'"

/-- The message to the user. -/
def message : Language → FieldError → String
  | .english, invalidExpression expression => "Invalid expression: " ++ expression ++ "."
  | .english, missingField name => "Field " ++ name ++ " is not filled in."
  | .russian, invalidExpression expression => "Ошибка в выражении: " ++ expression ++ "."
  | .russian, missingField name => "Не заполнено поле " ++ name ++ "."

end FieldError

/-- How the fields of a document of type `σ` are found, read and written. What else the document
holds has no part in which placeholders a text has and in what the text becomes, so `placeholders`
and `render` are not given the document. -/
structure FieldSource (σ φ : Type) where
  /-- The fields, in document order. -/
  locate : σ → List φ
  /-- The text of a field that can be read. -/
  read : σ → φ → Option String
  /-- The placeholders in the text of a field, from left to right. Every source says what they are;
  those in brackets are the ones of workbooks only. -/
  placeholders : φ → String → List Placeholder
  /-- The new text of a field from the values of its placeholders. Where a source does not say
  otherwise, values are put in place of placeholders. -/
  render : String → List Placeholder → List (Option String) → String := Placeholder.substitute
  /-- Gives a field a new text. -/
  write : σ → φ → String → σ
  /-- Gives a field a number, if numbers are kept apart from text. -/
  commitNumber : σ → φ → Binary64 → Bool × σ := fun s _ _ => (false, s)

/-- The formatted value of a placeholder, or what is wrong with it. -/
def resolve (functions : Functions) (properties : Properties) (p : Placeholder) :
    Except (List FieldError) String :=
  match Expression.parse functions p.expression with
  | .error _ => .error [.invalidExpression p.expression]
  | .ok e =>
    match e.missing properties with
    | [] =>
      match e.evaluate functions properties with
      -- An evaluation that fails leaves the placeholder as it is, without a report.
      | .error _ => .error []
      | .ok value => .ok (applyFormat value p.modifiers)
    | names => .error (names.map .missingField)

/-- What is wrong with a placeholder, nothing where it has a value. -/
def faults (resolved : Except (List FieldError) String) : List FieldError :=
  match resolved with
  | .error es => es
  | .ok _ => []

/-- The number that a whole text stands for, white space around it aside. -/
def wholeNumber? (text : String) : Option Binary64 :=
  (readNumeral? (Text.trimChars text.toList)).filter (·.isFinite)

namespace FieldSource

variable {σ φ : Type}

/-- Stores the new text of a field, as a number where it has become one and the source takes it. -/
def store (source : FieldSource σ φ) (s : σ) (field : φ) (text rendered : String) : σ :=
  -- A text that filling in does not change stays a text, though it may be a number.
  if rendered = text then source.write s field rendered
  else
    match wholeNumber? rendered with
    | none => source.write s field rendered
    | some number =>
      match source.commitNumber s field number with
      | (true, s) => s
      | (false, s) => source.write s field rendered

/-- Fills in one field. -/
def mergeField (source : FieldSource σ φ) (functions : Functions) (properties : Properties)
    (s : σ) (field : φ) : σ × List FieldError :=
  match source.read s field with
  | none => (s, [])
  | some text =>
    let placeholders := source.placeholders field text
    let resolved := placeholders.map (resolve functions properties)
    let values := resolved.map (·.toOption)
    let errors := resolved.flatMap faults
    if values.all (·.isNone) then (s, errors)
    else (source.store s field text (source.render text placeholders values), errors)

/-- Fills in fields one after another. -/
def mergeEach (source : FieldSource σ φ) (functions : Functions) (properties : Properties)
    (s : σ) : List φ → σ × List FieldError
  | [] => (s, [])
  | field :: fields =>
    let (s, errors) := source.mergeField functions properties s field
    let (s, others) := source.mergeEach functions properties s fields
    (s, errors ++ others)

/-- Fills in all fields; errors are in document order. -/
def mergeFields (source : FieldSource σ φ) (functions : Functions) (properties : Properties)
    (s : σ) : σ × List FieldError :=
  source.mergeEach functions properties s (source.locate s)

end FieldSource

end MailMerge
