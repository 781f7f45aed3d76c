import MailMerge.Field.Instruction
import MailMerge.Field.Merge
import MailMerge.Word.Basic

/-!
# `MailMerge.Word.Merge`: filling in the fields of a Word document

The code of a merge field is one placeholder as a whole, and its value is what the field shows. The
code itself is left as it is, and numbers are shown as text like all else.
-/

set_option autoImplicit false

namespace MailMerge

namespace WordDocument

/-- The placeholder that a field's code is. -/
def placeholders (code : String) : List Placeholder :=
  match Instruction.parse? code with
  | none => []
  | some instruction =>
    [⟨0, Text.byteSize code.toList, instruction.name, instruction.modifiers⟩]

/-- The first value there is. -/
def firstValue (values : List (Option String)) : String := (values.findSome? id).getD ""

/-- A field shows a new value; one that shows nothing stays as it is. -/
def write (d : WordDocument) (field : WordField) (value : String) : WordDocument :=
  (d.setValue? field value).getD d

/-- The fields of a Word document. -/
def source : FieldSource WordDocument WordField where
  locate := fields
  read := code?
  placeholders := fun _ => placeholders
  render := fun _ _ values => firstValue values
  write := write

/-- Fills in the fields of a document. -/
def merge (d : WordDocument) (functions : Functions) (properties : Properties) :
    WordDocument × List FieldError :=
  source.mergeFields functions properties d

end WordDocument

end MailMerge
