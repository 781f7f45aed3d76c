import MailMerge.Field.Merge
import MailMerge.Workbook.Basic

/-!
# `MailMerge.Workbook.Merge`: filling in the shared strings of a workbook

Every placeholder of a shared string is filled in by itself. A text that becomes a number is stored
in the cells.
-/

set_option autoImplicit false

namespace MailMerge

namespace Workbook

/-- The fields of a workbook. -/
def source : FieldSource Workbook SharedStringField where
  locate := fields
  read := text?
  placeholders := fun _ => Placeholder.findBracketed
  write := write
  commitNumber := fun w field number => (true, w.putNumber field number)

/-- Fills in the fields of a workbook. -/
def merge (w : Workbook) (functions : Functions) (properties : Properties) :
    Workbook × List FieldError :=
  source.mergeFields functions properties w

end Workbook

end MailMerge
