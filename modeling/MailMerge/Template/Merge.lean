import MailMerge.Package.Basic
import MailMerge.Template.Kind
import MailMerge.Word.Merge
import MailMerge.Workbook.Merge

/-!
# `MailMerge.Template.Merge`: filling in document files

A template is copied and its copy is filled in. Nothing is written unless all parts can be read: a
copy that cannot be filled in stays a copy.
-/

set_option autoImplicit false

namespace MailMerge

variable {β : Type}

/-- Names a part in the fault of reading it. -/
def readPart {α : Type} (part : String) (read : Except Xml.Error α) : Except DocumentError α :=
  read.mapError (.xml part)

/-! ### Packages -/

namespace Package

/-- The document in a Word package. -/
def wordDocument (p : Package) : Except DocumentError WordDocument :=
  match p.partText WordDocument.partName with
  | .error e => .error e
  | .ok text => readPart WordDocument.partName (WordDocument.parse text)

/-- Fills in the document of a Word package. -/
def mergeWord (p : Package) (functions : Functions) (properties : Properties) :
    Except DocumentError (Package × List FieldError) :=
  p.wordDocument.map fun d =>
    let (merged, errors) := d.merge functions properties
    (p.setText WordDocument.partName merged.print, errors)

/-- Whether a part of a name is a worksheet: it lies directly in the folder of worksheets. -/
def isWorksheet (name : String) : Bool :=
  let folder := "xl/worksheets/".toList
  folder.isPrefixOf name.toList
    && !(name.toList.drop folder.length).contains '/'
    && ".xml".toList.isSuffixOf (name.toList.drop folder.length)

/-- Adds the worksheets of the named parts to a workbook. -/
def addWorksheets (p : Package) (w : Workbook) : List String → Except DocumentError Workbook
  | [] => .ok w
  | part :: parts =>
    match p.partText part with
    | .error e => .error e
    | .ok text =>
      match readPart part (w.addWorksheet part text) with
      | .error e => .error e
      | .ok w => p.addWorksheets w parts

/-- The shared strings of a spreadsheet package, without its worksheets. -/
def sharedStrings (p : Package) : Except DocumentError Workbook :=
  match p.partText Workbook.partName with
  | .error e => .error e
  | .ok text => readPart Workbook.partName (Workbook.parse text)

/-- The shared strings and worksheets of a spreadsheet package. -/
def workbook (p : Package) : Except DocumentError Workbook :=
  match p.sharedStrings with
  | .error e => .error e
  | .ok w => p.addWorksheets w (p.partNames.filter isWorksheet)

/-- The package with the shared strings and the changed worksheets of a workbook. -/
def setWorkbook (p : Package) (w : Workbook) : Package :=
  (w.worksheets.filter (·.modified)).foldl (fun p sheet => p.setText sheet.part sheet.xml.print)
    (p.setText Workbook.partName w.print)

/-- Fills in the shared strings of a spreadsheet package. -/
def mergeWorkbook (p : Package) (functions : Functions) (properties : Properties) :
    Except DocumentError (Package × List FieldError) :=
  p.workbook.map fun w =>
    let (merged, errors) := w.merge functions properties
    (p.setWorkbook merged, errors)

/-- Whether a spreadsheet package has shared strings. -/
def hasSharedStrings (p : Package) : Bool := (p.part? Workbook.partName).isSome

end Package

/-! ### File contents -/

/-- Fills in a file's content by a function on packages. -/
def mergeContentBy (format : ArchiveFormat β)
    (merge : Package → Except DocumentError (Package × List FieldError)) (p : Package) :
    Except DocumentError (β × List FieldError) :=
  match merge p with
  | .error e => .error e
  | .ok (merged, errors) => (merged.save format).map (·, errors)

/-- Fills in the content of a document file. A spreadsheet without shared strings has no fields and
is left as it is. -/
def mergeContent (format : ArchiveFormat β) (kind : DocumentKind) (functions : Functions)
    (properties : Properties) (content : β) : Except DocumentError (β × List FieldError) :=
  match Package.load format content with
  | .error e => .error e
  | .ok p =>
    match kind with
    | .word => mergeContentBy format (·.mergeWord functions properties) p
    | .spreadsheet =>
      -- Without the part there is nothing to parse, and the file is not even packed anew.
      if p.hasSharedStrings then mergeContentBy format (·.mergeWorkbook functions properties) p
      else .ok (content, [])

/-! ### Files -/

/-- The document file at a path, and where it is. -/
def findDocument (files : Files β) (path : String) : Except DocumentError (Location × β) :=
  match files.find path with
  | .ok found => .ok found
  | .error .isAFolder => .error (.badArchive .folder)
  | .error e => .error (.file path e)

/-- Fills in the document file at a path. A file that cannot be read stays as it was. So does, here,
a file whose package cannot be saved. On a disk it would not: a file is emptied before entries are
written, and those in front of the repeated name may be in it. -/
def mergeInPlace (format : ArchiveFormat β) (kind : DocumentKind) (functions : Functions)
    (properties : Properties) (files : Files β) (path : String) :
    Files β × Except DocumentError (List FieldError) :=
  match findDocument files path with
  | .error e => (files, .error e)
  | .ok (here, content) =>
    match mergeContent format kind functions properties content with
    | .error e => (files, .error e)
    | .ok (merged, errors) => (files.put here (.file merged), .ok errors)

/-- Copies a template and fills in the copy as a document of a kind. -/
def mergeCopy (format : ArchiveFormat β) (kind : DocumentKind) (functions : Functions)
    (properties : Properties) (files : Files β) (template output : String) :
    Files β × Except DocumentError (List FieldError) :=
  match files.copy format.blank template output with
  | .error e => (files, .error (.file template e))
  | .ok copied => mergeInPlace format kind functions properties copied output

/-- Copies a template and fills in the copy; the template's extension tells its kind. -/
def mergeTemplate (format : ArchiveFormat β) (functions : Functions) (properties : Properties)
    (files : Files β) (template output : String) :
    Files β × Except DocumentError (List FieldError) :=
  match DocumentKind.ofPath? template with
  | none => (files, .error (.unsupportedFormat template))
  | some kind => mergeCopy format kind functions properties files template output

end MailMerge
