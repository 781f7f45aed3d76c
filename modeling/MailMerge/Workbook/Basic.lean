import MailMerge.Field.Placeholder
import MailMerge.Number.Layout
import MailMerge.Xml.Builder
import MailMerge.Xml.Path
import MailMerge.Xml.Printer
import MailMerge.Xml.Space

/-!
# `MailMerge.Workbook.Basic`: shared strings and the cells that refer to them

A workbook keeps the texts of its cells in a table of shared strings, and cells refer to them by
index. A shared string with placeholders in brackets is a field. Where its text becomes a number,
the string is emptied and every cell that refers to it becomes a numeric cell.
-/

set_option autoImplicit false

namespace MailMerge

open MailMerge.Xml

/-- Qualified names of the elements of shared strings and worksheets. -/
structure SheetNames where
  item : String
  text : String
  run : String
  cell : String
  value : String
deriving DecidableEq, Repr

namespace SheetNames

/-- The namespace of the elements. -/
def namespaceUri : String := "http://schemas.openxmlformats.org/spreadsheetml/2006/main"

/-- The prefix of the names in a document, none where the namespace is not declared. -/
def prefixOf (xml : Document) : String := (xml.prefixFor? namespaceUri).getD ""

/-- The names under a namespace prefix. -/
def ofPrefix (nsPrefix : String) : SheetNames where
  item := qualifiedName nsPrefix "si"
  text := qualifiedName nsPrefix "t"
  run := qualifiedName nsPrefix "r"
  cell := qualifiedName nsPrefix "c"
  value := qualifiedName nsPrefix "v"

/-- The text that a piece of a shared string shows: its text or that of a rich-text run. Phonetic
runs show none. -/
def pieceText (names : SheetNames) (e : Element) : String :=
  if e.name = names.text then e.text
  else if e.name = names.run then ((e.child? names.text).map (·.text)).getD ""
  else ""

/-- The text that a shared string shows. -/
def itemText (names : SheetNames) (item : Element) : String :=
  String.join (item.elements.map fun (_, e) => names.pieceText e)

/-- A shared string with a plain text in place of its content. -/
def plainItem (names : SheetNames) (value : String) (item : Element) : Element :=
  { item with children := [((Element.ofName names.text).showText value).toNode] }

/-- The attribute with the type of a cell's value. -/
def cellType : String := "t"

/-- The type of cells that refer to shared strings. -/
def sharedType : String := "s"

/-- Whether an element is a cell that refers to the shared string of an index. -/
def refersTo (names : SheetNames) (index : Nat) (e : Element) : Bool :=
  -- The index is compared as it is printed, so that `01` refers to no string.
  e.name = names.cell && e.attribute? cellType = some sharedType
    && (e.child? names.value).any fun v => Text.trim v.text = toString index

/-- A cell with a number in place of its reference. -/
def numericCell (names : SheetNames) (number : String) (cell : Element) : Element :=
  (cell.removeAttribute cellType).modifyChild names.value (·.setText number)

end SheetNames

/-- A worksheet part, the prefix of the names in it, and whether a cell of it was changed. -/
structure Worksheet where
  part : String
  xml : Document
  nsPrefix : String
  modified : Bool
deriving DecidableEq, Repr

/-- A table of shared strings, the prefix of the names in it, and the worksheets that refer to
it. -/
structure Workbook where
  sharedStrings : Document
  nsPrefix : String
  worksheets : List Worksheet
deriving DecidableEq, Repr

/-- A shared string with placeholders: its index in the table and among the root's children. -/
structure SharedStringField where
  index : Nat
  child : Nat
deriving DecidableEq, Repr

namespace Worksheet

/-- The names of the worksheet's elements. -/
def names (sheet : Worksheet) : SheetNames := .ofPrefix sheet.nsPrefix

/-- Paths of the cells that refer to the shared string of an index. -/
def cellsOf (sheet : Worksheet) (index : Nat) : List Path :=
  (sheet.xml.root.walk.filter fun (_, e) => sheet.names.refersTo index e).map (·.1)

/-- The worksheet with a number in every cell that refers to the shared string of an index. -/
def putNumber (sheet : Worksheet) (index : Nat) (number : String) : Worksheet :=
  match sheet.cellsOf index with
  | [] => sheet
  | cells =>
    -- The paths are those before any cell is changed.
    let root := cells.foldl (fun root path => root.modify (sheet.names.numericCell number) path)
      sheet.xml.root
    { sheet with xml := { sheet.xml with root }, modified := true }

/-- The first cell with a reference such as `B2`. -/
def cell? (sheet : Worksheet) (reference : String) : Option Element :=
  (sheet.xml.root.walk.find? fun (_, e) =>
    e.name = sheet.names.cell && e.attribute? "r" = some reference).map (·.2)

end Worksheet

namespace Workbook

/-- The part of a package that holds the shared strings. -/
def partName : String := "xl/sharedStrings.xml"

/-- A workbook of shared strings without worksheets. -/
def ofXml (sharedStrings : Document) : Workbook :=
  ⟨sharedStrings, SheetNames.prefixOf sharedStrings, []⟩

/-- The names of the elements of the table. -/
def names (w : Workbook) : SheetNames := .ofPrefix w.nsPrefix

/-- Reads a table of shared strings. -/
def parse (source : String) : Except Error Workbook := (Document.parse source).map ofXml

/-- Adds a worksheet, read from its source. -/
def addWorksheet (w : Workbook) (part source : String) : Except Error Workbook :=
  (Document.parse source).map fun xml =>
    { w with worksheets := w.worksheets ++ [⟨part, xml, SheetNames.prefixOf xml, false⟩] }

/-- The source of the shared strings. -/
def print (w : Workbook) : String := w.sharedStrings.print

/-- The shared strings with their indices among the root's children. -/
def items (w : Workbook) : List (Nat × Element) :=
  w.sharedStrings.root.elements.filter fun (_, e) => e.name = w.names.item

/-- The texts of all shared strings. -/
def texts (w : Workbook) : List String := w.items.map fun (_, item) => w.names.itemText item

/-- The shared strings with placeholders. -/
def fields (w : Workbook) : List SharedStringField :=
  w.items.zipIdx.filterMap fun ((child, item), index) =>
    if (Placeholder.findBracketed (w.names.itemText item)).isEmpty then none
    else some ⟨index, child⟩

/-- The text of a shared string. -/
def text? (w : Workbook) (field : SharedStringField) : Option String :=
  (w.sharedStrings.root.get? [field.child]).map w.names.itemText

/-- The workbook in which a shared string has a plain text, if it is still there. -/
def setText? (w : Workbook) (field : SharedStringField) (value : String) : Option Workbook :=
  let root := w.sharedStrings.root
  (root.get? [field.child]).map fun _ =>
    { w with sharedStrings :=
        { w.sharedStrings with root := root.modify (w.names.plainItem value) [field.child] } }

/-- A shared string gets a plain text; one that is no longer there is left alone. -/
def write (w : Workbook) (field : SharedStringField) (value : String) : Workbook :=
  (w.setText? field value).getD w

/-- Count of the cells that refer to the shared string of an index. -/
def countCells (w : Workbook) (index : Nat) : Nat :=
  (w.worksheets.flatMap (·.cellsOf index)).length

/-- The workbook with a shared string emptied and a number in every cell that refers to it. -/
def putNumber (w : Workbook) (field : SharedStringField) (number : Number.Binary64) : Workbook :=
  let emptied := w.write field ""
  { emptied with
    worksheets := w.worksheets.map (·.putNumber field.index (Number.plainLayout.text number)) }

/-- The first cell with a reference in the first worksheet of a part name. -/
def cell? (w : Workbook) (part reference : String) : Option Element :=
  (w.worksheets.find? (·.part = part)).bind (·.cell? reference)

end Workbook

end MailMerge
