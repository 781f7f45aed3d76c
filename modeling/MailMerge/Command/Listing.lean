import MailMerge.Command.Json
import MailMerge.Template.Merge
import MailMerge.Text.Columns

/-!
# `MailMerge.Command.Listing`: the placeholders of a document

A row of the listing says where a placeholder stands, its expression and modifiers, and what is
wrong with the expression. The listing is a table in a frame, or an array.
-/

set_option autoImplicit false

namespace MailMerge

/-- A placeholder of a document. -/
structure FieldRow where
  location : String
  expression : String
  modifiers : List String
deriving DecidableEq, Repr

/-- What is wrong with the expression of a row. -/
def FieldRow.error? (row : FieldRow) (functions : Functions) : Option ParseError :=
  match Expression.parse functions row.expression with
  | .ok _ => none
  | .error e => some e

/-! ### Rows -/

/-- Where a field of a Word document stands. -/
def WordField.location : WordField → String
  | .complex _ => "complex field"
  | .simple _ => "simple field"

/-- The rows of a field of a Word document. -/
def WordDocument.rowsOf (d : WordDocument) (field : WordField) : List FieldRow :=
  match d.code? field with
  | none => []
  | some code =>
    (WordDocument.placeholders code).map fun p => ⟨field.location, p.expression, p.modifiers⟩

/-- The rows of a shared string. -/
def Workbook.rowsOf (w : Workbook) (field : SharedStringField) : List FieldRow :=
  (Placeholder.findBracketed ((w.text? field).getD "")).map fun p =>
    ⟨"shared string " ++ toString field.index, p.expression, p.modifiers⟩

/-- The rows of a package. -/
def Package.rows (p : Package) : DocumentKind → Except DocumentError (List FieldRow)
  | .word => p.wordDocument.map fun d => d.fields.flatMap d.rowsOf
  | .spreadsheet =>
    if p.hasSharedStrings then p.sharedStrings.map fun w => w.fields.flatMap w.rowsOf
    else .ok []

/-! ### Tables -/

/-- The lines of a cell. -/
def cellLines (text : String) : List String :=
  let (first, others) := Text.segments '\n' text.toList
  (first :: others).map .ofList

/-- A row of cells as lines of cells; a short cell is filled up with empty lines. -/
def rowLines (cells : List String) : List (List String) :=
  let lines := cells.map cellLines
  let height := (lines.map (·.length)).foldl max 0
  (List.range height).map fun i => lines.map fun cell => (cell[i]?).getD ""

/-- The greatest width of each column. -/
def columnWidths (rows : List (List String)) : List Nat :=
  rows.foldl (fun widths row => widths.zipWith max (row.map Text.columns)) (List.replicate 4 0)

/-- A row of a character. -/
def rule (c : Char) (n : Nat) : String := String.ofList (List.replicate n c)

/-- A cell's line, filled up to a width and with a space on either side. Cells of a line are a space
apart. -/
def paddedCell (width : Nat) (text : String) : String :=
  " " ++ text ++ rule ' ' (width - Text.columns text) ++ " "

/-- A line of a table. -/
def tableLine (widths : List Nat) (cells : List String) : String :=
  "│" ++ " ".intercalate (widths.zipWith paddedCell cells) ++ "│"

/-- A table of four columns under a heading, in a frame. -/
def tableText (heading : List String) (rows : List (List String)) : String :=
  let lines := rows.flatMap rowLines
  let widths := columnWidths (heading :: lines)
  let inner := widths.foldl (fun n width => n + width + 3) 0 - 1
  "\n".intercalate
    (("┌" ++ rule '─' inner ++ "┐") :: tableLine widths heading :: ("╞" ++ rule '═' inner ++ "╡")
      :: lines.map (tableLine widths) ++ ["└" ++ rule '─' inner ++ "┘"])

/-- The listing as a table. -/
def fieldsTable (functions : Functions) (rows : List FieldRow) : String :=
  tableText ["Location", "Expression", "Modifiers", "Status"]
    (rows.map fun row =>
      [row.location, row.expression, ", ".intercalate row.modifiers,
        ((row.error? functions).map (·.message)).getD "ok"])

/-- A row of the listing as an object. -/
def FieldRow.toJson (functions : Functions) (row : FieldRow) : Json :=
  .object
    [("location", .text row.location),
     ("expression", .text row.expression),
     ("modifiers", .array (row.modifiers.map .text)),
     ("error", ((row.error? functions).map fun e => Json.text e.message).getD .null)]

end MailMerge
