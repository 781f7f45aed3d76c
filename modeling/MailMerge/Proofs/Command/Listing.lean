import MailMerge.Command.Run
import MailMerge.Package.Memory
import MailMerge.Proofs.Template.Report
import MailMerge.Proofs.Template.Success

/-!
# `MailMerge.Proofs.Command.Listing`: the listing of a template foretells a run over it

The listing reads the placeholders of a template as it is, and a run finds them field by field in a
document that it is changing. Where no field shows what is written to another, these are the same
placeholders (`VisitsOccurrences`). `Foretells` says this of rows and errors, with the expressions
that cannot be read: the listing has them in its rows, and the run among its errors.

* `VisitsOccurrences.foretells`: the rows of a document's placeholders foretell a run.
* `listFields_of_mergeTemplate`: what the program lists of a template that it can fill in.
-/

set_option autoImplicit false

namespace MailMerge

/-! ### Rows and errors -/

/-- The expression that an error says cannot be read. -/
def FieldError.invalid? : FieldError → Option String
  | .invalidExpression expression => some expression
  | .missingField _ => none

/-- The row of a placeholder at a place. -/
def Placeholder.row (p : Placeholder) (location : String) : FieldRow :=
  ⟨location, p.expression, p.modifiers⟩

/-- The expressions of rows that have an error. -/
def invalidRows (functions : Functions) (rows : List FieldRow) : List String :=
  (rows.filter fun row => (row.error? functions).isSome).map (·.expression)

/-- A row has an error just if the run reports its expression, and it reports nothing else that
cannot be read. -/
theorem invalidRows_row (functions : Functions) (properties : Properties) (p : Placeholder)
    (location : String) :
    invalidRows functions [p.row location]
      = (faults (resolve functions properties p)).filterMap (·.invalid?) := by
  unfold invalidRows FieldRow.error?
  rw [faults_resolve, List.filter_singleton]
  dsimp only [Placeholder.row]
  cases Expression.parse functions p.expression with
  | error fault => rfl
  | ok e =>
      have hmissing : ((e.missing properties).map FieldError.missingField).filterMap (·.invalid?)
          = [] := by
        rw [List.filterMap_eq_nil_iff]
        intro err herr
        obtain ⟨name, -, rfl⟩ := List.mem_map.1 herr
        rfl
      exact hmissing.symm

theorem invalidRows_cons (functions : Functions) (row : FieldRow) (rows : List FieldRow) :
    invalidRows functions (row :: rows)
      = invalidRows functions [row] ++ invalidRows functions rows := by
  unfold invalidRows
  rw [← List.map_append, ← List.filter_append]
  rfl

namespace FieldSource

variable {σ φ : Type} {source : FieldSource σ φ} {functions : Functions} {properties : Properties}
  {s : σ}

/-- Rows list the placeholders that a run over a document comes to, in order, with the places of
their fields, and mark those that the run reports as unreadable. -/
structure Foretells (source : FieldSource σ φ) (functions : Functions) (properties : Properties)
    (location : φ → String) (s : σ) (rows : List FieldRow) : Prop where
  rows_eq : rows = (source.visits functions properties s).map fun visit =>
    visit.placeholder.row (location visit.field)
  invalid_eq : invalidRows functions rows
    = (source.mergeFields functions properties s).2.filterMap (·.invalid?)

/-- The rows of placeholders, one after another, against what a run says about them. -/
theorem invalidRows_map (location : φ → String) (occurrences : List (φ × Placeholder)) :
    invalidRows functions (occurrences.map fun (field, p) => p.row (location field))
      = (occurrences.flatMap fun occurrence =>
          faults (resolve functions properties occurrence.2)).filterMap (·.invalid?) := by
  induction occurrences with
  | nil => rfl
  | cons occurrence occurrences ih =>
      rw [List.map_cons, invalidRows_cons, ih, List.flatMap_cons, List.filterMap_append,
        invalidRows_row functions properties occurrence.2]

theorem VisitsOccurrences.foretells (h : source.VisitsOccurrences s) (functions : Functions)
    (properties : Properties) (location : φ → String) :
    source.Foretells functions properties location s
      ((source.occurrences s).map fun (field, p) => p.row (location field)) where
  rows_eq := by
    rw [h, List.map_map]
    rfl
  invalid_eq := by
    rw [h.mergeFields_snd]
    exact invalidRows_map location (source.occurrences s)

end FieldSource

/-! ### Documents -/

/-- The rows of a Word document are those of its placeholders. -/
theorem WordDocument.flatMap_rowsOf (d : WordDocument) :
    d.fields.flatMap d.rowsOf
      = (source.occurrences d).map fun (field, p) => p.row field.location := by
  unfold FieldSource.occurrences
  rw [List.map_flatMap]
  refine List.flatMap_congr fun field _ => ?_
  have hread : source.read d field = d.code? field := rfl
  rw [rowsOf, hread, List.map_map]
  cases d.code? field <;> rfl

/-- The place of a shared string, as a listing says it. -/
def SharedStringField.location (field : SharedStringField) : String :=
  "shared string " ++ toString field.index

/-- So are those of a table of shared strings. -/
theorem Workbook.flatMap_rowsOf (w : Workbook) :
    w.fields.flatMap w.rowsOf
      = (source.occurrences w).map fun (field, p) => p.row field.location := by
  unfold FieldSource.occurrences
  rw [List.map_flatMap]
  refine List.flatMap_congr fun field _ => ?_
  have hread : source.read w field = w.text? field := rfl
  rw [rowsOf, hread, List.map_map]
  cases w.text? field with
  | none =>
      have hempty : Placeholder.findBracketed "" = [] := by decide +kernel
      rw [Option.getD_none, hempty]
      rfl
  | some text => rfl

/-! ### Templates -/

/-- Rows foretell the errors of a run over a package, for a Word document if its texts and codes hold
no elements. -/
inductive Package.Foretells (p : Package) (functions : Functions) (properties : Properties) :
    DocumentKind → List FieldRow → List FieldError → Prop where
  | word {d : WordDocument} {rows : List FieldRow} (hdocument : p.wordDocument = .ok d)
      (hrows : d.Flat →
        WordDocument.source.Foretells functions properties WordField.location d rows) :
      p.Foretells functions properties .word rows (d.merge functions properties).2
  | spreadsheet {w : Workbook} {rows : List FieldRow} (hworkbook : p.workbook = .ok w)
      (hrows : Workbook.source.Foretells functions properties SharedStringField.location w rows) :
      p.Foretells functions properties .spreadsheet rows (w.merge functions properties).2
  | noStrings (hstrings : p.hasSharedStrings = false) :
      p.Foretells functions properties .spreadsheet [] []

/-- What can be filled in can be listed, and the listing of the template has the placeholders that
the run came to and marks the expressions that the run reported as unreadable. -/
theorem listFields_of_mergeTemplate {β : Type} {format : ArchiveFormat β} {functions : Functions}
    {properties : Properties} {files files' : Files β} {template output : String}
    {errors : List FieldError} (hblank : ∀ entries, format.read format.blank ≠ .ok entries)
    (h : mergeTemplate format functions properties files template output = (files', .ok errors)) :
    ∃ kind content p rows, DocumentKind.ofPath? template = some kind
      ∧ files.content? template = some content ∧ Package.load format content = .ok p
      ∧ listFields format files template = .ok rows
      ∧ p.Foretells functions properties kind rows errors := by
  obtain ⟨kind, here, content, there, merged, hkind, hfind, -, hmerge, -⟩ :=
    mergeTemplate_eq_ok hblank h
  have hcontent : files.content? template = some content :=
    Files.content?_eq_some_iff.2 ⟨here, hfind⟩
  have hlist {p : Package} (hload : Package.load format content = .ok p) :
      listFields format files template = p.rows kind := by
    unfold listFields
    simp only [hkind, findDocument_of_find hfind, hload]
  cases hmerge with
  | @word _ _ p d hload hdocument hsave =>
      have hrows : p.rows .word = .ok (d.fields.flatMap d.rowsOf) := by
        rw [Package.rows, hdocument]
        rfl
      refine ⟨.word, content, p, _, hkind, hcontent, hload, (hlist hload).trans hrows,
        .word hdocument fun hflat => ?_⟩
      rw [d.flatMap_rowsOf]
      exact (WordDocument.visitsOccurrences hflat).foretells functions properties _
  | @spreadsheet _ _ p w hload hstrings hworkbook hsave =>
      obtain ⟨table, sheets, htable, -, rfl⟩ := Package.workbook_eq_ok hworkbook
      -- The listing reads the shared strings alone, and they have all the fields.
      let w : Workbook := { table with worksheets := sheets }
      have hrows : p.rows .spreadsheet = .ok (w.fields.flatMap w.rowsOf) := by
        rw [Package.rows, if_pos hstrings, htable]
        rfl
      refine ⟨.spreadsheet, content, p, _, hkind, hcontent, hload, (hlist hload).trans hrows,
        .spreadsheet hworkbook ?_⟩
      rw [w.flatMap_rowsOf]
      exact w.visitsOccurrences.foretells functions properties _
  | @noStrings _ p hload hstrings =>
      have hrows : p.rows .spreadsheet = .ok [] := by
        rw [Package.rows, hstrings]
        rfl
      exact ⟨.spreadsheet, content, p, [], hkind, hcontent, hload, (hlist hload).trans hrows,
        .noStrings hstrings⟩

/-- An order and a letter, with placeholders that lack a value or cannot be read. -/
def orderFiles : Files FileContent :=
  (Files.empty.add "order.xlsx" (.archive [
    ⟨"xl/sharedStrings.xml", false, "<sst><si><t>[[Name (]][[City]]</t></si></sst>".toUTF8⟩])).add
    "letter.docx" (.archive [
      ⟨"word/document.xml", false, "<w:fldSimple w:instr=' MERGEFIELD (x \\* Upper'/>".toUTF8⟩])

/-- Both can be filled in, and their listings have what was reported. -/
theorem listFields_of_mergeTemplate_orderFiles :
    let format := FileContent.format
    let merge := mergeTemplate format builtinFunctions nameOnly orderFiles
    let foretold template errors := ∃ kind content p rows,
      DocumentKind.ofPath? template = some kind ∧ orderFiles.content? template = some content
        ∧ Package.load format content = .ok p ∧ listFields format orderFiles template = .ok rows
        ∧ p.Foretells builtinFunctions nameOnly kind rows errors
    (∀ entries, format.read format.blank ≠ .ok entries)
      ∧ (merge "order.xlsx" "out").2 = .ok [.invalidExpression "Name (", .missingField "City"]
      ∧ foretold "order.xlsx" [.invalidExpression "Name (", .missingField "City"]
      ∧ listFields format orderFiles "order.xlsx"
        = .ok [⟨"shared string 0", "Name (", []⟩, ⟨"shared string 0", "City", []⟩]
      ∧ (merge "letter.docx" "out").2 = .ok [.invalidExpression "(x"]
      ∧ foretold "letter.docx" [.invalidExpression "(x"]
      ∧ listFields format orderFiles "letter.docx" = .ok [⟨"simple field", "(x", ["Upper"]⟩] := by
  intro format merge foretold
  have hblank : ∀ entries, format.read format.blank ≠ .ok entries := nofun
  have horder : (merge "order.xlsx" "out").2
      = .ok [.invalidExpression "Name (", .missingField "City"] := by
    decide +kernel
  have hletter : (merge "letter.docx" "out").2 = .ok [.invalidExpression "(x"] := by
    decide +kernel
  exact ⟨hblank, horder, listFields_of_mergeTemplate hblank (Prod.ext rfl horder),
    by decide +kernel, hletter, listFields_of_mergeTemplate hblank (Prod.ext rfl hletter),
    by decide +kernel⟩

end MailMerge
