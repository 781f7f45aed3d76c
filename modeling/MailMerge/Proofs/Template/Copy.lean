import MailMerge.Package.Memory
import MailMerge.Proofs.Files.Copy
import MailMerge.Template.Merge
import Mathlib.Control.Monad.Basic

/-!
# `MailMerge.Proofs.Template.Copy`: a template is kept, and what cannot be filled in is copied

A template is copied first, and the copy is written once more, when all of its content could be read
and filled in. So a run ends in one of three ways (`TemplateRun`): the kind of the template is not
known, or the file system refuses the copy, and nothing is changed; or there is a copy, and what is
left of it and reported is told by its content alone (`mergeCopied`). `mergeTemplate_keeps` tells
from this what is at the two paths after any run.

The template and the output are two files: their paths lead to different places. Onto itself a
template cannot be copied (`Files.content?_of_copy_onto_itself`). A file that is written holds all
that was written to it.
-/

set_option autoImplicit false

namespace MailMerge

variable {β : Type} (format : ArchiveFormat β) (functions : Functions) (properties : Properties)

/-- What becomes of a copy, and what is reported. -/
def mergeCopied (kind : DocumentKind) (content : β) : β × Except DocumentError (List FieldError) :=
  match mergeContent format kind functions properties content with
  | .error e => (content, .error e)
  | .ok (merged, errors) => (merged, .ok errors)

/-- What filling in a template to another path comes to. -/
inductive TemplateRun (files : Files β) (template output : String) :
    Files β × Except DocumentError (List FieldError) → Prop where
  | unsupported (hkind : DocumentKind.ofPath? template = none) :
      TemplateRun files template output (files, .error (.unsupportedFormat template))
  | notCopied {kind : DocumentKind} {fault : FileError}
      (hkind : DocumentKind.ofPath? template = some kind)
      (hcopy : files.copy format.blank template output = .error fault) :
      TemplateRun files template output (files, .error (.file template fault))
  | copied {kind : DocumentKind} {here there : Location} {content : β}
      (hkind : DocumentKind.ofPath? template = some kind)
      (hfind : files.find template = .ok (here, content))
      (hplace : files.place output = .ok there)
      (hcopy : files.copy format.blank template output = .ok (files.put there (.file content))) :
      TemplateRun files template output
        (files.put there (.file (mergeCopied format functions properties kind content).1),
          (mergeCopied format functions properties kind content).2)

theorem findDocument_of_find {files : Files β} {path : String} {found : Location × β}
    (h : files.find path = .ok found) : findDocument files path = .ok found := by
  unfold findDocument
  rw [h]

/-- A copy is filled in where it was written. -/
theorem mergeInPlace_put {files : Files β} {output : String} {there : Location}
    (kind : DocumentKind) (content : β) (hplace : files.place output = .ok there) :
    mergeInPlace format kind functions properties (files.put there (.file content)) output
      = (files.put there (.file (mergeCopied format functions properties kind content).1),
          (mergeCopied format functions properties kind content).2) := by
  unfold mergeInPlace mergeCopied
  rw [findDocument_of_find (Files.find_put_of_place hplace content)]
  dsimp only
  cases mergeContent format kind functions properties content with
  | error e => rfl
  | ok result => exact Prod.ext (Files.put_put ..) rfl

/-- A run ends in one of the three ways. -/
theorem templateRun_mergeTemplate (files : Files β) {template output : String}
    (hapart : Route.Apart template output) :
    TemplateRun format functions properties files template output
      (mergeTemplate format functions properties files template output) := by
  unfold mergeTemplate
  cases hkind : DocumentKind.ofPath? template with
  | none => exact .unsupported hkind
  | some kind =>
      dsimp only
      unfold mergeCopy
      cases hcopy : files.copy format.blank template output with
      | error fault => exact .notCopied hkind hcopy
      | ok copied =>
          obtain ⟨here, content, there, hfind, hplace, rfl⟩ := Files.copied_of_copy hapart hcopy
          dsimp only
          rw [mergeInPlace_put format functions properties kind content hplace]
          exact .copied hkind hfind hplace hcopy

section Copied

variable {format functions properties} {kind : DocumentKind} {content : β}

theorem mergeCopied_of_error {e : DocumentError}
    (h : mergeContent format kind functions properties content = .error e) :
    mergeCopied format functions properties kind content = (content, .error e) := by
  unfold mergeCopied
  rw [h]

/-- What is reported to have failed did fail. -/
theorem mergeContent_of_mergeCopied {e : DocumentError}
    (h : (mergeCopied format functions properties kind content).2 = .error e) :
    mergeContent format kind functions properties content = .error e := by
  unfold mergeCopied at h
  cases hmerge : mergeContent format kind functions properties content with
  | error fault =>
      rw [hmerge] at h
      cases h
      rfl
  | ok result =>
      rw [hmerge] at h
      cases h

/-- A spreadsheet without shared strings is not packed anew. -/
theorem mergeCopied_of_no_strings {p : Package} (hload : Package.load format content = .ok p)
    (hstrings : p.hasSharedStrings = false) :
    mergeCopied format functions properties .spreadsheet content = (content, .ok []) := by
  unfold mergeCopied mergeContent
  rw [hload]
  simp [hstrings]

end Copied

/-! ### Errors about the content -/

/-- What is made of a result adds no error. -/
theorem eq_error_of_map {ε α γ : Type} {x : Except ε α} {f : α → γ} {e : ε}
    (h : x.map f = .error e) : x = .error e := by
  cases x with
  | error fault =>
      cases h
      rfl
  | ok _ => cases h

/-- Whether an error is about the content of a document file: it is no archive, lacks a part, or has
one that is no text or no XML. -/
def DocumentError.isContent : DocumentError → Bool
  | badArchive _ | missingPart _ | encoding _ | xml _ _ => true
  | file _ _ | unsupportedFormat _ => false

namespace Package

variable {p : Package} {e : DocumentError}

theorem isContent_of_partText {name : String} (h : p.partText name = .error e) :
    e.isContent = true := by
  unfold partText at h
  split at h
  · cases h
    rfl
  · split at h
    · cases h
      rfl
    · cases h

theorem isContent_of_readPart {α : Type} {part : String} {read : Except Xml.Error α}
    (h : readPart part read = .error e) : e.isContent = true := by
  cases read with
  | ok _ => cases h
  | error fault =>
      cases h
      rfl

theorem isContent_of_wordDocument (h : p.wordDocument = .error e) : e.isContent = true := by
  unfold wordDocument at h
  split at h
  · rename_i htext
    cases h
    exact isContent_of_partText htext
  · exact isContent_of_readPart h

theorem isContent_of_addWorksheets {w : Workbook} {parts : List String}
    (h : p.addWorksheets w parts = .error e) : e.isContent = true := by
  induction parts generalizing w with
  | nil => cases h
  | cons part parts ih =>
      unfold addWorksheets at h
      split at h
      · rename_i htext
        cases h
        exact isContent_of_partText htext
      · split at h
        · rename_i hread
          cases h
          exact isContent_of_readPart hread
        · exact ih h

theorem isContent_of_workbook (h : p.workbook = .error e) : e.isContent = true := by
  unfold workbook at h
  split at h
  · rename_i hstrings
    cases h
    unfold sharedStrings at hstrings
    split at hstrings
    · rename_i htext
      cases hstrings
      exact isContent_of_partText htext
    · exact isContent_of_readPart hstrings
  · exact isContent_of_addWorksheets h

theorem isContent_of_save (h : p.save format = .error e) : e.isContent = true := by
  have hentries := eq_error_of_map h
  unfold toEntries at hentries
  dsimp only at hentries
  split at hentries
  · cases hentries
    rfl
  · cases hentries

end Package

theorem isContent_of_mergeContentBy
    {merge : Package → Except DocumentError (Package × List FieldError)} {p : Package}
    {e : DocumentError} (hmerge : ∀ e, merge p = .error e → e.isContent = true)
    (h : mergeContentBy format merge p = .error e) : e.isContent = true := by
  unfold mergeContentBy at h
  split at h
  · rename_i hfault
    cases h
    exact hmerge _ hfault
  · exact Package.isContent_of_save format (eq_error_of_map h)

/-- Filling in content fails for its content only. -/
theorem isContent_of_mergeContent {kind : DocumentKind} {content : β} {e : DocumentError}
    (h : mergeContent format kind functions properties content = .error e) :
    e.isContent = true := by
  unfold mergeContent at h
  split at h
  · rename_i hload
    cases h
    unfold Package.load at hload
    split at hload
    · cases hload
      rfl
    · cases hload
  · rename_i p _
    cases kind with
    | word =>
        refine isContent_of_mergeContentBy format (fun fault hfault => ?_) h
        exact Package.isContent_of_wordDocument (eq_error_of_map hfault)
    | spreadsheet =>
        dsimp only at h
        split at h
        · refine isContent_of_mergeContentBy format (fun fault hfault => ?_) h
          exact Package.isContent_of_workbook (eq_error_of_map hfault)
        · cases h

/-! ### What a run leaves -/

/-- What is at the paths of a template and of the output after a run. -/
structure KeepsTemplate (files : Files β) (template output : String)
    (run : Files β × Except DocumentError (List FieldError)) : Prop where
  /-- Without a known kind no file is changed. -/
  unsupported : DocumentKind.ofPath? template = none →
    run = (files, .error (.unsupportedFormat template))
  /-- Without a copy no file is changed. -/
  not_copied : ∀ kind fault, DocumentKind.ofPath? template = some kind →
    files.copy format.blank template output = .error fault →
    run = (files, .error (.file template fault))
  /-- Otherwise the content of the template tells what is left and reported. -/
  copied : ∀ kind copied content, DocumentKind.ofPath? template = some kind →
    files.copy format.blank template output = .ok copied →
    files.content? template = some content →
    run.1.content? output = some (mergeCopied format functions properties kind content).1
      ∧ run.2 = (mergeCopied format functions properties kind content).2
  /-- Where the content cannot be filled in the output is a copy of the template. -/
  failed : ∀ e, run.2 = .error e → e.isContent = true →
    ∃ content, files.content? template = some content ∧ run.1.content? output = some content
  /-- So it is where a spreadsheet has no shared strings, and that is no error. -/
  no_strings : ∀ copied content p, DocumentKind.ofPath? template = some .spreadsheet →
    files.copy format.blank template output = .ok copied →
    files.content? template = some content → Package.load format content = .ok p →
    p.hasSharedStrings = false →
    run.2 = .ok [] ∧ run.1.content? output = some content
  /-- An error is about the content, or no file is changed. -/
  unchanged : ∀ e, run.2 = .error e → e.isContent = false → run.1 = files
  /-- The template is what it was. -/
  template_eq : run.1.content? template = files.content? template
  /-- No place changes but that of the output. -/
  frame : ∀ place, files.place output ≠ .ok place → run.1 place = files place

section Write

variable {files : Files β} {template output : String} {here there : Location} {content : β}
  (hapart : Route.Apart template output) (hfind : files.find template = .ok (here, content))
  (hplace : files.place output = .ok there) (written : β)

include hplace

theorem content?_output : (files.put there (.file written)).content? output = some written :=
  Files.content?_eq_some_iff.2 ⟨there, Files.find_put_of_place hplace written⟩

theorem frame_put {place : Location} (h : files.place output ≠ .ok place) :
    files.put there (.file written) place = files place := by
  refine Files.put_of_ne files _ ?_
  rintro rfl
  exact h hplace

include hapart hfind

/-- A file that is written at the output leaves the template. -/
theorem content?_template :
    (files.put there (.file written)).content? template = files.content? template := by
  have hne := (Files.apart_iff_ne hplace hfind).1 hapart
  rw [Files.content?_eq_some_iff.2 ⟨here, hfind⟩, Files.content?_eq_some_iff]
  exact ⟨here, Files.find_put_of_ne hplace written hfind hne⟩

end Write

/-- Whatever the files hold, a run to another path keeps the template, and leaves its copy where the
content cannot be filled in. -/
theorem mergeTemplate_keeps (files : Files β) {template output : String}
    (hapart : Route.Apart template output) :
    KeepsTemplate format functions properties files template output
      (mergeTemplate format functions properties files template output) := by
  have hrun := templateRun_mergeTemplate format functions properties files hapart
  generalize mergeTemplate format functions properties files template output = run at hrun
  cases hrun with
  | unsupported hkind =>
      exact {
        unsupported _ := rfl
        not_copied _ _ hkind' := by simp [hkind] at hkind'
        copied _ _ _ hkind' := by simp [hkind] at hkind'
        failed e he hcontent := by
          cases he
          cases hcontent
        no_strings _ _ _ hkind' := by simp [hkind] at hkind'
        unchanged _ _ _ := rfl
        template_eq := rfl
        frame _ _ := rfl }
  | notCopied hkind hcopy =>
      exact {
        unsupported hkind' := by simp [hkind] at hkind'
        not_copied _ _ _ hcopy' := by
          rw [hcopy] at hcopy'
          cases hcopy'
          rfl
        copied _ _ _ _ hcopy' := by simp [hcopy] at hcopy'
        failed e he hcontent := by
          cases he
          cases hcontent
        no_strings _ _ _ _ hcopy' := by simp [hcopy] at hcopy'
        unchanged _ _ _ := rfl
        template_eq := rfl
        frame _ _ := rfl }
  | @copied kind here there content hkind hfind hplace hcopy =>
      have hat : files.content? template = some content :=
        Files.content?_eq_some_iff.2 ⟨here, hfind⟩
      have hwritten :=
        content?_output hplace (mergeCopied format functions properties kind content).1
      exact {
        unsupported hkind' := by simp [hkind] at hkind'
        not_copied _ _ _ hcopy' := by simp [hcopy] at hcopy'
        copied kind' _ content' hkind' _ hat' := by
          rw [hkind, Option.some.injEq] at hkind'
          rw [hat, Option.some.injEq] at hat'
          subst hkind' hat'
          exact ⟨hwritten, rfl⟩
        failed e he _ := by
          rw [mergeCopied_of_error (mergeContent_of_mergeCopied he)] at hwritten ⊢
          exact ⟨content, hat, hwritten⟩
        no_strings _ content' p hkind' _ hat' hload hnone := by
          rw [hkind, Option.some.injEq] at hkind'
          rw [hat, Option.some.injEq] at hat'
          subst hkind' hat'
          rw [mergeCopied_of_no_strings hload hnone] at hwritten ⊢
          exact ⟨rfl, hwritten⟩
        unchanged e he hcontent := by
          rw [isContent_of_mergeContent format functions properties
            (mergeContent_of_mergeCopied he)] at hcontent
          cases hcontent
        template_eq := content?_template hapart hfind hplace _
        frame _ hne := frame_put hplace _ hne }

/-- A spreadsheet whose second worksheet ends within its elements. -/
def cutSpreadsheet : FileContent :=
  .archive [
    ⟨"xl/sharedStrings.xml", false, "<sst><si><t>[[Name]]</t></si></sst>".toUTF8⟩,
    ⟨"xl/worksheets/sheet1.xml", false, "<worksheet><sheetData/></worksheet>".toUTF8⟩,
    ⟨"xl/worksheets/sheet2.xml", false, "<worksheet><sheetData>".toUTF8⟩]

/-- A file system whose only file is that spreadsheet. -/
def cutFiles : Files FileContent := Files.empty.add "order.xlsx" cutSpreadsheet

/-- The first worksheet was read and the name has a value, but the copy stays a copy. -/
theorem mergeTemplate_keeps_cutFiles :
    let properties : Properties := .ofList [("Name", "Ann")]
    let run := mergeTemplate FileContent.format .empty properties cutFiles "order.xlsx" "./out.xlsx"
    Route.Apart "order.xlsx" "./out.xlsx"
      ∧ KeepsTemplate FileContent.format .empty properties cutFiles "order.xlsx" "./out.xlsx" run
      ∧ run.2 = .error (.xml "xl/worksheets/sheet2.xml" (.tree (.elementUnclosed "sheetData")))
      ∧ cutFiles.content? "order.xlsx" = some cutSpreadsheet
      ∧ run.1.content? "order.xlsx" = some cutSpreadsheet
      ∧ run.1.content? "./out.xlsx" = some cutSpreadsheet := by
  intro properties run
  have hapart : Route.Apart "order.xlsx" "./out.xlsx" := by decide +kernel
  have hkeeps := mergeTemplate_keeps FileContent.format .empty properties cutFiles hapart
  have herror : run.2 =
      .error (.xml "xl/worksheets/sheet2.xml" (.tree (.elementUnclosed "sheetData"))) := by
    decide +kernel
  have htemplate : cutFiles.content? "order.xlsx" = some cutSpreadsheet := by rfl
  obtain ⟨content, hcontent, houtput⟩ := hkeeps.failed _ herror rfl
  rw [htemplate, Option.some.injEq] at hcontent
  subst hcontent
  exact ⟨hapart, hkeeps, herror, htemplate, hkeeps.template_eq.trans htemplate, houtput⟩

end MailMerge
