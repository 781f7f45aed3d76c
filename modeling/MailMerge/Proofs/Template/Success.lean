import MailMerge.Proofs.Template.Copy
import MailMerge.Proofs.Xml.Attributes
import Mathlib.Data.List.Forall2

/-!
# `MailMerge.Proofs.Template.Success`: runs that go well

A run goes well in one of three ways (`ContentMerge`): a Word document was filled in, or the shared
strings of a spreadsheet, or a spreadsheet has none. Then the outcome is where the document file was
(`mergeInPlace_eq_ok`), or at the output, if a template was copied there first
(`mergeTemplate_eq_ok`).

A file of no bytes is no archive. So a template that was copied onto itself, which empties it, is
not filled in (`apart_of_mergeTemplate`).
-/

set_option autoImplicit false

namespace MailMerge

open MailMerge.Xml (exists_of_map_eq_ok)

variable {β : Type} (format : ArchiveFormat β) (functions : Functions) (properties : Properties)

/-! ### Workbooks that were read -/

namespace Package

variable {p : Package}

/-- A worksheet as it was read from a part. -/
def ReadsSheet (p : Package) (part : String) (sheet : Worksheet) : Prop :=
  ∃ text xml, p.partText part = .ok text ∧ Xml.Document.parse text = .ok xml
    ∧ sheet = ⟨part, xml, SheetNames.prefixOf xml, false⟩

theorem readPart_eq_ok {α : Type} {part : String} {read : Except Xml.Error α} {value : α}
    (h : readPart part read = .ok value) : read = .ok value := by
  cases read with
  | error fault => cases h
  | ok value' =>
      cases h
      rfl

theorem sharedStrings_eq_ok {w : Workbook} (h : p.sharedStrings = .ok w) :
    ∃ text xml, p.partText Workbook.partName = .ok text ∧ Xml.Document.parse text = .ok xml
      ∧ w = .ofXml xml := by
  unfold sharedStrings at h
  cases htext : p.partText Workbook.partName with
  | error fault => simp [htext] at h
  | ok text =>
      rw [htext] at h
      obtain ⟨xml, hxml, rfl⟩ := exists_of_map_eq_ok (readPart_eq_ok h)
      exact ⟨text, xml, rfl, hxml, rfl⟩

theorem addWorksheets_eq_ok {w w' : Workbook} {parts : List String}
    (h : p.addWorksheets w parts = .ok w') :
    ∃ sheets, List.Forall₂ p.ReadsSheet parts sheets
      ∧ w' = { w with worksheets := w.worksheets ++ sheets } := by
  induction parts generalizing w with
  | nil =>
      cases h
      exact ⟨[], .nil, by simp⟩
  | cons part parts ih =>
      unfold addWorksheets at h
      cases htext : p.partText part with
      | error fault => simp [htext] at h
      | ok text =>
          rw [htext] at h
          dsimp only at h
          cases hread : readPart part (w.addWorksheet part text) with
          | error fault => simp [hread] at h
          | ok next =>
              rw [hread] at h
              obtain ⟨xml, hxml, rfl⟩ := exists_of_map_eq_ok (readPart_eq_ok hread)
              obtain ⟨sheets, hsheets, rfl⟩ := ih h
              exact ⟨_ :: sheets, .cons ⟨text, xml, htext, hxml, rfl⟩ hsheets, by simp⟩

/-- A workbook is its shared strings with the worksheets of all worksheet parts, in their order. -/
theorem workbook_eq_ok {w : Workbook} (h : p.workbook = .ok w) :
    ∃ table sheets, p.sharedStrings = .ok table
      ∧ List.Forall₂ p.ReadsSheet (p.partNames.filter isWorksheet) sheets
      ∧ w = { table with worksheets := sheets } := by
  unfold workbook at h
  cases htable : p.sharedStrings with
  | error fault => simp [htable] at h
  | ok table =>
      rw [htable] at h
      obtain ⟨sheets, hsheets, rfl⟩ := addWorksheets_eq_ok h
      obtain ⟨_, xml, -, -, rfl⟩ := sharedStrings_eq_ok htable
      exact ⟨_, sheets, rfl, hsheets, rfl⟩

end Package

/-! ### Contents -/

/-- The content of a document file was filled in, with a new content and errors about fields. -/
inductive ContentMerge : DocumentKind → β → β → List FieldError → Prop where
  | word {content merged : β} {p : Package} {d : WordDocument}
      (hload : Package.load format content = .ok p) (hdocument : p.wordDocument = .ok d)
      (hsave : (p.setText WordDocument.partName (d.merge functions properties).1.print).save format
        = .ok merged) :
      ContentMerge .word content merged (d.merge functions properties).2
  | spreadsheet {content merged : β} {p : Package} {w : Workbook}
      (hload : Package.load format content = .ok p) (hstrings : p.hasSharedStrings = true)
      (hworkbook : p.workbook = .ok w)
      (hsave : (p.setWorkbook (w.merge functions properties).1).save format = .ok merged) :
      ContentMerge .spreadsheet content merged (w.merge functions properties).2
  | noStrings {content : β} {p : Package} (hload : Package.load format content = .ok p)
      (hstrings : p.hasSharedStrings = false) :
      ContentMerge .spreadsheet content content []

variable {format functions properties}

theorem mergeContentBy_eq_ok {merge : Package → Except DocumentError (Package × List FieldError)}
    {p : Package} {merged : β} {errors : List FieldError}
    (h : mergeContentBy format merge p = .ok (merged, errors)) :
    ∃ p', merge p = .ok (p', errors) ∧ p'.save format = .ok merged := by
  unfold mergeContentBy at h
  cases hmerge : merge p with
  | error fault => simp [hmerge] at h
  | ok result =>
      obtain ⟨p', errors'⟩ := result
      rw [hmerge] at h
      obtain ⟨saved, hsave, hresult⟩ := exists_of_map_eq_ok h
      cases hresult
      exact ⟨p', rfl, hsave⟩

theorem contentMerge_of_mergeContent {kind : DocumentKind} {content merged : β}
    {errors : List FieldError}
    (h : mergeContent format kind functions properties content = .ok (merged, errors)) :
    ContentMerge format functions properties kind content merged errors := by
  unfold mergeContent at h
  cases hload : Package.load format content with
  | error fault => simp [hload] at h
  | ok p =>
      rw [hload] at h
      cases kind with
      | word =>
          obtain ⟨p', hmerge, hsave⟩ := mergeContentBy_eq_ok h
          obtain ⟨d, hdocument, hresult⟩ := exists_of_map_eq_ok hmerge
          cases hresult
          exact .word hload hdocument hsave
      | spreadsheet =>
          dsimp only at h
          cases hstrings : p.hasSharedStrings with
          | false =>
              rw [hstrings] at h
              cases h
              exact .noStrings hload hstrings
          | true =>
              rw [hstrings, if_pos rfl] at h
              obtain ⟨p', hmerge, hsave⟩ := mergeContentBy_eq_ok h
              obtain ⟨w, hworkbook, hresult⟩ := exists_of_map_eq_ok hmerge
              cases hresult
              exact .spreadsheet hload hstrings hworkbook hsave

/-- Content that was filled in held an archive. -/
theorem ContentMerge.exists_read {kind : DocumentKind} {content merged : β}
    {errors : List FieldError}
    (h : ContentMerge format functions properties kind content merged errors) :
    ∃ entries, format.read content = .ok entries := by
  have hload : ∃ p, Package.load format content = .ok p := by
    cases h with
    | word hload | spreadsheet hload | noStrings hload => exact ⟨_, hload⟩
  obtain ⟨p, hload⟩ := hload
  unfold Package.load at hload
  cases hread : format.read content with
  | error fault => simp [hread] at hload
  | ok entries => exact ⟨entries, rfl⟩

/-! ### Files -/

variable {files files' : Files β} {errors : List FieldError}

theorem find_of_findDocument {path : String} {found : Location × β}
    (h : findDocument files path = .ok found) : files.find path = .ok found := by
  unfold findDocument at h
  split at h
  · rename_i hfind
    cases h
    exact hfind
  · cases h
  · cases h

/-- A file that was filled in has its new content where it was. -/
theorem mergeInPlace_eq_ok {kind : DocumentKind} {path : String}
    (h : mergeInPlace format kind functions properties files path = (files', .ok errors)) :
    ∃ here content merged, files.find path = .ok (here, content)
      ∧ ContentMerge format functions properties kind content merged errors
      ∧ files' = files.put here (.file merged) := by
  unfold mergeInPlace at h
  cases hfind : findDocument files path with
  | error fault => simp [hfind] at h
  | ok found =>
      obtain ⟨here, content⟩ := found
      rw [hfind] at h
      dsimp only at h
      cases hmerge : mergeContent format kind functions properties content with
      | error fault => simp [hmerge] at h
      | ok result =>
          obtain ⟨merged, errors'⟩ := result
          rw [hmerge] at h
          cases h
          exact ⟨here, content, merged, find_of_findDocument hfind,
            contentMerge_of_mergeContent hmerge, rfl⟩

section Template

variable {template output : String}
  (hblank : ∀ entries, format.read format.blank ≠ .ok entries)
  (h : mergeTemplate format functions properties files template output = (files', .ok errors))

include hblank h

/-- A template that was filled in was not copied onto itself. -/
theorem apart_of_mergeTemplate : Route.Apart template output := by
  by_contra hsame
  unfold mergeTemplate at h
  cases hkind : DocumentKind.ofPath? template with
  | none => simp [hkind] at h
  | some kind =>
      rw [hkind] at h
      dsimp only [mergeCopy] at h
      cases hcopy : files.copy format.blank template output with
      | error fault => simp [hcopy] at h
      | ok copied =>
          rw [hcopy] at h
          obtain ⟨here, content, -, hplace, rfl⟩ := Files.exists_of_copy_onto_itself hsame hcopy
          obtain ⟨_, content', _, hfind', hmerge, -⟩ := mergeInPlace_eq_ok h
          rw [Files.find_put_of_place hplace] at hfind'
          cases hfind'
          obtain ⟨entries, hread⟩ := hmerge.exists_read
          exact hblank entries hread

/-- What was made of a template is at the output. -/
theorem mergeTemplate_eq_ok :
    ∃ kind here content there merged, DocumentKind.ofPath? template = some kind
      ∧ files.find template = .ok (here, content) ∧ files.place output = .ok there
      ∧ ContentMerge format functions properties kind content merged errors
      ∧ files' = files.put there (.file merged) := by
  have hrun := templateRun_mergeTemplate format functions properties files
    (apart_of_mergeTemplate hblank h)
  rw [h] at hrun
  generalize hresult : (files', Except.ok errors) = result at hrun
  cases hrun with
  | unsupported hkind => cases hresult
  | notCopied hkind hcopy => cases hresult
  | @copied kind here there content hkind hfind hplace hcopy =>
      obtain ⟨rfl, herrors⟩ := Prod.ext_iff.1 hresult
      dsimp only at herrors
      unfold mergeCopied at herrors ⊢
      cases hmerge : mergeContent format kind functions properties content with
      | error fault => simp [hmerge] at herrors
      | ok merging =>
          obtain ⟨merged, errors'⟩ := merging
          rw [hmerge] at herrors
          cases herrors
          exact ⟨kind, here, content, there, merged, hkind, hfind, hplace,
            contentMerge_of_mergeContent hmerge, rfl⟩

end Template

end MailMerge
