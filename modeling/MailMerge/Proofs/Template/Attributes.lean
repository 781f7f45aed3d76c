import MailMerge.Proofs.Word.Edits
import MailMerge.Proofs.Workbook.Edits

/-!
# `MailMerge.Proofs.Template.Attributes`: attribute names stay distinct

The reader refuses a tag that names an attribute twice. All that is done to a document afterwards
comes down to edits of its tree at paths: values shown in Word fields, texts of shared strings,
numbers put into cells, and whole runs. An edit gives no element two attributes of one name. So
every document that was `Obtained` in any of these ways is one that was read and then edited
(`Document.Obtained.edited`), and has distinct names in all its elements.

That is what the operations on attributes rely on, as they look for the first of a name only. With
it, an attribute that is removed is gone, one that is set has its value, and all other attributes of
all elements keep their values and their order (`attributes_stay_distinct`). This goes for the
operations themselves and for the changes of documents that use them.
-/

set_option autoImplicit false

namespace MailMerge

open MailMerge.Xml MailMerge.Number

/-- A document that was read and then changed any number of times: edited at paths, or changed as
the main part of a Word document or as a part of a workbook. -/
inductive Xml.Document.Obtained : Document → Prop where
  | read {source : String} {d : Document} (h : Document.parse source = .ok d) : Obtained d
  | edit {d : Document} (h : Obtained d) (edit : Xml.Edit)
      (hedit : ∀ x, edit = .pushElement x → x.Made) (path : Path) : Obtained (d.edit edit path)
  | setValue {d d' : WordDocument} (h : Obtained d.xml) {field : WordField} {value : String}
      (hset : d.setValue? field value = some d') : Obtained d'.xml
  | mergeWord {d : WordDocument} (h : Obtained d.xml) (functions : Functions)
      (properties : Properties) : Obtained (d.merge functions properties).1.xml
  | setText {w w' : Workbook} (h : ∀ part ∈ w.documents, Obtained part)
      {field : SharedStringField} {value : String} (hset : w.setText? field value = some w')
      {part : Document} (hpart : part ∈ w'.documents) : Obtained part
  | putNumber {w : Workbook} (h : ∀ part ∈ w.documents, Obtained part)
      (field : SharedStringField) (number : Binary64) {part : Document}
      (hpart : part ∈ (w.putNumber field number).documents) : Obtained part
  | mergeWorkbook {w : Workbook} (h : ∀ part ∈ w.documents, Obtained part)
      (functions : Functions) (properties : Properties) {part : Document}
      (hpart : part ∈ (w.merge functions properties).1.documents) : Obtained part

/-- All that can be done to a document is done by edits at paths. -/
theorem Xml.Document.Obtained.edited {d : Document} (h : d.Obtained) : d.Edited := by
  induction h with
  | read h => exact .read h
  | edit h edit hedit path ih => exact ih.edit edit hedit path
  | @setValue d d' h field value hset ih =>
      obtain ⟨path, hpath, rfl⟩ := WordDocument.setValue?_eq_some_iff.1 hset
      exact (WordDocument.showsValues_showEdits hpath value).edited ih
  | mergeWord h functions properties ih =>
      obtain ⟨edits, hedits, hmerge⟩ := WordDocument.exists_edits_merge ih functions properties
      rw [hmerge]
      exact hedits.edited ih
  | @setText w w' h field value hset part hpart ih =>
      have hwrite : w.write field value = w' := by
        unfold Workbook.write
        rw [hset, Option.getD_some]
      rw [← hwrite] at hpart
      exact Workbook.edited_apply ih field (.text value) part hpart
  | putNumber h field number hpart ih =>
      exact Workbook.edited_apply ih field (.number number "") _ hpart
  | mergeWorkbook h functions properties hpart ih =>
      exact Workbook.edited_merge ih functions properties _ hpart

/-- In every document that was obtained by reading and any changes, no element has two attributes of
one name. An attribute that is removed is gone, and one that is set has its value; all other
attributes, of this element and of the others, keep their values and their order. The same holds of
the changes made of these edits:
* a value shown in a Word document, and a run over it, sets nothing but the attribute for white
  space, and that in texts that get a value;
* a number put into the cells of a worksheet, and a run over the workbook, leaves no type in the
  cells that are rewritten, and takes no other attribute;
* a text of a shared string, and a run over the workbook, leaves the tags of the table, in which
  only the contents of shared strings are new. -/
theorem attributes_stay_distinct {d : Document} (h : d.Obtained) :
    d.root.DistinctAttributes
      ∧ (∀ path name, d.root.AlteredAt name none [path] []
          (d.edit (.removeAttribute name) path).root)
      ∧ (∀ path name value, d.root.AlteredAt name (some value) [path] []
          (d.edit (.setAttribute name value) path).root)
      ∧ (∀ word : WordDocument, word.xml = d →
          (∀ field value word', word.setValue? field value = some word' →
            ∃ path, word.valuePath? field = some path
              ∧ d.root.AlteredAt Element.spaceAttribute (some "preserve")
                (if Text.hasBlankEnd value then [path] else []) [path] word'.xml.root)
          ∧ ∀ functions properties, word.KeepsAttributes (word.merge functions properties).1)
      ∧ (∀ (w : Workbook) (i : Nat) (sheet : Worksheet), w.worksheets[i]? = some sheet →
          sheet.xml = d →
          (∀ field number, ∃ sheet', (w.putNumber field number).worksheets[i]? = some sheet'
            ∧ sheet.LosesTypes (sheet.cellsOf field.index) sheet')
          ∧ ∀ functions properties, ∃ sheet',
            (w.merge functions properties).1.worksheets[i]? = some sheet'
              ∧ sheet.LosesTypes (sheet.rewritten
                (Workbook.commits (Workbook.source.change functions properties w) w.fields)) sheet')
      ∧ ∀ w : Workbook, w.sharedStrings = d →
          (∀ field value w', w.setText? field value = some w' → w.Rewritten [field.child] w')
          ∧ (∀ field number, w.Rewritten [field.child] (w.putNumber field number))
          ∧ ∀ functions properties, ∃ strings, strings ⊆ w.fields.map (·.child)
            ∧ w.Rewritten strings (w.merge functions properties).1 := by
  have hd := h.edited
  refine ⟨hd.distinctAttributes, fun path name => ?_, fun path name value => ?_, ?_, ?_, ?_⟩
  · have hedit : (Xml.Edit.removeAttribute name).Alters name none := ⟨rfl, rfl⟩
    simpa [Xml.Edit.marks, Xml.Edit.empties] using hd.alteredAt_edit hedit path
  · have hedit : (Xml.Edit.setAttribute name value).Alters name (some value) := ⟨rfl, rfl⟩
    simpa [Xml.Edit.marks, Xml.Edit.empties] using hd.alteredAt_edit hedit path
  · rintro word rfl
    exact ⟨fun _ _ _ hset => WordDocument.alteredAt_setValue? hd hset,
      WordDocument.keepsAttributes_merge hd⟩
  · rintro w i sheet hsheet rfl
    exact ⟨Worksheet.exists_losesTypes_putNumber hsheet hd,
      Worksheet.exists_losesTypes_merge hsheet hd⟩
  · rintro w -
    exact ⟨fun _ _ _ => Workbook.rewritten_of_setText?, w.rewritten_putNumber,
      w.exists_rewritten_merge⟩

/-- The worksheet with a style in its first cell. -/
def styledSheet : Worksheet :=
  { Workbook.crossedSheet with
    xml := Workbook.crossedSheet.xml.edit (.setAttribute "s" "4") [0] }

/-- The workbook with this worksheet. -/
def styled : Workbook := { Workbook.crossed with worksheets := [styledSheet] }

/-- The run rewrites both cells. The first loses its type, and its style stays. -/
theorem attributes_stay_distinct_styled :
    styledSheet.xml.Obtained
      ∧ styledSheet.xml.root.DistinctAttributes
      ∧ ∃ sheet', (styled.merge builtinFunctions Workbook.crossedValues).1.worksheets[0]?
            = some sheet'
          ∧ styledSheet.LosesTypes [[0], [1]] sheet'
          ∧ (sheet'.xml.root.get? [0]).map (·.attributes) = some [⟨"r", "A1"⟩, ⟨"s", "4"⟩] := by
  have hread : Document.parse Workbook.crossedSources.2 = .ok Workbook.crossedSheet.xml := by
    decide +kernel
  have hobtained : styledSheet.xml.Obtained :=
    .edit (.read hread) (.setAttribute "s" "4") (fun _ heq => by cases heq) [0]
  obtain ⟨hdistinct, -, -, -, hsheets, -⟩ := attributes_stay_distinct hobtained
  obtain ⟨sheet', hsheet', hloses⟩ :=
    (hsheets styled 0 styledSheet rfl rfl).2 builtinFunctions Workbook.crossedValues
  have hrewritten : styledSheet.rewritten (Workbook.commits
      (Workbook.source.change builtinFunctions Workbook.crossedValues styled) styled.fields)
        = [[0], [1]] := by
    decide +kernel
  rw [hrewritten] at hloses
  have hcell : ((styled.merge builtinFunctions Workbook.crossedValues).1.worksheets[0]?.bind
      fun sheet => sheet.xml.root.get? [0]).map (·.attributes)
        = some [⟨"r", "A1"⟩, ⟨"s", "4"⟩] := by
    decide +kernel
  rw [hsheet'] at hcell
  exact ⟨hobtained, hdistinct, sheet', hsheet', hloses, hcell⟩

end MailMerge
