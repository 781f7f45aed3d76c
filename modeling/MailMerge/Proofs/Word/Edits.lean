import MailMerge.Proofs.Word.Fields
import MailMerge.Proofs.Xml.Edits

/-!
# `MailMerge.Proofs.Word.Edits`: values of Word fields as edits of the tree

A value is shown by a text element that gets a new text, and an attribute where the text has white
space at its ends. So setting a value is an edit or two, and filling in a document is a row of such
edits (`exists_edits_merge`). No other attribute of the document changes (`KeepsAttributes`).
-/

set_option autoImplicit false

namespace MailMerge

open MailMerge.Xml

namespace Xml

/-- The edits by which the element at a path shows a text. -/
def showEdits (path : Path) (value : String) : List (Path × Xml.Edit) :=
  (path, .setText value) ::
    if Text.hasBlankEnd value then [(path, .setAttribute Element.spaceAttribute "preserve")] else []

theorem marked_showEdits (path : Path) (value : String) :
    marked (showEdits path value) = if Text.hasBlankEnd value then [path] else [] := by
  unfold showEdits
  split <;> simp [marked, Xml.Edit.marks]

theorem emptied_showEdits (path : Path) (value : String) :
    emptied (showEdits path value) = [path] := by
  unfold showEdits
  split <;> simp [emptied, Xml.Edit.empties]

theorem alters_showEdits (path : Path) (value : String) :
    ∀ edit ∈ showEdits path value, edit.2.Alters Element.spaceAttribute (some "preserve") := by
  unfold showEdits
  split <;> simp [Xml.Edit.Alters]

theorem Document.editAll_showEdits (d : Document) (path : Path) (value : String) :
    d.editAll (showEdits path value)
      = { d with root := d.root.modify (·.showText value) path } := by
  unfold showEdits Element.showText
  split
  · show { d with root := (d.root.modify _ path).modify _ path } = _
    rw [Element.modify_modify]
    rfl
  · rfl

end Xml

namespace WordDocument

/-- A document after edits of its tree. -/
def editAll (d : WordDocument) (edits : List (Path × Xml.Edit)) : WordDocument :=
  { d with xml := d.xml.editAll edits }

/-- A value is set by edits at the path of the text that shows it. -/
theorem setValue?_eq_some_iff {d d' : WordDocument} {field : WordField} {value : String} :
    d.setValue? field value = some d'
      ↔ ∃ path, d.valuePath? field = some path ∧ d' = d.editAll (showEdits path value) := by
  unfold setValue? editAll
  rw [Option.map_eq_some_iff]
  refine exists_congr fun path => and_congr_right fun _ => ?_
  rw [Document.editAll_showEdits, eq_comm]

/-- A row of edits that shows values in the texts of a document. -/
structure ShowsValues (d : WordDocument) (edits : List (Path × Xml.Edit)) : Prop where
  alters : ∀ edit ∈ edits, edit.2.Alters Element.spaceAttribute (some "preserve")
  marked_subset : marked edits ⊆ emptied edits
  texts : ∀ path ∈ emptied edits, ∃ x, d.xml.root.get? path = some x ∧ x.name = d.names.text

/-- Values were shown in texts of a document. The texts at the paths `texts` got a new content, and
those at `spaced` the attribute that keeps white space. All other attributes of all elements are as
they were. -/
def KeepsAttributes (d d' : WordDocument) : Prop :=
  ∃ spaced texts : List Path, spaced ⊆ texts
    ∧ (∀ path ∈ texts, ∃ x, d.xml.root.get? path = some x ∧ x.name = d.names.text)
    ∧ d.xml.root.AlteredAt Element.spaceAttribute (some "preserve") spaced texts d'.xml.root

section Edits

variable {d : WordDocument} {edits others : List (Path × Xml.Edit)}

theorem ShowsValues.nil (d : WordDocument) : d.ShowsValues [] where
  alters _ hmem := by cases hmem
  marked_subset := List.Subset.refl _
  texts _ hmem := by cases hmem

theorem showsValues_showEdits {path : Path} {field : WordField}
    (h : d.valuePath? field = some path) (value : String) :
    d.ShowsValues (showEdits path value) where
  alters := alters_showEdits path value
  marked_subset := by
    rw [marked_showEdits, emptied_showEdits]
    split
    · exact List.Subset.refl _
    · exact List.nil_subset _
  texts := by
    rw [emptied_showEdits]
    intro other hother
    exact List.mem_singleton.1 hother ▸ exists_get?_of_valuePath? h

theorem ShowsValues.alteredAt (h : d.ShowsValues edits) (hd : d.xml.Edited) :
    d.xml.root.AlteredAt Element.spaceAttribute (some "preserve") (marked edits) (emptied edits)
      (d.editAll edits).xml.root :=
  hd.alteredAt_editAll h.alters

theorem ShowsValues.edited (h : d.ShowsValues edits) (hd : d.xml.Edited) :
    (d.editAll edits).xml.Edited :=
  hd.editAll_of_alters h.alters

/-- A text that gets a value later was a text from the start. -/
theorem ShowsValues.append (h : d.ShowsValues edits) (hd : d.xml.Edited)
    (h' : (d.editAll edits).ShowsValues others) : d.ShowsValues (edits ++ others) where
  alters := List.forall_mem_append.2 ⟨h.alters, h'.alters⟩
  marked_subset := by
    rw [marked, emptied, List.flatMap_append, List.flatMap_append]
    exact List.append_subset.2 ⟨List.subset_append_of_subset_left _ h.marked_subset,
      List.subset_append_of_subset_right _ h'.marked_subset⟩
  texts := by
    rw [emptied, List.flatMap_append]
    refine List.forall_mem_append.2 ⟨h.texts, fun path hpath => ?_⟩
    obtain ⟨x', hx', hname⟩ := h'.texts path hpath
    obtain ⟨x, hx, hsame⟩ := (h.alteredAt hd).exists_get? hx'
    exact ⟨x, hx, hsame.trans hname⟩

/-- Filling in a document is a row of edits that shows values in its texts. -/
theorem exists_edits_merge (hd : d.xml.Edited) (functions : Functions) (properties : Properties) :
    ∃ edits, d.ShowsValues edits ∧ (d.merge functions properties).1 = d.editAll edits := by
  refine source.mergeEach_induction functions properties d.fields
    (P := fun s => ∃ edits, d.ShowsValues edits ∧ s = d.editAll edits) ?_ ⟨[], .nil d, rfl⟩
  rintro s ⟨edits, hedits, rfl⟩ field - c
  have hwrite : ∀ value, ∃ edits', d.ShowsValues edits'
      ∧ (d.editAll edits).write field value = d.editAll edits' := by
    intro value
    rw [write_eq]
    cases hpath : (d.editAll edits).valuePath? field with
    | none => exact ⟨edits, hedits, rfl⟩
    | some path =>
        refine ⟨edits ++ showEdits path value,
          hedits.append hd (showsValues_showEdits hpath value), ?_⟩
        unfold editAll
        rw [Document.editAll_append, Document.editAll_showEdits]
  cases c with
  | keep => exact ⟨edits, hedits, rfl⟩
  | text rendered => exact hwrite rendered
  | number number rendered => exact hwrite rendered

/-- A value is set in the text that shows it. The attribute for white space is set where the value
has some at its ends, and no other attribute changes. -/
theorem alteredAt_setValue? {d' : WordDocument} (hd : d.xml.Edited) {field : WordField}
    {value : String} (h : d.setValue? field value = some d') :
    ∃ path, d.valuePath? field = some path
      ∧ d.xml.root.AlteredAt Element.spaceAttribute (some "preserve")
        (if Text.hasBlankEnd value then [path] else []) [path] d'.xml.root := by
  obtain ⟨path, hpath, rfl⟩ := setValue?_eq_some_iff.1 h
  refine ⟨path, hpath, ?_⟩
  rw [← marked_showEdits, ← emptied_showEdits path value]
  exact (showsValues_showEdits hpath value).alteredAt hd

theorem keepsAttributes_merge (hd : d.xml.Edited) (functions : Functions)
    (properties : Properties) : d.KeepsAttributes (d.merge functions properties).1 := by
  obtain ⟨edits, hedits, hmerge⟩ := exists_edits_merge hd functions properties
  rw [hmerge]
  exact ⟨marked edits, emptied edits, hedits.marked_subset, hedits.texts, hedits.alteredAt hd⟩

end Edits

end WordDocument

end MailMerge
