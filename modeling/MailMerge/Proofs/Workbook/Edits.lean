import MailMerge.Proofs.Workbook.Numbers
import MailMerge.Proofs.Xml.Edits
import MailMerge.Proofs.Xml.Retexted

/-!
# `MailMerge.Proofs.Workbook.Edits`: texts and numbers of a workbook as edits of its trees

A shared string that gets a text loses its content and gets a new element. A cell that gets a number
loses its type, and its value gets a text. Both are edits of a tree, so what is known of trees that
were edited is known of the documents of a workbook.

Unlike the map over a worksheet by which a run is described elsewhere, the edits are also right
where a cell stands in the value of another. There the inner cell may be gone before its turn.

* `Worksheet.exists_edits_putNumbers`: numbers put into a worksheet are edits that take the types of
  the cells at the paths `Worksheet.rewritten`, and of no others.
* `Worksheet.LosesTypes`: these cells have no type left, and all other attributes stay.
* `Workbook.Rewritten`: outside the shared strings that got texts, the table keeps its tags.
-/

set_option autoImplicit false

namespace MailMerge

open MailMerge.Xml MailMerge.Number

/-! ### Cells that get numbers -/

namespace SheetNames

variable {names : SheetNames}

/-- A row of edits that puts numbers into the cells at some paths: it takes their types, and the
contents of values in them. -/
structure PutsNumbers (names : SheetNames) (e : Element) (cells : List Path)
    (edits : List (Path × Xml.Edit)) : Prop where
  alters : ∀ edit ∈ edits, edit.2.Alters cellType none
  marked_eq : marked edits = cells
  values : ∀ path ∈ emptied edits, ∃ cell ∈ cells, ∃ index v,
    path = cell ++ [index] ∧ e.get? path = some v ∧ v.name = names.value

/-- The edits by which the cell at a path gets a number. -/
def numberEdits (names : SheetNames) (number : String) (e : Element) (path : Path) :
    List (Path × Xml.Edit) :=
  (path, .removeAttribute cellType) ::
    match (e.get? path).bind (·.findChild? names.value) with
    | some (index, _) => [(path ++ [index], .setText number)]
    | none => []

theorem editAll_numberEdits (number : String) (d : Document) (path : Path) :
    d.editAll (names.numberEdits number d.root path)
      = { d with root := d.root.modify (names.numericCell number) path } := by
  unfold numberEdits
  cases hcell : d.root.get? path with
  | none =>
      show { d with root := d.root.modify (·.removeAttribute cellType) path } = _
      rw [Element.modify_of_get?_eq_none hcell, Element.modify_of_get?_eq_none hcell]
  | some cell =>
      rw [Option.bind_some]
      -- Type and value of the cell that is there are edited at once.
      have hnumeric : names.numericCell number cell = _ := numericCell_eq number cell
      cases hv : cell.findChild? names.value with
      | none =>
          rw [hv] at hnumeric
          show { d with root := d.root.modify (·.removeAttribute cellType) path } = _
          rw [Element.modify_congr hcell hnumeric.symm]
      | some found =>
          obtain ⟨index, v⟩ := found
          rw [hv] at hnumeric
          have hat : (cell.removeAttribute cellType).childAt? index = some v :=
            (Element.findChild?_eq_some hv).1
          have hedits : (d.root.modify (·.removeAttribute cellType) path).modify (·.setText number)
              (path ++ [index]) = d.root.modify (names.numericCell number) path := by
            rw [Element.modify_append, Element.modify_modify]
            refine Element.modify_congr hcell ?_
            rw [hnumeric, Element.modify_cons, hat]
            rfl
          exact congrArg (fun root => { d with root }) hedits

theorem putsNumbers_numberEdits (number : String) (e : Element) (path : Path) :
    names.PutsNumbers e [path] (names.numberEdits number e path) := by
  unfold numberEdits
  cases hv : (e.get? path).bind (·.findChild? names.value) with
  | none =>
      exact ⟨by simp [Xml.Edit.Alters], by simp [marked, Xml.Edit.marks],
        by simp [emptied, Xml.Edit.empties]⟩
  | some found =>
      obtain ⟨index, v⟩ := found
      refine ⟨by simp [Xml.Edit.Alters], by simp [marked, Xml.Edit.marks], fun other hother => ?_⟩
      obtain rfl : other = path ++ [index] := by simpa [emptied, Xml.Edit.empties] using hother
      obtain ⟨cell, hcell, hv⟩ := Option.bind_eq_some_iff.1 hv
      obtain ⟨hv, hname⟩ := Element.findChild?_eq_some hv
      refine ⟨path, List.mem_singleton.2 rfl, index, v, rfl, ?_, hname⟩
      rw [Element.get?_append, hcell, Option.bind_some, Element.get?_cons_of_childAt? hv,
        Element.get?_nil]

section Document

variable {d : Document} {cells others : List Path} {edits edits' : List (Path × Xml.Edit)}

theorem PutsNumbers.nil (e : Element) : names.PutsNumbers e [] [] where
  alters _ hmem := by cases hmem
  marked_eq := rfl
  values _ hmem := by cases hmem

theorem PutsNumbers.alteredAt (h : names.PutsNumbers d.root cells edits) (hd : d.Edited) :
    d.root.AlteredAt cellType none cells (emptied edits) (d.editAll edits).root :=
  h.marked_eq ▸ hd.alteredAt_editAll h.alters

/-- A value that gets a text later was a value from the start. -/
theorem PutsNumbers.append (h : names.PutsNumbers d.root cells edits) (hd : d.Edited)
    (h' : names.PutsNumbers (d.editAll edits).root others edits') :
    names.PutsNumbers d.root (cells ++ others) (edits ++ edits') where
  alters := List.forall_mem_append.2 ⟨h.alters, h'.alters⟩
  marked_eq := by
    rw [← h.marked_eq, ← h'.marked_eq]
    exact List.flatMap_append
  values := by
    rw [emptied, List.flatMap_append]
    refine List.forall_mem_append.2 ⟨fun path hpath => ?_, fun path hpath => ?_⟩
    · obtain ⟨cell, hcell, hv⟩ := h.values path hpath
      exact ⟨cell, List.mem_append_left _ hcell, hv⟩
    · obtain ⟨cell, hcell, index, v', heq, hv', hname⟩ := h'.values path hpath
      obtain ⟨v, hv, hsame⟩ := (h.alteredAt hd).exists_get? hv'
      exact ⟨cell, List.mem_append_right _ hcell, index, v, heq, hv, hsame.trans hname⟩

/-- Numbers put in at paths, one after another, are a row of edits. A cell that is gone by its turn
is passed over. -/
theorem exists_edits_modifyAll (hd : d.Edited) (number : String) (paths : List Path) :
    ∃ edits, names.PutsNumbers d.root paths edits
      ∧ { d with root := d.root.modifyAll (names.numericCell number) paths }
        = d.editAll edits := by
  induction paths generalizing d with
  | nil => exact ⟨[], .nil d.root, rfl⟩
  | cons path paths ih =>
      have hone := names.putsNumbers_numberEdits number d.root path
      obtain ⟨edits, hedits, hrest⟩ := ih (hd.editAll_of_alters hone.alters)
      refine ⟨_, hone.append hd hedits, ?_⟩
      rw [Document.editAll_append, ← hrest, editAll_numberEdits]
      rfl

end Document

end SheetNames

namespace Worksheet

/-- The paths of the cells that are rewritten when numbers are put into a worksheet one string after
another. -/
def rewritten (sheet : Worksheet) : List (Nat × String) → List Path
  | [] => []
  | (index, number) :: commits =>
    sheet.cellsOf index ++ (sheet.putNumber index number).rewritten commits

theorem exists_edits_putNumber {sheet : Worksheet} (h : sheet.xml.Edited) (index : Nat)
    (number : String) :
    ∃ edits, sheet.names.PutsNumbers sheet.xml.root (sheet.cellsOf index) edits
      ∧ (sheet.putNumber index number).xml = sheet.xml.editAll edits := by
  rw [putNumber_eq]
  exact SheetNames.exists_edits_modifyAll h number (sheet.cellsOf index)

theorem exists_edits_putNumbers {sheet : Worksheet} (h : sheet.xml.Edited)
    (commits : List (Nat × String)) :
    ∃ edits, sheet.names.PutsNumbers sheet.xml.root (sheet.rewritten commits) edits
      ∧ (sheet.putNumbers commits).xml = sheet.xml.editAll edits := by
  induction commits generalizing sheet with
  | nil => exact ⟨[], .nil _, rfl⟩
  | cons commit commits ih =>
      obtain ⟨index, number⟩ := commit
      obtain ⟨edits, hedits, hxml⟩ := exists_edits_putNumber h index number
      have hnext : (sheet.putNumber index number).xml.Edited :=
        hxml ▸ h.editAll_of_alters hedits.alters
      obtain ⟨edits', hedits', hrest⟩ := ih hnext
      rw [names_putNumber, hxml] at hedits'
      refine ⟨edits ++ edits', hedits.append h hedits', ?_⟩
      rw [Document.editAll_append, ← hxml]
      exact hrest

/-- The cells at some paths have lost their type, and contents of values in them are gone. All other
attributes of the worksheet are as they were. -/
def LosesTypes (cells : List Path) (sheet sheet' : Worksheet) : Prop :=
  ∃ values : List Path,
    (∀ path ∈ values, ∃ cell ∈ cells, ∃ index v, path = cell ++ [index]
      ∧ sheet.xml.root.get? path = some v ∧ v.name = sheet.names.value)
    ∧ sheet.xml.root.AlteredAt SheetNames.cellType none cells values sheet'.xml.root

theorem losesTypes_of_putsNumbers {sheet sheet' : Worksheet} (h : sheet.xml.Edited)
    {cells : List Path} {edits : List (Path × Xml.Edit)}
    (hedits : sheet.names.PutsNumbers sheet.xml.root cells edits)
    (hxml : sheet'.xml = sheet.xml.editAll edits) : sheet.LosesTypes cells sheet' := by
  refine ⟨emptied edits, hedits.values, ?_⟩
  rw [hxml]
  exact hedits.alteredAt h

/-- A number that is put into a workbook takes the types of the cells that refer to its string. -/
theorem exists_losesTypes_putNumber {w : Workbook} {i : Nat} {sheet : Worksheet}
    (hsheet : w.worksheets[i]? = some sheet) (h : sheet.xml.Edited) (field : SharedStringField)
    (number : Binary64) :
    ∃ sheet', (w.putNumber field number).worksheets[i]? = some sheet'
      ∧ sheet.LosesTypes (sheet.cellsOf field.index) sheet' := by
  obtain ⟨edits, hedits, hxml⟩ :=
    exists_edits_putNumber h field.index (plainLayout.text number)
  refine ⟨_, ?_, losesTypes_of_putsNumbers h hedits hxml⟩
  show (w.worksheets.map _)[i]? = _
  rw [List.getElem?_map, hsheet]
  rfl

/-- A run over a workbook takes the types of the cells that it rewrites, one string after
another. -/
theorem exists_losesTypes_merge {w : Workbook} {i : Nat} {sheet : Worksheet}
    (hsheet : w.worksheets[i]? = some sheet) (h : sheet.xml.Edited) (functions : Functions)
    (properties : Properties) :
    ∃ sheet', (w.merge functions properties).1.worksheets[i]? = some sheet'
      ∧ sheet.LosesTypes (sheet.rewritten
        (Workbook.commits (Workbook.source.change functions properties w) w.fields)) sheet' := by
  obtain ⟨edits, hedits, hxml⟩ := exists_edits_putNumbers h
    (Workbook.commits (Workbook.source.change functions properties w) w.fields)
  refine ⟨_, ?_, losesTypes_of_putsNumbers h hedits hxml⟩
  rw [Workbook.merge_eq]
  dsimp only
  rw [Workbook.worksheets_applyAll, List.getElem?_map, hsheet]
  rfl

end Worksheet

/-! ### Shared strings that get texts -/

namespace Workbook

/-- The table after texts were written to the shared strings at some places among its children. It
keeps its tags, and in these strings there is nothing but new texts, which have no attribute but the
one for white space at their ends. -/
structure Rewritten (strings : List Nat) (w w' : Workbook) : Prop where
  outside : ∀ path, (∀ child ∈ strings, ¬ Element.Inside [child] path) →
    (w'.sharedStrings.root.get? path).map (·.toTag)
      = (w.sharedStrings.root.get? path).map (·.toTag)
  inside : ∀ path x, (∃ child ∈ strings, Element.Inside [child] path) →
    w'.sharedStrings.root.get? path = some x →
    x.name = w.names.text
      ∧ (x.attributes = [] ∨ x.attributes = [⟨Element.spaceAttribute, "preserve"⟩])

variable {w w' w'' : Workbook}

theorem Rewritten.refl (w : Workbook) : Rewritten [] w w where
  outside _ _ := rfl
  inside _ _ := fun ⟨_, hmem, _⟩ => by cases hmem

theorem Rewritten.trans {strings strings' : List Nat} (h : Rewritten strings w w')
    (h' : Rewritten strings' w' w'') (hnames : w'.names = w.names) :
    Rewritten (strings ++ strings') w w'' where
  outside path hpath := by
    rw [List.forall_mem_append] at hpath
    rw [h'.outside path hpath.2, h.outside path hpath.1]
  inside path x hpath hx := by
    by_cases hlater : ∃ child ∈ strings', Element.Inside [child] path
    · exact hnames ▸ h'.inside path x hlater hx
    · -- What was written before keeps its tag.
      have htags := h'.outside path fun child hmem hinside => hlater ⟨child, hmem, hinside⟩
      rw [hx, Option.map_some, eq_comm, Option.map_eq_some_iff] at htags
      obtain ⟨x', hx', htag⟩ := htags
      obtain ⟨child, hmem, hinside⟩ := hpath
      have hold := (List.mem_append.1 hmem).resolve_right fun hmem =>
        hlater ⟨child, hmem, hinside⟩
      rw [← htag]
      exact h.inside path x' ⟨child, hold, hinside⟩ hx'

/-- The element for a new text of a shared string. -/
theorem attributes_showText_ofName (name value : String) :
    ((Element.ofName name).showText value).name = name
      ∧ (((Element.ofName name).showText value).attributes = []
        ∨ ((Element.ofName name).showText value).attributes
          = [⟨Element.spaceAttribute, "preserve"⟩]) := by
  unfold Element.showText
  split
  · exact ⟨rfl, .inr rfl⟩
  · exact ⟨rfl, .inl rfl⟩

theorem rewritten_write (w : Workbook) (field : SharedStringField) (value : String) :
    Rewritten [field.child] w (w.write field value) where
  outside path hpath := by
    rw [write_eq]
    by_cases hprefix : [field.child] <+: path
    · obtain ⟨below, rfl⟩ := hprefix
      cases below with
      | nil =>
          rw [List.append_nil, Element.get?_modify_self, Option.map_map]
          rfl
      | cons index below =>
          exact absurd ⟨index, below, rfl⟩ (hpath field.child (List.mem_singleton.2 rfl))
    · exact Element.toTag_get?_modify hprefix _ _
  inside := by
    rintro path x ⟨child, hmem, index, below, rfl⟩ hx
    obtain rfl := List.mem_singleton.1 hmem
    rw [write_eq] at hx
    dsimp only at hx
    rw [Element.get?_modify_append] at hx
    obtain ⟨item, -, hx⟩ := Option.bind_eq_some_iff.1 hx
    -- The only child of the string is the element with the new text, which has none.
    rw [Element.get?_cons] at hx
    obtain ⟨text, htext, hx⟩ := Option.bind_eq_some_iff.1 hx
    have hmem := List.mem_of_getElem? (Element.childAt?_eq_some_iff.1 htext)
    obtain rfl := Element.toNode_inj.1 (List.mem_singleton.1 hmem)
    cases below with
    | nil =>
        rw [Element.get?_nil, Option.some.injEq] at hx
        exact hx ▸ attributes_showText_ofName w.names.text value
    | cons i below =>
        rw [Element.get?_cons, Element.childAt?_showText] at hx
        cases hx

theorem rewritten_of_setText? {field : SharedStringField} {value : String}
    (h : w.setText? field value = some w') : Rewritten [field.child] w w' := by
  have hwrite := rewritten_write w field value
  unfold write at hwrite
  rwa [h, Option.getD_some] at hwrite

theorem rewritten_putNumber (w : Workbook) (field : SharedStringField) (number : Binary64) :
    Rewritten [field.child] w (w.putNumber field number) where
  outside := (rewritten_write w field "").outside
  inside := (rewritten_write w field "").inside

theorem exists_rewritten_apply (w : Workbook) (field : SharedStringField) (c : Change) :
    ∃ strings, strings ⊆ [field.child] ∧ Rewritten strings w (source.apply w field c) := by
  cases c with
  | keep => exact ⟨[], List.nil_subset _, .refl w⟩
  | text rendered => exact ⟨_, List.Subset.refl _, rewritten_write w field rendered⟩
  | number number rendered => exact ⟨_, List.Subset.refl _, rewritten_putNumber w field number⟩

/-- Filling in a workbook writes to its fields only. -/
theorem exists_rewritten_merge (w : Workbook) (functions : Functions) (properties : Properties) :
    ∃ strings, strings ⊆ w.fields.map (·.child)
      ∧ Rewritten strings w (w.merge functions properties).1 := by
  have hrun : (w.merge functions properties).1.names = w.names
      ∧ ∃ strings, strings ⊆ w.fields.map (·.child)
        ∧ Rewritten strings w (w.merge functions properties).1 := by
    refine source.mergeEach_induction functions properties w.fields
      (P := fun s => s.names = w.names
        ∧ ∃ strings, strings ⊆ w.fields.map (·.child) ∧ Rewritten strings w s)
      ?_ ⟨rfl, [], List.nil_subset _, .refl w⟩
    rintro s ⟨hnames, strings, hstrings, hs⟩ field hfield c
    obtain ⟨others, hothers, happly⟩ := exists_rewritten_apply s field c
    refine ⟨(names_apply s field c).trans hnames, strings ++ others, ?_, hs.trans happly hnames⟩
    refine List.append_subset.2 ⟨hstrings, fun child hchild => ?_⟩
    exact List.mem_singleton.1 (hothers hchild) ▸ List.mem_map_of_mem hfield
  exact hrun.2

/-! ### Workbooks of edited documents -/

/-- The documents of a workbook: the table and the worksheets. -/
def documents (w : Workbook) : List Document := w.sharedStrings :: w.worksheets.map (·.xml)

/-- The element for a new text is new itself. -/
theorem made_showText_ofName (name value : String) :
    ((Element.ofName name).showText value).Made := by
  have htext : ((Element.ofName name).setText value).Made :=
    .edited (.ofName name) (.setText value) (fun _ heq => by cases heq) []
  unfold Element.showText
  split
  · exact .edited htext (.setAttribute _ _) (fun _ heq => by cases heq) []
  · exact htext

/-- A shared string gets a text by two edits. -/
theorem edited_write {w : Workbook} (h : w.sharedStrings.Edited) (field : SharedStringField)
    (value : String) : (w.write field value).sharedStrings.Edited := by
  have hedits : (w.write field value).sharedStrings = w.sharedStrings.editAll
      [([field.child], .setText ""),
        ([field.child], .pushElement ((Element.ofName w.names.text).showText value))] := by
    have hroot : w.sharedStrings.root.modify (w.names.plainItem value) [field.child]
        = (w.sharedStrings.root.modify (·.setText "") [field.child]).modify
          (·.push ((Element.ofName w.names.text).showText value).toNode) [field.child] := by
      rw [Element.modify_modify]
      rfl
    rw [write_eq]
    exact congrArg (fun root => { w.sharedStrings with root }) hroot
  rw [hedits]
  refine h.editAll fun entry hmem x heq => ?_
  simp only [List.mem_cons, List.not_mem_nil, or_false] at hmem
  rcases hmem with rfl | rfl
  · cases heq
  · cases heq
    exact made_showText_ofName _ _

/-- A change of a field edits the documents of a workbook. -/
theorem edited_apply {w : Workbook} (h : ∀ part ∈ w.documents, part.Edited)
    (field : SharedStringField) (c : Change) :
    ∀ part ∈ (source.apply w field c).documents, part.Edited := by
  obtain ⟨htable, hsheets⟩ := List.forall_mem_cons.1 h
  have hnumbers : ∀ number : Binary64,
      ∀ part ∈ (w.worksheets.map (·.putNumber field.index (plainLayout.text number))).map (·.xml),
        part.Edited := by
    intro number
    rw [List.map_map, List.forall_mem_map]
    intro sheet hsheet
    have hsheet : sheet.xml.Edited := hsheets sheet.xml (List.mem_map_of_mem hsheet)
    obtain ⟨edits, hedits, hxml⟩ :=
      Worksheet.exists_edits_putNumber hsheet field.index (plainLayout.text number)
    show (sheet.putNumber field.index (plainLayout.text number)).xml.Edited
    rw [hxml]
    exact hsheet.editAll_of_alters hedits.alters
  unfold documents
  refine List.forall_mem_cons.2 ⟨?_, ?_⟩
  · rw [sharedStrings_apply]
    cases hc : stored? c with
    | none => exact htable
    | some text =>
        have hwrite := edited_write htable field text
        rwa [write_eq] at hwrite
  · rw [worksheets_apply]
    cases number? c with
    | none => exact hsheets
    | some number => exact hnumbers number

theorem edited_merge {w : Workbook} (h : ∀ part ∈ w.documents, part.Edited)
    (functions : Functions) (properties : Properties) :
    ∀ part ∈ (w.merge functions properties).1.documents, part.Edited :=
  source.mergeEach_induction functions properties w.fields
    (P := fun s => ∀ part ∈ s.documents, part.Edited)
    (fun _ hs field _ c => edited_apply hs field c) h

end Workbook

end MailMerge
