import MailMerge.Proofs.Workbook.Cells
import MailMerge.Proofs.Workbook.Fields
import MailMerge.Expression.Builtin
import Std.Data.String.ToNat

/-!
# `MailMerge.Proofs.Workbook.Numbers`: the worksheets after filling in

Filling in a workbook puts the numbers of its shared strings into the cells one string after
another. The reference is what each cell of the worksheets at the start refers to (`CellNumber`).

* `Worksheet.xml_putNumbers`, `Worksheet.modified_putNumbers`: the numbers of all strings, put into
  a worksheet one after another, are one map over its tree at the start.
* `Reachable` workbooks are those that can be built. Their worksheets have attributes of distinct
  names, so a cell that lost its type has none left.
* `worksheets_merge`: which cells get which number, and that all else stays.
-/

set_option autoImplicit false

namespace MailMerge

open MailMerge.Xml MailMerge.Number

/-! ### A worksheet -/

namespace Worksheet

/-- Numbers put into the cells of a worksheet one string after another. -/
def putNumbers (sheet : Worksheet) (commits : List (Nat × String)) : Worksheet :=
  commits.foldl (fun sheet (index, number) => sheet.putNumber index number) sheet

/-- A worksheet in which no cell stands inside the value of another, with distinct attributes. -/
structure WellFormed (sheet : Worksheet) : Prop where
  cellsApart : sheet.names.CellsApart sheet.xml.root
  distinct : sheet.xml.root.DistinctAttributes

/-- The edits of one string, also where there are none. -/
theorem putNumber_eq (sheet : Worksheet) (index : Nat) (number : String) :
    sheet.putNumber index number = { sheet with
      xml := { sheet.xml with
        root := sheet.xml.root.modifyAll (sheet.names.numericCell number) (sheet.cellsOf index) }
      modified := sheet.modified || !(sheet.cellsOf index).isEmpty } := by
  unfold putNumber
  split
  · rename_i hcells
    rw [hcells]
    simp [Element.modifyAll]
  · rename_i hcells
    have hne : (sheet.cellsOf index).isEmpty = false := by simpa using hcells
    rw [hne]
    simp [Element.modifyAll]

theorem distinctAttributes_putNumber {sheet : Worksheet}
    (h : sheet.xml.root.DistinctAttributes) (index : Nat) (number : String) :
    (sheet.putNumber index number).xml.root.DistinctAttributes := by
  rw [putNumber_eq]
  show (sheet.xml.root.modifyAll _ (sheet.cellsOf index)).DistinctAttributes
  generalize sheet.cellsOf index = paths
  generalize sheet.xml.root = root at h ⊢
  induction paths generalizing root with
  | nil => exact h
  | cons path paths ih =>
      exact ih _ (h.modify (fun _ hx => SheetNames.distinctAttributes_numericCell hx number) path)

/-- In a well-formed worksheet the edits of one string are one map over the tree. -/
theorem WellFormed.xml_putNumber {sheet : Worksheet} (h : sheet.WellFormed) (index : Nat)
    (number : String) :
    (sheet.putNumber index number).xml = { sheet.xml with
      root := sheet.names.putNumbers (sheet.names.numberIn [(index, number)]) sheet.xml.root } := by
  rw [putNumber_eq, ← SheetNames.modifyAll_pathsOf h.cellsApart]
  rfl

theorem nsPrefix_putNumber (sheet : Worksheet) (index : Nat) (number : String) :
    (sheet.putNumber index number).nsPrefix = sheet.nsPrefix := by
  rw [putNumber_eq]

theorem names_putNumber (sheet : Worksheet) (index : Nat) (number : String) :
    (sheet.putNumber index number).names = sheet.names := by
  unfold names
  rw [nsPrefix_putNumber]

theorem WellFormed.putNumber {sheet : Worksheet} (h : sheet.WellFormed) (index : Nat)
    (number : String) : (sheet.putNumber index number).WellFormed where
  cellsApart := by
    rw [names_putNumber, h.xml_putNumber]
    exact h.cellsApart.putNumbers (SheetNames.forCells_numberIn _)
  distinct := distinctAttributes_putNumber h.distinct index number

/-- A worksheet is modified by the number of a string exactly where a cell refers to the string. -/
theorem modified_putNumber (sheet : Worksheet) (index : Nat) (number : String) :
    (sheet.putNumber index number).modified = true
      ↔ sheet.modified = true
        ∨ ∃ path x, sheet.xml.root.get? path = some x ∧ sheet.names.refersTo index x := by
  have hcells : (!(sheet.cellsOf index).isEmpty) = true
      ↔ ∃ path x, sheet.xml.root.get? path = some x ∧ sheet.names.refersTo index x := by
    rw [Bool.not_eq_true', List.isEmpty_eq_false_iff_exists_mem]
    exact exists_congr fun path => SheetNames.mem_pathsOf_iff
  rw [putNumber_eq, ← hcells, Bool.or_eq_true]

/-- Numbers of several strings, put in one after another, are one map over the tree. -/
theorem WellFormed.xml_putNumbers {sheet : Worksheet} (h : sheet.WellFormed)
    (commits : List (Nat × String)) :
    (sheet.putNumbers commits).xml = { sheet.xml with
      root := sheet.names.putNumbers (sheet.names.numberIn commits) sheet.xml.root } := by
  induction commits generalizing sheet with
  | nil =>
      have hself : sheet.names.putNumbers (sheet.names.numberIn []) sheet.xml.root
          = sheet.xml.root := SheetNames.putNumbers_eq_self fun _ _ _ => rfl
      rw [hself]
      rfl
  | cons commit commits ih =>
      obtain ⟨index, number⟩ := commit
      -- The step keeps the worksheet well-formed, so the rest is one map too, and two maps are one.
      show ((sheet.putNumber index number).putNumbers commits).xml = _
      rw [ih (h.putNumber index number), names_putNumber, h.xml_putNumber]
      dsimp only
      rw [SheetNames.putNumbers_putNumbers h.cellsApart h.distinct]
      rfl

theorem part_putNumbers (sheet : Worksheet) (commits : List (Nat × String)) :
    (sheet.putNumbers commits).part = sheet.part
      ∧ (sheet.putNumbers commits).nsPrefix = sheet.nsPrefix := by
  induction commits generalizing sheet with
  | nil => exact ⟨rfl, rfl⟩
  | cons commit commits ih =>
      obtain ⟨index, number⟩ := commit
      obtain ⟨hpart, hprefix⟩ := ih (sheet.putNumber index number)
      refine ⟨hpart.trans ?_, hprefix.trans (nsPrefix_putNumber sheet index number)⟩
      rw [putNumber_eq]

/-- A worksheet is modified exactly where one of its cells gets a number. Whether a cell gets one is
told from the worksheet at the start, as it stays until the first cell gets one. -/
theorem modified_putNumbers (sheet : Worksheet) (commits : List (Nat × String)) :
    (sheet.putNumbers commits).modified = true
      ↔ sheet.modified = true
        ∨ ∃ path x, sheet.xml.root.get? path = some x
            ∧ sheet.names.numberIn commits x ≠ none := by
  induction commits generalizing sheet with
  | nil =>
      constructor
      · exact Or.inl
      · rintro (hmodified | ⟨path, x, -, hne⟩)
        · exact hmodified
        · exact absurd rfl hne
  | cons commit commits ih =>
      obtain ⟨index, number⟩ := commit
      show ((sheet.putNumber index number).putNumbers commits).modified = true ↔ _
      by_cases hcells : sheet.cellsOf index = []
      · have hsame : sheet.putNumber index number = sheet := by
          unfold putNumber
          rw [hcells]
        have hother : ∀ path x, sheet.xml.root.get? path = some x →
            sheet.names.numberIn ((index, number) :: commits) x
              = sheet.names.numberIn commits x := by
          intro path x hx
          have href : ¬ sheet.names.refersTo index x = true := fun href => by
            have hmem : path ∈ sheet.cellsOf index := SheetNames.mem_pathsOf_iff.2 ⟨x, hx, href⟩
            rw [hcells] at hmem
            cases hmem
          simp [SheetNames.numberIn, href]
        rw [hsame, ih]
        refine or_congr_right (exists_congr fun path => exists_congr fun x => ?_)
        exact and_congr_right fun hx => by rw [hother path x hx]
      · obtain ⟨path, hpath⟩ := List.exists_mem_of_ne_nil _ hcells
        obtain ⟨x, hx, href⟩ := SheetNames.mem_pathsOf_iff.1 hpath
        have hmodified : (sheet.putNumber index number).modified = true :=
          (sheet.modified_putNumber index number).2 (Or.inr ⟨path, x, hx, href⟩)
        rw [ih]
        exact ⟨fun _ => Or.inr ⟨path, x, hx, by simp [SheetNames.numberIn, href]⟩,
          fun _ => Or.inl hmodified⟩

end Worksheet

namespace Workbook

/-! ### Workbooks that can be built -/

/-- Workbooks that are read, given worksheets, changed and filled in. -/
inductive Reachable : Workbook → Prop where
  | parse {source : String} {w : Workbook} (h : Workbook.parse source = .ok w) : Reachable w
  | addWorksheet {w w' : Workbook} {part source : String} (hw : Reachable w)
      (h : w.addWorksheet part source = .ok w') : Reachable w'
  | write {w : Workbook} (hw : Reachable w) (field : SharedStringField) (value : String) :
      Reachable (w.write field value)
  | putNumber {w : Workbook} (hw : Reachable w) (field : SharedStringField) (number : Binary64) :
      Reachable (w.putNumber field number)
  | merge {w : Workbook} (hw : Reachable w) (functions : Functions) (properties : Properties) :
      Reachable (w.merge functions properties).1

/-- Every worksheet has attributes of distinct names. -/
def DistinctAttributes (w : Workbook) : Prop :=
  ∀ sheet ∈ w.worksheets, sheet.xml.root.DistinctAttributes

theorem DistinctAttributes.apply {w : Workbook} (h : w.DistinctAttributes)
    (field : SharedStringField) (c : Change) : (source.apply w field c).DistinctAttributes := by
  intro sheet hsheet
  rw [worksheets_apply] at hsheet
  cases hc : number? c with
  | none =>
      rw [hc] at hsheet
      exact h sheet hsheet
  | some number =>
      rw [hc] at hsheet
      obtain ⟨before, hbefore, rfl⟩ := List.mem_map.1 hsheet
      exact Worksheet.distinctAttributes_putNumber (h before hbefore) _ _

theorem DistinctAttributes.applyAll {w : Workbook} (h : w.DistinctAttributes)
    (plan : SharedStringField → Change) (fields : List SharedStringField) :
    (applyAll plan w fields).DistinctAttributes := by
  induction fields generalizing w with
  | nil => exact h
  | cons field fields ih => exact ih (h.apply field (plan field))

/-- The reader gives worksheets distinct attributes, and nothing takes that from them. -/
theorem Reachable.distinctAttributes {w : Workbook} (h : w.Reachable) :
    w.DistinctAttributes := by
  induction h with
  | parse h =>
      obtain ⟨xml, -, rfl⟩ := exists_of_map_eq_ok h
      intro sheet hsheet
      cases hsheet
  | addWorksheet hw h ih =>
      obtain ⟨xml, hxml, rfl⟩ := exists_of_map_eq_ok h
      intro sheet hsheet
      rcases List.mem_append.1 hsheet with hsheet | hsheet
      · exact ih sheet hsheet
      · rw [List.mem_singleton.1 hsheet]
        exact Document.distinctAttributes_parse hxml
  | write hw field value ih => exact ih.apply field (.text value)
  | putNumber hw field number ih => exact ih.apply field (.number number "")
  | merge hw functions properties ih =>
      rw [merge_eq]
      exact ih.applyAll _ _

/-! ### Which cells get which number -/

/-- The numbers that a plan has for the listed fields, with the indices of their strings. -/
def commits (plan : SharedStringField → Change) (fields : List SharedStringField) :
    List (Nat × String) :=
  fields.filterMap fun field =>
    (number? (plan field)).map fun number => (field.index, plainLayout.text number)

theorem worksheets_applyAll (plan : SharedStringField → Change) (w : Workbook)
    (fields : List SharedStringField) :
    (applyAll plan w fields).worksheets
      = w.worksheets.map (·.putNumbers (commits plan fields)) := by
  induction fields generalizing w with
  | nil => exact (List.map_id _).symm
  | cons field fields ih =>
      show (applyAll plan (source.apply w field (plan field)) fields).worksheets = _
      rw [ih, worksheets_apply]
      unfold commits
      rw [List.filterMap_cons]
      cases number? (plan field) with
      | none => rfl
      | some number =>
          rw [List.map_map]
          rfl

section Merge

variable (functions : Functions) (properties : Properties)

/-- A cell of a worksheet refers to a shared string that becomes a number, which is written so. -/
def CellNumber (w : Workbook) (names : SheetNames) (cell : Element) (number : String) : Prop :=
  ∃ index text value, w.texts[index]? = some text
    ∧ committed? functions properties text = some value
    ∧ names.refersTo index cell = true
    ∧ number = plainLayout.text value

variable {functions properties}

/-- A cell refers to one string. -/
theorem index_eq_of_refersTo {names : SheetNames} {cell : Element} {index other : Nat}
    (h : names.refersTo index cell) (h' : names.refersTo other cell) : index = other := by
  simp only [SheetNames.refersTo, Bool.and_eq_true, Option.any_eq_true, decide_eq_true_eq] at h h'
  obtain ⟨-, v, hv, htext⟩ := h
  obtain ⟨-, v', hv', htext'⟩ := h'
  obtain rfl : v = v' := Option.some.inj (hv.symm.trans hv')
  exact Nat.repr_injective (htext.symm.trans htext')

theorem CellNumber.unique {w : Workbook} {names : SheetNames} {cell : Element}
    {number other : String} (h : CellNumber functions properties w names cell number)
    (h' : CellNumber functions properties w names cell other) : number = other := by
  obtain ⟨index, text, value, htext, hvalue, href, rfl⟩ := h
  obtain ⟨index', text', value', htext', hvalue', href', rfl⟩ := h'
  obtain rfl := index_eq_of_refersTo href href'
  obtain rfl : text = text' := Option.some.inj (htext.symm.trans htext')
  obtain rfl : value = value' := Option.some.inj (hvalue.symm.trans hvalue')
  rfl

/-- A text becomes a number only where a placeholder of it has a value. -/
theorem number?_planned (text : String) :
    number? (planned functions properties text) = committed? functions properties text := by
  unfold planned
  split
  · cases committed? functions properties text <;> rfl
  · rename_i hvalue
    unfold committed?
    rw [if_neg fun h => hvalue h.1]
    rfl

/-- The planned numbers are those of the shared strings whose text becomes one. -/
theorem mem_commits_iff {w : Workbook} {index : Nat} {number : String} :
    (index, number) ∈ commits (source.change functions properties w) w.fields
      ↔ ∃ text value, w.texts[index]? = some text
          ∧ committed? functions properties text = some value
          ∧ number = plainLayout.text value := by
  unfold commits
  rw [List.mem_filterMap]
  constructor
  · intro ⟨field, hfield, hcommit⟩
    obtain ⟨value, hvalue, heq⟩ := Option.map_eq_some_iff.1 hcommit
    cases heq
    obtain ⟨item, hitem, -⟩ := mem_fields_iff.1 hfield
    refine ⟨w.names.itemText item, value, by simp [texts, hitem], ?_, rfl⟩
    rwa [change_of_items functions properties (List.mem_of_getElem? hitem), number?_planned]
      at hvalue
  · rintro ⟨text, value, htext, hvalue, rfl⟩
    unfold texts at htext
    rw [List.getElem?_map, Option.map_eq_some_iff] at htext
    obtain ⟨⟨child, item⟩, hitem, rfl⟩ := htext
    refine ⟨⟨index, child⟩, mem_fields_iff.2 ⟨item, hitem, fun hnone => ?_⟩, ?_⟩
    · unfold committed? hasValue at hvalue
      simp [hnone] at hvalue
    · rw [change_of_items functions properties (List.mem_of_getElem? hitem), number?_planned,
        hvalue]
      rfl

theorem numberIn_commits_iff {w : Workbook} {names : SheetNames} {cell : Element}
    {number : String} :
    names.numberIn (commits (source.change functions properties w) w.fields) cell = some number
      ↔ CellNumber functions properties w names cell number := by
  have hsound : ∀ number, names.numberIn (commits (source.change functions properties w) w.fields)
      cell = some number → CellNumber functions properties w names cell number := by
    intro number h
    obtain ⟨⟨index, n⟩, hmem, hn⟩ := List.exists_of_findSome?_eq_some h
    obtain ⟨text, value, htext, hvalue, rfl⟩ := mem_commits_iff.1 hmem
    dsimp only at hn
    split at hn
    · rename_i href
      cases hn
      exact ⟨index, text, value, htext, hvalue, href, rfl⟩
    · cases hn
  -- The list has some number for the cell, and as the cell refers to one string it is this number.
  refine ⟨hsound number, fun h => ?_⟩
  obtain ⟨index, text, value, htext, hvalue, href, hnumber⟩ := id h
  have hsome : (names.numberIn (commits (source.change functions properties w) w.fields)
      cell).isSome := by
    unfold SheetNames.numberIn
    rw [List.findSome?_isSome_iff]
    exact ⟨(index, number), mem_commits_iff.2 ⟨text, value, htext, hvalue, hnumber⟩,
      by simp [href]⟩
  obtain ⟨n, hn⟩ := Option.isSome_iff_exists.1 hsome
  rw [hn, (hsound n hn).unique h]

/-- A path to a cell that gets a number, or strictly inside the value of such a cell. -/
def Touched (names : SheetNames) (gets : Element → String → Prop) (root : Element)
    (path : Path) : Prop :=
  ∃ (around : Path) (cell : Element) (number : String),
    root.get? around = some cell ∧ gets cell number
      ∧ (path = around ∨ ∃ (index : Nat) (v : Element) (inside : Path),
          cell.findChild? names.value = some (index, v) ∧ inside ≠ []
            ∧ path = around ++ index :: inside)

/-- What filling in makes of a worksheet, by the cells that get a number. Such a cell loses its type
and shows the number in the place of its value. No other label of the tree changes, so that an
element without such cells at or below it, and outside their values, is as it was. -/
structure Renumbered (gets : Element → String → Prop) (sheet sheet' : Worksheet) : Prop where
  part_eq : sheet'.part = sheet.part
  nsPrefix_eq : sheet'.nsPrefix = sheet.nsPrefix
  prolog_eq : sheet'.xml.prolog = sheet.xml.prolog
  epilog_eq : sheet'.xml.epilog = sheet.xml.epilog
  cell : ∀ (path : Path) (cell : Element) (number : String),
    sheet.xml.root.get? path = some cell → gets cell number →
    ∃ cell', sheet'.xml.root.get? path = some cell' ∧ cell'.name = cell.name
      ∧ cell'.attributes = cell.attributes.filter (·.name ≠ SheetNames.cellType)
      ∧ cell'.children.length = cell.children.length
      ∧ ∃ index v, cell.findChild? sheet.names.value = some (index, v)
        ∧ cell'.findChild? sheet.names.value = some (index, ⟨v.toTag, [.text number]⟩)
  label? : ∀ path, ¬ Touched sheet.names gets sheet.xml.root path →
    sheet'.xml.root.label? path = sheet.xml.root.label? path
  get? : ∀ (path : Path) (x : Element), sheet.xml.root.get? path = some x →
    (∀ below, ¬ Touched sheet.names gets sheet.xml.root (path ++ below)) →
    sheet'.xml.root.get? path = some x
  modified_iff : sheet'.modified = true
    ↔ sheet.modified = true
      ∨ ∃ path cell number, sheet.xml.root.get? path = some cell ∧ gets cell number

/-- What filling in makes of a cell that gets a number. -/
theorem get?_putNumbers_commits {w : Workbook} {names : SheetNames} {root cell : Element}
    (h : names.CellsApart root) (hdistinct : root.DistinctAttributes) {path : Path}
    (hcell : root.get? path = some cell) {number : String}
    (hnumber : CellNumber functions properties w names cell number) :
    ∃ cell', (names.putNumbers (names.numberIn (commits (source.change functions properties w)
        w.fields)) root).get? path = some cell'
      ∧ cell'.name = cell.name
      ∧ cell'.attributes = cell.attributes.filter (·.name ≠ SheetNames.cellType)
      ∧ cell'.children.length = cell.children.length
      ∧ ∃ index v, cell.findChild? names.value = some (index, v)
        ∧ cell'.findChild? names.value = some (index, ⟨v.toTag, [.text number]⟩) := by
  have hcells := names.forCells_numberIn (commits (source.change functions properties w) w.fields)
  have hn := numberIn_commits_iff.2 hnumber
  have hname := SheetNames.name_of_number? hcells hn
  refine ⟨_, SheetNames.get?_putNumbers_of_cell hcells h hcell hname,
    SheetNames.name_putNumbers cell, ?_, ?_, ?_⟩
  · rw [SheetNames.putNumbers_eq, hn]
    have htag : (cell.mapChildren (names.putNumbers (names.numberIn (commits
        (source.change functions properties w) w.fields)))).toTag.Distinct :=
      hdistinct path cell hcell
    exact SheetNames.attributes_numericCell htag number
  · rw [SheetNames.putNumbers_eq, hn, Option.elim_some, SheetNames.length_numericCell]
    exact List.length_map _
  · obtain ⟨index, text, value, -, -, href, rfl⟩ := hnumber
    simp only [SheetNames.refersTo, Bool.and_eq_true, Option.any_eq_true] at href
    obtain ⟨-, v, hv, -⟩ := href
    obtain ⟨i, hv⟩ := Element.child?_eq_some_iff.1 hv
    refine ⟨i, v, hv, ?_⟩
    rw [SheetNames.findChild?_putNumbers hcells (h.get? hcell) hn hv]
    unfold Element.setText
    rw [if_neg (Layout.text_ne_empty plainLayout value)]

/-- The map of the numbers is what `Renumbered` says. -/
theorem label?_putNumbers_commits {w : Workbook} {names : SheetNames} {root : Element}
    (h : names.CellsApart root) {path : Path}
    (hpath : ¬ Touched names (CellNumber functions properties w names) root path) :
    (names.putNumbers (names.numberIn (commits (source.change functions properties w) w.fields))
        root).label? path = root.label? path := by
  refine SheetNames.label?_putNumbers (names.forCells_numberIn _) h ?_ ?_
  · intro cell hcell
    by_contra hne
    obtain ⟨number, hn⟩ := Option.ne_none_iff_exists'.1 hne
    exact hpath ⟨path, cell, number, hcell, numberIn_commits_iff.1 hn, Or.inl rfl⟩
  · intro ⟨around, cell, v, index, inside, hcell, hne, hv, hinside, heq⟩
    obtain ⟨number, hn⟩ := Option.ne_none_iff_exists'.1 hne
    exact hpath ⟨around, cell, number, hcell, numberIn_commits_iff.1 hn,
      Or.inr ⟨index, v, inside, hv, hinside, heq⟩⟩

variable (functions properties)

/-- Filling in a workbook puts the numbers of its shared strings into the cells that refer to them
at the start, and changes nothing else in the worksheets. A number that was put into a cell is never
taken for the index of another string. -/
theorem worksheets_merge {w : Workbook} (hw : w.Reachable)
    (hcells : ∀ sheet ∈ w.worksheets, sheet.names.CellsApart sheet.xml.root) :
    (w.merge functions properties).1.worksheets.length = w.worksheets.length
      ∧ ∀ (i : Nat) (sheet : Worksheet), w.worksheets[i]? = some sheet →
          ∃ sheet', (w.merge functions properties).1.worksheets[i]? = some sheet'
            ∧ Renumbered (CellNumber functions properties w sheet.names) sheet sheet' := by
  rw [merge_eq, worksheets_applyAll]
  refine ⟨List.length_map _, fun i sheet hsheet => ?_⟩
  -- Each worksheet gets the planned numbers by itself, so its map says all about it.
  have hmem := List.mem_of_getElem? hsheet
  have hwell : sheet.WellFormed := ⟨hcells sheet hmem, hw.distinctAttributes sheet hmem⟩
  let plan := commits (source.change functions properties w) w.fields
  refine ⟨sheet.putNumbers plan, by rw [List.getElem?_map, hsheet]; rfl, ?_⟩
  have hxml := hwell.xml_putNumbers plan
  have hlabel : ∀ path, ¬ Touched sheet.names (CellNumber functions properties w sheet.names)
      sheet.xml.root path →
      (sheet.putNumbers plan).xml.root.label? path = sheet.xml.root.label? path := by
    intro path hpath
    rw [hxml]
    exact label?_putNumbers_commits hwell.cellsApart hpath
  exact {
    part_eq := (sheet.part_putNumbers plan).1
    nsPrefix_eq := (sheet.part_putNumbers plan).2
    prolog_eq := by rw [hxml]
    epilog_eq := by rw [hxml]
    cell := by
      intro path cell number hcell hnumber
      rw [hxml]
      exact get?_putNumbers_commits hwell.cellsApart hwell.distinct hcell hnumber
    label? := hlabel
    get? := fun path x hx hpath =>
      Element.get?_eq_of_label?_eq hx fun below => hlabel _ (hpath below)
    modified_iff := by
      rw [sheet.modified_putNumbers]
      refine or_congr_right (exists_congr fun path => exists_congr fun cell => ?_)
      rw [exists_and_left]
      refine and_congr_right fun _ => ?_
      rw [Option.ne_none_iff_exists']
      exact exists_congr fun number => numberIn_commits_iff }

end Merge

/-! ### A number that looks like an index -/

/-- The sources of a table of two shared strings and of a worksheet whose two cells refer to
them. -/
def crossedSources : String × String :=
  ("<sst><si><t>[[A]]</t></si><si><t>[[B]]</t></si></sst>",
    "<worksheet><c r=\"A1\" t=\"s\"><v>0</v></c><c r=\"A2\" t=\"s\"><v>1</v></c></worksheet>")

/-- Values by which the first string becomes the index of the second. -/
def crossedValues : Properties := .ofList [("A", "1"), ("B", "7")]

/-- The first cell of the worksheet. -/
def crossedCell : Element :=
  ⟨⟨"c", [⟨"r", "A1"⟩, ⟨"t", "s"⟩]⟩, [.element ⟨"v", []⟩ [.text "0"]]⟩

/-- The worksheet as read. -/
def crossedSheet : Worksheet where
  part := "xl/worksheets/sheet1.xml"
  xml := ⟨[], ⟨⟨"worksheet", []⟩, [crossedCell.toNode,
    .element ⟨"c", [⟨"r", "A2"⟩, ⟨"t", "s"⟩]⟩ [.element ⟨"v", []⟩ [.text "1"]]]⟩, []⟩
  nsPrefix := ""
  modified := false

/-- The workbook as read. -/
def crossed : Workbook where
  sharedStrings := ⟨[], ⟨⟨"sst", []⟩, [.element ⟨"si", []⟩ [.element ⟨"t", []⟩ [.text "[[A]]"]],
    .element ⟨"si", []⟩ [.element ⟨"t", []⟩ [.text "[[B]]"]]]⟩, []⟩
  nsPrefix := ""
  worksheets := [crossedSheet]

/-- The cell that gets the number one keeps it, though the second string, which is filled in later,
has the index one. -/
theorem worksheets_merge_crossed :
    crossed.Reachable
      ∧ (∀ sheet ∈ crossed.worksheets, sheet.names.CellsApart sheet.xml.root)
      ∧ CellNumber builtinFunctions crossedValues crossed crossedSheet.names crossedCell "1"
      ∧ ∃ sheet', (crossed.merge builtinFunctions crossedValues).1.worksheets[0]? = some sheet'
          ∧ Renumbered (CellNumber builtinFunctions crossedValues crossed crossedSheet.names)
              crossedSheet sheet' := by
  have hparse : Workbook.parse crossedSources.1 = .ok { crossed with worksheets := [] } := by
    decide +kernel
  have hadd : addWorksheet { crossed with worksheets := [] } crossedSheet.part crossedSources.2
      = .ok crossed := by
    decide +kernel
  have hw : crossed.Reachable := .addWorksheet (.parse hparse) hadd
  have hcells : ∀ sheet ∈ crossed.worksheets, sheet.names.CellsApart sheet.xml.root := by
    decide +kernel
  have hnumber : CellNumber builtinFunctions crossedValues crossed crossedSheet.names crossedCell
      "1" :=
    ⟨0, "[[A]]", .finite false (2 ^ 52) (-52), by decide +kernel, by decide +kernel,
      by decide +kernel, by decide +kernel⟩
  exact ⟨hw, hcells, hnumber,
    (worksheets_merge builtinFunctions crossedValues hw hcells).2 0 crossedSheet rfl⟩

end Workbook

end MailMerge
