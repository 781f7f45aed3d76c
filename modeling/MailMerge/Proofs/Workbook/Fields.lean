import MailMerge.Proofs.Field.Plan
import MailMerge.Proofs.Field.Substitution
import MailMerge.Proofs.Xml.Tree
import MailMerge.Workbook.Merge

/-!
# `MailMerge.Proofs.Workbook.Fields`: what the fields of a workbook are and what changes them

A field of a workbook is a shared string with placeholders in brackets. Its change depends on its
text alone (`changeOf_source`): no placeholder with a value, and it is kept; else it gets its text
with all values filled in, or it is emptied and its number goes to the cells.

* `mem_fields_iff` and `pairwise_fields`: fields are the shared strings with placeholders, in the
  order of the table.
* `sharedStrings_apply`, `worksheets_apply`, `nsPrefix_apply`: what a change leaves of the three
  parts of a workbook.
* `merge_eq`: the run is the changes planned from the texts at the start, one after another.
-/

set_option autoImplicit false

namespace MailMerge.Workbook

open MailMerge.Xml MailMerge.Number

/-! ### Texts -/

section Texts

variable (functions : Functions) (properties : Properties)

/-- The value of an expression in brackets, if it has one. -/
def valueOf? (expression : String) : Option String :=
  (resolve functions properties ⟨0, 0, expression, []⟩).toOption

/-- Whether a placeholder of a text has a value. -/
def hasValue (text : String) : Bool :=
  (Placeholder.findBracketed text).any fun p => (valueOf? functions properties p.expression).isSome

/-- A text with the values of its placeholders filled in. -/
def filledText (text : String) : String :=
  .ofList (Placeholder.fillIn (valueOf? functions properties) text.toList)

/-- The number that a text becomes, if filling in makes it one. -/
def committed? (text : String) : Option Binary64 :=
  if hasValue functions properties text ∧ filledText functions properties text ≠ text then
    wholeNumber? (filledText functions properties text)
  else none

/-- What the table keeps of a text that is filled in: nothing where it has become a number. -/
def storedText (text : String) : String :=
  if (committed? functions properties text).isSome then "" else filledText functions properties text

/-- The change of a shared string with a text. -/
def planned (text : String) : Change :=
  if hasValue functions properties text then
    match committed? functions properties text with
    | some number => .number number (filledText functions properties text)
    | none => .text (filledText functions properties text)
  else .keep

/-- What is wrong with the placeholders of a text. -/
def textErrors (text : String) : List FieldError :=
  (Placeholder.findBracketed text).flatMap fun p => faults (resolve functions properties p)

/-- Where a placeholder stands does not matter for its value. -/
theorem toOption_resolve {text : String} {p : Placeholder}
    (h : p ∈ Placeholder.findBracketed text) :
    (resolve functions properties p).toOption = valueOf? functions properties p.expression := by
  obtain ⟨start, stop, expression, modifiers⟩ := p
  have hmodifiers : modifiers = [] := Placeholder.modifiers_of_mem_findBracketed h
  subst hmodifiers
  rfl

/-- The plan of a field, from its text alone. -/
theorem changeOf_source (field : SharedStringField) (text : String) :
    source.changeOf functions properties field text = planned functions properties text := by
  -- The values, whether there are any, and what is made of them depend on expressions only.
  have hvalues : ((Placeholder.findBracketed text).map fun p =>
        (resolve functions properties p).toOption)
      = (Placeholder.findBracketed text).map fun p => valueOf? functions properties p.expression :=
    List.map_congr_left fun p hp => toOption_resolve functions properties hp
  have hnone : ((Placeholder.findBracketed text).map fun p =>
        valueOf? functions properties p.expression).all Option.isNone
      = !hasValue functions properties text := by
    unfold hasValue
    rw [List.all_map, List.not_any_eq_all_not]
    simp [Function.comp_def]
  have hrender : source.render text (Placeholder.findBracketed text)
        ((Placeholder.findBracketed text).map fun p => valueOf? functions properties p.expression)
      = filledText functions properties text :=
    Placeholder.substitute_findBracketed (valueOf? functions properties) text
  have hplaceholders : source.placeholders field text = Placeholder.findBracketed text := rfl
  simp only [FieldSource.changeOf, hplaceholders, hvalues, hnone, hrender]
  unfold planned committed?
  cases hasValue functions properties text with
  | false => rfl
  | true =>
      by_cases htext : filledText functions properties text = text
      · simp [htext]
      · cases wholeNumber? (filledText functions properties text) <;> simp [htext]

end Texts

/-! ### Which shared strings are fields -/

theorem mem_items_iff {w : Workbook} {child : Nat} {item : Element} :
    (child, item) ∈ w.items
      ↔ w.sharedStrings.root.childAt? child = some item ∧ item.name = w.names.item := by
  unfold items
  rw [List.mem_filter, Element.mem_elements_iff, decide_eq_true_iff]

theorem pairwise_items (w : Workbook) : w.items.Pairwise fun a b => a.1 < b.1 :=
  w.sharedStrings.root.pairwise_elements.sublist List.filter_sublist

/-- The fields are the shared strings with placeholders. -/
theorem mem_fields_iff {w : Workbook} {field : SharedStringField} :
    field ∈ w.fields ↔ ∃ item, w.items[field.index]? = some (field.child, item)
      ∧ Placeholder.findBracketed (w.names.itemText item) ≠ [] := by
  obtain ⟨index, child⟩ := field
  unfold fields
  simp only [List.mem_filterMap, Prod.exists, List.mem_zipIdx_iff_getElem?]
  constructor
  · intro ⟨child', item, index', hitem, h⟩
    split at h
    · cases h
    · rename_i hne
      cases h
      exact ⟨item, hitem, by simpa using hne⟩
  · intro ⟨item, hitem, hne⟩
    exact ⟨child, item, index, hitem, by simp [hne]⟩

/-- Fields stand in the order of the table, by their indices and by their places in it. -/
theorem pairwise_fields (w : Workbook) :
    w.fields.Pairwise fun a b => a.index < b.index ∧ a.child < b.child := by
  have hchild : w.items.zipIdx.Pairwise fun a b => a.1.1 < b.1.1 := by
    have h := w.pairwise_items
    rwa [← List.zipIdx_map_fst 0 w.items, List.pairwise_map] at h
  have hindex : w.items.zipIdx.Pairwise fun a b => a.2 < b.2 := by
    rw [← List.pairwise_map, List.zipIdx_map_snd]
    exact List.pairwise_lt_range'
  -- A shared string gives one field at most, so fields inherit both orders.
  refine (hindex.and hchild).filterMap _ ?_
  intro ⟨⟨child, item⟩, index⟩ ⟨⟨child', item'⟩, index'⟩ hlt field hfield field' hfield'
  dsimp only at hfield hfield'
  split at hfield
  · cases hfield
  · split at hfield'
    · cases hfield'
    · cases hfield
      cases hfield'
      exact hlt

/-! ### What a change leaves -/

/-- A shared string that is no longer there is not written: then there is nothing to modify. -/
theorem write_eq (w : Workbook) (field : SharedStringField) (text : String) :
    w.write field text = { w with sharedStrings := { w.sharedStrings with
      root := w.sharedStrings.root.modify (w.names.plainItem text) [field.child] } } := by
  unfold write setText?
  dsimp only
  cases h : w.sharedStrings.root.get? [field.child] with
  | some item => rfl
  | none =>
      have hchild : w.sharedStrings.root.childAt? field.child = none := by
        rw [Element.get?_cons] at h
        simpa using h
      rw [Element.modify_cons, hchild]
      rfl

/-- The text that a change leaves in the table, none where it leaves the table as it is. -/
def stored? : Change → Option String
  | .keep => none
  | .text rendered => some rendered
  | .number _ _ => some ""

/-- The number that a change puts into the cells. -/
def number? : Change → Option Binary64
  | .keep | .text _ => none
  | .number number _ => some number

@[simp] theorem nsPrefix_apply (w : Workbook) (field : SharedStringField) (c : Change) :
    (source.apply w field c).nsPrefix = w.nsPrefix := by
  cases c with
  | keep => rfl
  | text rendered =>
      show (w.write field rendered).nsPrefix = _
      rw [write_eq]
  | number number rendered =>
      show (w.write field "").nsPrefix = _
      rw [write_eq]

@[simp] theorem names_apply (w : Workbook) (field : SharedStringField) (c : Change) :
    (source.apply w field c).names = w.names := by
  unfold names
  rw [nsPrefix_apply]

/-- A change writes a plain text into its shared string. -/
theorem sharedStrings_apply (w : Workbook) (field : SharedStringField) (c : Change) :
    (source.apply w field c).sharedStrings = match stored? c with
      | none => w.sharedStrings
      | some text => { w.sharedStrings with
          root := w.sharedStrings.root.modify (w.names.plainItem text) [field.child] } := by
  cases c with
  | keep => rfl
  | text rendered =>
      show (w.write field rendered).sharedStrings = _
      rw [write_eq]
      rfl
  | number number rendered =>
      show (w.write field "").sharedStrings = _
      rw [write_eq]
      rfl

/-- A number is put into the cells of every worksheet that refer to its shared string. -/
theorem worksheets_apply (w : Workbook) (field : SharedStringField) (c : Change) :
    (source.apply w field c).worksheets = match number? c with
      | none => w.worksheets
      | some number => w.worksheets.map (·.putNumber field.index (plainLayout.text number)) := by
  cases c with
  | keep => rfl
  | text rendered =>
      show (w.write field rendered).worksheets = _
      rw [write_eq]
      rfl
  | number number rendered => rfl

/-- A change is seen in its own shared string only. -/
theorem children_apply_of_ne (w : Workbook) (field : SharedStringField) (c : Change) {child : Nat}
    (h : field.child ≠ child) :
    (source.apply w field c).sharedStrings.root.children[child]?
      = w.sharedStrings.root.children[child]? := by
  rw [sharedStrings_apply]
  cases stored? c with
  | none => rfl
  | some text =>
      show (w.sharedStrings.root.modify _ [field.child]).children[child]? = _
      rw [Element.modify_cons]
      cases w.sharedStrings.root.childAt? field.child with
      | none => rfl
      | some item => exact List.getElem?_set_ne h

/-- A change of a shared string leaves a plain text in it. -/
theorem childAt?_apply_self (w : Workbook) (field : SharedStringField) (c : Change)
    {item : Element} (h : w.sharedStrings.root.childAt? field.child = some item) :
    (source.apply w field c).sharedStrings.root.childAt? field.child
      = some ((stored? c).elim item (w.names.plainItem · item)) := by
  rw [sharedStrings_apply]
  cases stored? c with
  | none => exact h
  | some text =>
      show (w.sharedStrings.root.modify _ [field.child]).childAt? field.child = _
      rw [Element.modify_cons, h]
      exact Element.childAt?_set_self h

/-- Fields at different places do not show each other's changes. -/
theorem readsApart : source.ReadsApart (fun _ => True) fun a b => a.child ≠ b.child where
  inv_apply _ _ _ h := h
  read_apply w field other c _ h := by
    show ((source.apply w field c).sharedStrings.root.get? [other.child]).map _
      = (w.sharedStrings.root.get? [other.child]).map _
    unfold Element.get?
    rw [children_apply_of_ne w field c h, names_apply]

/-! ### The run -/

/-- The workbook after the changes that a plan has for the listed fields, one after another. -/
def applyAll (plan : SharedStringField → Change) (w : Workbook) (fields : List SharedStringField) :
    Workbook :=
  fields.foldl (fun w' field => source.apply w' field (plan field)) w

section Run

variable (functions : Functions) (properties : Properties)

/-- A field reads as the text of its shared string. -/
theorem read_of_items {w : Workbook} {index child : Nat} {item : Element}
    (h : (child, item) ∈ w.items) :
    source.read w ⟨index, child⟩ = some (w.names.itemText item) := by
  show (w.sharedStrings.root.get? [child]).map w.names.itemText = _
  rw [Element.get?_cons, (mem_items_iff.1 h).1]
  rfl

/-- The change planned for a shared string at the start. -/
theorem change_of_items {w : Workbook} {index child : Nat} {item : Element}
    (h : (child, item) ∈ w.items) :
    source.change functions properties w ⟨index, child⟩
      = planned functions properties (w.names.itemText item) := by
  unfold FieldSource.change
  rw [read_of_items h]
  exact changeOf_source functions properties _ _

/-- A text without placeholders has nothing wrong with them. -/
theorem textErrors_eq_nil {text : String} (h : Placeholder.findBracketed text = []) :
    textErrors functions properties text = [] := by
  unfold textErrors
  rw [h]
  rfl

/-- The errors of the fields are those of all shared strings, as the others have none. -/
theorem flatMap_errors_fields (w : Workbook) :
    w.fields.flatMap (source.errors functions properties w)
      = w.texts.flatMap (textErrors functions properties) := by
  have htexts : w.texts.flatMap (textErrors functions properties)
      = w.items.zipIdx.flatMap fun entry =>
          textErrors functions properties (w.names.itemText entry.1.2) := by
    unfold texts
    rw [List.flatMap_map]
    conv_lhs => rw [← List.zipIdx_map_fst 0 w.items, List.flatMap_map]
  rw [htexts, fields, List.filterMap_eq_flatMap_toList, List.flatMap_assoc]
  -- String by string: a field reads as its text, and what is no field has no placeholders.
  refine List.flatMap_congr ?_
  intro ⟨⟨child, item⟩, index⟩ hentry
  have hitem : (child, item) ∈ w.items :=
    List.mem_of_getElem? (List.mem_zipIdx_iff_getElem?.1 hentry)
  dsimp only
  split
  · rename_i hempty
    exact (textErrors_eq_nil functions properties (List.isEmpty_iff.1 hempty)).symm
  · simp only [Option.toList_some, List.flatMap_cons, List.flatMap_nil, List.append_nil]
    unfold FieldSource.errors
    rw [read_of_items hitem]
    rfl

/-- Filling in applies the changes planned from the texts at the start, and reports what is wrong
with these texts in the order of the table. -/
theorem merge_eq (w : Workbook) :
    w.merge functions properties
      = (applyAll (source.change functions properties w) w w.fields,
          w.texts.flatMap (textErrors functions properties)) := by
  have hapart : w.fields.Pairwise fun a b => a.child ≠ b.child :=
    w.pairwise_fields.imp fun h => Nat.ne_of_lt h.2
  show source.mergeEach functions properties w w.fields = _
  rw [FieldSource.mergeEach_eq functions properties readsApart hapart trivial]
  exact Prod.ext rfl (flatMap_errors_fields functions properties w)

end Run

end MailMerge.Workbook
