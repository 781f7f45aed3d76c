import MailMerge.Proofs.Workbook.Fields

/-!
# `MailMerge.Proofs.Workbook.SharedStrings`: the table of shared strings after filling in

Filling in a workbook works on the table string by string, and reads what it wrote before. The
reference is one map over the table as it was: `filledItem` is what becomes of a shared string, told
from its own text. `root_merge` states that the table is this map, and `sharedStrings_merge` spells
out what the map does to a single shared string.
-/

set_option autoImplicit false

namespace MailMerge.Workbook

open MailMerge.Xml

/-! ### Changes one after another -/

section ApplyAll

variable (plan : SharedStringField → Change)

theorem nsPrefix_applyAll (w : Workbook) (fields : List SharedStringField) :
    (applyAll plan w fields).nsPrefix = w.nsPrefix := by
  induction fields generalizing w with
  | nil => rfl
  | cons field fields ih =>
      show (applyAll plan (source.apply w field (plan field)) fields).nsPrefix = _
      rw [ih, nsPrefix_apply]

/-- Around the shared strings nothing changes. -/
theorem frame_applyAll (w : Workbook) (fields : List SharedStringField) :
    (applyAll plan w fields).sharedStrings.prolog = w.sharedStrings.prolog
      ∧ (applyAll plan w fields).sharedStrings.epilog = w.sharedStrings.epilog
      ∧ (applyAll plan w fields).sharedStrings.root.toTag = w.sharedStrings.root.toTag := by
  induction fields generalizing w with
  | nil => exact ⟨rfl, rfl, rfl⟩
  | cons field fields ih =>
      obtain ⟨hprolog, hepilog, htag⟩ := ih (source.apply w field (plan field))
      have hstep : (source.apply w field (plan field)).sharedStrings.prolog
            = w.sharedStrings.prolog
          ∧ (source.apply w field (plan field)).sharedStrings.epilog = w.sharedStrings.epilog
          ∧ (source.apply w field (plan field)).sharedStrings.root.toTag
            = w.sharedStrings.root.toTag := by
        rw [sharedStrings_apply]
        cases stored? (plan field) with
        | none => exact ⟨rfl, rfl, rfl⟩
        | some text =>
            refine ⟨rfl, rfl, ?_⟩
            show (w.sharedStrings.root.modify _ [field.child]).toTag = _
            rw [Element.modify_cons]
            cases w.sharedStrings.root.childAt? field.child <;> rfl
      exact ⟨hprolog.trans hstep.1, hepilog.trans hstep.2.1, htag.trans hstep.2.2⟩

/-- A child that is none of the fields stays. -/
theorem children_applyAll_of_ne (w : Workbook) {fields : List SharedStringField} {child : Nat}
    (h : ∀ field ∈ fields, field.child ≠ child) :
    (applyAll plan w fields).sharedStrings.root.children[child]?
      = w.sharedStrings.root.children[child]? := by
  induction fields generalizing w with
  | nil => rfl
  | cons field fields ih =>
      show (applyAll plan (source.apply w field (plan field)) fields).sharedStrings.root.children[
        child]? = _
      rw [ih _ fun other hother => h other (List.mem_cons_of_mem _ hother),
        children_apply_of_ne w field _ (h field List.mem_cons_self)]

/-- A field gets the text that the plan has for it: the fields before it and after it are at other
places. -/
theorem childAt?_applyAll_of_mem (w : Workbook) {fields : List SharedStringField}
    (hfields : fields.Pairwise fun a b => a.child ≠ b.child) {field : SharedStringField}
    (hfield : field ∈ fields) {item : Element}
    (hitem : w.sharedStrings.root.childAt? field.child = some item) :
    (applyAll plan w fields).sharedStrings.root.childAt? field.child
      = some ((stored? (plan field)).elim item (w.names.plainItem · item)) := by
  induction fields generalizing w with
  | nil => cases hfield
  | cons first fields ih =>
      obtain ⟨hfirst, hrest⟩ := List.pairwise_cons.1 hfields
      show (applyAll plan (source.apply w first (plan first)) fields).sharedStrings.root.childAt?
        field.child = _
      rcases List.mem_cons.1 hfield with rfl | hmem
      · have hlater := children_applyAll_of_ne plan (source.apply w field (plan field))
          fun other hother => (hfirst other hother).symm
        exact (Element.childAt?_congr hlater).trans (childAt?_apply_self w field _ hitem)
      · have hstill := Element.childAt?_congr
          (children_apply_of_ne w first (plan first) (hfirst field hmem))
        rw [ih _ hrest hmem (hstill.trans hitem), names_apply]

end ApplyAll

/-! ### The table as a map -/

section Map

variable (functions : Functions) (properties : Properties)

/-- What becomes of a shared string. -/
def filledItem (names : SheetNames) (item : Element) : Element :=
  if hasValue functions properties (names.itemText item) then
    names.plainItem (storedText functions properties (names.itemText item)) item
  else item

/-- What becomes of a child element of the table. -/
def filledChild (names : SheetNames) (x : Element) : Element :=
  if x.name = names.item then filledItem functions properties names x else x

theorem toTag_filledItem (names : SheetNames) (item : Element) :
    (filledItem functions properties names item).toTag = item.toTag := by
  unfold filledItem
  split <;> rfl

/-- The plan for a text keeps the text of a shared string exactly where none of its placeholders
has a value. -/
theorem stored?_planned (text : String) :
    stored? (planned functions properties text)
      = if hasValue functions properties text then some (storedText functions properties text)
        else none := by
  unfold planned storedText
  split
  · cases committed? functions properties text <;> rfl
  · rfl

/-- A shared string without placeholders stays. -/
theorem filledItem_of_findBracketed {names : SheetNames} {item : Element}
    (h : Placeholder.findBracketed (names.itemText item) = []) :
    filledItem functions properties names item = item := by
  unfold filledItem hasValue
  rw [h]
  rfl

theorem name_filledChild (names : SheetNames) (x : Element) :
    (filledChild functions properties names x).name = x.name := by
  unfold filledChild
  split
  · exact congrArg Tag.name (toTag_filledItem functions properties names x)
  · rfl

/-- The table after filling in is a map over the child elements of the table before. -/
theorem root_merge (w : Workbook) :
    (w.merge functions properties).1.sharedStrings.root
      = w.sharedStrings.root.mapChildren (filledChild functions properties w.names) := by
  rw [merge_eq]
  have hapart : w.fields.Pairwise fun a b => a.child ≠ b.child :=
    w.pairwise_fields.imp fun h => Nat.ne_of_lt h.2
  -- Child by child: a field has got what the plan has for it, and all other children have stayed.
  refine Element.ext_children
    (frame_applyAll (source.change functions properties w) w w.fields).2.2 fun child => ?_
  by_cases hfield : ∃ field ∈ w.fields, field.child = child
  · obtain ⟨⟨index, place⟩, hmem, rfl⟩ := hfield
    obtain ⟨item, hitem, -⟩ := mem_fields_iff.1 hmem
    obtain ⟨hat, hname⟩ := mem_items_iff.1 (List.mem_of_getElem? hitem)
    have hmapped : (w.sharedStrings.root.mapChildren (filledChild functions properties
        w.names)).childAt? place = some (filledItem functions properties w.names item) := by
      rw [Element.childAt?_mapChildren, hat, Option.map_some, filledChild, if_pos hname]
    have happlied := childAt?_applyAll_of_mem (source.change functions properties w) w hapart hmem
      hat
    rw [change_of_items functions properties (List.mem_of_getElem? hitem),
      stored?_planned] at happlied
    rw [Element.childAt?_eq_some_iff.1 happlied, Element.childAt?_eq_some_iff.1 hmapped]
    unfold filledItem
    split <;> rfl
  · have hne : ∀ field ∈ w.fields, field.child ≠ child := fun field hmem heq =>
      hfield ⟨field, hmem, heq⟩
    rw [children_applyAll_of_ne _ w hne]
    -- What is no field has no placeholders, so the map keeps it.
    refine (Element.children_mapChildren_of_eq ?_).symm
    intro item hat
    unfold filledChild
    split
    · rename_i hname
      obtain ⟨index, hindex⟩ := List.getElem?_of_mem (mem_items_iff.2 ⟨hat, hname⟩)
      apply filledItem_of_findBracketed
      by_contra hne'
      exact hne ⟨index, child⟩ (mem_fields_iff.2 ⟨item, hindex, hne'⟩) rfl
    · rfl

theorem names_merge (w : Workbook) : (w.merge functions properties).1.names = w.names := by
  rw [merge_eq]
  unfold names
  rw [nsPrefix_applyAll]

/-- The shared strings after filling in stand where they stood. -/
theorem items_merge (w : Workbook) :
    (w.merge functions properties).1.items
      = w.items.map fun (child, item) =>
          (child, filledItem functions properties w.names item) := by
  unfold items
  rw [root_merge, Element.elements_mapChildren, names_merge, List.filter_map]
  simp only [Function.comp_def, name_filledChild]
  refine List.map_congr_left ?_
  intro ⟨child, x⟩ hx
  have hitem : x.name = w.names.item := by simpa using (List.mem_filter.1 hx).2
  rw [filledChild, if_pos hitem]

/-- What filling in makes of one shared string: it is kept as it is where no placeholder of its text
has a value. Else one plain text takes the place of its content. The text is empty where the string
has become another text that is a number as a whole. -/
structure FilledIn (names : SheetNames) (item item' : Element) : Prop where
  toTag_eq : item'.toTag = item.toTag
  eq_of_unresolved :
    (∀ p ∈ Placeholder.findBracketed (names.itemText item),
      (resolve functions properties p).toOption = none) → item' = item
  of_resolved :
    (∃ p ∈ Placeholder.findBracketed (names.itemText item),
      (resolve functions properties p).toOption ≠ none) →
    ∃ text : Element, item'.children = [text.toNode] ∧ text.name = names.text ∧
      text.text =
        if filledText functions properties (names.itemText item) ≠ names.itemText item
            ∧ (wholeNumber? (filledText functions properties (names.itemText item))).isSome then ""
        else filledText functions properties (names.itemText item)

theorem hasValue_iff (text : String) :
    hasValue functions properties text = true
      ↔ ∃ p ∈ Placeholder.findBracketed text, (resolve functions properties p).toOption ≠ none := by
  unfold hasValue
  rw [List.any_eq_true]
  constructor
  · intro ⟨p, hp, hvalue⟩
    rw [← toOption_resolve functions properties hp] at hvalue
    exact ⟨p, hp, Option.isSome_iff_ne_none.1 hvalue⟩
  · intro ⟨p, hp, hvalue⟩
    rw [toOption_resolve functions properties hp] at hvalue
    exact ⟨p, hp, Option.isSome_iff_ne_none.2 hvalue⟩

theorem filledIn_filledItem (names : SheetNames) (item : Element) :
    FilledIn functions properties names item (filledItem functions properties names item) where
  toTag_eq := toTag_filledItem functions properties names item
  eq_of_unresolved h := by
    have hvalue : ¬ hasValue functions properties (names.itemText item) = true := by
      rw [hasValue_iff]
      intro ⟨p, hp, hne⟩
      exact hne (h p hp)
    unfold filledItem
    rw [if_neg hvalue]
  of_resolved h := by
    have hvalue := (hasValue_iff functions properties _).2 h
    unfold filledItem
    rw [if_pos hvalue]
    refine ⟨_, rfl, Element.name_showText _ _, ?_⟩
    rw [Element.text_showText]
    unfold storedText committed?
    simp only [hvalue, true_and]
    split <;> simp_all

/-- Filling in a workbook changes the table of shared strings by itself as a map over its strings
would. `FilledIn` says what becomes of each string, all else in the table stays, and the errors are
those of the placeholders in the texts at the start, from the first string to the last and from left
to right. -/
theorem sharedStrings_merge (w : Workbook) :
    (w.merge functions properties).1.nsPrefix = w.nsPrefix
      ∧ (w.merge functions properties).1.sharedStrings.prolog = w.sharedStrings.prolog
      ∧ (w.merge functions properties).1.sharedStrings.epilog = w.sharedStrings.epilog
      ∧ (w.merge functions properties).1.sharedStrings.root.toTag = w.sharedStrings.root.toTag
      ∧ (w.merge functions properties).1.sharedStrings.root.children.length
          = w.sharedStrings.root.children.length
      ∧ (∀ (child : Nat) (node : Node), w.sharedStrings.root.children[child]? = some node →
          (∀ item, (child, item) ∉ w.items) →
          (w.merge functions properties).1.sharedStrings.root.children[child]? = some node)
      ∧ (w.merge functions properties).1.items.length = w.items.length
      ∧ (∀ (index child : Nat) (item : Element), w.items[index]? = some (child, item) →
          ∃ item', (w.merge functions properties).1.items[index]? = some (child, item')
            ∧ FilledIn functions properties w.names item item')
      ∧ (w.merge functions properties).2 = w.texts.flatMap fun text =>
          (Placeholder.findBracketed text).flatMap fun p =>
            faults (resolve functions properties p) := by
  have hframe := frame_applyAll (source.change functions properties w) w w.fields
  refine ⟨?_, ?_, ?_, ?_, ?_, ?_, ?_, ?_, ?_⟩
  · rw [merge_eq, nsPrefix_applyAll]
  · rw [merge_eq, hframe.1]
  · rw [merge_eq, hframe.2.1]
  · rw [merge_eq, hframe.2.2]
  · rw [root_merge]
    exact List.length_map ..
  · intro child node hnode hitems
    rw [root_merge, Element.children_mapChildren_of_eq, hnode]
    intro item hat
    unfold filledChild
    rw [if_neg fun hname => hitems item (mem_items_iff.2 ⟨hat, hname⟩)]
  · rw [items_merge, List.length_map]
  · intro index child item hitem
    rw [items_merge, List.getElem?_map, hitem]
    exact ⟨_, rfl, filledIn_filledItem functions properties w.names item⟩
  · rw [merge_eq]
    rfl

end Map

end MailMerge.Workbook
