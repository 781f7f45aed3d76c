import MailMerge.Proofs.Word.Merge

/-!
# `MailMerge.Proofs.Word.Repeat`: filling in twice

A second run over a flat document finds the fields, the codes and the places of values that the
first one found, and so it makes the same edits. Several fields may show their values in one text.
Of the edits of a text the last one stays, and white space that any of them asked to keep stays
kept. So edits that are made again change nothing, and a document that is filled in stays as it is.

* `showAll_showAll`: edits of a tree made again.
* `merge_merge`: a flat document filled in again.
-/

set_option autoImplicit false

namespace MailMerge

open MailMerge.Xml

/-! ### Texts that are shown again -/

namespace Xml.Element

/-- An attribute set again to its value stays. -/
theorem setAttribute_setAttribute (e : Element) (name value : String) :
    (e.setAttribute name value).setAttribute name value = e.setAttribute name value := by
  have hset : ∀ as : List Attribute,
      setAttribute.set name value (setAttribute.set name value as)
        = setAttribute.set name value as := by
    intro as
    induction as with
    | nil => simp [setAttribute.set]
    | cons a as ih => by_cases h : a.name = name <;> simp [setAttribute.set, h, ih]
  unfold setAttribute
  rw [hset]

theorem toTag_setAttribute_congr {e e' : Element} (h : e.toTag = e'.toTag) (name value : String) :
    (e.setAttribute name value).toTag = (e'.setAttribute name value).toTag := by
  obtain ⟨tag, children⟩ := e
  obtain ⟨tag', children'⟩ := e'
  obtain rfl : tag = tag' := h
  rfl

/-- The mark on an element whose white space is kept. -/
theorem toTag_showText (e : Element) (value : String) :
    (e.showText value).toTag
      = if Text.hasBlankEnd value then (e.setAttribute spaceAttribute "preserve").toTag
        else e.toTag := by
  unfold showText
  split <;> rfl

/-- Of texts shown one after another any with white space at its ends leaves the mark. -/
theorem toTag_foldl_showText (values : List String) (e : Element) :
    (values.foldl showText e).toTag
      = if values.any Text.hasBlankEnd then (e.setAttribute spaceAttribute "preserve").toTag
        else e.toTag := by
  induction values generalizing e with
  | nil => rfl
  | cons value values ih =>
      rw [List.foldl_cons, ih, List.any_cons, toTag_showText]
      cases hblank : Text.hasBlankEnd value with
      | false =>
          have htag : (e.showText value).toTag = e.toTag := by simp [toTag_showText, hblank]
          rw [toTag_setAttribute_congr htag]
          simp
      | true =>
          -- The mark is there already, whatever follows.
          have htag : (e.showText value).toTag
              = (e.setAttribute spaceAttribute "preserve").toTag := by
            simp [toTag_showText, hblank]
          rw [toTag_setAttribute_congr htag, setAttribute_setAttribute]
          simp

/-- Texts shown again one after another leave what they left at first. -/
theorem foldl_showText_foldl_showText (values : List String) (e : Element) :
    values.foldl showText (values.foldl showText e) = values.foldl showText e := by
  have htag : (values.foldl showText (values.foldl showText e)).toTag
      = (values.foldl showText e).toTag := by
    rw [toTag_foldl_showText]
    split
    · rename_i hmark
      have hmarked : (values.foldl showText e).toTag
          = (e.setAttribute spaceAttribute "preserve").toTag := by
        rw [toTag_foldl_showText, if_pos hmark]
      rw [toTag_setAttribute_congr hmarked, setAttribute_setAttribute, hmarked]
    · rfl
  have hchildren : (values.foldl showText (values.foldl showText e)).children
      = (values.foldl showText e).children := by
    rw [children_foldl_showText]
    cases hlast : values.getLast? with
    | none => rfl
    | some value =>
        -- What the last text leaves does not depend on what was there before.
        rw [children_foldl_showText, hlast]
        rfl
  exact ext_children htag fun index => by rw [hchildren]

/-! ### Edits that are made again -/

/-- Edits lead to elements, and any two of them to one element or to elements apart. -/
def Separate (e : Element) (edits : List (Path × String)) : Prop :=
  ∀ edit ∈ edits, (∃ x, e.get? edit.1 = some x)
    ∧ ∀ other ∈ edits, other.1 = edit.1 ∨ Apart other.1 edit.1

theorem showAll_showAll {e : Element} {edits : List (Path × String)} (h : e.Separate edits) :
    (e.showAll edits).showAll edits = e.showAll edits := by
  refine eq_of_label?_eq fun path => ?_
  by_cases hedited : ∃ edit ∈ edits, edit.1 <+: path
  · -- In an edited element and below it, all is as the edits at that element leave it.
    obtain ⟨edit, hedit, below, rfl⟩ := hedited
    obtain ⟨⟨x, hx⟩, hothers⟩ := h edit hedit
    have hat : (e.showAll edits).get? edit.1
        = some ((textsAt edits edit.1).foldl showText x) := by
      rw [get?_showAll e hothers, hx, Option.map_some]
    have hagain : ((e.showAll edits).showAll edits).get? edit.1
        = some ((textsAt edits edit.1).foldl showText x) := by
      rw [get?_showAll _ hothers, hat, Option.map_some, foldl_showText_foldl_showText]
    rw [label?_append hat, label?_append hagain]
  · exact label?_showAll _ fun edit hedit hprefix => hedited ⟨edit, hedit, hprefix⟩

end Xml.Element

namespace WordDocument

section Run

variable (functions : Functions) (properties : Properties)

/-- The edits of a flat document are at texts, and no text is inside a text. -/
theorem separate_edits {d : WordDocument} (hflat : d.Flat) :
    d.xml.root.Separate (edits functions properties d d.fields) := by
  intro ⟨path, value⟩ hedit
  obtain ⟨field, -, hpath, -⟩ := (mem_edits_iff functions properties).1 hedit
  obtain ⟨x, hx, hname⟩ := exists_get?_of_valuePath? hpath
  exact ⟨⟨x, hx⟩, eq_or_apart_of_mem_edits functions properties hflat hx hname⟩

/-- Filling in a flat document again, with the same functions and properties, changes nothing and
reports the same. -/
theorem merge_merge {d : WordDocument} (hflat : d.Flat) :
    (d.merge functions properties).1.merge functions properties = d.merge functions properties := by
  rw [merge_of_retexted functions properties hflat (retexted_merge functions properties d),
    merge_eq functions properties hflat]
  dsimp only
  rw [Element.showAll_showAll (separate_edits functions properties hflat)]

end Run

/-- A document in which a field in the code of a field shows its value in the same text, and the
last field shows none. -/
def sharedText : WordDocument :=
  ofParagraph [charRun "begin", codeRun " MERGEFIELD Name ", charRun "begin",
    codeRun " MERGEFIELD City ", charRun "separate", textRun "?", charRun "end", charRun "end",
    charRun "begin", codeRun " MERGEFIELD Street ", charRun "end"]

/-- Two values are written to one text, and the first of them leaves its mark. -/
theorem merge_merge_sharedText :
    sharedText.Flat
      ∧ sharedText.fields.map sharedText.valuePath? = [some [0, 5, 0], some [0, 5, 0], none]
      ∧ ((sharedText.merge builtinFunctions
            (.ofList [("Name", "Ann "), ("City", "Rome")])).1.merge builtinFunctions
            (.ofList [("Name", "Ann "), ("City", "Rome")]))
          = sharedText.merge builtinFunctions (.ofList [("Name", "Ann "), ("City", "Rome")])
      ∧ (sharedText.merge builtinFunctions (.ofList [("Name", "Ann "), ("City", "Rome")])).2
          = [.missingField "Street"]
      ∧ (sharedText.merge builtinFunctions
            (.ofList [("Name", "Ann "), ("City", "Rome")])).1.xml.root.get? [0, 5, 0]
          = some ⟨⟨"w:t", [⟨"xml:space", "preserve"⟩]⟩, [.text "Rome"]⟩ := by
  have hflat : sharedText.Flat := by decide +kernel
  refine ⟨hflat, by decide +kernel, ?_, by decide +kernel, by decide +kernel⟩
  exact merge_merge builtinFunctions (.ofList [("Name", "Ann "), ("City", "Rome")]) hflat

end WordDocument

end MailMerge
