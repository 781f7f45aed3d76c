import MailMerge.Expression.Builtin
import MailMerge.Proofs.Word.Fields
import Mathlib.Data.List.Induction
import Mathlib.Data.List.Pairwise

/-!
# `MailMerge.Proofs.Word.Merge`: what filling in makes of a flat document

In a flat document, whose texts and codes hold no elements, no field sees what was written for the
fields before it. Filling in is then a list of edits that is told from the document at the start
(`edits`). Where fields show their values in different texts, the edits do not meet, so each text
shows the value of its own field (`merge_of_flat`).
-/

set_option autoImplicit false

namespace MailMerge

open MailMerge.Xml

/-! ### Edits of texts -/

namespace Xml.Element

/-- The tree in which the elements at some paths show new texts. -/
def showAll (e : Element) (edits : List (Path × String)) : Element :=
  edits.foldl (fun e (path, value) => e.modify (·.showText value) path) e

/-- Labels that are not at or below an edit stay. -/
theorem label?_showAll (e : Element) {edits : List (Path × String)} {path : Path}
    (h : ∀ edit ∈ edits, ¬ edit.1 <+: path) : (e.showAll edits).label? path = e.label? path := by
  induction edits generalizing e with
  | nil => rfl
  | cons edit edits ih =>
      show (showAll (e.modify (·.showText edit.2) edit.1) edits).label? path = _
      rw [ih _ fun other hother => h other (List.mem_cons_of_mem _ hother),
        label?_modify _ _ (h edit List.mem_cons_self)]

/-- Neither of two paths leads to the other's element or around it. -/
def Apart (path other : Path) : Prop := ¬ path <+: other ∧ ¬ other <+: path

/-- The texts that edits have for a path, in order. -/
def textsAt (edits : List (Path × String)) (path : Path) : List String :=
  edits.filterMap fun edit => if edit.1 = path then some edit.2 else none

theorem mem_textsAt_iff {edits : List (Path × String)} {path : Path} {value : String} :
    value ∈ textsAt edits path ↔ (path, value) ∈ edits := by
  unfold textsAt
  simp only [List.mem_filterMap, Option.ite_none_right_eq_some, Option.some.injEq, Prod.exists]
  constructor
  · rintro ⟨_, _, hmem, rfl, rfl⟩
    exact hmem
  · intro hmem
    exact ⟨path, value, hmem, rfl, rfl⟩

/-- Where no edit is around or below a path but at it, what is seen there is what the edits at it
made, one after another. -/
theorem get?_showAll (e : Element) {edits : List (Path × String)} {path : Path}
    (h : ∀ edit ∈ edits, edit.1 = path ∨ Apart edit.1 path) :
    (e.showAll edits).get? path
      = (e.get? path).map fun x => (textsAt edits path).foldl Element.showText x := by
  induction edits generalizing e with
  | nil =>
      show e.get? path = _
      cases e.get? path <;> rfl
  | cons edit edits ih =>
      have hrest := ih (e.modify (·.showText edit.2) edit.1) fun other hother =>
        h other (List.mem_cons_of_mem _ hother)
      show (showAll (e.modify (·.showText edit.2) edit.1) edits).get? path = _
      rw [hrest]
      unfold textsAt
      rw [List.filterMap_cons]
      by_cases hat : edit.1 = path
      · subst hat
        rw [get?_modify_self, Option.map_map, if_pos rfl]
        rfl
      · -- An edit apart from the path is not seen there.
        obtain ⟨hbefore, hbehind⟩ := (h edit List.mem_cons_self).resolve_left hat
        rw [get?_modify_of_apart _ _ hbefore hbehind, if_neg hat]

/-- Of texts shown one after another the last stays. -/
theorem children_foldl_showText (e : Element) (values : List String) :
    (values.foldl Element.showText e).children
      = values.getLast?.elim e.children fun value => (e.setText value).children := by
  induction values using List.reverseRecOn with
  | nil => rfl
  | append_singleton values value _ =>
      rw [List.foldl_append, List.getLast?_concat]
      show ((values.foldl Element.showText e).showText value).children = _
      unfold Element.showText
      split <;> rfl

theorem textsAt_eq_nil {edits : List (Path × String)} {path : Path}
    (h : ∀ edit ∈ edits, edit.1 ≠ path) : textsAt edits path = [] := by
  unfold textsAt
  rw [List.filterMap_eq_nil_iff]
  exact fun edit hedit => if_neg (h edit hedit)

/-- Of edits at different paths one is at its path. -/
theorem textsAt_eq_singleton {edits : List (Path × String)} (hnodup : (edits.map (·.1)).Nodup)
    {path : Path} {value : String} (h : (path, value) ∈ edits) :
    textsAt edits path = [value] := by
  induction edits with
  | nil => cases h
  | cons edit edits ih =>
      obtain ⟨hfresh, hrest⟩ := List.nodup_cons.1 hnodup
      unfold textsAt at ih ⊢
      rw [List.filterMap_cons]
      rcases List.mem_cons.1 h with rfl | hmem
      · have hnone : textsAt edits path = [] := textsAt_eq_nil fun other hother heq =>
          hfresh (List.mem_map.2 ⟨other, hother, heq⟩)
        unfold textsAt at hnone
        rw [if_pos rfl, hnone]
      · have hne : edit.1 ≠ path := fun heq => hfresh (List.mem_map.2 ⟨_, hmem, heq.symm⟩)
        rw [if_neg hne]
        exact ih hrest hmem

end Xml.Element

namespace WordDocument

/-! ### The run -/

section Run

variable (functions : Functions) (properties : Properties)

/-- The texts that the listed fields get, as planned from a document, with the paths to them. -/
def edits (d : WordDocument) (fields : List WordField) : List (Path × String) :=
  fields.filterMap fun field =>
    (d.valuePath? field).bind fun path =>
      (d.fieldValue? functions properties field).map fun value => (path, value)

/-- Fields of a flat document do not show each other's changes. -/
theorem readsApart {d : WordDocument} (hflat : d.Flat) :
    source.ReadsApart (fun s => d.Retexted s) fun _ other => other ∈ d.fields where
  inv_apply s field c h := h.trans (s.retexted_apply field c)
  read_apply s field other c h hother := by
    show (source.apply s field c).code? other = s.code? other
    rw [code?_of_retexted hflat (h.trans (s.retexted_apply field c)) hother,
      code?_of_retexted hflat h hother]

/-- Changes planned from a flat document, made one after another, are its edits. -/
theorem foldl_apply {d : WordDocument} (hflat : d.Flat) {s : WordDocument} (h : d.Retexted s)
    (fields : List WordField) :
    fields.foldl (fun t field =>
        source.apply t field (source.change functions properties d field)) s
      = { s with xml := { s.xml with
          root := s.xml.root.showAll (edits functions properties d fields) } } := by
  induction fields generalizing s with
  | nil => rfl
  | cons field fields ih =>
      -- The step retexts the document, so the paths of later fields are those at the start.
      have hstep := s.retexted_apply field (source.change functions properties d field)
      rw [List.foldl_cons, ih (h.trans hstep), apply_change]
      unfold edits
      rw [List.filterMap_cons]
      cases d.fieldValue? functions properties field with
      | none => simp
      | some value =>
          simp only [write_eq, valuePath?_of_retexted hflat h, Option.map_some]
          cases d.valuePath? field with
          | none => rfl
          | some path => rfl

/-- What becomes of a flat document when texts of it change is filled in by the edits of the flat
document, and what is wrong with its codes is reported: it has the same fields, codes and places of
values. -/
theorem merge_of_retexted {d s : WordDocument} (hflat : d.Flat) (h : d.Retexted s) :
    s.merge functions properties
      = ({ s with xml := { s.xml with
            root := s.xml.root.showAll (edits functions properties d d.fields) } },
          d.fields.flatMap fun field =>
            (d.code? field).elim [] (codeErrors functions properties)) := by
  have hapart : d.fields.Pairwise fun _ other => other ∈ d.fields :=
    List.pairwise_of_forall_mem_list fun _ _ _ hother => hother
  have hread : ∀ field ∈ d.fields, source.read s field = source.read d field := fun _ hfield =>
    code?_of_retexted hflat h hfield
  have hchange : ∀ field ∈ d.fields, source.change functions properties s field
      = source.change functions properties d field := fun field hfield => by
    unfold FieldSource.change
    rw [hread field hfield]
  show source.mergeEach functions properties s s.fields = _
  rw [fields_of_retexted hflat h,
    FieldSource.mergeEach_eq functions properties (readsApart hflat) hapart h,
    List.foldl_ext _ _ _ fun t field hfield => by rw [hchange field hfield],
    foldl_apply functions properties hflat h]
  refine Prod.ext rfl (List.flatMap_congr fun field hfield => ?_)
  rw [errors_eq, code?_of_retexted hflat h hfield]

/-- Filling in a flat document is its edits, and reports what is wrong with its codes. -/
theorem merge_eq {d : WordDocument} (hflat : d.Flat) :
    d.merge functions properties
      = ({ d with xml := { d.xml with
            root := d.xml.root.showAll (edits functions properties d d.fields) } },
          d.fields.flatMap fun field =>
            (d.code? field).elim [] (codeErrors functions properties)) :=
  merge_of_retexted functions properties hflat (.refl d)

/-- The value that a code asks for: that of the expression it names, formatted. -/
def CodeValue (code value : String) : Prop :=
  ∃ instruction e text, Instruction.parse? code = some instruction
    ∧ Expression.parse functions instruction.name = .ok e
    ∧ e.missing properties = []
    ∧ e.evaluate functions properties = .ok text
    ∧ value = applyFormat text instruction.modifiers

theorem valueOf?_eq_some_iff {code value : String} :
    valueOf? functions properties code = some value
      ↔ CodeValue functions properties code value := by
  have hresolve : ∀ p : Placeholder, (resolve functions properties p).toOption = some value
      ↔ ∃ e text, Expression.parse functions p.expression = .ok e ∧ e.missing properties = []
        ∧ e.evaluate functions properties = .ok text ∧ value = applyFormat text p.modifiers := by
    intro p
    unfold resolve
    cases Expression.parse functions p.expression with
    | error _ => simp [Except.toOption]
    | ok e =>
        cases hmissing : e.missing properties with
        | cons name names => simp [Except.toOption, hmissing]
        | nil =>
            cases heval : e.evaluate functions properties with
            | error _ => simp [Except.toOption, hmissing, heval]
            | ok text => simp [Except.toOption, hmissing, heval, @eq_comm _ value]
  unfold valueOf? CodeValue
  rw [Option.bind_eq_some_iff]
  simp only [hresolve]
  constructor
  · intro ⟨instruction, hparse, e, text, h⟩
    exact ⟨instruction, e, text, hparse, h⟩
  · intro ⟨instruction, e, text, hparse, h⟩
    exact ⟨instruction, hparse, e, text, h⟩

theorem mem_edits_iff {d : WordDocument} {fields : List WordField} {path : Path} {value : String} :
    (path, value) ∈ edits functions properties d fields
      ↔ ∃ field ∈ fields, d.valuePath? field = some path
          ∧ d.fieldValue? functions properties field = some value := by
  unfold edits
  rw [List.mem_filterMap]
  refine exists_congr fun field => and_congr_right fun _ => ?_
  simp only [Option.bind_eq_some_iff, Option.map_eq_some_iff, Prod.mk.injEq]
  constructor
  · rintro ⟨path', hpath, value', hvalue, rfl, rfl⟩
    exact ⟨hpath, hvalue⟩
  · intro ⟨hpath, hvalue⟩
    exact ⟨path, hpath, value, hvalue, rfl, rfl⟩

/-- The edited paths are among those of the values, in the same order. -/
theorem sublist_edits (d : WordDocument) (fields : List WordField) :
    ((edits functions properties d fields).map (·.1)).Sublist (fields.filterMap d.valuePath?) := by
  induction fields with
  | nil => exact .slnil
  | cons field fields ih =>
      unfold edits at ih ⊢
      rw [List.filterMap_cons, List.filterMap_cons]
      cases d.valuePath? field with
      | none => exact ih
      | some path =>
          cases d.fieldValue? functions properties field with
          | none => exact ih.cons path
          | some value => exact ih.cons_cons path

variable {functions properties}

/-- Two texts of a flat document at different paths are apart, as no text is inside a text. -/
theorem apart_of_flat {d : WordDocument} (hflat : d.Flat) {path other : Path} {x y : Element}
    (hx : d.xml.root.get? path = some x) (hxname : x.name = d.names.text)
    (hy : d.xml.root.get? other = some y) (hyname : y.name = d.names.text) (hne : path ≠ other) :
    Element.Apart path other :=
  ⟨hflat.plainTexts.not_prefix hx hxname hy hne, hflat.plainTexts.not_prefix hy hyname hx hne.symm⟩

/-- A text shows the value of one field only. -/
theorem field_eq_of_valuePath? {d : WordDocument}
    (hdistinct : (d.fields.filterMap d.valuePath?).Nodup) {field other : WordField}
    (hfield : field ∈ d.fields) (hother : other ∈ d.fields) {path : Path}
    (hpath : d.valuePath? field = some path) (hpath' : d.valuePath? other = some path) :
    field = other := by
  by_contra hne
  have hpairwise := List.pairwise_filterMap.1 hdistinct
  have hsymm : Std.Symm fun a b : WordField => ∀ p, d.valuePath? a = some p →
      ∀ p', d.valuePath? b = some p' → p ≠ p' := ⟨fun a b h p hp p' hp' => (h p' hp' p hp).symm⟩
  exact hpairwise.forall hfield hother hne path hpath path hpath' rfl

variable (functions properties)

/-- Edits of a flat document are at a text or apart from it. -/
theorem eq_or_apart_of_mem_edits {d : WordDocument} (hflat : d.Flat) {path : Path} {x : Element}
    (hx : d.xml.root.get? path = some x) (hname : x.name = d.names.text) :
    ∀ edit ∈ edits functions properties d d.fields,
      edit.1 = path ∨ Element.Apart edit.1 path := by
  intro ⟨other, value⟩ hother
  obtain ⟨field, -, hother, -⟩ := (mem_edits_iff functions properties).1 hother
  obtain ⟨y, hy, hyname⟩ := exists_get?_of_valuePath? hother
  by_cases heq : other = path
  · exact Or.inl heq
  · exact Or.inr (apart_of_flat hflat hy hyname hx hname heq)

/-- After filling in, a text of a flat document shows what the edits have for it, in order. -/
theorem get?_merge {d : WordDocument} (hflat : d.Flat) {path : Path} {x : Element}
    (hx : d.xml.root.get? path = some x) (hname : x.name = d.names.text) :
    (d.merge functions properties).1.xml.root.get? path
      = some ((Element.textsAt (edits functions properties d d.fields) path).foldl
          Element.showText x) := by
  rw [merge_eq functions properties hflat]
  show (d.xml.root.showAll _).get? path = _
  rw [Element.get?_showAll _ (eq_or_apart_of_mem_edits functions properties hflat hx hname), hx]
  rfl

/-- What filling in makes of a document. The text of a field whose code has a value shows the value,
and white space at its ends is kept. All other labels of the tree stay, so that an element that is
not around such a text is as it was. -/
structure Filled (d d' : WordDocument) : Prop where
  nsPrefix_eq : d'.nsPrefix = d.nsPrefix
  prolog_eq : d'.xml.prolog = d.xml.prolog
  epilog_eq : d'.xml.epilog = d.xml.epilog
  fields_eq : d'.fields = d.fields
  value : ∀ field ∈ d.fields, ∀ (code value : String) (path : Path) (x : Element),
    d.code? field = some code → CodeValue functions properties code value →
    d.valuePath? field = some path → d.xml.root.get? path = some x →
    d'.valuePath? field = some path ∧ d'.value? field = some value
      ∧ d'.xml.root.get? path = some (x.showText value)
      ∧ (Text.hasBlankEnd value = true →
          (x.showText value).attribute? Element.spaceAttribute = some "preserve")
  kept : ∀ field ∈ d.fields, ∀ path, d.valuePath? field = some path →
    (∀ code value, d.code? field = some code → ¬ CodeValue functions properties code value) →
    d'.valuePath? field = some path ∧ d'.xml.root.get? path = d.xml.root.get? path
  label? : ∀ path,
    (∀ field ∈ d.fields, ∀ code value written, d.code? field = some code →
      CodeValue functions properties code value → d.valuePath? field = some written →
      ¬ written <+: path) →
    d'.xml.root.label? path = d.xml.root.label? path

theorem attribute?_showText (e : Element) {value : String} (h : Text.hasBlankEnd value = true) :
    (e.showText value).attribute? Element.spaceAttribute = some "preserve" := by
  unfold Element.showText
  rw [if_pos h, Element.attribute?_setAttribute]

theorem fieldValue?_eq_some_iff {d : WordDocument} {field : WordField} {value : String} :
    d.fieldValue? functions properties field = some value
      ↔ ∃ code, d.code? field = some code ∧ CodeValue functions properties code value := by
  unfold fieldValue?
  rw [Option.bind_eq_some_iff]
  simp only [valueOf?_eq_some_iff]

/-- Filling in a flat document whose fields show their values in different texts gives each text the
value of its field and changes nothing else. It reports what is wrong with the codes at the start,
field by field. -/
theorem merge_of_flat {d : WordDocument} (hflat : d.Flat)
    (hdistinct : (d.fields.filterMap d.valuePath?).Nodup) :
    Filled functions properties d (d.merge functions properties).1
      ∧ (d.merge functions properties).2 = d.fields.flatMap fun field =>
          (d.code? field).elim [] fun code =>
            (placeholders code).flatMap fun p => faults (resolve functions properties p) := by
  have hretexted := retexted_merge functions properties d
  have hnodup := hdistinct.sublist (sublist_edits functions properties d d.fields)
  refine ⟨?_, by rw [merge_eq functions properties hflat]; rfl⟩
  refine ⟨hretexted.nsPrefix_eq, hretexted.prolog_eq, hretexted.epilog_eq,
    fields_of_retexted hflat hretexted, ?_, ?_, ?_⟩
  · -- The field's edit is the only one at its text.
    intro field hfield code value path x hcode hvalue hpath hx
    have hmem : (path, value) ∈ edits functions properties d d.fields :=
      (mem_edits_iff functions properties).2 ⟨field, hfield, hpath,
        (fieldValue?_eq_some_iff functions properties).2 ⟨code, hcode, hvalue⟩⟩
    have hat : (d.merge functions properties).1.xml.root.get? path = some (x.showText value) := by
      have hname := name_of_valuePath? hpath hx
      rw [get?_merge functions properties hflat hx hname,
        Element.textsAt_eq_singleton hnodup hmem]
      rfl
    have hpath' := (valuePath?_of_retexted hflat hretexted field).trans hpath
    refine ⟨hpath', ?_, hat, attribute?_showText x⟩
    unfold value?
    rw [hpath', Option.bind_some, hat, Option.map_some, Element.text_showText]
  · -- An edit at the text of a field would be the field's own.
    intro field hfield path hpath hnone
    refine ⟨(valuePath?_of_retexted hflat hretexted field).trans hpath, ?_⟩
    obtain ⟨y, hy, hname⟩ := exists_get?_of_valuePath? hpath
    rw [get?_merge functions properties hflat hy hname, hy, Element.textsAt_eq_nil]
    · rfl
    · rintro ⟨other, value⟩ hother rfl
      obtain ⟨field', hfield', hpath', hvalue⟩ := (mem_edits_iff functions properties).1 hother
      obtain rfl := field_eq_of_valuePath? hdistinct hfield hfield' hpath hpath'
      obtain ⟨code, hcode, hvalue⟩ := (fieldValue?_eq_some_iff functions properties).1 hvalue
      exact hnone code value hcode hvalue
  · -- Every edit is the text of a field whose code has a value.
    intro path hpath
    rw [merge_eq functions properties hflat]
    refine Element.label?_showAll _ ?_
    intro ⟨written, value⟩ hwritten
    obtain ⟨field, hfield, hat, hvalue⟩ := (mem_edits_iff functions properties).1 hwritten
    obtain ⟨code, hcode, hvalue⟩ := (fieldValue?_eq_some_iff functions properties).1 hvalue
    exact hpath field hfield code value written hcode hvalue hat

end Run

/-! ### A letter -/

/-- A run with a field character. -/
def charRun (kind : String) : Node :=
  .element ⟨"w:r", []⟩ [.element ⟨"w:fldChar", [⟨"w:fldCharType", kind⟩]⟩ []]

/-- A run with the code of a field. -/
def codeRun (code : String) : Node :=
  .element ⟨"w:r", []⟩ [.element ⟨"w:instrText", []⟩ [.text code]]

/-- A run with a text. -/
def textRun (text : String) : Node := .element ⟨"w:r", []⟩ [.element ⟨"w:t", []⟩ [.text text]]

/-- A document of one paragraph. -/
def ofParagraph (nodes : List Node) : WordDocument :=
  ⟨⟨[], ⟨⟨"w:body", []⟩, [.element ⟨"w:p", []⟩ nodes]⟩, []⟩, "w"⟩

/-- A letter with a complex field and a simple one. -/
def letter : WordDocument :=
  ofParagraph [charRun "begin", codeRun " MERGEFIELD Name ", charRun "separate", textRun "?",
    charRun "end", .element ⟨"w:fldSimple", [⟨"w:instr", " MERGEFIELD City "⟩]⟩ [textRun "?"]]

/-- In the letter the name is filled in, and the city is reported. -/
theorem merge_of_flat_letter :
    letter.Flat ∧ (letter.fields.filterMap letter.valuePath?).Nodup
      ∧ Filled builtinFunctions (.ofList [("Name", "Ann ")]) letter
          (letter.merge builtinFunctions (.ofList [("Name", "Ann ")])).1
      ∧ (letter.merge builtinFunctions (.ofList [("Name", "Ann ")])).2
          = [.missingField "City"] := by
  have hflat : letter.Flat := by decide +kernel
  have hdistinct : (letter.fields.filterMap letter.valuePath?).Nodup := by decide +kernel
  obtain ⟨hfilled, herrors⟩ :=
    merge_of_flat builtinFunctions (.ofList [("Name", "Ann ")]) hflat hdistinct
  refine ⟨hflat, hdistinct, hfilled, herrors.trans ?_⟩
  decide +kernel

end WordDocument

end MailMerge
