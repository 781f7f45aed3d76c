import MailMerge.Proofs.Field.Plan
import MailMerge.Proofs.Word.Places

/-!
# `MailMerge.Proofs.Word.Fields`: fields while texts change

Filling in changes a document by plain texts only: what it makes of a document is the document
retexted (`Retexted`). The value of a field is then found where it was found at first, if it is
still found (`Retexted.valuePath?`). In a flat document, whose texts and codes hold no elements, it
is found, and fields and codes stay too.

* `apply_change`: filling in a field writes the value of its code, if the code has one.
* `retexted_apply`: a change of a field retexts the document.
* `retexted_merge`: so does filling in.
* `fields_of_retexted`, `code?_of_retexted`, `valuePath?_of_retexted`: what stays in flat documents.
-/

set_option autoImplicit false

namespace MailMerge.WordDocument

open MailMerge.Xml

/-- A document and what it becomes when some of its texts change. -/
structure Retexted (d d' : WordDocument) : Prop where
  nsPrefix_eq : d'.nsPrefix = d.nsPrefix
  prolog_eq : d'.xml.prolog = d.xml.prolog
  epilog_eq : d'.xml.epilog = d.xml.epilog
  root : Element.Retexted d.names.text d.xml.root d'.xml.root

/-! ### Searches depend on the prefix only -/

section Congr

variable {d d' : WordDocument} (h : d'.nsPrefix = d.nsPrefix)

include h

theorem names_congr : d'.names = d.names := congrArg WordNames.ofPrefix h

theorem spotIn?_congr (parent : Element) (field : WordField) :
    d'.spotIn? parent field = d.spotIn? parent field := by
  obtain ⟨xml, nsPrefix⟩ := d
  obtain ⟨xml', nsPrefix'⟩ := d'
  obtain rfl : nsPrefix' = nsPrefix := h
  rfl

theorem codeIn?_congr (parent : Element) (field : WordField) :
    d'.codeIn? parent field = d.codeIn? parent field := by
  obtain ⟨xml, nsPrefix⟩ := d
  obtain ⟨xml', nsPrefix'⟩ := d'
  obtain rfl : nsPrefix' = nsPrefix := h
  rfl

end Congr

namespace Retexted

variable {d d' d'' : WordDocument}

theorem refl (d : WordDocument) : d.Retexted d := ⟨rfl, rfl, rfl, .refl _⟩

theorem trans (h : d.Retexted d') (h' : d'.Retexted d'') : d.Retexted d'' where
  nsPrefix_eq := h'.nsPrefix_eq.trans h.nsPrefix_eq
  prolog_eq := h'.prolog_eq.trans h.prolog_eq
  epilog_eq := h'.epilog_eq.trans h.epilog_eq
  root := h.root.trans (names_congr h.nsPrefix_eq ▸ h'.root)

/-- Where the value of a field is found after texts changed, it was found before. -/
theorem valuePath? (h : d.Retexted d') {field : WordField} {path : Path}
    (hpath : d'.valuePath? field = some path) : d.valuePath? field = some path := by
  rw [valuePath?_eq] at hpath ⊢
  obtain ⟨around, haround, hpath⟩ := Option.bind_eq_some_iff.1 hpath
  obtain ⟨parent', hparent', hpath⟩ := Option.bind_eq_some_iff.1 hpath
  obtain ⟨spot, hspot, rfl⟩ := Option.map_eq_some_iff.1 hpath
  obtain ⟨parent, hparent, hretexted⟩ := h.root.exists_get? hparent'
  rw [spotIn?_congr h.nsPrefix_eq] at hspot
  rw [haround, Option.bind_some, hparent, Option.bind_some, spotIn?_of_retexted hretexted hspot,
    Option.map_some]

end Retexted

/-! ### What filling in does to a field -/

theorem write_eq (d : WordDocument) (field : WordField) (value : String) :
    d.write field value = match d.valuePath? field with
      | none => d
      | some path =>
        { d with xml := { d.xml with root := d.xml.root.modify (·.showText value) path } } := by
  unfold write setValue?
  cases d.valuePath? field <;> rfl

theorem retexted_write (d : WordDocument) (field : WordField) (value : String) :
    d.Retexted (d.write field value) := by
  rw [write_eq]
  cases hpath : d.valuePath? field with
  | none => exact .refl d
  | some path =>
      refine ⟨rfl, rfl, rfl, Element.Retexted.modify (Element.name_showText · value)
        (fun x index => x.childAt?_showText value index) fun x hx => name_of_valuePath? hpath hx⟩

section Values

variable (functions : Functions) (properties : Properties)

/-- The value that a code asks for: that of its expression, formatted. -/
def valueOf? (code : String) : Option String :=
  (Instruction.parse? code).bind fun instruction =>
    (resolve functions properties ⟨0, 0, instruction.name, instruction.modifiers⟩).toOption

/-- What is wrong with a code. -/
def codeErrors (code : String) : List FieldError :=
  (placeholders code).flatMap fun p => faults (resolve functions properties p)

/-- The value that filling in finds for a field. -/
def fieldValue? (d : WordDocument) (field : WordField) : Option String :=
  (d.code? field).bind (valueOf? functions properties)

/-- A number is written as the text it is, like all else. -/
theorem apply_changeOf (d : WordDocument) (field : WordField) (code : String) :
    source.apply d field (source.changeOf functions properties field code)
      = match valueOf? functions properties code with
        | none => d
        | some value => d.write field value := by
  have hplaceholders : source.placeholders field code = placeholders code := rfl
  have hrender : ∀ ps values, source.render code ps values = firstValue values := fun _ _ => rfl
  unfold FieldSource.changeOf valueOf?
  simp only [hplaceholders, hrender]
  unfold placeholders
  cases Instruction.parse? code with
  | none => rfl
  | some instruction =>
      have hplace : resolve functions properties
            ⟨0, Text.byteSize code.toList, instruction.name, instruction.modifiers⟩
          = resolve functions properties ⟨0, 0, instruction.name, instruction.modifiers⟩ := rfl
      simp only [List.map_cons, List.map_nil, hplace, Option.bind_some]
      cases (resolve functions properties ⟨0, 0, instruction.name, instruction.modifiers⟩).toOption
        with
      | none => rfl
      | some value =>
          have hfirst : firstValue [some value] = value := rfl
          simp only [List.all_cons, List.all_nil, Option.isNone_some, Bool.false_and, hfirst,
            Bool.false_eq_true, if_false]
          -- Whether the value is the code itself, a number or any other text, it is written.
          split
          · rfl
          · cases wholeNumber? value <;> rfl

/-- Filling in a field writes the value of its code, if the code has one. The code may be read in
another document. -/
theorem apply_change (d s : WordDocument) (field : WordField) :
    source.apply s field (source.change functions properties d field)
      = match d.fieldValue? functions properties field with
        | none => s
        | some value => s.write field value := by
  have hread : source.read d field = d.code? field := rfl
  unfold FieldSource.change fieldValue?
  rw [hread]
  cases d.code? field with
  | none => rfl
  | some code => exact apply_changeOf functions properties s field code

/-- One step of filling in. -/
theorem mergeField_fst (d : WordDocument) (field : WordField) :
    (source.mergeField functions properties d field).1
      = match d.fieldValue? functions properties field with
        | none => d
        | some value => d.write field value := by
  rw [FieldSource.mergeField_eq]
  exact apply_change functions properties d d field

theorem errors_eq (d : WordDocument) (field : WordField) :
    source.errors functions properties d field
      = (d.code? field).elim [] (codeErrors functions properties) := by
  have hread : source.read d field = d.code? field := rfl
  unfold FieldSource.errors
  rw [hread]
  cases d.code? field <;> rfl

end Values

/-- A change of a field retexts the document. -/
theorem retexted_apply (d : WordDocument) (field : WordField) (c : Change) :
    d.Retexted (source.apply d field c) := by
  cases c with
  | keep => exact .refl d
  | text rendered => exact d.retexted_write field rendered
  | number number rendered => exact d.retexted_write field rendered

theorem retexted_mergeField (functions : Functions) (properties : Properties) (d : WordDocument)
    (field : WordField) : d.Retexted (source.mergeField functions properties d field).1 := by
  rw [FieldSource.mergeField_eq]
  exact d.retexted_apply field _

/-- A run over any fields retexts the document. -/
theorem retexted_mergeEach (functions : Functions) (properties : Properties) (d : WordDocument)
    (fields : List WordField) :
    d.Retexted (source.mergeEach functions properties d fields).1 :=
  source.mergeEach_induction functions properties fields
    (fun s hs field _ c => hs.trans (s.retexted_apply field c)) (.refl d)

theorem retexted_merge (functions : Functions) (properties : Properties) (d : WordDocument) :
    d.Retexted (d.merge functions properties).1 :=
  retexted_mergeEach functions properties d d.fields

/-- An element begins or is the same field, as its field characters and its code stay. -/
theorem fieldAt?_of_retexted {d : WordDocument} {x x' : Element}
    (h : Element.Retexted d.names.text x x') (path : Path) :
    d.names.fieldAt? path x' = d.names.fieldAt? path x := by
  unfold WordNames.fieldAt?
  rw [h.name_eq]
  by_cases hrun : x.name = d.names.run
  · rw [hasFieldChar_of_retexted h hrun]
    -- A run is no simple field.
    have hsimple : x.name ≠ d.names.simpleField := by
      rw [hrun]
      exact fun heq => absurd (qualifiedName_inj.1 heq) (by decide)
    simp [hsimple]
  · by_cases hsimple : x.name = d.names.simpleField
    · rw [attribute?_of_toTag_eq (h.toTag_eq (hsimple ▸ d.simpleField_ne_text))]
      simp [hrun]
    · simp [hrun, hsimple]

/-- A simple field is at the path of an element of its name. -/
theorem name_of_mem_fields {d : WordDocument} {path : Path} {x : Element}
    (hfield : WordField.simple path ∈ d.fields) (hx : d.xml.root.get? path = some x) :
    x.name = d.names.simpleField := by
  unfold fields at hfield
  obtain ⟨⟨path', y⟩, hy, hat⟩ := List.mem_filterMap.1 hfield
  rw [Element.mem_walk_iff] at hy
  dsimp only [WordNames.fieldAt?] at hat
  split at hat
  · cases hat
  · split at hat
    · rename_i hsimple
      cases hat
      rw [hx, Option.some.injEq] at hy
      subst hy
      simpa using (Bool.and_eq_true_iff.1 hsimple).1
    · cases hat

/-! ### Documents with plain texts -/

/-- Texts hold no elements. -/
def PlainTexts (d : WordDocument) : Prop := d.names.PlainTexts d.xml.root

instance (d : WordDocument) : Decidable d.PlainTexts :=
  inferInstanceAs (Decidable (d.names.PlainTexts _))

namespace PlainTexts

variable {d d' : WordDocument} (hplain : d.PlainTexts) (h : d.Retexted d')

include hplain h

/-- The value of a field is found in the same place. -/
theorem valuePath?_eq (field : WordField) : d'.valuePath? field = d.valuePath? field := by
  cases hpath : d.valuePath? field with
  | none =>
      rw [Option.eq_none_iff_forall_ne_some]
      intro path hpath'
      rw [h.valuePath? hpath'] at hpath
      cases hpath
  | some path =>
      rw [WordDocument.valuePath?_eq] at hpath ⊢
      obtain ⟨around, haround, hpath⟩ := Option.bind_eq_some_iff.1 hpath
      obtain ⟨parent, hparent, hpath⟩ := Option.bind_eq_some_iff.1 hpath
      obtain ⟨parent', hparent', hretexted⟩ := hplain.exists_get? h.root hparent
      have hkept := WordNames.PlainTexts.kept (Element.Everywhere.get? hplain hparent) hretexted
      rw [haround, Option.bind_some, hparent', Option.bind_some, spotIn?_congr h.nsPrefix_eq,
        spotIn?_of_kept hkept, hpath]

/-- Fields are the same. -/
theorem fields_eq : d'.fields = d.fields := by
  unfold fields
  rw [hplain.walk_eq h.root, List.filterMap_map, names_congr h.nsPrefix_eq]
  refine List.filterMap_congr ?_
  intro ⟨path, x⟩ hx
  obtain ⟨x', hx', hretexted⟩ := hplain.exists_get? h.root (Element.mem_walk_iff.1 hx)
  show d.names.fieldAt? path ((d'.xml.root.get? path).getD x) = _
  rw [hx', Option.getD_some, fieldAt?_of_retexted hretexted]

/-- The code of a field that was found is the same where it is the same in the element around it. -/
theorem code?_eq {field : WordField} (hfield : field ∈ d.fields)
    (hcode : ∀ beginRun parent parent', field = .complex beginRun →
      d.xml.root.get? beginRun.dropLast = some parent →
      d'.xml.root.get? beginRun.dropLast = some parent' →
      Element.Retexted d.names.text parent parent' →
      d.codeIn? parent' field = d.codeIn? parent field) :
    d'.code? field = d.code? field := by
  rw [WordDocument.code?_eq, WordDocument.code?_eq]
  cases haround : field.around? with
  | none => rfl
  | some around =>
      simp only [Option.bind_some]
      cases hparent : d.xml.root.get? around with
      | none =>
          -- No element comes into being.
          have hnone : d'.xml.root.get? around = none := by
            rw [Option.eq_none_iff_forall_ne_some]
            intro parent' hparent'
            obtain ⟨parent, hsome, -⟩ := h.root.exists_get? hparent'
            rw [hsome] at hparent
            cases hparent
          rw [hnone]
          rfl
      | some parent =>
          obtain ⟨parent', hparent', hretexted⟩ := hplain.exists_get? h.root hparent
          rw [hparent', Option.bind_some, Option.bind_some, codeIn?_congr h.nsPrefix_eq]
          cases field with
          | complex beginRun =>
              obtain ⟨_, -, rfl⟩ := Option.map_eq_some_iff.1 haround
              exact hcode beginRun parent parent' rfl hparent hparent' hretexted
          | simple element =>
              -- The code of a simple field is in its tag, which stays as the element is no text.
              obtain rfl : element = around := Option.some.inj haround
              refine attribute?_of_toTag_eq (hretexted.toTag_eq ?_) _
              rw [name_of_mem_fields hfield hparent]
              exact d.simpleField_ne_text

end PlainTexts

/-! ### Flat documents -/

/-- Texts and codes hold no elements. -/
def Flat (d : WordDocument) : Prop := d.names.Flat d.xml.root

instance (d : WordDocument) : Decidable d.Flat := inferInstanceAs (Decidable (d.names.Flat _))

theorem Flat.plainTexts {d : WordDocument} (h : d.Flat) : d.PlainTexts :=
  WordNames.Flat.plainTexts h

section Flat

variable {d d' : WordDocument} (hflat : d.Flat) (h : d.Retexted d')

include hflat h

/-- The value of a field is found in the same place. -/
theorem valuePath?_of_retexted (field : WordField) : d'.valuePath? field = d.valuePath? field :=
  hflat.plainTexts.valuePath?_eq h field

/-- Fields are the same. -/
theorem fields_of_retexted : d'.fields = d.fields := hflat.plainTexts.fields_eq h

/-- The code of a field that was found is the same. -/
theorem code?_of_retexted {field : WordField} (hfield : field ∈ d.fields) :
    d'.code? field = d.code? field := by
  refine hflat.plainTexts.code?_eq h hfield
    fun beginRun parent parent' heq hparent _ hretexted => ?_
  subst heq
  exact codeIn?_complex_of_retexted (WordNames.Flat.get? hflat hparent) hretexted beginRun

end Flat

end MailMerge.WordDocument
