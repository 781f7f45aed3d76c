import MailMerge.Field.Merge
import Mathlib.Data.List.Basic

/-!
# `MailMerge.Proofs.Field.Plan`: filling in as a plan made beforehand

`FieldSource.mergeFields` reads, changes and reads again: each field is read from the document that
the fields before it left behind. Where a change of one field does not show in the text of another,
all changes can be told from the document as it was at first.

* `Change` is what filling in does to one field, and `change` tells it from the field's text alone.
* `mergeField_eq`: one step applies the change of its field, so what changes keep, a run keeps
  (`mergeEach_induction`).
* `ReadsApart` says that fields do not show each other's changes. It is the invariant of the run:
  `mergeEach_eq` states that the whole run applies the changes planned at the start, one after
  another, and reports the errors planned at the start.
* `Respects.mergeEach_eq`: a change of documents that each step respects commutes with the run.
-/

set_option autoImplicit false

namespace MailMerge

open MailMerge.Number

/-- What filling in does to one field. -/
inductive Change where
  | keep
  | text (rendered : String)
  /-- The text has become a number. -/
  | number (value : Binary64) (rendered : String)

namespace FieldSource

variable {σ φ : Type} (source : FieldSource σ φ) (functions : Functions) (properties : Properties)

/-- The change of a field that reads as `text`. -/
def changeOf (field : φ) (text : String) : Change :=
  let placeholders := source.placeholders field text
  let values := placeholders.map fun p => (resolve functions properties p).toOption
  let rendered := source.render text placeholders values
  if values.all (·.isNone) then .keep
  else if rendered = text then .text rendered
  else
    match wholeNumber? rendered with
    | none => .text rendered
    | some number => .number number rendered

/-- What is wrong with the placeholders of a field that reads as `text`. -/
def errorsOf (field : φ) (text : String) : List FieldError :=
  (source.placeholders field text).flatMap fun p => faults (resolve functions properties p)

/-- The change of a field in a document. -/
def change (s : σ) (field : φ) : Change :=
  match source.read s field with
  | none => .keep
  | some text => source.changeOf functions properties field text

/-- What is wrong with the placeholders of a field in a document. -/
def errors (s : σ) (field : φ) : List FieldError :=
  match source.read s field with
  | none => []
  | some text => source.errorsOf functions properties field text

/-- The document after a change of a field. -/
def apply (s : σ) (field : φ) : Change → σ
  | .keep => s
  | .text rendered => source.write s field rendered
  | .number number rendered =>
    match source.commitNumber s field number with
    | (true, s) => s
    | (false, s) => source.write s field rendered

/-- Filling in one field applies its change and reports its errors. -/
theorem mergeField_eq (s : σ) (field : φ) :
    source.mergeField functions properties s field
      = (source.apply s field (source.change functions properties s field),
          source.errors functions properties s field) := by
  unfold mergeField change errors
  cases source.read s field with
  | none => rfl
  | some text =>
      -- One list of results, from which values and errors are told apart, against two lists.
      simp only [changeOf, errorsOf, List.map_map, List.flatMap_map, Function.comp_def]
      split
      · rfl
      · unfold store
        split
        · rfl
        · cases wholeNumber? _ <;> rfl

/-- What each change of a field keeps, a run over the fields keeps. -/
theorem mergeEach_induction {P : σ → Prop} (fields : List φ)
    (h : ∀ s, P s → ∀ field ∈ fields, ∀ c, P (source.apply s field c)) {s : σ} (hs : P s) :
    P (source.mergeEach functions properties s fields).1 := by
  induction fields generalizing s with
  | nil => exact hs
  | cons field fields ih =>
      have hstep : P (source.mergeField functions properties s field).1 := by
        rw [mergeField_eq]
        exact h s hs field List.mem_cons_self _
      exact ih (fun t ht other hother => h t ht other (List.mem_cons_of_mem _ hother)) hstep

/-- A change of a field does not show in the text of a field apart from it, in documents with an
invariant that changes keep. -/
structure ReadsApart (inv : σ → Prop) (apart : φ → φ → Prop) : Prop where
  inv_apply : ∀ (s : σ) (field : φ) (c : Change), inv s → inv (source.apply s field c)
  read_apply : ∀ (s : σ) (field other : φ) (c : Change), inv s → apart field other →
    source.read (source.apply s field c) other = source.read s other

variable {source}

/-- The plan of a field stays as it is when a field apart from it is changed. -/
theorem ReadsApart.change_apply {inv : σ → Prop} {apart : φ → φ → Prop}
    (h : source.ReadsApart inv apart) {s : σ} (hs : inv s) {field other : φ}
    (hapart : apart field other) (c : Change) :
    source.change functions properties (source.apply s field c) other
        = source.change functions properties s other
      ∧ source.errors functions properties (source.apply s field c) other
        = source.errors functions properties s other := by
  unfold change errors
  rw [h.read_apply s field other c hs hapart]
  exact ⟨rfl, rfl⟩

/-- Filling in fields that are apart from each other applies the changes planned at the start. -/
theorem mergeEach_eq {inv : σ → Prop} {apart : φ → φ → Prop} (h : source.ReadsApart inv apart)
    {fields : List φ} (hfields : fields.Pairwise apart) {s : σ} (hs : inv s) :
    source.mergeEach functions properties s fields
      = (fields.foldl
            (fun t field => source.apply t field (source.change functions properties s field)) s,
          fields.flatMap (source.errors functions properties s)) := by
  induction fields generalizing s with
  | nil => rfl
  | cons field fields ih =>
      obtain ⟨hfield, hrest⟩ := List.pairwise_cons.1 hfields
      let s' := source.apply s field (source.change functions properties s field)
      -- After the step the plan for the remaining fields is still the one made at the start.
      have hplan : ∀ other ∈ fields,
          source.change functions properties s' other = source.change functions properties s other
            ∧ source.errors functions properties s' other
              = source.errors functions properties s other :=
        fun other hother => h.change_apply functions properties hs (hfield other hother) _
      have hrun := ih hrest (h.inv_apply s field (source.change functions properties s field) hs)
      rw [mergeEach, mergeField_eq]
      simp only [hrun]
      refine Prod.ext ?_ ?_
      · exact List.foldl_ext _ _ _ fun t other hother => by rw [(hplan other hother).1]
      · show _ ++ fields.flatMap _ = _
        rw [List.flatMap_cons]
        congr 1
        exact List.flatMap_congr fun other hother => (hplan other hother).2

/-! ### Changes that filling in does not see -/

/-- A change of documents that reading does not see and that commutes with writing, for documents
with an invariant that writing keeps. -/
structure Respects (source : FieldSource σ φ) (inv : σ → Prop) (f : σ → σ) : Prop where
  read_eq : ∀ (s : σ) (field : φ), inv s → source.read (f s) field = source.read s field
  apply_eq : ∀ (s : σ) (field : φ) (c : Change), inv s →
    source.apply (f s) field c = f (source.apply s field c)
  inv_apply : ∀ (s : σ) (field : φ) (c : Change), inv s → inv (source.apply s field c)

/-- Such a change commutes with one step. -/
theorem Respects.mergeField_eq {inv : σ → Prop} {f : σ → σ} (h : source.Respects inv f) {s : σ}
    (hs : inv s) (field : φ) :
    source.mergeField functions properties (f s) field
      = (f (source.mergeField functions properties s field).1,
          (source.mergeField functions properties s field).2) := by
  rw [FieldSource.mergeField_eq, FieldSource.mergeField_eq]
  unfold change errors
  rw [h.read_eq s field hs, h.apply_eq s field _ hs]

/-- Such a change commutes with a run over any fields. -/
theorem Respects.mergeEach_eq {inv : σ → Prop} {f : σ → σ} (h : source.Respects inv f)
    (fields : List φ) {s : σ} (hs : inv s) :
    source.mergeEach functions properties (f s) fields
      = (f (source.mergeEach functions properties s fields).1,
          (source.mergeEach functions properties s fields).2) := by
  induction fields generalizing s with
  | nil => rfl
  | cons field fields ih =>
      have hstep : inv (source.mergeField functions properties s field).1 := by
        rw [FieldSource.mergeField_eq]
        exact h.inv_apply s field _ hs
      rw [mergeEach, mergeEach, h.mergeField_eq functions properties hs]
      dsimp only
      rw [ih hstep]

end FieldSource

end MailMerge
