import MailMerge.Expression.Builtin
import MailMerge.Proofs.Field.Plan
import MailMerge.Proofs.Field.Spans
import Mathlib.Data.List.Forall2

/-!
# `MailMerge.Proofs.Field.Log`: what a run does to its document

A run over the fields of a document writes texts and offers numbers, and each of these actions may
change what is read afterwards. `FieldSource.logged` is a source that keeps a log of them, so that
what a run does and leaves out can be told from the log.

Where no action on a field shows in the text of a later field (`Unaffected`), the log is what the
texts at the start ask for, field by field (`Disciplined`): nothing where no placeholder has a
value; else one offer of a number where the text has become one, and one write unless the offer was
taken. `mergeFields_logged` states this with the document that comes of performing the log and with
the errors.
-/

set_option autoImplicit false

namespace MailMerge

open MailMerge.Number

/-- Something that a run does to its document. -/
inductive Action (φ : Type) where
  | write (field : φ) (text : String)
  /-- A number is offered for a field, and the source takes it or not. -/
  | commit (field : φ) (number : Binary64) (taken : Bool)
deriving DecidableEq, Repr

namespace FieldSource

variable {σ φ : Type}

section Source

variable (source : FieldSource σ φ)

/-- The source over documents with a log of what is done to them. -/
def logged : FieldSource (σ × List (Action φ)) φ where
  locate s := source.locate s.1
  read s := source.read s.1
  placeholders := source.placeholders
  render := source.render
  write s field text := (source.write s.1 field text, s.2 ++ [.write field text])
  commitNumber s field number :=
    let result := source.commitNumber s.1 field number
    (result.1, result.2, s.2 ++ [.commit field number result.1])

/-- Actions performed one after another lead from a document to another, and the source takes the
numbers that are logged as taken. -/
inductive Performs : σ → List (Action φ) → σ → Prop where
  | nil (s : σ) : Performs s [] s
  | write {s t : σ} {field : φ} {text : String} {rest : List (Action φ)}
      (h : Performs (source.write s field text) rest t) :
      Performs s (.write field text :: rest) t
  | commit {s t : σ} {field : φ} {number : Binary64} {rest : List (Action φ)}
      (h : Performs (source.commitNumber s field number).2 rest t) :
      Performs s (.commit field number (source.commitNumber s field number).1 :: rest) t

/-- What is done to one field never shows in the text of another. -/
structure Unaffected (field other : φ) : Prop where
  write : ∀ s text, source.read (source.write s field text) other = source.read s other
  commit : ∀ s number,
    source.read (source.commitNumber s field number).2 other = source.read s other

/-- The actions by which a change is made. -/
def actions (s : σ) (field : φ) : Change → List (Action φ)
  | .keep => []
  | .text rendered => [.write field rendered]
  | .number number rendered =>
    let taken := (source.commitNumber s field number).1
    .commit field number taken :: if taken then [] else [.write field rendered]

/-- The actions by which planned changes are made, field by field. -/
def actionsAlong (plan : φ → Change) (s : σ) : List φ → List (List (Action φ))
  | [] => []
  | field :: fields =>
    source.actions s field (plan field)
      :: actionsAlong plan (source.apply s field (plan field)) fields

end Source

section Source

variable {source : FieldSource σ φ}

theorem Performs.append {s t u : σ} {actions others : List (Action φ)}
    (h : source.Performs s actions t) (h' : source.Performs t others u) :
    source.Performs s (actions ++ others) u := by
  induction h with
  | nil _ => exact h'
  | write _ ih => exact .write (ih h')
  | commit _ ih => exact .commit (ih h')

/-! ### One change -/

/-- A number that is not taken is written as text. -/
theorem apply_number (s : σ) (field : φ) (number : Binary64) (rendered : String) :
    source.apply s field (.number number rendered)
      = if (source.commitNumber s field number).1 then (source.commitNumber s field number).2
        else source.write (source.commitNumber s field number).2 field rendered := by
  simp only [apply]
  cases source.commitNumber s field number with
  | mk taken t => cases taken <;> rfl

theorem performs_actions (s : σ) (field : φ) (c : Change) :
    source.Performs s (source.actions s field c) (source.apply s field c) := by
  cases c with
  | keep => exact .nil s
  | text rendered => exact .write (.nil _)
  | number number rendered =>
      rw [apply_number]
      refine .commit ?_
      split
      · exact .nil _
      · exact .write (.nil _)

/-- The log goes on with the actions of the change. -/
theorem logged_apply (s : σ) (log : List (Action φ)) (field : φ) (c : Change) :
    source.logged.apply (s, log) field c
      = (source.apply s field c, log ++ source.actions s field c) := by
  cases c with
  | keep => exact Prod.ext rfl (List.append_nil log).symm
  | text rendered => rfl
  | number number rendered =>
      have hcommit : source.logged.commitNumber (s, log) field number
          = ((source.commitNumber s field number).1, (source.commitNumber s field number).2,
              log ++ [.commit field number (source.commitNumber s field number).1]) := rfl
      have hwrite (t : σ) (log : List (Action φ)) : source.logged.write (t, log) field rendered
          = (source.write t field rendered, log ++ [.write field rendered]) := rfl
      rw [apply_number, apply_number, hcommit, hwrite, actions]
      cases (source.commitNumber s field number).1 <;> simp

theorem read_apply_of_unaffected {field other : φ} (h : source.Unaffected field other) (s : σ)
    (c : Change) : source.read (source.apply s field c) other = source.read s other := by
  cases c with
  | keep => rfl
  | text rendered => exact h.write s rendered
  | number number rendered =>
      rw [apply_number]
      split
      · exact h.commit s number
      · rw [h.write, h.commit]

theorem readsApart_of_unaffected :
    source.ReadsApart (fun _ => True) source.Unaffected where
  inv_apply _ _ _ h := h
  read_apply s _ _ c _ h := read_apply_of_unaffected h s c

/-- The log of changes does not show either. -/
theorem readsApart_logged :
    source.logged.ReadsApart (fun _ => True) source.Unaffected where
  inv_apply _ _ _ h := h
  read_apply s field other c _ h := by
    rw [logged_apply]
    exact read_apply_of_unaffected h s.1 c

/-! ### Planned changes -/

/-- The log of planned changes, and the document they lead to. -/
theorem foldl_logged_apply (plan : φ → Change) (s : σ) (log : List (Action φ)) (fields : List φ) :
    fields.foldl (fun t field => source.logged.apply t field (plan field)) (s, log)
      = (fields.foldl (fun t field => source.apply t field (plan field)) s,
          log ++ (source.actionsAlong plan s fields).flatten) := by
  induction fields generalizing s log with
  | nil => exact Prod.ext rfl (List.append_nil log).symm
  | cons field fields ih =>
      rw [List.foldl_cons, logged_apply, ih, List.append_assoc]
      rfl

theorem performs_actionsAlong (plan : φ → Change) (s : σ) (fields : List φ) :
    source.Performs s (source.actionsAlong plan s fields).flatten
      (fields.foldl (fun t field => source.apply t field (plan field)) s) := by
  induction fields generalizing s with
  | nil => exact .nil s
  | cons field fields ih => exact (performs_actions s field (plan field)).append (ih _)

/-- What holds of the actions of each change, whatever the document at its turn, holds along the
plan. -/
theorem forall₂_actionsAlong {p : φ → List (Action φ) → Prop} {plan : φ → Change} {fields : List φ}
    (h : ∀ field ∈ fields, ∀ s, p field (source.actions s field (plan field))) (s : σ) :
    List.Forall₂ p fields (source.actionsAlong plan s fields) := by
  induction fields generalizing s with
  | nil => exact .nil
  | cons field fields ih =>
      obtain ⟨hfield, hrest⟩ := List.forall_mem_cons.1 h
      exact .cons (hfield s) (ih hrest _)

end Source

/-! ### The run -/

section Run

variable (functions : Functions) (properties : Properties)

/-- The new text of a field that reads as `text` and has a placeholder with a value: values stand in
the places of the placeholders that have them, and all else is as it was. -/
structure Renders (source : FieldSource σ φ) (s : σ) (field : φ) (text rendered : String) :
    Prop where
  read_eq : source.read s field = some text
  resolved : ∃ p ∈ source.placeholders field text,
    (resolve functions properties p).toOption.isSome
  filled : Placeholder.Filled (fun p => (resolve functions properties p).toOption) 0 text.toList
    (source.placeholders field text) rendered.toList

/-- The actions that the text of a field in a document asks for. -/
inductive Disciplined (source : FieldSource σ φ) (s : σ) (field : φ) : List (Action φ) → Prop where
  | unread (h : source.read s field = none) : Disciplined source s field []
  /-- There is no placeholder with a value, or no placeholder. -/
  | unresolved {text : String} (hread : source.read s field = some text)
      (h : ∀ p ∈ source.placeholders field text,
        (resolve functions properties p).toOption = none) :
      Disciplined source s field []
  | text {text rendered : String} (h : Renders functions properties source s field text rendered)
      (hnumber : rendered = text ∨ wholeNumber? rendered = none) :
      Disciplined source s field [.write field rendered]
  | number {text rendered : String} {number : Binary64}
      (h : Renders functions properties source s field text rendered) (hne : rendered ≠ text)
      (hnumber : wholeNumber? rendered = some number) (taken : Bool) :
      Disciplined source s field
        (.commit field number taken :: if taken then [] else [.write field rendered])

variable {source : FieldSource σ φ}

/-- A field is filled in as its text at the start asks for, whatever the document at its turn. -/
theorem disciplined_actions (hrender : source.render = Placeholder.substitute) {s : σ} {field : φ}
    (hspans : ∀ text, source.read s field = some text →
      Placeholder.InOrder text (source.placeholders field text)) (t : σ) :
    Disciplined functions properties source s field
      (source.actions t field (source.change functions properties s field)) := by
  unfold change
  cases hread : source.read s field with
  | none => exact .unread hread
  | some text =>
      have hfilled := Placeholder.filled_substitute
        (fun p => (resolve functions properties p).toOption) (hspans text hread)
      dsimp only [changeOf]
      rw [hrender]
      generalize hrendered : Placeholder.substitute text (source.placeholders field text)
        ((source.placeholders field text).map fun p => (resolve functions properties p).toOption)
        = rendered at hfilled ⊢
      rw [List.all_map]
      by_cases hnone : ∀ p ∈ source.placeholders field text,
          (resolve functions properties p).toOption = none
      · rw [if_pos (by simpa using hnone)]
        exact .unresolved hread hnone
      · have hsome : ∃ p ∈ source.placeholders field text,
            (resolve functions properties p).toOption.isSome := by
          simpa [Option.isSome_iff_ne_none] using hnone
        have hrenders : Renders functions properties source s field text rendered :=
          ⟨hread, hsome, hfilled⟩
        rw [if_neg (by simpa using hnone)]
        by_cases hsame : rendered = text
        · rw [if_pos hsame]
          exact .text hrenders (Or.inl hsame)
        · rw [if_neg hsame]
          cases hnumber : wholeNumber? rendered with
          | none => exact .text hrenders (Or.inr hnumber)
          | some number => exact .number hrenders hsame hnumber _

/-- Where placeholders stand in order and what is done to a field does not show in the text of a
later one, a run does what the texts at the start ask for, field by field, and nothing else. It
reports what is wrong with the placeholders of these texts, also of those that nothing is written
to. -/
theorem mergeFields_logged {s : σ} (hrender : source.render = Placeholder.substitute)
    (hreads : (source.locate s).Pairwise source.Unaffected)
    (hspans : ∀ field ∈ source.locate s, ∀ text, source.read s field = some text →
      Placeholder.InOrder text (source.placeholders field text)) :
    ∃ actions : List (List (Action φ)),
      source.logged.mergeFields functions properties (s, [])
          = (((source.mergeFields functions properties s).1, actions.flatten),
              (source.mergeFields functions properties s).2)
        ∧ source.Performs s actions.flatten (source.mergeFields functions properties s).1
        ∧ List.Forall₂ (Disciplined functions properties source s) (source.locate s) actions
        ∧ (source.mergeFields functions properties s).2
          = (source.locate s).flatMap fun field =>
              ((source.read s field).elim [] (source.placeholders field)).flatMap fun p =>
                faults (resolve functions properties p) := by
  let plan := source.change functions properties s
  have hrun : source.mergeFields functions properties s
      = ((source.locate s).foldl (fun t field => source.apply t field (plan field)) s,
          (source.locate s).flatMap (source.errors functions properties s)) :=
    mergeEach_eq functions properties readsApart_of_unaffected hreads trivial
  -- To the source that keeps the log the same plan comes, since it reads what the source reads.
  have hlogged : source.logged.mergeFields functions properties (s, [])
      = ((source.locate s).foldl (fun t field => source.logged.apply t field (plan field)) (s, []),
          (source.locate s).flatMap (source.errors functions properties s)) :=
    mergeEach_eq functions properties readsApart_logged hreads trivial
  refine ⟨source.actionsAlong plan s (source.locate s), ?_, ?_, ?_, ?_⟩
  · rw [hlogged, hrun, foldl_logged_apply]
    rfl
  · rw [hrun]
    exact performs_actionsAlong plan s (source.locate s)
  · exact forall₂_actionsAlong
      (fun field hfield t => disciplined_actions functions properties hrender (hspans field hfield) t)
      s
  · rw [hrun]
    refine List.flatMap_congr fun field _ => ?_
    unfold errors
    cases source.read s field <;> rfl

end Run

/-- Lines of text as fields, of which the first alone takes numbers. -/
def lines : FieldSource (List String) Nat where
  locate s := List.range s.length
  read s line := s[line]?
  placeholders _ := Placeholder.findBracketed
  write s line text := s.set line text
  commitNumber s line _ := if line = 0 then (true, s.set line "#") else (false, s)

theorem unaffected_lines {line other : Nat} (h : line ≠ other) : lines.Unaffected line other where
  write s text := List.getElem?_set_ne h
  commit s number := by
    by_cases hline : line = 0
    · simp only [lines, if_pos hline]
      exact List.getElem?_set_ne h
    · simp only [lines, if_neg hline]

theorem mergeFields_logged_lines :
    let properties : Properties := .ofList [("Count", "12"), ("Name", "Ann")]
    let letter := ["[[Count]]", "[[Count]] ", "Dear [[Name]], [[Sum]]", "[[Sum]]", "Bye"]
    let run := lines.mergeFields builtinFunctions properties letter
    lines.render = Placeholder.substitute
      ∧ (lines.locate letter).Pairwise lines.Unaffected
      ∧ (∀ line ∈ lines.locate letter, ∀ text, lines.read letter line = some text →
          Placeholder.InOrder text (lines.placeholders line text))
      ∧ ∃ actions : List (List (Action Nat)),
          lines.logged.mergeFields builtinFunctions properties (letter, [])
              = ((run.1, actions.flatten), run.2)
            ∧ lines.Performs letter actions.flatten run.1
            ∧ List.Forall₂ (Disciplined builtinFunctions properties lines letter)
              (lines.locate letter) actions
            ∧ run.2 = (lines.locate letter).flatMap fun line =>
                ((lines.read letter line).elim [] (lines.placeholders line)).flatMap fun p =>
                  faults (resolve builtinFunctions properties p) := by
  intro properties letter run
  have hapart : (lines.locate letter).Pairwise lines.Unaffected :=
    List.nodup_range.imp unaffected_lines
  have hspans : ∀ line ∈ lines.locate letter, ∀ text, lines.read letter line = some text →
      Placeholder.InOrder text (lines.placeholders line text) :=
    fun _ _ text _ => Placeholder.inOrder_findBracketed text
  exact ⟨rfl, hapart, hspans, mergeFields_logged builtinFunctions properties rfl hapart hspans⟩

example :
    (lines.logged.mergeFields builtinFunctions (.ofList [("Count", "12"), ("Name", "Ann")])
        (["[[Count]]", "[[Count]] ", "Dear [[Name]], [[Sum]]", "[[Sum]]", "Bye"], [])).1.2
      = [.commit 0 (.finite false (3 * 2 ^ 51) (-49)) true,
          .commit 1 (.finite false (3 * 2 ^ 51) (-49)) false, .write 1 "12 ",
          .write 2 "Dear Ann, [[Sum]]"] := by
  decide +kernel

end FieldSource

end MailMerge
