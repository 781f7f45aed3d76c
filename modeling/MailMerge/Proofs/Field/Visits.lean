import MailMerge.Proofs.Expression.Dependence
import MailMerge.Proofs.Field.Plan
import Mathlib.Data.List.Forall2

/-!
# `MailMerge.Proofs.Field.Visits`: the placeholders that a run comes to

Filling in reads each field when its turn comes, in a document that holds what was written for the
fields before it. `visits` lists the placeholders that a run finds in this way, and what becomes of
each. Where fields do not show each other's changes these are the placeholders that were there
before the run (`ReadsApart.visitsOccurrences`): nothing that is written is read again. Two runs
over one document can then be compared placeholder by placeholder, however far the documents in
between diverge.

* `mergeFields_snd`: a run reports what is wrong with the placeholders it comes to.
* `VisitsOccurrences.supplied`: a run with more values against one with fewer.
* `VisitsOccurrences.sameReport`: a run with other values and functions of other bodies.
-/

set_option autoImplicit false

namespace MailMerge

/-! ### What becomes of one placeholder -/

/-- Whether an error is still one when properties have values. -/
def FieldError.remains (properties : Properties) : FieldError → Bool
  | .invalidExpression _ => true
  | .missingField name => !properties.contains name

/-- What is wrong with a placeholder is told without its value. -/
theorem faults_resolve (functions : Functions) (properties : Properties) (p : Placeholder) :
    faults (resolve functions properties p) = match Expression.parse functions p.expression with
      | .error _ => [.invalidExpression p.expression]
      | .ok e => (e.missing properties).map .missingField := by
  unfold resolve
  cases Expression.parse functions p.expression with
  | error fault => rfl
  | ok e =>
      cases hmissing : e.missing properties with
      | cons name names => simp [faults, hmissing]
      | nil => cases heval : e.evaluate functions properties <;> simp [faults, hmissing, heval]

theorem resolve_of_parse_eq_error {functions : Functions} (properties : Properties)
    {p : Placeholder} {fault : ParseError}
    (h : Expression.parse functions p.expression = .error fault) :
    resolve functions properties p = .error [.invalidExpression p.expression] := by
  unfold resolve
  rw [h]

section MoreValues

variable (functions : Functions) {properties properties' : Properties}
  (h : properties.IncludedIn properties')

include h

/-- A formatted value stays when more properties get values. -/
theorem resolve_of_includedIn {p : Placeholder} {value : String}
    (hvalue : resolve functions properties p = .ok value) :
    resolve functions properties' p = .ok value := by
  unfold resolve at hvalue ⊢
  cases hparse : Expression.parse functions p.expression with
  | error fault => simp [hparse] at hvalue
  | ok e =>
      rw [hparse] at hvalue
      cases hmissing : e.missing properties with
      | cons name names => simp [hmissing] at hvalue
      | nil =>
          cases heval : e.evaluate functions properties with
          | error fault => simp [hmissing, heval] at hvalue
          | ok text =>
              have hmissing' : e.missing properties' = [] := by
                rw [Expression.missing_of_includedIn h, hmissing, List.filter_nil]
              simp only [hmissing, heval] at hvalue
              simp only [hmissing', Expression.evaluate_of_includedIn functions h e heval, hvalue]

/-- Of what is wrong with a placeholder the names that get values are left out. -/
theorem faults_resolve_of_includedIn (p : Placeholder) :
    faults (resolve functions properties' p)
      = (faults (resolve functions properties p)).filter (·.remains properties') := by
  rw [faults_resolve, faults_resolve]
  cases Expression.parse functions p.expression with
  | error fault => rfl
  | ok e =>
      dsimp only
      rw [Expression.missing_of_includedIn h, List.filter_map]
      rfl

end MoreValues

section OtherValues

variable {functions functions' : Functions} {properties properties' : Properties}
  (harities : SameArities functions functions')
  (hnames : ∀ name, name ∈ properties'.names ↔ name ∈ properties.names)

include harities hnames

/-- What is wrong with a placeholder depends neither on values nor on what functions compute. -/
theorem faults_resolve_congr (p : Placeholder) :
    faults (resolve functions' properties' p) = faults (resolve functions properties p) := by
  rw [faults_resolve, faults_resolve, Expression.parse_congr harities]
  simp only [Expression.missing_congr hnames]

/-- Neither does it whether there is a value. -/
theorem isSome_resolve_congr (p : Placeholder) :
    (resolve functions' properties' p).toOption.isSome
      = (resolve functions properties p).toOption.isSome := by
  rw [Bool.eq_iff_iff, Option.isSome_iff_ne_none, Option.isSome_iff_ne_none, ne_eq, ne_eq,
    toOption_resolve_eq_none_iff, toOption_resolve_eq_none_iff,
    faults_resolve_congr harities hnames]

end OtherValues

/-! ### Runs -/

/-- A placeholder that a run comes to, the field it is in, and what becomes of it. -/
structure Visit (φ : Type) where
  field : φ
  placeholder : Placeholder
  outcome : Except (List FieldError) String

/-- A visit in a run with more values. -/
structure Visit.Supplied {φ : Type} (functions : Functions) (v v' : Visit φ) : Prop where
  field_eq : v'.field = v.field
  placeholder_eq : v'.placeholder = v.placeholder
  value : ∀ value, v.outcome = .ok value → v'.outcome = .ok value
  invalid : ∀ fault, Expression.parse functions v.placeholder.expression = .error fault →
    v.outcome = .error [.invalidExpression v.placeholder.expression] ∧ v'.outcome = v.outcome

/-- A visit in a run that reports the same. -/
structure Visit.SameReport {φ : Type} (v v' : Visit φ) : Prop where
  field_eq : v'.field = v.field
  placeholder_eq : v'.placeholder = v.placeholder
  resolved_eq : v'.outcome.toOption.isSome = v.outcome.toOption.isSome
  faults_eq : faults v'.outcome = faults v.outcome

namespace FieldSource

variable {σ φ : Type} (source : FieldSource σ φ)

/-- The placeholders in the fields of a document as it is. -/
def occurrences (s : σ) : List (φ × Placeholder) :=
  (source.locate s).flatMap fun field =>
    ((source.read s field).elim [] (source.placeholders field)).map (field, ·)

/-- The visit to a placeholder. -/
def visit (functions : Functions) (properties : Properties) (occurrence : φ × Placeholder) :
    Visit φ :=
  ⟨occurrence.1, occurrence.2, resolve functions properties occurrence.2⟩

/-- The visits to the placeholders of a field, as it reads in a document. -/
def visitsTo (functions : Functions) (properties : Properties) (s : σ) (field : φ) :
    List (Visit φ) :=
  ((source.read s field).elim [] (source.placeholders field)).map fun p =>
    visit functions properties (field, p)

end FieldSource

/-- The visits of a run over fields. A field is read when those before it are filled in. -/
def FieldSource.visitsEach {σ φ : Type} (source : FieldSource σ φ) (functions : Functions)
    (properties : Properties) (s : σ) : List φ → List (Visit φ)
  | [] => []
  | field :: fields =>
    source.visitsTo functions properties s field
      ++ source.visitsEach functions properties
        (source.mergeField functions properties s field).1 fields

namespace FieldSource

variable {σ φ : Type} (source : FieldSource σ φ)

section Run

variable (functions : Functions) (properties : Properties)

/-- The visits of a run over a document. -/
def visits (s : σ) : List (Visit φ) :=
  source.visitsEach functions properties s (source.locate s)

theorem mergeField_snd (s : σ) (field : φ) :
    (source.mergeField functions properties s field).2
      = (source.visitsTo functions properties s field).flatMap fun v => faults v.outcome := by
  rw [mergeField_eq]
  unfold errors visitsTo
  cases source.read s field with
  | none => rfl
  | some text =>
      rw [List.flatMap_map]
      rfl

theorem mergeEach_snd (s : σ) (fields : List φ) :
    (source.mergeEach functions properties s fields).2
      = (source.visitsEach functions properties s fields).flatMap fun v => faults v.outcome := by
  induction fields generalizing s with
  | nil => rfl
  | cons field fields ih =>
      have hstep : (source.mergeEach functions properties s (field :: fields)).2
          = (source.mergeField functions properties s field).2
            ++ (source.mergeEach functions properties
                (source.mergeField functions properties s field).1 fields).2 := rfl
      rw [hstep, ih, mergeField_snd, visitsEach, List.flatMap_append]

/-- A run reports what is wrong with the placeholders it comes to, in order. -/
theorem mergeFields_snd (s : σ) :
    (source.mergeFields functions properties s).2
      = (source.visits functions properties s).flatMap fun v => faults v.outcome :=
  source.mergeEach_snd functions properties s (source.locate s)

variable {source}

/-- Fields that are apart from each other are visited as they read at the start. -/
theorem ReadsApart.visitsEach_eq {inv : σ → Prop} {apart : φ → φ → Prop}
    (h : source.ReadsApart inv apart) {fields : List φ} (hfields : fields.Pairwise apart) {s : σ}
    (hs : inv s) :
    source.visitsEach functions properties s fields
      = fields.flatMap (source.visitsTo functions properties s) := by
  induction fields generalizing s with
  | nil => rfl
  | cons field fields ih =>
      obtain ⟨hfield, hrest⟩ := List.pairwise_cons.1 hfields
      rw [visitsEach, mergeField_eq, List.flatMap_cons, ih hrest (h.inv_apply s field _ hs)]
      congr 1
      refine List.flatMap_congr fun other hother => ?_
      unfold visitsTo
      rw [h.read_apply s field other _ hs (hfield other hother)]

end Run

/-- Whatever the functions and the values, a run over the document comes to the placeholders that
are there before it. -/
def VisitsOccurrences (s : σ) : Prop :=
  ∀ functions properties,
    source.visits functions properties s = (source.occurrences s).map (visit functions properties)

/-- What a run with more values does, against one with fewer: it leaves out the errors about fields
that have got values, it finds the values again that the other finds, and what cannot be read is
reported again. -/
structure Supplied (functions : Functions) (properties properties' : Properties) (s : σ) :
    Prop where
  errors_eq : (source.mergeFields functions properties' s).2
    = (source.mergeFields functions properties s).2.filter (·.remains properties')
  visits : List.Forall₂ (Visit.Supplied functions) (source.visits functions properties s)
    (source.visits functions properties' s)

/-- Two runs with other functions and values report the same and find values for the same
placeholders, which are those that were there before. -/
structure SameReport (functions functions' : Functions) (properties properties' : Properties)
    (s : σ) : Prop where
  errors_eq : (source.mergeFields functions' properties' s).2
    = (source.mergeFields functions properties s).2
  visits : List.Forall₂ Visit.SameReport (source.visits functions properties s)
    (source.visits functions' properties' s)
  occurrences_eq : (source.visits functions properties s).map (fun v => (v.field, v.placeholder))
    = source.occurrences s

variable {source}

theorem ReadsApart.visitsOccurrences {inv : σ → Prop} {apart : φ → φ → Prop}
    (h : source.ReadsApart inv apart) {s : σ} (hfields : (source.locate s).Pairwise apart)
    (hs : inv s) : source.VisitsOccurrences s := by
  intro functions properties
  unfold visits occurrences
  rw [h.visitsEach_eq functions properties hfields hs, List.map_flatMap]
  unfold visitsTo
  simp only [List.map_map, Function.comp_def]

namespace VisitsOccurrences

variable {s : σ} (hvisits : source.VisitsOccurrences s)

include hvisits

theorem mergeFields_snd (functions : Functions) (properties : Properties) :
    (source.mergeFields functions properties s).2
      = (source.occurrences s).flatMap fun occurrence =>
          faults (resolve functions properties occurrence.2) := by
  rw [FieldSource.mergeFields_snd, hvisits, List.flatMap_map]
  rfl

/-- Runs over one document are compared placeholder by placeholder. -/
theorem forall₂_visits {functions functions' : Functions} {properties properties' : Properties}
    {related : Visit φ → Visit φ → Prop}
    (h : ∀ occurrence, related (visit functions properties occurrence)
      (visit functions' properties' occurrence)) :
    List.Forall₂ related (source.visits functions properties s)
      (source.visits functions' properties' s) := by
  rw [hvisits, hvisits, List.forall₂_map_left_iff, List.forall₂_map_right_iff, List.forall₂_same]
  exact fun occurrence _ => h occurrence

theorem supplied (functions : Functions) {properties properties' : Properties}
    (h : properties.IncludedIn properties') :
    source.Supplied functions properties properties' s where
  errors_eq := by
    rw [hvisits.mergeFields_snd, hvisits.mergeFields_snd, List.filter_flatMap]
    simp only [faults_resolve_of_includedIn functions h]
  visits := by
    refine hvisits.forall₂_visits fun (field, p) => ⟨rfl, rfl, ?_, ?_⟩
    · exact fun value => resolve_of_includedIn functions h
    · intro fault hfault
      have hoccurrence : ∀ properties, (visit functions properties (field, p)).outcome
          = .error [.invalidExpression p.expression] := fun properties =>
        resolve_of_parse_eq_error properties hfault
      exact ⟨hoccurrence properties, (hoccurrence properties').trans (hoccurrence properties).symm⟩

theorem sameReport {functions functions' : Functions} {properties properties' : Properties}
    (harities : SameArities functions functions')
    (hnames : ∀ name, name ∈ properties'.names ↔ name ∈ properties.names) :
    source.SameReport functions functions' properties properties' s where
  errors_eq := by
    rw [hvisits.mergeFields_snd, hvisits.mergeFields_snd]
    simp only [faults_resolve_congr harities hnames]
  visits := hvisits.forall₂_visits fun occurrence =>
    ⟨rfl, rfl, isSome_resolve_congr harities hnames occurrence.2,
      faults_resolve_congr harities hnames occurrence.2⟩
  occurrences_eq := by
    rw [hvisits, List.map_map]
    exact List.map_id _

end VisitsOccurrences

end FieldSource

end MailMerge
