import MailMerge.Proofs.Expression.Progress
import Mathlib.Data.List.Sort

/-!
# `MailMerge.Proofs.Expression.Dependence`: what reading and evaluation depend on

How a text is read depends on the functions by their names and counts of arguments only, not on what
they compute. Which properties are without a value depends on the names of the properties that have
one, not on the values. And an expression with a value keeps it when more properties get values.

* `parse_congr`: reading with functions of other bodies.
* `missing_congr`, `missing_of_includedIn`: properties without a value, by other values and by more.
* `evaluate_of_includedIn`: a value stays.
-/

set_option autoImplicit false

namespace MailMerge

/-- What has a value under a name in one dictionary has it in another. -/
def Dictionary.IncludedIn {α : Type} (d d' : Dictionary α) : Prop :=
  ∀ name value, d.get? name = some value → d'.get? name = some value

/-- Functions have the same names and counts of arguments. -/
def SameArities (functions functions' : Functions) : Prop :=
  ∀ name, (functions'.get? name).map Function.arity = (functions.get? name).map Function.arity

namespace Expression

/-! ### Reading -/

section Reading

variable {functions functions' : Functions} (h : SameArities functions functions')

include h

theorem checkedCall_congr (name : String) (arguments : List Expression) :
    checkedCall functions' name arguments = checkedCall functions name arguments := by
  have hname := h name
  unfold checkedCall
  cases hget : functions.get? name with
  | none =>
      rw [hget, Option.map_none, Option.map_eq_none_iff] at hname
      rw [hname]
  | some function =>
      rw [hget, Option.map_some, Option.map_eq_some_iff] at hname
      obtain ⟨function', hget', harity⟩ := hname
      rw [hget']
      dsimp only
      rw [harity]

theorem applySegment_congr (inner : Expression) (segment : List Char) :
    applySegment functions' inner segment = applySegment functions inner segment := by
  unfold applySegment
  simp only [checkedCall_congr h]

theorem applySegments_congr (inner : Expression) (segments : List (List Char)) :
    applySegments functions' inner segments = applySegments functions inner segments := by
  induction segments generalizing inner with
  | nil => rfl
  | cons segment segments ih =>
      unfold applySegments
      simp only [applySegment_congr h, ih]

/-- Texts are read alike, and where they cannot be read it is for the same reason. -/
theorem parse_congr (text : String) : parse functions' text = parse functions text := by
  unfold parse
  simp only [applySegments_congr h]

end Reading

/-! ### Properties without a value -/

/-- The names that are without a value are told by their members, as their order is given. -/
theorem FirstMissing.unique {e : Expression} {properties : Properties} {names names' : List String}
    (h : e.FirstMissing properties names) (h' : e.FirstMissing properties names') :
    names = names' := by
  have hirrefl : Std.Irrefl fun a b => e.references.idxOf a < e.references.idxOf b :=
    ⟨fun _ => Nat.lt_irrefl _⟩
  have hantisymm : Std.Antisymm fun a b => e.references.idxOf a < e.references.idxOf b :=
    ⟨fun _ _ hlt hlt' => absurd hlt' (Nat.lt_asymm hlt)⟩
  refine h.ordered.eq_of_mem_iff h'.ordered fun name => ?_
  rw [h.mem_iff, h'.mem_iff]

/-- Other values do not change which properties are without one. -/
theorem missing_congr {properties properties' : Properties}
    (h : ∀ name, name ∈ properties'.names ↔ name ∈ properties.names) (e : Expression) :
    e.missing properties' = e.missing properties := by
  have hcontains : ∀ name, properties'.contains name = properties.contains name := fun name => by
    rw [Bool.eq_iff_iff, ← Dictionary.mem_names_iff, ← Dictionary.mem_names_iff, h]
  unfold missing
  simp only [hcontains]

/-- With more values the properties without one are those that were and still are. -/
theorem missing_of_includedIn {properties properties' : Properties}
    (h : properties.IncludedIn properties') (e : Expression) :
    e.missing properties' = (e.missing properties).filter (!properties'.contains ·) := by
  refine (firstMissing_missing e properties').unique ⟨fun name => ?_, ?_⟩
  · rw [List.mem_filter, (firstMissing_missing e properties).mem_iff, and_assoc]
    refine and_congr_right fun _ => ?_
    cases hvalue : properties.get? name with
    | none => simp [Dictionary.contains]
    | some value => simp [h name value hvalue]
  · exact (firstMissing_missing e properties).ordered.sublist List.filter_sublist

/-! ### Values -/

mutual

/-- A value stays when more properties get values. -/
theorem evaluate_of_includedIn (functions : Functions) {properties properties' : Properties}
    (h : properties.IncludedIn properties') : (e : Expression) → {value : String} →
    e.evaluate functions properties = .ok value → e.evaluate functions properties' = .ok value
  | .literal text, value, hvalue => hvalue
  | .field name, value, hvalue => by
      unfold evaluate at hvalue ⊢
      cases hget : properties.get? name with
      | none => simp [hget] at hvalue
      | some found =>
          rw [h name found hget]
          rwa [hget] at hvalue
  | .call name arguments, value, hvalue => by
      unfold evaluate at hvalue ⊢
      cases hget : functions.get? name with
      | none => simp [hget] at hvalue
      | some function =>
          rw [hget] at hvalue
          cases hvalues : evaluateAll functions properties arguments with
          | error fault => simp [hvalues] at hvalue
          | ok values =>
              rw [hvalues] at hvalue
              dsimp only
              rw [evaluateAll_of_includedIn functions h arguments hvalues]
              exact hvalue

theorem evaluateAll_of_includedIn (functions : Functions) {properties properties' : Properties}
    (h : properties.IncludedIn properties') : (es : List Expression) → {values : List String} →
    evaluateAll functions properties es = .ok values →
    evaluateAll functions properties' es = .ok values
  | [], values, hvalues => hvalues
  | e :: es, values, hvalues => by
      unfold evaluateAll at hvalues ⊢
      cases hvalue : e.evaluate functions properties with
      | error fault => simp [hvalue] at hvalues
      | ok value =>
          rw [hvalue] at hvalues
          cases hothers : evaluateAll functions properties es with
          | error fault => simp [hothers, Except.map] at hvalues
          | ok others =>
              rw [evaluate_of_includedIn functions h e hvalue,
                evaluateAll_of_includedIn functions h es hothers]
              rwa [hothers] at hvalues

end

end Expression

end MailMerge
