import MailMerge.Expression.Builtin
import MailMerge.Field.Merge
import MailMerge.Proofs.Expression.Canonical

/-!
# `MailMerge.Proofs.Expression.Progress`: evaluation comes to a value

A call fails when its function is not known or takes another count of arguments, and a property
fails when it has no value. The reader lets no call of the first kind through, and the properties
without a value are told before the evaluation.

* `exists_evaluate_eq_ok_iff`: the expressions with a value, told without evaluating them.
* `firstMissing_missing`: `missing` lists the properties without a value, each once and in the order
  of first reference.
* `resolution_resolve`: a placeholder has a value, or what is wrong with it is reported.
-/

set_option autoImplicit false

namespace MailMerge

namespace Expression

/-! ### Well-formed expressions -/

mutual

/-- Every call in the expression is of a known function that takes as many arguments. -/
def WellFormed (functions : Functions) : Expression → Prop
  | .literal _ | .field _ => True
  | .call name arguments =>
    (∃ function, functions.get? name = some function ∧ function.arity = arguments.length)
      ∧ WellFormedAll functions arguments

/-- All the expressions are well-formed. -/
def WellFormedAll (functions : Functions) : List Expression → Prop
  | [] => True
  | e :: es => e.WellFormed functions ∧ WellFormedAll functions es

end

theorem wellFormedAll_iff {functions : Functions} {es : List Expression} :
    WellFormedAll functions es ↔ ∀ e ∈ es, e.WellFormed functions := by
  induction es with
  | nil => simp [WellFormedAll]
  | cons e es ih => simp [WellFormedAll, ih]

theorem IsPrimary.wellFormed {e : Expression} (h : e.IsPrimary) (functions : Functions) :
    e.WellFormed functions := by
  cases h with
  | literal _ => simp [WellFormed]
  | field _ _ _ _ => simp [WellFormed]

theorem Canonical.wellFormed {functions : Functions} {e : Expression}
    (h : Canonical functions e) : e.WellFormed functions := by
  induction h with
  | primary h => exact h.wellFormed functions
  | @call inner name others function _ _ hget harity hothers ih =>
      refine ⟨⟨function, hget, harity⟩, ih, ?_⟩
      exact wellFormedAll_iff.2 fun e he => (hothers e he).1.wellFormed functions

/-! ### Values -/

section Values

variable (functions : Functions) (properties : Properties)

theorem length_of_evaluateAll {es : List Expression} {values : List String}
    (h : evaluateAll functions properties es = .ok values) : values.length = es.length := by
  induction es generalizing values with
  | nil =>
      cases h
      rfl
  | cons e es ih =>
      unfold evaluateAll at h
      split at h
      · cases h
      · cases hes : evaluateAll functions properties es with
        | error fault =>
            rw [hes] at h
            cases h
        | ok others =>
            rw [hes] at h
            cases h
            rw [List.length_cons, List.length_cons, ih hes]

mutual

/-- An expression has a value exactly when it is well-formed and the properties in it have
values. -/
theorem exists_evaluate_eq_ok_iff : (e : Expression) →
    ((∃ value, e.evaluate functions properties = .ok value)
      ↔ e.WellFormed functions ∧ ∀ name ∈ e.references, properties.contains name = true)
  | .literal text => by simp [evaluate, WellFormed, references]
  | .field name => by
      simp only [evaluate, WellFormed, references, List.mem_singleton, forall_eq, true_and,
        Dictionary.contains]
      cases properties.get? name <;> simp
  | .call name arguments => by
      have harguments := exists_evaluateAll_eq_ok_iff arguments
      simp only [evaluate, WellFormed, references, and_assoc, ← harguments]
      cases functions.get? name with
      | none => simp
      | some function =>
          cases hvalues : evaluateAll functions properties arguments with
          | error fault => simp
          | ok values =>
              -- With values for all arguments only their count can be wrong.
              have hcall := Function.isSome_call?_iff function values
              rw [length_of_evaluateAll functions properties hvalues] at hcall
              cases hresult : function.call? values with
              | none =>
                  rw [hresult] at hcall
                  have hne : function.arity ≠ arguments.length := fun h => by simp [h] at hcall
                  simp [hresult, hne]
              | some value =>
                  rw [hresult] at hcall
                  simp [hresult, hcall.1 rfl]

/-- Expressions have values exactly when each of them has one. -/
theorem exists_evaluateAll_eq_ok_iff : (es : List Expression) →
    ((∃ values, evaluateAll functions properties es = .ok values)
      ↔ WellFormedAll functions es
        ∧ ∀ name ∈ referencesAll es, properties.contains name = true)
  | [] => by simp [evaluateAll, WellFormedAll, referencesAll]
  | e :: es => by
      have hfirst := exists_evaluate_eq_ok_iff e
      have hothers := exists_evaluateAll_eq_ok_iff es
      have hsplit : (WellFormedAll functions (e :: es)
            ∧ ∀ name ∈ referencesAll (e :: es), properties.contains name = true)
          ↔ (∃ value, e.evaluate functions properties = .ok value)
            ∧ ∃ values, evaluateAll functions properties es = .ok values := by
        rw [hfirst, hothers]
        simp only [WellFormedAll, referencesAll, List.forall_mem_append]
        tauto
      rw [hsplit, evaluateAll]
      cases e.evaluate functions properties with
      | error fault => simp
      | ok value => cases evaluateAll functions properties es <;> simp [Except.map]

end

end Values

/-! ### Properties without a value -/

/-- The names of the properties without a value that an expression refers to, each once and in the
order of first reference. -/
structure FirstMissing (e : Expression) (properties : Properties) (names : List String) : Prop where
  mem_iff : ∀ name, name ∈ names ↔ name ∈ e.references ∧ properties.get? name = none
  ordered : names.Pairwise fun a b => e.references.idxOf a < e.references.idxOf b

/-- Of names of some kind, those that are listed without repetition stand in the order in which they
are first listed. -/
theorem pairwise_idxOf_eraseDups_filter (names : List String) (p : String → Bool) :
    (names.filter p).eraseDups.Pairwise fun a b => names.idxOf a < names.idxOf b := by
  induction names generalizing p with
  | nil => exact .nil
  | cons name names ih =>
      -- Names other than the first are one place further from it than from the second.
      have hshift : ∀ q : String → Bool, (∀ a, q a = true → a ≠ name) →
          (names.filter q).eraseDups.Pairwise fun a b =>
            (name :: names).idxOf a < (name :: names).idxOf b := by
        intro q hq
        have hmem : ∀ a ∈ (names.filter q).eraseDups, a ≠ name := fun a ha =>
          hq a (List.mem_filter.1 (List.mem_eraseDups.1 ha)).2
        refine (ih q).imp_of_mem fun {a b} ha hb hlt => ?_
        rw [List.idxOf_cons_ne _ (hmem a ha).symm, List.idxOf_cons_ne _ (hmem b hb).symm]
        omega
      by_cases hname : p name = true
      · rw [List.filter_cons_of_pos hname, List.eraseDups_cons, List.filter_filter]
        refine .cons (fun b hb => ?_) (hshift _ fun a ha => ?_)
        · have hne : b ≠ name := by
            have := (List.mem_filter.1 (List.mem_eraseDups.1 hb)).2
            simp only [Bool.and_eq_true, Bool.not_eq_true', beq_eq_false_iff_ne] at this
            exact this.1
          rw [List.idxOf_cons_self, List.idxOf_cons_ne _ hne.symm]
          omega
        · simp only [Bool.and_eq_true, Bool.not_eq_true', beq_eq_false_iff_ne] at ha
          exact ha.1
      · rw [List.filter_cons_of_neg hname]
        refine hshift p fun a ha => ?_
        rintro rfl
        exact hname ha

theorem firstMissing_missing (e : Expression) (properties : Properties) :
    e.FirstMissing properties (e.missing properties) := by
  refine ⟨fun name => ?_, pairwise_idxOf_eraseDups_filter _ _⟩
  unfold missing
  rw [List.mem_eraseDups, List.mem_filter]
  simp [Dictionary.contains]

theorem missing_eq_nil_iff {e : Expression} {properties : Properties} :
    e.missing properties = [] ↔ ∀ name ∈ e.references, properties.contains name = true := by
  rw [List.eq_nil_iff_forall_not_mem]
  refine forall_congr' fun name => ?_
  rw [(firstMissing_missing e properties).mem_iff]
  simp [Dictionary.contains, Option.isSome_iff_ne_none]

/-! ### What is read and complete has a value -/

/-- An expression that was read has a value when no property in it is without one. -/
theorem exists_evaluate_of_parse {functions : Functions} {properties : Properties} {text : String}
    {e : Expression} (h : parse functions text = .ok e) (hmissing : e.missing properties = []) :
    ∃ value, e.evaluate functions properties = .ok value :=
  (exists_evaluate_eq_ok_iff functions properties e).2
    ⟨(canonical_of_parse h).wellFormed, missing_eq_nil_iff.1 hmissing⟩

/-- An expression's text has no value exactly when it cannot be read or refers to a property without
a value. -/
theorem eval?_eq_none_iff {functions : Functions} {properties : Properties} {text : String} :
    eval? functions properties text = none
      ↔ (∃ fault, parse functions text = .error fault)
        ∨ ∃ e name, parse functions text = .ok e ∧ name ∈ e.references
            ∧ properties.get? name = none := by
  unfold eval?
  cases hparse : parse functions text with
  | error fault => simp
  | ok e =>
      have hnames := (firstMissing_missing e properties).mem_iff
      by_cases hmissing : e.missing properties = []
      · obtain ⟨value, hvalue⟩ := exists_evaluate_of_parse hparse hmissing
        simp only [hmissing, List.not_mem_nil, false_iff, not_and] at hnames
        simpa [hmissing, hvalue, Except.toOption] using hnames
      · obtain ⟨name, hname⟩ := List.exists_mem_of_ne_nil _ hmissing
        simp only [hmissing, if_false, reduceCtorEq, exists_false, false_or, Except.ok.injEq,
          true_iff]
        exact ⟨e, name, rfl, (hnames name).1 hname⟩

end Expression

/-! ### Placeholders -/

/-- What becomes of a placeholder: its expression cannot be read, or properties in it are without a
value, or it has a value, which is formatted. -/
inductive Resolution (functions : Functions) (properties : Properties) (p : Placeholder) :
    Except (List FieldError) String → Prop where
  | invalid {fault : ParseError} (h : Expression.parse functions p.expression = .error fault) :
      Resolution functions properties p (.error [.invalidExpression p.expression])
  | missing {e : Expression} {names : List String}
      (h : Expression.parse functions p.expression = .ok e)
      (hnames : e.FirstMissing properties names) (hne : names ≠ []) :
      Resolution functions properties p (.error (names.map .missingField))
  | value {text : String} (h : Expression.eval? functions properties p.expression = some text) :
      Resolution functions properties p (.ok (applyFormat text p.modifiers))

theorem resolution_resolve (functions : Functions) (properties : Properties) (p : Placeholder) :
    Resolution functions properties p (resolve functions properties p) := by
  unfold resolve
  cases hparse : Expression.parse functions p.expression with
  | error fault => exact .invalid hparse
  | ok e =>
      have hnames := e.firstMissing_missing properties
      cases hmissing : e.missing properties with
      | cons name names =>
          rw [hmissing] at hnames
          simp only [hmissing]
          exact .missing hparse hnames (List.cons_ne_nil _ _)
      | nil =>
          -- The evaluation that would fail without a report does not happen.
          obtain ⟨value, hvalue⟩ := Expression.exists_evaluate_of_parse hparse hmissing
          have heval : Expression.eval? functions properties p.expression = some value := by
            simp [Expression.eval?, hparse, hmissing, hvalue, Except.toOption]
          simp only [hmissing, hvalue]
          exact .value heval

/-- A placeholder without a value is reported, and no other. -/
theorem toOption_resolve_eq_none_iff (functions : Functions) (properties : Properties)
    (p : Placeholder) :
    (resolve functions properties p).toOption = none
      ↔ faults (resolve functions properties p) ≠ [] := by
  have h := resolution_resolve functions properties p
  generalize resolve functions properties p = resolved at h
  cases h with
  | invalid _ => simp [Except.toOption, faults]
  | missing _ _ hne => simpa [Except.toOption, faults] using hne
  | value _ => simp [Except.toOption, faults]

/-- What can be read and is complete has a value. So an expression's text has none only if it cannot
be read or is not complete, and of a placeholder either the formatted value is found or what is
wrong is reported. -/
theorem evaluate_resolve_total (functions : Functions) (properties : Properties) :
    (∀ text e, Expression.parse functions text = .ok e → e.missing properties = [] →
        ∃ value, e.evaluate functions properties = .ok value)
      ∧ (∀ text, Expression.eval? functions properties text = none
          ↔ (∃ fault, Expression.parse functions text = .error fault)
            ∨ ∃ e name, Expression.parse functions text = .ok e ∧ name ∈ e.references
                ∧ properties.get? name = none)
      ∧ ∀ p, Resolution functions properties p (resolve functions properties p)
          ∧ ((resolve functions properties p).toOption = none
            ↔ faults (resolve functions properties p) ≠ []) :=
  ⟨fun _ _ h hmissing => Expression.exists_evaluate_of_parse h hmissing,
    fun _ => Expression.eval?_eq_none_iff,
    fun p => ⟨resolution_resolve functions properties p,
      toOption_resolve_eq_none_iff functions properties p⟩⟩

/-- A greeting that takes a name. -/
def greeting : Expression := .call "join" [.literal "Dear", .field "Name"]

set_option maxRecDepth 8000 in
/-- With a value for the name the greeting has a value. -/
theorem evaluate_resolve_total_greeting :
    Expression.parse builtinFunctions "\"Dear\" (join Name)" = .ok greeting
      ∧ greeting.missing (.ofList [("Name", "Ann")]) = []
      ∧ ∃ value, greeting.evaluate builtinFunctions (.ofList [("Name", "Ann")]) = .ok value := by
  have hparse : Expression.parse builtinFunctions "\"Dear\" (join Name)" = .ok greeting := by rfl
  have hmissing : greeting.missing (.ofList [("Name", "Ann")]) = [] := by decide +kernel
  exact ⟨hparse, hmissing, (evaluate_resolve_total builtinFunctions (.ofList [("Name", "Ann")])).1 _
    greeting hparse hmissing⟩

end MailMerge
