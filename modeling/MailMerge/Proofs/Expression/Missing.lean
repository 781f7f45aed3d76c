import MailMerge.Proofs.Expression.Progress

/-!
# `MailMerge.Proofs.Expression.Missing`: missing properties and the fault that evaluation meets

Evaluation stops at the first fault that it meets. The properties without a value are listed for the
whole expression, whatever its functions are. In an expression whose calls are all well-formed a
property without a value is the only fault there can be, and both go through the properties from
left to right. So the fault is about the first name of the list.

* `evaluate_eq_error`: the fault that evaluation of a well-formed expression meets.
* `collectMissing_eq`: the list as it is collected along a walk over the expression.
* `evaluate_accords_missing`: what evaluation and the list say about one expression.
-/

set_option autoImplicit false

namespace MailMerge

namespace Expression

variable (functions : Functions) (properties : Properties)

/-! ### The first fault -/

mutual

/-- Evaluation of a well-formed expression fails at the first property without a value. -/
theorem evaluate_eq_error {name : String} : (e : Expression) → e.WellFormed functions →
    e.references.find? (!properties.contains ·) = some name →
    e.evaluate functions properties
      = .error (.unresolvedField name (suggestions name properties.names))
  | .literal text, _, hname => by
      rw [references, List.find?_nil] at hname
      cases hname
  | .field name', _, hname => by
      rw [references, List.find?_singleton] at hname
      split at hname
      · rename_i habsent
        cases hname
        have hget : properties.get? name = none := by
          simpa [Dictionary.contains] using habsent
        rw [evaluate, hget]
      · cases hname
  | .call function arguments, hwell, hname => by
      rw [WellFormed] at hwell
      rw [references] at hname
      obtain ⟨⟨definition, hget, -⟩, harguments⟩ := hwell
      -- The function is known, so the arguments come next.
      rw [evaluate, hget]
      dsimp only
      rw [evaluateAll_eq_error arguments harguments hname]

/-- Evaluation of well-formed expressions fails at the first property without a value. -/
theorem evaluateAll_eq_error {name : String} : (es : List Expression) →
    WellFormedAll functions es →
    (referencesAll es).find? (!properties.contains ·) = some name →
    evaluateAll functions properties es
      = .error (.unresolvedField name (suggestions name properties.names))
  | [], _, hname => by
      rw [referencesAll, List.find?_nil] at hname
      cases hname
  | e :: es, hwell, hname => by
      rw [WellFormedAll] at hwell
      rw [referencesAll, List.find?_append] at hname
      rw [evaluateAll]
      cases hfirst : e.references.find? (!properties.contains ·) with
      | some name' =>
          rw [hfirst, Option.some_or] at hname
          cases hname
          rw [evaluate_eq_error e hwell.1 hfirst]
      | none =>
          -- All properties in the first expression have values, so it has one too.
          rw [hfirst, Option.none_or] at hname
          have hvalues : ∀ name ∈ e.references, properties.contains name = true := by
            simpa using hfirst
          obtain ⟨value, hvalue⟩ :=
            (exists_evaluate_eq_ok_iff functions properties e).2 ⟨hwell.1, hvalues⟩
          rw [hvalue, evaluateAll_eq_error es hwell.2 hname]
          rfl

end

variable {functions} {properties}

/-- The first name listed is the first name without a value that the expression refers to. -/
theorem find?_references_of_missing {e : Expression} {name : String} {names : List String}
    (h : e.missing properties = name :: names) :
    e.references.find? (!properties.contains ·) = some name := by
  unfold missing at h
  rw [← List.head?_filter]
  cases hfilter : e.references.filter (!properties.contains ·) with
  | nil =>
      rw [hfilter] at h
      cases h
  | cons name' names' =>
      rw [hfilter, List.eraseDups_cons, List.cons.injEq] at h
      rw [List.head?_cons, h.1]

/-- Names listed in the order of first reference are listed once. -/
theorem FirstMissing.nodup {e : Expression} {names : List String}
    (h : e.FirstMissing properties names) : names.Nodup :=
  h.ordered.imp fun {a b} hlt heq => by
    rw [heq] at hlt
    exact Nat.lt_irrefl _ hlt

/-! ### Collecting names along a walk -/

section Collecting

variable (properties)

mutual

/-- The names without a value in an expression behind those found before it: the expression is
walked from left to right, and a name that was found is not listed again. -/
def collectMissing (found : List String) : Expression → List String
  | .literal _ => found
  | .field name =>
    if !properties.contains name && !found.contains name then found ++ [name] else found
  | .call _ arguments => collectMissingAll found arguments

/-- The names without a value in expressions behind those found before them. -/
def collectMissingAll (found : List String) : List Expression → List String
  | [] => found
  | e :: es => collectMissingAll (collectMissing found e) es

end

/-- What is left of two lists behind a third, if the second is also left without what the first
brings. -/
theorem removeAll_append_removeAll (found names others : List String) :
    others.removeAll (found ++ (names.removeAll found).eraseDups)
      = (others.removeAll found).removeAll (names.removeAll found) := by
  unfold List.removeAll
  rw [List.filter_filter]
  refine List.filter_congr fun name _ => ?_
  rw [Bool.eq_iff_iff]
  simp [and_comm]

mutual

/-- A walk adds the names that were not found before, each once. -/
theorem collectMissing_eq_append (found : List String) : (e : Expression) →
    collectMissing properties found e
      = found ++ ((e.references.filter (!properties.contains ·)).removeAll found).eraseDups
  | .literal text => by simp [collectMissing, references, List.removeAll]
  | .field name => by
      rw [collectMissing, references]
      by_cases hvalue : properties.contains name = true
      · simp [hvalue, List.removeAll]
      · by_cases hfound : found.contains name = true
        · have hmem : name ∈ found := by simpa using hfound
          simp [hvalue, hmem, List.removeAll]
        · have hmem : name ∉ found := by simpa using hfound
          simp [hvalue, hmem, List.removeAll, List.eraseDups_cons]
  | .call _ arguments => by
      rw [collectMissing, references, collectMissingAll_eq_append found arguments]

/-- A walk over several expressions adds the names that were not found before, each once. -/
theorem collectMissingAll_eq_append (found : List String) : (es : List Expression) →
    collectMissingAll properties found es
      = found ++ (((referencesAll es).filter (!properties.contains ·)).removeAll found).eraseDups
  | [] => by simp [collectMissingAll, referencesAll, List.removeAll]
  | e :: es => by
      rw [collectMissingAll, collectMissing_eq_append found e, collectMissingAll_eq_append _ es,
        referencesAll, List.filter_append, removeAll_append_removeAll, List.append_assoc]
      have hsplit (names others : List String) : (names ++ others).removeAll found
          = names.removeAll found ++ others.removeAll found := List.filter_append ..
      rw [hsplit, List.eraseDups_append]

end

/-- The missing properties are those that a walk over the whole expression collects. -/
theorem collectMissing_eq (e : Expression) :
    e.collectMissing properties [] = e.missing properties := by
  rw [collectMissing_eq_append, List.nil_append]
  simp [List.removeAll, missing]

end Collecting

/-! ### Evaluation and the list -/

/-- An expression has a value exactly when no property is missing and all calls are well-formed. If
the calls are well-formed and properties are missing, the fault is about the first of them. The
missing properties are listed once, they are the properties without a value that the expression
refers to, and they stand in the order of first reference, as a walk over the expression finds
them. -/
theorem evaluate_accords_missing (functions : Functions) (properties : Properties)
    (e : Expression) :
    ((∃ value, e.evaluate functions properties = .ok value)
        ↔ e.missing properties = [] ∧ e.WellFormed functions)
      ∧ (e.WellFormed functions → ∀ name names, e.missing properties = name :: names →
          e.evaluate functions properties
            = .error (.unresolvedField name (suggestions name properties.names)))
      ∧ (e.missing properties).Nodup
      ∧ e.FirstMissing properties (e.missing properties)
      ∧ e.collectMissing properties [] = e.missing properties := by
  have hlisted := e.firstMissing_missing properties
  refine ⟨?_, fun hwell name names hmissing => ?_, hlisted.nodup, hlisted,
    collectMissing_eq properties e⟩
  · rw [exists_evaluate_eq_ok_iff, missing_eq_nil_iff, and_comm]
  · exact evaluate_eq_error functions properties e hwell (find?_references_of_missing hmissing)

/-- A call of a known function inside the second argument of another, with one property in it that
has a value and two that have none. -/
def addressed : Expression :=
  .call "join" [.field "Name",
    .call "upper" [.call "join" [.field "City", .call "join" [.field "Street", .field "City"]]]]

/-- Evaluation fails at the first of the two names listed, and each is listed once. -/
theorem evaluate_accords_missing_addressed :
    addressed.WellFormed builtinFunctions
      ∧ addressed.missing (.ofList [("Name", "Ann")]) = ["City", "Street"]
      ∧ addressed.evaluate builtinFunctions (.ofList [("Name", "Ann")])
          = .error (.unresolvedField "City" []) := by
  have hwell : addressed.WellFormed builtinFunctions := by
    simp only [addressed, WellFormed, WellFormedAll, and_true, true_and]
    have hjoin : ∃ function, builtinFunctions.get? "join" = some function ∧ function.arity = 2 :=
      ⟨_, by rfl, rfl⟩
    have hupper : ∃ function, builtinFunctions.get? "upper" = some function
        ∧ function.arity = 1 := ⟨_, by rfl, rfl⟩
    exact ⟨hjoin, hupper, hjoin, hjoin⟩
  have hmissing : addressed.missing (.ofList [("Name", "Ann")]) = ["City", "Street"] := by
    decide +kernel
  have hfault := (evaluate_accords_missing builtinFunctions (.ofList [("Name", "Ann")])
    addressed).2.1 hwell "City" ["Street"] hmissing
  have hnone : suggestions "City" (Dictionary.ofList [("Name", "Ann")]).names = [] := by
    decide +kernel
  rw [hnone] at hfault
  exact ⟨hwell, hmissing, hfault⟩

end Expression

end MailMerge
