import MailMerge.Field.Format
import MailMerge.Proofs.Text.Capital
import Mathlib.Data.List.Forall2
import Mathlib.Data.List.SplitBy

/-!
# `MailMerge.Proofs.Field.Format`: what format modifiers do to a value

Modifiers are applied one after another. One of them capitalizes the first character, and as a
capital is its own capital it does so only once. So all that counts is whether it is there.

A reader sees characters in clusters, such as a letter with its accents. A value can be capitalized
by clusters too: the first character of the first cluster gets its capital, and the rest of the
cluster and all other clusters are written behind it. Where the clusters end has no influence, as
long as the clusters are the text.

* `applyFormat_eq`: a value is capitalized once or not at all.
* `Segmentation.applyFormat_eq`: clusters of whatever kind lead to the same value.
* `applyFormat_exactly`: what stays of a value, and what the result depends on.
-/

set_option autoImplicit false

namespace MailMerge

/-! ### The modifier -/

/-- The modifier that asks for a capital, each letter in upper or lower case. -/
def IsFirstCap (modifier : String) : Prop :=
  List.Forall₂ (fun c letter => c = letter ∨ c = letter.toLower) modifier.toList
    "FIRSTCAP".toList

/-- A character becomes the lower case of a letter from A to Z when it is this letter in upper or
lower case. -/
theorem toLower_eq_toLower_iff {c letter : Char} (h : letter.isUpper = true)
    (hlower : letter.toLower.toLower = letter.toLower) :
    c.toLower = letter.toLower ↔ c = letter ∨ c = letter.toLower := by
  have hrange : letter.val ≥ 'A'.val ∧ letter.val ≤ 'Z'.val := of_decide_eq_true h
  constructor
  · intro heq
    by_cases hc : c.val ≥ 'A'.val ∧ c.val ≤ 'Z'.val
    · -- Both letters are shifted by the same distance.
      unfold Char.toLower at heq
      rw [dif_pos hc, dif_pos hrange] at heq
      exact .inl (Char.ext (UInt32.add_left_inj _ |>.1 (congrArg Char.val heq)))
    · rw [← heq]
      unfold Char.toLower
      rw [dif_neg hc]
      exact .inr rfl
  · rintro (rfl | rfl)
    · rfl
    · exact hlower

theorem map_toLower_eq_iff {cs word : List Char}
    (h : ∀ letter ∈ word, letter.isUpper = true ∧ letter.toLower.toLower = letter.toLower) :
    cs.map Char.toLower = word.map Char.toLower
      ↔ List.Forall₂ (fun c letter => c = letter ∨ c = letter.toLower) cs word := by
  induction word generalizing cs with
  | nil => rw [List.map_nil, List.map_eq_nil_iff, List.forall₂_nil_right_iff]
  | cons letter word ih =>
      rw [List.forall_mem_cons] at h
      cases cs with
      | nil => simp
      | cons c cs =>
          rw [List.map_cons, List.map_cons, List.cons.injEq, List.forall₂_cons, ih h.2,
            toLower_eq_toLower_iff h.1.1 h.1.2]

theorem isFirstCap_iff (modifier : String) :
    isFirstCap modifier = true ↔ IsFirstCap modifier := by
  have hword : "firstcap".toList = "FIRSTCAP".toList.map Char.toLower := by decide +kernel
  have hletters : ("FIRSTCAP".toList.all fun letter =>
      letter.isUpper && letter.toLower.toLower == letter.toLower) = true := by decide +kernel
  unfold isFirstCap IsFirstCap
  rw [decide_eq_true_eq, hword]
  refine map_toLower_eq_iff fun letter hletter => ?_
  simpa using List.all_eq_true.1 hletters letter hletter

/-! ### Once or not at all -/

theorem toList_capitalizeFirst (value : String) :
    (capitalizeFirst value).toList
      = value.toList.modifyHead fun c => (Text.capital? c).getD c := by
  unfold capitalizeFirst
  split
  · rename_i hnil
    rw [hnil]
    rfl
  · rename_i c cs hcons
    rw [hcons, String.toList_ofList]
    rfl

/-- A capitalized value is not changed again. -/
theorem capitalizeFirst_capitalizeFirst (value : String) :
    capitalizeFirst (capitalizeFirst value) = capitalizeFirst value := by
  rw [← String.toList_inj, toList_capitalizeFirst, toList_capitalizeFirst]
  cases value.toList with
  | nil => rfl
  | cons c cs =>
      rw [List.modifyHead_cons, List.modifyHead_cons]
      cases hupper : Text.capital? c with
      | none => rw [Option.getD_none, hupper, Option.getD_none]
      | some upper => rw [Option.getD_some, Text.capital?_capital? hupper, Option.getD_some]

/-- A value is capitalized once, or not at all. -/
theorem applyFormat_eq (value : String) (modifiers : List String) :
    applyFormat value modifiers
      = if modifiers.any isFirstCap then capitalizeFirst value else value := by
  unfold applyFormat
  induction modifiers generalizing value with
  | nil => rfl
  | cons modifier modifiers ih =>
      rw [List.foldl_cons, ih, List.any_cons]
      cases hfirst : isFirstCap modifier with
      | false => rfl
      | true =>
          rw [if_pos rfl, Bool.true_or, if_pos rfl, capitalizeFirst_capitalizeFirst, ite_self]

/-! ### Clusters -/

/-- A way to divide texts into clusters of characters. No cluster is empty, and the clusters, in
their order, are the text. -/
structure Segmentation where
  clusters : List Char → List (List Char)
  nil_notMem : ∀ cs, [] ∉ clusters cs
  flatten_clusters : ∀ cs, (clusters cs).flatten = cs

namespace Segmentation

/-- The segmentation that parts two characters unless they are joined. -/
def ofJoins (joins : Char → Char → Bool) : Segmentation where
  clusters cs := cs.splitBy joins
  nil_notMem cs := List.nil_notMem_splitBy joins cs
  flatten_clusters cs := List.flatten_splitBy joins cs

variable (segmentation : Segmentation)

/-- A text with the first character of its first cluster capitalized. -/
def capitalizeFirst (value : String) : String :=
  match segmentation.clusters value.toList with
  | [] => ""
  | [] :: others => .ofList others.flatten
  | (base :: marks) :: others =>
    .ofList ((Text.capital? base).getD base :: (marks ++ others.flatten))

/-- A value formatted by modifiers, one after another, each on the clusters of what the ones before
it have left. -/
def applyFormat (value : String) (modifiers : List String) : String :=
  modifiers.foldl (fun value modifier =>
    if isFirstCap modifier then segmentation.capitalizeFirst value else value) value

theorem capitalizeFirst_eq (value : String) :
    segmentation.capitalizeFirst value = MailMerge.capitalizeFirst value := by
  have hnil := segmentation.nil_notMem value.toList
  have hflatten := segmentation.flatten_clusters value.toList
  rw [← String.toList_inj, toList_capitalizeFirst]
  unfold capitalizeFirst
  split
  · rename_i hclusters
    rw [hclusters] at hflatten
    rw [← hflatten]
    rfl
  · rename_i others hclusters
    rw [hclusters] at hnil
    exact absurd List.mem_cons_self hnil
  · rename_i base marks others hclusters
    rw [hclusters] at hflatten
    rw [← hflatten, String.toList_ofList]
    rfl

/-- Formatting by clusters is formatting by characters. -/
theorem applyFormat_eq (value : String) (modifiers : List String) :
    segmentation.applyFormat value modifiers = MailMerge.applyFormat value modifiers := by
  have hstep : segmentation.capitalizeFirst = MailMerge.capitalizeFirst :=
    funext segmentation.capitalizeFirst_eq
  unfold applyFormat MailMerge.applyFormat
  rw [hstep]

end Segmentation

/-! ### What modifiers do -/

/-- Modifiers keep the number of characters and all characters but the first, which stays or
becomes the single character that is its upper case. The result depends on whether one of the
modifiers asks for a capital, and on nothing else about them. It is the same when the value is
divided into clusters, whatever the clusters are. -/
theorem applyFormat_exactly (value : String) (modifiers : List String) :
    (applyFormat value modifiers).length = value.length
      ∧ (applyFormat value modifiers).toList.tail = value.toList.tail
      ∧ (∀ c ∈ (applyFormat value modifiers).toList.head?,
          c ∈ value.toList.head? ∨ ∃ base ∈ value.toList.head?, Text.upperOf base = [c])
      ∧ (∀ modifiers' : List String,
          ((∃ modifier ∈ modifiers, IsFirstCap modifier)
            ↔ ∃ modifier ∈ modifiers', IsFirstCap modifier) →
          applyFormat value modifiers = applyFormat value modifiers')
      ∧ ∀ segmentation : Segmentation,
          segmentation.applyFormat value modifiers = applyFormat value modifiers := by
  have heq := applyFormat_eq value modifiers
  refine ⟨?_, ?_, fun c hc => ?_, fun modifiers' hsame => ?_,
    fun segmentation => segmentation.applyFormat_eq value modifiers⟩
  · rw [heq]
    split
    · rw [← String.length_toList, toList_capitalizeFirst, List.length_modifyHead,
        String.length_toList]
    · rfl
  · rw [heq]
    split
    · rw [toList_capitalizeFirst, List.tail_modifyHead]
    · rfl
  · rw [heq] at hc
    split at hc
    · rw [toList_capitalizeFirst, List.head?_modifyHead, Option.mem_def,
        Option.map_eq_some_iff] at hc
      obtain ⟨base, hbase, rfl⟩ := hc
      cases hupper : Text.capital? base with
      | none => exact .inl hbase
      | some upper => exact .inr ⟨base, hbase, Text.capital?_eq_some_iff.1 hupper⟩
    · exact .inl hc
  · have hany : modifiers.any isFirstCap = modifiers'.any isFirstCap := by
      rw [Bool.eq_iff_iff, List.any_eq_true, List.any_eq_true]
      simpa only [isFirstCap_iff] using hsame
    rw [heq, applyFormat_eq, hany]

/-- Whether a character is joined to the one before it: an accent above, or a line feed behind a
carriage return. -/
def joinsAccents (before c : Char) : Bool :=
  ('\u0300' ≤ c && c ≤ '\u036f') || (before = '\r' && c = '\n')

/-- A letter with an accent of its own, and a line break, under modifiers of several kinds. -/
theorem applyFormat_exactly_accented :
    ((∃ modifier ∈ ["MERGEFORMAT", "FirstCap", "FIRSTCAP"], IsFirstCap modifier)
        ↔ ∃ modifier ∈ ["firstcap"], IsFirstCap modifier)
      ∧ applyFormat "e\u0301cole\r\n" ["MERGEFORMAT", "FirstCap", "FIRSTCAP"]
          = applyFormat "e\u0301cole\r\n" ["firstcap"]
      ∧ (Segmentation.ofJoins joinsAccents).applyFormat "e\u0301cole\r\n"
          ["MERGEFORMAT", "FirstCap", "FIRSTCAP"] = "E\u0301cole\r\n" := by
  have hexactly := applyFormat_exactly "e\u0301cole\r\n" ["MERGEFORMAT", "FirstCap", "FIRSTCAP"]
  have hsame : (∃ modifier ∈ ["MERGEFORMAT", "FirstCap", "FIRSTCAP"], IsFirstCap modifier)
      ↔ ∃ modifier ∈ ["firstcap"], IsFirstCap modifier := by
    simp only [← isFirstCap_iff]
    decide +kernel
  refine ⟨hsame, hexactly.2.2.2.1 ["firstcap"] hsame, ?_⟩
  rw [hexactly.2.2.2.2 (Segmentation.ofJoins joinsAccents)]
  decide +kernel

end MailMerge
