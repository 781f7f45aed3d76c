import MailMerge.Proofs.Text.ByteOrder
import MailMerge.Proofs.Text.EditDistance

/-!
# `MailMerge.Proofs.Expression.Suggestions`: which names are suggested for another

Of the available names those are suggestible that differ from the name and lie within its reach.
They are ranked by their distance and, at one distance, by their bytes. The order is total, and two
names that stand in it both ways are equal. So the ranking is one list, whatever order the names
were given in, and its first three names are the suggestions.

* `perm_ranked`, `pairwise_ranked`: the ranking holds the suggestible entries, in order.
* `ranked_congr`: names given in another order are ranked the same.
* `suggestions_nearest`: the suggestions are the nearest of the suggestible names.
-/

set_option autoImplicit false

namespace MailMerge

/-! ### Suggestible names and their order -/

/-- Another name within two edits, or within one edit of a name of three characters or fewer. -/
def Suggestible (name other : String) : Prop :=
  other ≠ name ∧ ∃ n ≤ if name.length ≤ 3 then 1 else 2, EditedIn n name.toList other.toList

/-- Whether a name is suggested rather than another: it is nearer, or as near and not behind the
other in the order of bytes. -/
def RanksBefore (name a b : String) : Prop :=
  editDistance name a < editDistance name b
    ∨ editDistance name a = editDistance name b ∧ Text.utf8Bytes a ≤ Text.utf8Bytes b

theorem suggestible_iff (name other : String) :
    Suggestible name other ↔ other ≠ name ∧ editDistance name other ≤ suggestionReach name := by
  have hreach : suggestionReach name = if name.length ≤ 3 then 1 else 2 := by
    unfold suggestionReach
    split <;> split <;> omega
  rw [editDistance_le_iff, hreach]
  rfl

instance (name other : String) : Decidable (Suggestible name other) :=
  decidable_of_iff _ (suggestible_iff name other).symm

theorem RanksBefore.antisymm {name a b : String} (hab : RanksBefore name a b)
    (hba : RanksBefore name b a) : a = b := by
  rcases hab with hab | ⟨heq, hab⟩
  · rcases hba with hba | ⟨heq, -⟩ <;> omega
  · rcases hba with hba | ⟨-, hba⟩
    · omega
    · rw [← Text.le_iff_utf8Bytes_le] at hab hba
      exact String.le_antisymm hab hba

theorem suggestionLe_iff (a b : Nat × String) :
    suggestionLe a b ↔ a.1 < b.1 ∨ a.1 = b.1 ∧ a.2 ≤ b.2 := by
  simp [suggestionLe]

theorem suggestionLe_trans (a b c : Nat × String) (hab : suggestionLe a b)
    (hbc : suggestionLe b c) : suggestionLe a c := by
  rw [suggestionLe_iff] at hab hbc ⊢
  rcases hab with hab | ⟨hab, hle⟩
  · rcases hbc with hbc | ⟨hbc, -⟩ <;> exact .inl (by omega)
  · rcases hbc with hbc | ⟨hbc, hle'⟩
    · exact .inl (by omega)
    · exact .inr ⟨hab.trans hbc, String.le_trans hle hle'⟩

theorem suggestionLe_total (a b : Nat × String) : suggestionLe a b || suggestionLe b a := by
  rw [Bool.or_eq_true, suggestionLe_iff, suggestionLe_iff]
  rcases lt_trichotomy a.1 b.1 with hlt | heq | hlt
  · exact .inl (.inl hlt)
  · rcases String.le_total a.2 b.2 with hle | hle
    · exact .inl (.inr ⟨heq, hle⟩)
    · exact .inr (.inr ⟨heq.symm, hle⟩)
  · exact .inr (.inl hlt)

/-! ### The ranking -/

/-- The suggestible names with their distances, as they are available. -/
def closeNames (name : String) (available : List String) : List (Nat × String) :=
  ((available.filter (· ≠ name)).map fun other => (editDistance name other, other)).filter
    (·.1 ≤ suggestionReach name)

/-- The suggestible names, ranked. -/
def ranked (name : String) (available : List String) : List String :=
  ((closeNames name available).mergeSort suggestionLe).map (·.2)

theorem suggestions_eq (name : String) (available : List String) :
    suggestions name available = (ranked name available).take 3 :=
  List.map_take

theorem map_closeNames (name : String) (available : List String) :
    (closeNames name available).map (·.2) = available.filter (Suggestible name) := by
  unfold closeNames
  rw [List.filter_map, List.map_map, List.filter_filter]
  refine (List.map_id' _).trans (List.filter_congr fun other _ => ?_)
  simp [suggestible_iff, Bool.and_comm]

/-- The ranking holds the suggestible entries. -/
theorem perm_ranked (name : String) (available : List String) :
    (ranked name available).Perm (available.filter (Suggestible name)) := by
  rw [← map_closeNames]
  exact (List.mergeSort_perm _ _).map _

/-- The ranking is in order. -/
theorem pairwise_ranked (name : String) (available : List String) :
    (ranked name available).Pairwise (RanksBefore name) := by
  have hdistance : ∀ entry ∈ (closeNames name available).mergeSort suggestionLe,
      entry.1 = editDistance name entry.2 := by
    intro entry hentry
    have hmem := (List.mem_filter.1 ((List.mergeSort_perm _ _).mem_iff.1 hentry)).1
    obtain ⟨other, -, rfl⟩ := List.mem_map.1 hmem
    rfl
  refine List.pairwise_map.2 ?_
  refine (List.pairwise_mergeSort suggestionLe_trans suggestionLe_total _).imp_of_mem ?_
  intro a b ha hb hle
  rw [suggestionLe_iff, hdistance a ha, hdistance b hb, Text.le_iff_utf8Bytes_le] at hle
  exact hle

/-- The ranking does not depend on the order in which names are available. -/
theorem ranked_congr (name : String) {available available' : List String}
    (h : available.Perm available') : ranked name available = ranked name available' := by
  have hperm : (ranked name available).Perm (ranked name available') :=
    (perm_ranked name available).trans
      ((h.filter _).trans (perm_ranked name available').symm)
  exact hperm.eq_of_pairwise (fun _ _ _ _ hab hba => hab.antisymm hba)
    (pairwise_ranked name available) (pairwise_ranked name available')

/-! ### Suggestions -/

/-- At most three names are suggested, ranked by distance, which is the least number of edits, and
then by bytes. Suggested are entries of the available names that are suggestible. Those left out
rank behind all that are suggested, and some are left out only where three are suggested. The order
of the available names has no influence. -/
theorem suggestions_nearest (name : String) (available : List String) :
    (∀ a b, IsLeast {n | EditedIn n a.toList b.toList} (editDistance a b))
      ∧ (suggestions name available).length ≤ 3
      ∧ (suggestions name available).Pairwise (RanksBefore name)
      ∧ (∀ other ∈ suggestions name available, other ∈ available ∧ Suggestible name other)
      ∧ (∃ leftOut : List String,
          (suggestions name available ++ leftOut).Perm (available.filter (Suggestible name))
          ∧ (∀ other ∈ suggestions name available, ∀ behind ∈ leftOut,
              RanksBefore name other behind)
          ∧ (leftOut ≠ [] → (suggestions name available).length = 3))
      ∧ ∀ available' : List String, available'.Perm available →
          suggestions name available' = suggestions name available := by
  have hsplit : suggestions name available ++ (ranked name available).drop 3
      = ranked name available := by
    rw [suggestions_eq, List.take_append_drop]
  have hperm := perm_ranked name available
  have hsorted := pairwise_ranked name available
  rw [← hsplit] at hperm hsorted
  rw [List.pairwise_append] at hsorted
  refine ⟨isLeast_editDistance, ?_, hsorted.1, fun other hother => ?_,
    ⟨(ranked name available).drop 3, hperm, hsorted.2.2, fun hleft => ?_⟩,
    fun available' h => ?_⟩
  · rw [suggestions_eq, List.length_take]
    exact Nat.min_le_left _ _
  · simpa using hperm.mem_iff.1 (List.mem_append_left _ hother)
  · rw [suggestions_eq, List.length_take]
    have hlong := mt List.drop_eq_nil_of_le hleft
    omega
  · rw [suggestions_eq, suggestions_eq, ranked_congr name h]

end MailMerge
