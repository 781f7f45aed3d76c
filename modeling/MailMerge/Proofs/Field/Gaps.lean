import MailMerge.Proofs.Field.Spans

/-!
# `MailMerge.Proofs.Field.Gaps`: what stands between placeholders

`Placeholder.substitute` cuts a text at the offsets of its placeholders. `slice?` is the same cut
with its conditions checked: the offsets are in order, within the text and between characters.
`substitute?` cuts by it and gives nothing where a cut fails. A text in which placeholders are in
order is a row of gaps with the placeholders, as they are written, between them (`interleave`).

* `substituteFrom?_eq_some`: where placeholders are in order no cut fails.
* `exists_interleave`: the gaps are the same whatever the values are, and they are copied.
* `substitute_interleaves`: both for the placeholders that are found in a text.
-/

set_option autoImplicit false

namespace MailMerge.Placeholder

open MailMerge.Text

/-! ### Checked cuts -/

instance (text : List Char) (offset : Nat) : Decidable (IsBoundary text offset) :=
  inferInstanceAs (Decidable (∃ before ∈ text.inits, byteSize before = offset))

/-- The characters between two offsets, if the offsets are in order and none of them is behind the
text or inside a character. -/
def slice? (start stop : Nat) (text : List Char) : Option (List Char) :=
  if start ≤ stop ∧ IsBoundary text start ∧ IsBoundary text stop then some (slice start stop text)
  else none

/-- The text from `cursor` on with values in place of placeholders, by checked cuts. -/
def substituteFrom? (cursor : Nat) (text : List Char) :
    List Placeholder → List (Option String) → Option (List Char)
  | p :: ps, value :: values => do
    let gap ← slice? cursor p.start text
    let written ← match value with
      | some value => some value.toList
      | none => slice? p.start p.stop text
    let rest ← substituteFrom? p.stop text ps values
    return gap ++ written ++ rest
  | _, _ => slice? cursor (byteSize text) text

/-- The text with values in place of placeholders, paired in order, if no cut fails. -/
def substitute? (text : String) (placeholders : List Placeholder)
    (values : List (Option String)) : Option String :=
  (substituteFrom? 0 text.toList placeholders values).map .ofList

theorem slice?_eq_some {text : List Char} {start stop : Nat} (hle : start ≤ stop)
    (hstart : IsBoundary text start) (hstop : IsBoundary text stop) :
    slice? start stop text = some (slice start stop text) :=
  if_pos ⟨hle, hstart, hstop⟩

theorem isBoundary_byteSize (text : List Char) : IsBoundary text (byteSize text) := by
  have h := isBoundary_append text []
  rwa [List.append_nil] at h

/-- The cut at the end takes all that is left. -/
theorem slice?_byteSize {text : List Char} {cursor : Nat} (h : IsBoundary text cursor) :
    slice? cursor (byteSize text) text = some (dropBytes cursor text) := by
  obtain ⟨before, hbefore, rfl⟩ := h
  obtain ⟨behind, rfl⟩ := (List.mem_inits _ _).1 hbefore
  have hslice := slice_append before behind []
  rw [List.append_nil, ← byteSize_append] at hslice
  rw [slice?_eq_some (by simp) (isBoundary_append before behind) (isBoundary_byteSize _), hslice,
    dropBytes_append]

theorem substituteFrom?_eq_some {text : List Char} {cursor : Nat} {ps : List Placeholder}
    (hcursor : IsBoundary text cursor) (h : InOrderFrom text cursor ps)
    (values : List (Option String)) :
    substituteFrom? cursor text ps values = some (substituteFrom cursor text ps values) := by
  induction ps generalizing cursor values with
  | nil => exact slice?_byteSize hcursor
  | cons p ps ih =>
      cases values with
      | nil => exact slice?_byteSize hcursor
      | cons value values =>
          obtain ⟨hle, hspan, hstart, hstop, hrest⟩ := h
          have hgap := slice?_eq_some hle hcursor hstart
          have hwritten := slice?_eq_some hspan hstart hstop
          have hbehind := ih hstop hrest values
          cases value with
          | none => simp [substituteFrom?, substituteFrom, hgap, hwritten, hbehind]
          | some value => simp [substituteFrom?, substituteFrom, hgap, hbehind]

/-! ### Gaps and pieces -/

/-- Gaps with pieces between them, in turn. -/
def interleave : List (List Char) → List (List Char) → List Char
  | gap :: gaps, piece :: pieces => gap ++ piece ++ interleave gaps pieces
  | gaps, _ => gaps.flatten

/-- The spans of the pieces between gaps, in a text that begins at an offset. -/
def spansFrom (offset : Nat) : List (List Char) → List (List Char) → List (Nat × Nat)
  | gap :: gaps, piece :: pieces =>
    let start := offset + byteSize gap
    let stop := start + byteSize piece
    (start, stop) :: spansFrom stop gaps pieces
  | _, _ => []

/-- What stands in the place of a placeholder: its value, or the placeholder as it is written where
it has none. -/
def inPlace (written : List Char) (value : Option String) : List Char :=
  value.elim written String.toList

/-- The gaps around placeholders depend on the text alone, not on the values. -/
theorem exists_interleave (pre cs : List Char) {ps : List Placeholder}
    (h : InOrderFrom (pre ++ cs) (byteSize pre) ps) :
    ∃ gaps written : List (List Char), gaps.length = written.length + 1
      ∧ cs = interleave gaps written
      ∧ ps.map (fun p => (p.start, p.stop)) = spansFrom (byteSize pre) gaps written
      ∧ ∀ values : List (Option String), values.length = ps.length →
        substituteFrom (byteSize pre) (pre ++ cs) ps values
          = interleave gaps (List.zipWith inPlace written values) := by
  induction ps generalizing pre cs with
  | nil =>
      refine ⟨[cs], [], rfl, by simp [interleave], rfl, fun values hvalues => ?_⟩
      show dropBytes (byteSize pre) (pre ++ cs) = interleave [cs] []
      rw [dropBytes_append]
      simp [interleave]
  | cons p ps ih =>
      obtain ⟨hcursor, hspan, hstart, hstop, hrest⟩ := h
      obtain ⟨before, here, cs', rfl, hstart, hstop⟩ :=
        exists_of_boundaries hcursor hspan hstart hstop
      have htext : pre ++ (before ++ here ++ cs') = pre ++ before ++ here ++ cs' := by simp
      obtain ⟨gaps, written, hlength, hcs', hspans, hout⟩ :=
        ih (pre ++ before ++ here) cs' (by rwa [← hstop, ← htext])
      refine ⟨before :: gaps, here :: written, by simp [hlength], ?_, ?_, ?_⟩
      · rw [interleave, ← hcs']
      · have hstart' : p.start = byteSize pre + byteSize before := by
          rw [hstart, byteSize_append]
        have hstop' : p.stop = byteSize pre + byteSize before + byteSize here := by
          rw [hstop, byteSize_append, byteSize_append]
        rw [← hstop, hstop'] at hspans
        rw [List.map_cons, hspans, hstart', hstop']
        rfl
      · intro values hvalues
        cases values with
        | nil => simp at hvalues
        | cons value values =>
            have hbehind := hout values (by simpa using hvalues)
            rw [← hstop] at hbehind
            rw [substituteFrom_cons hstart hstop, hbehind]
            rfl

/-- Without values every placeholder stays as it is written. -/
theorem zipWith_inPlace_replicate (written : List (List Char)) :
    List.zipWith inPlace written (List.replicate written.length none) = written := by
  induction written with
  | nil => rfl
  | cons here written ih =>
      rw [List.length_cons, List.replicate_succ, List.zipWith_cons_cons, ih]
      rfl

theorem length_spansFrom {offset : Nat} {gaps written : List (List Char)}
    (h : gaps.length = written.length + 1) :
    (spansFrom offset gaps written).length = written.length := by
  induction written generalizing offset gaps with
  | nil => cases gaps <;> rfl
  | cons here written ih =>
      cases gaps with
      | nil => simp at h
      | cons gap gaps => simpa [spansFrom] using ih (by simpa using h)

/-! ### Placeholders in brackets -/

/-- To put values in the places of the placeholders in a text takes no cut that fails. The text is a
row of gaps with the placeholders between them, each on its own span, and the result is the same
gaps with the values between them as they are, or with the placeholder where there is no value. So a
text without any value stays as it is. -/
theorem substitute_interleaves (text : String) {values : List (Option String)}
    (h : values.length = (findBracketed text).length) :
    substitute? text (findBracketed text) values
        = some (substitute text (findBracketed text) values)
      ∧ (∃ gaps written : List (List Char), gaps.length = written.length + 1
        ∧ text.toList = interleave gaps written
        ∧ (findBracketed text).map (fun p => (p.start, p.stop)) = spansFrom 0 gaps written
        ∧ (substitute text (findBracketed text) values).toList
          = interleave gaps (List.zipWith inPlace written values))
      ∧ substitute text (findBracketed text) (values.map fun _ => none) = text := by
  have horder : InOrderFrom text.toList 0 (findBracketed text) := inOrder_findBracketed text
  have hzero : IsBoundary text.toList 0 := isBoundary_append [] text.toList
  obtain ⟨gaps, written, hlength, htext, hspans, hout⟩ := exists_interleave [] text.toList horder
  simp only [byteSize_nil, List.nil_append] at hspans hout
  have hwritten : written.length = values.length := by
    rw [h, ← length_spansFrom hlength, ← hspans, List.length_map]
  refine ⟨?_, ⟨gaps, written, hlength, htext, hspans, ?_⟩, ?_⟩
  · unfold substitute? substitute
    rw [substituteFrom?_eq_some hzero horder values, Option.map_some]
  · unfold substitute
    rw [String.toList_ofList]
    exact hout values h
  · unfold substitute
    rw [hout _ (by rw [List.length_map, h]), List.map_const', ← hwritten,
      zipWith_inPlace_replicate, ← htext, String.ofList_toList]

/-- A value that looks like a placeholder, and a placeholder without a value. -/
theorem substitute_interleaves_invoice :
    let text := "№ [[ Sum ]] – [[Name]]"
    let values := [some "[[Name]]", none]
    values.length = (findBracketed text).length
      ∧ substitute? text (findBracketed text) values
        = some (substitute text (findBracketed text) values)
      ∧ (∃ gaps written : List (List Char), gaps.length = written.length + 1
        ∧ text.toList = interleave gaps written
        ∧ (findBracketed text).map (fun p => (p.start, p.stop)) = spansFrom 0 gaps written
        ∧ (substitute text (findBracketed text) values).toList
          = interleave gaps (List.zipWith inPlace written values))
      ∧ substitute text (findBracketed text) (values.map fun _ => none) = text := by
  intro text values
  have h : values.length = (findBracketed text).length := by decide +kernel
  exact ⟨h, substitute_interleaves text h⟩

example :
    substitute? "№ [[ Sum ]] – [[Name]]" (findBracketed "№ [[ Sum ]] – [[Name]]")
        [some "[[Name]]", none]
      = some "№ [[Name]] – [[Name]]" := by
  decide +kernel

end MailMerge.Placeholder
