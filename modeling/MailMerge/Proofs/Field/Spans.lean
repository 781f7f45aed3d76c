import MailMerge.Proofs.Field.Substitution
import MailMerge.Proofs.Text.Occurrence

/-!
# `MailMerge.Proofs.Field.Spans`: placeholders on spans of a text

`Placeholder.substitute` takes any offsets. It does what its name says where the placeholders stand
one after another on spans of whole characters (`InOrder`): then the text falls into the pieces
between the placeholders and the placeholders as written, and the result has values in place of the
latter (`Filled`).

* `filled_substitute`: what `substitute` makes of such a text.
* `inOrder_findBracketed`: placeholders in brackets stand so.
-/

set_option autoImplicit false

namespace MailMerge.Placeholder

open MailMerge.Text

/-! ### Offsets between characters -/

/-- An offset that no character of the text lies across. -/
def IsBoundary (text : List Char) (offset : Nat) : Prop :=
  ∃ before ∈ text.inits, byteSize before = offset

theorem isBoundary_append (before behind : List Char) :
    IsBoundary (before ++ behind) (byteSize before) :=
  ⟨before, (List.mem_inits _ _).2 (List.prefix_append _ _), rfl⟩

/-- Boundaries behind the beginning of a text cut the rest of it in three. -/
theorem exists_of_boundaries {pre cs : List Char} {start stop : Nat}
    (hpre : byteSize pre ≤ start) (hspan : start ≤ stop) (hstart : IsBoundary (pre ++ cs) start)
    (hstop : IsBoundary (pre ++ cs) stop) :
    ∃ before written rest, cs = before ++ written ++ rest
      ∧ start = byteSize (pre ++ before) ∧ stop = byteSize (pre ++ before ++ written) := by
  obtain ⟨upTo, hupTo, rfl⟩ := hstart
  obtain ⟨through, hthrough, rfl⟩ := hstop
  rw [List.mem_inits] at hupTo hthrough
  obtain ⟨before, rfl⟩ := prefix_of_byteSize_le (List.prefix_append pre cs) hupTo hpre
  obtain ⟨written, rfl⟩ := prefix_of_byteSize_le hupTo hthrough hspan
  obtain ⟨rest, hrest⟩ := hthrough
  refine ⟨before, written, rest, ?_, rfl, rfl⟩
  rw [List.append_assoc, List.append_assoc, List.append_right_inj, ← List.append_assoc] at hrest
  exact hrest.symm

/-! ### Placeholders in order -/

/-- From an offset on, placeholders stand one after another on spans of whole characters. -/
def InOrderFrom (text : List Char) : Nat → List Placeholder → Prop
  | _, [] => True
  | cursor, p :: ps =>
    cursor ≤ p.start ∧ p.start ≤ p.stop ∧ IsBoundary text p.start ∧ IsBoundary text p.stop
      ∧ InOrderFrom text p.stop ps

/-- Placeholders stand one after another on spans of whole characters of a text. -/
def InOrder (text : String) (ps : List Placeholder) : Prop := InOrderFrom text.toList 0 ps

/-- A text from an offset on, its placeholders, and the text with values in their places. What
stands between placeholders stays, and so does a placeholder without a value, as it is written. -/
inductive Filled (value? : Placeholder → Option String) :
    Nat → List Char → List Placeholder → List Char → Prop where
  | rest (offset : Nat) (cs : List Char) : Filled value? offset cs [] cs
  | placeholder {offset : Nat} {before written cs out : List Char} {p : Placeholder}
      {ps : List Placeholder} (hstart : p.start = offset + byteSize before)
      (hstop : p.stop = p.start + byteSize written) (hrest : Filled value? p.stop cs ps out) :
      Filled value? offset (before ++ written ++ cs) (p :: ps)
        (before ++ (value? p).elim written String.toList ++ out)

/-- The first placeholder is replaced: what stands before it is copied, and the value or the
placeholder itself follows. -/
theorem substituteFrom_cons {pre before written rest : List Char} {p : Placeholder}
    (hstart : p.start = byteSize (pre ++ before))
    (hstop : p.stop = byteSize (pre ++ before ++ written)) (ps : List Placeholder)
    (value : Option String) (values : List (Option String)) :
    substituteFrom (byteSize pre) (pre ++ (before ++ written ++ rest)) (p :: ps) (value :: values)
      = before ++ value.elim written String.toList
        ++ substituteFrom p.stop (pre ++ before ++ written ++ rest) ps values := by
  have htext : pre ++ (before ++ written ++ rest) = pre ++ before ++ written ++ rest := by simp
  have hbefore : slice (byteSize pre) p.start (pre ++ before ++ written ++ rest) = before := by
    rw [hstart, byteSize_append, List.append_assoc (pre ++ before)]
    exact slice_append pre before _
  have hwritten : slice p.start p.stop (pre ++ before ++ written ++ rest) = written := by
    rw [hstop, hstart, byteSize_append (pre ++ before)]
    exact slice_append (pre ++ before) written rest
  simp only [substituteFrom]
  rw [htext, hbefore, hwritten]
  cases value <;> rfl

/-- Replacing from the end of `pre` on. -/
theorem filled_substituteFrom (value? : Placeholder → Option String) (pre cs : List Char)
    {ps : List Placeholder} (h : InOrderFrom (pre ++ cs) (byteSize pre) ps) :
    Filled value? (byteSize pre) cs ps
      (substituteFrom (byteSize pre) (pre ++ cs) ps (ps.map value?)) := by
  induction ps generalizing pre cs with
  | nil =>
      have hout : substituteFrom (byteSize pre) (pre ++ cs) [] [] = cs := dropBytes_append pre cs
      rw [List.map_nil, hout]
      exact .rest _ cs
  | cons p ps ih =>
      obtain ⟨hcursor, hspan, hstart, hstop, hrest⟩ := h
      obtain ⟨before, written, cs', rfl, hstart, hstop⟩ :=
        exists_of_boundaries hcursor hspan hstart hstop
      have htext : pre ++ (before ++ written ++ cs') = pre ++ before ++ written ++ cs' := by simp
      have hfilled := ih (pre ++ before ++ written) cs' (by rwa [← hstop, ← htext])
      rw [← hstop] at hfilled
      rw [List.map_cons, substituteFrom_cons hstart hstop]
      exact .placeholder (by rw [hstart, byteSize_append])
        (by rw [hstop, hstart, byteSize_append (pre ++ before)]) hfilled

/-- Where placeholders are in order, `substitute` puts values in their places and copies the
rest. -/
theorem filled_substitute (value? : Placeholder → Option String) {text : String}
    {ps : List Placeholder} (h : InOrder text ps) :
    Filled value? 0 text.toList ps (substitute text ps (ps.map value?)).toList := by
  unfold substitute
  rw [String.toList_ofList]
  exact filled_substituteFrom value? [] text.toList h

/-! ### Placeholders in brackets -/

/-- Placeholders found in the rest of a text are in order, from any place before them on. -/
theorem inOrder_findBracketedFrom (pre cs : List Char) (offset : Nat)
    (hoffset : offset = byteSize pre) {cursor : Nat} (hcursor : cursor ≤ offset) :
    InOrderFrom (pre ++ cs) cursor (findBracketedFrom offset cs) := by
  fun_induction findBracketedFrom offset cs generalizing pre cursor with
  | case1 offset cs body rest h stop ih =>
      have hcs : cs = brackets body ++ rest := by
        rw [eq_of_bracketed? h]
        simp [brackets]
      have hstop : stop = byteSize (pre ++ brackets body) := by
        rw [byteSize_append, byteSize_brackets, ← hoffset]
        omega
      have hrest := ih (pre ++ brackets body) hstop (Nat.le_refl _)
      rw [hcs, ← List.append_assoc]
      refine ⟨hcursor, by show offset ≤ stop; omega, ?_, ?_, hrest⟩
      · show IsBoundary _ offset
        rw [hoffset, List.append_assoc]
        exact isBoundary_append pre _
      · show IsBoundary _ stop
        rw [hstop]
        exact isBoundary_append (pre ++ brackets body) rest
  | case2 offset h => exact trivial
  | case3 offset c cs h ih =>
      have hrest := @ih (pre ++ [c]) (by simp [hoffset]) cursor (by omega)
      rwa [List.append_assoc] at hrest

theorem inOrder_findBracketed (text : String) : InOrder text (findBracketed text) :=
  inOrder_findBracketedFrom [] text.toList 0 rfl (Nat.le_refl 0)

end MailMerge.Placeholder
