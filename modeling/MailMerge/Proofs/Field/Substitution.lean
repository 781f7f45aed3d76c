import MailMerge.Field.Placeholder

/-!
# `MailMerge.Proofs.Field.Substitution`: placeholders in brackets, replaced in one reading

`Placeholder.substitute` works on byte offsets that `Placeholder.findBracketed` computed before.
`fillIn` is the same replacement without offsets: it reads the text once, from left to right, and
replaces each placeholder where it meets it. `substitute_findBracketed` states that the two agree.
-/

set_option autoImplicit false

namespace MailMerge.Placeholder

open MailMerge.Text

/-- A placeholder as it is written. -/
def brackets (body : List Char) : List Char := '[' :: '[' :: body ++ [']', ']']

/-- The text with each placeholder replaced by the value of its expression. A placeholder without a
value stays as it is written. -/
def fillIn (value? : String → Option String) (cs : List Char) : List Char :=
  match _h : bracketed? cs with
  | some (body, rest) =>
    (match value? (.ofList (bracketedExpression body)) with
      | some value => value.toList
      | none => brackets body) ++ fillIn value? rest
  | none =>
    match cs with
    | [] => []
    | c :: cs => c :: fillIn value? cs
termination_by cs.length
decreasing_by
  · rw [eq_of_bracketed? _h]
    simp
    omega
  · simp

theorem fillIn_of_bracketed? {value? : String → Option String} {cs body rest : List Char}
    (h : bracketed? cs = some (body, rest)) :
    fillIn value? cs
      = (match value? (.ofList (bracketedExpression body)) with
        | some value => value.toList
        | none => brackets body) ++ fillIn value? rest := by
  rw [fillIn]
  split
  · rename_i h'
    rw [h] at h'
    cases h'
    rfl
  · rename_i h'
    rw [h] at h'
    cases h'

theorem fillIn_cons {value? : String → Option String} {c : Char} {cs : List Char}
    (h : bracketed? (c :: cs) = none) : fillIn value? (c :: cs) = c :: fillIn value? cs := by
  rw [fillIn]
  split
  · rename_i h'
    rw [h] at h'
    cases h'
  · rfl

theorem byteSize_brackets (body : List Char) : byteSize (brackets body) = byteSize body + 4 := by
  have hopen : '['.utf8Size = 1 := by decide
  have hclose : ']'.utf8Size = 1 := by decide
  simp only [brackets, List.cons_append, byteSize_cons, byteSize_append, byteSize_nil, hopen,
    hclose]
  omega

/-- A slice at the seams of three texts is the one in the middle. -/
theorem slice_append (pre mid post : List Char) :
    slice (byteSize pre) (byteSize pre + byteSize mid) (pre ++ mid ++ post) = mid := by
  unfold slice
  rw [List.append_assoc, dropBytes_append, Nat.add_sub_cancel_left, takeBytes_append]

/-- Replacing from the end of `pre` on, where `mid` is already known to hold no placeholder: the
offsets of the placeholders found in `cs` lead to where `fillIn` meets them. -/
theorem substituteFrom_findBracketedFrom (value? : String → Option String)
    (pre mid cs : List Char) (offset : Nat) (hoffset : offset = byteSize pre + byteSize mid) :
    substituteFrom (byteSize pre) (pre ++ mid ++ cs) (findBracketedFrom offset cs)
        ((findBracketedFrom offset cs).map fun p => value? p.expression)
      = mid ++ fillIn value? cs := by
  fun_induction findBracketedFrom offset cs generalizing pre mid with
  | case1 offset cs body rest h stop ih =>
      -- A placeholder: `mid` is copied, and the rest is read from the end of the placeholder on.
      have hcs : cs = brackets body ++ rest := by
        rw [eq_of_bracketed? h]
        simp [brackets]
      have hstop : stop = byteSize (pre ++ mid) + byteSize (brackets body) := by
        rw [byteSize_append, byteSize_brackets, ← hoffset]
        omega
      have htext : pre ++ mid ++ cs = pre ++ mid ++ brackets body ++ rest := by
        rw [hcs, List.append_assoc (pre ++ mid)]
      have hbefore : slice (byteSize pre) offset (pre ++ mid ++ cs) = mid := by
        rw [hoffset]
        exact slice_append pre mid cs
      have htemplate : slice offset stop (pre ++ mid ++ cs) = brackets body := by
        rw [htext, hstop, hoffset, ← byteSize_append]
        exact slice_append (pre ++ mid) (brackets body) rest
      have hrest := ih (pre ++ mid ++ brackets body) [] (by
        rw [byteSize_append, ← hstop]
        simp)
      simp only [List.map_cons, substituteFrom]
      rw [hbefore, htemplate, fillIn_of_bracketed? h, htext, hstop, ← byteSize_append]
      rw [hstop, ← byteSize_append] at hrest
      simp only [List.append_nil, List.nil_append] at hrest
      rw [hrest]
      cases value? (.ofList (bracketedExpression body)) with
      | none => exact List.append_assoc mid _ _
      | some value => exact List.append_assoc mid _ _
  | case2 offset h =>
      rw [fillIn]
      simp [substituteFrom, dropBytes_append, bracketed?]
  | case3 offset c cs h ih =>
      -- A character that begins no placeholder joins `mid`.
      have hrest := ih pre (mid ++ [c]) (by
        rw [hoffset, byteSize_append, byteSize_cons, byteSize_nil]
        omega)
      rw [fillIn_cons h]
      simpa using hrest

/-- The value that `substitute` gives a text with placeholders in brackets, without offsets. -/
theorem substitute_findBracketed (value? : String → Option String) (text : String) :
    substitute text (findBracketed text) ((findBracketed text).map fun p => value? p.expression)
      = .ofList (fillIn value? text.toList) := by
  have h := substituteFrom_findBracketedFrom value? [] [] text.toList 0 rfl
  simp only [byteSize_nil, List.nil_append] at h
  unfold substitute findBracketed
  rw [h]

/-- Placeholders in brackets have no format modifiers. -/
theorem modifiers_of_mem_findBracketed {text : String} {p : Placeholder}
    (h : p ∈ findBracketed text) : p.modifiers = [] := by
  unfold findBracketed at h
  -- The induction is on the text that is left, so the offset must be any.
  generalize text.toList = cs at h
  generalize 0 = offset at h
  fun_induction findBracketedFrom offset cs with
  | case1 offset cs body rest _ stop ih =>
      rcases List.mem_cons.1 h with rfl | h
      · rfl
      · exact ih h
  | case2 offset _ => simp at h
  | case3 offset c cs _ ih => exact ih h

end MailMerge.Placeholder
