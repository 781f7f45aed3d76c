import MailMerge.Proofs.Field.Spans
import MailMerge.Proofs.Text.Cut
import MailMerge.Proofs.Text.Trim
import MailMerge.Proofs.Workbook.Fields

/-!
# `MailMerge.Proofs.Workbook.Placeholders`: which placeholders there are in a text

A placeholder in brackets is two opening brackets, a body that is not empty and holds no bracket,
and two closing brackets. `Placeholder.findBracketed` reads a text once and goes on behind each
placeholder that it meets. It misses none: no two placeholders have a character in common.

* `bracketed?_eq_some_iff`: what is read at one place.
* `mem_findBracketedFrom_iff`: what is found in a text, at any places.
* `isExpression_iff`: what a body asks for.
* `findBracketed_exact`: the placeholders of a text, and the shared strings that are fields.
-/

set_option autoImplicit false

namespace MailMerge.Placeholder

open MailMerge.Text

/-! ### Bodies -/

/-- What can stand between the brackets. -/
structure IsBody (body : List Char) : Prop where
  ne_nil : body ≠ []
  plain : ∀ c ∈ body, c ≠ '[' ∧ c ≠ ']'

theorem isPlain_iff {c : Char} : isPlain c = true ↔ c ≠ '[' ∧ c ≠ ']' := by
  simp [isPlain]

/-- At the front of a text a placeholder is read exactly where there is one. -/
theorem bracketed?_eq_some_iff {cs body rest : List Char} :
    bracketed? cs = some (body, rest) ↔ cs = brackets body ++ rest ∧ IsBody body := by
  constructor
  · intro h
    have hcs : cs = brackets body ++ rest := by
      rw [eq_of_bracketed? h]
      simp [brackets]
    refine ⟨hcs, ?_⟩
    unfold bracketed? at h
    split at h
    · rename_i tail
      split at h
      · rename_i c body' rest' htake _
        cases h
        refine ⟨List.cons_ne_nil c body', fun d hd => isPlain_iff.1 ?_⟩
        rw [← htake] at hd
        exact List.mem_takeWhile_imp hd
      · cases h
    · cases h
  · rintro ⟨rfl, hbody⟩
    -- The first closing bracket ends the body.
    have hclose : ∀ c ∈ (']' :: ']' :: rest).head?, isPlain c = false := by
      intro c hc
      obtain rfl : ']' = c := by simpa using hc
      rfl
    obtain ⟨htake, hdrop⟩ := (takeWhile_dropWhile_iff (p := isPlain)).2
      ⟨rfl, fun c hc => isPlain_iff.2 (hbody.plain c hc), hclose⟩
    have htext : brackets body ++ rest = '[' :: '[' :: (body ++ ']' :: ']' :: rest) := by
      simp [brackets]
    rw [htext]
    simp only [bracketed?, htake, hdrop]
    obtain ⟨c, body, rfl⟩ := List.exists_cons_of_ne_nil hbody.ne_nil
    rfl

/-! ### Places -/

/-- A placeholder that begins behind the front of another stands behind all of it: the only opening
brackets of the other are its first two characters. -/
theorem exists_append_of_brackets {body body' before rest behind : List Char} (hbody : IsBody body)
    (hbefore : before ≠ [])
    (heq : brackets body ++ rest = before ++ brackets body' ++ behind) :
    ∃ between, before = brackets body ++ between
      ∧ rest = between ++ brackets body' ++ behind := by
  have hmark : '[' ∉ body ++ [']', ']'] := by
    intro hmem
    rcases List.mem_append.1 hmem with hmem | hmem
    · exact (hbody.plain _ hmem).1 rfl
    · simp at hmem
  obtain ⟨c, before, rfl⟩ := List.exists_cons_of_ne_nil hbefore
  have htail : '[' :: (body ++ [']', ']'] ++ rest)
      = before ++ '[' :: ('[' :: body' ++ [']', ']'] ++ behind) := by
    simpa [brackets] using (List.cons.inj heq).2
  have hc : c = '[' := (List.cons.inj heq).1.symm
  cases before with
  | nil =>
      -- Then the body would begin with a bracket.
      obtain ⟨d, body, rfl⟩ := List.exists_cons_of_ne_nil hbody.ne_nil
      have hd : d = '[' := by
        simp only [List.nil_append, List.cons_append, List.cons.injEq, true_and] at htail
        exact htail.1
      exact absurd hd (hbody.plain d List.mem_cons_self).1
  | cons d before =>
      rw [List.cons_append, List.cons.injEq] at htail
      obtain ⟨rfl, htail⟩ := htail
      obtain ⟨between, rfl, hrest⟩ := exists_append_of_not_mem hmark htail
      refine ⟨between, ?_, ?_⟩
      · simp [hc, brackets]
      · simpa [brackets] using hrest

/-- A placeholder is found in a text exactly where there is one. -/
theorem mem_findBracketedFrom_iff {offset : Nat} {cs : List Char} {p : Placeholder} :
    p ∈ findBracketedFrom offset cs
      ↔ ∃ before body behind, cs = before ++ brackets body ++ behind ∧ IsBody body
        ∧ p = ⟨offset + byteSize before, offset + byteSize before + byteSize (brackets body),
            .ofList (bracketedExpression body), []⟩ := by
  fun_induction findBracketedFrom offset cs with
  | case1 offset cs body rest h stop ih =>
      have hbrackets := bracketed?_eq_some_iff.1 h
      obtain ⟨rfl, hbody⟩ := hbrackets
      have hstop : stop = offset + byteSize (brackets body) := by
        rw [byteSize_brackets]
        exact Nat.add_assoc offset _ 4
      rw [List.mem_cons, ih]
      constructor
      · rintro (rfl | ⟨before, body', behind, rfl, hbody', rfl⟩)
        · exact ⟨[], body, rest, rfl, hbody, by simp [hstop]⟩
        · refine ⟨brackets body ++ before, body', behind, by simp, hbody', ?_⟩
          simp [hstop, Nat.add_assoc]
      · rintro ⟨before, body', behind, heq, hbody', rfl⟩
        by_cases hbefore : before = []
        · -- The placeholder is the one that was read.
          subst hbefore
          rw [List.nil_append] at heq
          rw [bracketed?_eq_some_iff.2 ⟨heq, hbody'⟩] at h
          cases h
          exact Or.inl (by simp [hstop])
        · obtain ⟨between, rfl, rfl⟩ := exists_append_of_brackets hbody hbefore heq
          refine Or.inr ⟨between, body', behind, rfl, hbody', ?_⟩
          simp [hstop, Nat.add_assoc]
  | case2 offset h =>
      simp [brackets]
  | case3 offset c cs h ih =>
      rw [ih]
      constructor
      · rintro ⟨before, body, behind, rfl, hbody, rfl⟩
        exact ⟨c :: before, body, behind, rfl, hbody, by simp [Nat.add_assoc]⟩
      · rintro ⟨before, body, behind, heq, hbody, rfl⟩
        cases before with
        | nil =>
            rw [List.nil_append] at heq
            rw [bracketed?_eq_some_iff.2 ⟨heq, hbody⟩] at h
            cases h
        | cons d before =>
            rw [List.cons_append, List.cons_append, List.cons.injEq] at heq
            obtain ⟨rfl, rfl⟩ := heq
            exact ⟨before, body, behind, rfl, hbody, by simp [Nat.add_assoc]⟩

/-- Between two offsets of a text there is a placeholder with a body. -/
structure StandsAt (text : List Char) (start stop : Nat) (body : List Char) : Prop where
  isBody : IsBody body
  exists_append : ∃ before behind, text = before ++ brackets body ++ behind
    ∧ start = byteSize before ∧ stop = byteSize (before ++ brackets body)

theorem StandsAt.lt {text body : List Char} {start stop : Nat}
    (h : StandsAt text start stop body) : start < stop := by
  obtain ⟨before, behind, -, rfl, rfl⟩ := h.exists_append
  rw [byteSize_append, byteSize_brackets]
  omega

/-! ### What a body asks for -/

/-- The expression that stands in a body: what is left of the body without the white space around
it, or its last character where there is nothing but white space. -/
inductive IsExpression (body : List Char) : List Char → Prop where
  | trimmed {front cs back : List Char} (h : body = front ++ cs ++ back)
      (hfront : ∀ c ∈ front, isBlank c = true) (hback : ∀ c ∈ back, isBlank c = true)
      (hne : cs ≠ []) (hhead : ∀ c ∈ cs.head?, isBlank c = false)
      (hlast : ∀ c ∈ cs.getLast?, isBlank c = false) :
      IsExpression body cs
  | blank {c : Char} (h : ∀ d ∈ body, isBlank d = true) (hlast : body.getLast? = some c) :
      IsExpression body [c]

theorem isExpression_bracketedExpression {body : List Char} (h : body ≠ []) :
    IsExpression body (bracketedExpression body) := by
  unfold bracketedExpression
  split
  · rename_i hnil
    have hblank := trimChars_eq_nil_iff.1 hnil
    rw [List.getLast?_eq_some_getLast h]
    exact .blank hblank (List.getLast?_eq_some_getLast h)
  · rename_i hne
    obtain ⟨front, back, hbody, hfront, hback⟩ := exists_append_trimChars body
    obtain ⟨hhead, hlast⟩ := trimChars_eq_self_iff.1 (trimChars_trimChars body)
    exact .trimmed hbody hfront hback hne hhead hlast

/-- There is one expression in a body, and it is the one that is read. -/
theorem isExpression_iff {body cs : List Char} (h : body ≠ []) :
    IsExpression body cs ↔ bracketedExpression body = cs := by
  constructor
  · intro hcs
    unfold bracketedExpression
    cases hcs with
    | @trimmed front cs back hbody hfront hback hne hhead hlast =>
        have htrim : trimChars body = cs := by
          rw [hbody, trimChars_append_of_blank hback, trimChars_blank_append hfront]
          exact trimChars_eq_self_iff.2 ⟨hhead, hlast⟩
        rw [htrim]
        split
        · exact absurd rfl hne
        · rfl
    | blank hblank hlast =>
        rw [trimChars_eq_nil_iff.2 hblank, hlast]
        rfl
  · rintro rfl
    exact isExpression_bracketedExpression h

/-! ### Whole texts -/

theorem mem_findBracketed_iff {text : String} {p : Placeholder} :
    p ∈ findBracketed text
      ↔ p.modifiers = [] ∧ ∃ body, StandsAt text.toList p.start p.stop body
        ∧ IsExpression body p.expression.toList := by
  unfold findBracketed
  rw [mem_findBracketedFrom_iff]
  constructor
  · rintro ⟨before, body, behind, htext, hbody, rfl⟩
    refine ⟨rfl, body, ⟨hbody, before, behind, htext, by simp, by simp⟩, ?_⟩
    rw [String.toList_ofList]
    exact isExpression_bracketedExpression hbody.ne_nil
  · obtain ⟨start, stop, expression, modifiers⟩ := p
    rintro ⟨hmodifiers, body, ⟨hbody, before, behind, htext, hstart, hstop⟩, hexpression⟩
    refine ⟨before, body, behind, htext, hbody, ?_⟩
    rw [(isExpression_iff hbody.ne_nil).1 hexpression, String.ofList_toList]
    dsimp only at hstart hstop hmodifiers
    rw [hstart, hstop, hmodifiers, byteSize_append, Nat.zero_add]

theorem exists_mem_findBracketed_iff {text : String} {start stop : Nat} :
    (∃ p ∈ findBracketed text, p.start = start ∧ p.stop = stop)
      ↔ ∃ body, StandsAt text.toList start stop body := by
  constructor
  · rintro ⟨p, hp, rfl, rfl⟩
    obtain ⟨-, body, hstands, -⟩ := mem_findBracketed_iff.1 hp
    exact ⟨body, hstands⟩
  · intro ⟨body, hstands⟩
    refine ⟨⟨start, stop, .ofList (bracketedExpression body), []⟩, ?_, rfl, rfl⟩
    refine mem_findBracketed_iff.2 ⟨rfl, body, hstands, ?_⟩
    rw [String.toList_ofList]
    exact isExpression_bracketedExpression hstands.isBody.ne_nil

theorem InOrderFrom.pairwise {text : List Char} {cursor : Nat} {ps : List Placeholder}
    (h : InOrderFrom text cursor ps) :
    (∀ p ∈ ps, cursor ≤ p.start) ∧ ps.Pairwise fun p q => p.stop ≤ q.start := by
  induction ps generalizing cursor with
  | nil => simp
  | cons p ps ih =>
      obtain ⟨hcursor, hspan, -, -, hrest⟩ := h
      obtain ⟨hbehind, hpairwise⟩ := ih hrest
      refine ⟨fun q hq => ?_, .cons hbehind hpairwise⟩
      rcases List.mem_cons.1 hq with rfl | hq
      · exact hcursor
      · have := hbehind q hq
        omega

/-- Placeholders are found from left to right, each once, and no two overlap. -/
theorem pairwise_findBracketed (text : String) :
    (findBracketed text).Pairwise fun p q => p.start < q.start ∧ p.stop ≤ q.start := by
  refine (inOrder_findBracketed text).pairwise.2.imp_of_mem fun {p q} hp _ hle => ?_
  obtain ⟨-, body, hstands, -⟩ := mem_findBracketed_iff.1 hp
  have hlt := hstands.lt
  exact ⟨by omega, hle⟩

/-- The placeholders that are found in a text are those that stand in it, with the expressions in
their bodies. They come from left to right, each once, on spans of whole characters that do not
overlap. So the shared strings that show a placeholder are the fields of a workbook. -/
theorem findBracketed_exact (text : String) :
    (∀ p, p ∈ findBracketed text
        ↔ p.modifiers = [] ∧ ∃ body, StandsAt text.toList p.start p.stop body
          ∧ IsExpression body p.expression.toList)
      ∧ (∀ start stop, (∃ p ∈ findBracketed text, p.start = start ∧ p.stop = stop)
        ↔ ∃ body, StandsAt text.toList start stop body)
      ∧ ((findBracketed text).Pairwise fun p q => p.start < q.start ∧ p.stop ≤ q.start)
      ∧ InOrder text (findBracketed text)
      ∧ ∀ (w : Workbook) (field : SharedStringField), field ∈ w.fields
        ↔ ∃ item start stop body, w.items[field.index]? = some (field.child, item)
          ∧ StandsAt (w.names.itemText item).toList start stop body := by
  refine ⟨fun p => mem_findBracketed_iff, fun start stop => exists_mem_findBracketed_iff,
    pairwise_findBracketed text, inOrder_findBracketed text, fun w field => ?_⟩
  rw [Workbook.mem_fields_iff]
  refine exists_congr fun item => ?_
  constructor
  · intro ⟨hitem, hne⟩
    obtain ⟨p, hp⟩ := List.exists_mem_of_ne_nil _ hne
    obtain ⟨body, hstands⟩ := exists_mem_findBracketed_iff.1 ⟨p, hp, rfl, rfl⟩
    exact ⟨p.start, p.stop, body, hitem, hstands⟩
  · intro ⟨start, stop, body, hitem, hstands⟩
    obtain ⟨p, hp, -⟩ := exists_mem_findBracketed_iff.2 ⟨body, hstands⟩
    exact ⟨hitem, List.ne_nil_of_mem hp⟩

/-- Offsets count bytes, and brackets in a row belong to the placeholder as late as possible. -/
example :
    (findBracketed "é[[[ a ]]] [[ ]] [[b[[c]]").map (fun p => (p.start, p.stop, p.expression))
      = [(3, 10, "a"), (12, 17, " "), (21, 26, "c")] := by
  decide +kernel

end MailMerge.Placeholder
