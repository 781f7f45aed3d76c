import MailMerge.Proofs.Field.Code
import MailMerge.Proofs.Text.Pattern
import MailMerge.Proofs.Workbook.Placeholders

/-!
# `MailMerge.Proofs.Field.Pattern`: placeholders and codes as patterns

Placeholders in brackets and the codes of merge fields are given by patterns,

    \[\[\s*(?P<name>[^\[\]]+?)\s*\]\]
    (?i)^\s*MERGEFIELD\s+(?:"(?P<quoted>[^"]+)"|(?P<bare>[^\s"]+))(?P<modifiers>(?:\s*\\\*\s*\w+)*)
    \\\*\s*(\w+)

The name of a placeholder is as short as it can be between rows of white space that are as long as
they can be, so a matcher has to try and to give up. `findBracketed` and `parse?` do not try: they
read up to the first bracket and trim, and read a code once from its front. This module has the
patterns and shows that both come to the same, in every text.

* `Placeholder.findBracketed_eq_find`: the placeholders that are read are the matches of
  `Placeholder.pattern`, with their spans and names.
* `Instruction.parse?_eq_ofMatch?`: a code is read where `Instruction.pattern` matches it, with the
  name and with the words that `Instruction.switchPattern` matches in its switches.
-/

set_option autoImplicit false

namespace MailMerge

open MailMerge.Text
open MailMerge.Text.Pattern (literal anyCase)

/-- White space, as much as there is. -/
def blanks : Pattern := .many .greedy (.one isBlank)

/-! ### Placeholders in brackets -/

namespace Placeholder

/-- A placeholder in brackets: a name that is as short as it can be, with white space around, in
`\[\[\s*(?P<name>[^\[\]]+?)\s*\]\]`. -/
def pattern : Pattern :=
  .sequence (literal "[[" ++ [blanks, .group "name" (.row .lazy isPlain), blanks] ++ literal "]]")

/-- The end of the pattern: white space and the closing brackets. -/
def closing : Pattern := .sequence (blanks :: literal "]]")

/-- The end of the pattern from the name on. -/
def named : Pattern := .seq (.group "name" (.row .lazy isPlain)) closing

/-- The placeholder that a match at an offset is. -/
def ofMatch? (offset : Nat) (m : Match) : Option Placeholder :=
  (m.group? "name").map fun name => ⟨offset, offset + byteSize m.text, .ofList name, []⟩

/-- The placeholders that the pattern matches, from left to right. -/
def find (text : String) : List Placeholder :=
  (pattern.findAllFrom 0 text.toList).filterMap fun (offset, m) => ofMatch? offset m

theorem isPlain_of_isBlank {c : Char} (h : isBlank c = true) : isPlain c = true := by
  rw [isPlain_iff]
  constructor <;> rintro rfl <;> revert h <;> decide

theorem match?_closing (cs : List Char) :
    closing.match? cs
      = if [']', ']'] <+: cs.dropWhile isBlank then
          some ⟨cs.takeWhile isBlank ++ [']', ']'], [], (cs.dropWhile isBlank).drop 2⟩
        else none := by
  have hbrackets : ∀ cs : List Char, (Pattern.sequence (literal "]]")).match? cs
      = if [']', ']'] <+: cs then some ⟨[']', ']'], [], cs.drop 2⟩ else none := by
    intro cs
    have hliteral := Pattern.match?_sequence_literal "]]" [] cs
    rwa [List.append_nil] at hliteral
  unfold closing blanks
  rw [Pattern.sequence_cons, Pattern.match?_seq_many_one, hbrackets]
  · split <;> rfl
  · intro c cs hc
    rw [hbrackets, if_neg]
    intro hprefix
    obtain ⟨rfl, -⟩ := List.cons_prefix_cons.1 hprefix
    revert hc
    decide

theorem match?_closing_of_blank {back : List Char} (hback : ∀ c ∈ back, isBlank c = true)
    (rest : List Char) :
    closing.match? (back ++ ']' :: ']' :: rest) = some ⟨back ++ [']', ']'], [], rest⟩ := by
  obtain ⟨htake, hdrop⟩ := (takeWhile_dropWhile_iff (p := isBlank)).2
    ⟨(rfl : back ++ ']' :: ']' :: rest = _), hback, by
      intro c hc
      obtain rfl : ']' = c := by simpa using hc
      decide⟩
  rw [match?_closing, htake, hdrop, if_pos (by simp)]
  rfl

theorem exists_blanks_of_match?_closing {cs : List Char} {m : Match}
    (h : closing.match? cs = some m) :
    ∃ back rest, cs = back ++ ']' :: ']' :: rest ∧ ∀ c ∈ back, isBlank c = true := by
  rw [match?_closing] at h
  split at h
  · rename_i hbrackets
    obtain ⟨rest, hrest⟩ := hbrackets
    refine ⟨cs.takeWhile isBlank, rest, ?_, fun c hc => List.mem_takeWhile_imp hc⟩
    show cs = cs.takeWhile isBlank ++ ([']', ']'] ++ rest)
    rw [hrest, List.takeWhile_append_dropWhile]
  · cases h

/-- More of the name stands in front of the closing brackets. -/
theorem match?_closing_of_not_blank {left rest : List Char} {d : Char}
    (hplain : ∀ c ∈ left, isPlain c = true) (hd : d ∈ left) (hblank : isBlank d = false) :
    closing.match? (left ++ rest) = none := by
  rw [match?_closing, if_neg]
  intro hprefix
  obtain ⟨c, tail, hcons⟩ : ∃ c tail, left.dropWhile isBlank = c :: tail := by
    refine List.exists_cons_of_ne_nil fun hnil => ?_
    rw [List.dropWhile_eq_nil_iff.1 hnil d hd] at hblank
    cases hblank
  have hc : c ∈ left := (List.dropWhile_suffix isBlank).subset (hcons ▸ List.mem_cons_self)
  rw [List.dropWhile_append, hcons] at hprefix
  obtain ⟨rfl, -⟩ := List.cons_prefix_cons.1 hprefix
  exact (isPlain_iff.1 (hplain _ hc)).2 rfl

/-- A name that cannot end earlier, as there is more of it than white space behind. -/
theorem match?_named {cs back : List Char} (hne : cs ≠ []) (hcs : ∀ c ∈ cs, isPlain c = true)
    (hback : ∀ c ∈ back, isBlank c = true)
    (hend : ∀ taken left, cs = taken ++ left → taken ≠ [] → left ≠ [] →
      ∃ d ∈ left, isBlank d = false) (rest : List Char) :
    named.match? (cs ++ (back ++ ']' :: ']' :: rest))
      = some ⟨cs ++ (back ++ [']', ']']), [("name", cs)], rest⟩ := by
  obtain ⟨c, name, rfl⟩ := List.exists_cons_of_ne_nil hne
  obtain ⟨hc, hname⟩ := List.forall_mem_cons.1 hcs
  unfold named
  rw [Pattern.match?_seq, Pattern.ways, List.cons_append, Pattern.ways_row_cons, if_pos hc,
    List.findSome?_map, List.findSome?_map]
  refine Pattern.findSome?_ways_lazy hname ?_ ?_
  · intro taken left heq hleft
    obtain ⟨d, hd, hblank⟩ := hend (c :: taken) left (by rw [heq]; rfl) (List.cons_ne_nil _ _) hleft
    have hplain : ∀ c ∈ left, isPlain c = true := fun c hc =>
      hname c (heq ▸ List.mem_append_right _ hc)
    show (closing.match? (left ++ _)).map _ = none
    rw [match?_closing_of_not_blank hplain hd hblank, Option.map_none]
  · show (closing.match? (back ++ ']' :: ']' :: rest)).map _ = _
    rw [match?_closing_of_blank hback, Option.map_some]
    rfl

theorem match?_pattern (cs : List Char) :
    pattern.match? cs
      = if ['[', '['] <+: cs then
          ((Pattern.seq blanks named).match? (cs.drop 2)).map (·.after ['[', '['])
        else none := by
  unfold pattern
  rw [List.append_assoc]
  exact Pattern.match?_sequence_literal "[[" _ cs

/-- White space in front of a name, as much of it as leaves a name. -/
theorem match?_blanks_named {front cs back : List Char} (hfront : ∀ c ∈ front, isBlank c = true)
    (hne : cs ≠ []) (hcs : ∀ c ∈ cs, isPlain c = true) (hback : ∀ c ∈ back, isBlank c = true)
    (hend : ∀ taken left, cs = taken ++ left → taken ≠ [] → left ≠ [] →
      ∃ d ∈ left, isBlank d = false)
    (hhead : ∀ c ∈ cs.head?, isBlank c = true → cs = [c] ∧ back = []) (rest : List Char) :
    (Pattern.seq blanks named).match? (front ++ (cs ++ (back ++ ']' :: ']' :: rest)))
      = some ⟨front ++ (cs ++ (back ++ [']', ']'])), [("name", cs)], rest⟩ := by
  unfold blanks
  rw [Pattern.match?_seq]
  refine Pattern.findSome?_ways_greedy hfront ?_ ?_
  · intro taken left heq htaken hblank
    -- More white space would take the name, and there is none in front of the closing brackets.
    obtain ⟨c, name, rfl⟩ := List.exists_cons_of_ne_nil hne
    obtain ⟨d, taken, rfl⟩ := List.exists_cons_of_ne_nil htaken
    obtain ⟨rfl, htail⟩ := List.cons.inj heq
    obtain ⟨hname, rfl⟩ := hhead c rfl (hblank c List.mem_cons_self)
    obtain rfl : name = [] := (List.cons.inj hname).2
    cases taken with
    | nil =>
        obtain rfl : ']' :: ']' :: rest = left := htail
        rfl
    | cons d taken =>
        obtain ⟨rfl, -⟩ : ']' = d ∧ _ := List.cons.inj htail
        exact absurd (hblank ']' (by simp)) (by decide)
  · show (named.match? (cs ++ (back ++ ']' :: ']' :: rest))).map _ = _
    rw [match?_named hne hcs hback hend, Option.map_some]
    rfl

/-- In a body the expression is found as the name. -/
theorem match?_blanks_named_of_isExpression {body cs : List Char} (hbody : IsBody body)
    (h : IsExpression body cs) (rest : List Char) :
    (Pattern.seq blanks named).match? (body ++ ']' :: ']' :: rest)
      = some ⟨body ++ [']', ']'], [("name", cs)], rest⟩ := by
  have hplain : ∀ c ∈ body, isPlain c = true := fun c hc => isPlain_iff.2 (hbody.plain c hc)
  cases h with
  | @trimmed front cs back heq hfront hback hne hhead hlast =>
      subst heq
      have hend : ∀ taken left, cs = taken ++ left → taken ≠ [] → left ≠ [] →
          ∃ d ∈ left, isBlank d = false := by
        rintro taken left rfl - hleft
        refine ⟨left.getLast hleft, List.getLast_mem hleft, hlast _ ?_⟩
        rw [List.getLast?_append_of_ne_nil taken hleft, List.getLast?_eq_some_getLast hleft]
        rfl
      have hname := match?_blanks_named hfront hne (fun c hc => hplain c (by simp [hc])) hback hend
        (fun c hc hblank => by rw [hhead c hc] at hblank; cases hblank) rest
      simpa only [List.append_assoc] using hname
  | @blank c hblank hlast =>
      -- The white space gives up its last character, which becomes the name.
      obtain ⟨front, rfl⟩ := List.getLast?_eq_some_iff.1 hlast
      have hend : ∀ taken left, [c] = taken ++ left → taken ≠ [] → left ≠ [] →
          ∃ d ∈ left, isBlank d = false := by
        intro taken left heq htaken hleft
        rcases List.singleton_eq_append_iff.1 heq with ⟨hnil, -⟩ | ⟨-, hnil⟩
        · exact absurd hnil htaken
        · exact absurd hnil hleft
      have hfront : ∀ d ∈ front, isBlank d = true := fun d hd =>
        hblank d (List.mem_append_left _ hd)
      have hback : ∀ d ∈ ([] : List Char), isBlank d = true := by simp
      have hname := match?_blanks_named hfront (List.cons_ne_nil c [])
        (fun d hd => hplain d (List.mem_append_right _ hd)) hback hend
        (fun d hd _ => by simpa using hd) rest
      simpa only [List.append_assoc, List.nil_append] using hname

/-- Brackets with a body are matched, and the name is the expression in the body. -/
theorem match?_pattern_of_isExpression {body cs : List Char} (hbody : IsBody body)
    (h : IsExpression body cs) (rest : List Char) :
    pattern.match? (brackets body ++ rest) = some ⟨brackets body, [("name", cs)], rest⟩ := by
  have hdrop : (brackets body ++ rest).drop 2 = body ++ ']' :: ']' :: rest := by simp [brackets]
  rw [match?_pattern, if_pos (by simp [brackets]), hdrop,
    match?_blanks_named_of_isExpression hbody h]
  simp [brackets, Match.after]

/-- What the pattern matches is brackets with a body. -/
theorem exists_brackets_of_match?_pattern {cs : List Char} {m : Match}
    (h : pattern.match? cs = some m) : ∃ body rest, cs = brackets body ++ rest ∧ IsBody body := by
  rw [match?_pattern] at h
  split at h
  · rename_i hopen
    obtain ⟨tail, rfl⟩ := hopen
    obtain ⟨inside, hinside, -⟩ := Option.map_eq_some_iff.1 h
    obtain ⟨front, hfront, next, hnext, -⟩ := Pattern.exists_of_match?_seq hinside
    obtain ⟨kept, hkept, close, hclose, -⟩ := Pattern.exists_of_match?_seq hnext
    obtain ⟨name, hname, rfl⟩ := List.mem_map.1 hkept
    obtain ⟨htail, hblank, -⟩ := (Pattern.mem_ways_many_one_iff isBlank).1 hfront
    obtain ⟨hne, hrest, hplain, -⟩ := Pattern.mem_ways_row hname
    obtain ⟨back, rest, hback, hbackBlank⟩ := exists_blanks_of_match?_closing hclose
    have hinner : tail = front.text ++ (name.text ++ (back ++ ']' :: ']' :: rest)) := by
      rw [← hback, hrest]
      exact htail.symm
    refine ⟨front.text ++ (name.text ++ back), rest, ?_, ?_, ?_⟩
    · rw [hinner]
      simp [brackets]
    · simp [hne]
    · intro c hc
      rw [List.mem_append, List.mem_append] at hc
      rcases hc with hc | hc | hc
      · exact isPlain_iff.1 (isPlain_of_isBlank (hblank c hc))
      · exact isPlain_iff.1 (hplain c hc)
      · exact isPlain_iff.1 (isPlain_of_isBlank (hbackBlank c hc))
  · cases h

theorem match?_pattern_eq_none {cs : List Char} (h : bracketed? cs = none) :
    pattern.match? cs = none := by
  cases hmatch : pattern.match? cs with
  | none => rfl
  | some m =>
      obtain ⟨body, rest, hcs, hbody⟩ := exists_brackets_of_match?_pattern hmatch
      rw [bracketed?_eq_some_iff.2 ⟨hcs, hbody⟩] at h
      cases h

theorem filterMap_findAllFrom_pattern (offset : Nat) (cs : List Char) :
    (pattern.findAllFrom offset cs).filterMap (fun (offset, m) => ofMatch? offset m)
      = findBracketedFrom offset cs := by
  fun_induction findBracketedFrom offset cs with
  | case1 offset cs body rest h stop ih =>
      obtain ⟨rfl, hbody⟩ := bracketed?_eq_some_iff.1 h
      have hmatch := match?_pattern_of_isExpression hbody
        (isExpression_bracketedExpression hbody.ne_nil) rest
      have hlt : rest.length < (brackets body ++ rest).length := by
        rw [List.length_append, brackets]
        simp only [List.length_append, List.length_cons]
        omega
      have hstop : offset + byteSize (brackets body) = stop := by
        rw [byteSize_brackets]
        omega
      rw [Pattern.findAllFrom_of_some hmatch hlt, List.filterMap_cons, hstop, ih]
      simp [ofMatch?, Match.group?, hstop]
  | case2 offset h => rw [Pattern.findAllFrom_nil, List.filterMap_nil]
  | case3 offset c cs h ih =>
      rw [Pattern.findAllFrom_cons_of_none (match?_pattern_eq_none h), ih]

/-- The placeholders that are read in a text are the matches of the pattern. -/
theorem findBracketed_eq_find (text : String) : findBracketed text = find text :=
  (filterMap_findAllFrom_pattern 0 text.toList).symm

end Placeholder

/-! ### Codes of merge fields -/

namespace Instruction

/-- A switch and the word of it, `\s*\\\*\s*\w+`. -/
def switch : Pattern :=
  .sequence (blanks :: literal "\\*" ++ [blanks, .row .greedy isWordCharacter])

/-- A name in quotes, or one that goes on up to white space or a quote:
`"(?P<quoted>[^"]+)"|(?P<bare>[^\s"]+)`. -/
def namePattern : Pattern :=
  .either (.sequence [.one (· == '"'), .group "quoted" (.row .greedy (· != '"')), .one (· == '"')])
    (.group "bare" (.row .greedy isBare))

/-- The code of a merge field up to the end of its switches: white space, `MERGEFIELD` in any letter
case, white space, a name, and switches. It is matched at the front of a text only. -/
def pattern : Pattern :=
  .sequence (blanks :: anyCase "mergefield"
    ++ [.one isBlank, blanks, namePattern, .group "modifiers" (.many .greedy switch)])

/-- A switch in the text of switches, `\\\*\s*(\w+)`. -/
def switchPattern : Pattern :=
  .sequence (literal "\\*" ++ [blanks, .group "word" (.row .greedy isWordCharacter)])

/-- The words of switches in a text that begins at an offset. -/
def wordsFrom (offset : Nat) (switches : List Char) : List String :=
  (switchPattern.findAllFrom offset switches).filterMap fun (_, m) =>
    (m.group? "word").map .ofList

/-- What a match of the pattern says. -/
def ofMatch? (m : Match) : Option Instruction :=
  ((m.group? "quoted").or (m.group? "bare")).map fun name =>
    ⟨.ofList name, ((m.group? "modifiers").map (wordsFrom 0)).getD []⟩

/-! #### Switches -/

theorem match?_mark (ps : List Pattern) (cs : List Char) :
    (Pattern.sequence (literal "\\*" ++ ps)).match? cs
      = if ['\\', '*'] <+: cs then
          ((Pattern.sequence ps).match? (cs.drop 2)).map (·.after ['\\', '*'])
        else none :=
  Pattern.match?_sequence_literal "\\*" ps cs

theorem match?_mark_cons {c : Char} (h : c ≠ '\\') (ps : List Pattern) (cs : List Char) :
    (Pattern.sequence (literal "\\*" ++ ps)).match? (c :: cs) = none := by
  rw [match?_mark, if_neg]
  intro hprefix
  exact h (List.cons_prefix_cons.1 hprefix).1.symm

theorem match?_word_cons {c : Char} (h : isBlank c = true) (cs : List Char) :
    (Pattern.row .greedy isWordCharacter).match? (c :: cs) = none := by
  rw [Pattern.match?_row, List.takeWhile_cons_of_neg (by simp [isWordCharacter_of_isBlank h]),
    if_pos rfl]

theorem match?_word {word rest : List Char} (hword : IsWord word)
    (hrest : ∀ c ∈ rest.head?, isWordCharacter c = false) :
    (Pattern.row .greedy isWordCharacter).match? (word ++ rest) = some ⟨word, [], rest⟩ := by
  obtain ⟨htake, hdrop⟩ := takeWhile_dropWhile_iff.2 ⟨rfl, hword.plain, hrest⟩
  rw [Pattern.match?_row, htake, hdrop, if_neg hword.ne_nil]

/-- White space in front of a pattern that does not begin with any. -/
theorem match?_blanks {p : Pattern} (hp : ∀ c cs, isBlank c = true → p.match? (c :: cs) = none)
    (cs : List Char) :
    (Pattern.seq blanks p).match? cs
      = (p.match? (cs.dropWhile isBlank)).map (·.after (cs.takeWhile isBlank)) :=
  Pattern.match?_seq_many_one hp .greedy cs

theorem match?_blanks_append {p : Pattern}
    (hp : ∀ c cs, isBlank c = true → p.match? (c :: cs) = none) {front rest : List Char}
    (hfront : IsSpace front) (hrest : ∀ c ∈ rest.head?, isBlank c = false) :
    (Pattern.seq blanks p).match? (front ++ rest) = (p.match? rest).map (·.after front) := by
  obtain ⟨htake, hdrop⟩ := (takeWhile_dropWhile_iff (p := isBlank)).2 ⟨rfl, hfront, hrest⟩
  rw [match?_blanks hp, htake, hdrop]

/-- The mark of a switch and its word, the word matched by a pattern of its own. -/
theorem match?_marked {p : Pattern} (hp : ∀ c cs, isBlank c = true → p.match? (c :: cs) = none)
    {inner word rest : List Char} (hinner : IsSpace inner) (hword : IsWord word) :
    (Pattern.sequence (literal "\\*" ++ [blanks, p])).match?
        ('\\' :: '*' :: (inner ++ (word ++ rest)))
      = (p.match? (word ++ rest)).map (·.after ('\\' :: '*' :: inner)) := by
  have hp' : ∀ c cs, isBlank c = true → (Pattern.sequence [p]).match? (c :: cs) = none := by
    intro c cs hc
    rw [Pattern.match?_sequence_singleton, hp c cs hc]
  have hinside : (Pattern.sequence [blanks, p]).match? (inner ++ (word ++ rest))
      = (p.match? (word ++ rest)).map (·.after inner) := by
    rw [Pattern.sequence_cons, match?_blanks_append hp' hinner (hword.head?_not_isBlank rest),
      Pattern.match?_sequence_singleton]
  rw [match?_mark, if_pos (by simp)]
  show ((Pattern.sequence [blanks, p]).match? (inner ++ (word ++ rest))).map _ = _
  rw [hinside, Option.map_map]
  rfl

/-- The mark of a switch does not begin with white space. -/
theorem match?_mark_blank (ps : List Pattern) (c : Char) (cs : List Char) (h : isBlank c = true) :
    (Pattern.sequence (literal "\\*" ++ ps)).match? (c :: cs) = none := by
  refine match?_mark_cons ?_ ps cs
  rintro rfl
  exact absurd h (by decide)

/-- A switch is matched where it is read. -/
theorem match?_switch {front inner word rest : List Char} (hfront : IsSpace front)
    (hinner : IsSpace inner) (hword : IsWord word)
    (hrest : ∀ c ∈ rest.head?, isWordCharacter c = false) :
    switch.match? (front ++ '\\' :: '*' :: (inner ++ (word ++ rest)))
      = some ⟨front ++ '\\' :: '*' :: (inner ++ word), [], rest⟩ := by
  have hmark : ∀ c ∈ ('\\' :: '*' :: (inner ++ (word ++ rest))).head?, isBlank c = false := by
    intro c hc
    obtain rfl : '\\' = c := by simpa using hc
    decide
  unfold switch
  rw [List.cons_append, Pattern.sequence_cons,
    match?_blanks_append (match?_mark_blank _) hfront hmark,
    match?_marked (fun c cs hc => match?_word_cons hc cs) hinner hword, match?_word hword hrest]
  simp [Match.after]

/-- What is matched as a switch is one. -/
theorem exists_switchAt_of_match? {cs : List Char} {m : Match} (h : switch.match? cs = some m) :
    ∃ word rest, SwitchAt cs word rest := by
  unfold switch at h
  rw [List.cons_append, Pattern.sequence_cons, match?_blanks (match?_mark_blank _), match?_mark]
    at h
  obtain ⟨marked, hmarked, -⟩ := Option.map_eq_some_iff.1 h
  split at hmarked
  · rename_i hmark
    obtain ⟨tail, htail⟩ := hmark
    obtain ⟨spaced, hspaced, -⟩ := Option.map_eq_some_iff.1 hmarked
    rw [← htail, Pattern.sequence_cons, match?_blanks fun c cs hc =>
      (Pattern.match?_sequence_singleton _ _).trans (match?_word_cons hc cs)] at hspaced
    obtain ⟨last, hlast, -⟩ := Option.map_eq_some_iff.1 hspaced
    rw [Pattern.match?_sequence_singleton, Pattern.match?_row] at hlast
    split at hlast
    · cases hlast
    · rename_i hne
      obtain ⟨front, hfront, hcs⟩ := exists_space_append cs
      obtain ⟨inner, hinner, hinside⟩ := exists_space_append tail
      have hword : IsWord ((tail.dropWhile isBlank).takeWhile isWordCharacter) :=
        ⟨hne, fun c hc => List.mem_takeWhile_imp hc⟩
      have hswitch := SwitchAt.mk hfront hinner hword
        (not_of_head?_dropWhile isWordCharacter (tail.dropWhile isBlank))
      rw [List.takeWhile_append_dropWhile, ← hinside] at hswitch
      have hall : front ++ '\\' :: '*' :: tail = cs := by
        rw [hcs, ← htail]
        rfl
      exact ⟨_, _, hall ▸ hswitch⟩
  · cases hmarked

theorem match?_switchPattern {inner word rest : List Char} (hinner : IsSpace inner)
    (hword : IsWord word) (hrest : ∀ c ∈ rest.head?, isWordCharacter c = false) :
    switchPattern.match? ('\\' :: '*' :: (inner ++ (word ++ rest)))
      = some ⟨'\\' :: '*' :: (inner ++ word), [("word", word)], rest⟩ := by
  have hgroup : ∀ c cs, isBlank c = true →
      (Pattern.group "word" (.row .greedy isWordCharacter)).match? (c :: cs) = none := by
    intro c cs hc
    rw [Pattern.match?_group, match?_word_cons hc, Option.map_none]
  unfold switchPattern
  rw [match?_marked hgroup hinner hword, Pattern.match?_group, match?_word hword hrest]
  rfl

/-- One more switch in front of others. -/
theorem wordsFrom_append {front inner word rest : List Char} (hfront : IsSpace front)
    (hinner : IsSpace inner) (hword : IsWord word)
    (hrest : ∀ c ∈ rest.head?, isWordCharacter c = false) (offset : Nat) :
    ∃ next, wordsFrom offset (front ++ '\\' :: '*' :: (inner ++ (word ++ rest)))
      = .ofList word :: wordsFrom next rest := by
  have hlt : rest.length < ('\\' :: '*' :: (inner ++ (word ++ rest))).length := by
    simp only [List.length_cons, List.length_append]
    omega
  have hskip := Pattern.findAllFrom_append_of_none
    (fun c hc cs => match?_mark_blank [blanks, .group "word" (.row .greedy isWordCharacter)] c cs
      (hfront c hc)) offset ('\\' :: '*' :: (inner ++ (word ++ rest)))
  have hfirst := Pattern.findAllFrom_of_some (match?_switchPattern hinner hword hrest) hlt
    (offset + byteSize front)
  exact ⟨_, congrArg (List.filterMap _) (hskip.trans hfirst)⟩

/-- The switches at the front of a text, as many as are read, and their words. -/
theorem exists_match?_switches (cs : List Char) :
    ∃ text rest, text ++ rest = cs
      ∧ (Pattern.many .greedy switch).match? cs = some ⟨text, [], rest⟩
      ∧ ∀ offset, wordsFrom offset text = readSwitches cs := by
  fun_induction readSwitches cs with
  | case1 cs h =>
      have hnone : switch.match? cs = none := by
        cases hmatch : switch.match? cs with
        | none => rfl
        | some m =>
            obtain ⟨word, rest, hswitch⟩ := exists_switchAt_of_match? hmatch
            rw [readSwitch?_eq_some_iff.2 hswitch] at h
            cases h
      refine ⟨[], cs, rfl, Pattern.match?_many_of_none hnone, fun offset => ?_⟩
      rw [wordsFrom, Pattern.findAllFrom_nil, List.filterMap_nil]
  | case2 cs word rest h ih =>
      obtain ⟨text, behind, rfl, hmany, hwords⟩ := ih
      generalize hcut : text ++ behind = rest at h
      cases readSwitch?_eq_some_iff.1 h with
      | @mk front inner word rest hfront hinner hword hrest =>
          subst hcut
          have hmatch := match?_switch hfront hinner hword hrest
          have htext : ∀ c ∈ text.head?, isWordCharacter c = false := by
            intro c hc
            refine hrest c ?_
            rw [List.head?_append, Option.mem_def.1 hc]
            rfl
          refine ⟨front ++ '\\' :: '*' :: (inner ++ (word ++ text)), behind, by simp, ?_, ?_⟩
          · rw [Pattern.match?_many_of_some hmatch, hmany]
            · simp [Match.followedBy]
            · simp only [List.length_append, List.length_cons]
              omega
          · intro offset
            obtain ⟨next, hnext⟩ := wordsFrom_append hfront hinner hword htext offset
            rw [hnext, hwords]

/-! #### Names -/

theorem match?_quote_cons (cs : List Char) :
    (Pattern.sequence [.one (· == '"')]).match? ('"' :: cs) = some ⟨['"'], [], cs⟩ := rfl

theorem match?_quote_cons_of_ne {c : Char} (h : c ≠ '"') (ps : List Pattern) (cs : List Char) :
    (Pattern.sequence (.one (· == '"') :: ps)).match? (c :: cs) = none := by
  rw [Pattern.sequence_cons, Pattern.match?_seq_one_cons, if_neg (by simpa using h)]

theorem match?_bare (cs : List Char) :
    (Pattern.group "bare" (.row .greedy isBare)).match? cs
      = if cs.takeWhile isBare = [] then none
        else some ⟨cs.takeWhile isBare, [("bare", cs.takeWhile isBare)], cs.dropWhile isBare⟩ := by
  rw [Pattern.match?_group, Pattern.match?_row]
  split <;> rfl

/-- A name in quotes is matched where it is read. -/
theorem match?_quoted (tail : List Char) :
    (Pattern.sequence [.one (· == '"'), .group "quoted" (.row .greedy (· != '"')),
        .one (· == '"')]).match? ('"' :: tail)
      = (readName? ('"' :: tail)).map fun (name, rest) =>
        ⟨'"' :: (tail.takeWhile (· != '"') ++ ['"']), [("quoted", name)], rest⟩ := by
  have hquote : ∀ c cs, (c != '"') = true →
      (Pattern.sequence [.one (· == '"')]).match? (c :: cs) = none :=
    fun c cs hc => match?_quote_cons_of_ne (by simpa using hc) [] cs
  rw [Pattern.sequence_cons, Pattern.match?_seq_one_cons, if_pos (by decide),
    Pattern.sequence_cons, Pattern.match?_seq_group_row hquote]
  unfold readName?
  simp only
  cases tail.takeWhile (· != '"') with
  | nil => simp
  | cons c name =>
      cases hdrop : tail.dropWhile (· != '"') with
      | nil => rfl
      | cons d rest =>
          -- What ends the name is a quote.
          have hstop := not_of_head?_dropWhile (· != '"') tail d (by rw [hdrop]; rfl)
          obtain rfl : d = '"' := by simpa using hstop
          rw [if_neg (List.cons_ne_nil c name), match?_quote_cons]
          rfl

/-- A name is matched where it is read, and is kept as quoted or as bare. -/
theorem exists_match?_name (cs : List Char) :
    ∃ text group, (group = "quoted" ∨ group = "bare")
      ∧ namePattern.match? cs
        = (readName? cs).map fun (name, rest) => ⟨text, [(group, name)], rest⟩ := by
  unfold namePattern
  rw [Pattern.match?_either]
  by_cases hquote : cs.head? = some '"'
  · obtain ⟨tail, rfl⟩ := List.head?_eq_some_iff.1 hquote
    have hbare : (Pattern.group "bare" (.row .greedy isBare)).match? ('"' :: tail) = none := by
      rw [match?_bare, List.takeWhile_cons_of_neg (by decide), if_pos rfl]
    refine ⟨'"' :: (tail.takeWhile (· != '"') ++ ['"']), "quoted", .inl rfl, ?_⟩
    rw [hbare, Option.or_none, match?_quoted]
  · have hnone : (Pattern.sequence [.one (· == '"'), .group "quoted" (.row .greedy (· != '"')),
        .one (· == '"')]).match? cs = none := by
      cases cs with
      | nil => rfl
      | cons c cs => exact match?_quote_cons_of_ne (by simpa using hquote) _ cs
    refine ⟨cs.takeWhile isBare, "bare", .inr rfl, ?_⟩
    rw [hnone, Option.none_or, match?_bare, readName?_of_head hquote]
    split <;> rfl

theorem match?_name_of_blank {c : Char} (h : isBlank c = true) (cs : List Char) :
    namePattern.match? (c :: cs) = none := by
  obtain ⟨text, group, -, hname⟩ := exists_match?_name (c :: cs)
  rw [hname]
  cases hread : readName? (c :: cs) with
  | none => rfl
  | some read =>
      have hstart := (readName?_eq_some_iff.1 hread).head?_not_isBlank c rfl
      cases hstart.symm.trans h

/-! #### Codes -/

theorem match?_keyword (word : List Char) (ps : List Pattern) (cs : List Char) :
    (Pattern.sequence (word.map (fun k => .one (·.toLower == k)) ++ ps)).match? cs
      = (takeKeyword? word cs).bind fun rest =>
        ((Pattern.sequence ps).match? rest).map (·.after (cs.take word.length)) := by
  induction word generalizing cs with
  | nil =>
      rw [takeKeyword?, Option.bind_some, List.length_nil, List.take_zero]
      exact Option.map_id'.symm
  | cons k word ih =>
      cases cs with
      | nil => rfl
      | cons c cs =>
          rw [List.map_cons, List.cons_append, Pattern.sequence_cons, Pattern.match?_seq_one_cons,
            takeKeyword?, ih]
          by_cases hc : c.toLower = k
          · rw [if_pos (by simpa using hc), if_pos hc]
            cases takeKeyword? word cs with
            | none => rfl
            | some rest =>
                rw [Option.bind_some, Option.bind_some, Option.map_map]
                rfl
          · rw [if_neg (by simpa using hc), if_neg hc, Option.bind_none]

theorem takeKeyword?_of_blank {c : Char} (h : isBlank c = true) (cs : List Char) :
    takeKeyword? "mergefield".toList (c :: cs) = none := by
  cases hread : takeKeyword? "mergefield".toList (c :: cs) with
  | none => rfl
  | some rest =>
      obtain ⟨front, hcs, hfront⟩ := takeKeyword?_eq_some_iff.1 hread
      have hstart := IsKeyword.head?_not_isBlank hfront rest c (by rw [← hcs]; rfl)
      cases hstart.symm.trans h

theorem bind_ofMatch?_after (taken : List Char) (found : Option Match) :
    (found.map (·.after taken)).bind ofMatch? = found.bind ofMatch? := by
  cases found <;> rfl

/-- What is said from the name on. -/
theorem bind_match?_name (cs : List Char) :
    ((Pattern.sequence [namePattern, .group "modifiers" (.many .greedy switch)]).match? cs).bind
        ofMatch?
      = (readName? cs).map fun (name, switches) => ⟨.ofList name, readSwitches switches⟩ := by
  obtain ⟨text, group, hgroup, hname⟩ := exists_match?_name cs
  rw [Pattern.sequence_cons]
  cases hread : readName? cs with
  | none =>
      rw [hread, Option.map_none] at hname
      rw [Pattern.match?_seq_of_none hname]
      rfl
  | some read =>
      obtain ⟨name, switches⟩ := read
      rw [hread, Option.map_some] at hname
      obtain ⟨modifiers, rest, rfl, hmany, hwords⟩ := exists_match?_switches switches
      have hswitches : (Pattern.sequence [.group "modifiers" (.many .greedy switch)]).match?
          (modifiers ++ rest) = some ⟨modifiers, [("modifiers", modifiers)], rest⟩ := by
        rw [Pattern.match?_sequence_singleton, Pattern.match?_group, hmany]
        rfl
      rw [Pattern.match?_seq_of_some hname hswitches, Option.map_some]
      show _ = some (⟨.ofList name, readSwitches (modifiers ++ rest)⟩ : Instruction)
      rw [← hwords 0]
      rcases hgroup with rfl | rfl <;> rfl

/-- What follows the keyword: white space, a name and switches. -/
def behindKeyword : List Pattern :=
  [.one isBlank, blanks, namePattern, .group "modifiers" (.many .greedy switch)]

theorem match?_anyCase (cs : List Char) :
    (Pattern.sequence (anyCase "mergefield" ++ behindKeyword)).match? cs
      = (takeKeyword? "mergefield".toList cs).bind fun rest =>
        ((Pattern.sequence behindKeyword).match? rest).map
          (·.after (cs.take "mergefield".toList.length)) :=
  match?_keyword "mergefield".toList behindKeyword cs

theorem bind_match?_behindKeyword (cs : List Char) :
    ((Pattern.sequence behindKeyword).match? cs).bind ofMatch?
      = if cs.head?.any isBlank then
          (readName? (cs.dropWhile isBlank)).map fun (name, switches) =>
            ⟨.ofList name, readSwitches switches⟩
        else none := by
  unfold behindKeyword
  rw [Pattern.sequence_cons]
  cases cs with
  | nil => rfl
  | cons c cs =>
      have hhead : (c :: cs).head?.any isBlank = isBlank c := rfl
      rw [Pattern.match?_seq_one_cons, hhead]
      by_cases hc : isBlank c = true
      · have hname : ∀ c cs, isBlank c = true → (Pattern.sequence [namePattern,
            .group "modifiers" (.many .greedy switch)]).match? (c :: cs) = none :=
          fun c cs h => Pattern.match?_seq_of_none (match?_name_of_blank h cs)
        rw [if_pos hc, if_pos hc, bind_ofMatch?_after, Pattern.sequence_cons, match?_blanks hname,
          bind_ofMatch?_after, bind_match?_name, List.dropWhile_cons_of_pos hc]
      · rw [if_neg hc, if_neg hc, Option.bind_none]

/-- A code is read as the pattern matches it. -/
theorem parse?_eq_ofMatch? (text : String) :
    parse? text = (pattern.match? text.toList).bind ofMatch? := by
  have hkeyword : ∀ c cs, isBlank c = true →
      (Pattern.sequence (anyCase "mergefield" ++ behindKeyword)).match? (c :: cs) = none := by
    intro c cs hc
    rw [match?_anyCase, takeKeyword?_of_blank hc, Option.bind_none]
  have hpattern : pattern
      = .seq blanks (.sequence (anyCase "mergefield" ++ behindKeyword)) := rfl
  unfold parse?
  rw [hpattern, match?_blanks hkeyword, bind_ofMatch?_after, match?_anyCase]
  cases takeKeyword? "mergefield".toList (text.toList.dropWhile isBlank) with
  | none => rfl
  | some rest => rw [Option.bind_some, bind_ofMatch?_after, bind_match?_behindKeyword]

end Instruction

end MailMerge
