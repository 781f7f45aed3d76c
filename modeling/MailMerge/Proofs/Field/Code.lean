import MailMerge.Field.Instruction
import MailMerge.Proofs.Text.Cut
import MailMerge.Proofs.Text.Trim

/-!
# `MailMerge.Proofs.Field.Code`: what the code of a merge field looks like

`IsCode` is the grammar of the codes of merge fields, together with what they say. It says what
each piece is made of and where it ends; `Instruction.parse?` finds the pieces by one reading from
left to right. As every piece goes on as far as it can, there is one way at most to divide a text.

* `readName?_eq_some_iff`, `readSwitch?_eq_some_iff`: the pieces are read where they are.
* `readSwitches_eq_iff`: all switches are read, in order.
* `parse?_exact`: the codes that are read, and codes read back from how they are written.
-/

set_option autoImplicit false

namespace MailMerge.Instruction

open MailMerge.Text

/-! ### The grammar -/

/-- White space, or nothing. -/
def IsSpace (cs : List Char) : Prop := ∀ c ∈ cs, isBlank c = true

/-- A word of a switch. -/
structure IsWord (cs : List Char) : Prop where
  ne_nil : cs ≠ []
  plain : ∀ c ∈ cs, isWordCharacter c = true

theorem isWord_iff {cs : List Char} :
    IsWord cs ↔ cs ≠ [] ∧ cs.all isWordCharacter = true := by
  rw [List.all_eq_true]
  exact ⟨fun h => ⟨h.ne_nil, h.plain⟩, fun h => ⟨h.1, h.2⟩⟩

instance (cs : List Char) : Decidable (IsWord cs) := decidable_of_iff' _ isWord_iff

/-- The keyword in any letter case. -/
def IsKeyword (cs : List Char) : Prop := cs.map Char.toLower = "mergefield".toList

/-- The name at the front of a text, and what follows it. A name without quotes goes on up to white
space or a quote. -/
inductive NameAt : List Char → List Char → List Char → Prop where
  | quoted {name rest : List Char} (hne : name ≠ []) (hquote : '"' ∉ name) :
      NameAt ('"' :: (name ++ '"' :: rest)) name rest
  | bare {name rest : List Char} (hne : name ≠ [])
      (hname : ∀ c ∈ name, isBlank c = false ∧ c ≠ '"')
      (hrest : ∀ c ∈ rest.head?, isBlank c = true ∨ c = '"') :
      NameAt (name ++ rest) name rest

/-- The word of the switch at the front of a text, and what follows it. The word goes on as far as
there are word characters. -/
inductive SwitchAt : List Char → List Char → List Char → Prop where
  | mk {front inner word rest : List Char} (hfront : IsSpace front) (hinner : IsSpace inner)
      (hword : IsWord word) (hrest : ∀ c ∈ rest.head?, isWordCharacter c = false) :
      SwitchAt (front ++ '\\' :: '*' :: (inner ++ (word ++ rest))) word rest

/-- The words of the switches at the front of a text. They go on as far as there are switches, and
anything else can follow. -/
inductive Switches : List Char → List String → Prop where
  | done {cs : List Char} (h : ¬∃ word rest, SwitchAt cs word rest) : Switches cs []
  | switch {cs word rest : List Char} {words : List String} (h : SwitchAt cs word rest)
      (hrest : Switches rest words) :
      Switches cs (.ofList word :: words)

/-- A text is the code of a merge field and says something. -/
inductive IsCode : List Char → Instruction → Prop where
  | mk {front keyword gap text name rest : List Char} {words : List String}
      (hfront : IsSpace front) (hkeyword : IsKeyword keyword) (hgap : IsSpace gap)
      (hne : gap ≠ []) (hname : NameAt text name rest) (hwords : Switches rest words) :
      IsCode (front ++ (keyword ++ (gap ++ text))) ⟨.ofList name, words⟩

/-! ### The keyword -/

theorem takeKeyword?_eq_some_iff {keyword cs rest : List Char} :
    takeKeyword? keyword cs = some rest
      ↔ ∃ front, cs = front ++ rest ∧ front.map Char.toLower = keyword := by
  induction keyword generalizing cs with
  | nil =>
      rw [takeKeyword?, Option.some.injEq]
      constructor
      · rintro rfl
        exact ⟨[], rfl, rfl⟩
      · rintro ⟨front, rfl, hfront⟩
        rw [List.map_eq_nil_iff.1 hfront, List.nil_append]
  | cons k keyword ih =>
      cases cs with
      | nil =>
          simp [takeKeyword?]
      | cons c cs =>
          by_cases hc : c.toLower = k
          · rw [takeKeyword?, if_pos hc, ih]
            constructor
            · rintro ⟨front, rfl, rfl⟩
              exact ⟨c :: front, rfl, by rw [List.map_cons, hc]⟩
            · rintro ⟨front, hcs, hfront⟩
              cases front with
              | nil => simp at hfront
              | cons d front =>
                  exact ⟨front, (List.cons.inj hcs).2, (List.cons.inj hfront).2⟩
          · rw [takeKeyword?, if_neg hc]
            refine iff_of_false (by simp) ?_
            rintro ⟨front, hcs, hfront⟩
            cases front with
            | nil => simp at hfront
            | cons d front =>
                rw [(List.cons.inj hcs).1] at hc
                exact hc (List.cons.inj hfront).1

/-- The keyword does not begin with white space. -/
theorem IsKeyword.head?_not_isBlank {keyword : List Char} (h : IsKeyword keyword)
    (rest : List Char) : ∀ c ∈ (keyword ++ rest).head?, isBlank c = false := by
  intro c hc
  cases keyword with
  | nil => simp [IsKeyword] at h
  | cons d keyword =>
      obtain rfl : d = c := by simpa using hc
      have hd : d.toLower = 'm' := (List.cons.inj h).1
      by_contra hblank
      rw [toLower_of_isBlank (by simpa using hblank)] at hd
      rw [hd] at hblank
      exact hblank (by decide)

/-! ### The name -/

/-- Whether a character can stand in a name without quotes. -/
def isBare (c : Char) : Bool := !isBlank c && c != '"'

theorem isBare_iff {c : Char} : isBare c = true ↔ isBlank c = false ∧ c ≠ '"' := by
  simp [isBare]

theorem isBare_eq_false_iff {c : Char} : isBare c = false ↔ isBlank c = true ∨ c = '"' := by
  rw [← Bool.not_eq_true, isBare_iff, not_and_or, not_not, Bool.not_eq_false]

/-- A name that begins with no quote is read as far as it goes. -/
theorem readName?_of_head {cs : List Char} (h : cs.head? ≠ some '"') :
    readName? cs
      = if cs.takeWhile isBare = [] then none
        else some (cs.takeWhile isBare, cs.dropWhile isBare) := by
  unfold readName?
  split
  · simp at h
  · have hbare : (fun c => !isBlank c && c != '"') = isBare := rfl
    rw [hbare]
    cases cs.takeWhile isBare <;> rfl

theorem readName?_eq_some_iff {cs name rest : List Char} :
    readName? cs = some (name, rest) ↔ NameAt cs name rest := by
  constructor
  · intro h
    by_cases hquote : cs.head? = some '"'
    · -- The name ends at the first quote behind, so there is none in it.
      obtain ⟨tail, rfl⟩ := List.head?_eq_some_iff.1 hquote
      unfold readName? at h
      simp only at h
      split at h
      · rename_i c name' d rest' htake hdrop
        cases h
        obtain ⟨rfl, hname, hrest⟩ := takeWhile_dropWhile_iff.1 ⟨htake, hdrop⟩
        obtain rfl : d = '"' := by simpa using hrest d rfl
        exact .quoted (List.cons_ne_nil c name') fun hmem => by simpa using hname _ hmem
      · cases h
    · rw [readName?_of_head hquote] at h
      split at h
      · cases h
      · rename_i hne
        cases h
        have hbare := NameAt.bare hne (fun c hc => isBare_iff.1 (List.mem_takeWhile_imp hc))
          fun c hc => isBare_eq_false_iff.1 (not_of_head?_dropWhile isBare cs c hc)
        rwa [List.takeWhile_append_dropWhile] at hbare
  · intro h
    cases h with
    | quoted hne hquote =>
        have hname : ∀ c ∈ name, (c != '"') = true := by
          intro c hc
          have hne : c ≠ '"' := by
            rintro rfl
            exact hquote hc
          simpa using hne
        obtain ⟨htake, hdrop⟩ := (takeWhile_dropWhile_iff (p := (· != '"'))).2
          ⟨rfl, hname, (by simp : ∀ c ∈ ('"' :: rest).head?, (c != '"') = false)⟩
        obtain ⟨c, name', rfl⟩ := List.exists_cons_of_ne_nil hne
        simp only [readName?, htake, hdrop]
    | bare hne hname hrest =>
        obtain ⟨htake, hdrop⟩ := (takeWhile_dropWhile_iff (p := isBare)).2
          ⟨rfl, fun c hc => isBare_iff.2 (hname c hc),
            fun c hc => isBare_eq_false_iff.2 (hrest c hc)⟩
        have hquote : (name ++ rest).head? ≠ some '"' := by
          obtain ⟨c, name', rfl⟩ := List.exists_cons_of_ne_nil hne
          simpa using (hname c List.mem_cons_self).2
        rw [readName?_of_head hquote, htake, hdrop, if_neg hne]

/-- A name does not begin with white space. -/
theorem NameAt.head?_not_isBlank {cs name rest : List Char} (h : NameAt cs name rest) :
    ∀ c ∈ cs.head?, isBlank c = false := by
  intro c hc
  cases h with
  | quoted _ _ =>
      obtain rfl : '"' = c := by simpa using hc
      decide
  | bare hne hname _ =>
      obtain ⟨d, name', rfl⟩ := List.exists_cons_of_ne_nil hne
      obtain rfl : d = c := by simpa using hc
      exact (hname d List.mem_cons_self).1

/-! ### Switches -/

/-- What stands behind white space does not begin with it. -/
theorem dropWhile_isBlank_append {front rest : List Char} (hfront : IsSpace front)
    (hrest : ∀ c ∈ rest.head?, isBlank c = false) : (front ++ rest).dropWhile isBlank = rest :=
  (takeWhile_dropWhile_iff.2 ⟨rfl, hfront, hrest⟩).2

theorem exists_space_append (cs : List Char) :
    ∃ front, IsSpace front ∧ cs = front ++ cs.dropWhile isBlank :=
  ⟨cs.takeWhile isBlank, fun _ hc => List.mem_takeWhile_imp hc,
    List.takeWhile_append_dropWhile.symm⟩

/-- The word of a switch does not begin with white space. -/
theorem IsWord.head?_not_isBlank {word : List Char} (h : IsWord word) (rest : List Char) :
    ∀ c ∈ (word ++ rest).head?, isBlank c = false := by
  intro c hc
  obtain ⟨d, word', rfl⟩ := List.exists_cons_of_ne_nil h.ne_nil
  obtain rfl : d = c := by simpa using hc
  by_contra hblank
  have hnot := isWordCharacter_of_isBlank (by simpa using hblank)
  rw [h.plain d List.mem_cons_self] at hnot
  cases hnot

theorem readSwitch?_eq_some_iff {cs word rest : List Char} :
    readSwitch? cs = some (word, rest) ↔ SwitchAt cs word rest := by
  constructor
  · intro h
    obtain ⟨front, hfront, hcs⟩ := exists_space_append cs
    unfold readSwitch? at h
    split at h
    · rename_i tail htail
      obtain ⟨inner, hinner, htail'⟩ := exists_space_append tail
      split at h
      · cases h
      · rename_i hne
        cases h
        have hword : IsWord ((tail.dropWhile isBlank).takeWhile isWordCharacter) :=
          ⟨hne, fun c hc => List.mem_takeWhile_imp hc⟩
        have hswitch := SwitchAt.mk hfront hinner hword
          (not_of_head?_dropWhile isWordCharacter (tail.dropWhile isBlank))
        rwa [List.takeWhile_append_dropWhile, ← htail', ← htail, ← hcs] at hswitch
    · cases h
  · intro h
    cases h with
    | @mk front inner word rest hfront hinner hword hrest =>
        -- Neither the mark nor the word begins with white space, so the spaces are no longer.
        have hmark : (front ++ '\\' :: '*' :: (inner ++ (word ++ rest))).dropWhile isBlank
            = '\\' :: '*' :: (inner ++ (word ++ rest)) := by
          refine dropWhile_isBlank_append hfront fun d hd => ?_
          obtain rfl : '\\' = d := by simpa using hd
          decide
        have hinside : (inner ++ (word ++ rest)).dropWhile isBlank = word ++ rest :=
          dropWhile_isBlank_append hinner (hword.head?_not_isBlank rest)
        obtain ⟨htake, hdrop⟩ :=
          takeWhile_dropWhile_iff.2 ⟨rfl, hword.plain, hrest⟩
        obtain ⟨c, word', rfl⟩ := List.exists_cons_of_ne_nil hword.ne_nil
        simp only [readSwitch?, hmark, hinside, htake, hdrop]

theorem readSwitches_of_none {cs : List Char} (h : readSwitch? cs = none) :
    readSwitches cs = [] := by
  rw [readSwitches]
  split
  · rfl
  · rename_i h'
    rw [h] at h'
    cases h'

theorem readSwitches_of_some {cs word rest : List Char} (h : readSwitch? cs = some (word, rest)) :
    readSwitches cs = .ofList word :: readSwitches rest := by
  rw [readSwitches]
  split
  · rename_i h'
    rw [h] at h'
    cases h'
  · rename_i h'
    rw [h] at h'
    cases h'
    rfl

theorem switches_readSwitches (cs : List Char) : Switches cs (readSwitches cs) := by
  fun_induction readSwitches cs with
  | case1 cs h =>
      refine .done ?_
      rintro ⟨word, rest, hswitch⟩
      rw [readSwitch?_eq_some_iff.2 hswitch] at h
      cases h
  | case2 cs word rest h ih =>
      exact .switch (readSwitch?_eq_some_iff.1 h) ih

/-- The switches that are read are all there are. -/
theorem readSwitches_eq_iff {cs : List Char} {words : List String} :
    readSwitches cs = words ↔ Switches cs words := by
  constructor
  · rintro rfl
    exact switches_readSwitches cs
  · intro h
    induction h with
    | @done cs hnone =>
        cases hswitch : readSwitch? cs with
        | none => exact readSwitches_of_none hswitch
        | some read =>
            obtain ⟨word, rest⟩ := read
            exact absurd ⟨word, rest, readSwitch?_eq_some_iff.1 hswitch⟩ hnone
    | switch hswitch _ ih =>
        rw [readSwitches_of_some (readSwitch?_eq_some_iff.2 hswitch), ih]

/-! ### Codes -/

theorem parse?_eq_some_iff {text : String} {i : Instruction} :
    parse? text = some i ↔ IsCode text.toList i := by
  unfold parse?
  constructor
  · intro h
    obtain ⟨front, hfront, htext⟩ := exists_space_append text.toList
    split at h
    · cases h
    · rename_i tail hkeyword
      obtain ⟨keyword, hcut, hkeyword⟩ := takeKeyword?_eq_some_iff.1 hkeyword
      obtain ⟨gap, hgap, htail⟩ := exists_space_append tail
      split at h
      · rename_i hblank
        rw [Option.map_eq_some_iff] at h
        obtain ⟨⟨name, rest⟩, hname, rfl⟩ := h
        have hne : gap ≠ [] := by
          rintro rfl
          -- Then all that follows the keyword would be left, with white space at its front.
          rw [List.nil_append] at htail
          obtain ⟨c, hc, hspace⟩ := (Option.any_eq_true _ _).1 hblank
          have hstop := not_of_head?_dropWhile isBlank tail c (htail ▸ hc)
          cases hstop.symm.trans hspace
        have hcode := IsCode.mk hfront hkeyword hgap hne (readName?_eq_some_iff.1 hname)
          (switches_readSwitches rest)
        rwa [← htail, ← hcut, ← htext] at hcode
      · cases h
  · generalize text.toList = cs
    intro h
    cases h with
    | @mk front keyword gap named name rest words hfront hkeyword hgap hne hname hwords =>
        -- The keyword and the name do not begin with white space, so the spaces are no longer.
        have hread := readName?_eq_some_iff.2 hname
        have hhead : (gap ++ named).head?.any isBlank = true := by
          obtain ⟨c, gap', rfl⟩ := List.exists_cons_of_ne_nil hne
          simpa using hgap c List.mem_cons_self
        rw [dropWhile_isBlank_append hfront (hkeyword.head?_not_isBlank _),
          takeKeyword?_eq_some_iff.2 ⟨keyword, rfl, hkeyword⟩]
        simp only [hhead, if_true, dropWhile_isBlank_append hgap hname.head?_not_isBlank, hread,
          Option.map_some, readSwitches_eq_iff.2 hwords]

/-! ### Codes as they are written -/

/-- Switches as text. -/
def printSwitches : List String → String
  | [] => ""
  | word :: words => " \\* " ++ word ++ printSwitches words

/-- The code of a merge field as text, with the name in quotes. -/
def print (i : Instruction) : String :=
  " MERGEFIELD \"" ++ i.name ++ "\"" ++ printSwitches i.modifiers ++ " "

/-- What can be written as code: a name that is not empty and has no quotes, and words. -/
structure IsPrintable (i : Instruction) : Prop where
  name_ne_empty : i.name ≠ ""
  name_plain : '"' ∉ i.name.toList
  words : ∀ word ∈ i.modifiers, IsWord word.toList

theorem isSpace_singleton : IsSpace [' '] := by
  intro c hc
  rw [List.mem_singleton.1 hc]
  decide

theorem switches_print {words : List String} (h : ∀ word ∈ words, IsWord word.toList) :
    Switches ((printSwitches words).toList ++ [' ']) words := by
  induction words with
  | nil =>
      -- What is left is a space, in which no switch is read.
      refine .done ?_
      rintro ⟨word, rest, hswitch⟩
      have hread := readSwitch?_eq_some_iff.2 hswitch
      cases hread
  | cons word words ih =>
      obtain ⟨hword, hwords⟩ := List.forall_mem_cons.1 h
      have hrest : ∀ c ∈ ((printSwitches words).toList ++ [' ']).head?,
          isWordCharacter c = false := by
        intro c hc
        obtain rfl : ' ' = c := by
          cases words <;> simpa [printSwitches] using hc
        exact isWordCharacter_of_isBlank (by decide)
      have hswitch := SwitchAt.mk isSpace_singleton isSpace_singleton hword hrest
      have htext : (printSwitches (word :: words)).toList ++ [' ']
          = [' '] ++ '\\' :: '*' :: ([' '] ++ (word.toList
            ++ ((printSwitches words).toList ++ [' ']))) := by
        simp [printSwitches]
      have hall := Switches.switch hswitch (ih hwords)
      rwa [String.ofList_toList, ← htext] at hall

theorem isCode_print {i : Instruction} (h : i.IsPrintable) : IsCode i.print.toList i := by
  have hname : i.name.toList ≠ [] := by
    rw [Ne, String.toList_eq_nil_iff]
    exact h.name_ne_empty
  have hkeyword : IsKeyword "MERGEFIELD".toList := by
    show "MERGEFIELD".toList.map Char.toLower = "mergefield".toList
    decide
  have hcode := IsCode.mk isSpace_singleton hkeyword isSpace_singleton (List.cons_ne_nil ' ' [])
    (.quoted hname h.name_plain) (switches_print h.words)
  have htext : i.print.toList = [' '] ++ ("MERGEFIELD".toList ++ ([' '] ++ '"' :: (i.name.toList
      ++ '"' :: ((printSwitches i.modifiers).toList ++ [' '])))) := by
    unfold print
    simp only [String.toList_append, List.append_assoc]
    rfl
  rwa [String.ofList_toList, ← htext] at hcode

/-- The codes of merge fields are read, with the name and the words of all switches in order, and
no other texts are. So a name and words are read back from the code that they are written as. -/
theorem parse?_exact :
    (∀ (text : String) (i : Instruction), parse? text = some i ↔ IsCode text.toList i)
      ∧ ∀ i : Instruction, i.IsPrintable → parse? i.print = some i :=
  ⟨fun _ _ => parse?_eq_some_iff, fun _ h => parse?_eq_some_iff.2 (isCode_print h)⟩

theorem parse?_exact_fullName :
    let i : Instruction := ⟨"Full \\* name", ["MERGEFORMAT", "Первая_2"]⟩
    i.print = " MERGEFIELD \"Full \\* name\" \\* MERGEFORMAT \\* Первая_2 "
      ∧ i.IsPrintable ∧ parse? i.print = some i := by
  intro i
  have hwords : ∀ word ∈ i.modifiers, IsWord word.toList := by
    intro word hword
    rcases List.mem_pair.1 hword with rfl | rfl
    · decide +kernel
    · decide +kernel
  have hprintable : i.IsPrintable := ⟨by decide, by decide, hwords⟩
  exact ⟨by decide, hprintable, parse?_exact.2 i hprintable⟩

end MailMerge.Instruction
