import MailMerge.Proofs.Text.Cut
import MailMerge.Text.Utf8

/-!
# `MailMerge.Proofs.Text.Pattern`: patterns of texts and their first matches

A pattern is matched at the front of a text in all ways that there are, the preferred ones first
(`Pattern.ways`). The first of two patterns is preferred to the other, more rounds of a greedy
repetition to fewer, and fewer rounds of a lazy one to more. What counts is the first match
(`Pattern.match?`), and in a text the first place that has one; the search goes on behind it
(`Pattern.findAllFrom`).

A pattern in front of another may have to give up its first match, if the other does not go on from
there. The laws say when it has not:

* `match?_seq_of_some`: the other goes on from the first match.
* `findSome?_ways_many_one`: characters of a kind are followed by what cannot begin with one of
  them, so all there are belong to the repetition.
* `findSome?_ways_lazy`, `findSome?_ways_greedy`: the shortest and the longest row of characters
  that the other goes on from.
-/

set_option autoImplicit false

namespace MailMerge.Text

/-! ### Patterns -/

/-- Whether a repetition prefers more rounds or fewer. -/
inductive Repetition where
  | greedy
  | lazy
deriving DecidableEq, Repr

/-- A pattern of texts. -/
inductive Pattern where
  | empty
  /-- One character of a kind. -/
  | one (accepts : Char → Bool)
  | seq (first second : Pattern)
  | either (first second : Pattern)
  /-- A pattern any number of times. -/
  | many (repetition : Repetition) (body : Pattern)
  /-- A pattern whose text is kept under a name. -/
  | group (name : String) (body : Pattern)

/-- A match at the front of a text. -/
@[ext] structure Match where
  text : List Char
  /-- The texts that are kept, by name. -/
  groups : List (String × List Char)
  /-- What follows the text. -/
  rest : List Char
deriving DecidableEq, Repr

namespace Match

/-- The match of nothing. -/
def nothing (cs : List Char) : Match := ⟨[], [], cs⟩

/-- Two matches, the second right behind the first. -/
def followedBy (m next : Match) : Match := ⟨m.text ++ next.text, m.groups ++ next.groups, next.rest⟩

/-- A match with more text in front of it. -/
def after (taken : List Char) (m : Match) : Match := { m with text := taken ++ m.text }

/-- The text that was kept last under a name. -/
def group? (m : Match) (name : String) : Option (List Char) := m.groups.reverse.lookup name

@[simp] theorem followedBy_nothing (m : Match) : m.followedBy (.nothing m.rest) = m := by
  simp [followedBy, nothing]

@[simp] theorem after_nil (m : Match) : m.after [] = m := rfl

@[simp] theorem after_after (taken front : List Char) (m : Match) :
    (m.after taken).after front = m.after (front ++ taken) := by
  simp [after]

/-- A match that keeps no text puts its own text in front. -/
theorem followedBy_of_groups_eq_nil {m : Match} (h : m.groups = []) (next : Match) :
    m.followedBy next = next.after m.text := by
  simp [followedBy, after, h]

end Match

/-- The matches with no round and with more of them, the preferred ones first. -/
def Repetition.order (none : Match) (more : List Match) : Repetition → List Match
  | greedy => more ++ [none]
  | lazy => none :: more

namespace Pattern

/-- All matches of a pattern any number of times, from those of one time. A round that takes nothing
is not made, since it could be made forever. -/
def rounds (repetition : Repetition) (body : List Char → List Match) (cs : List Char) :
    List Match :=
  repetition.order (.nothing cs) ((body cs).flatMap fun m =>
    if _h : m.rest.length < cs.length then (rounds repetition body m.rest).map m.followedBy else [])
termination_by cs.length

/-- All matches at the front of a text, the preferred ones first. -/
def ways : Pattern → List Char → List Match
  | empty, cs => [.nothing cs]
  | one _, [] => []
  | one accepts, c :: cs => if accepts c then [⟨[c], [], cs⟩] else []
  | seq first second, cs => (first.ways cs).flatMap fun m => (second.ways m.rest).map m.followedBy
  | either first second, cs => first.ways cs ++ second.ways cs
  | many repetition body, cs => rounds repetition body.ways cs
  | group name body, cs =>
    (body.ways cs).map fun m => { m with groups := (name, m.text) :: m.groups }

/-- The match at the front of a text. -/
def match? (p : Pattern) (cs : List Char) : Option Match := (p.ways cs).head?

/-- The matches in a text that begins at an offset, with their own offsets. Matches of nothing are
passed over. -/
def findAllFrom (p : Pattern) (offset : Nat) : List Char → List (Nat × Match)
  | [] => []
  | c :: cs =>
    match p.match? (c :: cs) with
    | none => p.findAllFrom (offset + c.utf8Size) cs
    | some m =>
      if _h : m.rest.length < cs.length + 1 then
        (offset, m) :: p.findAllFrom (offset + byteSize m.text) m.rest
      else p.findAllFrom (offset + c.utf8Size) cs
termination_by cs => cs.length

/-- Patterns one behind the other. -/
def sequence (patterns : List Pattern) : Pattern := patterns.foldr seq empty

/-- The characters of a text. -/
def literal (text : String) : List Pattern := text.toList.map fun c => one (· == c)

/-- The characters of a lower-case text, in any letter case. -/
def anyCase (text : String) : List Pattern := text.toList.map fun c => one (·.toLower == c)

/-- Characters of a kind, at least one. -/
def row (repetition : Repetition) (accepts : Char → Bool) : Pattern :=
  sequence [one accepts, many repetition (one accepts)]

/-! ### Two patterns in a row -/

theorem match?_eq_findSome? (p : Pattern) (cs : List Char) :
    p.match? cs = (p.ways cs).findSome? some := by
  unfold match?
  cases p.ways cs <;> rfl

theorem match?_seq (p q : Pattern) (cs : List Char) :
    (seq p q).match? cs
      = (p.ways cs).findSome? fun m => (q.match? m.rest).map m.followedBy := by
  unfold match?
  rw [ways, List.head?_flatMap]
  congr 1
  funext m
  exact List.head?_map

/-- The second pattern goes on from the first match of the first. -/
theorem match?_seq_of_some {p q : Pattern} {cs : List Char} {m next : Match}
    (h : p.match? cs = some m) (hnext : q.match? m.rest = some next) :
    (seq p q).match? cs = some (m.followedBy next) := by
  obtain ⟨others, hways⟩ := List.head?_eq_some_iff.1 h
  rw [match?_seq, hways, List.findSome?_cons, hnext, Option.map_some]

theorem match?_seq_of_none {p q : Pattern} {cs : List Char} (h : p.match? cs = none) :
    (seq p q).match? cs = none := by
  rw [match?_seq, List.head?_eq_none_iff.1 h, List.findSome?_nil]

theorem exists_of_match?_seq {p q : Pattern} {cs : List Char} {m : Match}
    (h : (seq p q).match? cs = some m) :
    ∃ front ∈ p.ways cs, ∃ next, q.match? front.rest = some next ∧ m = front.followedBy next := by
  rw [match?_seq] at h
  obtain ⟨front, hfront, hback⟩ := List.exists_of_findSome?_eq_some h
  obtain ⟨next, hnext, rfl⟩ := Option.map_eq_some_iff.1 hback
  exact ⟨front, hfront, next, hnext, rfl⟩

theorem match?_either (p q : Pattern) (cs : List Char) :
    (either p q).match? cs = (p.match? cs).or (q.match? cs) :=
  List.head?_append

theorem match?_group (name : String) (p : Pattern) (cs : List Char) :
    (group name p).match? cs
      = (p.match? cs).map fun m => { m with groups := (name, m.text) :: m.groups } :=
  List.head?_map

theorem match?_sequence_singleton (p : Pattern) (cs : List Char) :
    (sequence [p]).match? cs = p.match? cs := by
  have hgoOn : (fun m : Match => (empty.match? m.rest).map m.followedBy) = some :=
    funext fun m => congrArg some m.followedBy_nothing
  rw [sequence, List.foldr_cons, List.foldr_nil, match?_seq, hgoOn, ← match?_eq_findSome?]

theorem sequence_cons (p : Pattern) (ps : List Pattern) :
    sequence (p :: ps) = seq p (sequence ps) := rfl

/-! ### Characters -/

section Characters

variable (accepts : Char → Bool)

theorem match?_seq_one_cons (q : Pattern) (c : Char) (cs : List Char) :
    (seq (one accepts) q).match? (c :: cs)
      = if accepts c then (q.match? cs).map (·.after [c]) else none := by
  rw [match?_seq, ways]
  split
  · rw [List.findSome?_cons, List.findSome?_nil]
    cases q.match? cs <;> rfl
  · rfl

/-- The characters of a text, and what is behind them. -/
theorem match?_sequence_literal (word : String) (ps : List Pattern) (cs : List Char) :
    (sequence (literal word ++ ps)).match? cs
      = if word.toList <+: cs then
          ((sequence ps).match? (cs.drop word.toList.length)).map (·.after word.toList)
        else none := by
  unfold literal
  induction word.toList generalizing cs with
  | nil => cases h : (sequence ps).match? cs <;> simp [h]
  | cons d word ih =>
      rw [List.map_cons, List.cons_append, sequence_cons]
      cases cs with
      | nil => rfl
      | cons c cs =>
          rw [match?_seq_one_cons, ih]
          by_cases hc : c = d
          · subst hc
            by_cases hword : word <+: cs
            · cases h : (sequence ps).match? (cs.drop word.length) <;> simp [hword, h]
            · simp [hword]
          · simp [hc, List.cons_prefix_cons, Ne.symm hc]

/-- Characters of a kind, more by one. -/
theorem ways_many_one_cons (repetition : Repetition) (c : Char) (cs : List Char) :
    (many repetition (one accepts)).ways (c :: cs)
      = repetition.order (.nothing (c :: cs))
        (if accepts c then
          ((many repetition (one accepts)).ways cs).map (·.after [c]) else []) := by
  rw [ways, rounds]
  by_cases hc : accepts c = true
  · simp [ways, hc]
    rfl
  · simp [ways, hc]

theorem ways_many_one_nil (repetition : Repetition) :
    (many repetition (one accepts)).ways [] = [.nothing []] := by
  rw [ways, rounds]
  cases repetition <;> rfl

/-- The matches are all rows of characters of the kind. -/
theorem mem_ways_many_one_iff {repetition : Repetition} {cs : List Char} {m : Match} :
    m ∈ (many repetition (one accepts)).ways cs
      ↔ m.text ++ m.rest = cs ∧ (∀ c ∈ m.text, accepts c = true) ∧ m.groups = [] := by
  induction cs generalizing m with
  | nil =>
      rw [ways_many_one_nil, List.mem_singleton, Match.ext_iff]
      constructor
      · rintro ⟨htext, hgroups, hrest⟩
        simp [htext, hgroups, hrest, Match.nothing]
      · rintro ⟨hcs, -, hgroups⟩
        obtain ⟨htext, hrest⟩ := List.append_eq_nil_iff.1 hcs
        exact ⟨htext, hgroups, hrest⟩
  | cons c cs ih =>
      have hways : m ∈ (many repetition (one accepts)).ways (c :: cs)
          ↔ m = .nothing (c :: cs) ∨ accepts c = true
            ∧ ∃ m', m' ∈ (many repetition (one accepts)).ways cs ∧ m'.after [c] = m := by
        rw [ways_many_one_cons]
        cases repetition <;> by_cases hc : accepts c = true <;>
          simp [Repetition.order, hc, or_comm]
      rw [hways]
      constructor
      · rintro (rfl | ⟨hc, m', hm', rfl⟩)
        · simp [Match.nothing]
        · obtain ⟨hcs, htext, hgroups⟩ := ih.1 hm'
          refine ⟨by simp [Match.after, hcs], ?_, hgroups⟩
          exact List.forall_mem_append.2 ⟨by simpa using hc, htext⟩
      · rintro ⟨hcs, htext, hgroups⟩
        obtain ⟨text, groups, rest⟩ := m
        cases text with
        | nil =>
            exact .inl (Match.ext rfl hgroups hcs)
        | cons d text =>
            obtain ⟨hd, htext⟩ := List.forall_mem_cons.1 htext
            obtain ⟨rfl, rfl⟩ := List.cons.inj hcs
            exact .inr ⟨hd, ⟨text, groups, rest⟩, ih.2 ⟨rfl, htext, hgroups⟩, rfl⟩

variable {accepts} {β : Type}

/-- What follows characters of a kind cannot begin with one of them, so all that are there belong to
the repetition, however it is made. -/
theorem findSome?_ways_many_one {g : Match → Option β}
    (hg : ∀ taken c left, accepts c = true → g ⟨taken, [], c :: left⟩ = none)
    (repetition : Repetition) (cs : List Char) :
    ((many repetition (one accepts)).ways cs).findSome? g
      = g ⟨cs.takeWhile accepts, [], cs.dropWhile accepts⟩ := by
  induction cs generalizing g with
  | nil =>
      rw [ways_many_one_nil, List.findSome?_cons, List.findSome?_nil]
      cases hend : g ⟨[], [], []⟩ <;> simp [Match.nothing, hend]
  | cons c cs ih =>
      rw [ways_many_one_cons]
      by_cases hc : accepts c = true
      · have hnone : g (.nothing (c :: cs)) = none := hg [] c cs hc
        have hall := ih (g := fun m => g (m.after [c])) fun taken d left hd => hg _ d left hd
        cases repetition <;>
          simpa [Repetition.order, hc, hnone, List.findSome?_append, List.findSome?_map,
            Function.comp_def, Match.after] using hall
      · cases repetition <;> cases hend : g ⟨[], [], c :: cs⟩ <;>
          simp [Repetition.order, hc, Match.nothing, hend]

/-- Of a lazy repetition the shortest row counts that is gone on from. -/
theorem findSome?_ways_lazy {g : Match → Option β} {row rest : List Char} {b : β}
    (hrow : ∀ c ∈ row, accepts c = true)
    (hshorter : ∀ taken left, row = taken ++ left → left ≠ [] →
      g ⟨taken, [], left ++ rest⟩ = none)
    (h : g ⟨row, [], rest⟩ = some b) :
    ((many .lazy (one accepts)).ways (row ++ rest)).findSome? g = some b := by
  induction row generalizing g with
  | nil =>
      -- Nothing is the first that is tried.
      rw [List.nil_append]
      cases rest with
      | nil => rw [ways_many_one_nil, List.findSome?_cons, Match.nothing, h]
      | cons c rest =>
          rw [ways_many_one_cons, Repetition.order, List.findSome?_cons, Match.nothing, h]
  | cons c row ih =>
      obtain ⟨hc, hrow⟩ := List.forall_mem_cons.1 hrow
      have hnothing : g (.nothing (c :: (row ++ rest))) = none :=
        hshorter [] (c :: row) rfl (List.cons_ne_nil c row)
      rw [List.cons_append, ways_many_one_cons, Repetition.order, List.findSome?_cons, hnothing,
        if_pos hc, List.findSome?_map]
      exact ih hrow (fun taken left heq hne => hshorter (c :: taken) left (by rw [heq]; rfl) hne) h

/-- Of a greedy repetition the longest row counts that is gone on from. -/
theorem findSome?_ways_greedy {g : Match → Option β} {row rest : List Char} {b : β}
    (hrow : ∀ c ∈ row, accepts c = true)
    (hlonger : ∀ taken left, rest = taken ++ left → taken ≠ [] →
      (∀ c ∈ taken, accepts c = true) → g ⟨row ++ taken, [], left⟩ = none)
    (h : g ⟨row, [], rest⟩ = some b) :
    ((many .greedy (one accepts)).ways (row ++ rest)).findSome? g = some b := by
  induction row generalizing g with
  | nil =>
      -- Of all the matches only the last, of nothing, is gone on from.
      rw [List.nil_append]
      cases rest with
      | nil => rw [ways_many_one_nil, List.findSome?_cons, Match.nothing, h]
      | cons c rest =>
          rw [ways_many_one_cons, Repetition.order, List.findSome?_append]
          have hnone : (if accepts c = true then
              ((many .greedy (one accepts)).ways rest).map (·.after [c]) else []).findSome? g
                = none := by
            split
            · rename_i hc
              rw [List.findSome?_map, List.findSome?_eq_none_iff]
              intro m hm
              obtain ⟨rfl, htext, hgroups⟩ := (mem_ways_many_one_iff accepts).1 hm
              have htaken := hlonger (c :: m.text) m.rest rfl (List.cons_ne_nil c m.text)
                (List.forall_mem_cons.2 ⟨hc, htext⟩)
              rw [← htaken]
              exact congrArg g (Match.ext rfl hgroups rfl)
            · rfl
          rw [hnone, Option.none_or, List.findSome?_cons, Match.nothing, h]
  | cons c row ih =>
      obtain ⟨hc, hrow⟩ := List.forall_mem_cons.1 hrow
      rw [List.cons_append, ways_many_one_cons, Repetition.order, if_pos hc,
        List.findSome?_append, List.findSome?_map, ih (g := g ∘ (·.after [c])) hrow hlonger h,
        Option.some_or]

/-- Characters of a kind, as many as there are. -/
theorem match?_many_one (cs : List Char) :
    (many .greedy (one accepts)).match? cs
      = some ⟨cs.takeWhile accepts, [], cs.dropWhile accepts⟩ := by
  have hways : ((many .greedy (one accepts)).ways
      (cs.takeWhile accepts ++ cs.dropWhile accepts)).findSome? some
        = some ⟨cs.takeWhile accepts, [], cs.dropWhile accepts⟩ := by
    refine findSome?_ways_greedy (fun c hc => List.mem_takeWhile_imp hc) ?_ rfl
    intro taken left heq hne htaken
    obtain ⟨c, taken, rfl⟩ := List.exists_cons_of_ne_nil hne
    have hstop := not_of_head?_dropWhile accepts cs c (by rw [heq]; rfl)
    rw [htaken c List.mem_cons_self] at hstop
    cases hstop
  rwa [List.takeWhile_append_dropWhile, ← match?_eq_findSome?] at hways

/-- Characters of a kind in front of what cannot begin with one of them. -/
theorem match?_seq_many_one {q : Pattern}
    (hq : ∀ c cs, accepts c = true → q.match? (c :: cs) = none) (repetition : Repetition)
    (cs : List Char) :
    (seq (many repetition (one accepts)) q).match? cs
      = (q.match? (cs.dropWhile accepts)).map (·.after (cs.takeWhile accepts)) := by
  rw [match?_seq, findSome?_ways_many_one]
  · cases q.match? (cs.dropWhile accepts) <;> rfl
  · intro taken c left hc
    rw [hq c left hc, Option.map_none]

theorem ways_row_cons (repetition : Repetition) (c : Char) (cs : List Char) :
    (row repetition accepts).ways (c :: cs)
      = if accepts c then ((many repetition (one accepts)).ways cs).map (·.after [c]) else [] := by
  unfold row sequence
  simp only [List.foldr_cons, List.foldr_nil]
  rw [ways, ways]
  split
  · simp [ways, Match.followedBy_of_groups_eq_nil, Match.after]
  · rfl

theorem mem_ways_row {repetition : Repetition} {cs : List Char} {m : Match}
    (h : m ∈ (row repetition accepts).ways cs) :
    m.text ≠ [] ∧ m.text ++ m.rest = cs ∧ (∀ c ∈ m.text, accepts c = true) ∧ m.groups = [] := by
  cases cs with
  | nil => cases h
  | cons c cs =>
      rw [ways_row_cons] at h
      split at h
      · rename_i hc
        obtain ⟨tail, htail, rfl⟩ := List.mem_map.1 h
        obtain ⟨rfl, htext, hgroups⟩ := (mem_ways_many_one_iff accepts).1 htail
        exact ⟨List.cons_ne_nil c tail.text, rfl, List.forall_mem_cons.2 ⟨hc, htext⟩, hgroups⟩
      · cases h

/-- A row of characters that is followed by what cannot begin with one of them. -/
theorem match?_seq_group_row {q : Pattern}
    (hq : ∀ c cs, accepts c = true → q.match? (c :: cs) = none) (name : String)
    (repetition : Repetition) (cs : List Char) :
    (seq (group name (row repetition accepts)) q).match? cs
      = if cs.takeWhile accepts = [] then none
        else (q.match? (cs.dropWhile accepts)).map fun m =>
          ⟨cs.takeWhile accepts ++ m.text, (name, cs.takeWhile accepts) :: m.groups, m.rest⟩ := by
  rw [match?_seq, ways]
  cases cs with
  | nil => rfl
  | cons c cs =>
      rw [ways_row_cons]
      by_cases hc : accepts c = true
      · rw [if_pos hc, List.findSome?_map, List.findSome?_map, findSome?_ways_many_one,
          List.takeWhile_cons_of_pos hc, List.dropWhile_cons_of_pos hc,
          if_neg (List.cons_ne_nil c _)]
        · rfl
        · intro taken d left hd
          show (q.match? (d :: left)).map _ = none
          rw [hq d left hd, Option.map_none]
      · rw [if_neg hc, List.takeWhile_cons_of_neg hc, if_pos rfl]
        rfl

/-- A row of characters, as long as it can be. -/
theorem match?_row (cs : List Char) :
    (row .greedy accepts).match? cs
      = if cs.takeWhile accepts = [] then none
        else some ⟨cs.takeWhile accepts, [], cs.dropWhile accepts⟩ := by
  cases cs with
  | nil => rfl
  | cons c cs =>
      unfold match?
      rw [ways_row_cons]
      by_cases hc : accepts c = true
      · have hmany : ((many .greedy (one accepts)).ways cs).head? = _ := match?_many_one cs
        rw [if_pos hc, List.head?_map, hmany, List.takeWhile_cons_of_pos hc,
          List.dropWhile_cons_of_pos hc, if_neg (List.cons_ne_nil c _)]
        rfl
      · rw [if_neg hc, List.takeWhile_cons_of_neg hc, if_pos rfl]
        rfl

end Characters

/-! ### Rounds of a pattern -/

/-- No round can be made. -/
theorem match?_many_of_none {p : Pattern} {cs : List Char} (h : p.match? cs = none) :
    (many .greedy p).match? cs = some (.nothing cs) := by
  unfold match?
  rw [ways, rounds, List.head?_eq_none_iff.1 h]
  rfl

theorem exists_match?_many (p : Pattern) (cs : List Char) :
    ∃ m, (many .greedy p).match? cs = some m := by
  unfold match?
  rw [ways, rounds, Repetition.order, List.head?_append]
  cases List.head? _ with
  | none => exact ⟨_, rfl⟩
  | some m => exact ⟨m, rfl⟩

/-- After a first round come the others. -/
theorem match?_many_of_some {p : Pattern} {cs : List Char} {m : Match} (h : p.match? cs = some m)
    (hlt : m.rest.length < cs.length) :
    (many .greedy p).match? cs = ((many .greedy p).match? m.rest).map m.followedBy := by
  obtain ⟨next, hnext⟩ := exists_match?_many p m.rest
  obtain ⟨others, hways⟩ := List.head?_eq_some_iff.1 h
  rw [hnext, Option.map_some]
  unfold match? at hnext ⊢
  rw [ways] at hnext
  rw [ways, rounds, hways, Repetition.order, List.flatMap_cons, dif_pos hlt, List.append_assoc,
    List.head?_append, List.head?_map, hnext]
  rfl

/-! ### Matches in a text -/

theorem findAllFrom_nil (p : Pattern) (offset : Nat) : p.findAllFrom offset [] = [] := by
  rw [findAllFrom]

theorem findAllFrom_cons_of_none {p : Pattern} {c : Char} {cs : List Char}
    (h : p.match? (c :: cs) = none) (offset : Nat) :
    p.findAllFrom offset (c :: cs) = p.findAllFrom (offset + c.utf8Size) cs := by
  rw [findAllFrom, h]

theorem findAllFrom_of_some {p : Pattern} {cs : List Char} {m : Match} (h : p.match? cs = some m)
    (hlt : m.rest.length < cs.length) (offset : Nat) :
    p.findAllFrom offset cs = (offset, m) :: p.findAllFrom (offset + byteSize m.text) m.rest := by
  cases cs with
  | nil => cases hlt
  | cons c cs =>
      rw [findAllFrom, h]
      exact dif_pos hlt

/-- Characters with which no match begins are passed over. -/
theorem findAllFrom_append_of_none {p : Pattern} {front : List Char}
    (h : ∀ c ∈ front, ∀ cs, p.match? (c :: cs) = none) (offset : Nat) (cs : List Char) :
    p.findAllFrom offset (front ++ cs) = p.findAllFrom (offset + byteSize front) cs := by
  induction front generalizing offset with
  | nil => rfl
  | cons c front ih =>
      obtain ⟨hc, hfront⟩ := List.forall_mem_cons.1 h
      rw [List.cons_append, findAllFrom_cons_of_none (hc (front ++ cs)), ih hfront, byteSize_cons,
        Nat.add_assoc]

end Pattern

end MailMerge.Text
