import MailMerge.Proofs.Command.Numeral
import Mathlib.Data.List.Forall2

/-!
# `MailMerge.Proofs.Command.Scalars`: the grammar of a file of values

`IsFile` is the grammar of the files, together with the members of the object: a name and a value,
which is a text, a number or a flag. A text is decoded as it is divided into characters and escapes.

* `readText?_eq_some_iff`, `exists_of_readValue?`, `readValue?_append`: texts and values are read
  where they are.
* `parse?_eq_some_iff`: the files that are read, and what their members become.
-/

set_option autoImplicit false

namespace MailMerge.Scalars

open MailMerge.Number MailMerge.Text

/-! ### The grammar -/

/-- White space, or nothing. -/
def IsSpace (cs : List Char) : Prop := ∀ c ∈ cs, isSpace c = true

/-- Four hexadecimal digits and their number. -/
inductive IsUnit : List Char → Nat → Prop where
  | mk {a b c d : Char} {v w x y : Nat} (ha : hexValue? a = some v) (hb : hexValue? b = some w)
      (hc : hexValue? c = some x) (hd : hexValue? d = some y) :
      IsUnit [a, b, c, d] (((v * 16 + w) * 16 + x) * 16 + y)

/-- The letters that stand for a character behind a backslash. -/
def escapes : List (Char × Char) :=
  [('"', '"'), ('\\', '\\'), ('/', '/'), ('b', '\x08'), ('f', '\x0c'), ('n', '\n'), ('r', '\r'),
    ('t', '\t')]

/-- What stands behind `\u`, and the character that it stands for. A character of more than sixteen
bits is written as two units. -/
inductive AreUnits : List Char → Char → Prop where
  | one {cs : List Char} {n : Nat} (h : IsUnit cs n) (hn : n < 0xD800 ∨ 0xDFFF < n) :
      AreUnits cs (Char.ofNat n)
  | pair {cs ds : List Char} {high low : Nat} (hcs : IsUnit cs high) (hds : IsUnit ds low)
      (hhigh : 0xD800 ≤ high ∧ high < 0xDC00) (hlow : 0xDC00 ≤ low ∧ low ≤ 0xDFFF) :
      AreUnits (cs ++ '\\' :: 'u' :: ds)
        (Char.ofNat (0x10000 + (high - 0xD800) * 0x400 + (low - 0xDC00)))

/-- What stands behind a backslash, and the character that it stands for. -/
inductive IsEscape : List Char → Char → Prop where
  | letter {letter c : Char} (h : (letter, c) ∈ escapes) : IsEscape [letter] c
  | units {cs : List Char} {c : Char} (h : AreUnits cs c) : IsEscape ('u' :: cs) c

/-- What stands behind the quote that opens a text, up to the one that closes it, and the characters
of the text. -/
inductive IsText : List Char → List Char → Prop where
  | close : IsText ['"'] []
  | plain {c : Char} {source text : List Char} (hc : 0x20 ≤ c.toNat) (hquote : c ≠ '"')
      (hbackslash : c ≠ '\\') (h : IsText source text) : IsText (c :: source) (c :: text)
  | escape {mark source text : List Char} {c : Char} (hmark : IsEscape mark c)
      (h : IsText source text) : IsText ('\\' :: (mark ++ source)) (c :: text)

/-- A value of a file. -/
inductive Value where
  | text (decoded : String)
  /-- A number with the text that it is written as. -/
  | number (source : String) (parts : Numeral)
  | flag (value : Bool)

/-- A text is this value. -/
inductive IsValue : List Char → Value → Prop where
  | text {source text : List Char} (h : IsText source text) :
      IsValue ('"' :: source) (.text (.ofList text))
  | number {source : List Char} {x : Numeral} (h : IsNumeral source x) :
      IsValue source (.number (.ofList source) x)
  | yes : IsValue ['t', 'r', 'u', 'e'] (.flag true)
  | no : IsValue ['f', 'a', 'l', 's', 'e'] (.flag false)

/-- A text is a member of this name and value. -/
inductive IsMember : List Char → String × Value → Prop where
  | mk {name key before behind source : List Char} {value : Value} (hname : IsText name key)
      (hbefore : IsSpace before) (hbehind : IsSpace behind) (hvalue : IsValue source value) :
      IsMember ('"' :: (name ++ (before ++ ':' :: (behind ++ source)))) (.ofList key, value)

/-- A text is these members, up to the closing brace. -/
inductive AreMembers : List Char → List (String × Value) → Prop where
  | last {source before : List Char} {member : String × Value} (h : IsMember source member)
      (hbefore : IsSpace before) : AreMembers (source ++ (before ++ ['}'])) [member]
  | more {source before behind rest : List Char} {member : String × Value}
      {members : List (String × Value)} (h : IsMember source member) (hbefore : IsSpace before)
      (hbehind : IsSpace behind) (hrest : AreMembers rest members) :
      AreMembers (source ++ (before ++ ',' :: (behind ++ rest))) (member :: members)

/-- A text is an object of these members. -/
inductive IsObject : List Char → List (String × Value) → Prop where
  | empty {inner : List Char} (h : IsSpace inner) : IsObject ('{' :: (inner ++ ['}'])) []
  | members {inner source : List Char} {members : List (String × Value)} (hinner : IsSpace inner)
      (h : AreMembers source members) : IsObject ('{' :: (inner ++ source)) members

/-- A text is a file of these members. -/
inductive IsFile : List Char → List (String × Value) → Prop where
  | mk {front source back : List Char} {members : List (String × Value)} (hfront : IsSpace front)
      (h : IsObject source members) (hback : IsSpace back) :
      IsFile (front ++ (source ++ back)) members

/-- The text that a value becomes, if it is in range. -/
def Value.text? : Value → Option String
  | .text decoded => some decoded
  | .number _ x => x.text?
  | .flag value => some (toString value)

/-- A member becomes this name and text. -/
def Becomes (member : String × Value) (pair : String × String) : Prop :=
  pair.1 = member.1 ∧ member.2.text? = some pair.2

/-! ### White space -/

theorem exists_skip (cs : List Char) : ∃ space, IsSpace space ∧ cs = space ++ skip cs :=
  ⟨cs.takeWhile isSpace, fun _ hc => List.mem_takeWhile_imp hc,
    List.takeWhile_append_dropWhile.symm⟩

theorem skip_append {space rest : List Char} (h : IsSpace space)
    (hrest : ∀ c ∈ rest.head?, isSpace c = false) : skip (space ++ rest) = rest :=
  (takeWhile_dropWhile_iff.2 ⟨rfl, h, hrest⟩).2

theorem skip_append_cons {space : List Char} (h : IsSpace space) {c : Char}
    (hc : isSpace c = false) (rest : List Char) : skip (space ++ c :: rest) = c :: rest :=
  skip_append h fun _ hd => Option.some.inj hd ▸ hc

theorem skip_eq_nil_iff {cs : List Char} : skip cs = [] ↔ IsSpace cs := by
  unfold skip IsSpace
  rw [List.dropWhile_eq_nil_iff]

/-! ### Texts -/

theorem exists_of_readHex? {cs rest : List Char} {n : Nat} (h : readHex? cs = some (n, rest)) :
    ∃ source, IsUnit source n ∧ cs = source ++ rest := by
  unfold readHex? at h
  split at h
  · simp only [Option.bind_eq_bind, Option.bind_eq_some_iff] at h
    obtain ⟨v, ha, w, hb, x, hc, y, hd, heq⟩ := h
    cases heq
    exact ⟨_, .mk ha hb hc hd, rfl⟩
  · cases h

theorem readHex?_append {source : List Char} {n : Nat} (h : IsUnit source n) (rest : List Char) :
    readHex? (source ++ rest) = some (n, rest) := by
  obtain ⟨ha, hb, hc, hd⟩ := h
  simp [readHex?, ha, hb, hc, hd]

theorem exists_of_readUnits? {cs rest : List Char} {c : Char}
    (h : readUnits? cs = some (c, rest)) : ∃ source, AreUnits source c ∧ cs = source ++ rest := by
  unfold readUnits? at h
  split at h
  · cases h
  · rename_i high behind hread
    obtain ⟨ds, hhigh, rfl⟩ := exists_of_readHex? hread
    split at h
    · rename_i hone
      cases h
      exact ⟨ds, .one hhigh hone, rfl⟩
    · rename_i hnot
      split at h
      · cases h
      · rename_i hlt
        split at h
        · split at h
          · cases h
          · rename_i low behind hread'
            obtain ⟨es, hlow, rfl⟩ := exists_of_readHex? hread'
            split at h
            · rename_i hrange
              obtain ⟨rfl, rfl⟩ := Prod.mk.inj (Option.some.inj h)
              refine ⟨_, .pair hhigh hlow (by omega) hrange, ?_⟩
              rw [List.append_assoc, List.cons_append, List.cons_append]
            · cases h
        · cases h

theorem readUnits?_append {source : List Char} {c : Char} (h : AreUnits source c)
    (rest : List Char) : readUnits? (source ++ rest) = some (c, rest) := by
  cases h with
  | one h hn => simp only [readUnits?, readHex?_append h, if_pos hn]
  | @pair ds es high low hds hes hhigh hlow =>
      rw [List.append_assoc, List.cons_append, List.cons_append]
      simp only [readUnits?, readHex?_append hds, readHex?_append hes]
      rw [if_neg (by omega), if_neg (by omega), if_pos hlow]

theorem exists_of_readEscape? {cs rest : List Char} {c : Char}
    (h : readEscape? cs = some (c, rest)) : ∃ source, IsEscape source c ∧ cs = source ++ rest := by
  unfold readEscape? at h
  split at h
  · obtain ⟨source, hunits, rfl⟩ := exists_of_readUnits? h
    exact ⟨_, .units hunits, rfl⟩
  all_goals
    first
    | cases h
      exact ⟨_, .letter (by simp [escapes]), rfl⟩
    | cases h

theorem readEscape?_append {source : List Char} {c : Char} (h : IsEscape source c)
    (rest : List Char) : readEscape? (source ++ rest) = some (c, rest) := by
  cases h with
  | units h => exact readUnits?_append h rest
  | letter h =>
      simp only [escapes, List.mem_cons, Prod.mk.injEq, List.not_mem_nil, or_false] at h
      rcases h with ⟨rfl, rfl⟩ | ⟨rfl, rfl⟩ | ⟨rfl, rfl⟩ | ⟨rfl, rfl⟩ | ⟨rfl, rfl⟩ | ⟨rfl, rfl⟩
        | ⟨rfl, rfl⟩ | ⟨rfl, rfl⟩ <;> rfl

theorem exists_of_readTextFuel? {fuel : Nat} {cs text rest : List Char}
    (h : readTextFuel? fuel cs = some (text, rest)) :
    ∃ source, IsText source text ∧ cs = source ++ rest := by
  fun_induction readTextFuel? fuel cs generalizing text with
  | case1 => cases h
  | case2 => cases h
  | case3 fuel rest =>
      cases h
      exact ⟨_, .close, rfl⟩
  | case4 => cases h
  | case5 fuel cs c behind hescape ih =>
      obtain ⟨⟨text', rest'⟩, htext, heq⟩ := Option.map_eq_some_iff.1 h
      cases heq
      obtain ⟨mark, hmark, rfl⟩ := exists_of_readEscape? hescape
      obtain ⟨source, hsource, rfl⟩ := ih htext
      exact ⟨_, .escape hmark hsource, by simp⟩
  | case6 => cases h
  | case7 fuel c cs hquote hbackslash hlow ih =>
      obtain ⟨⟨text', rest'⟩, htext, heq⟩ := Option.map_eq_some_iff.1 h
      cases heq
      obtain ⟨source, hsource, rfl⟩ := ih htext
      exact ⟨_, .plain (Nat.le_of_not_lt hlow) hquote hbackslash hsource, rfl⟩

theorem readTextFuel?_append {source text : List Char} (h : IsText source text)
    (rest : List Char) {fuel : Nat} (hfuel : source.length ≤ fuel) :
    readTextFuel? fuel (source ++ rest) = some (text, rest) := by
  induction h generalizing fuel with
  | close =>
      obtain ⟨fuel, rfl⟩ := Nat.exists_eq_add_of_le' hfuel
      rfl
  | plain hc hquote hbackslash _ ih =>
      obtain ⟨fuel, rfl⟩ := Nat.exists_eq_add_of_le' (Nat.le_trans (Nat.le_add_left 1 _) hfuel)
      rw [List.cons_append, readTextFuel?, if_neg (Nat.not_lt.2 hc), ih (Nat.le_of_succ_le_succ hfuel)]
      · rfl
      · exact hquote
      · exact hbackslash
  | escape hmark _ ih =>
      obtain ⟨fuel, rfl⟩ := Nat.exists_eq_add_of_le' (Nat.le_trans (Nat.le_add_left 1 _) hfuel)
      rw [List.length_cons, List.length_append] at hfuel
      rw [List.cons_append, List.append_assoc, readTextFuel?, readEscape?_append hmark]
      dsimp only
      rw [ih (by omega)]
      rfl

theorem exists_of_readText? {cs rest : List Char} {text : String}
    (h : readText? cs = some (text, rest)) :
    ∃ source key, IsText source key ∧ text = .ofList key ∧ cs = source ++ rest := by
  obtain ⟨⟨key, rest'⟩, hkey, heq⟩ := Option.map_eq_some_iff.1 h
  cases heq
  obtain ⟨source, hsource, rfl⟩ := exists_of_readTextFuel? hkey
  exact ⟨source, key, hsource, rfl, rfl⟩

theorem readText?_append {source key : List Char} (h : IsText source key) (rest : List Char) :
    readText? (source ++ rest) = some (.ofList key, rest) := by
  unfold readText?
  rw [readTextFuel?_append h rest (by rw [List.length_append]; omega)]
  rfl

/-! ### Values -/

theorem exists_of_readValue? {cs rest : List Char} {text : String}
    (h : readValue? cs = some (text, rest)) :
    ∃ source value, IsValue source value ∧ value.text? = some text ∧ cs = source ++ rest := by
  unfold readValue? at h
  split at h
  · obtain ⟨source, key, hsource, rfl, rfl⟩ := exists_of_readText? h
    exact ⟨_, _, .text hsource, rfl, rfl⟩
  · cases h
    exact ⟨_, _, .yes, rfl, rfl⟩
  · cases h
    exact ⟨_, _, .no, rfl, rfl⟩
  · split at h
    · cases h
    · rename_i x behind hread
      obtain ⟨text', htext, heq⟩ := Option.map_eq_some_iff.1 h
      cases heq
      obtain ⟨source, hsource, rfl⟩ := exists_of_readNumeral? hread
      exact ⟨source, _, .number hsource, htext, rfl⟩

/-- A number begins with a digit or a minus. -/
theorem head?_of_isNumeral {source : List Char} {x : Numeral} (h : IsNumeral source x)
    (rest : List Char) : ∀ c ∈ (source ++ rest).head?, c.isDigit = true ∨ c = '-' := by
  obtain @⟨negative, whole, point, fraction, power, exponent, hwhole, -, -⟩ := h
  intro c hc
  cases negative with
  | true => exact .inr (Option.some.inj hc).symm
  | false =>
      refine .inl (isDigit_of_head?_append hwhole.toIsDigits (point ++ power ++ rest) c ?_)
      simpa [minus] using hc

theorem readValue?_append {source : List Char} {value : Value} (h : IsValue source value)
    {rest : List Char} (hrest : Stops rest) :
    readValue? (source ++ rest) = value.text?.map (·, rest) := by
  cases h with
  | text h => exact readText?_append h rest
  | yes => rfl
  | no => rfl
  | number h =>
      have hhead := head?_of_isNumeral h rest
      unfold readValue?
      split
      · rename_i heq
        exact absurd (hhead '"' (heq ▸ rfl)) (by decide)
      · rename_i heq
        exact absurd (hhead 't' (heq ▸ rfl)) (by decide)
      · rename_i heq
        exact absurd (hhead 'f' (heq ▸ rfl)) (by decide)
      · rw [readNumeral?_append h hrest]
        rfl

/-! ### Members -/

theorem exists_of_readMember? {cs rest : List Char} {pair : String × String}
    (h : readMember? cs = some (pair, rest)) :
    ∃ source member, IsMember source member ∧ Becomes member pair ∧ cs = source ++ rest := by
  unfold readMember? at h
  split at h
  · rename_i cs
    split at h
    · cases h
    · rename_i name behind hname
      obtain ⟨key, text, hkey, rfl, rfl⟩ := exists_of_readText? hname
      obtain ⟨before, hbefore, hskip⟩ := exists_skip behind
      split at h
      · rename_i tail htail
        obtain ⟨inner, hinner, hskip'⟩ := exists_skip tail
        obtain ⟨⟨text', rest'⟩, hvalue, heq⟩ := Option.map_eq_some_iff.1 h
        cases heq
        obtain ⟨source, value, hsource, htext, hcs⟩ := exists_of_readValue? hvalue
        refine ⟨_, _, .mk hkey hbefore hinner hsource, ⟨rfl, htext⟩, ?_⟩
        rw [hskip, htail, hskip', hcs]
        simp
      · cases h
  · cases h

theorem isSpace_of_isDigit {c : Char} (h : c.isDigit = true) : isSpace c = false := by
  by_contra hspace
  simp only [isSpace, Bool.not_eq_false, Bool.or_eq_true, beq_iff_eq] at hspace
  rcases hspace with ((rfl | rfl) | rfl) | rfl <;> exact absurd h (by decide)

theorem isSpace_of_head?_isValue {source : List Char} {value : Value} (h : IsValue source value)
    (rest : List Char) : ∀ c ∈ (source ++ rest).head?, isSpace c = false := by
  intro c hc
  cases h with
  | text _ => cases hc; decide
  | yes => cases hc; decide
  | no => cases hc; decide
  | number h =>
      rcases head?_of_isNumeral h rest c hc with hdigit | rfl
      · exact isSpace_of_isDigit hdigit
      · decide

theorem readMember?_append {source : List Char} {member : String × Value}
    {pair : String × String} (h : IsMember source member) (hpair : Becomes member pair)
    {rest : List Char} (hrest : Stops rest) :
    readMember? (source ++ rest) = some (pair, rest) := by
  obtain @⟨name, key, before, behind, source, value, hname, hbefore, hbehind, hvalue⟩ := h
  obtain ⟨title, text⟩ := pair
  obtain ⟨rfl, htext⟩ := hpair
  have hcolon := skip_append_cons hbefore (by decide : isSpace ':' = false)
    (behind ++ (source ++ rest))
  have hinner : skip (behind ++ (source ++ rest)) = source ++ rest :=
    skip_append hbehind (isSpace_of_head?_isValue hvalue rest)
  simp only [List.cons_append, List.append_assoc, readMember?, readText?_append hname, hcolon,
    hinner, readValue?_append hvalue hrest]
  dsimp only at htext
  rw [htext]
  rfl

/-- Nothing that can stand behind a member goes on with a number. -/
theorem stops_space_append {space : List Char} (h : IsSpace space) {c : Char} (rest : List Char)
    (hc : c = ',' ∨ c = '}') : Stops (space ++ c :: rest) := by
  intro d hd
  cases space with
  | nil =>
      cases hd
      rcases hc with rfl | rfl <;> decide
  | cons s space =>
      obtain rfl : s = d := Option.some.inj hd
      have hspace := h s List.mem_cons_self
      simp only [isSpace, Bool.or_eq_true, beq_iff_eq] at hspace
      rcases hspace with ((rfl | rfl) | rfl) | rfl <;> decide

theorem exists_of_readMembersFuel? {fuel : Nat} {cs rest : List Char}
    {pairs : List (String × String)} (h : readMembersFuel? fuel cs = some (pairs, rest)) :
    ∃ source members, AreMembers source members ∧ List.Forall₂ Becomes members pairs
      ∧ cs = source ++ rest := by
  induction fuel generalizing cs pairs with
  | zero => cases h
  | succ fuel ih =>
      unfold readMembersFuel? at h
      split at h
      · cases h
      · rename_i pair behind hmember
        obtain ⟨source, member, hsource, hpair, rfl⟩ := exists_of_readMember? hmember
        obtain ⟨before, hbefore, hskip⟩ := exists_skip behind
        split at h
        · rename_i tail htail
          obtain ⟨inner, hinner, hskip'⟩ := exists_skip tail
          obtain ⟨⟨pairs', rest'⟩, hmembers, heq⟩ := Option.map_eq_some_iff.1 h
          cases heq
          obtain ⟨sources, members, hsources, hpairs, hcs⟩ := ih hmembers
          refine ⟨_, _, .more hsource hbefore hinner hsources, .cons hpair hpairs, ?_⟩
          rw [hskip, htail, hskip', hcs]
          simp
        · rename_i tail htail
          cases h
          refine ⟨_, _, .last hsource hbefore, .cons hpair .nil, ?_⟩
          rw [hskip, htail]
          simp
        · cases h

/-- Members begin with the quote of a name. -/
theorem head?_of_areMembers {source : List Char} {members : List (String × Value)}
    (h : AreMembers source members) (rest : List Char) : (source ++ rest).head? = some '"' := by
  cases h with
  | last h _ => cases h; rfl
  | more h _ _ _ => cases h; rfl

theorem isSpace_of_head?_areMembers {source : List Char} {members : List (String × Value)}
    (h : AreMembers source members) (rest : List Char) :
    ∀ c ∈ (source ++ rest).head?, isSpace c = false := by
  intro c hc
  rw [head?_of_areMembers h rest] at hc
  cases hc
  decide

theorem readMembersFuel?_append {source : List Char} {members : List (String × Value)}
    {pairs : List (String × String)} (h : AreMembers source members)
    (hpairs : List.Forall₂ Becomes members pairs) (rest : List Char) {fuel : Nat}
    (hfuel : source.length ≤ fuel) :
    readMembersFuel? fuel (source ++ rest) = some (pairs, rest) := by
  induction h generalizing fuel pairs with
  | @last source before member h hbefore =>
      obtain ⟨pair, hpair, rfl⟩ : ∃ pair, Becomes member pair ∧ pairs = [pair] := by
        cases hpairs with
        | cons hpair hnil => cases hnil; exact ⟨_, hpair, rfl⟩
      rw [List.length_append, List.length_append, List.length_singleton] at hfuel
      obtain ⟨fuel, rfl⟩ := Nat.exists_eq_add_of_le' (Nat.le_trans (by omega : 1 ≤ _) hfuel)
      have hskip := skip_append_cons hbefore (by decide : isSpace '}' = false) rest
      simp only [List.append_assoc, List.singleton_append, readMembersFuel?,
        readMember?_append h hpair (stops_space_append hbefore rest (.inr rfl)), hskip]
  | @more source before behind sources member members h hbefore hbehind hrest ih =>
      cases hpairs with
      | @cons _ pair _ pairs hpair hpairs =>
          simp only [List.length_append, List.length_cons] at hfuel
          obtain ⟨fuel, rfl⟩ := Nat.exists_eq_add_of_le' (Nat.le_trans (by omega : 1 ≤ _) hfuel)
          have hskip := skip_append_cons hbefore (by decide : isSpace ',' = false)
            (behind ++ (sources ++ rest))
          have hinner : skip (behind ++ (sources ++ rest)) = sources ++ rest :=
            skip_append hbehind (isSpace_of_head?_areMembers hrest rest)
          have hlength : sources.length ≤ fuel := by omega
          simp only [List.append_assoc, List.cons_append, readMembersFuel?,
            readMember?_append h hpair (stops_space_append hbefore _ (.inl rfl)), hskip, hinner,
            ih hpairs hlength]
          rfl

/-! ### Files -/

theorem exists_of_readObject? {cs rest : List Char} {pairs : List (String × String)}
    (h : readObject? cs = some (pairs, rest)) :
    ∃ source members, IsObject source members ∧ List.Forall₂ Becomes members pairs
      ∧ cs = source ++ rest := by
  unfold readObject? at h
  split at h
  · rename_i cs
    obtain ⟨inner, hinner, hskip⟩ := exists_skip cs
    split at h
    · rename_i tail htail
      cases h
      refine ⟨_, _, .empty hinner, .nil, ?_⟩
      rw [hskip, htail]
      simp
    · obtain ⟨source, members, hsource, hpairs, hcs⟩ := exists_of_readMembersFuel? h
      refine ⟨_, _, .members hinner hsource, hpairs, ?_⟩
      rw [hskip, hcs]
      simp
  · cases h

theorem readObject?_append {source : List Char} {members : List (String × Value)}
    {pairs : List (String × String)} (h : IsObject source members)
    (hpairs : List.Forall₂ Becomes members pairs) (rest : List Char) :
    readObject? (source ++ rest) = some (pairs, rest) := by
  cases h with
  | @empty inner hinner =>
      have hskip := skip_append_cons hinner (by decide : isSpace '}' = false) rest
      cases hpairs
      simp only [List.append_assoc, List.cons_append, List.nil_append, readObject?, hskip]
  | @members inner source members hinner hmembers =>
      have hhead := head?_of_areMembers hmembers rest
      have hskip : skip (inner ++ (source ++ rest)) = source ++ rest :=
        skip_append hinner (isSpace_of_head?_areMembers hmembers rest)
      simp only [List.append_assoc, List.cons_append, readObject?, hskip]
      split
      · rename_i heq
        rw [heq] at hhead
        cases hhead
      · exact readMembersFuel?_append hmembers hpairs rest (by rw [List.length_append]; omega)

theorem isSpace_of_head?_isObject {source : List Char} {members : List (String × Value)}
    (h : IsObject source members) (rest : List Char) :
    ∀ c ∈ (source ++ rest).head?, isSpace c = false := by
  intro c hc
  cases h with
  | empty _ => cases hc; decide
  | members _ _ => cases hc; decide

/-- The files that are read, and what their members become. -/
theorem parse?_eq_some_iff {text : String} {pairs : List (String × String)} :
    parse? text = some pairs
      ↔ ∃ members, IsFile text.toList members ∧ List.Forall₂ Becomes members pairs := by
  unfold parse?
  constructor
  · intro h
    obtain ⟨front, hfront, hskip⟩ := exists_skip text.toList
    split at h
    · rename_i pairs' rest hread
      split at h
      · rename_i hrest
        cases h
        obtain ⟨source, members, hsource, hpairs, hcs⟩ := exists_of_readObject? hread
        refine ⟨members, ?_, hpairs⟩
        rw [hskip, hcs]
        exact .mk hfront hsource (skip_eq_nil_iff.1 (List.isEmpty_iff.1 hrest))
      · cases h
    · cases h
  · rintro ⟨members, hfile, hpairs⟩
    generalize text.toList = cs at hfile
    obtain @⟨front, source, back, members, hfront, hobject, hback⟩ := hfile
    have hskip : skip (front ++ (source ++ back)) = source ++ back :=
      skip_append hfront (isSpace_of_head?_isObject hobject back)
    rw [hskip, readObject?_append hobject hpairs]
    dsimp only
    rw [skip_eq_nil_iff.2 hback]
    rfl

/-! ### One reading

As the readers go by what the grammar says, a text has one division at most. -/

theorem eq_of_isText {source source' key key' rest rest' : List Char} (h : IsText source key)
    (h' : IsText source' key') (heq : source ++ rest = source' ++ rest') :
    key = key' ∧ rest = rest' := by
  have hread := readTextFuel?_append h rest (Nat.le_max_left source.length source'.length)
  have hread' := readTextFuel?_append h' rest' (Nat.le_max_right source.length source'.length)
  rw [heq, hread', Option.some.injEq, Prod.mk.injEq] at hread
  exact ⟨hread.1.symm, hread.2.symm⟩

theorem eq_of_isNumeral {source source' rest rest' : List Char} {x x' : Numeral}
    (h : IsNumeral source x) (h' : IsNumeral source' x') (hrest : Stops rest)
    (hrest' : Stops rest') (heq : source ++ rest = source' ++ rest') :
    x = x' ∧ rest = rest' := by
  have hread := readNumeral?_append h hrest
  rw [heq, readNumeral?_append h' hrest', Option.some.injEq, Prod.mk.injEq] at hread
  exact ⟨hread.1.symm, hread.2.symm⟩

theorem eq_of_isValue {source source' rest rest' : List Char} {value value' : Value}
    (h : IsValue source value) (h' : IsValue source' value') (hrest : Stops rest)
    (hrest' : Stops rest') (heq : source ++ rest = source' ++ rest') :
    value = value' ∧ rest = rest' := by
  -- Values of different kinds begin with different characters.
  have hhead : (source ++ rest).head? = (source' ++ rest').head? := congrArg List.head? heq
  cases h with
  | text hkey =>
      cases h' with
      | text hkey' =>
          obtain ⟨rfl, hrests⟩ := eq_of_isText hkey hkey' (List.cons.inj heq).2
          exact ⟨rfl, hrests⟩
      | number hx => exact absurd (head?_of_isNumeral hx rest' '"' hhead.symm) (by decide)
      | yes => simp at hhead
      | no => simp at hhead
  | number hx =>
      cases h' with
      | text _ => exact absurd (head?_of_isNumeral hx rest '"' hhead) (by decide)
      | number hx' =>
          obtain ⟨rfl, rfl⟩ := eq_of_isNumeral hx hx' hrest hrest' heq
          rw [List.append_cancel_right heq]
          exact ⟨rfl, rfl⟩
      | yes => exact absurd (head?_of_isNumeral hx rest 't' hhead) (by decide)
      | no => exact absurd (head?_of_isNumeral hx rest 'f' hhead) (by decide)
  | yes =>
      cases h' with
      | text _ => simp at hhead
      | number hx => exact absurd (head?_of_isNumeral hx rest' 't' hhead.symm) (by decide)
      | yes => exact ⟨rfl, List.append_cancel_left heq⟩
      | no => simp at hhead
  | no =>
      cases h' with
      | text _ => simp at hhead
      | number hx => exact absurd (head?_of_isNumeral hx rest' 'f' hhead.symm) (by decide)
      | yes => simp at hhead
      | no => exact ⟨rfl, List.append_cancel_left heq⟩

theorem eq_of_isMember {source source' rest rest' : List Char} {member member' : String × Value}
    (h : IsMember source member) (h' : IsMember source' member') (hrest : Stops rest)
    (hrest' : Stops rest') (heq : source ++ rest = source' ++ rest') :
    member = member' ∧ rest = rest' := by
  obtain @⟨name, key, before, behind, source, value, hname, hbefore, hbehind, hvalue⟩ := h
  obtain @⟨name', key', before', behind', source', value', hname', hbefore', hbehind', hvalue'⟩ :=
    h'
  simp only [List.cons_append, List.append_assoc, List.cons.injEq, true_and] at heq
  obtain ⟨rfl, hcolon⟩ := eq_of_isText hname hname' heq
  have hskip := congrArg skip hcolon
  rw [skip_append_cons hbefore (by decide), skip_append_cons hbefore' (by decide),
    List.cons.injEq] at hskip
  have hskip' := congrArg skip hskip.2
  rw [skip_append hbehind (isSpace_of_head?_isValue hvalue rest),
    skip_append hbehind' (isSpace_of_head?_isValue hvalue' rest')] at hskip'
  obtain ⟨rfl, hrests⟩ := eq_of_isValue hvalue hvalue' hrest hrest' hskip'
  exact ⟨rfl, hrests⟩

/-- Behind a member there is one way to go on. -/
theorem eq_of_isMember_mark {source source' before before' tail tail' : List Char} {c c' : Char}
    {member member' : String × Value} (h : IsMember source member) (h' : IsMember source' member')
    (hbefore : IsSpace before) (hbefore' : IsSpace before') (hc : c = ',' ∨ c = '}')
    (hc' : c' = ',' ∨ c' = '}')
    (heq : source ++ (before ++ c :: tail) = source' ++ (before' ++ c' :: tail')) :
    member = member' ∧ c = c' ∧ tail = tail' := by
  have hmark : ∀ {d : Char}, d = ',' ∨ d = '}' → isSpace d = false := by
    rintro d (rfl | rfl)
    · decide
    · decide
  obtain ⟨rfl, hrests⟩ := eq_of_isMember h h' (stops_space_append hbefore tail hc)
    (stops_space_append hbefore' tail' hc') heq
  have hskip := congrArg skip hrests
  rw [skip_append_cons hbefore (hmark hc), skip_append_cons hbefore' (hmark hc'),
    List.cons.injEq] at hskip
  exact ⟨rfl, hskip⟩

theorem eq_of_areMembers {source source' rest rest' : List Char}
    {members members' : List (String × Value)} (h : AreMembers source members)
    (h' : AreMembers source' members') (heq : source ++ rest = source' ++ rest') :
    members = members' ∧ rest = rest' := by
  induction h generalizing source' members' with
  | last h hbefore =>
      cases h' with
      | last h' hbefore' =>
          simp only [List.append_assoc, List.singleton_append] at heq
          obtain ⟨rfl, -, hrests⟩ :=
            eq_of_isMember_mark h h' hbefore hbefore' (.inr rfl) (.inr rfl) heq
          exact ⟨rfl, hrests⟩
      | more h' hbefore' _ _ =>
          simp only [List.append_assoc, List.cons_append] at heq
          obtain ⟨-, hmark, -⟩ :=
            eq_of_isMember_mark h h' hbefore hbefore' (.inr rfl) (.inl rfl) heq
          exact absurd hmark (by decide)
  | more h hbefore hbehind hmembers ih =>
      cases h' with
      | last h' hbefore' =>
          simp only [List.append_assoc, List.cons_append] at heq
          obtain ⟨-, hmark, -⟩ :=
            eq_of_isMember_mark h h' hbefore hbefore' (.inl rfl) (.inr rfl) heq
          exact absurd hmark (by decide)
      | more h' hbefore' hbehind' hmembers' =>
          simp only [List.append_assoc, List.cons_append] at heq
          obtain ⟨rfl, -, htails⟩ :=
            eq_of_isMember_mark h h' hbefore hbefore' (.inl rfl) (.inl rfl) heq
          have hskip := congrArg skip htails
          rw [skip_append hbehind (isSpace_of_head?_areMembers hmembers rest),
            skip_append hbehind' (isSpace_of_head?_areMembers hmembers' rest')] at hskip
          obtain ⟨rfl, hrests⟩ := ih hmembers' hskip
          exact ⟨rfl, hrests⟩

theorem eq_of_isObject {source source' rest rest' : List Char}
    {members members' : List (String × Value)} (h : IsObject source members)
    (h' : IsObject source' members') (heq : source ++ rest = source' ++ rest') :
    members = members' := by
  have hbrace : isSpace '}' = false := by decide
  cases h with
  | empty hinner =>
      cases h' with
      | empty _ => rfl
      | members hinner' hmembers' =>
          simp only [List.cons_append, List.append_assoc, List.cons.injEq, true_and] at heq
          have hskip := congrArg skip heq
          rw [skip_append_cons hinner hbrace,
            skip_append hinner' (isSpace_of_head?_areMembers hmembers' rest')] at hskip
          have hhead := head?_of_areMembers hmembers' rest'
          rw [← hskip] at hhead
          simp at hhead
  | members hinner hmembers =>
      cases h' with
      | empty hinner' =>
          simp only [List.cons_append, List.append_assoc, List.cons.injEq, true_and] at heq
          have hskip := congrArg skip heq
          rw [skip_append_cons hinner' hbrace,
            skip_append hinner (isSpace_of_head?_areMembers hmembers rest)] at hskip
          have hhead := head?_of_areMembers hmembers rest
          rw [hskip] at hhead
          simp at hhead
      | members hinner' hmembers' =>
          simp only [List.cons_append, List.append_assoc, List.cons.injEq, true_and] at heq
          have hskip := congrArg skip heq
          rw [skip_append hinner (isSpace_of_head?_areMembers hmembers rest),
            skip_append hinner' (isSpace_of_head?_areMembers hmembers' rest')] at hskip
          exact (eq_of_areMembers hmembers hmembers' hskip).1

/-- A file has one list of members. -/
theorem eq_of_isFile {cs : List Char} {members members' : List (String × Value)}
    (h : IsFile cs members) (h' : IsFile cs members') : members = members' := by
  obtain @⟨front, source, back, _, hfront, hobject, hback⟩ := h
  generalize hcs : front ++ (source ++ back) = cs at h'
  obtain @⟨front', source', back', _, hfront', hobject', hback'⟩ := h'
  have hskip := congrArg skip hcs
  rw [skip_append hfront (isSpace_of_head?_isObject hobject back),
    skip_append hfront' (isSpace_of_head?_isObject hobject' back')] at hskip
  exact eq_of_isObject hobject hobject' hskip

end MailMerge.Scalars
