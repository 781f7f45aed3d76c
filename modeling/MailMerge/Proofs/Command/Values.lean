import MailMerge.Command.Values
import MailMerge.Proofs.Command.Scalars

/-!
# `MailMerge.Proofs.Command.Values`: what the members of a file are found as

Texts are found decoded and flags by their names. A number is found as it is written where it is an
integer of 64 bits. Any other is found as the text of a double-precision number, which is the text in
the file only if no digit of it says nothing: a zero at the end of a fraction, an exponent in upper
case or without a sign, or an integer with too many digits is not kept.

* `Dictionary.get?_ofList`: of several values under a name the last is found.
* `parse?_exactly`: the files that are read, and what each name finds.
* `get?_load`: parameters win over the file.
-/

set_option autoImplicit false

namespace MailMerge

/-! ### The last value under a name -/

section LastOf

variable {α β : Type}

/-- The last value under a name. -/
def lastOf (name : String) (pairs : List (String × α)) : Option α :=
  (pairs.reverse.find? (·.1 = name)).map (·.2)

theorem lastOf_cons (name : String) (pair : String × α) (pairs : List (String × α)) :
    lastOf name (pair :: pairs)
      = (lastOf name pairs).or (if pair.1 = name then some pair.2 else none) := by
  unfold lastOf
  rw [List.reverse_cons, List.find?_append, Option.map_or]
  split
  · rename_i h
    simp [h]
  · rename_i h
    simp [h]

theorem mem_of_lastOf {name : String} {pairs : List (String × α)} {value : α}
    (h : lastOf name pairs = some value) : (name, value) ∈ pairs := by
  obtain ⟨pair, hfind, rfl⟩ := Option.map_eq_some_iff.1 h
  have hname : pair.1 = name := by simpa using List.find?_some hfind
  rw [← hname]
  exact List.mem_reverse.1 (List.mem_of_find?_eq_some hfind)

theorem lastOf_append (name : String) (pairs others : List (String × α)) :
    lastOf name (pairs ++ others) = (lastOf name others).or (lastOf name pairs) := by
  unfold lastOf
  rw [List.reverse_append, List.find?_append, Option.map_or]

/-- Lists that match pair by pair have matching last values. -/
theorem rel_lastOf {r : α → β → Prop} {pairs : List (String × α)} {others : List (String × β)}
    (h : List.Forall₂ (fun pair other => other.1 = pair.1 ∧ r pair.2 other.2) pairs others)
    (name : String) : Option.Rel r (lastOf name pairs) (lastOf name others) := by
  induction h with
  | nil => exact .none
  | @cons pair other pairs others hpair _ ih =>
      rw [lastOf_cons, lastOf_cons]
      generalize lastOf name pairs = last, lastOf name others = last' at ih
      cases ih with
      | some hlast => exact .some hlast
      | none =>
          rw [Option.none_or, Option.none_or, hpair.1]
          split
          · exact .some hpair.2
          · exact .none

theorem Dictionary.get?_insertMany (d : Dictionary α) (pairs : List (String × α)) (name : String) :
    (d.insertMany pairs).get? name = (lastOf name pairs).or (d.get? name) := by
  induction pairs generalizing d with
  | nil => rfl
  | cons pair pairs ih =>
      show ((d.insert pair.1 pair.2).insertMany pairs).get? name = _
      rw [ih, get?_insert, lastOf_cons, Option.or_assoc]
      congr 1
      by_cases h : name = pair.1
      · simp [h]
      · simp [h, Ne.symm h]

/-- Of several values under a name the last is found. -/
theorem Dictionary.get?_ofList (pairs : List (String × α)) (name : String) :
    (Dictionary.ofList pairs).get? name = lastOf name pairs := by
  unfold Dictionary.ofList
  rw [get?_insertMany]
  exact Option.or_none

end LastOf

namespace Scalars

open MailMerge.Number

/-! ### Members -/

/-- What a value is found as. -/
inductive Value.FoundAs : Value → String → Prop where
  | text (decoded : String) : FoundAs (.text decoded) decoded
  | flag (value : Bool) : FoundAs (.flag value) (toString value)
  | word {source : String} {parts : Numeral} (h : parts.IsWord) :
      FoundAs (.number source parts) source
  | printed {source : String} {parts : Numeral} {number : Binary64} (h : ¬parts.IsWord)
      (hnumber : parts.toBinary64? = some number)
      (hkept : numberLayout.text number = source → IsPrinted source.toList) :
      FoundAs (.number source parts) (numberLayout.text number)

theorem foundAs_of_text? {source : List Char} {value : Value} {text : String}
    (h : IsValue source value) (htext : value.text? = some text) : value.FoundAs text := by
  cases h with
  | text _ =>
      cases htext
      exact .text _
  | yes =>
      cases htext
      exact .flag true
  | no =>
      cases htext
      exact .flag false
  | @number _ parts h =>
      by_cases hword : parts.IsWord
      · rw [Value.text?, text?_of_isWord h hword] at htext
        cases htext
        exact .word hword
      · rw [Value.text?, text?_of_not_isWord hword] at htext
        obtain ⟨number, hnumber, rfl⟩ := Option.map_eq_some_iff.1 htext
        exact .printed hword hnumber fun heq => by
          rw [String.toList_ofList]
          exact isPrinted_of_text_eq h hnumber heq

theorem exists_isValue_of_areMembers {source : List Char} {members : List (String × Value)}
    (h : AreMembers source members) : ∀ member ∈ members, ∃ source, IsValue source member.2 := by
  induction h with
  | last h _ =>
      obtain ⟨-, -, -, hvalue⟩ := h
      simpa using ⟨_, hvalue⟩
  | more h _ _ _ ih =>
      obtain ⟨-, -, -, hvalue⟩ := h
      exact List.forall_mem_cons.2 ⟨⟨_, hvalue⟩, ih⟩

theorem exists_isValue_of_isFile {cs : List Char} {members : List (String × Value)}
    (h : IsFile cs members) : ∀ member ∈ members, ∃ source, IsValue source member.2 := by
  obtain ⟨-, hobject, -⟩ := h
  cases hobject with
  | empty _ => nofun
  | members _ hmembers => exact exists_isValue_of_areMembers hmembers

/-- Members that all stand for a text. -/
theorem exists_becomes {members : List (String × Value)}
    (h : ∀ member ∈ members, member.2.text? ≠ none) :
    ∃ pairs, List.Forall₂ Becomes members pairs := by
  induction members with
  | nil => exact ⟨[], .nil⟩
  | cons member members ih =>
      rw [List.forall_mem_cons] at h
      obtain ⟨text, htext⟩ := Option.ne_none_iff_exists'.1 h.1
      obtain ⟨pairs, hpairs⟩ := ih h.2
      exact ⟨(member.1, text) :: pairs, .cons ⟨rfl, htext⟩ hpairs⟩

theorem ne_none_of_becomes {members : List (String × Value)} {pairs : List (String × String)}
    (h : List.Forall₂ Becomes members pairs) : ∀ member ∈ members, member.2.text? ≠ none := by
  induction h with
  | nil => nofun
  | cons hpair _ ih =>
      exact List.forall_mem_cons.2 ⟨Option.ne_none_iff_exists'.2 ⟨_, hpair.2⟩, ih⟩

/-- Only a number that is out of range stands for no text. -/
theorem exists_number_of_text?_eq_none {value : Value} (h : value.text? = none) :
    ∃ source parts, value = .number source parts ∧ ¬parts.IsWord ∧ parts.toBinary64? = none := by
  cases value with
  | text decoded => cases h
  | flag value => cases h
  | number source parts =>
      refine ⟨source, parts, rfl, ?_⟩
      rw [Value.text?, text?_eq] at h
      split at h
      · cases h
      · rename_i hword
        exact ⟨hword, Option.map_eq_none_iff.1 h⟩

/-- No number of the members is out of range. -/
def InRange (members : List (String × Value)) : Prop :=
  ∀ name source parts, (name, Value.number source parts) ∈ members →
    parts.IsWord ∨ parts.toBinary64? ≠ none

theorem inRange_iff {members : List (String × Value)} :
    InRange members ↔ ∀ member ∈ members, member.2.text? ≠ none := by
  constructor
  · rintro h ⟨name, value⟩ hmem htext
    obtain ⟨source, parts, rfl, hword, hnone⟩ := exists_number_of_text?_eq_none htext
    rcases h name source parts hmem with hin | hin
    · exact hword hin
    · exact hin hnone
  · intro h name source parts hmem
    have htext := h _ hmem
    rw [Value.text?, text?_eq] at htext
    split at htext
    · exact .inl ‹_›
    · exact .inr fun hnone => htext (by rw [hnone]; rfl)

/-! ### Files -/

/-- The files that are read, and what each name finds. A file that is not read is no object of
scalars or has a number that is out of range. -/
theorem parse?_exactly (text : String) :
    match parse? text with
    | none => ∀ members, IsFile text.toList members → ¬InRange members
    | some pairs => ∃ members, (∀ others, IsFile text.toList others ↔ others = members)
        ∧ InRange members
        ∧ ∀ name, Option.Rel Value.FoundAs (lastOf name members)
            ((Dictionary.ofList pairs).get? name) := by
  split
  · rename_i hnone
    intro members hfile hrange
    obtain ⟨pairs, hpairs⟩ := exists_becomes (inRange_iff.1 hrange)
    rw [parse?_eq_some_iff.2 ⟨members, hfile, hpairs⟩] at hnone
    cases hnone
  · rename_i pairs hsome
    obtain ⟨members, hfile, hpairs⟩ := parse?_eq_some_iff.1 hsome
    refine ⟨members, fun others => ⟨fun h => eq_of_isFile h hfile, fun h => h ▸ hfile⟩,
      inRange_iff.2 (ne_none_of_becomes hpairs), fun name => ?_⟩
    have hlast : Option.Rel (fun value text => value.text? = some text) (lastOf name members)
        (lastOf name pairs) := rel_lastOf hpairs name
    rw [Dictionary.get?_ofList]
    cases hvalue : lastOf name members with
    | none =>
        rw [hvalue] at hlast
        generalize lastOf name pairs = found at hlast
        cases hlast
        exact .none
    | some value =>
        obtain ⟨source, hsource⟩ := exists_isValue_of_isFile hfile _ (mem_of_lastOf hvalue)
        rw [hvalue] at hlast
        generalize lastOf name pairs = found at hlast
        cases hlast with
        | some htext => exact .some (foundAs_of_text? hsource htext)

/-- The text of a value as the file has it, decoded if it is a text. -/
def Value.asWritten : Value → String
  | .text decoded => decoded
  | .number source _ => source
  | .flag value => toString value

/-- Not every number is found as it is written: the price `1.50` is found as `1.5`. -/
theorem not_forall_asWritten :
    ¬∀ (text : String) (pairs : List (String × String)) (members : List (String × Value)),
      parse? text = some pairs → IsFile text.toList members →
        ∀ name, (Dictionary.ofList pairs).get? name = (lastOf name members).map Value.asWritten := by
  intro h
  have hwhole : IsWhole ['1'] := ⟨⟨by decide, List.all_eq_true.1 rfl⟩, by decide⟩
  have hpoint : IsFraction ['.', '5', '0'] ['5', '0'] :=
    .some ⟨by decide, List.all_eq_true.1 rfl⟩
  have hnumeral : IsNumeral ['1', '.', '5', '0'] ⟨false, ['1'], ['5', '0'], none⟩ :=
    @IsNumeral.mk false _ _ _ _ _ hwhole hpoint .none
  have hname : IsText ['a', '"'] ['a'] := .plain (by decide) (by decide) (by decide) .close
  have hvalue : IsValue ['1', '.', '5', '0'] (.number "1.50" ⟨false, ['1'], ['5', '0'], none⟩) :=
    .number hnumeral
  have hspace : IsSpace [' '] := List.forall_mem_singleton.2 rfl
  have hmembers : AreMembers ['"', 'a', '"', ':', ' ', '1', '.', '5', '0', '}']
      [("a", .number "1.50" ⟨false, ['1'], ['5', '0'], none⟩)] :=
    @AreMembers.last _ [] _ (@IsMember.mk _ _ [] _ _ _ hname nofun hspace hvalue) nofun
  have hfile : IsFile "\x7b\"a\": 1.50\x7d".toList
      [("a", .number "1.50" ⟨false, ['1'], ['5', '0'], none⟩)] :=
    @IsFile.mk [] _ [] _ nofun (@IsObject.members [] _ _ nofun hmembers) nofun
  have hparse : parse? "\x7b\"a\": 1.50\x7d" = some [("a", "1.5")] := by decide +kernel
  have hfound := h _ _ _ hparse hfile "a"
  exact absurd hfound (by decide +kernel)

end Scalars

namespace ValueSources

variable {β : Type}

/-- Parameters win over the file. -/
theorem get?_load {format : ArchiveFormat β} {files : Files β} {sources : ValueSources}
    {path text : String} {pairs : List (String × String)} (hpath : sources.file = some path)
    (htext : (files.content? path).bind format.text? = some text)
    (hpairs : Scalars.parse? text = some pairs) :
    ∃ store, load format files sources = .ok store
      ∧ ∀ name, store.get? name
          = (lastOf name sources.params).or ((Dictionary.ofList pairs).get? name) := by
  refine ⟨.ofList (pairs ++ sources.params), ?_, fun name => ?_⟩
  · simp only [load, hpath, fileValues, htext, hpairs]
    rfl
  · rw [Dictionary.get?_ofList, Dictionary.get?_ofList, lastOf_append]

end ValueSources

end MailMerge
