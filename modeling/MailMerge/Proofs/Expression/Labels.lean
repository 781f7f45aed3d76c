import MailMerge.Expression.Builtin
import MailMerge.Expression.Diagnostic
import MailMerge.Proofs.Expression.Canonical
import MailMerge.Proofs.Text.Occurrence

/-!
# `MailMerge.Proofs.Expression.Labels`: what a diagnostic labels

Reading fails in one segment of a text: what stands before it can be read (`FailsAt`). The error is
about a part of that segment, which is the segment itself, a literal in it or the name at its start
(`ParseError.Describes`). A diagnostic does not know the segment. It looks for the part in the whole
text, from the right, or for a name from the first `(` on.

* `parse_eq_error_iff`: a text that cannot be read fails in a segment.
* `ParseError.Describes.place`: where in its segment the part stands.
* `Diagnostic.label_exactly`: the label covers the characters that the error is about, and covers
  them in the segment exactly when the search does not come to another place of them first.
* `Diagnostic.not_forall_labels`: it can come to another place first.
-/

set_option autoImplicit false

namespace MailMerge

open MailMerge.Text

namespace Expression

/-! ### Where reading fails -/

/-- Reading a text fails in a segment, which has `front` before it and `behind` after it: what
stands before the segment can be read, and the segment cannot be applied to it. The first segment
cannot be read by itself. -/
inductive FailsAt (functions : Functions) (e : ParseError) :
    List Char → List Char → List Char → Prop where
  | first {segment behind : List Char} (hplain : '(' ∉ segment)
      (hbehind : ∀ c ∈ behind.head?, c = '(')
      (h : readPrimary (trimChars segment) = .error e) : FailsAt functions e [] segment behind
  | later {before segment behind : List Char} {inner : Expression} (hplain : '(' ∉ segment)
      (hbehind : ∀ c ∈ behind.head?, c = '(')
      (hbefore : parse functions (.ofList before) = .ok inner)
      (h : applySegment functions inner (trimChars segment) = .error e) :
      FailsAt functions e (before ++ ['(']) segment behind

section Failing

variable {functions : Functions} {e : ParseError}

/-- A fault stays when segments follow. -/
theorem parse_append_of_error {cs behind : List Char} (hbehind : ∀ c ∈ behind.head?, c = '(')
    (h : parse functions (.ofList cs) = .error e) :
    parse functions (.ofList (cs ++ behind)) = .error e := by
  cases behind with
  | nil => rwa [List.append_nil]
  | cons c behind =>
      obtain rfl : c = '(' := hbehind c rfl
      rw [parse_append_mark, h]
      rfl

theorem FailsAt.parse_eq {front segment behind : List Char}
    (h : FailsAt functions e front segment behind) :
    parse functions (.ofList (front ++ segment ++ behind)) = .error e := by
  cases h with
  | first hplain hbehind h =>
      refine parse_append_of_error hbehind ?_
      rw [List.nil_append, parse_of_not_mem functions hplain, h]
  | @later before _ _ inner hplain hbehind hbefore h =>
      refine parse_append_of_error hbehind ?_
      rw [List.append_assoc, List.singleton_append, parse_append_segment functions hplain, hbefore]
      exact h

theorem FailsAt.plain {front segment behind : List Char}
    (h : FailsAt functions e front segment behind) : '(' ∉ segment := by
  cases h <;> assumption

theorem exists_failsAt {cs : List Char} (h : parse functions (.ofList cs) = .error e) :
    ∃ front segment behind, cs = front ++ segment ++ behind
      ∧ FailsAt functions e front segment behind := by
  induction hlength : cs.length using Nat.strong_induction_on generalizing cs with
  | _ length ih =>
    subst hlength
    by_cases hmark : '(' ∈ cs
    · obtain ⟨before, last, rfl, hplain⟩ := exists_append_last_mark hmark
      cases hbefore : parse functions (.ofList before) with
      | ok inner =>
          rw [parse_append_segment functions hplain, hbefore] at h
          refine ⟨before ++ ['('], last, [], by simp, .later hplain (by simp) hbefore h⟩
      | error e' =>
          -- The fault is in what stands before the last segment.
          rw [parse_append_mark, hbefore] at h
          cases h
          obtain ⟨front, segment, behind, rfl, hfails⟩ := ih before.length (by simp) hbefore rfl
          refine ⟨front, segment, behind ++ '(' :: last, by simp, ?_⟩
          have hhead (hbehind : ∀ c ∈ behind.head?, c = '(') :
              ∀ c ∈ (behind ++ '(' :: last).head?, c = '(' := by
            cases behind with
            | nil => simp
            | cons c behind => simpa using hbehind
          cases hfails with
          | first hplain' hbehind h => exact .first hplain' (hhead hbehind) h
          | later hplain' hbehind hbefore' h => exact .later hplain' (hhead hbehind) hbefore' h
    · rw [parse_of_not_mem functions hmark] at h
      exact ⟨[], cs, [], by simp, .first hmark (by simp) h⟩

/-- A text that cannot be read fails in a segment. -/
theorem parse_eq_error_iff {text : String} :
    parse functions text = .error e ↔ ∃ front segment behind,
      text.toList = front ++ segment ++ behind ∧ FailsAt functions e front segment behind := by
  constructor
  · intro h
    exact exists_failsAt (by rwa [String.ofList_toList])
  · intro ⟨front, segment, behind, htext, h⟩
    rw [← String.ofList_toList (s := text), htext]
    exact h.parse_eq

end Failing

end Expression

/-! ### What an error is about -/

namespace ParseError

open MailMerge.Expression

/-- The characters that an error is about. -/
def subject : ParseError → List Char
  | empty => []
  | unterminatedLiteral part => part.toList
  | unclosedCall part => part.toList
  | missingFunctionName part => part.toList
  | unknownFunction part => part.toList
  | argumentCount part _ _ => part.toList

/-- Whether an error is about the name of a function. -/
def isOfFunction : ParseError → Bool
  | unknownFunction _ => true
  | argumentCount _ _ _ => true
  | _ => false

/-- What stands in a segment before the part that an error is about. A literal begins at the
segment's first quote, all else at the first character that is not white space. -/
def lead (segment : List Char) : ParseError → List Char
  | unterminatedLiteral _ => segment.takeWhile (· != '"')
  | _ => segment.takeWhile isBlank

/-- An error is about a part of a segment: the trimmed segment, a literal without an end that the
segment or its second argument is, or the name that the segment begins with. -/
inductive Describes (segment : List Char) : ParseError → Prop where
  | empty (h : trimChars segment = []) : Describes segment .empty
  | literal {body : List Char} (h : trimChars segment = '"' :: body) (hbody : '"' ∉ body) :
      Describes segment (.unterminatedLiteral (.ofList ('"' :: body)))
  | second {name body : List Char}
      (h : readApplication? (trimChars segment).dropLast = some (name, '"' :: body))
      (hbody : '"' ∉ body) : Describes segment (.unterminatedLiteral (.ofList ('"' :: body)))
  | unclosedCall : Describes segment (.unclosedCall (.ofList (trimChars segment)))
  | missingFunctionName : Describes segment (.missingFunctionName (.ofList (trimChars segment)))
  | unknownFunction {name second : List Char}
      (h : readApplication? (trimChars segment).dropLast = some (name, second)) :
      Describes segment (.unknownFunction (.ofList name))
  | argumentCount {name second : List Char}
      (h : readApplication? (trimChars segment).dropLast = some (name, second))
      (expected got : Nat) : Describes segment (.argumentCount (.ofList name) expected got)

/-- What cannot be read as a primary is empty or a literal without an end. -/
theorem eq_of_readPrimary {cs : List Char} {e : ParseError} (h : readPrimary cs = .error e) :
    (cs = [] ∧ e = .empty)
      ∨ ∃ body, cs = '"' :: body ∧ '"' ∉ body
        ∧ e = .unterminatedLiteral (.ofList ('"' :: body)) := by
  unfold readPrimary at h
  split at h
  · cases h
    exact .inl ⟨rfl, rfl⟩
  · rename_i body
    split at h
    · cases h
    · rename_i hcut
      cases h
      exact .inr ⟨body, rfl, cutLast?_eq_none_iff.1 hcut, rfl⟩
  · cases h

/-- The error with which reading fails in a segment is about a part of the segment. -/
theorem describes_of_failsAt {functions : Functions} {e : ParseError}
    {front segment behind : List Char} (h : FailsAt functions e front segment behind) :
    e.Describes segment := by
  cases h with
  | first _ _ h =>
      rcases eq_of_readPrimary h with ⟨htrim, rfl⟩ | ⟨body, htrim, hbody, rfl⟩
      · exact .empty htrim
      · exact .literal htrim hbody
  | later _ _ _ h =>
      unfold applySegment at h
      split at h
      · cases h
        exact .unclosedCall
      split at h
      · cases h
        exact .missingFunctionName
      rename_i name second happlication
      split at h
      · rename_i fault hsecond
        cases h
        -- A second argument that is there is not empty, so it is a literal without an end.
        unfold readSecond at hsecond
        split at hsecond
        · cases hsecond
        · rename_i hne
          cases hprimary : readPrimary second with
          | ok e' =>
              rw [hprimary] at hsecond
              cases hsecond
          | error e' =>
              rw [hprimary] at hsecond
              cases hsecond
              rcases eq_of_readPrimary hprimary with ⟨rfl, -⟩ | ⟨body, rfl, hbody, rfl⟩
              · exact absurd rfl hne
              · exact .second happlication hbody
      · unfold checkedCall at h
        split at h
        · cases h
          exact .unknownFunction happlication
        · split at h
          · cases h
          · cases h
            exact .argumentCount happlication _ _

/-- An error about the name of a function is met behind a `(`. -/
theorem mark_mem_of_failsAt {functions : Functions} {e : ParseError}
    {front segment behind : List Char} (h : FailsAt functions e front segment behind)
    (hfunction : e.isOfFunction) : '(' ∈ front := by
  cases h with
  | first _ _ h =>
      rcases eq_of_readPrimary h with ⟨-, rfl⟩ | ⟨body, -, -, rfl⟩
      · cases hfunction
      · cases hfunction
  | later => simp

/-- The name and the second argument stand one behind the other in the inside of an application. -/
theorem exists_parts_of_readApplication? {body name second : List Char}
    (hblank : ∀ c ∈ body.head?, isBlank c = false)
    (h : readApplication? body = some (name, second)) :
    name <+: body ∧ ∃ front, front ++ second <+: body ∧ ∀ c ∈ front, startsArgument c = false := by
  simp only [readApplication?, dropWhile_isPadding_eq_self hblank] at h
  split at h
  · cases h
  simp only [Option.some.injEq, Prod.mk.injEq] at h
  obtain ⟨rfl, rfl⟩ := h
  have hsplit := List.takeWhile_append_dropWhile (p := (!startsArgument ·)) (l := body)
  refine ⟨?_, body.takeWhile (!startsArgument ·), ?_, fun c hc => ?_⟩
  · have hfront : ∀ c ∈ (body.takeWhile (!startsArgument ·)).head?, isBlank c = false := by
      intro c hc
      refine hblank c ?_
      rw [← hsplit, List.head?_append, Option.mem_def.1 hc]
      rfl
    exact (trimChars_isPrefix hfront).trans (List.takeWhile_prefix _)
  · have hsecond : ∀ c ∈ (body.dropWhile (!startsArgument ·)).head?, isBlank c = false := by
      intro c hc
      have hstart := not_of_head?_dropWhile (!startsArgument ·) body c hc
      exact not_isBlank_of_startsArgument (by simpa using hstart)
    obtain ⟨rest, hrest⟩ := trimChars_isPrefix hsecond
    refine ⟨rest, ?_⟩
    rw [List.append_assoc, hrest, hsplit]
  · simpa using List.mem_takeWhile_imp hc

/-- An error about the name of a function has a name. -/
theorem Describes.subject_ne_nil {segment : List Char} {e : ParseError} (h : e.Describes segment)
    (hfunction : e.isOfFunction) : e.subject ≠ [] := by
  have hinside := not_isBlank_head?_inside segment
  cases h with
  | unknownFunction h =>
      simpa [subject] using (inside_of_readApplication? hinside h).name_ne_nil
  | argumentCount h expected got =>
      simpa [subject] using (inside_of_readApplication? hinside h).name_ne_nil
  | _ => cases hfunction

/-- What begins the trimmed segment stands in the segment behind its white space. -/
theorem lead_append_isPrefix {segment part : List Char} (h : part <+: trimChars segment) :
    segment.takeWhile isBlank ++ part <+: segment :=
  ((List.prefix_append_right_inj _).2 h).trans (takeWhile_append_trimChars_isPrefix segment)

/-- A literal behind characters other than quotes begins at the segment's first quote. -/
theorem lead_unterminatedLiteral {segment front body : List Char} {literal : String}
    (hfront : '"' ∉ front) (h : front ++ '"' :: body <+: segment) :
    (unterminatedLiteral literal).lead segment = front := by
  obtain ⟨rest, rfl⟩ := h
  have hplain : ∀ c ∈ front, (c != '"') = true := by
    intro c hc
    simp only [bne_iff_ne, ne_eq]
    rintro rfl
    exact hfront hc
  simp [lead, List.takeWhile_append_of_pos hplain]

/-- The part that an error is about stands where `lead` says. -/
theorem Describes.place {segment : List Char} {e : ParseError} (h : e.Describes segment) :
    e.lead segment ++ e.subject <+: segment := by
  have hquote : '"' ∉ segment.takeWhile isBlank := fun hmem =>
    absurd (List.mem_takeWhile_imp hmem) (by decide)
  have hinside := not_isBlank_head?_inside segment
  have htrim : (trimChars segment).dropLast <+: trimChars segment := List.dropLast_prefix _
  cases h with
  | empty htrim => exact lead_append_isPrefix List.nil_prefix
  | @literal body htrim hbody =>
      have hplace : segment.takeWhile isBlank ++ '"' :: body <+: segment :=
        lead_append_isPrefix (by rw [htrim])
      rw [lead_unterminatedLiteral hquote hplace, subject, String.toList_ofList]
      exact hplace
  | @second name body happlication hbody =>
      obtain ⟨-, front, hfront, hplain⟩ := exists_parts_of_readApplication? hinside happlication
      have hplace := lead_append_isPrefix (hfront.trans htrim)
      rw [← List.append_assoc] at hplace
      -- There is no quote in the white space, and none in the name.
      have hnone : '"' ∉ segment.takeWhile isBlank ++ front := by
        rw [List.mem_append, not_or]
        exact ⟨hquote, fun hmem => absurd (hplain _ hmem) (by decide +kernel)⟩
      rw [lead_unterminatedLiteral hnone hplace, subject, String.toList_ofList]
      exact hplace
  | unclosedCall =>
      rw [subject, String.toList_ofList]
      exact lead_append_isPrefix (List.prefix_refl _)
  | missingFunctionName =>
      rw [subject, String.toList_ofList]
      exact lead_append_isPrefix (List.prefix_refl _)
  | unknownFunction happlication =>
      rw [subject, String.toList_ofList]
      exact lead_append_isPrefix
        ((exists_parts_of_readApplication? hinside happlication).1.trans htrim)
  | argumentCount happlication expected got =>
      rw [subject, String.toList_ofList]
      exact lead_append_isPrefix
        ((exists_parts_of_readApplication? hinside happlication).1.trans htrim)

end ParseError

/-! ### The label -/

namespace Diagnostic

open MailMerge.Expression

/-- A diagnostic labels a part of a text that stands behind `before`. -/
def Labels (d : Diagnostic) (before part : List Char) : Prop :=
  d.offset = byteSize before ∧ d.length = byteSize part

/-- A place of a text is the last one. -/
def IsLast (whole needle before : List Char) : Prop :=
  before ++ needle <+: whole ∧ ∀ other, other ++ needle <+: whole → other.length ≤ before.length

/-- A place of a text is the first one behind the first `(`. -/
def IsFirstCall (whole needle before : List Char) : Prop :=
  (before ++ needle <+: whole ∧ '(' ∈ before)
    ∧ ∀ other, other ++ needle <+: whole → '(' ∈ other → before.length ≤ other.length

/-- Where the search for what an error is about ends. -/
def Finds (whole : List Char) (e : ParseError) (before : List Char) : Prop :=
  if e.isOfFunction then IsFirstCall whole e.subject before else IsLast whole e.subject before

section Search

variable {whole needle before : List Char}

theorem exists_spanOfLast (hne : needle ≠ []) (h : before ++ needle <+: whole) :
    ∃ last, spanOfLast whole needle = (byteSize last, byteSize needle)
      ∧ IsLast whole needle last := by
  obtain ⟨last, hoffset, hlast⟩ := exists_lastOffset? h
  exact ⟨last, by simp [spanOfLast, hoffset, hne], hlast⟩

/-- A place behind the first `(` is a place in the text that begins with it. -/
theorem call_place_iff {front calls : List Char} (hfront : '(' ∉ front) (hne : needle ≠ [])
    (hplain : '(' ∉ needle) :
    (before ++ needle <+: front ++ '(' :: calls ∧ '(' ∈ before)
      ↔ ∃ inside, before = front ++ inside ∧ inside ++ needle <+: '(' :: calls := by
  constructor
  · intro ⟨⟨rest, hrest⟩, hmark⟩
    obtain ⟨pre, post, rfl⟩ := List.append_of_mem hmark
    have heq : front ++ '(' :: calls = pre ++ '(' :: (post ++ needle ++ rest) := by
      simpa using hrest.symm
    obtain ⟨between, rfl, hcalls⟩ := exists_append_of_not_mem hfront heq
    exact ⟨between ++ '(' :: post, by simp, rest, by simp [hcalls]⟩
  · rintro ⟨inside, rfl, hinside⟩
    refine ⟨by rwa [List.append_assoc, List.prefix_append_right_inj], ?_⟩
    -- The needle has no `(`, so it is not at the front.
    rcases append_prefix_cons_iff.1 hinside with ⟨rfl, hhead⟩ | ⟨inside', rfl, -⟩
    · cases needle with
      | nil => exact absurd rfl hne
      | cons c needle =>
          rw [List.cons_prefix_cons] at hhead
          simp [hhead.1] at hplain
    · simp

theorem exists_spanOfCall (hne : needle ≠ []) (hplain : '(' ∉ needle)
    (h : before ++ needle <+: whole) (hmark : '(' ∈ before) :
    ∃ first, spanOfCall whole needle = (byteSize first, byteSize needle)
      ∧ IsFirstCall whole needle first := by
  have hmem : '(' ∈ whole := h.subset (List.mem_append_left _ hmark)
  obtain ⟨front, calls, rfl, hfront⟩ := List.eq_append_cons_of_mem hmem
  have hstart : offset? ['('] (front ++ '(' :: calls) = some (byteSize front) := by
    refine offset?_eq_some_iff.2 ⟨front, rfl, ⟨calls, by simp⟩, ?_⟩
    intro other ⟨rest, hrest⟩
    obtain ⟨between, rfl, -⟩ := exists_append_of_not_mem hfront
      (show front ++ '(' :: calls = other ++ '(' :: rest by simpa using hrest.symm)
    simp
  obtain ⟨inside, rfl, hinside⟩ := (call_place_iff hfront hne hplain).1 ⟨h, hmark⟩
  obtain ⟨first, hoffset, hplace, hmin⟩ := exists_offset? hinside
  refine ⟨front ++ first, ?_, (call_place_iff hfront hne hplain).2 ⟨first, rfl, hplace⟩, ?_⟩
  · simp [spanOfCall, hstart, dropBytes_append, hoffset, hne]
  · intro other hother hmark'
    obtain ⟨inside', rfl, hinside'⟩ := (call_place_iff hfront hne hplain).1 ⟨hother, hmark'⟩
    simpa using hmin inside' hinside'

theorem IsLast.eq {other : List Char} (h : IsLast whole needle before)
    (h' : IsLast whole needle other) : before = other :=
  prefix_eq_of_length_eq ((List.prefix_append _ _).trans h.1) ((List.prefix_append _ _).trans h'.1)
    (Nat.le_antisymm (h'.2 _ h.1) (h.2 _ h'.1))

theorem IsFirstCall.eq {other : List Char} (h : IsFirstCall whole needle before)
    (h' : IsFirstCall whole needle other) : before = other :=
  prefix_eq_of_length_eq ((List.prefix_append _ _).trans h.1.1)
    ((List.prefix_append _ _).trans h'.1.1) (Nat.le_antisymm (h.2 _ h'.1.1 h'.1.2) (h'.2 _ h.1.1 h.1.2))

end Search

section Label

variable {whole : List Char} {functions : Functions} {e : ParseError}

/-- The search ends at one place only. -/
theorem Finds.eq {before other : List Char} (h : Finds whole e before)
    (h' : Finds whole e other) : before = other := by
  unfold Finds at h h'
  split at h
  · exact h.eq (by simpa [*] using h')
  · exact h.eq (by simpa [*] using h')

theorem Finds.place {before : List Char} (h : Finds whole e before) :
    before ++ e.subject <+: whole := by
  unfold Finds at h
  split at h
  · exact h.1.1
  · exact h.1

/-- The label of an error that is about nothing covers the whole text. -/
theorem span_of_subject_eq_nil (hfunction : e.isOfFunction = false) (h : e.subject = []) :
    span whole e = (0, byteSize whole) := by
  have hlast : spanOfLast whole [] = (0, byteSize whole) := by
    unfold spanOfLast
    cases lastOffset? [] whole <;> rfl
  cases e with
  | empty => rfl
  | unterminatedLiteral part => exact (congrArg _ h).trans hlast
  | unclosedCall part => exact (congrArg _ h).trans hlast
  | missingFunctionName part => exact (congrArg _ h).trans hlast
  | unknownFunction name => cases hfunction
  | argumentCount name expected got => cases hfunction

/-- The label of an error that is about a part of the text is where the search for it ends. -/
theorem exists_span_finds {before : List Char} (hplace : before ++ e.subject <+: whole)
    (hne : e.subject ≠ []) (hmark : e.isOfFunction → '(' ∈ before ∧ '(' ∉ e.subject) :
    ∃ found, span whole e = (byteSize found, byteSize e.subject) ∧ Finds whole e found := by
  cases e with
  | empty => exact absurd rfl hne
  | unterminatedLiteral part => exact exists_spanOfLast hne hplace
  | unclosedCall part => exact exists_spanOfLast hne hplace
  | missingFunctionName part => exact exists_spanOfLast hne hplace
  | unknownFunction name => exact exists_spanOfCall hne (hmark rfl).2 hplace (hmark rfl).1
  | argumentCount name expected got =>
      exact exists_spanOfCall hne (hmark rfl).2 hplace (hmark rfl).1

/-- A text that cannot be read fails in a segment, and the error is about a part of that segment.
The label covers the same characters as that part, in the place where the search for them ends: it
is the part's own place exactly when no other comes further right, or for the name of a function no
other between the first `(` and this one. An error about nothing labels the whole text. -/
theorem label_exactly (functions : Functions) (text : String) (e : ParseError) :
    (parse functions text = .error e ↔ ∃ front segment behind,
      text.toList = front ++ segment ++ behind ∧ FailsAt functions e front segment behind)
    ∧ ∀ front segment behind, text.toList = front ++ segment ++ behind →
      FailsAt functions e front segment behind →
      e.Describes segment
      ∧ front ++ e.lead segment ++ e.subject <+: text.toList
      ∧ (e.subject = [] → (ofParseError functions text e).Labels [] text.toList)
      ∧ (e.subject ≠ [] →
        (∃ found, found ++ e.subject <+: text.toList
          ∧ (ofParseError functions text e).Labels found e.subject)
        ∧ ((ofParseError functions text e).Labels (front ++ e.lead segment) e.subject
          ↔ Finds text.toList e (front ++ e.lead segment))) := by
  refine ⟨parse_eq_error_iff, fun front segment behind htext hfails => ?_⟩
  have hdescribes := ParseError.describes_of_failsAt hfails
  have hown : front ++ e.lead segment ++ e.subject <+: text.toList := by
    rw [htext, List.append_assoc, List.append_assoc, List.prefix_append_right_inj]
    exact hdescribes.place.trans (List.prefix_append _ _)
  refine ⟨hdescribes, hown, fun hnil => ?_, fun hne => ?_⟩
  · have hfunction : e.isOfFunction = false :=
      Bool.eq_false_iff.2 fun hfunction => hdescribes.subject_ne_nil hfunction hnil
    have hspan : span text.toList e = (0, byteSize text.toList) :=
      span_of_subject_eq_nil hfunction hnil
    exact ⟨congrArg Prod.fst hspan, congrArg Prod.snd hspan⟩
  · have hsubject : e.subject ⊆ segment := fun c hc =>
      hdescribes.place.subset (List.mem_append_right _ hc)
    obtain ⟨found, hspan, hfound⟩ := exists_span_finds hown hne fun hfunction =>
      ⟨List.mem_append_left _ (ParseError.mark_mem_of_failsAt hfails hfunction),
        fun hmark => hfails.plain (hsubject hmark)⟩
    have hlabels : (ofParseError functions text e).Labels found e.subject :=
      ⟨congrArg Prod.fst hspan, congrArg Prod.snd hspan⟩
    refine ⟨⟨found, hfound.place, hlabels⟩, fun hlabels' => ?_, fun hfinds => ?_⟩
    · -- A place is told by its offset.
      have hsame : front ++ e.lead segment = found :=
        eq_of_byteSize_eq ((List.prefix_append _ _).trans hown)
          ((List.prefix_append _ _).trans hfound.place) (hlabels'.1.symm.trans hlabels.1)
      rwa [hsame]
    · rwa [hfinds.eq hfound]

set_option maxRecDepth 8000 in
/-- In `up (up)` the name of the function stands before the first `(` too. It is labelled in its own
place. -/
theorem label_exactly_namesake :
    FailsAt builtinFunctions (.unknownFunction "up") "up (".toList "up)".toList []
    ∧ (ofParseError builtinFunctions "up (up)" (.unknownFunction "up")).Labels "up (".toList
        "up".toList := by
  have hbefore : parse builtinFunctions (.ofList "up ".toList) = .ok (.field "up") := by rfl
  have hfails : FailsAt builtinFunctions (.unknownFunction "up") "up (".toList "up)".toList [] :=
    show FailsAt _ _ ("up ".toList ++ ['(']) _ _ from
      .later (by decide) (by simp) hbefore (by rfl)
  refine ⟨hfails, ?_⟩
  obtain ⟨-, -, -, hlabel⟩ :=
    (label_exactly builtinFunctions "up (up)" (.unknownFunction "up")).2 _ _ _ (by decide) hfails
  refine (hlabel (by decide)).2.2 ?_
  refine ⟨⟨by decide +kernel, by decide +kernel⟩, fun other hother hmark => ?_⟩
  -- Behind the first `(` the name comes at once, so no other place is before it.
  obtain ⟨inside, rfl, hinside⟩ : ∃ inside, other = "up ".toList ++ inside
      ∧ inside ++ "up".toList <+: '(' :: "up)".toList :=
    (call_place_iff (by decide) (by decide) (by decide)).1 ⟨hother, hmark⟩
  cases inside with
  | nil => exact absurd hinside (by decide +kernel)
  | cons c inside =>
      have hlength : ("up (".toList ++ ParseError.lead "up)".toList (.unknownFunction "up")).length
          = 4 := by decide +kernel
      rw [hlength, List.length_append, List.length_cons]
      exact Nat.add_le_add_left (Nat.le_add_left 1 _) 3

set_option maxRecDepth 8000 in
/-- The name of an unknown function is not always labelled in its own place. In
`Name (upper) (up)` the label is on the first two letters of `upper`, which is a function. -/
theorem not_forall_labels :
    ¬ ∀ (functions : Functions) (text : String) (name : String) (front segment behind : List Char),
      text.toList = front ++ segment ++ behind →
      FailsAt functions (.unknownFunction name) front segment behind →
      (ofParseError functions text (.unknownFunction name)).Labels
        (front ++ ParseError.lead segment (.unknownFunction name)) name.toList := by
  intro h
  have hbefore : parse builtinFunctions (.ofList "Name (upper) ".toList)
      = .ok (.call "upper" [.field "Name"]) := by rfl
  have hfails : FailsAt builtinFunctions (.unknownFunction "up") "Name (upper) (".toList
      "up)".toList [] :=
    show FailsAt _ _ ("Name (upper) ".toList ++ ['(']) _ _ from
      .later (by decide) (by simp) hbefore (by rfl)
  have hlabels := h builtinFunctions "Name (upper) (up)" "up" _ _ _ (by decide) hfails
  exact absurd hlabels.1 (by decide +kernel)

end Label

end Diagnostic

end MailMerge
