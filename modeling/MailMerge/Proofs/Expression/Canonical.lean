import MailMerge.Expression.Builtin
import MailMerge.Expression.Parser
import MailMerge.Proofs.Text.Cut
import MailMerge.Proofs.Text.Trim

/-!
# `MailMerge.Proofs.Expression.Canonical`: the expressions that can be written

An expression that was read is a primary, a literal or a property, with calls around it, in each of
which only the first argument holds further calls. `Canonical` says which these are, and
`Expression.print` writes any of them down.

* `parse_append_mark`: a text and a `(` behind it are read one after the other. It carries both
  directions.
* `canonical_of_parse`: what is read is canonical.
* `parse_print_of_canonical`: a canonical expression is read back from how it is printed.
-/

set_option autoImplicit false

namespace MailMerge

open MailMerge.Text

namespace Expression

/-! ### Canonical expressions -/

/-- A literal or a property as it can stand between parentheses. -/
inductive IsPrimary : Expression → Prop where
  | literal {text : String} (hmark : '(' ∉ text.toList) : IsPrimary (.literal text)
  | field {name : String} (hne : name ≠ "") (htrim : trim name = name)
      (hmark : '(' ∉ name.toList) (hquote : name.toList.head? ≠ some '"') :
      IsPrimary (.field name)

/-- A property whose name begins with a capital, or anything else. -/
def BeginsUpper : Expression → Prop
  | .field name => name.toList.head?.any isUppercase = true
  | .literal _ | .call .. => True

/-- A name that a function can be called by. -/
structure IsFunctionName (name : String) : Prop where
  ne_empty : name ≠ ""
  trim_eq : trim name = name
  plain : ∀ c ∈ name.toList, c ≠ '(' ∧ c ≠ '"' ∧ isUppercase c = false

theorem isFunctionName_iff {name : String} :
    IsFunctionName name ↔ name ≠ "" ∧ trim name = name
      ∧ name.toList.all (fun c => c != '(' && c != '"' && !isUppercase c) = true := by
  constructor
  · intro ⟨hne, htrim, hplain⟩
    exact ⟨hne, htrim, by simpa [and_assoc] using hplain⟩
  · intro ⟨hne, htrim, hplain⟩
    exact ⟨hne, htrim, by simpa [and_assoc] using hplain⟩

instance (name : String) : Decidable (IsFunctionName name) :=
  decidable_of_iff' _ isFunctionName_iff

/-- A primary with calls around it. Each call is of a known function with the count of arguments
that it takes, and its arguments but the first are primaries. -/
inductive Canonical (functions : Functions) : Expression → Prop where
  | primary {e : Expression} (h : e.IsPrimary) : Canonical functions e
  | call {inner : Expression} {name : String} {others : List Expression} {function : Function}
      (hinner : Canonical functions inner) (hname : IsFunctionName name)
      (hget : functions.get? name = some function)
      (harity : function.arity = (inner :: others).length)
      (hothers : ∀ e ∈ others, e.IsPrimary ∧ e.BeginsUpper) :
      Canonical functions (.call name (inner :: others))

mutual

/-- How an expression is written: a literal in quotes, the first argument of a call before the call
and the others inside. -/
def chars : Expression → List Char
  | .literal text => '"' :: text.toList ++ ['"']
  | .field name => name.toList
  | .call name [] => '(' :: name.toList ++ [')']
  | .call name (inner :: others) =>
    inner.chars ++ ' ' :: '(' :: name.toList ++ argumentChars others ++ [')']

/-- How arguments inside a call are written. -/
def argumentChars : List Expression → List Char
  | [] => []
  | e :: es => ' ' :: e.chars ++ argumentChars es

end

/-- An expression as text. -/
def print (e : Expression) : String := .ofList e.chars

/-! ### Reading in two steps -/

theorem applySegments_append (functions : Functions) (inner : Expression)
    (segments others : List (List Char)) :
    applySegments functions inner (segments ++ others)
      = (applySegments functions inner segments).bind
          fun e => applySegments functions e others := by
  induction segments generalizing inner with
  | nil => rfl
  | cons segment segments ih =>
      simp only [List.cons_append, applySegments]
      cases applySegment functions inner (trimChars segment) with
      | error e => rfl
      | ok outer => exact ih outer

/-- What stands before a `(` is read by itself, and what follows is applied to it. -/
theorem parse_append_mark (functions : Functions) (before behind : List Char) :
    parse functions (.ofList (before ++ '(' :: behind))
      = (parse functions (.ofList before)).bind fun e => applySegments functions e
          ((segments '(' behind).1 :: (segments '(' behind).2) := by
  unfold parse
  simp only [String.toList_ofList, segments_append_mark]
  cases readPrimary (trimChars (segments '(' before).1) with
  | error e => rfl
  | ok inner => exact applySegments_append functions inner _ _

/-- A segment behind the last `(` is applied to all before it. -/
theorem parse_append_segment (functions : Functions) {before segment : List Char}
    (h : '(' ∉ segment) :
    parse functions (.ofList (before ++ '(' :: segment))
      = (parse functions (.ofList before)).bind fun e =>
          applySegment functions e (trimChars segment) := by
  rw [parse_append_mark, segments_of_not_mem h]
  congr 1
  funext e
  simp only [applySegments]
  cases applySegment functions e (trimChars segment) <;> rfl

theorem parse_of_not_mem (functions : Functions) {cs : List Char} (h : '(' ∉ cs) :
    parse functions (.ofList cs) = readPrimary (trimChars cs) := by
  unfold parse
  rw [String.toList_ofList, segments_of_not_mem h]
  dsimp only
  cases readPrimary (trimChars cs) <;> rfl

/-- White space behind a text makes no difference. -/
theorem parse_append_blank (functions : Functions) (cs : List Char) {pad : List Char}
    (hpad : ∀ c ∈ pad, isBlank c = true) :
    parse functions (.ofList (cs ++ pad)) = parse functions (.ofList cs) := by
  have hplain : '(' ∉ pad := fun hmem => absurd (hpad '(' hmem) (by decide)
  by_cases hmark : '(' ∈ cs
  · -- The white space belongs to the segment behind the last `(`.
    obtain ⟨before, segment, rfl, hsegment⟩ := exists_append_last_mark hmark
    have hbehind : '(' ∉ segment ++ pad := by
      rw [List.mem_append, not_or]
      exact ⟨hsegment, hplain⟩
    rw [List.append_assoc, List.cons_append, parse_append_segment functions hbehind,
      parse_append_segment functions hsegment, trimChars_append_of_blank hpad]
  · have hall : '(' ∉ cs ++ pad := by
      rw [List.mem_append, not_or]
      exact ⟨hmark, hplain⟩
    rw [parse_of_not_mem functions hall, parse_of_not_mem functions hmark,
      trimChars_append_of_blank hpad]

/-! ### What is read is canonical -/

/-- What is read from a trimmed text without `(` is a primary. It begins with a capital where the
text does and is no literal. -/
theorem isPrimary_of_readPrimary {cs : List Char} {e : Expression} (htrim : trimChars cs = cs)
    (hmark : '(' ∉ cs) (h : readPrimary cs = .ok e) :
    e.IsPrimary ∧ (cs.head?.any startsArgument = true → e.BeginsUpper) := by
  unfold readPrimary at h
  split at h
  · cases h
  · rename_i body
    split at h
    · rename_i text behind hcut
      cases h
      refine ⟨.literal ?_, fun _ => trivial⟩
      rw [← append_of_cutLast? hcut] at hmark
      simp_all
    · cases h
  · rename_i hne hquote
    cases h
    have hhead : cs.head? ≠ some '"' := by
      intro hhead
      obtain ⟨body, rfl⟩ := List.head?_eq_some_iff.1 hhead
      exact hquote body rfl
    refine ⟨.field ?_ ?_ ?_ ?_, fun hstart => ?_⟩
    · rw [Ne, String.ofList_eq_empty_iff]
      exact hne
    · unfold trim
      rw [String.toList_ofList, htrim]
    · rwa [String.toList_ofList]
    · rwa [String.toList_ofList]
    · -- What begins a second argument is a capital or a quote.
      show (String.ofList cs).toList.head?.any isUppercase = true
      rw [String.toList_ofList]
      rw [Option.any_eq_true] at hstart ⊢
      obtain ⟨c, hc, hstart⟩ := hstart
      refine ⟨c, hc, ?_⟩
      have hne : c ≠ '"' := by
        rintro rfl
        exact hhead hc
      simpa [startsArgument, hne] using hstart

theorem isBlank_of_isPadding {c : Char} (h : isPadding c = true) : isBlank c = true := by
  unfold isPadding at h
  exact isBlank_of_isWhitespace h

theorem not_isBlank_of_startsArgument {c : Char} (h : startsArgument c = true) :
    isBlank c = false := by
  by_contra hblank
  have hblank : isBlank c = true := by simpa using hblank
  have hupper := isUppercase_of_isBlank hblank
  have hquote : c = '"' := by simpa [startsArgument, hupper] using h
  rw [hquote] at hblank
  exact absurd hblank (by decide)

/-- There is no padding to drop where a text does not begin with white space. -/
theorem dropWhile_isPadding_eq_self {cs : List Char} (h : ∀ c ∈ cs.head?, isBlank c = false) :
    cs.dropWhile isPadding = cs := by
  cases cs with
  | nil => rfl
  | cons c cs =>
      have hc : isPadding c = false := by
        by_contra hc
        have := isBlank_of_isPadding (by simpa using hc)
        rw [h c rfl] at this
        cases this
      exact List.dropWhile_cons_of_neg (by simp [hc])

/-- The inside of an application begins as its segment does, without white space. -/
theorem not_isBlank_head?_inside (segment : List Char) :
    ∀ c ∈ (trimChars segment).dropLast.head?, isBlank c = false := by
  intro c hc
  refine (trimChars_eq_self_iff.1 (trimChars_trimChars segment)).1 c ?_
  cases hsegment : trimChars segment with
  | nil => simp [hsegment] at hc
  | cons c' rest => cases rest <;> simp_all

/-- The name and the second argument in the inside of an application. -/
structure Inside (body name second : List Char) : Prop where
  name_ne_nil : name ≠ []
  name_trim : trimChars name = name
  name_plain : ∀ c ∈ name, c ∈ body ∧ startsArgument c = false
  second_trim : trimChars second = second
  second_subset : second ⊆ body
  second_starts : second = [] ∨ second.head?.any startsArgument = true

theorem inside_of_readApplication? {body name second : List Char}
    (hblank : ∀ c ∈ body.head?, isBlank c = false)
    (h : readApplication? body = some (name, second)) : Inside body name second := by
  simp only [readApplication?, dropWhile_isPadding_eq_self hblank] at h
  split at h
  · cases h
  · rename_i hne
    simp only [Option.some.injEq, Prod.mk.injEq] at h
    obtain ⟨rfl, rfl⟩ := h
    have htake : body.takeWhile (!startsArgument ·) ⊆ body :=
      (List.takeWhile_prefix _).subset
    refine ⟨?_, trimChars_trimChars _, fun c hc => ?_, trimChars_trimChars _, ?_, ?_⟩
    · cases hname : body.takeWhile (!startsArgument ·) with
      | nil => simp [hname] at hne
      | cons c name =>
          have hhead : body.head? = some c := by
            obtain ⟨rest, hrest⟩ := List.takeWhile_prefix (!startsArgument ·) (l := body)
            rw [hname] at hrest
            rw [← hrest]
            rfl
          have := head?_trimChars name (hblank c hhead)
          intro hnil
          rw [hnil] at this
          cases this
    · have hc := trimChars_subset _ hc
      exact ⟨htake hc, by simpa using List.mem_takeWhile_imp hc⟩
    · exact fun c hc => (List.dropWhile_suffix _).subset (trimChars_subset _ hc)
    · cases hsecond : body.dropWhile (!startsArgument ·) with
      | nil => exact Or.inl rfl
      | cons c second =>
          have hc : startsArgument c = true := by
            have hstop := not_of_head?_dropWhile (!startsArgument ·) body
            rw [hsecond] at hstop
            simpa using hstop c rfl
          right
          rw [head?_trimChars second (not_isBlank_of_startsArgument hc)]
          simpa using hc

theorem Inside.isFunctionName {body name second : List Char} (h : Inside body name second)
    (hmark : '(' ∉ body) : IsFunctionName (.ofList name) := by
  refine ⟨?_, ?_, fun c hc => ?_⟩
  · rw [Ne, String.ofList_eq_empty_iff]
    exact h.name_ne_nil
  · unfold trim
    rw [String.toList_ofList, h.name_trim]
  · rw [String.toList_ofList] at hc
    obtain ⟨hmem, hstart⟩ := h.name_plain c hc
    have hstart : isUppercase c = false ∧ c ≠ '"' := by simpa [startsArgument] using hstart
    refine ⟨?_, hstart.2, hstart.1⟩
    rintro rfl
    exact hmark hmem

/-- What is read from the second argument, if there is one. -/
theorem Inside.primary_of_readSecond {body name second : List Char} (h : Inside body name second)
    (hmark : '(' ∉ body) {others : List Expression} (hothers : readSecond second = .ok others) :
    ∀ e ∈ others, e.IsPrimary ∧ e.BeginsUpper := by
  unfold readSecond at hothers
  split at hothers
  · cases hothers
    intro e he
    cases he
  · rename_i hsecond
    cases he : readPrimary second with
    | error fault =>
        rw [he] at hothers
        cases hothers
    | ok e =>
        rw [he] at hothers
        cases hothers
        intro e' he'
        obtain rfl := List.mem_singleton.1 he'
        obtain ⟨hprimary, hupper⟩ := isPrimary_of_readPrimary h.second_trim
          (fun hmem => hmark (h.second_subset hmem)) he
        exact ⟨hprimary, hupper (h.second_starts.resolve_left (by simpa using hsecond))⟩

/-- An application to a canonical expression is canonical. -/
theorem canonical_of_applySegment {functions : Functions} {inner outer : Expression}
    {segment : List Char} (hinner : Canonical functions inner) (hmark : '(' ∉ segment)
    (h : applySegment functions inner (trimChars segment) = .ok outer) :
    Canonical functions outer := by
  unfold applySegment at h
  split at h
  · cases h
  split at h
  · cases h
  rename_i hlast name second happlication
  split at h
  · cases h
  rename_i others hothers
  -- The segment is its body and a `)`.
  have hbody : '(' ∉ (trimChars segment).dropLast := fun hmem =>
    hmark (trimChars_subset segment ((List.dropLast_sublist _).subset hmem))
  have hinside := inside_of_readApplication? (not_isBlank_head?_inside segment) happlication
  unfold checkedCall at h
  split at h
  · cases h
  rename_i function hget
  split at h
  · rename_i harity
    cases h
    exact .call hinner (hinside.isFunctionName hbody) hget harity
      (hinside.primary_of_readSecond hbody hothers)
  · cases h

theorem canonical_of_applySegments {functions : Functions} {inner e : Expression}
    {segments : List (List Char)} (hinner : Canonical functions inner)
    (hmark : ∀ segment ∈ segments, '(' ∉ segment)
    (h : applySegments functions inner segments = .ok e) : Canonical functions e := by
  induction segments generalizing inner with
  | nil =>
      cases h
      exact hinner
  | cons segment segments ih =>
      unfold applySegments at h
      split at h
      · cases h
      · rename_i outer houter
        have houter := canonical_of_applySegment hinner (hmark segment List.mem_cons_self) houter
        exact ih houter (fun other hother => hmark other (List.mem_cons_of_mem _ hother)) h

/-- What is read is canonical. -/
theorem canonical_of_parse {functions : Functions} {text : String} {e : Expression}
    (h : parse functions text = .ok e) : Canonical functions e := by
  obtain ⟨hfirst, hothers⟩ := not_mem_segments '(' text.toList
  unfold parse at h
  dsimp only at h
  split at h
  · cases h
  · rename_i inner hinner
    have hmark : '(' ∉ trimChars (segments '(' text.toList).1 := fun hmem =>
      hfirst (trimChars_subset _ hmem)
    have hprimary := (isPrimary_of_readPrimary (trimChars_trimChars _) hmark hinner).1
    exact canonical_of_applySegments (.primary hprimary) hothers h

/-! ### What is canonical is read back -/

theorem toList_ne_nil_of_trim_eq {name : String} (h : name ≠ "") : name.toList ≠ [] := by
  rwa [Ne, String.toList_eq_nil_iff]

theorem trimChars_toList {name : String} (h : trim name = name) :
    trimChars name.toList = name.toList := by
  have := congrArg String.toList h
  unfold trim at this
  rwa [String.toList_ofList] at this

namespace IsPrimary

variable {e : Expression} (h : e.IsPrimary)

include h

theorem not_mem_chars : '(' ∉ e.chars := by
  cases h with
  | literal hmark => simpa [chars] using hmark
  | field _ _ hmark _ => exact hmark

theorem trimChars_chars : trimChars e.chars = e.chars := by
  cases h with
  | literal hmark =>
      -- A literal begins and ends with its quotes.
      have hquote : isBlank '"' = false := by decide
      rw [trimChars_eq_self_iff, chars, List.getLast?_concat]
      simp [hquote]
  | field _ htrim _ _ => exact trimChars_toList htrim

theorem chars_ne_nil : e.chars ≠ [] := by
  cases h with
  | literal hmark => simp [chars]
  | field hne _ _ _ => exact toList_ne_nil_of_trim_eq hne

theorem readPrimary_chars : readPrimary e.chars = .ok e := by
  cases h with
  | @literal text hmark =>
      have hcut : cutLast? '"' (text.toList ++ ['"']) = some (text.toList, []) :=
        cutLast?_append_mark List.not_mem_nil
      rw [chars, List.cons_append]
      unfold readPrimary
      simp only [hcut, String.ofList_toList]
  | @field name hne _ _ hquote =>
      obtain ⟨c, cs, hcs⟩ := List.exists_cons_of_ne_nil (toList_ne_nil_of_trim_eq hne)
      have hc : c ≠ '"' := by
        rintro rfl
        rw [hcs] at hquote
        exact hquote rfl
      show readPrimary name.toList = _
      rw [hcs]
      unfold readPrimary
      split
      · rename_i heq
        cases heq
      · rename_i heq
        rw [List.cons.injEq] at heq
        exact absurd heq.1 hc
      · rw [← hcs, String.ofList_toList]

/-- A second argument is told from the name before it by its first character. -/
theorem startsArgument_chars (hupper : e.BeginsUpper) :
    ∃ c cs, e.chars = c :: cs ∧ startsArgument c = true := by
  cases h with
  | literal hmark => exact ⟨'"', _, rfl, by simp [startsArgument]⟩
  | @field name hne _ _ _ =>
      obtain ⟨c, cs, hcs⟩ := List.exists_cons_of_ne_nil (toList_ne_nil_of_trim_eq hne)
      refine ⟨c, cs, hcs, ?_⟩
      have hc : name.toList.head?.any isUppercase = true := hupper
      rw [hcs, List.head?_cons, Option.any_some] at hc
      simp [startsArgument, hc]

end IsPrimary

namespace IsFunctionName

variable {name : String} (h : IsFunctionName name)

include h

theorem not_mem : '(' ∉ name.toList := fun hmem => (h.plain '(' hmem).1 rfl

theorem not_startsArgument : ∀ c ∈ name.toList, startsArgument c = false := by
  intro c hc
  obtain ⟨-, hquote, hupper⟩ := h.plain c hc
  simp [startsArgument, hquote, hupper]

/-- In the inside of an application a name is read up to the second argument, if there is one. -/
theorem readApplication?_append (pad second : List Char) (hpad : ∀ c ∈ pad, isBlank c = true)
    (hsecond : second = [] ∨ ∃ c cs, second = c :: cs ∧ startsArgument c = true) :
    readApplication? (name.toList ++ pad ++ second) = some (name.toList, trimChars second) := by
  obtain ⟨c, cs, hcs⟩ := List.exists_cons_of_ne_nil (toList_ne_nil_of_trim_eq h.ne_empty)
  have hfront : (name.toList ++ pad ++ second).dropWhile isPadding
      = name.toList ++ pad ++ second := by
    refine dropWhile_isPadding_eq_self fun c' hc' => ?_
    refine (trimChars_eq_self_iff.1 (trimChars_toList h.trim_eq)).1 c' ?_
    simpa [hcs] using hc'
  -- Neither the name nor the padding can begin an argument.
  have hname : ∀ c ∈ name.toList ++ pad, (!startsArgument c) = true := by
    intro c hc
    rcases List.mem_append.1 hc with hc | hc
    · simp [h.not_startsArgument c hc]
    · by_contra hstart
      have := not_isBlank_of_startsArgument (by simpa using hstart)
      rw [hpad c hc] at this
      cases this
  have hstop : second.takeWhile (!startsArgument ·) = [] := by
    rcases hsecond with rfl | ⟨c, cs, rfl, hc⟩
    · rfl
    · exact List.takeWhile_cons_of_neg (by simp [hc])
  have hrest : second.dropWhile (!startsArgument ·) = second := by
    rcases hsecond with rfl | ⟨c, cs, rfl, hc⟩
    · rfl
    · exact List.dropWhile_cons_of_neg (by simp [hc])
  unfold readApplication?
  dsimp only
  rw [hfront, List.takeWhile_append_of_pos hname, List.dropWhile_append_of_pos hname, hstop, hrest,
    List.append_nil, trimChars_append_of_blank hpad, trimChars_toList h.trim_eq, hcs]
  rfl

/-- From the name to the `)` there is nothing to trim. -/
theorem trimChars_segment (inside : List Char) :
    trimChars (name.toList ++ inside ++ [')']) = name.toList ++ inside ++ [')'] := by
  obtain ⟨c, cs, hcs⟩ := List.exists_cons_of_ne_nil (toList_ne_nil_of_trim_eq h.ne_empty)
  have hfront := (trimChars_eq_self_iff.1 (trimChars_toList h.trim_eq)).1
  have hclose : isBlank ')' = false := by decide
  rw [trimChars_eq_self_iff, List.getLast?_concat]
  rw [hcs] at hfront ⊢
  simpa [hclose] using hfront

end IsFunctionName

theorem checkedCall_eq_ok {functions : Functions} {name : String} {function : Function}
    {arguments : List Expression} (hget : functions.get? name = some function)
    (harity : function.arity = arguments.length) :
    checkedCall functions name arguments = .ok (.call name arguments) := by
  unfold checkedCall
  simp only [hget, harity, if_true]

/-- What stands before a `)` is the name and the second argument. -/
theorem applySegment_close {functions : Functions} {inside name second : List Char}
    (inner : Expression) (h : readApplication? inside = some (name, second)) :
    applySegment functions inner (inside ++ [')'])
      = (readSecond second).bind
          fun others => checkedCall functions (.ofList name) (inner :: others) := by
  unfold applySegment
  rw [List.getLast?_concat, List.dropLast_concat, h]
  simp only [ne_eq, not_true_eq_false, if_false]
  cases readSecond second <;> rfl

/-- An application is read back from how it is printed. -/
theorem applySegment_chars {functions : Functions} {name : String} {others : List Expression}
    {function : Function} (inner : Expression) (hname : IsFunctionName name)
    (hget : functions.get? name = some function)
    (harity : function.arity = (inner :: others).length)
    (hothers : ∀ e ∈ others, e.IsPrimary ∧ e.BeginsUpper) :
    applySegment functions inner (name.toList ++ argumentChars others ++ [')'])
      = .ok (.call name (inner :: others)) := by
  -- The inside is the name and the second argument, where the function takes one.
  have hinside : ∃ second, readApplication? (name.toList ++ argumentChars others)
      = some (name.toList, second) ∧ readSecond second = .ok others := by
    match others with
    | [] =>
        refine ⟨[], ?_, rfl⟩
        have hread := hname.readApplication?_append [] [] (by simp) (Or.inl rfl)
        rwa [List.append_nil] at hread
    | [second] =>
        obtain ⟨hprimary, hupper⟩ := hothers second List.mem_cons_self
        refine ⟨second.chars, ?_, ?_⟩
        · have hread := hname.readApplication?_append [' '] second.chars (by simp [isBlank])
            (Or.inr (hprimary.startsArgument_chars hupper))
          rw [hprimary.trimChars_chars] at hread
          simpa [argumentChars] using hread
        · have hne : second.chars.isEmpty = false := by simp [hprimary.chars_ne_nil]
          unfold readSecond
          rw [hne, hprimary.readPrimary_chars]
          rfl
    | _ :: _ :: _ => cases function <;> simp [Function.arity] at harity
  obtain ⟨second, happlication, hsecond⟩ := hinside
  rw [applySegment_close inner happlication, hsecond, String.ofList_toList]
  exact checkedCall_eq_ok hget harity

theorem not_mem_argumentChars {es : List Expression} (h : ∀ e ∈ es, e.IsPrimary) :
    '(' ∉ argumentChars es := by
  induction es with
  | nil => exact List.not_mem_nil
  | cons e es ih =>
      have he := (h e List.mem_cons_self).not_mem_chars
      have hes := ih fun e he => h e (List.mem_cons_of_mem _ he)
      simp [argumentChars, he, hes]

/-- A canonical expression is read back from how it is printed. -/
theorem parse_print_of_canonical {functions : Functions} {e : Expression}
    (h : Canonical functions e) : parse functions e.print = .ok e := by
  induction h with
  | @primary e h =>
      unfold print
      rw [parse_of_not_mem functions h.not_mem_chars, h.trimChars_chars, h.readPrimary_chars]
  | @call inner name others function _ hname hget harity hothers ih =>
      -- The first argument is read with the space behind it, and the call is applied to it.
      have hsplit : print (.call name (inner :: others))
          = .ofList (inner.chars ++ [' ']
            ++ '(' :: (name.toList ++ argumentChars others ++ [')'])) := by
        simp [print, chars]
      have hplain : '(' ∉ name.toList ++ argumentChars others ++ [')'] := by
        have hothers := not_mem_argumentChars fun e he => (hothers e he).1
        simp [hname.not_mem, hothers]
      rw [hsplit, parse_append_segment functions hplain,
        parse_append_blank functions inner.chars (by simp [isBlank])]
      show (parse functions inner.print).bind _ = _
      rw [ih, hname.trimChars_segment]
      exact applySegment_chars inner hname hget harity hothers

/-- What is read is canonical, and what is canonical is read back from how it is printed. -/
theorem parse_image_print (functions : Functions) :
    (∀ text e, parse functions text = .ok e → Canonical functions e)
      ∧ ∀ e, Canonical functions e → parse functions e.print = .ok e :=
  ⟨fun _ _ h => canonical_of_parse h, fun _ h => parse_print_of_canonical h⟩

/-- A literal with a quote and a parenthesis in it, joined with a property and put in capitals. -/
def joined : Expression :=
  .call "upper" [.call "join" [.literal "a) \"b", .field "Name)"]]

set_option maxRecDepth 8000 in
theorem parse_image_print_joined :
    joined.print = "\"a) \"b\" (join Name)) (upper)"
      ∧ parse builtinFunctions "\"a) \"b\"(join  Name)) ( upper )" = .ok joined
      ∧ Canonical builtinFunctions joined
      ∧ parse builtinFunctions joined.print = .ok joined := by
  have hparse : parse builtinFunctions "\"a) \"b\"(join  Name)) ( upper )" = .ok joined := by
    rfl
  have hcanonical : Canonical builtinFunctions joined :=
    (parse_image_print builtinFunctions).1 _ joined hparse
  exact ⟨by rfl, hparse, hcanonical, (parse_image_print builtinFunctions).2 joined hcanonical⟩

end Expression

end MailMerge
