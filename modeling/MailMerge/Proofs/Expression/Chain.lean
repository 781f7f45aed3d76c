import MailMerge.Proofs.Expression.Progress

/-!
# `MailMerge.Proofs.Expression.Chain`: applications behind a text

An application behind any text, one that cannot be read included, means the function on what the
text means. All that stands before the last `(` is read as it is read by itself, stray quotes and
parentheses in it too, so the text keeps its meaning, or its fault, in front of any application.

* `parse_append_print`: how the whole is read, in terms of how the text is read.
* `value?_call_unary`, `value?_call_binary`: values of calls in terms of values of arguments.
* `eval?_append_applications`: values and missing properties behind one application, and the value
  behind a chain of them as a fold.
-/

set_option autoImplicit false

namespace MailMerge

open MailMerge.Text

namespace Expression

/-! ### Applications -/

/-- A function with the text of its second argument, if it takes one. The first argument is what
stands before the application. -/
inductive Application where
  | unary (name : String) (f : String → String)
  | binary (name : String) (f : String → String → String) (second : String)

namespace Application

/-- How an application is written behind a text. -/
def print : Application → String
  | .unary name _ => " (" ++ name ++ ")"
  | .binary name _ second => " (" ++ name ++ " " ++ second ++ ")"

/-- The function is known by a name that can be read, and the second argument is a text without `(`
that begins with a capital or a quote, white space before it aside. -/
inductive IsKnown (functions : Functions) : Application → Prop where
  | unary {name : String} {f : String → String} (hname : IsFunctionName name)
      (hget : functions.get? name = some (.unary f)) : IsKnown functions (.unary name f)
  | binary {name second : String} {f : String → String → String} (hname : IsFunctionName name)
      (hget : functions.get? name = some (.binary f)) (hmark : '(' ∉ second.toList)
      (hstart : (second.toList.dropWhile isBlank).head?.any startsArgument = true) :
      IsKnown functions (.binary name f second)

/-- The call around what was read before. A fault in that comes first, then one in the second
argument. -/
def around (functions : Functions) (before : Except ParseError Expression) :
    Application → Except ParseError Expression
  | .unary name _ => before.map fun e => .call name [e]
  | .binary name _ second =>
    before.bind fun e => (parse functions second).map fun e' => .call name [e, e']

theorem around_error (functions : Functions) (fault : ParseError) (a : Application) :
    a.around functions (.error fault) = .error fault := by
  cases a <;> rfl

/-- The function's result on the value before. There is none where one of the arguments has no
value. -/
def apply (functions : Functions) (properties : Properties) (value : Option String) :
    Application → Option String
  | .unary _ f => value.map f
  | .binary _ f second =>
    value.bind fun first => (eval? functions properties second).map (f first)

/-- The names missing before, then those in the second argument, each once. -/
def collect (functions : Functions) (properties : Properties)
    (names : Except ParseError (List String)) : Application → Except ParseError (List String)
  | .unary _ _ => names
  | .binary _ _ second =>
    names.bind fun missing =>
      (missingIn functions properties second).map fun others => (missing ++ others).eraseDups

end Application

/-! ### Reading -/

/-- The inside of an application behind a text is applied to what the text is read as. -/
theorem parse_append_close {functions : Functions} {name : String} {inside second : List Char}
    (text : String) (hname : IsFunctionName name) (hmark : '(' ∉ inside)
    (hread : readApplication? (name.toList ++ inside) = some (name.toList, second)) :
    parse functions (.ofList (text.toList ++ [' '] ++ '(' :: (name.toList ++ inside ++ [')'])))
      = (parse functions text).bind fun e =>
          (readSecond second).bind fun others => checkedCall functions name (e :: others) := by
  have hplain : '(' ∉ name.toList ++ inside ++ [')'] := by
    simp [hname.not_mem, hmark]
  rw [parse_append_segment functions hplain, hname.trimChars_segment,
    parse_append_blank functions text.toList (by simp [isBlank]), String.ofList_toList]
  congr 1
  funext e
  rw [applySegment_close e hread, String.ofList_toList]

/-- A text that is not all white space is read as a second argument as it is read by itself. -/
theorem readSecond_trimChars (functions : Functions) {second : String}
    (hmark : '(' ∉ second.toList) (hne : trimChars second.toList ≠ []) :
    readSecond (trimChars second.toList) = (parse functions second).map ([·]) := by
  have hparse := parse_of_not_mem functions hmark
  rw [String.ofList_toList] at hparse
  have hempty : (trimChars second.toList).isEmpty = false := by simpa using hne
  unfold readSecond
  rw [hparse, hempty]
  rfl

/-- The second argument is told from the name before it, and the white space around it belongs to
neither. -/
theorem readApplication?_second {name second : String} (hname : IsFunctionName name)
    (hstart : (second.toList.dropWhile isBlank).head?.any startsArgument = true) :
    readApplication? (name.toList ++ ' ' :: second.toList)
        = some (name.toList, trimChars second.toList)
      ∧ trimChars second.toList ≠ [] := by
  obtain ⟨c, hc, hstart⟩ := (Option.any_eq_true _ _).1 hstart
  obtain ⟨cs, hcs⟩ := List.head?_eq_some_iff.1 hc
  have hsplit : second.toList = second.toList.takeWhile isBlank ++ c :: cs := by
    rw [← hcs, List.takeWhile_append_dropWhile]
  have hspace : ∀ c ∈ second.toList.takeWhile isBlank, isBlank c = true := fun c hc =>
    List.mem_takeWhile_imp hc
  have htrim : trimChars second.toList = trimChars (c :: cs) := by
    rw [hsplit, trimChars_blank_append hspace]
  have hread := hname.readApplication?_append _ _
    (List.forall_mem_cons.2 ⟨(by decide : isBlank ' ' = true), hspace⟩)
    (Or.inr ⟨c, cs, rfl, hstart⟩)
  rw [List.append_assoc, List.cons_append, ← hsplit, ← htrim] at hread
  refine ⟨hread, fun hnil => ?_⟩
  have hhead := head?_trimChars cs (not_isBlank_of_startsArgument hstart)
  rw [← htrim, hnil] at hhead
  cases hhead

/-- A text with an application behind it is read as the call around what the text is read as, and
has the text's fault if the text cannot be read. -/
theorem parse_append_print {functions : Functions} {a : Application} (h : a.IsKnown functions)
    (text : String) :
    parse functions (text ++ a.print) = a.around functions (parse functions text) := by
  cases h with
  | @unary name f hname hget =>
      have hread := hname.readApplication?_append [] [] (by simp) (Or.inl rfl)
      rw [List.append_nil] at hread
      have hwhole : text ++ (Application.unary name f).print
          = .ofList (text.toList ++ [' '] ++ '(' :: (name.toList ++ [] ++ [')'])) :=
        String.toList_injective (by simp [Application.print])
      rw [hwhole, parse_append_close text hname List.not_mem_nil hread]
      cases parse functions text with
      | error fault => rfl
      | ok e => exact checkedCall_eq_ok hget rfl
  | @binary name second f hname hget hmark hstart =>
      obtain ⟨hread, hne⟩ := readApplication?_second hname hstart
      have hinside : '(' ∉ ' ' :: second.toList := by simp [hmark]
      have hwhole : text ++ (Application.binary name f second).print
          = .ofList (text.toList ++ [' ']
            ++ '(' :: (name.toList ++ ' ' :: second.toList ++ [')'])) :=
        String.toList_injective (by simp [Application.print])
      rw [hwhole, parse_append_close text hname hinside hread,
        readSecond_trimChars functions hmark hne]
      unfold Application.around
      dsimp only
      cases parse functions text with
      | error fault => rfl
      | ok e =>
          cases parse functions second with
          | error fault => rfl
          | ok e' => exact checkedCall_eq_ok hget rfl

/-! ### Names without repetition -/

theorem eraseDups_filter (p : String → Bool) : (names : List String) →
    (names.filter p).eraseDups = names.eraseDups.filter p
  | [] => rfl
  | name :: names => by
      have ih := eraseDups_filter p (names.filter fun other => !other == name)
      rw [List.eraseDups_cons]
      by_cases hname : p name = true
      · rw [List.filter_cons_of_pos hname, List.filter_cons_of_pos hname, List.eraseDups_cons, ← ih,
          List.filter_comm]
      · -- Without the name in the result it makes no difference that others equal to it are erased.
        have hsame : (names.filter fun other => !other == name).filter p = names.filter p := by
          rw [List.filter_filter]
          refine List.filter_congr fun other _ => ?_
          by_cases hother : other = name
          · simp [hother, hname]
          · simp [hother]
        rw [List.filter_cons_of_neg hname, List.filter_cons_of_neg hname, ← ih, hsame]
termination_by names => names.length
decreasing_by
  exact Nat.lt_succ_of_le (List.length_filter_le _ _)

theorem eraseDups_eraseDups : (names : List String) → names.eraseDups.eraseDups = names.eraseDups
  | [] => rfl
  | name :: names => by
      have ih := eraseDups_eraseDups (names.filter fun other => !other == name)
      rw [List.eraseDups_cons, List.eraseDups_cons, ← eraseDups_filter, List.filter_filter]
      simp only [Bool.and_self, ih]
termination_by names => names.length
decreasing_by
  exact Nat.lt_succ_of_le (List.length_filter_le _ _)

/-- It makes no difference whether repetitions are erased in the parts before. -/
theorem eraseDups_append_eraseDups (names others : List String) :
    (names.eraseDups ++ others.eraseDups).eraseDups = (names ++ others).eraseDups := by
  have hothers : others.eraseDups.removeAll names.eraseDups
      = (others.removeAll names).eraseDups := by
    unfold List.removeAll
    rw [eraseDups_filter]
    refine List.filter_congr fun name _ => ?_
    rw [Bool.eq_iff_iff]
    simp
  rw [List.eraseDups_append, List.eraseDups_append, eraseDups_eraseDups, hothers,
    eraseDups_eraseDups]

/-! ### Values -/

section Values

variable {functions : Functions} (properties : Properties)

theorem missing_call_single (name : String) (e : Expression) :
    (call name [e]).missing properties = e.missing properties := by
  simp [missing, references, referencesAll]

theorem missing_call_pair (name : String) (e e' : Expression) :
    (call name [e, e']).missing properties
      = (e.missing properties ++ e'.missing properties).eraseDups := by
  simp [missing, references, referencesAll, eraseDups_append_eraseDups]

/-- The value of an expression, if all properties in it have values. -/
def value? (functions : Functions) (properties : Properties) (e : Expression) : Option String :=
  if e.missing properties = [] then (e.evaluate functions properties).toOption else none

theorem eval?_eq_bind (functions : Functions) (text : String) :
    eval? functions properties text
      = (parse functions text).toOption.bind (value? functions properties) := by
  unfold eval?
  cases parse functions text <;> rfl

theorem value?_call_unary {name : String} {f : String → String}
    (hget : functions.get? name = some (.unary f)) (e : Expression) :
    value? functions properties (.call name [e]) = (value? functions properties e).map f := by
  unfold value?
  rw [missing_call_single]
  by_cases hmissing : e.missing properties = []
  · rw [if_pos hmissing, if_pos hmissing]
    simp only [evaluate, evaluateAll, hget]
    cases e.evaluate functions properties <;> rfl
  · rw [if_neg hmissing, if_neg hmissing]
    rfl

theorem value?_call_binary {name : String} {f : String → String → String}
    (hget : functions.get? name = some (.binary f)) (e e' : Expression) :
    value? functions properties (.call name [e, e'])
      = (value? functions properties e).bind fun first =>
          (value? functions properties e').map (f first) := by
  have hpair : (call name [e, e']).missing properties = []
      ↔ e.missing properties = [] ∧ e'.missing properties = [] := by
    rw [missing_eq_nil_iff, missing_eq_nil_iff, missing_eq_nil_iff, references, referencesAll,
      referencesAll, referencesAll, List.append_nil, List.forall_mem_append]
  unfold value?
  by_cases hmissing : e.missing properties = []
  · by_cases hmissing' : e'.missing properties = []
    · rw [if_pos (hpair.2 ⟨hmissing, hmissing'⟩), if_pos hmissing, if_pos hmissing']
      simp only [evaluate, evaluateAll, hget]
      cases e.evaluate functions properties with
      | error fault => rfl
      | ok first => cases e'.evaluate functions properties <;> rfl
    · -- A first argument with a value does not help a second without one.
      rw [if_neg fun h => hmissing' (hpair.1 h).2, if_neg hmissing']
      exact (Option.bind_fun_none _).symm
  · rw [if_neg fun h => hmissing (hpair.1 h).1, if_neg hmissing, Option.bind_none]

end Values

/-! ### One application and chains -/

section Chains

variable {functions : Functions} (properties : Properties)

/-- An application behind a text is the function on the text's value. -/
theorem eval?_append_print {a : Application} (h : a.IsKnown functions) (text : String) :
    eval? functions properties (text ++ a.print)
      = a.apply functions properties (eval? functions properties text) := by
  rw [eval?_eq_bind, eval?_eq_bind, parse_append_print h]
  cases h with
  | unary _ hget =>
      cases parse functions text with
      | error fault => rfl
      | ok e => exact value?_call_unary properties hget e
  | @binary _ second _ _ hget _ _ =>
      unfold Application.around Application.apply
      dsimp only
      rw [eval?_eq_bind]
      cases parse functions text with
      | error fault => rfl
      | ok e =>
          cases parse functions second with
          | error fault => exact (Option.bind_fun_none _).symm
          | ok e' => exact value?_call_binary properties hget e e'

/-- The properties missing in a text with an application behind it are those missing in the text
and in the second argument. -/
theorem missingIn_append_print {a : Application} (h : a.IsKnown functions) (text : String) :
    missingIn functions properties (text ++ a.print)
      = a.collect functions properties (missingIn functions properties text) := by
  unfold missingIn
  rw [parse_append_print h]
  cases h with
  | @unary name f _ _ =>
      cases parse functions text with
      | error fault => rfl
      | ok e => exact congrArg Except.ok (missing_call_single properties name e)
  | @binary name second f _ _ _ _ =>
      unfold Application.around Application.collect missingIn
      dsimp only
      cases parse functions text with
      | error fault => rfl
      | ok e =>
          cases parse functions second with
          | error fault => rfl
          | ok e' => exact congrArg Except.ok (missing_call_pair properties name e e')

/-- Applications one behind another are their functions one after another. -/
theorem eval?_append_join {applications : List Application}
    (h : ∀ a ∈ applications, a.IsKnown functions) (text : String) :
    eval? functions properties (text ++ String.join (applications.map Application.print))
      = applications.foldl (Application.apply functions properties)
          (eval? functions properties text) := by
  induction applications generalizing text with
  | nil => simp
  | cons a applications ih =>
      obtain ⟨ha, happlications⟩ := List.forall_mem_cons.1 h
      rw [List.map_cons, String.join_cons, ← String.append_assoc, ih happlications,
        List.foldl_cons, eval?_append_print properties ha]

end Chains

/-- An application behind any text is read as the call around what the text is read as; its value is
the function's result on the text's value, and there is none where an argument has none; the
properties missing are those of the arguments, each once; and a text that cannot be read keeps its
fault. So the value behind a chain of applications is the fold of their functions. -/
theorem eval?_append_applications (functions : Functions) (properties : Properties)
    (text : String) :
    (∀ a : Application, a.IsKnown functions →
        parse functions (text ++ a.print) = a.around functions (parse functions text)
          ∧ eval? functions properties (text ++ a.print)
            = a.apply functions properties (eval? functions properties text)
          ∧ missingIn functions properties (text ++ a.print)
            = a.collect functions properties (missingIn functions properties text))
      ∧ ∀ applications : List Application, (∀ a ∈ applications, a.IsKnown functions) →
          eval? functions properties (text ++ String.join (applications.map Application.print))
            = applications.foldl (Application.apply functions properties)
                (eval? functions properties text) :=
  ⟨fun _ h => ⟨parse_append_print h text, eval?_append_print properties h text,
      missingIn_append_print properties h text⟩,
    fun _ h => eval?_append_join properties h text⟩

/-- Two functions of the command line in a chain, the second with white space before its second
argument. -/
def shoutedWithName : List Application :=
  [.unary "upper" upperCase, .binary "join" (fun left right => left ++ " " ++ right) "  Name)"]

set_option maxRecDepth 8000 in
theorem eval?_append_applications_shouted :
    (∀ a ∈ shoutedWithName, a.IsKnown builtinFunctions)
      ∧ eval? builtinFunctions (.ofList [("Name)", "Ann")])
          ("\"a) \"b\"" ++ String.join (shoutedWithName.map Application.print)) = some "A) \"B Ann"
      ∧ ∀ a ∈ shoutedWithName,
          parse builtinFunctions ("\"a" ++ a.print) = .error (.unterminatedLiteral "\"a") := by
  have hupper : (Application.unary "upper" upperCase).IsKnown builtinFunctions :=
    .unary (by decide +kernel) (by rfl)
  have hjoin : (Application.binary "join" (fun left right => left ++ " " ++ right)
      "  Name)").IsKnown builtinFunctions :=
    .binary (by decide +kernel) (by rfl) (by decide) (by decide +kernel)
  have hknown : ∀ a ∈ shoutedWithName, a.IsKnown builtinFunctions :=
    List.forall_mem_cons.2 ⟨hupper, List.forall_mem_singleton.2 hjoin⟩
  refine ⟨hknown, ?_, fun a ha => ?_⟩
  · rw [(eval?_append_applications builtinFunctions (.ofList [("Name)", "Ann")]) _).2 _ hknown]
    decide +kernel
  · have hfault : parse builtinFunctions "\"a" = .error (.unterminatedLiteral "\"a") := by rfl
    rw [((eval?_append_applications builtinFunctions (.ofList []) _).1 a (hknown a ha)).1, hfault,
      Application.around_error]

end Expression

end MailMerge
