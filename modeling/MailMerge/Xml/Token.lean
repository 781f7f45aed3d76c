import MailMerge.Text.Cut
import MailMerge.Xml.Tag

/-!
# `MailMerge.Xml.Token`: the pieces of a document's source

A source is a sequence of tags, other markup and runs of character data. `Token.next` takes one
piece off a source that is not empty. A `>` inside quotes does not end a tag.
-/

set_option autoImplicit false

namespace MailMerge.Xml

open MailMerge.Text

/-- A piece of a document's source. -/
inductive Token where
  /-- A run of character data, its references as written. -/
  | characters (raw : List Char)
  /-- The content of a start tag. -/
  | openTag (content : List Char)
  /-- The content of the tag of an empty element, without its `/`. -/
  | emptyTag (content : List Char)
  /-- The name in an end tag. -/
  | closeTag (name : List Char)
  | markup (kept : Markup)
deriving DecidableEq, Repr

namespace Token

/-- The content of a tag and what follows its `>`, inside a quote or not. -/
def tagEnd? (quote : Option Char) : List Char → Option (List Char × List Char)
  | [] => none
  | c :: cs =>
    match quote with
    | none =>
      if c = '>' then some ([], cs)
      else
        (tagEnd? (if c = '"' ∨ c = '\'' then some c else none) cs).map
          fun (content, rest) => (c :: content, rest)
    | some q =>
      (tagEnd? (if c = q then none else some q) cs).map
        fun (content, rest) => (c :: content, rest)

/-- The content of a document type declaration and what follows its `>`, where `depth` counts the
angle brackets opened in it. -/
def doctypeEnd? (depth : Nat) : List Char → Option (List Char × List Char)
  | [] => none
  | c :: cs =>
    if c = '>' ∧ depth = 0 then some ([], cs)
    else
      (doctypeEnd? (if c = '<' then depth + 1 else if c = '>' then depth - 1 else depth) cs).map
        fun (content, rest) => (c :: content, rest)

/-- The name in an end tag: white space at its end is left out, unless there is nothing else. -/
def endName (content : List Char) : List Char :=
  match content.reverse.dropWhile isSpace with
  | [] => content
  | name => name.reverse

/-- Markup up to a mark, or the fault that the mark is missing. -/
def upTo (mark : List Char) (fault : MarkupFault) (build : String → Markup) (cs : List Char) :
    Except MarkupFault (Token × List Char) :=
  match cutAt? mark cs with
  | some (body, rest) => .ok (.markup (build (.ofList body)), rest)
  | none => .error fault

/-- A processing instruction; one for `xml` is the declaration of the document. -/
def instruction (body : String) : Markup :=
  match body.toList with
  | 'x' :: 'm' :: 'l' :: rest =>
    if rest.head?.all isSpace then .declaration body else .instruction body
  | _ => .instruction body

/-- Reads a document type declaration after its `<!`. -/
def doctype (cs : List Char) : Except MarkupFault (Token × List Char) :=
  match doctypeEnd? 0 cs with
  | none => .error .doctypeUnclosed
  | some (content, rest) =>
    if (content.take 7).map Char.toUpper = ['D', 'O', 'C', 'T', 'Y', 'P', 'E'] then
      match (content.drop 7).dropWhile isSpace with
      | [] => .error .doctypeUnnamed
      | body => .ok (.markup (.doctype (.ofList body)), rest)
    else .error .doctypeUnclosed

/-- Reads markup after its `<!`. -/
def declaration : List Char → Except MarkupFault (Token × List Char)
  | '-' :: '-' :: cs => upTo ['-', '-', '>'] .commentUnclosed .comment cs
  | '-' :: _ => .error .commentUnclosed
  | '[' :: 'C' :: 'D' :: 'A' :: 'T' :: 'A' :: '[' :: cs =>
    upTo [']', ']', '>'] .cdataUnclosed .cdata cs
  | '[' :: _ => .error .cdataUnclosed
  -- Whether the whole word is there is seen only once the end has been found.
  | c :: cs => if c = 'D' ∨ c = 'd' then doctype (c :: cs) else .error .unknownMarkup
  | [] => .error .unknownMarkup

/-- Reads a start tag after its `<`. -/
def startTag (cs : List Char) : Except MarkupFault (Token × List Char) :=
  match tagEnd? none cs with
  | none => .error .tagUnclosed
  | some (content, rest) =>
    if content.getLast? = some '/' then .ok (.emptyTag content.dropLast, rest)
    else .ok (.openTag content, rest)

/-- Reads a tag or other markup after its `<`. -/
def afterBracket : List Char → Except MarkupFault (Token × List Char)
  | '!' :: cs => declaration cs
  | '/' :: cs =>
    match tagEnd? none cs with
    | none => .error .tagUnclosed
    | some (content, rest) => .ok (.closeTag (endName content), rest)
  -- The question mark that begins an instruction does not end it too.
  | '?' :: '>' :: _ => .error .instructionUnclosed
  | '?' :: cs => upTo ['?', '>'] .instructionUnclosed instruction cs
  | [] => .error .tagUnclosed
  | cs => startTag cs

/-- Whether a character is character data. -/
def isData (c : Char) : Bool := c != '<'

/-- Takes the piece at the front of a source that is not empty. -/
def next (c : Char) (cs : List Char) : Except MarkupFault (Token × List Char) :=
  if c = '<' then afterBracket cs
  else .ok (.characters (c :: cs.takeWhile isData), cs.dropWhile isData)

/-! ### Every piece takes something off the source -/

theorem length_lt_of_tagEnd? {quote : Option Char} {cs content rest : List Char}
    (h : tagEnd? quote cs = some (content, rest)) : rest.length < cs.length := by
  induction cs generalizing quote content with
  | nil => simp [tagEnd?] at h
  | cons c cs ih =>
    cases quote with
    | none =>
      by_cases hc : c = '>'
      · simp [tagEnd?, hc] at h
        simp [← h.2]
      · simp only [tagEnd?, if_neg hc, Option.map_eq_some_iff, Prod.mk.injEq] at h
        obtain ⟨⟨content', rest'⟩, h, -, rfl⟩ := h
        exact Nat.lt_succ_of_lt (ih h)
    | some q =>
      simp only [tagEnd?, Option.map_eq_some_iff, Prod.mk.injEq] at h
      obtain ⟨⟨content', rest'⟩, h, -, rfl⟩ := h
      exact Nat.lt_succ_of_lt (ih h)

theorem length_lt_of_doctypeEnd? {depth : Nat} {cs content rest : List Char}
    (h : doctypeEnd? depth cs = some (content, rest)) : rest.length < cs.length := by
  induction cs generalizing depth content with
  | nil => simp [doctypeEnd?] at h
  | cons c cs ih =>
    by_cases hc : c = '>' ∧ depth = 0
    · simp [doctypeEnd?, hc] at h
      simp [← h.2]
    · simp only [doctypeEnd?, if_neg hc, Option.map_eq_some_iff, Prod.mk.injEq] at h
      obtain ⟨⟨content', rest'⟩, h, -, rfl⟩ := h
      exact Nat.lt_succ_of_lt (ih h)

theorem length_le_of_upTo {mark : List Char} {fault : MarkupFault} {build : String → Markup}
    {cs rest : List Char} {token : Token}
    (h : upTo mark fault build cs = .ok (token, rest)) : rest.length ≤ cs.length := by
  unfold upTo at h
  split at h
  · rename_i hc
    simp only [Except.ok.injEq, Prod.mk.injEq] at h
    obtain ⟨-, rfl⟩ := h
    simp [← append_of_cutAt? hc]
    omega
  · simp at h

theorem length_lt_of_doctype {cs rest : List Char} {token : Token}
    (h : doctype cs = .ok (token, rest)) : rest.length < cs.length := by
  unfold doctype at h
  split at h
  · simp at h
  · rename_i hd
    have := length_lt_of_doctypeEnd? hd
    split at h
    · split at h <;> simp_all
    · simp at h

theorem length_le_of_declaration {cs rest : List Char} {token : Token}
    (h : declaration cs = .ok (token, rest)) : rest.length ≤ cs.length := by
  unfold declaration at h
  split at h
  · have := length_le_of_upTo h
    simp only [List.length_cons]
    omega
  · simp at h
  · have := length_le_of_upTo h
    simp only [List.length_cons]
    omega
  · simp at h
  · split at h
    · exact Nat.le_of_lt (length_lt_of_doctype h)
    · simp at h
  · simp at h

theorem length_le_of_startTag {cs rest : List Char} {token : Token}
    (h : startTag cs = .ok (token, rest)) : rest.length ≤ cs.length := by
  unfold startTag at h
  split at h
  · simp at h
  · rename_i ht
    have := length_lt_of_tagEnd? ht
    split at h <;> simp_all <;> omega

theorem length_le_of_afterBracket {cs rest : List Char} {token : Token}
    (h : afterBracket cs = .ok (token, rest)) : rest.length ≤ cs.length := by
  unfold afterBracket at h
  split at h
  · have := length_le_of_declaration h
    simp only [List.length_cons]
    omega
  · split at h
    · simp at h
    · rename_i ht
      have := length_lt_of_tagEnd? ht
      simp_all
      omega
  · simp at h
  · have := length_le_of_upTo h
    simp only [List.length_cons]
    omega
  · simp at h
  · exact length_le_of_startTag h

theorem length_le_of_next {c : Char} {cs rest : List Char} {token : Token}
    (h : next c cs = .ok (token, rest)) : rest.length ≤ cs.length := by
  unfold next at h
  split at h
  · exact length_le_of_afterBracket h
  · simp only [Except.ok.injEq, Prod.mk.injEq] at h
    obtain ⟨-, rfl⟩ := h
    exact Tag.length_dropWhile_le isData cs

end Token

end MailMerge.Xml
