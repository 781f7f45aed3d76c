import MailMerge.Proofs.Text.Cut
import MailMerge.Proofs.Xml.Attributes
import MailMerge.Proofs.Xml.Reference
import MailMerge.Xml.Printer
import Mathlib.Data.List.DropRight

/-!
# `MailMerge.Proofs.Xml.Pieces`: printed pieces are read back

What is printed for a tag, an end tag or other markup is one piece of source, whatever follows it,
and the piece has the meaning of what was printed.

* `Tag.read_print`: the content of a tag is read back, its values decoded.
* `Token.afterBracket_openTag`, `afterBracket_emptyTag`, `afterBracket_closeTag`: tags end where
  they are printed to end.
* `Token.cases_of_afterBracket`: other markup that was read from a source is read back from what is
  printed for it (`Markup.Stable`), and no tag begins like it.
-/

set_option autoImplicit false

namespace MailMerge.Xml

open MailMerge.Text

/-! ### Names -/

/-- A name that ends where it is printed to end: it is not empty, and none of its characters has a
meaning inside a tag. -/
structure PlainName (name : String) : Prop where
  ne_empty : name ≠ ""
  plain : ∀ c ∈ name.toList, isSpace c = false ∧ c ∉ ['<', '>', '/', '=', '\'', '"']

namespace PlainName

variable {name : String}

instance : Decidable (PlainName name) :=
  decidable_of_iff (name ≠ ""
      ∧ name.toList.all fun c => isSpace c = false ∧ c ∉ ['<', '>', '/', '=', '\'', '"'])
    ⟨fun h => ⟨h.1, fun c hc => of_decide_eq_true (List.all_eq_true.1 h.2 c hc)⟩,
      fun h => ⟨h.ne_empty, List.all_eq_true.2 fun c hc => decide_eq_true (h.plain c hc)⟩⟩

theorem exists_cons (h : PlainName name) : ∃ c cs, name.toList = c :: cs := by
  cases hcs : name.toList with
  | nil => exact absurd (String.toList_eq_nil_iff.1 hcs) h.ne_empty
  | cons c cs => exact ⟨c, cs, rfl⟩

theorem inKey_eq (h : PlainName name) {c : Char} (hc : c ∈ name.toList) : inKey c = true := by
  obtain ⟨hspace, hplain⟩ := h.plain c hc
  simp only [List.mem_cons, not_or] at hplain
  simp [inKey, hspace, hplain]

end PlainName

/-- A tag whose names are printed so that they can be read back. -/
structure Tag.Writable (tag : Tag) : Prop where
  name : PlainName tag.name
  attributes : ∀ a ∈ tag.attributes, PlainName a.name

instance (tag : Tag) : Decidable tag.Writable :=
  decidable_of_iff (PlainName tag.name ∧ ∀ a ∈ tag.attributes, PlainName a.name)
    ⟨fun h => ⟨h.1, h.2⟩, fun h => ⟨h.name, h.attributes⟩⟩

/-- Characters that do not begin like other markup, if they are not empty. -/
def Token.Opens (cs : List Char) : Prop := ∀ c ∈ cs.head?, c ≠ '!' ∧ c ≠ '?'

/-- A tag that does not begin like other markup. -/
def Tag.Opens (tag : Tag) : Prop := Token.Opens tag.name.toList

instance (tag : Tag) : Decidable tag.Opens :=
  decidable_of_iff (tag.name.toList.head?.all fun c => c ≠ '!' ∧ c ≠ '?')
    (by simp [Tag.Opens, Token.Opens, Option.all_eq_true])

/-! ### The content of a tag -/

namespace Tag

theorem readValue_print (total : Nat) (value rest : List Char) :
    readValue total ('"' :: Reference.encodeValue value ++ '"' :: rest) = .ok (value, rest) := by
  have hinside : ∀ c ∈ Reference.encodeValue value, (c != '"') = true := by
    intro c hc
    rw [bne_iff_ne]
    rintro rfl
    exact Reference.not_mem_encodeValue value hc
  have htake : (Reference.encodeValue value ++ '"' :: rest).takeWhile (· != '"')
      = Reference.encodeValue value := by
    rw [List.takeWhile_append_of_pos hinside, List.takeWhile_cons_of_neg (by decide),
      List.append_nil]
  have hdrop : (Reference.encodeValue value ++ '"' :: rest).dropWhile (· != '"')
      = '"' :: rest := by
    rw [List.dropWhile_append_of_pos hinside, List.dropWhile_cons_of_neg (by decide)]
  simp only [readValue, List.cons_append, true_or, if_true, htake, hdrop,
    Reference.decode_encodeValue]

theorem readAttribute_print (total : Nat) {seen : List (String × Nat)} {a : Attribute}
    (ha : PlainName a.name) (hseen : a.name ∉ seen.map (·.1)) {first : Char} {cs rest : List Char}
    (hprint : a.print ++ rest = ' ' :: first :: cs) :
    readAttribute total seen first cs = .ok (a, rest) := by
  obtain ⟨c, name, hname⟩ := ha.exists_cons
  have hvalue : a.print ++ rest
      = ' ' :: c
        :: (name ++ '=' :: ('"' :: Reference.encodeValue a.value.toList ++ '"' :: rest)) := by
    simp [Attribute.print, hname]
  rw [hvalue] at hprint
  simp only [List.cons.injEq, true_and] at hprint
  obtain ⟨rfl, rfl⟩ := hprint
  have hkey : ∀ c ∈ name, inKey c = true := fun c hc =>
    ha.inKey_eq (by rw [hname]; exact List.mem_cons_of_mem _ hc)
  have hfind : seen.find? (·.1 = a.name) = none := by
    rw [List.find?_eq_none]
    intro s hs heq
    exact hseen (List.mem_map.2 ⟨s, hs, of_decide_eq_true heq⟩)
  have hstring : String.ofList (c :: name) = a.name := by
    rw [← hname, String.ofList_toList]
  -- The name goes up to the equals sign, and the value follows at once.
  unfold readAttribute
  simp only [List.takeWhile_append_of_pos hkey, List.dropWhile_append_of_pos hkey,
    List.takeWhile_cons_of_neg (show ¬ inKey '=' = true by decide),
    List.dropWhile_cons_of_neg (show ¬ inKey '=' = true by decide), List.append_nil,
    List.dropWhile_cons_of_neg (show ¬ isSpace '=' = true by decide), hstring, hfind,
    List.cons_append, List.dropWhile_cons_of_neg (show ¬ isSpace '"' = true by decide)]
  rw [← List.cons_append, readValue_print]
  simp only [String.ofList_toList]

theorem readAttributes_print {total : Nat} {seen : List (String × Nat)} {as : List Attribute}
    (hplain : ∀ a ∈ as, PlainName a.name) (hnodup : (as.map (·.name)).Nodup)
    (hseen : ∀ a ∈ as, a.name ∉ seen.map (·.1)) :
    readAttributes total seen (as.flatMap Attribute.print) = .ok as := by
  induction as generalizing seen with
  | nil =>
      rw [readAttributes]
      rfl
  | cons a as ih =>
      obtain ⟨c, name, hname⟩ := (hplain a List.mem_cons_self).exists_cons
      obtain ⟨cs, hcs⟩ : ∃ cs, a.print ++ as.flatMap Attribute.print = ' ' :: c :: cs := by
        simp [Attribute.print, hname]
      have hc : isSpace c = false :=
        ((hplain a List.mem_cons_self).plain c (by rw [hname]; exact List.mem_cons_self)).1
      have hdrop : (' ' :: c :: cs).dropWhile isSpace = c :: cs := by
        rw [List.dropWhile_cons_of_pos (by decide), List.dropWhile_cons_of_neg (by simp [hc])]
      have hread := readAttribute_print total (hplain a List.mem_cons_self)
        (hseen a List.mem_cons_self) hcs
      rw [List.map_cons, List.nodup_cons] at hnodup
      rw [List.flatMap_cons, hcs, readAttributes]
      split
      · rename_i hnil
        rw [hdrop] at hnil
        cases hnil
      · rename_i first tail hcons
        rw [hdrop] at hcons
        cases hcons
        split
        · rename_i heq
          rw [hread] at heq
          cases heq
        · rename_i heq
          rw [hread] at heq
          cases heq
          -- The attributes that follow are read with this name among those seen.
          rw [ih (fun b hb => hplain b (List.mem_cons_of_mem _ hb)) hnodup.2 fun b hb hmem => ?_]
          · rfl
          · rcases List.mem_cons.1 hmem with heq | hmem
            · exact hnodup.1 (List.mem_map.2 ⟨b, hb, heq⟩)
            · exact hseen b (List.mem_cons_of_mem _ hb) hmem

theorem read_print {tag : Tag} (h : tag.Writable) (hdistinct : tag.Distinct) :
    read tag.print = .ok tag := by
  have hname : ∀ c ∈ tag.name.toList, (!isSpace c) = true := fun c hc => by
    rw [(h.name.plain c hc).1]
    rfl
  -- The name ends at the space before the first attribute, or at the end.
  have hsplit : (tag.attributes.flatMap Attribute.print).takeWhile (!isSpace ·) = []
      ∧ (tag.attributes.flatMap Attribute.print).dropWhile (!isSpace ·)
        = tag.attributes.flatMap Attribute.print := by
    cases tag.attributes with
    | nil => exact ⟨rfl, rfl⟩
    | cons a as => exact ⟨rfl, rfl⟩
  unfold read Tag.print
  rw [List.takeWhile_append_of_pos hname, List.dropWhile_append_of_pos hname, hsplit.1, hsplit.2,
    readAttributes_print h.attributes hdistinct fun a _ => List.not_mem_nil]
  simp [Except.map]

end Tag

/-! ### Where a tag ends -/

namespace Token

/-- Characters in which a tag neither ends nor stops inside a quote. -/
def Skipped (xs : List Char) : Prop :=
  ∀ cs, tagEnd? none (xs ++ cs)
    = (tagEnd? none cs).map fun (content, rest) => (xs ++ content, rest)

theorem Skipped.nil : Skipped [] := by
  intro cs
  simp

theorem Skipped.append {xs ys : List Char} (hx : Skipped xs) (hy : Skipped ys) :
    Skipped (xs ++ ys) := by
  intro cs
  rw [List.append_assoc, hx, hy, Option.map_map]
  simp [Function.comp_def]

theorem Skipped.cons {c : Char} {xs : List Char} (hc : c ∉ ['>', '\'', '"']) (h : Skipped xs) :
    Skipped (c :: xs) := by
  intro cs
  simp only [List.mem_cons, not_or] at hc
  rw [List.cons_append, tagEnd?, if_neg hc.1, if_neg (by simp [hc]), h, Option.map_map]
  rfl

theorem Skipped.flatMap {α : Type} {f : α → List Char} {xs : List α}
    (h : ∀ x ∈ xs, Skipped (f x)) : Skipped (xs.flatMap f) := by
  induction xs with
  | nil => exact .nil
  | cons x xs ih =>
      rw [List.flatMap_cons]
      exact .append (h x List.mem_cons_self) (ih fun y hy => h y (List.mem_cons_of_mem _ hy))

theorem skipped_of_plainName {name : String} (h : PlainName name) : Skipped name.toList := by
  rw [← List.flatMap_singleton' name.toList]
  refine .flatMap fun c hc => .cons ?_ .nil
  have := (h.plain c hc).2
  simp only [List.mem_cons, not_or] at this ⊢
  exact ⟨this.2.1, this.2.2.2.2.1, this.2.2.2.2.2⟩

/-- Inside quotes a tag goes on up to the quote. -/
theorem tagEnd?_quoted {q : Char} {xs : List Char} (h : q ∉ xs) (cs : List Char) :
    tagEnd? (some q) (xs ++ q :: cs)
      = (tagEnd? none cs).map fun (content, rest) => (xs ++ q :: content, rest) := by
  induction xs with
  | nil =>
      rw [List.nil_append, tagEnd?]
      simp
  | cons c xs ih =>
      rw [List.mem_cons, not_or] at h
      rw [List.cons_append, tagEnd?]
      simp only [if_neg (Ne.symm h.1), ih h.2, Option.map_map]
      rfl

theorem skipped_print_attribute {a : Attribute} (h : PlainName a.name) : Skipped a.print := by
  have hquoted : Skipped ('"' :: Reference.encodeValue a.value.toList ++ ['"']) := by
    intro cs
    rw [List.append_assoc, List.singleton_append, List.cons_append, tagEnd?,
      if_neg (by decide), if_pos (by simp), tagEnd?_quoted (Reference.not_mem_encodeValue _),
      Option.map_map]
    simp [Function.comp_def]
  have hsplit : a.print = ' ' :: (a.name.toList
      ++ '=' :: ('"' :: Reference.encodeValue a.value.toList ++ ['"'])) := by
    simp [Attribute.print]
  rw [hsplit]
  exact .cons (by decide) (.append (skipped_of_plainName h) (.cons (by decide) hquoted))

theorem skipped_print {tag : Tag} (h : tag.Writable) : Skipped tag.print :=
  .append (skipped_of_plainName h.name)
    (.flatMap fun a ha => skipped_print_attribute (h.attributes a ha))

/-- No tag is printed to end like that of an empty element. -/
theorem getLast?_print {tag : Tag} (h : tag.Writable) : tag.print.getLast? ≠ some '/' := by
  unfold Tag.print
  rw [List.getLast?_append]
  cases has : tag.attributes.getLast? with
  | none =>
      rw [List.getLast?_eq_none_iff.1 has]
      intro hlast
      have := (h.name.plain '/' (List.mem_of_getLast? (by simpa using hlast))).2
      simp at this
  | some a =>
      -- The last attribute ends with a quote.
      obtain ⟨as, has⟩ := List.getLast?_eq_some_iff.1 has
      rw [has, List.flatMap_append, List.flatMap_singleton, List.getLast?_append, Attribute.print,
        List.getLast?_concat]
      simp

/-- What begins like an element's name is read as a start tag. -/
theorem afterBracket_eq_startTag {tag : Tag} (h : tag.Writable) (hopens : tag.Opens)
    (cs : List Char) : afterBracket (tag.print ++ cs) = startTag (tag.print ++ cs) := by
  obtain ⟨c, name, hname⟩ := h.name.exists_cons
  have hplain := (h.name.plain c (by rw [hname]; exact List.mem_cons_self)).2
  have hc : c ≠ '!' ∧ c ≠ '?' := hopens c (by rw [hname]; rfl)
  simp only [List.mem_cons, not_or] at hplain
  unfold Tag.print
  rw [hname]
  simp only [List.cons_append]
  unfold afterBracket
  split
  · rename_i heq
    exact absurd (List.cons.inj heq).1 hc.1
  · rename_i heq
    exact absurd (List.cons.inj heq).1 hplain.2.2.1
  · rename_i heq
    exact absurd (List.cons.inj heq).1 hc.2
  · rename_i heq
    exact absurd (List.cons.inj heq).1 hc.2
  · rename_i heq
    cases heq
  · rfl

theorem afterBracket_openTag {tag : Tag} (h : tag.Writable) (hopens : tag.Opens)
    (rest : List Char) :
    afterBracket (tag.print ++ '>' :: rest) = .ok (.openTag tag.print, rest) := by
  rw [afterBracket_eq_startTag h hopens, startTag, skipped_print h]
  simp [tagEnd?, getLast?_print h]

theorem afterBracket_emptyTag {tag : Tag} (h : tag.Writable) (hopens : tag.Opens)
    (rest : List Char) :
    afterBracket (tag.print ++ '/' :: '>' :: rest) = .ok (.emptyTag tag.print, rest) := by
  rw [afterBracket_eq_startTag h hopens, startTag, skipped_print h]
  simp [tagEnd?]

theorem endName_of_plainName {name : String} (h : PlainName name) :
    endName name.toList = name.toList := by
  obtain ⟨c, cs, hcs⟩ : ∃ c cs, name.toList.reverse = c :: cs := by
    cases hcs : name.toList.reverse with
    | nil => exact absurd (String.toList_eq_nil_iff.1 (List.reverse_eq_nil_iff.1 hcs)) h.ne_empty
    | cons c cs => exact ⟨c, cs, rfl⟩
  have hc : isSpace c = false :=
    (h.plain c (List.mem_reverse.1 (by rw [hcs]; exact List.mem_cons_self))).1
  unfold endName
  rw [hcs, List.dropWhile_cons_of_neg (by simp [hc])]
  show (c :: cs).reverse = _
  rw [← hcs, List.reverse_reverse]

theorem afterBracket_closeTag {name : String} (h : PlainName name) (rest : List Char) :
    afterBracket ('/' :: name.toList ++ '>' :: rest) = .ok (.closeTag name.toList, rest) := by
  rw [List.cons_append, afterBracket, skipped_of_plainName h]
  simp [tagEnd?, endName_of_plainName h]

/-! ### How a tag begins -/

theorem head?_of_tagEnd? {cs content rest : List Char}
    (h : tagEnd? none cs = some (content, rest)) : ∀ c ∈ content.head?, cs.head? = some c := by
  cases cs with
  | nil => cases h
  | cons c cs =>
      rw [tagEnd?] at h
      split at h
      · cases h
        intro c hc
        cases hc
      · obtain ⟨parts, -, heq⟩ := Option.map_eq_some_iff.1 h
        cases heq
        exact fun _ hc => hc

theorem opens_of_startTag {cs rest : List Char} {token : Token}
    (h : startTag cs = .ok (token, rest)) (hcs : Opens cs) :
    ∃ content, (token = .openTag content ∨ token = .emptyTag content) ∧ Opens content := by
  unfold startTag at h
  split at h
  · cases h
  · rename_i content rest' hend
    have hcontent : Opens content := fun c hc => hcs c (head?_of_tagEnd? hend c hc)
    split at h
    · cases h
      refine ⟨content.dropLast, .inr rfl, fun c hc => hcontent c ?_⟩
      rw [List.head?_dropLast] at hc
      split at hc
      · exact hc
      · cases hc
    · cases h
      exact ⟨content, .inl rfl, hcontent⟩

end Token

theorem Tag.opens_of_read {content : List Char} {tag : Tag} (h : Tag.read content = .ok tag)
    (hcontent : Token.Opens content) : tag.Opens := by
  obtain ⟨as, -, rfl⟩ := exists_of_map_eq_ok h
  intro c hc
  dsimp only at hc
  rw [String.toList_ofList, List.head?_takeWhile, Option.mem_def, Option.filter_eq_some_iff] at hc
  exact hcontent c hc.1

/-! ### Other markup -/

namespace Markup

/-- Whether markup is character data, which there is outside the root element only. -/
def isCharacters : Markup → Bool
  | .characters _ => true
  | _ => false

/-- Markup in angle brackets that is read back from what is printed for it, whatever follows. -/
structure Stable (kept : Markup) : Prop where
  not_characters : kept.isCharacters = false
  reads : ∃ cs, kept.print = '<' :: cs
    ∧ ∀ rest, Token.afterBracket (cs ++ rest) = .ok (.markup kept, rest)

theorem print_comment (body : List Char) :
    print (.comment (.ofList body)) = '<' :: (['!', '-', '-'] ++ (body ++ ['-', '-', '>'])) := by
  show "<!--".toList ++ (String.ofList body).toList ++ "-->".toList = _
  simp

theorem print_cdata (body : List Char) :
    print (.cdata (.ofList body))
      = '<' :: (['!', '[', 'C', 'D', 'A', 'T', 'A', '['] ++ (body ++ [']', ']', '>'])) := by
  show "<![CDATA[".toList ++ (String.ofList body).toList ++ "]]>".toList = _
  simp

theorem print_doctype (body : List Char) :
    print (.doctype (.ofList body)) = '<' :: '!' :: ("DOCTYPE ".toList ++ (body ++ ['>'])) := by
  show "<!DOCTYPE ".toList ++ (String.ofList body).toList ++ ">".toList = _
  simp

theorem isCharacters_instruction (body : String) :
    (Token.instruction body).isCharacters = false := by
  unfold Token.instruction
  split
  · split <;> rfl
  · rfl

/-- Instructions and the declaration are printed alike. -/
theorem print_instruction (body : List Char) :
    print (Token.instruction (.ofList body)) = '<' :: (['?'] ++ (body ++ ['?', '>'])) := by
  have hprint : print (Token.instruction (.ofList body))
      = "<?".toList ++ (String.ofList body).toList ++ "?>".toList := by
    unfold Token.instruction
    split
    · split <;> rfl
    · rfl
  rw [hprint]
  simp

end Markup

namespace Token

theorem upTo_eq_ok_iff {mark : List Char} {fault : MarkupFault} {build : String → Markup}
    {cs rest : List Char} {token : Token} :
    upTo mark fault build cs = .ok (token, rest)
      ↔ ∃ body, cutAt? mark cs = some (body, rest) ∧ token = .markup (build (.ofList body)) := by
  unfold upTo
  split
  · rename_i body rest' hcut
    constructor
    · intro h
      cases h
      exact ⟨body, hcut, rfl⟩
    · rintro ⟨body', hcut', rfl⟩
      rw [hcut] at hcut'
      cases hcut'
      rfl
  · rename_i hcut
    constructor
    · intro h
      cases h
    · rintro ⟨body', hcut', -⟩
      rw [hcut] at hcut'
      cases hcut'

/-- Markup up to a mark ends there whatever follows the mark, so it can be read again behind what
has led to it. -/
theorem stable_of_upTo {mark : List Char} {fault : MarkupFault} {build : String → Markup}
    {cs rest : List Char} {token : Token} (h : upTo mark fault build cs = .ok (token, rest))
    (hbuild : ∀ body, (build body).isCharacters = false) (front : List Char)
    (hprint : ∀ body, (build (.ofList body)).print = '<' :: (front ++ (body ++ mark)))
    (hfront : ∀ body behind, body ++ mark ++ rest = cs →
      afterBracket (front ++ (body ++ mark ++ behind))
        = upTo mark fault build (body ++ mark ++ behind)) :
    ∃ kept, token = .markup kept ∧ kept.Stable := by
  obtain ⟨body, hcut, rfl⟩ := upTo_eq_ok_iff.1 h
  have hcs := append_of_cutAt? hcut
  refine ⟨_, rfl, hbuild _, front ++ (body ++ mark), hprint body, fun behind => ?_⟩
  rw [List.append_assoc, hfront body behind hcs]
  exact upTo_eq_ok_iff.2 ⟨body, cutAt?_append_of_cutAt? (hcs ▸ hcut) behind, rfl⟩

/-! ### Document type declarations -/

/-- Where a document type declaration ends depends on nothing behind the end. -/
theorem doctypeEnd?_append {depth : Nat} {cs content rest : List Char}
    (h : doctypeEnd? depth cs = some (content, rest)) (behind : List Char) :
    doctypeEnd? depth (content ++ '>' :: behind) = some (content, behind) := by
  induction cs generalizing depth content with
  | nil => cases h
  | cons c cs ih =>
      by_cases hend : c = '>' ∧ depth = 0
      · rw [doctypeEnd?, if_pos hend] at h
        cases h
        rw [List.nil_append, doctypeEnd?, if_pos ⟨rfl, hend.2⟩]
      · rw [doctypeEnd?, if_neg hend, Option.map_eq_some_iff] at h
        obtain ⟨⟨content', rest'⟩, h, heq⟩ := h
        cases heq
        rw [List.cons_append, doctypeEnd?, if_neg hend, ih h]
        rfl

/-- Without angle brackets the depth stays. -/
theorem doctypeEnd?_append_of_plain {depth : Nat} {xs : List Char}
    (h : ∀ c ∈ xs, c ≠ '<' ∧ c ≠ '>') (cs : List Char) :
    doctypeEnd? depth (xs ++ cs)
      = (doctypeEnd? depth cs).map fun (content, rest) => (xs ++ content, rest) := by
  induction xs with
  | nil => simp
  | cons c xs ih =>
      obtain ⟨hopen, hclose⟩ := h c List.mem_cons_self
      rw [List.cons_append, doctypeEnd?, if_neg (by simp [hclose]), if_neg hopen, if_neg hclose,
        ih fun d hd => h d (List.mem_cons_of_mem _ hd), Option.map_map]
      rfl

theorem plain_of_isDoctype {xs : List Char}
    (h : xs.map Char.toUpper = ['D', 'O', 'C', 'T', 'Y', 'P', 'E']) :
    ∀ c ∈ xs, c ≠ '<' ∧ c ≠ '>' := by
  intro c hc
  have hmem : c.toUpper ∈ ['D', 'O', 'C', 'T', 'Y', 'P', 'E'] := h ▸ List.mem_map_of_mem hc
  -- An angle bracket is its own capital.
  constructor
  · rintro rfl
    exact absurd hmem (by decide)
  · rintro rfl
    exact absurd hmem (by decide)

theorem exists_of_doctype {cs rest : List Char} {token : Token}
    (h : doctype cs = .ok (token, rest)) :
    ∃ front body, (∀ c ∈ front, c ≠ '<' ∧ c ≠ '>')
      ∧ doctypeEnd? 0 cs = some (front ++ body, rest) ∧ body ≠ []
      ∧ body.dropWhile isSpace = body ∧ token = .markup (.doctype (.ofList body)) := by
  unfold doctype at h
  cases hend : doctypeEnd? 0 cs with
  | none =>
      rw [hend] at h
      cases h
  | some parts =>
      obtain ⟨content, rest'⟩ := parts
      rw [hend] at h
      dsimp only at h
      split at h
      · rename_i hword
        split at h
        · cases h
        · rename_i hbody
          cases h
          refine ⟨content.take 7 ++ (content.drop 7).takeWhile isSpace,
            (content.drop 7).dropWhile isSpace, fun c hc => ?_, ?_, hbody,
            List.dropWhile_idempotent _ _, rfl⟩
          · rcases List.mem_append.1 hc with hc | hc
            · exact plain_of_isDoctype hword c hc
            · have hspace := List.all_eq_true.1 List.all_takeWhile c hc
              constructor <;> rintro rfl <;> cases hspace
          · rw [List.append_assoc, List.takeWhile_append_dropWhile, List.take_append_drop]
      · cases h

theorem doctype_print {body behind : List Char} (hbody : body ≠ [])
    (hfirst : body.dropWhile isSpace = body)
    (hend : doctypeEnd? 0 (body ++ '>' :: behind) = some (body, behind)) :
    doctype ("DOCTYPE ".toList ++ (body ++ '>' :: behind))
      = .ok (.markup (.doctype (.ofList body)), behind) := by
  have hend' : doctypeEnd? 0 ("DOCTYPE ".toList ++ (body ++ '>' :: behind))
      = some ("DOCTYPE ".toList ++ body, behind) := by
    rw [doctypeEnd?_append_of_plain (by simp), hend]
    rfl
  have htake : ("DOCTYPE ".toList ++ body).take 7 = "DOCTYPE".toList := rfl
  have hdrop : ("DOCTYPE ".toList ++ body).drop 7 = ' ' :: body := rfl
  unfold doctype
  rw [hend']
  dsimp only
  rw [htake, hdrop, if_pos (by decide), List.dropWhile_cons_of_pos (by decide), hfirst]
  cases body with
  | nil => exact absurd rfl hbody
  | cons c body => rfl

theorem stable_of_doctype {cs rest : List Char} {token : Token}
    (h : doctype cs = .ok (token, rest)) : ∃ kept, token = .markup kept ∧ kept.Stable := by
  obtain ⟨front, body, hplain, hend, hbody, hfirst, rfl⟩ := exists_of_doctype h
  refine ⟨_, rfl, rfl, '!' :: ("DOCTYPE ".toList ++ (body ++ ['>'])), Markup.print_doctype body,
    fun behind => ?_⟩
  -- What is left out before the body opens no bracket, and neither does what is printed for it.
  have hbodyEnd : doctypeEnd? 0 (body ++ '>' :: behind) = some (body, behind) := by
    have hwhole := doctypeEnd?_append hend behind
    rw [List.append_assoc, doctypeEnd?_append_of_plain hplain, Option.map_eq_some_iff] at hwhole
    obtain ⟨⟨body', behind'⟩, hread, heq⟩ := hwhole
    simp only [Prod.mk.injEq, List.append_cancel_left_eq] at heq
    rw [hread, heq.1, heq.2]
  have hprint : "DOCTYPE ".toList ++ (body ++ ['>']) ++ behind
      = "DOCTYPE ".toList ++ (body ++ '>' :: behind) := by
    rw [List.append_assoc, List.append_assoc, List.singleton_append]
  show doctype ("DOCTYPE ".toList ++ (body ++ ['>']) ++ behind) = _
  rw [hprint, doctype_print hbody hfirst hbodyEnd]

/-! ### All other markup -/

theorem stable_of_declaration {cs rest : List Char} {token : Token}
    (h : declaration cs = .ok (token, rest)) : ∃ kept, token = .markup kept ∧ kept.Stable := by
  unfold declaration at h
  split at h
  · exact stable_of_upTo h (fun _ => rfl) ['!', '-', '-'] Markup.print_comment fun _ _ _ => rfl
  · cases h
  · exact stable_of_upTo h (fun _ => rfl) ['!', '[', 'C', 'D', 'A', 'T', 'A', '[']
      Markup.print_cdata fun _ _ _ => rfl
  · cases h
  · split at h
    · exact stable_of_doctype h
    · cases h
  · cases h

/-- The question mark that begins an instruction does not end it. -/
theorem afterBracket_instruction {cs : List Char} (h : ∀ cs', cs ≠ '>' :: cs') :
    afterBracket ('?' :: cs) = upTo ['?', '>'] .instructionUnclosed instruction cs := by
  rw [afterBracket]
  exact h

theorem stable_of_instruction {cs rest : List Char} {token : Token}
    (hcs : ∀ cs', cs ≠ '>' :: cs')
    (h : upTo ['?', '>'] .instructionUnclosed instruction cs = .ok (token, rest)) :
    ∃ kept, token = .markup kept ∧ kept.Stable := by
  refine stable_of_upTo h Markup.isCharacters_instruction ['?'] Markup.print_instruction
    fun body behind heq => afterBracket_instruction fun cs' hcs' => ?_
  -- The mark comes back behind the same body, so no angle bracket follows the question mark.
  cases body with
  | nil => cases hcs'
  | cons c body =>
      refine hcs (body ++ ['?', '>'] ++ rest) ?_
      rw [← heq, List.cons_append, List.cons_append, (List.cons.inj hcs').1]

/-- What is read behind an opening angle bracket: a tag, or markup that is read back from what is
printed for it. -/
theorem cases_of_afterBracket {cs rest : List Char} {token : Token}
    (h : afterBracket cs = .ok (token, rest)) :
    (∃ content, (token = .openTag content ∨ token = .emptyTag content) ∧ Opens content)
      ∨ (∃ name, token = .closeTag name) ∨ ∃ kept, token = .markup kept ∧ kept.Stable := by
  unfold afterBracket at h
  split at h
  · exact .inr (.inr (stable_of_declaration h))
  · split at h
    · cases h
    · cases h
      exact .inr (.inl ⟨_, rfl⟩)
  · cases h
  · rename_i cs hnot
    exact .inr (.inr (stable_of_instruction hnot h))
  · cases h
  · rename_i hdeclaration _ _ hinstruction _
    refine .inl (opens_of_startTag h fun c hc => ?_)
    cases cs with
    | nil => cases hc
    | cons d cs =>
        cases hc
        exact ⟨fun heq => hdeclaration cs (by rw [heq]), fun heq => hinstruction cs (by rw [heq])⟩

end Token

end MailMerge.Xml
