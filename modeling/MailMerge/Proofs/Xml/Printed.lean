import MailMerge.Proofs.Xml.Merged
import MailMerge.Proofs.Xml.Pieces

/-!
# `MailMerge.Proofs.Xml.Printed`: a printed document is read back merged

The reader goes over a printed tree piece by piece. A printed element leaves the builder as if the
element, merged, had been placed at once (`Element.ReadsBack`), whatever is open around it and
whatever follows. Adjacent texts are one run of character data, so the induction over the nodes of
an element carries the text that has been printed but not yet read.

* `Element.readsBack`: every printable element reads back.
* `Document.parse_print_of_printable`: a printable document reads back merged.
-/

set_option autoImplicit false

namespace MailMerge.Xml

/-! ### What can be printed -/

/-- An element whose own tag and other markup can be read back. -/
structure Element.Printable (e : Element) : Prop where
  writable : e.toTag.Writable
  opens : e.toTag.Opens
  distinct : e.toTag.Distinct
  stable : ∀ kept, Node.markup kept ∈ e.children → kept.Stable

/-- Markup before or behind the root element that is read back row by row: of two rows at most one
is character data. -/
structure Markup.Rows (rows : List Markup) : Prop where
  readable : ∀ kept ∈ rows,
    kept.Stable ∨ ∃ raw, kept = .characters raw ∧ raw ≠ "" ∧ '<' ∉ raw.toList
  apart : rows.IsChain fun a b => ¬ (a.isCharacters ∧ b.isCharacters)

/-- The document begins with a byte-order mark, which a reader takes for no part of it. -/
def Document.BeginsWithMark (d : Document) : Prop :=
  ∃ raw, d.prolog.head? = some (.characters raw) ∧ raw.toList.head? = some '\uFEFF'

/-- A document all of which can be read back. -/
structure Document.Printable (d : Document) : Prop where
  root : d.root.Everywhere Element.Printable
  prolog : Markup.Rows d.prolog
  epilog : Markup.Rows d.epilog
  unmarked : ¬ d.BeginsWithMark

/-! ### One piece -/

namespace Builder

theorem read_cons {b b' : Builder} {c : Char} {cs rest : List Char} {event : Event}
    (hnext : Event.next b.innermost c cs = .ok (event, rest)) (hstep : b.step event = .ok b') :
    b.read (c :: cs) = b'.read rest := by
  rw [read]
  split
  · rename_i heq
    rw [hnext] at heq
    cases heq
  · rename_i heq
    rw [hnext] at heq
    cases heq
    rw [hstep]

theorem read_bracket {b b' : Builder} {cs rest : List Char} {token : Token} {event : Event}
    (htoken : Token.afterBracket cs = .ok (token, rest))
    (hevent : Event.ofToken b.innermost token = .ok event) (hstep : b.step event = .ok b') :
    b.read ('<' :: cs) = b'.read rest := by
  refine read_cons ?_ hstep
  unfold Event.next Token.next
  rw [if_pos rfl, htoken]
  show (Event.ofToken b.innermost token).map (·, rest) = _
  rw [hevent]
  rfl

/-- Character data is one piece up to what is not. -/
theorem read_characters {b b' : Builder} {raw rest : List Char} {event : Event} (hne : raw ≠ [])
    (hraw : '<' ∉ raw) (hrest : ∀ c ∈ rest.head?, c = '<')
    (hevent : Event.ofToken b.innermost (.characters raw) = .ok event)
    (hstep : b.step event = .ok b') : b.read (raw ++ rest) = b'.read rest := by
  cases raw with
  | nil => exact absurd rfl hne
  | cons c cs =>
      rw [List.mem_cons, not_or] at hraw
      have hdata : ∀ d ∈ cs, Token.isData d = true := by
        intro d hd
        unfold Token.isData
        rw [bne_iff_ne]
        rintro rfl
        exact hraw.2 hd
      have htake : (cs ++ rest).takeWhile Token.isData = cs := by
        rw [List.takeWhile_append_of_pos hdata]
        cases rest with
        | nil => simp
        | cons d rest => rw [hrest d rfl, List.takeWhile_cons_of_neg (by decide), List.append_nil]
      have hdrop : (cs ++ rest).dropWhile Token.isData = rest := by
        rw [List.dropWhile_append_of_pos hdata]
        cases rest with
        | nil => rfl
        | cons d rest => rw [hrest d rfl, List.dropWhile_cons_of_neg (by decide)]
      rw [List.cons_append]
      refine read_cons ?_ hstep
      have htoken : Token.next c (cs ++ rest) = .ok (.characters (c :: cs), rest) := by
        unfold Token.next
        rw [if_neg (Ne.symm hraw.1), htake, hdrop]
      unfold Event.next
      rw [htoken]
      show (Event.ofToken b.innermost (.characters (c :: cs))).map (·, rest) = _
      rw [hevent]
      rfl

end Builder

/-- Inside an element encoded text is read decoded. -/
theorem Event.ofToken_encodeText (name value : String) :
    Event.ofToken (some name) (.characters (Reference.encodeText value.toList))
      = .ok (.text value) := by
  unfold Event.ofToken
  dsimp only
  rw [Reference.decode_encodeText]
  dsimp only
  rw [String.ofList_toList]

/-! ### Inside an element -/

namespace Builder

/-- The builder with an element open in which some nodes have been read. -/
def within (b : Builder) (tag : Tag) (nodes : List Node) : Builder :=
  { b with frames := ⟨tag, nodes.reverse⟩ :: b.frames }

variable {b : Builder} {tag : Tag} {nodes : List Node}

theorem placeElement_within (e : Element) :
    (b.within tag nodes).placeElement e = .ok (b.within tag (nodes ++ [e.toNode])) := by
  simp [within, placeElement, Frame.push]

theorem step_text_within (value : String) :
    (b.within tag nodes).step (.text value) = .ok (b.within tag (nodes ++ [.text value])) := by
  simp [within, step, placeText, Frame.push]

theorem step_markup_within (kept : Markup) :
    (b.within tag nodes).step (.markup kept) = .ok (b.within tag (nodes ++ [.markup kept])) := by
  simp [within, step, placeMarkup, Frame.push]

/-- The end of an open element places the element. -/
theorem step_close_within :
    (b.within tag nodes).step .close = b.placeElement ⟨tag, nodes⟩ := by
  simp [within, step]

/-- Text is read as one node, or as none where it is empty. -/
theorem read_text_within {rest : List Char} (hrest : rest.head? = some '<') (value : String) :
    (b.within tag nodes).read (Reference.encodeText value.toList ++ rest)
      = (b.within tag (nodes ++ Node.joinText value [])).read rest := by
  by_cases hvalue : value = ""
  · subst hvalue
    rw [Node.joinText_empty, List.append_nil]
    rfl
  · have hjoin : Node.joinText value [] = [.text value] := if_neg hvalue
    rw [hjoin]
    have hne : value.toList ≠ [] := fun hnil => hvalue (String.toList_eq_nil_iff.1 hnil)
    refine read_characters (Reference.encodeText_ne_nil hne) (Reference.not_mem_encodeText _)
      (fun c hc => ?_) (Event.ofToken_encodeText tag.name value) (step_text_within value)
    rw [hrest, Option.mem_some_iff] at hc
    exact hc.symm

end Builder

/-! ### Trees -/

/-- The printed element is read as if it were placed at once, merged. -/
def Element.ReadsBack (e : Element) : Prop :=
  ∀ (b b' : Builder) (rest : List Char), b.placeElement e.merged = .ok b' →
    b.read (e.toNode.print ++ rest) = b'.read rest

namespace Element

theorem print_toNode_of_nil {e : Element} (h : e.children = []) (rest : List Char) :
    e.toNode.print ++ rest = '<' :: (e.toTag.print ++ '/' :: '>' :: rest) := by
  unfold toNode
  rw [Node.print, h]
  simp [Tag.enclose]

theorem print_toNode_of_ne_nil {e : Element} (h : e.children ≠ []) (rest : List Char) :
    e.toNode.print ++ rest
      = '<' :: (e.toTag.print
          ++ '>' :: (Node.printAll e.children
            ++ '<' :: ('/' :: e.name.toList ++ '>' :: rest))) := by
  unfold toNode
  rw [Node.print, List.isEmpty_eq_false_iff.2 h]
  simp [Tag.enclose]

/-- What is printed for an element begins with an angle bracket. -/
theorem head?_print (e : Element) (rest : List Char) :
    (e.toNode.print ++ rest).head? = some '<' := by
  by_cases h : e.children = []
  · rw [print_toNode_of_nil h]
    rfl
  · rw [print_toNode_of_ne_nil h]
    rfl

end Element

/-- Nodes are read back behind the text that is still to be read. -/
theorem Builder.read_printAll {tag : Tag} {nodes : List Node}
    (helements : ∀ e : Element, e.toNode ∈ nodes → e.ReadsBack)
    (hstable : ∀ kept, Node.markup kept ∈ nodes → kept.Stable) (b : Builder) (before : List Node)
    (pending : String) {rest : List Char} (hrest : rest.head? = some '<') :
    (b.within tag before).read
        (Reference.encodeText pending.toList ++ (Node.printAll nodes ++ rest))
      = (b.within tag (before ++ Node.joinText pending (Node.mergedAll nodes))).read rest := by
  induction nodes generalizing before pending with
  | nil =>
      rw [Node.printAll, List.nil_append, Builder.read_text_within hrest, Node.mergedAll]
  | cons node nodes ih =>
      have ih := ih (fun e he => helements e (List.mem_cons_of_mem _ he))
        fun kept hkept => hstable kept (List.mem_cons_of_mem _ hkept)
      -- What is not a text ends the text before it.
      have hflush : ∀ others : List Node, (∀ other ∈ others.head?, other.isText = false) →
          before ++ Node.joinText pending others
            = before ++ Node.joinText pending [] ++ others := by
        intro others hothers
        rw [List.append_assoc, Node.joinText_of_head hothers, Node.joinText_nil]
        split
        · rfl
        · rfl
      rw [Node.printAll, List.append_assoc]
      rcases node.cases_toNode with ⟨value, rfl⟩ | ⟨kept, rfl⟩ | ⟨e, rfl⟩
      · -- A text joins the text that is still to be read.
        rw [Node.mergedAll_cons_text, Node.joinText_joinText, ← ih before (pending ++ value),
          Node.print, String.toList_append, Reference.encodeText_append, List.append_assoc]
      · obtain ⟨-, cs, hprint, hread⟩ := hstable kept List.mem_cons_self
        rw [Node.mergedAll_cons_markup, hflush _ (by simp), Node.print, hprint, List.cons_append,
          Builder.read_text_within rfl,
          Builder.read_bracket (hread _) rfl (Builder.step_markup_within kept)]
        have := ih (before ++ Node.joinText pending [] ++ [.markup kept]) ""
        rw [Node.joinText_empty, List.append_assoc _ [_]] at this
        exact this
      · rw [Node.mergedAll_cons_toNode, hflush _ (by simp),
          Builder.read_text_within (e.head?_print _),
          helements e List.mem_cons_self _ _ _ (Builder.placeElement_within e.merged)]
        have := ih (before ++ Node.joinText pending [] ++ [e.merged.toNode]) ""
        rw [Node.joinText_empty, List.append_assoc _ [_]] at this
        exact this

/-- Every printable element reads back. -/
theorem Element.readsBack {e : Element} (h : e.Everywhere Element.Printable) : e.ReadsBack := by
  induction e using induction_of_mem with
  | step e ih =>
      obtain ⟨hself, hchildren⟩ := everywhere_iff_of_mem.1 h
      intro b b' rest hplace
      have htag := Tag.read_print hself.writable hself.distinct
      by_cases hempty : e.children = []
      · -- The tag of an empty element places the element.
        have hmerged : e.merged = ⟨e.toTag, []⟩ := by
          unfold merged
          rw [hempty, Node.mergedAll]
        have hevent : Event.ofToken b.innermost (.emptyTag e.toTag.print)
            = .ok (.empty e.toTag) := by
          show (Tag.read e.toTag.print).map Event.empty = _
          rw [htag]
          rfl
        rw [print_toNode_of_nil hempty]
        rw [hmerged] at hplace
        exact Builder.read_bracket (Token.afterBracket_emptyTag hself.writable hself.opens rest)
          hevent hplace
      · rw [print_toNode_of_ne_nil hempty]
        have hstart : Event.ofToken b.innermost (.openTag e.toTag.print)
            = .ok (.start e.toTag) := by
          show (Tag.read e.toTag.print).map Event.start = _
          rw [htag]
          rfl
        have hclose : Event.ofToken (some e.name) (.closeTag e.name.toList) = .ok .close := by
          show (if e.name = String.ofList e.name.toList then _ else _) = _
          rw [if_pos (String.ofList_toList).symm]
        -- The start tag opens the element, the nodes are read inside it, and the end tag places it.
        have hopen : b.step (.start e.toTag) = .ok (b.within e.toTag []) := rfl
        rw [Builder.read_bracket (Token.afterBracket_openTag hself.writable hself.opens _) hstart
          hopen]
        have hnodes : (b.within e.toTag []).read (Node.printAll e.children
              ++ '<' :: ('/' :: e.name.toList ++ '>' :: rest))
            = (b.within e.toTag ([] ++ Node.joinText "" (Node.mergedAll e.children))).read
                ('<' :: ('/' :: e.name.toList ++ '>' :: rest)) :=
          Builder.read_printAll (fun x hx => ih x hx (hchildren x hx)) hself.stable b [] "" rfl
        rw [hnodes, Node.joinText_empty, List.nil_append]
        exact Builder.read_bracket (Token.afterBracket_closeTag hself.writable.name rest) hclose
          (Builder.step_close_within.trans hplace)

/-! ### Documents -/

namespace Builder

theorem frames_placeMarkup {b : Builder} (h : b.frames = []) (kept : Markup) :
    (b.placeMarkup kept).frames = [] := by
  unfold placeMarkup
  rw [h]
  dsimp only
  split
  · rfl
  · rfl

/-- Markup outside the root element is read row by row. -/
theorem read_rows {rows : List Markup} (h : Markup.Rows rows) {b : Builder} (hb : b.frames = [])
    {rest : List Char} (hrest : ∀ c ∈ rest.head?, c = '<') :
    b.read (rows.flatMap Markup.print ++ rest) = (rows.foldl placeMarkup b).read rest := by
  induction rows generalizing b with
  | nil => rfl
  | cons kept rows ih =>
      obtain ⟨hnext, hapart⟩ := List.isChain_cons.1 h.apart
      have ih := ih ⟨fun k hk => h.readable k (List.mem_cons_of_mem _ hk), hapart⟩
        (frames_placeMarkup hb kept)
      rw [List.flatMap_cons, List.append_assoc, List.foldl_cons, ← ih]
      rcases h.readable kept List.mem_cons_self with ⟨-, cs, hprint, hread⟩ | ⟨raw, rfl, hne, hraw⟩
      · rw [hprint, List.cons_append]
        exact read_bracket (hread _) rfl rfl
      · -- After character data comes other markup, or what follows all rows.
        have hhead : ∀ c ∈ (rows.flatMap Markup.print ++ rest).head?, c = '<' := by
          cases rows with
          | nil => exact hrest
          | cons other rows =>
              rcases h.readable other (by simp) with ⟨-, cs, hprint, -⟩ | ⟨raw', rfl, -⟩
              · intro c hc
                rw [List.flatMap_cons, hprint] at hc
                simpa using hc.symm
              · exact absurd ⟨rfl, rfl⟩ (hnext (.characters raw') rfl)
        have hevent : Event.ofToken b.innermost (.characters raw.toList)
            = .ok (.markup (.characters raw)) := by
          unfold innermost
          rw [hb]
          show Except.ok (Event.markup (.characters (.ofList raw.toList))) = _
          rw [String.ofList_toList]
        exact read_characters (fun hnil => hne (String.toList_eq_nil_iff.1 hnil)) hraw hhead hevent
          rfl

theorem foldl_placeMarkup_prolog (rows prolog epilog : List Markup) :
    rows.foldl placeMarkup ⟨[], prolog, none, epilog⟩
      = ⟨[], rows.reverse ++ prolog, none, epilog⟩ := by
  induction rows generalizing prolog with
  | nil => rfl
  | cons kept rows ih =>
      rw [List.foldl_cons, List.reverse_cons, List.append_assoc]
      exact ih (kept :: prolog)

theorem foldl_placeMarkup_epilog (rows prolog epilog : List Markup) (root : Element) :
    rows.foldl placeMarkup ⟨[], prolog, some root, epilog⟩
      = ⟨[], prolog, some root, rows.reverse ++ epilog⟩ := by
  induction rows generalizing epilog with
  | nil => rfl
  | cons kept rows ih =>
      rw [List.foldl_cons, List.reverse_cons, List.append_assoc]
      exact ih (kept :: epilog)

end Builder

theorem dropByteOrderMark_eq_self {cs : List Char} (h : cs.head? ≠ some '\uFEFF') :
    dropByteOrderMark cs = cs := by
  unfold dropByteOrderMark
  split
  · exact absurd rfl h
  · rfl

namespace Document

theorem toList_print (d : Document) :
    d.print.toList = d.prolog.flatMap Markup.print
      ++ (d.root.toNode.print ++ d.epilog.flatMap Markup.print) := by
  unfold print
  rw [String.toList_ofList, List.append_assoc]

/-- Only character data can begin with a byte-order mark. -/
theorem head?_print {d : Document} (h : d.Printable) : d.print.toList.head? ≠ some '\uFEFF' := by
  rw [toList_print]
  cases hprolog : d.prolog with
  | nil =>
      rw [List.flatMap_nil, List.nil_append, Element.head?_print]
      decide
  | cons kept rows =>
      rw [List.flatMap_cons]
      rcases h.prolog.readable kept (by rw [hprolog]; exact List.mem_cons_self) with
        ⟨-, cs, hprint, -⟩ | ⟨raw, rfl, hne, -⟩
      · rw [hprint]
        simp
      · intro hmark
        refine h.unmarked ⟨raw, by rw [hprolog]; rfl, ?_⟩
        cases hraw : raw.toList with
        | nil => exact absurd (String.toList_eq_nil_iff.1 hraw) hne
        | cons c cs =>
            have hprint : Markup.print (.characters raw) = c :: cs := hraw
            rw [hprint] at hmark
            simpa using hmark

/-- A printable document reads back merged. -/
theorem parse_print_of_printable {d : Document} (h : d.Printable) :
    Document.parse d.print = .ok d.merged := by
  have hroot := Element.readsBack h.root ⟨[], d.prolog.reverse, none, []⟩
    ⟨[], d.prolog.reverse, some d.root.merged, []⟩ (d.epilog.flatMap Markup.print) rfl
  unfold parse
  rw [dropByteOrderMark_eq_self (head?_print h), toList_print,
    Builder.read_rows h.prolog rfl (fun c hc => by
      rw [Element.head?_print, Option.mem_some_iff] at hc
      exact hc.symm),
    Builder.empty, Builder.foldl_placeMarkup_prolog, List.append_nil, hroot]
  have hend : ∀ c ∈ ([] : List Char).head?, c = '<' := by simp
  rw [← List.append_nil (d.epilog.flatMap Markup.print), Builder.read_rows h.epilog rfl hend,
    Builder.foldl_placeMarkup_epilog, List.append_nil, Builder.read]
  simp [Builder.finish, merged]

end Document

end MailMerge.Xml
