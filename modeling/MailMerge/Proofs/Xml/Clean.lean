import MailMerge.Proofs.Xml.Building
import MailMerge.Proofs.Xml.Printed

/-!
# `MailMerge.Proofs.Xml.Clean`: what a document that was read looks like

The reader takes character data up to the next angle bracket, so no two texts of a document that was
read are adjacent and none is empty. Its other markup can be read back, and no tag begins like other
markup (`Document.clean_parse`). With names that can be printed such a document is printable and
stays as it is when texts are merged.

The invariant tells the builder and the rest of the source together (`Builder.Clean`): when the last
piece was character data, an angle bracket is next.
-/

set_option autoImplicit false

namespace MailMerge.Xml

/-- An element as the reader makes it: its own tag, other markup and texts. -/
structure Element.Clean (e : Element) : Prop where
  opens : e.toTag.Opens
  stable : ∀ kept, Node.markup kept ∈ e.children → kept.Stable
  tidy : Node.Tidy e.children

/-- A document as the reader makes it. -/
structure Document.Clean (d : Document) : Prop where
  root : d.root.Everywhere Element.Clean
  prolog : Markup.Rows d.prolog
  epilog : Markup.Rows d.epilog

namespace Element.Clean

variable {e : Element}

theorem of_tag {tag : Tag} (h : tag.Opens) : Element.Clean ⟨tag, []⟩ :=
  ⟨h, (fun _ hkept => by cases hkept), .nil⟩

theorem push_element (h : e.Clean) (x : Element) : (e.push x.toNode).Clean := by
  refine ⟨h.opens, fun kept hkept => h.stable kept ?_,
    h.tidy.concat (by simp [toNode]) fun htext => by cases htext⟩
  simpa [push, toNode] using hkept

theorem push_markup (h : e.Clean) {kept : Markup} (hkept : kept.Stable) :
    (e.push (.markup kept)).Clean := by
  refine ⟨h.opens, fun k hk => ?_, h.tidy.concat (by simp) fun htext => by cases htext⟩
  rcases List.mem_append.1 hk with hk | hk
  · exact h.stable k hk
  · simp only [List.mem_singleton, Node.markup.injEq] at hk
    exact hk ▸ hkept

theorem push_text (h : e.Clean) {value : String} (hvalue : value ≠ "")
    (hlast : ∀ last ∈ e.children.getLast?, last.isText = false) :
    (e.push (.text value)).Clean := by
  refine ⟨h.opens, fun kept hkept => h.stable kept ?_,
    h.tidy.concat (by simp [hvalue]) fun _ => hlast⟩
  simpa [push] using hkept

end Element.Clean

/-- What the reader makes of an element is told from what is not inside its child elements. -/
theorem Element.shallow_clean : Shallow Clean := by
  intro e x y index hx h
  refine ⟨h.opens, fun kept hkept => h.stable kept ?_, shallow_tidy e x y index hx h.tidy⟩
  rcases List.mem_or_eq_of_mem_set hkept with hkept | heq
  · exact hkept
  · cases heq

theorem Markup.Rows.nil : Markup.Rows [] := ⟨(fun _ h => by cases h), .nil⟩

theorem Markup.Rows.concat {rows : List Markup} (h : Markup.Rows rows) {kept : Markup}
    (hkept : kept.Stable ∨ ∃ raw, kept = .characters raw ∧ raw ≠ "" ∧ '<' ∉ raw.toList)
    (hapart : kept.isCharacters = true → ∀ last ∈ rows.getLast?, last.isCharacters = false) :
    Markup.Rows (rows ++ [kept]) := by
  refine ⟨fun k hk => ?_, List.isChain_append.2
    ⟨h.apart, List.isChain_singleton _, fun last hlast next hnext hboth => ?_⟩⟩
  · rcases List.mem_append.1 hk with hk | hk
    · exact h.readable k hk
    · rw [List.mem_singleton.1 hk]
      exact hkept
  · cases hnext
    rw [hapart hboth.2 last hlast] at hboth
    cases hboth.1

/-! ### Events -/

namespace Event

/-- An event of character data, inside the named element or outside the root element. -/
inductive Characters : Option String → Event → Prop where
  | inside {name value : String} (hvalue : value ≠ "") : Characters (some name) (.text value)
  | outside {raw : String} (hne : raw ≠ "") (hraw : '<' ∉ raw.toList) :
      Characters none (.markup (.characters raw))

/-- An event of a piece in angle brackets. -/
inductive Bracketed : Option String → Event → Prop where
  | start {innermost : Option String} {tag : Tag} (h : tag.Opens) :
      Bracketed innermost (.start tag)
  | empty {innermost : Option String} {tag : Tag} (h : tag.Opens) :
      Bracketed innermost (.empty tag)
  | close {name : String} : Bracketed (some name) .close
  | markup {innermost : Option String} {kept : Markup} (h : kept.Stable) :
      Bracketed innermost (.markup kept)

/-- Decoding leaves something of what is not empty. -/
theorem ne_nil_of_decode {c : Char} {cs value : List Char}
    (h : Reference.decode (c :: cs) = .ok value) : value ≠ [] := by
  unfold Reference.decode at h
  rw [Reference.decodeFrom] at h
  split at h
  · split at h
    · dsimp only at h
      split at h
      · cases h
      · obtain ⟨_, _, rfl⟩ := exists_of_map_eq_ok h
        exact List.cons_ne_nil _ _
    · cases h
  · obtain ⟨_, _, rfl⟩ := exists_of_map_eq_ok h
    exact List.cons_ne_nil _ _

theorem characters_of_ofToken {innermost : Option String} {c : Char} {cs : List Char}
    {event : Event} (hraw : '<' ∉ c :: cs)
    (h : ofToken innermost (.characters (c :: cs)) = .ok event) : event.Characters innermost := by
  unfold ofToken at h
  cases innermost with
  | none =>
      cases h
      exact .outside (by simp [← String.toList_inj]) (by simpa using hraw)
  | some name =>
      dsimp only at h
      split at h
      · cases h
      · rename_i value hvalue
        cases h
        exact .inside (by simpa [← String.toList_inj] using ne_nil_of_decode hvalue)

theorem bracketed_of_ofToken {innermost : Option String} {cs rest : List Char} {token : Token}
    {event : Event} (htoken : Token.afterBracket cs = .ok (token, rest))
    (h : ofToken innermost token = .ok event) : event.Bracketed innermost := by
  rcases Token.cases_of_afterBracket htoken with
    ⟨content, rfl | rfl, hcontent⟩ | ⟨name, rfl⟩ | ⟨kept, rfl, hkept⟩
  · obtain ⟨tag, htag, rfl⟩ := exists_of_map_eq_ok h
    exact .start (Tag.opens_of_read htag hcontent)
  · obtain ⟨tag, htag, rfl⟩ := exists_of_map_eq_ok h
    exact .empty (Tag.opens_of_read htag hcontent)
  · unfold ofToken at h
    cases innermost with
    | none => cases h
    | some expected =>
        dsimp only at h
        split at h
        · cases h
          exact .close
        · cases h
  · cases h
    exact .markup hkept

/-- An event is a run of character data up to an angle bracket, or a piece in angle brackets. -/
theorem cases_of_next {innermost : Option String} {c : Char} {cs rest : List Char} {event : Event}
    (h : next innermost c cs = .ok (event, rest)) :
    (c ≠ '<' ∧ event.Characters innermost ∧ ∀ d ∈ rest.head?, d = '<')
      ∨ event.Bracketed innermost := by
  unfold next at h
  split at h
  · cases h
  · rename_i token rest' htoken
    obtain ⟨event', hevent, heq⟩ := exists_of_map_eq_ok h
    cases heq
    unfold Token.next at htoken
    split at htoken
    · exact .inr (bracketed_of_ofToken htoken hevent)
    · rename_i hc
      cases htoken
      refine .inl ⟨hc, characters_of_ofToken ?_ hevent, fun d hd => ?_⟩
      · rw [List.mem_cons, not_or]
        refine ⟨Ne.symm hc, fun hmem => ?_⟩
        have := List.all_eq_true.1 List.all_takeWhile _ hmem
        cases this
      · have := List.head?_dropWhile_not Token.isData cs
        rw [hd] at this
        simpa [Token.isData] using this

end Event

/-! ### Building -/

namespace Builder

/-- Whether the last piece of the place where the next one goes is character data. -/
def endsInText (b : Builder) : Bool :=
  match b.frames with
  | frame :: _ => frame.nodes.head?.any Node.isText
  | [] =>
    if b.root.isNone then b.prolog.head?.any Markup.isCharacters
    else b.epilog.head?.any Markup.isCharacters

/-- What has been read so far, before the rest of the source. -/
structure Clean (b : Builder) (rest : List Char) : Prop where
  elements : b.Everywhere Element.Clean
  prolog : Markup.Rows b.prolog.reverse
  epilog : Markup.Rows b.epilog.reverse
  rootless : b.root = none → b.epilog = []
  ended : b.endsInText = true → ∀ c ∈ rest.head?, c = '<'

variable {b b' : Builder} {event : Event}

theorem innermost_eq_none_iff : b.innermost = none ↔ b.frames = [] := by
  unfold innermost
  rw [Option.map_eq_none_iff, List.head?_eq_none_iff]

/-- After an element took its place no character data is last. -/
theorem Placed.endsInText_eq_false {e : Element} (h : b.Placed e b')
    (hrootless : b.root = none → b.epilog = []) : b'.endsInText = false := by
  cases h with
  | inside hframes => rfl
  | root hframes hroot => simp [endsInText, hframes, hrootless hroot]

/-- After a piece in angle brackets no character data is last. -/
theorem endsInText_step {innermost : Option String} (hinnermost : b.innermost = innermost)
    (hevent : event.Bracketed innermost) (hrootless : b.root = none → b.epilog = [])
    (h : b.step event = .ok b') : b'.endsInText = false := by
  have hstepped := stepped_of_step h
  cases hevent with
  | start htag =>
      cases hstepped
      rfl
  | empty htag =>
      cases hstepped with
      | empty hplaced => exact hplaced.endsInText_eq_false hrootless
  | close =>
      cases hstepped with
      | closed hframes hplaced => exact hplaced.endsInText_eq_false hrootless
      | closeOutside hframes =>
          rw [innermost_eq_none_iff.2 hframes] at hinnermost
          cases hinnermost
  | markup hkept =>
      cases hstepped with
      | markup hframes _ => rfl
      | prolog hframes hroot _ => simp [endsInText, hframes, hroot, hkept.not_characters]
      | epilog hframes hroot _ => simp [endsInText, hframes, hroot, hkept.not_characters]

/-- What an event may bring where it is read. -/
structure Suits (b : Builder) (event : Event) : Prop where
  fits : event.Fits Element.Clean b
  outside : ∀ kept, event = .markup kept → b.frames = [] →
    (kept.Stable ∨ ∃ raw, kept = .characters raw ∧ raw ≠ "" ∧ '<' ∉ raw.toList)
      ∧ (kept.isCharacters = true → b.endsInText = false)

theorem suits_of_characters {innermost : Option String} (hinnermost : b.innermost = innermost)
    (hevent : event.Characters innermost) (hclean : b.Everywhere Element.Clean)
    (hlast : b.endsInText = false) : b.Suits event := by
  cases hevent with
  | inside hvalue =>
      refine ⟨fun frame hframe => ?_, fun kept heq => by cases heq⟩
      obtain ⟨frames, hframes⟩ := List.head?_eq_some_iff.1 hframe
      refine (hclean.frames frame (by rw [hframes]; exact List.mem_cons_self)).self.push_text hvalue
        fun last hnode => ?_
      -- The last node of an open element is the one that was read last.
      unfold endsInText at hlast
      rw [hframes] at hlast
      have hhead : frame.nodes.head? = some last := by
        rw [← List.getLast?_reverse]
        exact hnode
      simpa [hhead] using hlast
  | outside hne hraw =>
      have hframes := innermost_eq_none_iff.1 hinnermost
      refine ⟨fun frame hframe => ?_, fun kept heq _ => ?_⟩
      · rw [hframes] at hframe
        cases hframe
      · cases heq
        exact ⟨.inr ⟨_, rfl, hne, hraw⟩, fun _ => hlast⟩

theorem suits_of_bracketed {innermost : Option String} (hevent : event.Bracketed innermost)
    (hclean : b.Everywhere Element.Clean) : b.Suits event := by
  cases hevent with
  | start htag => exact ⟨.of_tag htag, fun kept heq => by cases heq⟩
  | empty htag => exact ⟨.of_tag htag, fun kept heq => by cases heq⟩
  | close => exact ⟨trivial, fun kept heq => by cases heq⟩
  | markup hkept =>
      refine ⟨fun frame hframe => ?_, fun kept heq _ => ?_⟩
      · exact (hclean.frames frame (List.mem_of_head? hframe)).self.push_markup hkept
      · cases heq
        refine ⟨.inl hkept, fun hcharacters => ?_⟩
        rw [hkept.not_characters] at hcharacters
        cases hcharacters

theorem Placed.outside {e : Element} (h : b.Placed e b') :
    b'.prolog = b.prolog ∧ b'.epilog = b.epilog ∧ (b'.root = none → b.root = none) := by
  cases h with
  | inside hframes => exact ⟨rfl, rfl, id⟩
  | root hframes hroot => exact ⟨rfl, rfl, fun _ => hroot⟩

/-- What is outside the root element stays in rows. -/
theorem rows_step {rest : List Char} (h : b.Clean rest) (hsuits : b.Suits event)
    (hstep : b.step event = .ok b') :
    Markup.Rows b'.prolog.reverse ∧ Markup.Rows b'.epilog.reverse
      ∧ (b'.root = none → b'.epilog = []) := by
  have hplaced : ∀ {b₀ : Builder} {e : Element}, b₀.Placed e b' → b₀.prolog = b.prolog →
      b₀.epilog = b.epilog → b₀.root = b.root → Markup.Rows b'.prolog.reverse
        ∧ Markup.Rows b'.epilog.reverse ∧ (b'.root = none → b'.epilog = []) := by
    intro b₀ e hplaced hprolog hepilog hroot
    obtain ⟨hprolog', hepilog', hroot'⟩ := hplaced.outside
    rw [hprolog', hepilog', hprolog, hepilog]
    exact ⟨h.prolog, h.epilog, fun hnone => h.rootless (hroot ▸ hroot' hnone)⟩
  cases stepped_of_step hstep with
  | opened _ => exact ⟨h.prolog, h.epilog, h.rootless⟩
  | empty hempty => exact hplaced hempty rfl rfl rfl
  | closed hframes hclosed => exact hplaced hclosed rfl rfl rfl
  | text _ _ => exact ⟨h.prolog, h.epilog, h.rootless⟩
  | markup _ _ => exact ⟨h.prolog, h.epilog, h.rootless⟩
  | prolog hframes hroot kept =>
      obtain ⟨hkept, hlast⟩ := hsuits.outside kept rfl hframes
      refine ⟨?_, h.epilog, h.rootless⟩
      rw [List.reverse_cons]
      refine h.prolog.concat hkept fun hcharacters last hmem => ?_
      rw [List.getLast?_reverse] at hmem
      simpa [endsInText, hframes, hroot, Option.mem_def.1 hmem] using hlast hcharacters
  | epilog hframes hroot kept =>
      obtain ⟨hkept, hlast⟩ := hsuits.outside kept rfl hframes
      refine ⟨h.prolog, ?_, fun hnone => absurd hnone hroot⟩
      rw [List.reverse_cons]
      refine h.epilog.concat hkept fun hcharacters last hmem => ?_
      rw [List.getLast?_reverse] at hmem
      simpa [endsInText, hframes, hroot, Option.mem_def.1 hmem] using hlast hcharacters
  | closeOutside _ => exact ⟨h.prolog, h.epilog, h.rootless⟩
  | textOutside _ _ => exact ⟨h.prolog, h.epilog, h.rootless⟩

/-- One event keeps what has been read clean. -/
theorem Clean.step {c : Char} {cs rest : List Char} (h : b.Clean (c :: cs))
    (hnext : Event.next b.innermost c cs = .ok (event, rest)) (hstep : b.step event = .ok b') :
    b'.Clean rest := by
  obtain ⟨hsuits, hended⟩ : b.Suits event ∧ (b'.endsInText = true → ∀ d ∈ rest.head?, d = '<') := by
    rcases Event.cases_of_next hnext with ⟨hc, hevent, hrest⟩ | hevent
    · have hlast : b.endsInText = false := by
        rw [← Bool.not_eq_true]
        exact fun hends => hc (h.ended hends c rfl)
      exact ⟨suits_of_characters rfl hevent h.elements hlast, fun _ => hrest⟩
    · refine ⟨suits_of_bracketed hevent h.elements, fun hends => ?_⟩
      rw [endsInText_step rfl hevent h.rootless hstep] at hends
      cases hends
  obtain ⟨hprolog, hepilog, hrootless⟩ := rows_step h hsuits hstep
  exact ⟨h.elements.step (fun e x he => he.push_element x) hsuits.fits hstep, hprolog, hepilog,
    hrootless, hended⟩

end Builder

/-- Every document that was read is clean. -/
theorem Document.clean_parse {source : String} {d : Document} (h : Document.parse source = .ok d) :
    d.Clean := by
  have hempty : Builder.empty.Clean (dropByteOrderMark source.toList) :=
    ⟨Builder.everywhere_empty, .nil, .nil, fun _ => rfl, fun h => by cases h⟩
  obtain ⟨b, hb, hfinish⟩ := Builder.exists_finish_of_read
    (fun _ _ _ _ _ _ h hnext hstep => h.step hnext hstep) hempty h
  obtain ⟨-, root, hroot, rfl⟩ := Builder.finish_eq_ok_iff.1 hfinish
  exact ⟨hb.elements.root root hroot, hb.prolog, hb.epilog⟩

/-! ### Byte-order marks -/

/-- Character data outside the root element begins as the source does. -/
theorem Event.head?_of_next {c : Char} {cs rest : List Char} {raw : String}
    (h : next none c cs = .ok (.markup (.characters raw), rest)) : raw.toList.head? = some c := by
  unfold next at h
  split at h
  · cases h
  · rename_i token rest' htoken
    obtain ⟨event, hevent, heq⟩ := exists_of_map_eq_ok h
    cases heq
    unfold Token.next at htoken
    split at htoken
    · -- A piece in angle brackets is no character data.
      cases bracketed_of_ofToken htoken hevent with
      | markup hkept => cases hkept.not_characters
    · cases htoken
      cases hevent
      rw [String.toList_ofList]
      rfl

namespace Builder

/-- Something has been read, and the first of it is no character data that begins with a byte-order
mark. -/
structure Unmarked (b : Builder) : Prop where
  started : b.prolog ≠ [] ∨ b.frames ≠ [] ∨ b.root ≠ none
  first : ∀ raw, b.prolog.getLast? = some (.characters raw) → raw.toList.head? ≠ some '\uFEFF'

variable {b b' : Builder} {event : Event}

/-- What comes later is not the first. -/
theorem Unmarked.step (h : b.Unmarked) (hstep : b.step event = .ok b') : b'.Unmarked := by
  have hplaced : ∀ {b₀ : Builder} {e : Element}, b₀.Placed e b' → b₀.prolog = b.prolog →
      b'.Unmarked := by
    intro b₀ e hplaced hprolog
    cases hplaced with
    | inside _ => exact ⟨.inr (.inl (List.cons_ne_nil _ _)), hprolog ▸ h.first⟩
    | root _ _ => exact ⟨.inr (.inr (Option.some_ne_none _)), hprolog ▸ h.first⟩
  cases stepped_of_step hstep with
  | opened _ => exact ⟨.inr (.inl (List.cons_ne_nil _ _)), h.first⟩
  | empty hempty => exact hplaced hempty rfl
  | closed hframes hclosed => exact hplaced hclosed rfl
  | text _ _ => exact ⟨.inr (.inl (List.cons_ne_nil _ _)), h.first⟩
  | markup _ _ => exact ⟨.inr (.inl (List.cons_ne_nil _ _)), h.first⟩
  | prolog hframes hroot kept =>
      have hne : b.prolog ≠ [] := by
        rcases h.started with hne | hne | hne
        · exact hne
        · exact absurd hframes hne
        · exact absurd hroot hne
      refine ⟨.inl (List.cons_ne_nil _ _), ?_⟩
      rw [List.getLast?_cons_of_ne_nil hne]
      exact h.first
  | epilog _ hroot _ => exact ⟨.inr (.inr hroot), h.first⟩
  | closeOutside _ => exact h
  | textOutside _ _ => exact h

/-- The first event of a source that does not begin with a byte-order mark. -/
theorem unmarked_of_next {c : Char} {cs rest : List Char} (hc : c ≠ '\uFEFF')
    (hnext : Event.next none c cs = .ok (event, rest)) (hstep : empty.step event = .ok b') :
    b'.Unmarked := by
  cases event with
  | start tag =>
      cases hstep
      exact ⟨.inr (.inl (List.cons_ne_nil _ _)), fun raw hraw => by cases hraw⟩
  | empty tag =>
      cases hstep
      exact ⟨.inr (.inr (Option.some_ne_none _)), fun raw hraw => by cases hraw⟩
  | close =>
      -- Nothing is open, so nothing is closed.
      rcases Event.cases_of_next hnext with ⟨-, hevent, -⟩ | hevent
      · cases hevent
      · cases hevent
  | text value =>
      rcases Event.cases_of_next hnext with ⟨-, hevent, -⟩ | hevent
      · cases hevent
      · cases hevent
  | markup kept =>
      cases hstep
      refine ⟨.inl (List.cons_ne_nil _ _), fun raw hraw => ?_⟩
      cases hraw
      rw [Event.head?_of_next hnext]
      simpa using hc

end Builder

/-- A document that was read begins with a byte-order mark only where its source began with two. -/
theorem Document.not_beginsWithMark_parse {source : String} {d : Document}
    (h : Document.parse source = .ok d)
    (hsource : ¬ ['\uFEFF', '\uFEFF'] <+: source.toList) : ¬ d.BeginsWithMark := by
  have hfront : (dropByteOrderMark source.toList).head? ≠ some '\uFEFF' := by
    intro hhead
    unfold dropByteOrderMark at hhead
    split at hhead
    · rename_i cs hcs
      obtain ⟨rest, rfl⟩ := List.head?_eq_some_iff.1 hhead
      exact hsource (hcs ▸ ⟨rest, rfl⟩)
    · rename_i cs hcs
      obtain ⟨rest, hrest⟩ := List.head?_eq_some_iff.1 hhead
      exact hcs rest hrest
  obtain ⟨b, hb, hfinish⟩ := Builder.exists_finish_of_read
    (I := fun b cs => b = Builder.empty ∧ cs = dropByteOrderMark source.toList ∨ b.Unmarked)
    (fun b b' c cs rest event hb hnext hstep => by
      rcases hb with ⟨rfl, hcs⟩ | hb
      · refine .inr (Builder.unmarked_of_next (fun hc => hfront ?_) hnext hstep)
        rw [← hcs, hc]
        rfl
      · exact .inr (hb.step hstep)) (.inl ⟨rfl, rfl⟩) h
  obtain ⟨-, root, hroot, rfl⟩ := Builder.finish_eq_ok_iff.1 hfinish
  rintro ⟨raw, hraw, hmark⟩
  rw [List.head?_reverse] at hraw
  rcases hb with ⟨rfl, -⟩ | hb
  · cases hroot
  · exact hb.first raw hraw hmark

end MailMerge.Xml
