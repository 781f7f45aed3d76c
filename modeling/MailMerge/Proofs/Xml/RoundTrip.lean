import MailMerge.Proofs.Xml.Clean

/-!
# `MailMerge.Proofs.Xml.RoundTrip`: what is printed is read back, also after edits

A document that was read and then edited prints to a source that is read as the document with its
empty texts dropped and its adjacent texts merged (`Document.parse_print`). Texts and values may be
any strings; names have to be such that they end where they are printed to end. A document that was
not edited is read back as it is.

Edits add no markup other than elements and texts, and they keep attribute names distinct, so all
that printing needs stays from the source (`Document.Edited.sound`).
-/

set_option autoImplicit false

namespace MailMerge.Xml

/-! ### Edits -/

/-- An edit of an element. -/
inductive Edit where
  | setText (value : String)
  | setAttribute (name value : String)
  | removeAttribute (name : String)
  | pushText (value : String)
  | pushElement (e : Element)

/-- The element after an edit. -/
def Edit.apply (edit : Edit) (e : Element) : Element :=
  match edit with
  | .setText value => e.setText value
  | .setAttribute name value => e.setAttribute name value
  | .removeAttribute name => e.removeAttribute name
  | .pushText value => e.push (.text value)
  | .pushElement x => e.push x.toNode

/-- An element that can be had: a new one, one of a document that was read, or one of these after
edits at paths. -/
inductive Element.Made : Element → Prop where
  | ofName (name : String) : Made (.ofName name)
  | read {source : String} {d : Document} (h : Document.parse source = .ok d) {path : Path}
      {e : Element} (he : d.root.get? path = some e) : Made e
  | edited {e : Element} (h : Made e) (edit : Edit)
      (hedit : ∀ x, edit = .pushElement x → Made x) (path : Path) :
      Made (e.modify edit.apply path)

/-- A document after an edit of the element at a path. -/
def Document.edit (d : Document) (edit : Edit) (path : Path) : Document :=
  { d with root := d.root.modify edit.apply path }

/-- A document that was read and then edited any number of times. -/
inductive Document.Edited : Document → Prop where
  | read {source : String} {d : Document} (h : Document.parse source = .ok d) : Edited d
  | edit {d : Document} (h : Edited d) (edit : Edit)
      (hedit : ∀ x, edit = .pushElement x → x.Made) (path : Path) : Edited (d.edit edit path)

/-! ### What edits keep -/

/-- An element that can be printed if its names can. -/
structure Element.Sound (e : Element) : Prop where
  distinct : e.toTag.Distinct
  stable : ∀ kept, Node.markup kept ∈ e.children → kept.Stable

namespace Element

theorem shallow_sound : Shallow Sound := by
  intro e x y index _ h
  refine ⟨h.distinct, fun kept hkept => h.stable kept ?_⟩
  rcases List.mem_or_eq_of_mem_set hkept with hkept | heq
  · exact hkept
  · cases heq

theorem distinct_setAttribute {e : Element} (h : e.toTag.Distinct) (name value : String) :
    (e.setAttribute name value).toTag.Distinct := by
  show ((setAttribute.set name value e.attributes).map (·.name)).Nodup
  rw [names_set]
  split
  · exact h
  · rename_i hmem
    rw [← List.concat_eq_append, List.nodup_concat]
    exact ⟨hmem, h⟩

theorem distinct_removeAttribute {e : Element} (h : e.toTag.Distinct) (name : String) :
    (e.removeAttribute name).toTag.Distinct :=
  List.Nodup.sublist (List.eraseP_sublist.map _) h

theorem sound_push {e : Element} (h : e.Sound) {node : Node} (hnode : ∀ kept, node ≠ .markup kept) :
    (e.push node).Sound := by
  refine ⟨h.distinct, fun kept hkept => ?_⟩
  rcases List.mem_append.1 hkept with hkept | hkept
  · exact h.stable kept hkept
  · exact absurd (List.mem_singleton.1 hkept).symm (hnode kept)

theorem markup_not_mem_setText (e : Element) (value : String) (kept : Markup) :
    Node.markup kept ∉ (e.setText value).children := by
  unfold setText
  dsimp only
  split
  · exact List.not_mem_nil
  · simp

/-- An edit keeps an element sound, here and below. -/
theorem everywhere_sound_apply {e : Element} (h : e.Everywhere Sound) {edit : Edit}
    (hedit : ∀ x, edit = .pushElement x → x.Everywhere Sound) :
    (edit.apply e).Everywhere Sound := by
  cases edit with
  | setText value =>
      exact .of_plain ⟨h.self.distinct, fun kept hkept =>
        absurd hkept (e.markup_not_mem_setText value kept)⟩ (e.childAt?_setText value)
  | setAttribute name value =>
      exact h.of_children_eq ⟨distinct_setAttribute h.self.distinct name value, h.self.stable⟩ rfl
  | removeAttribute name =>
      exact h.of_children_eq ⟨distinct_removeAttribute h.self.distinct name, h.self.stable⟩ rfl
  | pushText value =>
      exact h.push (sound_push h.self fun kept heq => by cases heq) fun x heq => by cases heq
  | pushElement x =>
      refine h.push (sound_push h.self fun kept heq => by cases heq) fun y heq => ?_
      exact toNode_inj.1 heq ▸ hedit x rfl

end Element

/-- Every document that was read is sound. -/
theorem Document.everywhere_sound_parse {source : String} {d : Document}
    (h : Document.parse source = .ok d) : d.root.Everywhere Element.Sound :=
  fun path x hx => ⟨distinctAttributes_parse h path x hx, ((clean_parse h).root path x hx).stable⟩

theorem Element.Made.sound {e : Element} (h : e.Made) : e.Everywhere Element.Sound := by
  induction h with
  | ofName name =>
      exact .of_plain ⟨List.nodup_nil, fun kept hkept => by cases hkept⟩ fun index => rfl
  | read h he => exact (Document.everywhere_sound_parse h).get? he
  | edited h edit hedit path ih ihedit =>
      exact ih.modify shallow_sound fun x _ hx => everywhere_sound_apply hx ihedit

/-- Edits keep all that printing needs of a document. -/
theorem Document.Edited.sound {d : Document} (h : d.Edited) :
    d.root.Everywhere Element.Sound ∧ Markup.Rows d.prolog ∧ Markup.Rows d.epilog := by
  induction h with
  | read h => exact ⟨everywhere_sound_parse h, (clean_parse h).prolog, (clean_parse h).epilog⟩
  | edit h edit hedit path ih =>
      obtain ⟨hroot, hprolog, hepilog⟩ := ih
      refine ⟨hroot.modify Element.shallow_sound fun x _ hx => ?_, hprolog, hepilog⟩
      exact Element.everywhere_sound_apply hx fun y hy => (hedit y hy).sound

/-! ### Documents that are read back as they are -/

/-- An element that is read back as it is. -/
structure Element.Settled (e : Element) : Prop where
  clean : e.Clean
  distinct : e.toTag.Distinct
  writable : e.toTag.Writable

namespace Element

theorem shallow_settled : Shallow Settled := fun e x y index hx h =>
  ⟨shallow_clean e x y index hx h.clean, h.distinct, h.writable⟩

theorem Settled.setText {e : Element} (h : e.Settled) (value : String) :
    (e.setText value).Settled := by
  refine ⟨⟨h.clean.opens, fun kept hkept => absurd hkept (e.markup_not_mem_setText value kept), ?_⟩,
    h.distinct, h.writable⟩
  unfold Element.setText
  dsimp only
  split
  · exact .nil
  · rename_i hvalue
    exact Node.Tidy.nil.concat (by simpa using hvalue) fun _ last hlast => by cases hlast

theorem Settled.setAttribute {e : Element} (h : e.Settled) {name : String} (hname : PlainName name)
    (value : String) : (e.setAttribute name value).Settled := by
  refine ⟨⟨h.clean.opens, h.clean.stable, h.clean.tidy⟩,
    distinct_setAttribute h.distinct name value, h.writable.name, fun a ha => ?_⟩
  have hmem : a.name ∈ (setAttribute.set name value e.attributes).map (·.name) :=
    List.mem_map_of_mem ha
  have hold : a.name ∈ e.attributes.map (·.name) → PlainName a.name := by
    intro hold
    obtain ⟨b, hb, heq⟩ := List.mem_map.1 hold
    exact heq ▸ h.writable.attributes b hb
  rw [names_set] at hmem
  split at hmem
  · exact hold hmem
  · rcases List.mem_append.1 hmem with hmem | hmem
    · exact hold hmem
    · exact List.mem_singleton.1 hmem ▸ hname

end Element

namespace Document

theorem everywhere_settled_parse {source : String} {d : Document}
    (h : Document.parse source = .ok d) (hnames : d.root.Everywhere fun x => x.toTag.Writable) :
    d.root.Everywhere Element.Settled :=
  fun path x hx => ⟨(clean_parse h).root path x hx, distinctAttributes_parse h path x hx,
    hnames path x hx⟩

/-- A document all of whose elements are read back as they are is read back as it is. -/
theorem parse_print_of_settled {d : Document} (hroot : d.root.Everywhere Element.Settled)
    (hprolog : Markup.Rows d.prolog) (hepilog : Markup.Rows d.epilog)
    (hmark : ¬ d.BeginsWithMark) : Document.parse d.print = .ok d := by
  have hprintable : d.root.Everywhere Element.Printable := hroot.imp fun x hx =>
    ⟨hx.writable, hx.clean.opens, hx.distinct, hx.clean.stable⟩
  have hmerged : d.merged = d := by
    unfold merged
    rw [Element.merged_of_tidy (hroot.imp fun x hx => hx.clean.tidy)]
  rw [parse_print_of_printable ⟨hprintable, hprolog, hepilog, hmark⟩, hmerged]

/-! ### The round trip -/

/-- What is printed for a document that was read and then edited is read as the document with its
texts merged. A document that was only read is read back as it is, and so is its source. -/
theorem parse_print {d : Document} (h : d.Edited)
    (hnames : d.root.Everywhere fun x => x.toTag.Writable ∧ x.toTag.Opens)
    (hmark : ¬ d.BeginsWithMark) :
    Document.parse d.print = .ok d.merged
      ∧ ∀ source, Document.parse source = .ok d →
          Document.parse d.print = .ok d ∧ (Document.parse d.print).map print = .ok d.print := by
  obtain ⟨hroot, hprolog, hepilog⟩ := h.sound
  have hprintable : d.Printable := by
    refine ⟨fun path x hx => ?_, hprolog, hepilog, hmark⟩
    obtain ⟨hwritable, hopens⟩ := hnames path x hx
    exact ⟨hwritable, hopens, (hroot path x hx).distinct, (hroot path x hx).stable⟩
  refine ⟨parse_print_of_printable hprintable, fun source hsource => ?_⟩
  have hsettled := everywhere_settled_parse hsource (hnames.imp fun _ hx => hx.1)
  rw [parse_print_of_settled hsettled hprolog hepilog hmark]
  exact ⟨rfl, rfl⟩

/-- A document whose texts and values hold quotes, markup and nothing. -/
def quoted : Document :=
  ((((⟨[], ⟨⟨"a", []⟩, [.text "x", .element ⟨"b", []⟩ []]⟩, []⟩ : Document).edit
    (.setAttribute "k" "<'\"") [1]).edit (.pushText "<&>") []).edit (.pushText "") []).edit
      (.pushText "]]>") []

/-- The two texts at the end are read as one. -/
theorem parse_print_quoted :
    Document.parse "<a>x<b/></a>" = .ok ⟨[], ⟨⟨"a", []⟩, [.text "x", .element ⟨"b", []⟩ []]⟩, []⟩
      ∧ Document.parse quoted.print = .ok ⟨[], ⟨⟨"a", []⟩,
          [.text "x", .element ⟨"b", [⟨"k", "<'\""⟩]⟩ [], .text "<&>]]>"]⟩, []⟩ := by
  have hread : Document.parse "<a>x<b/></a>"
      = .ok ⟨[], ⟨⟨"a", []⟩, [.text "x", .element ⟨"b", []⟩ []]⟩, []⟩ := by
    decide +kernel
  have hedited : quoted.Edited :=
    ((((Edited.read hread).edit _ (fun x heq => by cases heq) _).edit _
      (fun x heq => by cases heq) _).edit _ (fun x heq => by cases heq) _).edit _
        (fun x heq => by cases heq) _
  have hnames : quoted.root.Everywhere fun x => x.toTag.Writable ∧ x.toTag.Opens := by
    decide +kernel
  have hmark : ¬ quoted.BeginsWithMark := by
    rintro ⟨raw, hraw, -⟩
    cases hraw
  have hmerged : quoted.merged = ⟨[], ⟨⟨"a", []⟩,
      [.text "x", .element ⟨"b", [⟨"k", "<'\""⟩]⟩ [], .text "<&>]]>"]⟩, []⟩ := by
    decide +kernel
  exact ⟨hread, hmerged ▸ (parse_print hedited hnames hmark).1⟩

end Document

end MailMerge.Xml
