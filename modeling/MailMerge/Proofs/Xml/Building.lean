import MailMerge.Proofs.Xml.Everywhere
import MailMerge.Xml.Builder

/-!
# `MailMerge.Proofs.Xml.Building`: what holds of a document under construction

An open element is an element with the nodes read so far. A property holds everywhere in a builder
when it holds everywhere in the open elements and in the root element.

* `Builder.stepped_of_step`: all that an event can do to a builder. What events keep is told from
  this.
* `Builder.Everywhere.step`: an event keeps a property everywhere when what the event brings fits
  it (`Event.Fits`).
* `Builder.exists_finish_of_read`: what every event keeps holds at the end of the source.
-/

set_option autoImplicit false

namespace MailMerge.Xml

/-- An open element with the nodes read so far. -/
def Frame.element (frame : Frame) : Element := ⟨frame.tag, frame.nodes.reverse⟩

theorem Frame.element_push (frame : Frame) (node : Node) :
    (frame.push node).element = frame.element.push node := by
  simp [element, Frame.push, Element.push]

/-! ### What an event can do -/

namespace Builder

/-- A builder after an element took its place: in the innermost open element, or as the root. -/
inductive Placed (b : Builder) (e : Element) : Builder → Prop where
  | inside {frame : Frame} {frames : List Frame} (hframes : b.frames = frame :: frames) :
      Placed b e { b with frames := frame.push e.toNode :: frames }
  | root (hframes : b.frames = []) (hroot : b.root = none) : Placed b e { b with root := some e }

/-- A builder after an event. -/
inductive Stepped (b : Builder) : Event → Builder → Prop where
  | opened (tag : Tag) : Stepped b (.start tag) { b with frames := ⟨tag, []⟩ :: b.frames }
  | empty {tag : Tag} {b' : Builder} (h : b.Placed ⟨tag, []⟩ b') : Stepped b (.empty tag) b'
  /-- The innermost frame leaves the stack as an element. -/
  | closed {frame : Frame} {frames : List Frame} {b' : Builder}
      (hframes : b.frames = frame :: frames) (h : Placed { b with frames } frame.element b') :
      Stepped b .close b'
  | text {frame : Frame} {frames : List Frame} (hframes : b.frames = frame :: frames)
      (value : String) :
      Stepped b (.text value) { b with frames := frame.push (.text value) :: frames }
  | markup {frame : Frame} {frames : List Frame} (hframes : b.frames = frame :: frames)
      (kept : Markup) :
      Stepped b (.markup kept) { b with frames := frame.push (.markup kept) :: frames }
  | prolog (hframes : b.frames = []) (hroot : b.root = none) (kept : Markup) :
      Stepped b (.markup kept) { b with prolog := kept :: b.prolog }
  | epilog (hframes : b.frames = []) (hroot : b.root ≠ none) (kept : Markup) :
      Stepped b (.markup kept) { b with epilog := kept :: b.epilog }
  | closeOutside (hframes : b.frames = []) : Stepped b .close b
  | textOutside (hframes : b.frames = []) (value : String) : Stepped b (.text value) b

variable {b b' : Builder}

theorem placed_of_placeElement {e : Element} (h : b.placeElement e = .ok b') : b.Placed e b' := by
  unfold placeElement at h
  split at h
  · rename_i frame frames hframes
    cases h
    exact .inside hframes
  · rename_i hframes
    split at h
    · rename_i hroot
      cases h
      exact .root hframes hroot
    · cases h

theorem stepped_of_step {event : Event} (h : b.step event = .ok b') : b.Stepped event b' := by
  unfold step at h
  cases event with
  | start tag =>
      cases h
      exact .opened tag
  | empty tag => exact .empty (placed_of_placeElement h)
  | close =>
      dsimp only at h
      split at h
      · rename_i hframes
        cases h
        exact .closeOutside hframes
      · rename_i frame frames hframes
        exact .closed hframes (placed_of_placeElement h)
  | text value =>
      cases h
      unfold placeText
      split
      · rename_i frame frames hframes
        exact .text hframes value
      · rename_i hframes
        exact .textOutside hframes value
  | markup kept =>
      cases h
      unfold placeMarkup
      split
      · rename_i frame frames hframes
        exact .markup hframes kept
      · rename_i hframes
        split
        · rename_i hroot
          exact .prolog hframes (Option.isNone_iff_eq_none.1 hroot) kept
        · rename_i hroot
          exact .epilog hframes (fun hnone => hroot (Option.isNone_iff_eq_none.2 hnone)) kept

end Builder

/-! ### Properties of what has been read -/

/-- A property holds of all elements in what has been read so far. -/
structure Builder.Everywhere (P : Element → Prop) (b : Builder) : Prop where
  frames : ∀ frame ∈ b.frames, frame.element.Everywhere P
  root : ∀ (e : Element), b.root = some e → e.Everywhere P

/-- What an event brings fits a property: the property holds of an element that the event opens, and
of the innermost open element with the node that it gets. -/
def Event.Fits (P : Element → Prop) (b : Builder) : Event → Prop
  | .start tag | .empty tag => P ⟨tag, []⟩
  | .close => True
  | .text value => ∀ frame ∈ b.frames.head?, P (frame.element.push (.text value))
  | .markup kept => ∀ frame ∈ b.frames.head?, P (frame.element.push (.markup kept))

namespace Builder

variable {P : Element → Prop} {b b' : Builder}

theorem everywhere_empty : empty.Everywhere P := by
  refine ⟨?_, ?_⟩
  · intro frame h
    cases h
  · intro e h
    cases h

theorem Everywhere.push (h : b.Everywhere P) {frame : Frame} {frames : List Frame}
    (hframes : b.frames = frame :: frames) {node : Node} (hself : P (frame.element.push node))
    (hnode : ∀ x : Element, node = x.toNode → x.Everywhere P) :
    Builder.Everywhere P { b with frames := frame.push node :: frames } := by
  obtain ⟨hall, hroot⟩ := h
  rw [hframes] at hall
  refine ⟨fun f hf => ?_, hroot⟩
  rcases List.mem_cons.1 hf with rfl | hf
  · rw [Frame.element_push]
    exact (hall frame List.mem_cons_self).push hself hnode
  · exact hall f (List.mem_cons_of_mem _ hf)

theorem Everywhere.placed (h : b.Everywhere P)
    (hpush : ∀ e x : Element, P e → P (e.push x.toNode)) {e : Element} (he : e.Everywhere P)
    (hplaced : b.Placed e b') : b'.Everywhere P := by
  cases hplaced with
  | @inside frame frames hframes =>
      refine h.push hframes (hpush _ _ ?_) fun x hx => Element.toNode_inj.1 hx ▸ he
      exact (h.frames frame (by rw [hframes]; exact List.mem_cons_self)).self
  | root hframes hroot =>
      refine ⟨h.frames, fun e' he' => ?_⟩
      cases he'
      exact he

/-- What stands in the innermost open element becomes an element when it is closed. -/
theorem Everywhere.closed (h : b.Everywhere P) {frame : Frame} {frames : List Frame}
    (hframes : b.frames = frame :: frames) :
    frame.element.Everywhere P ∧ Builder.Everywhere P { b with frames } := by
  obtain ⟨hall, hroot⟩ := h
  rw [hframes] at hall
  exact ⟨hall frame List.mem_cons_self, fun f hf => hall f (List.mem_cons_of_mem _ hf), hroot⟩

/-- One event keeps a property everywhere. -/
theorem Everywhere.step (h : b.Everywhere P)
    (hpush : ∀ e x : Element, P e → P (e.push x.toNode)) {event : Event} (hfits : event.Fits P b)
    (hstep : b.step event = .ok b') : b'.Everywhere P := by
  have hleaf : ∀ tag : Tag, P ⟨tag, []⟩ → Element.Everywhere P ⟨tag, []⟩ := fun tag htag =>
    .of_plain htag fun index => rfl
  cases stepped_of_step hstep with
  | opened tag =>
      refine ⟨fun frame hframe => ?_, h.root⟩
      rcases List.mem_cons.1 hframe with rfl | hframe
      · exact hleaf tag hfits
      · exact h.frames frame hframe
  | empty hplaced => exact h.placed hpush (hleaf _ hfits) hplaced
  | closed hframes hplaced =>
      obtain ⟨he, hrest⟩ := h.closed hframes
      exact hrest.placed hpush he hplaced
  | @text frame _ hframes value =>
      exact h.push hframes (hfits frame (by rw [hframes]; rfl)) fun x hx => by cases hx
  | @markup frame _ hframes kept =>
      exact h.push hframes (hfits frame (by rw [hframes]; rfl)) fun x hx => by cases hx
  | prolog _ _ _ => exact ⟨h.frames, h.root⟩
  | epilog _ _ _ => exact ⟨h.frames, h.root⟩
  | closeOutside _ => exact h
  | textOutside _ _ => exact h

/-- What every event keeps holds at the end of the source. -/
theorem exists_finish_of_read {I : Builder → List Char → Prop}
    (hI : ∀ (b b' : Builder) (c : Char) (cs rest : List Char) (event : Event), I b (c :: cs) →
      Event.next b.innermost c cs = .ok (event, rest) → b.step event = .ok b' → I b' rest)
    {cs : List Char} {d : Document} (h : I b cs) (hread : b.read cs = .ok d) :
    ∃ b' : Builder, I b' [] ∧ b'.finish = .ok d := by
  fun_induction Builder.read b cs with
  | case1 b => exact ⟨b, h, hread⟩
  | case2 b c cs e he => cases hread
  | case3 b c cs event rest hnext e he => cases hread
  | case4 b c cs event rest hnext b' hstep ih =>
      exact ih (hI b b' c cs rest event h hnext hstep) hread

theorem finish_eq_ok_iff {d : Document} :
    b.finish = .ok d ↔ b.frames = [] ∧ ∃ root, b.root = some root
      ∧ d = ⟨b.prolog.reverse, root, b.epilog.reverse⟩ := by
  unfold finish
  split
  · rename_i hframes
    simp [hframes]
  · rename_i hframes hroot
    simp [hframes, hroot]
  · rename_i root hframes hroot
    simp [hframes, hroot, eq_comm]

end Builder

end MailMerge.Xml
