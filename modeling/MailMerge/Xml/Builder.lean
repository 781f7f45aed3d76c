import MailMerge.Xml.Event

/-!
# `MailMerge.Xml.Builder`: from events to a document

A builder holds the elements that are open, innermost first, and what is finished at the top level.
`Document.parse` reads a source event by event into a builder, so that the first fault in the
source, of whatever kind, is the one reported.
-/

set_option autoImplicit false

namespace MailMerge.Xml

/-- An open element: its tag and the nodes read so far, latest first. -/
structure Frame where
  tag : Tag
  nodes : List Node

/-- The element with one more node. -/
def Frame.push (frame : Frame) (node : Node) : Frame :=
  { frame with nodes := node :: frame.nodes }

/-- A document under construction. Lists hold their latest entry first. -/
structure Builder where
  frames : List Frame
  prolog : List Markup
  root : Option Element
  epilog : List Markup

namespace Builder

/-- Nothing read yet. -/
def empty : Builder := ⟨[], [], none, []⟩

/-- Name of the innermost open element. -/
def innermost (b : Builder) : Option String := b.frames.head?.map (·.tag.name)

/-- A finished element takes its place. -/
def placeElement (b : Builder) (e : Element) : Except Error Builder :=
  match b.frames with
  | frame :: frames => .ok { b with frames := frame.push e.toNode :: frames }
  | [] =>
    match b.root with
    | none => .ok { b with root := some e }
    | some _ => .error (.tree (.secondRoot e.name))

/-- Other markup takes its place. -/
def placeMarkup (b : Builder) (kept : Markup) : Builder :=
  match b.frames with
  | frame :: frames => { b with frames := frame.push (.markup kept) :: frames }
  | [] =>
    if b.root.isNone then { b with prolog := kept :: b.prolog }
    else { b with epilog := kept :: b.epilog }

/-- Character data takes its place; there is none outside the root element. -/
def placeText (b : Builder) (value : String) : Builder :=
  match b.frames with
  | frame :: frames => { b with frames := frame.push (.text value) :: frames }
  | [] => b

/-- The builder after an event. -/
def step (b : Builder) : Event → Except Error Builder
  | .start tag => .ok { b with frames := ⟨tag, []⟩ :: b.frames }
  | .empty tag => b.placeElement ⟨tag, []⟩
  | .close =>
    match b.frames with
    -- An end tag without an open element is no event.
    | [] => .ok b
    | frame :: frames => placeElement { b with frames } ⟨frame.tag, frame.nodes.reverse⟩
  | .text value => .ok (b.placeText value)
  | .markup kept => .ok (b.placeMarkup kept)

/-- The document at the end of the source. -/
def finish (b : Builder) : Except Error Document :=
  match b.frames, b.root with
  | frame :: _, _ => .error (.tree (.elementUnclosed frame.tag.name))
  | [], none => .error (.tree .noRoot)
  | [], some root => .ok ⟨b.prolog.reverse, root, b.epilog.reverse⟩

/-- Reads the rest of a source. -/
def read (b : Builder) : List Char → Except Error Document
  | [] => b.finish
  | c :: cs =>
    match _h : Event.next b.innermost c cs with
    | .error e => .error e
    | .ok (event, rest) =>
      match b.step event with
      | .error e => .error e
      | .ok b => b.read rest
termination_by cs => cs.length
decreasing_by
  exact Nat.lt_succ_of_le (Event.length_le_of_next _h)

end Builder

/-- A source without the byte-order mark at its front. -/
def dropByteOrderMark : List Char → List Char
  | '\uFEFF' :: cs => cs
  | cs => cs

/-- Reads a document. -/
def Document.parse (source : String) : Except Error Document :=
  Builder.empty.read (dropByteOrderMark source.toList)

end MailMerge.Xml
