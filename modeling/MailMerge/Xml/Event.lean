import MailMerge.Xml.Token

/-!
# `MailMerge.Xml.Event`: pieces of source with their meaning

An event is a piece of source read in its place: tags with decoded attributes, character data
inside the root element decoded, all else as written. An end tag must name the innermost open
element. `Event.readAll` lists the events of a whole source.
-/

set_option autoImplicit false

namespace MailMerge.Xml

/-- A piece of source with its meaning. -/
inductive Event where
  | start (tag : Tag)
  /-- The tag of an element without content. -/
  | empty (tag : Tag)
  /-- The end of the innermost open element. -/
  | close
  /-- Decoded character data inside an element. -/
  | text (value : String)
  | markup (kept : Markup)
deriving DecidableEq, Repr

namespace Event

/-- The meaning of a piece where `innermost` is the name of the innermost open element. -/
def ofToken (innermost : Option String) : Token → Except Error Event
  | .characters raw =>
    match innermost with
    | none => .ok (.markup (.characters (.ofList raw)))
    | some _ =>
      match Reference.decode raw with
      | .error fault => .error (.reference fault)
      | .ok value => .ok (.text (.ofList value))
  | .openTag content => (Tag.read content).map .start
  | .emptyTag content => (Tag.read content).map .empty
  | .closeTag name =>
    match innermost with
    | none => .error (.markup (.endUnmatched (.ofList name)))
    | some expected =>
      if expected = .ofList name then .ok .close
      else .error (.markup (.endMismatched expected (.ofList name)))
  | .markup kept => .ok (.markup kept)

/-- Takes the event at the front of a source that is not empty. -/
def next (innermost : Option String) (c : Char) (cs : List Char) :
    Except Error (Event × List Char) :=
  match Token.next c cs with
  | .error fault => .error (.markup fault)
  | .ok (token, rest) => (ofToken innermost token).map (·, rest)

theorem length_le_of_next {innermost : Option String} {c : Char} {cs rest : List Char}
    {event : Event} (h : next innermost c cs = .ok (event, rest)) : rest.length ≤ cs.length := by
  unfold next at h
  split at h
  · simp at h
  · rename_i ht
    cases ho : ofToken innermost _ with
    | error e => rw [ho] at h; simp [Except.map] at h
    | ok event' =>
      rw [ho] at h
      simp only [Except.map, Except.ok.injEq, Prod.mk.injEq] at h
      obtain ⟨-, rfl⟩ := h
      exact Token.length_le_of_next ht

/-- Names of the open elements after an event, innermost first. -/
def opened (names : List String) : Event → List String
  | .start tag => tag.name :: names
  | .close => names.tail
  | _ => names

/-- The events of a source inside the named elements. -/
def readAll (names : List String) : List Char → Except Error (List Event)
  | [] => .ok []
  | c :: cs =>
    match _h : next names.head? c cs with
    | .error e => .error e
    | .ok (event, rest) => (readAll (event.opened names) rest).map (event :: ·)
termination_by cs => cs.length
decreasing_by
  exact Nat.lt_succ_of_le (length_le_of_next _h)

end Event

end MailMerge.Xml
