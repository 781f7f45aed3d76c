import MailMerge.Proofs.Xml.Clean

/-!
# `MailMerge.Proofs.Xml.Linear`: a document as the events of its source

A tree is put in a line by writing each element as a start, its content and an end
(`Document.events`). A source is a sequence of pieces (`Token.readAll`), and each piece is an event
in its place (`Event.ofTokens`). The document that is read from the source, in a line, is those
events in order.

* `Builder.events_step`: one event adds itself to the line of what has been read.
* `Builder.run_events`: the line of a document is read as that document.
* `Builder.run_eq_error_iff`: which events make no tree, and what is said about them.
* `Document.parse_linear`: the three together, for a whole source.
-/

set_option autoImplicit false

namespace MailMerge.Xml

/-! ### The pieces of a source -/

/-- The pieces of a source. -/
def Token.readAll : List Char → Except MarkupFault (List Token)
  | [] => .ok []
  | c :: cs =>
    match _h : next c cs with
    | .error fault => .error fault
    | .ok (token, rest) => (readAll rest).map (token :: ·)
termination_by cs => cs.length
decreasing_by
  exact Nat.lt_succ_of_le (length_le_of_next _h)

namespace Event

/-- The meaning of pieces inside the named elements. -/
def ofTokens (names : List String) : List Token → Except Error (List Event)
  | [] => .ok []
  | token :: tokens =>
    match ofToken names.head? token with
    | .error e => .error e
    | .ok event => (ofTokens (event.opened names) tokens).map (event :: ·)

theorem readAll_cons {names : List String} {c : Char} {cs rest : List Char} {event : Event}
    (h : next names.head? c cs = .ok (event, rest)) :
    readAll names (c :: cs) = (readAll (event.opened names) rest).map (event :: ·) := by
  rw [readAll]
  split
  · rename_i heq
    rw [h] at heq
    cases heq
  · rename_i heq
    rw [h] at heq
    cases heq
    rfl

theorem exists_of_readAll_cons {names : List String} {c : Char} {cs : List Char}
    {events : List Event} (h : readAll names (c :: cs) = .ok events) :
    ∃ event rest behind, next names.head? c cs = .ok (event, rest)
      ∧ readAll (event.opened names) rest = .ok behind ∧ events = event :: behind := by
  rw [readAll] at h
  split at h
  · cases h
  · rename_i event rest hnext
    obtain ⟨behind, hbehind, rfl⟩ := exists_of_map_eq_ok h
    exact ⟨event, rest, behind, hnext, hbehind, rfl⟩

theorem exists_of_ofTokens_cons {names : List String} {token : Token} {tokens : List Token}
    {events : List Event} (h : ofTokens names (token :: tokens) = .ok events) :
    ∃ event behind, ofToken names.head? token = .ok event
      ∧ ofTokens (event.opened names) tokens = .ok behind ∧ events = event :: behind := by
  rw [ofTokens] at h
  split at h
  · cases h
  · rename_i event hevent
    obtain ⟨behind, hbehind, rfl⟩ := exists_of_map_eq_ok h
    exact ⟨event, behind, hevent, hbehind, rfl⟩

/-- The events of a source are the meaning of its pieces. -/
theorem readAll_of_tokens {names : List String} {cs : List Char} {tokens : List Token}
    {events : List Event} (htokens : Token.readAll cs = .ok tokens)
    (hevents : ofTokens names tokens = .ok events) : readAll names cs = .ok events := by
  fun_induction Token.readAll cs generalizing names tokens events with
  | case1 =>
      cases htokens
      rw [readAll]
      exact hevents
  | case2 c cs fault hnext => cases htokens
  | case3 c cs token rest hnext ih =>
      obtain ⟨others, hothers, rfl⟩ := exists_of_map_eq_ok htokens
      obtain ⟨event, behind, hevent, hbehind, rfl⟩ := exists_of_ofTokens_cons hevents
      have hread : next names.head? c cs = .ok (event, rest) := by
        rw [next, hnext]
        exact congrArg (Except.map (·, rest)) hevent
      rw [readAll_cons hread, ih hothers hbehind]
      rfl

/-- Ends and decoded character data stand inside elements only. -/
def isInner : Event → Bool
  | close => true
  | text _ => true
  | _ => false

/-- Events inside the named elements stand where they can. -/
def Nested (names : List String) : List Event → Prop
  | [] => True
  | event :: events => (names = [] → event.isInner = false) ∧ Nested (event.opened names) events

theorem isInner_of_ofToken {token : Token} {event : Event} (h : ofToken none token = .ok event) :
    event.isInner = false := by
  cases token with
  | characters raw =>
      cases h
      rfl
  | openTag content =>
      obtain ⟨tag, -, rfl⟩ := exists_of_map_eq_ok h
      rfl
  | emptyTag content =>
      obtain ⟨tag, -, rfl⟩ := exists_of_map_eq_ok h
      rfl
  | closeTag name => cases h
  | markup kept =>
      cases h
      rfl

theorem nested_of_ofTokens {names : List String} {tokens : List Token} {events : List Event}
    (h : ofTokens names tokens = .ok events) : Nested names events := by
  induction tokens generalizing names events with
  | nil =>
      cases h
      trivial
  | cons token tokens ih =>
      obtain ⟨event, behind, hevent, hbehind, rfl⟩ := exists_of_ofTokens_cons h
      refine ⟨fun hnil => ?_, ih hbehind⟩
      rw [hnil] at hevent
      exact isInner_of_ofToken hevent

end Event

/-! ### The builder on events -/

namespace Builder

/-- Reads events one after another. -/
def run (b : Builder) : List Event → Except Error Document
  | [] => b.finish
  | event :: events =>
    match b.step event with
    | .error e => .error e
    | .ok b => b.run events

/-- Names of the open elements, innermost first. -/
def names (b : Builder) : List String := b.frames.map (·.tag.name)

theorem head?_names (b : Builder) : b.names.head? = b.innermost := List.head?_map ..

variable {b b' : Builder} {event : Event}

theorem run_cons_of_step (h : b.step event = .ok b') (events : List Event) :
    b.run (event :: events) = b'.run events := by
  rw [run, h]

theorem Placed.names_eq {e : Element} (h : b.Placed e b') : b'.names = b.names := by
  cases h with
  | inside hframes => simp [names, hframes, Frame.push]
  | root hframes hroot => rfl

theorem names_step (h : b.step event = .ok b') : b'.names = event.opened b.names := by
  cases stepped_of_step h with
  | opened tag => rfl
  | empty hplaced => exact hplaced.names_eq
  | closed hframes hplaced => simpa [names, hframes, Event.opened] using hplaced.names_eq
  | text hframes value => simp [names, hframes, Frame.push, Event.opened]
  | markup hframes kept => simp [names, hframes, Frame.push, Event.opened]
  | prolog hframes hroot kept => rfl
  | epilog hframes hroot kept => rfl
  | closeOutside hframes => simp [names, hframes, Event.opened]
  | textOutside hframes value => rfl

/-- Reading a source is reading its events. -/
theorem read_eq_run {cs : List Char} {events : List Event}
    (h : Event.readAll b.names cs = .ok events) : b.read cs = b.run events := by
  fun_induction Builder.read b cs generalizing events with
  | case1 b =>
      rw [Event.readAll] at h
      cases h
      rfl
  | case2 b c cs e hnext =>
      obtain ⟨event, rest, behind, hevent, -⟩ := Event.exists_of_readAll_cons h
      rw [head?_names, hnext] at hevent
      cases hevent
  | case3 b c cs event rest hnext e hstep =>
      obtain ⟨_, _, behind, hevent, -, rfl⟩ := Event.exists_of_readAll_cons h
      rw [head?_names, hnext] at hevent
      cases hevent
      rw [run, hstep]
  | case4 b c cs event rest hnext b' hstep ih =>
      obtain ⟨_, _, behind, hevent, hbehind, rfl⟩ := Event.exists_of_readAll_cons h
      rw [head?_names, hnext] at hevent
      cases hevent
      rw [run_cons_of_step hstep]
      exact ih (by rwa [names_step hstep])

end Builder

/-! ### Documents in a line -/

mutual

/-- The events of a node: those of an element are its start, its content and its end. -/
def Node.events : Node → List Event
  | .element tag children => .start tag :: (Node.eventsAll children ++ [.close])
  | .text value => [.text value]
  | .markup kept => [.markup kept]

/-- The events of nodes, in order. -/
def Node.eventsAll : List Node → List Event
  | [] => []
  | node :: nodes => node.events ++ Node.eventsAll nodes

end

theorem Node.eventsAll_append (xs ys : List Node) :
    Node.eventsAll (xs ++ ys) = Node.eventsAll xs ++ Node.eventsAll ys := by
  induction xs with
  | nil => rfl
  | cons x xs ih => rw [List.cons_append, Node.eventsAll, Node.eventsAll, ih, List.append_assoc]

/-- The events of a document: what stands before the root element, the root element, and what stands
after it. -/
def Document.events (d : Document) : List Event :=
  d.prolog.map .markup ++ d.root.toNode.events ++ d.epilog.map .markup

/-- The tag of an empty element is a start and an end. -/
def Event.spread : Event → List Event
  | .empty tag => [.start tag, .close]
  | event => [event]

/-- The events of an element that is still open. -/
def Frame.events (frame : Frame) : List Event :=
  .start frame.tag :: Node.eventsAll frame.nodes.reverse

theorem Frame.events_push (frame : Frame) (node : Node) :
    (frame.push node).events = frame.events ++ node.events := by
  simp [events, Frame.push, Node.eventsAll_append, Node.eventsAll]

theorem Frame.events_element (frame : Frame) :
    frame.element.toNode.events = frame.events ++ [.close] := by
  simp [events, element, Element.toNode, Node.events]

namespace Builder

/-- The events of what has been read. -/
def events (b : Builder) : List Event :=
  b.prolog.reverse.map .markup ++ b.root.toList.flatMap (·.toNode.events)
    ++ b.epilog.reverse.map .markup ++ b.frames.reverse.flatMap Frame.events

variable {b b' : Builder} {event : Event}

theorem Placed.events_eq {e : Element} (h : b.Placed e b')
    (hrootless : b.root = none → b.epilog = []) : b'.events = b.events ++ e.toNode.events := by
  cases h with
  | inside hframes => simp [events, hframes, Frame.events_push]
  | root hframes hroot => simp [events, hframes, hroot, hrootless hroot]

theorem Placed.rootless {e : Element} (h : b.Placed e b')
    (hrootless : b.root = none → b.epilog = []) : b'.root = none → b'.epilog = [] := by
  cases h with
  | inside hframes => exact hrootless
  | root hframes hroot =>
      intro hnone
      cases hnone

theorem names_eq_nil (h : b.frames = []) : b.names = [] := by
  rw [names, h, List.map_nil]

/-- One event adds itself to what has been read. -/
theorem events_step (hrootless : b.root = none → b.epilog = [])
    (hnested : b.names = [] → event.isInner = false) (h : b.step event = .ok b') :
    b'.events = b.events ++ event.spread ∧ (b'.root = none → b'.epilog = []) := by
  cases stepped_of_step h with
  | opened tag =>
      exact ⟨by simp [events, Frame.events, Node.eventsAll, Event.spread], hrootless⟩
  | empty hplaced => exact ⟨hplaced.events_eq hrootless, hplaced.rootless hrootless⟩
  | @closed frame frames _ hframes hplaced =>
      -- The open element is finished where it stands, and its end is added.
      refine ⟨?_, hplaced.rootless hrootless⟩
      rw [hplaced.events_eq hrootless, Frame.events_element]
      simp [events, hframes, Event.spread]
  | text hframes value =>
      exact ⟨by simp [events, hframes, Frame.events_push, Node.events, Event.spread], hrootless⟩
  | markup hframes kept =>
      exact ⟨by simp [events, hframes, Frame.events_push, Node.events, Event.spread], hrootless⟩
  | prolog hframes hroot kept =>
      exact ⟨by simp [events, hframes, hroot, hrootless hroot, Event.spread], hrootless⟩
  | epilog hframes hroot kept =>
      exact ⟨by simp [events, hframes, Event.spread], fun hnone => absurd hnone hroot⟩
  -- The builder passes over these two, so the line would lose them. No source has them there.
  | closeOutside hframes => cases hnested (names_eq_nil hframes)
  | textOutside hframes value => cases hnested (names_eq_nil hframes)

/-- A document that was read is, in a line, what had been read and then the events. -/
theorem events_of_run {events : List Event} {d : Document}
    (hrootless : b.root = none → b.epilog = []) (hnested : Event.Nested b.names events)
    (h : b.run events = .ok d) : d.events = b.events ++ events.flatMap Event.spread := by
  induction events generalizing b with
  | nil =>
      obtain ⟨hframes, root, hroot, rfl⟩ := finish_eq_ok_iff.1 h
      simp [Document.events, Builder.events, hframes, hroot]
  | cons event events ih =>
      rw [run] at h
      split at h
      · cases h
      · rename_i b' hstep
        obtain ⟨hevents, hrootless'⟩ := events_step hrootless hnested.1 hstep
        have hnested' : Event.Nested b'.names events := by
          rw [names_step hstep]
          exact hnested.2
        rw [ih hrootless' hnested' h, hevents, List.flatMap_cons, List.append_assoc]

/-! ### Reading a line -/

theorem run_cons_congr {xs ys : List Event} (h : ∀ b : Builder, b.run xs = b.run ys) (b : Builder)
    (event : Event) : b.run (event :: xs) = b.run (event :: ys) := by
  rw [run, run]
  split
  · rfl
  · exact h _

/-- An empty element is read like its start and its end. -/
theorem run_spread (b : Builder) (events : List Event) :
    b.run (events.flatMap Event.spread) = b.run events := by
  induction events generalizing b with
  | nil => rfl
  | cons event events ih =>
      cases event with
      | empty tag =>
          calc (b.within tag []).run (.close :: events.flatMap Event.spread)
              = (b.within tag []).run (.close :: events) := run_cons_congr ih _ _
            _ = b.run (.empty tag :: events) := by
                rw [run, step_close_within]
                rfl
      | start tag => exact run_cons_congr ih b _
      | close => exact run_cons_congr ih b _
      | text value => exact run_cons_congr ih b _
      | markup kept => exact run_cons_congr ih b _

mutual

/-- The events of a node, with others behind them, are read as the node. -/
theorem run_events (b : Builder) (tag : Tag) (before : List Node) (behind : List Event) :
    (node : Node) → (b.within tag before).run (node.events ++ behind)
      = (b.within tag (before ++ [node])).run behind
  | .element inner children => by
      rw [Node.events, List.cons_append, List.append_assoc]
      show ((b.within tag before).within inner []).run _ = _
      rw [run_eventsAll, List.nil_append, List.singleton_append]
      exact run_cons_of_step (step_close_within.trans (placeElement_within _)) behind
  | .text value => run_cons_of_step (step_text_within value) behind
  | .markup kept => run_cons_of_step (step_markup_within kept) behind

theorem run_eventsAll (b : Builder) (tag : Tag) (before : List Node) (behind : List Event) :
    (nodes : List Node) → (b.within tag before).run (Node.eventsAll nodes ++ behind)
      = (b.within tag (before ++ nodes)).run behind
  | [] => by rw [Node.eventsAll, List.nil_append, List.append_nil]
  | node :: nodes => by
      rw [Node.eventsAll, List.append_assoc, run_events, run_eventsAll, List.append_assoc,
        List.singleton_append]

end

/-- Markup outside all elements is read row by row. -/
theorem run_rows (rows : List Markup) {b : Builder} (behind : List Event) :
    b.run (rows.map .markup ++ behind) = (rows.foldl placeMarkup b).run behind := by
  induction rows generalizing b with
  | nil => rfl
  | cons kept rows ih => exact ih

/-- The events of a document are read as that document. -/
theorem run_document (d : Document) : empty.run d.events = .ok d := by
  unfold Document.events
  rw [List.append_assoc, run_rows, empty, foldl_placeMarkup_prolog, List.append_nil]
  show (within ⟨[], d.prolog.reverse, none, []⟩ d.root.toTag []).run
    (Node.eventsAll d.root.children ++ [.close] ++ d.epilog.map .markup) = _
  have hroot : (within ⟨[], d.prolog.reverse, none, []⟩ d.root.toTag d.root.children).step .close
      = .ok ⟨[], d.prolog.reverse, some d.root, []⟩ := step_close_within
  rw [List.append_assoc, run_eventsAll, List.nil_append, List.singleton_append,
    run_cons_of_step hroot, ← List.append_nil (d.epilog.map _), run_rows,
    foldl_placeMarkup_epilog]
  simp [run, finish]

/-- The document that events are read as is the one that, in a line, has those events. -/
theorem run_eq_ok_iff {events : List Event} (hnested : Event.Nested [] events) {d : Document} :
    empty.run events = .ok d ↔ d.events = events.flatMap Event.spread := by
  constructor
  · intro h
    exact events_of_run (b := empty) (fun _ => rfl) hnested h
  · intro h
    rw [← run_spread, ← h, run_document]

end Builder

/-! ### What makes no tree -/

namespace Event

/-- Name of the element that an event begins. -/
def begun? : Event → Option String
  | start tag => some tag.name
  | empty tag => some tag.name
  | _ => none

/-- Name of the element that an event ends, if no other is open then. -/
def completed? (names : List String) : Event → Option String
  | empty tag => if names = [] then some tag.name else none
  | close =>
    match names with
    | [name] => some name
    | _ => none
  | _ => none

/-- Names of the elements that begin outside all others. -/
def topLevel (names : List String) : List Event → List String
  | [] => []
  | event :: events =>
    (if names = [] then event.begun?.toList else []) ++ topLevel (event.opened names) events

/-- Names of the elements that end with no other open. -/
def completed (names : List String) : List Event → List String
  | [] => []
  | event :: events => (event.completed? names).toList ++ completed (event.opened names) events

/-- Names of the elements that are left open, innermost first. -/
def leftOpen (names : List String) (events : List Event) : List String :=
  events.foldl (fun names event => event.opened names) names

theorem leftOpen_cons (names : List String) (event : Event) (events : List Event) :
    leftOpen names (event :: events) = leftOpen (event.opened names) events := rfl

/-- The elements that begin outside all others end there, but for one that is left open. -/
theorem topLevel_eq (names : List String) (events : List Event) :
    names.getLast?.toList ++ topLevel names events
      = completed names events ++ (leftOpen names events).getLast?.toList := by
  induction events generalizing names with
  | nil => simp [topLevel, completed, leftOpen]
  | cons event events ih =>
      have ih := ih (event.opened names)
      rw [topLevel, completed, leftOpen_cons, List.append_assoc, ← ih, ← List.append_assoc,
        ← List.append_assoc]
      congr 1
      cases event with
      | start tag => cases names <;> simp [begun?, completed?, opened, List.getLast?_cons]
      | empty tag => cases names <;> simp [begun?, completed?, opened]
      | close =>
          rcases names with _ | ⟨name, _ | ⟨other, names⟩⟩
            <;> simp [begun?, completed?, opened, List.getLast?_cons]
      | text value => simp [begun?, completed?, opened]
      | markup kept => simp [begun?, completed?, opened]

/-- What is wrong with a source, told from the elements completed outside all others and from those
left open. -/
def fault? : List String → List String → Option StructureFault
  | _ :: second :: _, _ => some (.secondRoot second)
  | _, innermost :: _ => some (.elementUnclosed innermost)
  | [], [] => some .noRoot
  | [_], [] => none

theorem fault?_eq_none_iff {tops left : List String} :
    fault? tops left = none ↔ (∃ name, tops = [name]) ∧ left = [] := by
  rcases tops with _ | ⟨name, _ | ⟨second, others⟩⟩ <;> cases left <;> simp [fault?]

end Event

namespace Builder

variable {b b' : Builder} {event : Event}

/-- Name of the root element, if there is one. -/
def rootNames (b : Builder) : List String := b.root.toList.map (·.name)

theorem rootNames_placed {e : Element} (h : b.Placed e b') :
    b'.rootNames = b.rootNames ++ if b.names = [] then [e.name] else [] := by
  cases h with
  | inside hframes => simp [rootNames, names, hframes]
  | root hframes hroot => simp [rootNames, names, hframes, hroot]

theorem rootNames_step (h : b.step event = .ok b') :
    b'.rootNames = b.rootNames ++ (event.completed? b.names).toList := by
  cases stepped_of_step h with
  | empty hplaced =>
      rw [rootNames_placed hplaced, Event.completed?]
      split <;> rfl
  | @closed frame frames _ hframes hplaced =>
      rw [rootNames_placed hplaced]
      cases frames <;> simp [rootNames, names, hframes, Event.completed?, Frame.element]
  | closeOutside hframes => simp [names, hframes, Event.completed?]
  | _ => simp [rootNames, Event.completed?]

theorem placeElement_eq_error {x : Element} {e : Error} (h : b.placeElement x = .error e) :
    b.frames = [] ∧ b.root.isSome ∧ e = .tree (.secondRoot x.name) := by
  unfold placeElement at h
  split at h
  · cases h
  · rename_i hframes
    split at h
    · cases h
    · rename_i root hroot
      cases h
      exact ⟨hframes, by rw [hroot]; rfl, rfl⟩

/-- An event makes no tree where it completes an element and there is a root element already. -/
theorem step_eq_error {e : Error} (h : b.step event = .error e) :
    ∃ first second, b.rootNames = [first] ∧ event.completed? b.names = some second
      ∧ e = .tree (.secondRoot second) := by
  have hname (hroot : b.root.isSome) : ∃ first, b.rootNames = [first] := by
    obtain ⟨root, hroot⟩ := Option.isSome_iff_exists.1 hroot
    exact ⟨root.name, by simp [rootNames, hroot]⟩
  cases event with
  | empty tag =>
      obtain ⟨hframes, hroot, rfl⟩ := placeElement_eq_error h
      obtain ⟨first, hfirst⟩ := hname hroot
      exact ⟨first, tag.name, hfirst, by simp [Event.completed?, names, hframes], rfl⟩
  | close =>
      rw [step] at h
      split at h
      · cases h
      · rename_i frame frames hframes
        obtain ⟨hrest, hroot, rfl⟩ := placeElement_eq_error h
        obtain ⟨first, hfirst⟩ := hname hroot
        dsimp only at hrest
        refine ⟨first, frame.tag.name, hfirst, ?_, rfl⟩
        simp [Event.completed?, names, hframes, hrest]
  | start tag => cases h
  | text value => cases h
  | markup kept => cases h

theorem finish_eq_error_iff {e : Error} :
    b.finish = .error e ↔ ∃ fault, Event.fault? b.rootNames b.names = some fault
      ∧ e = .tree fault := by
  unfold finish rootNames names
  cases hframes : b.frames with
  | nil => cases hroot : b.root <;> simp [Event.fault?, eq_comm]
  | cons frame frames => cases hroot : b.root <;> simp [Event.fault?, eq_comm]

/-- Which events make no tree, and why. -/
theorem run_eq_error_iff {events : List Event} {e : Error} :
    b.run events = .error e ↔ ∃ fault,
      Event.fault? (b.rootNames ++ Event.completed b.names events) (Event.leftOpen b.names events)
        = some fault ∧ e = .tree fault := by
  induction events generalizing b with
  | nil =>
      rw [run, Event.completed, List.append_nil]
      exact finish_eq_error_iff
  | cons event events ih =>
      rw [run, Event.leftOpen_cons, Event.completed, ← List.append_assoc]
      cases hstep : b.step event with
      | ok b' =>
          rw [← rootNames_step hstep, ← names_step hstep]
          exact ih
      | error e' =>
          -- Two elements are completed by now, so what follows cannot change the fault.
          obtain ⟨first, second, hroot, hcompleted, rfl⟩ := step_eq_error hstep
          rw [hroot, hcompleted]
          simp [Event.fault?, eq_comm]

end Builder

/-! ### The document of a source -/

namespace Document

variable {source : String} {tokens : List Token} {events : List Event}

theorem parse_eq_run (htokens : Token.readAll (dropByteOrderMark source.toList) = .ok tokens)
    (hevents : Event.ofTokens [] tokens = .ok events) :
    parse source = Builder.empty.run events :=
  Builder.read_eq_run (Event.readAll_of_tokens htokens hevents)

theorem parse_eq_error_iff
    (htokens : Token.readAll (dropByteOrderMark source.toList) = .ok tokens)
    (hevents : Event.ofTokens [] tokens = .ok events) {e : Error} :
    parse source = .error e ↔ ∃ fault,
      Event.fault? (Event.completed [] events) (Event.leftOpen [] events) = some fault
        ∧ e = .tree fault := by
  rw [parse_eq_run htokens hevents]
  exact Builder.run_eq_error_iff

theorem exists_parse_eq_ok_iff
    (htokens : Token.readAll (dropByteOrderMark source.toList) = .ok tokens)
    (hevents : Event.ofTokens [] tokens = .ok events) :
    (∃ d, parse source = .ok d)
      ↔ (∃ name, Event.topLevel [] events = [name]) ∧ Event.leftOpen [] events = [] := by
  -- With no element left open, those that begin at the top are those that end there.
  have htop (hopen : Event.leftOpen [] events = []) :
      Event.topLevel [] events = Event.completed [] events := by
    simpa [hopen] using Event.topLevel_eq [] events
  have hok : (∃ d, parse source = .ok d)
      ↔ Event.fault? (Event.completed [] events) (Event.leftOpen [] events) = none := by
    cases hparse : parse source with
    | ok d =>
        simp only [Except.ok.injEq, exists_eq', true_iff]
        rw [Option.eq_none_iff_forall_ne_some]
        intro fault hfault
        rw [(parse_eq_error_iff htokens hevents).2 ⟨fault, hfault, rfl⟩] at hparse
        cases hparse
    | error e =>
        obtain ⟨fault, hfault, -⟩ := (parse_eq_error_iff htokens hevents).1 hparse
        simp [hfault]
  rw [hok, Event.fault?_eq_none_iff]
  exact ⟨fun ⟨h, hopen⟩ => ⟨by rwa [htop hopen], hopen⟩,
    fun ⟨h, hopen⟩ => ⟨by rwa [← htop hopen], hopen⟩⟩

/-- A source whose pieces can all be read is a document exactly when one element begins outside all
others and none is left open. The document is the one that, in a line, has the events of the source
in order, with the tag of an empty element as a start and an end. Otherwise the fault is the second
element that was completed outside all others, else the innermost element left open, else that there
is no element. -/
theorem parse_linear (htokens : Token.readAll (dropByteOrderMark source.toList) = .ok tokens)
    (hevents : Event.ofTokens [] tokens = .ok events) :
    ((∃ d, parse source = .ok d)
        ↔ (∃ name, Event.topLevel [] events = [name]) ∧ Event.leftOpen [] events = [])
      ∧ (∀ d, parse source = .ok d ↔ d.events = events.flatMap Event.spread)
      ∧ (∀ first second others, Event.completed [] events = first :: second :: others →
          parse source = .error (.tree (.secondRoot second)))
      ∧ (∀ innermost outer, (Event.completed [] events).length ≤ 1 →
          Event.leftOpen [] events = innermost :: outer →
          parse source = .error (.tree (.elementUnclosed innermost)))
      ∧ (Event.completed [] events = [] → Event.leftOpen [] events = [] →
          parse source = .error (.tree .noRoot)) := by
  have herror (fault : StructureFault)
      (h : Event.fault? (Event.completed [] events) (Event.leftOpen [] events) = some fault) :
      parse source = .error (.tree fault) :=
    (parse_eq_error_iff htokens hevents).2 ⟨fault, h, rfl⟩
  refine ⟨exists_parse_eq_ok_iff htokens hevents, fun d => ?_,
    fun first second others hcompleted => ?_, fun innermost outer hcompleted hopen => ?_,
    fun hcompleted hopen => ?_⟩
  · rw [parse_eq_run htokens hevents]
    exact Builder.run_eq_ok_iff (Event.nested_of_ofTokens hevents)
  · exact herror _ (by rw [hcompleted]; rfl)
  · refine herror _ ?_
    rw [hopen]
    match hnames : Event.completed [] events with
    | [] => rfl
    | [name] => rfl
    | first :: second :: others => simp [hnames] at hcompleted
  · exact herror _ (by rw [hcompleted, hopen]; rfl)

/-- References in a value and in a text, white space outside the root element, an empty element and
a comment. -/
def remarked : String := "\uFEFF <r a=\"&lt;\">x&amp;y<e/><!--&--></r >\n"

/-- Its pieces. -/
def remarkedPieces : List Token :=
  [.characters [' '], .openTag "r a=\"&lt;\"".toList, .characters "x&amp;y".toList, .emptyTag ['e'],
    .markup (.comment "&"), .closeTag ['r'], .characters ['\n']]

theorem parse_linear_remarked :
    Token.readAll (dropByteOrderMark remarked.toList) = .ok remarkedPieces
      ∧ parse remarked = .ok ⟨[.characters " "], ⟨⟨"r", [⟨"a", "<"⟩]⟩,
          [.text "x&y", .element ⟨"e", []⟩ [], .markup (.comment "&")]⟩, [.characters "\n"]⟩ := by
  have htokens : Token.readAll (dropByteOrderMark remarked.toList) = .ok remarkedPieces := by
    decide +kernel
  have hevents : Event.ofTokens [] remarkedPieces
      = .ok [.markup (.characters " "), .start ⟨"r", [⟨"a", "<"⟩]⟩, .text "x&y",
          .empty ⟨"e", []⟩, .markup (.comment "&"), .close, .markup (.characters "\n")] := by
    decide +kernel
  exact ⟨htokens, ((parse_linear htokens hevents).2.1 _).2 (by decide +kernel)⟩

end Document

end MailMerge.Xml
