import MailMerge.Proofs.Xml.Building
import Mathlib.Data.List.Basic

/-!
# `MailMerge.Proofs.Xml.Attributes`: attribute names are distinct

The reader refuses a tag that names an attribute twice, so every element of a document that was read
has attributes of distinct names (`distinctAttributes_parse`). Edits by which no element gets
attributes of one name keep it so (`DistinctAttributes.modify`).
-/

set_option autoImplicit false

namespace MailMerge.Xml

/-- No two attributes of a tag have one name. -/
def Tag.Distinct (tag : Tag) : Prop := (tag.attributes.map (·.name)).Nodup

/-- No two attributes of an element, and of any element below it, have one name. -/
def Element.DistinctAttributes (e : Element) : Prop :=
  ∀ (path : Path) (x : Element), e.get? path = some x → x.toTag.Distinct

namespace Element

theorem distinctAttributes_iff {e : Element} :
    e.DistinctAttributes ↔ e.toTag.Distinct
      ∧ ∀ index x, e.childAt? index = some x → x.DistinctAttributes :=
  everywhere_iff

theorem attribute?_eq_none_iff {e : Element} {name : String} :
    e.attribute? name = none ↔ ∀ a ∈ e.attributes, a.name ≠ name := by
  unfold attribute?
  simp

/-- Setting an attribute adds its name at the end where it is new. -/
theorem names_set (name value : String) (as : List Attribute) :
    (setAttribute.set name value as).map (·.name)
      = if name ∈ as.map (·.name) then as.map (·.name) else as.map (·.name) ++ [name] := by
  induction as with
  | nil => rfl
  | cons a as ih =>
      by_cases ha : a.name = name
      · simp [setAttribute.set, ha]
      · rw [setAttribute.set, if_neg ha, List.map_cons, ih]
        by_cases hmem : name ∈ as.map (·.name)
        · rw [if_pos hmem, if_pos (by simpa using .inr (by simpa using hmem)), List.map_cons]
        · rw [if_neg hmem, if_neg (by simpa [Ne.symm ha] using hmem), List.map_cons,
            List.cons_append]

/-- Of attributes with distinct names, all others stay when one is removed. -/
theorem attributes_removeAttribute {e : Element} (h : e.toTag.Distinct) (name : String) :
    (e.removeAttribute name).attributes = e.attributes.filter (·.name ≠ name) := by
  show e.attributes.eraseP (·.name = name) = _
  unfold Tag.Distinct at h
  generalize e.attributes = as at h ⊢
  induction as with
  | nil => rfl
  | cons a as ih =>
      rw [List.map_cons, List.nodup_cons] at h
      by_cases hname : a.name = name
      · -- Only the first attribute of the name is removed, so no other may have it.
        have hrest : as.filter (·.name ≠ name) = as := by
          rw [List.filter_eq_self]
          intro b hb
          have hne : b.name ≠ a.name := fun heq => h.1 (heq ▸ List.mem_map_of_mem hb)
          simpa [← hname] using hne
        rw [List.eraseP_cons_of_pos (by simpa using hname),
          List.filter_cons_of_neg (by simpa using hname), hrest]
      · rw [List.eraseP_cons_of_neg (by simpa using hname),
          List.filter_cons_of_pos (by simpa using hname), ih h.2]

/-- An edit at a path keeps attribute names distinct when the edit itself does. -/
theorem DistinctAttributes.modify {e : Element} (h : e.DistinctAttributes)
    {f : Element → Element} (hf : ∀ x : Element, x.DistinctAttributes → (f x).DistinctAttributes)
    (path : Path) : (e.modify f path).DistinctAttributes :=
  Everywhere.modify h (fun _ _ _ _ _ htag => htag) fun x _ => hf x

end Element

/-! ### Reading -/

/-- Where a mapped result is a success, so is the result. -/
theorem exists_of_map_eq_ok {ε α β : Type} {f : α → β} {r : Except ε α} {b : β}
    (h : r.map f = .ok b) : ∃ a, r = .ok a ∧ f a = b := by
  cases r with
  | error e => cases h
  | ok a =>
      cases h
      exact ⟨a, rfl, rfl⟩

namespace Tag

/-- The reader refuses an attribute whose name it has seen. -/
theorem not_mem_of_readAttribute {total : Nat} {seen : List (String × Nat)} {first : Char}
    {cs rest : List Char} {a : Attribute}
    (h : readAttribute total seen first cs = .ok (a, rest)) : a.name ∉ seen.map (·.1) := by
  unfold readAttribute at h
  dsimp only at h
  split at h
  · split at h
    · cases h
    · rename_i hseen
      split at h
      · cases h
      · cases h
        intro hmem
        obtain ⟨s, hs, hname⟩ := List.mem_map.1 hmem
        exact List.find?_eq_none.1 hseen s hs (decide_eq_true hname)
  · cases h

/-- Names of the attributes read are distinct from each other and from those seen before. -/
theorem nodup_of_readAttributes {total : Nat} {seen : List (String × Nat)} {cs : List Char}
    {as : List Attribute} (h : readAttributes total seen cs = .ok as) :
    (as.map (·.name)).Nodup ∧ ∀ a ∈ as, a.name ∉ seen.map (·.1) := by
  fun_induction readAttributes total seen cs generalizing as with
  | case1 seen cs hcs =>
      cases h
      simp
  | case2 seen cs first tail hcs e he => cases h
  | case3 seen cs first tail hcs a rest ha ih =>
      obtain ⟨others, hrest, rfl⟩ := exists_of_map_eq_ok h
      obtain ⟨hnodup, hfresh⟩ := ih hrest
      -- What follows is read with this name among those seen.
      refine ⟨?_, ?_⟩
      · rw [List.map_cons, List.nodup_cons]
        refine ⟨fun hmem => ?_, hnodup⟩
        obtain ⟨b, hb, hname⟩ := List.mem_map.1 hmem
        exact hfresh b hb (by simp [hname])
      · intro b hb
        rcases List.mem_cons.1 hb with rfl | hb
        · exact not_mem_of_readAttribute ha
        · exact fun hmem => hfresh b hb (by simpa using Or.inr (by simpa using hmem))

theorem distinct_of_read {content : List Char} {tag : Tag} (h : read content = .ok tag) :
    tag.Distinct := by
  obtain ⟨as, has, rfl⟩ := exists_of_map_eq_ok h
  exact (nodup_of_readAttributes has).1

end Tag

/-- The tag of an event has distinct attribute names. -/
def Event.Distinct : Event → Prop
  | .start tag | .empty tag => tag.Distinct
  | .close | .text _ | .markup _ => True

theorem Event.distinct_of_ofToken {innermost : Option String} {token : Token} {event : Event}
    (h : Event.ofToken innermost token = .ok event) : event.Distinct := by
  unfold Event.ofToken at h
  -- Two kinds of tokens bring a tag, and the tag is read from their content.
  split at h
  · split at h
    · cases h
      trivial
    · split at h
      · cases h
      · cases h
        trivial
  · obtain ⟨tag, htag, rfl⟩ := exists_of_map_eq_ok h
    exact Tag.distinct_of_read htag
  · obtain ⟨tag, htag, rfl⟩ := exists_of_map_eq_ok h
    exact Tag.distinct_of_read htag
  · split at h
    · cases h
    · split at h
      · cases h
        trivial
      · cases h
  · cases h
    trivial

theorem Event.distinct_of_next {innermost : Option String} {c : Char} {cs rest : List Char}
    {event : Event} (h : Event.next innermost c cs = .ok (event, rest)) : event.Distinct := by
  unfold Event.next at h
  split at h
  · cases h
  · obtain ⟨event', hevent, heq⟩ := exists_of_map_eq_ok h
    cases heq
    exact Event.distinct_of_ofToken hevent

/-! ### Building -/

/-- Attribute names are distinct in everything read so far. -/
structure Builder.Distinct (b : Builder) : Prop where
  tags : ∀ frame ∈ b.frames, frame.tag.Distinct
  nodes : ∀ frame ∈ b.frames, ∀ (x : Element), x.toNode ∈ frame.nodes → x.DistinctAttributes
  root : ∀ (e : Element), b.root = some e → e.DistinctAttributes

namespace Builder

/-- An open element has distinct attribute names with the nodes that it has so far. -/
theorem distinct_iff_everywhere {b : Builder} :
    b.Distinct ↔ b.Everywhere fun x => x.toTag.Distinct := by
  have hframe : ∀ frame : Frame, (frame.element.Everywhere fun x => x.toTag.Distinct)
      ↔ frame.tag.Distinct
        ∧ ∀ x : Element, x.toNode ∈ frame.nodes → x.DistinctAttributes := by
    intro frame
    rw [Element.everywhere_iff_of_mem]
    simp only [Frame.element, List.mem_reverse]
    rfl
  constructor
  · intro h
    exact ⟨fun frame hmem => (hframe frame).2 ⟨h.tags frame hmem, h.nodes frame hmem⟩, h.root⟩
  · intro h
    exact ⟨fun frame hmem => ((hframe frame).1 (h.frames frame hmem)).1,
      fun frame hmem => ((hframe frame).1 (h.frames frame hmem)).2, h.root⟩

/-- One event keeps attribute names distinct. -/
theorem Distinct.step {b b' : Builder} (h : b.Distinct) {event : Event} (hevent : event.Distinct)
    (hstep : b.step event = .ok b') : b'.Distinct := by
  rw [distinct_iff_everywhere] at h ⊢
  -- A node does not change the tag of the element that gets it.
  have hframe : ∀ frame ∈ b.frames.head?, frame.element.toTag.Distinct := fun frame hmem =>
    (h.frames frame (List.mem_of_head? hmem)).self
  refine h.step (fun _ _ htag => htag) ?_ hstep
  cases event with
  | start tag => exact hevent
  | empty tag => exact hevent
  | close => trivial
  | text value => exact hframe
  | markup kept => exact hframe

end Builder

/-- Every element of a document that was read has attributes of distinct names. -/
theorem Document.distinctAttributes_parse {source : String} {d : Document}
    (h : Document.parse source = .ok d) : d.root.DistinctAttributes := by
  obtain ⟨b, hb, hfinish⟩ := Builder.exists_finish_of_read (I := fun b _ => b.Distinct)
    (fun _ _ _ _ _ _ hb hnext hstep => hb.step (Event.distinct_of_next hnext) hstep)
    (Builder.distinct_iff_everywhere.2 Builder.everywhere_empty) h
  obtain ⟨-, root, hroot, rfl⟩ := Builder.finish_eq_ok_iff.1 hfinish
  exact hb.root root hroot

end MailMerge.Xml
