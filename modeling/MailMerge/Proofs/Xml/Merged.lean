import MailMerge.Proofs.Xml.Everywhere
import Mathlib.Data.List.Chain

/-!
# `MailMerge.Proofs.Xml.Merged`: trees with adjacent texts merged

A source shows neither a text that is empty nor where one text ends and the next begins. What it
shows of a tree is the tree with its empty texts dropped and its adjacent texts merged.

* `Document.merged`: that tree of a document.
* `Element.merged_eq_self_iff`: the trees that stay are those with neither empty nor adjacent texts
  anywhere.
* `Element.text_merged`: the text of an element stays.
-/

set_option autoImplicit false

namespace MailMerge.Xml

/-! ### Merging -/

/-- Text before nodes. It goes into a text that they begin with; otherwise it becomes a text, or
nothing where it is empty. -/
def Node.joinText (value : String) : List Node → List Node
  | .text next :: nodes => .text (value ++ next) :: nodes
  | nodes => if value = "" then nodes else .text value :: nodes

mutual

/-- A node with empty texts dropped and adjacent texts merged in all below it. -/
def Node.merged : Node → Node
  | .element tag children => .element tag (Node.mergedAll children)
  | .text value => .text value
  | .markup kept => .markup kept

/-- Nodes with empty texts dropped and adjacent texts merged, here and below. -/
def Node.mergedAll : List Node → List Node
  | [] => []
  | node :: nodes =>
    match node.merged with
    | .text value => Node.joinText value (Node.mergedAll nodes)
    | other => other :: Node.mergedAll nodes

end

/-- An element with empty texts dropped and adjacent texts merged everywhere. -/
def Element.merged (e : Element) : Element := ⟨e.toTag, Node.mergedAll e.children⟩

/-- A document with empty texts dropped and adjacent texts merged everywhere. -/
def Document.merged (d : Document) : Document := { d with root := d.root.merged }

namespace Node

/-- Whether a node is a text. -/
def isText : Node → Bool
  | .text _ => true
  | .element .. | .markup _ => false

@[simp] theorem isText_text (value : String) : (Node.text value).isText = true := rfl

@[simp] theorem isText_markup (kept : Markup) : (Node.markup kept).isText = false := rfl

@[simp] theorem isText_toNode (e : Element) : e.toNode.isText = false := rfl

theorem mergedAll_cons_text (value : String) (nodes : List Node) :
    mergedAll (.text value :: nodes) = joinText value (mergedAll nodes) := rfl

theorem mergedAll_cons_markup (kept : Markup) (nodes : List Node) :
    mergedAll (.markup kept :: nodes) = .markup kept :: mergedAll nodes := rfl

theorem mergedAll_cons_toNode (e : Element) (nodes : List Node) :
    mergedAll (e.toNode :: nodes) = e.merged.toNode :: mergedAll nodes := rfl

/-- Three kinds of nodes, with an element as a whole. -/
theorem cases_toNode (node : Node) :
    (∃ value, node = .text value) ∨ (∃ kept, node = .markup kept)
      ∨ ∃ e : Element, node = e.toNode := by
  cases node with
  | element tag children => exact .inr (.inr ⟨⟨tag, children⟩, rfl⟩)
  | text value => exact .inl ⟨value, rfl⟩
  | markup kept => exact .inr (.inl ⟨kept, rfl⟩)

theorem joinText_nil (value : String) :
    joinText value [] = if value = "" then [] else [.text value] := rfl

theorem joinText_of_head {nodes : List Node} (h : ∀ node ∈ nodes.head?, node.isText = false)
    (value : String) :
    joinText value nodes = if value = "" then nodes else .text value :: nodes := by
  cases nodes with
  | nil => rfl
  | cons node nodes =>
      cases node with
      | text next =>
          have := h (.text next) rfl
          cases this
      | element tag children => rfl
      | markup kept => rfl

theorem joinText_empty (nodes : List Node) : joinText "" nodes = nodes := by
  cases nodes with
  | nil => rfl
  | cons node nodes => cases node <;> simp [joinText]

/-- Two texts in a row are one text. -/
theorem joinText_joinText (a b : String) (nodes : List Node) :
    joinText a (joinText b nodes) = joinText (a ++ b) nodes := by
  by_cases hhead : ∀ node ∈ nodes.head?, node.isText = false
  · rw [joinText_of_head hhead b, joinText_of_head hhead (a ++ b)]
    by_cases hb : b = ""
    · rw [if_pos hb, joinText_of_head hhead, hb, String.append_empty]
    · rw [if_neg hb, if_neg (by simp [hb])]
      rfl
  · -- The nodes begin with a text, which both texts go into.
    cases nodes with
    | nil => exact absurd (fun node hnode => by cases hnode) hhead
    | cons node nodes =>
        cases node with
        | text next => simp [joinText, String.append_assoc]
        | element tag children => exact absurd (by simp [isText]) hhead
        | markup kept => exact absurd (by simp) hhead

theorem textOfAll_joinText (value : String) (nodes : List Node) :
    textOfAll (joinText value nodes) = value ++ textOfAll nodes := by
  cases nodes with
  | nil => by_cases h : value = "" <;> simp [joinText, h, textOfAll, textOf]
  | cons node nodes =>
      cases node with
      | text next => simp [joinText, textOfAll, textOf, String.append_assoc]
      | element tag children => by_cases h : value = "" <;> simp [joinText, h, textOfAll, textOf]
      | markup kept => by_cases h : value = "" <;> simp [joinText, h, textOfAll, textOf]

/-! ### Tidy nodes -/

/-- No text is empty, and no two texts are adjacent. -/
structure Tidy (nodes : List Node) : Prop where
  ne_empty : Node.text "" ∉ nodes
  apart : nodes.IsChain fun a b => ¬ (a.isText ∧ b.isText)

namespace Tidy

theorem nil : Tidy [] := ⟨List.not_mem_nil, .nil⟩

theorem of_cons {node : Node} {nodes : List Node} (h : Tidy (node :: nodes)) : Tidy nodes :=
  ⟨fun hmem => h.ne_empty (List.mem_cons_of_mem _ hmem), h.apart.tail⟩

theorem cons {node : Node} {nodes : List Node} (h : Tidy nodes) (hne : node ≠ .text "")
    (hapart : node.isText = true → ∀ next ∈ nodes.head?, next.isText = false) :
    Tidy (node :: nodes) := by
  refine ⟨fun hmem => ?_, List.isChain_cons.2 ⟨fun next hnext hboth => ?_, h.apart⟩⟩
  · rcases List.mem_cons.1 hmem with heq | hmem
    · exact hne heq.symm
    · exact h.ne_empty hmem
  · rw [hapart hboth.1 next hnext] at hboth
    cases hboth.2

/-- A node can come last when it is not empty and not a text after a text. -/
theorem concat {node : Node} {nodes : List Node} (h : Tidy nodes) (hne : node ≠ .text "")
    (hapart : node.isText = true → ∀ last ∈ nodes.getLast?, last.isText = false) :
    Tidy (nodes ++ [node]) := by
  refine ⟨fun hmem => ?_, List.isChain_append.2
    ⟨h.apart, List.isChain_singleton _, fun last hlast next hnext hboth => ?_⟩⟩
  · rcases List.mem_append.1 hmem with hmem | hmem
    · exact h.ne_empty hmem
    · exact hne (List.mem_singleton.1 hmem).symm
  · cases hnext
    rw [hapart hboth.2 last hlast] at hboth
    cases hboth.1

theorem joinText {nodes : List Node} (h : Tidy nodes) (value : String) :
    Tidy (joinText value nodes) := by
  by_cases hhead : ∀ node ∈ nodes.head?, node.isText = false
  · rw [joinText_of_head hhead]
    split
    · exact h
    · rename_i hvalue
      exact h.cons (by simpa using hvalue) fun _ => hhead
  · cases nodes with
    | nil => exact absurd (fun node hnode => by cases hnode) hhead
    | cons node nodes =>
        cases node with
        | text next =>
            have hnext : next ≠ "" := fun hnext => h.ne_empty (hnext ▸ List.mem_cons_self)
            refine h.of_cons.cons (by simp [hnext]) fun _ after hafter => ?_
            have hapart := (List.isChain_cons.1 h.apart).1 after hafter
            simpa using hapart
        | element tag children => exact absurd (by simp [isText]) hhead
        | markup kept => exact absurd (by simp) hhead

end Tidy

theorem tidy_mergedAll (nodes : List Node) : Tidy (mergedAll nodes) := by
  induction nodes with
  | nil =>
      rw [mergedAll]
      exact .nil
  | cons node nodes ih =>
      rcases node.cases_toNode with ⟨value, rfl⟩ | ⟨kept, rfl⟩ | ⟨e, rfl⟩
      · rw [mergedAll_cons_text]
        exact ih.joinText value
      · rw [mergedAll_cons_markup]
        exact ih.cons (by simp) fun h => by cases h
      · rw [mergedAll_cons_toNode]
        exact ih.cons (by simp [Element.toNode]) fun h => by cases h

/-- Merging makes an element of an element and nothing else. -/
theorem exists_of_toNode_mem_mergedAll {x : Element} {nodes : List Node}
    (h : x.toNode ∈ mergedAll nodes) : ∃ y : Element, y.toNode ∈ nodes ∧ x = y.merged := by
  have hjoin : ∀ value (nodes : List Node), x.toNode ∈ joinText value nodes → x.toNode ∈ nodes := by
    intro value nodes hmem
    unfold joinText at hmem
    split at hmem
    · simpa [Element.toNode] using hmem
    · split at hmem
      · exact hmem
      · simpa [Element.toNode] using hmem
  induction nodes with
  | nil =>
      rw [mergedAll] at h
      cases h
  | cons node nodes ih =>
      rcases node.cases_toNode with ⟨value, rfl⟩ | ⟨kept, rfl⟩ | ⟨e, rfl⟩
      · rw [mergedAll_cons_text] at h
        obtain ⟨y, hy, hx⟩ := ih (hjoin value _ h)
        exact ⟨y, List.mem_cons_of_mem _ hy, hx⟩
      · rw [mergedAll_cons_markup] at h
        obtain ⟨y, hy, hx⟩ := ih (by simpa [Element.toNode] using h)
        exact ⟨y, List.mem_cons_of_mem _ hy, hx⟩
      · rw [mergedAll_cons_toNode] at h
        rcases List.mem_cons.1 h with heq | hmem
        · exact ⟨e, List.mem_cons_self, Element.toNode_inj.1 heq⟩
        · obtain ⟨y, hy, hx⟩ := ih hmem
          exact ⟨y, List.mem_cons_of_mem _ hy, hx⟩

theorem mergedAll_eq_self {nodes : List Node} (h : Tidy nodes)
    (hbelow : ∀ x : Element, x.toNode ∈ nodes → x.merged = x) : mergedAll nodes = nodes := by
  induction nodes with
  | nil => rw [mergedAll]
  | cons node nodes ih =>
      have htail := ih h.of_cons fun x hx => hbelow x (List.mem_cons_of_mem _ hx)
      rcases node.cases_toNode with ⟨value, rfl⟩ | ⟨kept, rfl⟩ | ⟨e, rfl⟩
      · have hvalue : value ≠ "" := fun hvalue => h.ne_empty (hvalue ▸ List.mem_cons_self)
        have hhead : ∀ next ∈ nodes.head?, next.isText = false := fun next hnext => by
          simpa using (List.isChain_cons.1 h.apart).1 next hnext
        rw [mergedAll_cons_text, htail, joinText_of_head hhead, if_neg hvalue]
      · rw [mergedAll_cons_markup, htail]
      · rw [mergedAll_cons_toNode, htail, hbelow e List.mem_cons_self]

theorem textOfAll_mergedAll {nodes : List Node}
    (hbelow : ∀ x : Element, x.toNode ∈ nodes → x.merged.text = x.text) :
    textOfAll (mergedAll nodes) = textOfAll nodes := by
  induction nodes with
  | nil => rfl
  | cons node nodes ih =>
      have htail := ih fun x hx => hbelow x (List.mem_cons_of_mem _ hx)
      rcases node.cases_toNode with ⟨value, rfl⟩ | ⟨kept, rfl⟩ | ⟨e, rfl⟩
      · rw [mergedAll_cons_text, textOfAll_joinText, htail]
        rfl
      · rw [mergedAll_cons_markup, textOfAll, textOfAll, htail]
      · have he : e.merged.toNode.textOf = e.toNode.textOf := hbelow e List.mem_cons_self
        rw [mergedAll_cons_toNode, textOfAll, textOfAll, htail, he]

end Node

namespace Element

/-- Being tidy is told from what is not inside child elements. -/
theorem shallow_tidy : Shallow fun e => Node.Tidy e.children := by
  intro e x y index hx h
  have hindex := childAt?_eq_some_iff.1 hx
  refine ⟨fun hmem => ?_, ?_⟩
  · rcases List.mem_or_eq_of_mem_set hmem with hmem | heq
    · exact h.ne_empty hmem
    · cases heq
  · -- Which nodes are texts stays.
    have hkinds : (e.children.set index y.toNode).map Node.isText = e.children.map Node.isText := by
      refine List.ext_getElem? fun i => ?_
      rw [List.getElem?_map, List.getElem?_map]
      by_cases hi : index = i
      · subst hi
        rw [List.getElem?_set_self (List.getElem?_eq_some_iff.1 hindex).1, hindex]
        rfl
      · rw [List.getElem?_set_ne hi]
    have hchain := h.apart
    rw [← List.isChain_map (R := fun a b => ¬ (a = true ∧ b = true)) Node.isText] at hchain ⊢
    rwa [hkinds]

theorem everywhere_tidy_merged (e : Element) :
    e.merged.Everywhere fun x => Node.Tidy x.children := by
  induction e using induction_of_mem with
  | step e ih =>
      refine everywhere_iff_of_mem.2 ⟨Node.tidy_mergedAll e.children, fun x hx => ?_⟩
      obtain ⟨y, hy, rfl⟩ := Node.exists_of_toNode_mem_mergedAll hx
      exact ih y hy

theorem merged_of_tidy {e : Element} (h : e.Everywhere fun x => Node.Tidy x.children) :
    e.merged = e := by
  induction e using induction_of_mem with
  | step e ih =>
      obtain ⟨hself, hchildren⟩ := everywhere_iff_of_mem.1 h
      have hmerged : Node.mergedAll e.children = e.children :=
        Node.mergedAll_eq_self hself fun x hx => ih x hx (hchildren x hx)
      unfold merged
      rw [hmerged]

/-- The trees that stay are those with neither empty nor adjacent texts. -/
theorem merged_eq_self_iff {e : Element} :
    e.merged = e ↔ e.Everywhere fun x => Node.Tidy x.children :=
  ⟨fun h => h ▸ everywhere_tidy_merged e, merged_of_tidy⟩

theorem text_merged (e : Element) : e.merged.text = e.text := by
  induction e using induction_of_mem with
  | step e ih => exact Node.textOfAll_mergedAll ih

end Element

end MailMerge.Xml
