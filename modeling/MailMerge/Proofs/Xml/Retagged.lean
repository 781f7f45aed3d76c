import MailMerge.Proofs.Xml.Everywhere

/-!
# `MailMerge.Proofs.Xml.Retagged`: trees with other tags

A function on tags, applied to every tag of a tree, leaves the shape of the tree, its texts and its
other markup. So whatever leads to an element leads to the element with its new tags, and an edit
that does not see the tags can be made before or after.

* `get?_retag`, `elements_retag`, `walk_retag`: the elements stay where they are.
* `text_retag`: an element shows the same text.
* `modify_retag`: edits and new tags commute.
-/

set_option autoImplicit false

namespace MailMerge.Xml

mutual

/-- A node with a function applied to its tag and to all tags below it. -/
def Node.retag (f : Tag → Tag) : Node → Node
  | .element tag children => .element (f tag) (Node.retagAll f children)
  | .text value => .text value
  | .markup kept => .markup kept

/-- Nodes with a function applied to all tags in them. -/
def Node.retagAll (f : Tag → Tag) : List Node → List Node
  | [] => []
  | node :: nodes => node.retag f :: Node.retagAll f nodes

end

/-- An element with a function applied to its tag and to all tags below it. -/
def Element.retag (f : Tag → Tag) (e : Element) : Element := ⟨f e.toTag, Node.retagAll f e.children⟩

/-- A document with a function applied to all its tags. -/
def Document.retag (f : Tag → Tag) (d : Document) : Document := { d with root := d.root.retag f }

variable (f : Tag → Tag)

theorem Node.retagAll_eq_map (nodes : List Node) :
    Node.retagAll f nodes = nodes.map (Node.retag f) := by
  induction nodes with
  | nil => rfl
  | cons node nodes ih => rw [Node.retagAll, ih, List.map_cons]

theorem Node.element?_retag (node : Node) :
    (node.retag f).element? = node.element?.map (Element.retag f) := by
  cases node <;> rfl

mutual

theorem Node.textOf_retag : (node : Node) → (node.retag f).textOf = node.textOf
  | .element _ children => Node.textOfAll_retagAll children
  | .text _ => rfl
  | .markup _ => rfl

theorem Node.textOfAll_retagAll : (nodes : List Node) →
    Node.textOfAll (Node.retagAll f nodes) = Node.textOfAll nodes
  | [] => rfl
  | node :: nodes => by
      rw [Node.retagAll, Node.textOfAll, Node.textOfAll, Node.textOf_retag,
        Node.textOfAll_retagAll]

end

namespace Element

variable (e : Element)

@[simp] theorem toTag_retag : (e.retag f).toTag = f e.toTag := rfl

theorem children_retag : (e.retag f).children = e.children.map (Node.retag f) :=
  Node.retagAll_eq_map f e.children

theorem toNode_retag : (e.retag f).toNode = e.toNode.retag f := rfl

theorem text_retag : (e.retag f).text = e.text := Node.textOfAll_retagAll f e.children

/-- A child element with its index, with other tags. -/
def retagEntry (entry : Nat × Element) : Nat × Element := (entry.1, entry.2.retag f)

theorem elements_retag : (e.retag f).elements = e.elements.map (retagEntry f) := by
  unfold elements
  rw [children_retag, List.zipIdx_map, List.filterMap_map, List.map_filterMap]
  congr 1
  funext ⟨node, index⟩
  simp [Node.element?_retag, Function.comp_def, retagEntry]

theorem childAt?_retag (index : Nat) :
    (e.retag f).childAt? index = (e.childAt? index).map (retag f) := by
  unfold childAt?
  rw [children_retag, List.getElem?_map]
  cases e.children[index]? with
  | none => rfl
  | some node => exact Node.element?_retag f node

theorem get?_retag (path : Path) : (e.retag f).get? path = (e.get? path).map (retag f) := by
  induction path generalizing e with
  | nil => simp
  | cons index path ih =>
      rw [get?_cons, get?_cons, childAt?_retag]
      cases e.childAt? index with
      | none => rfl
      | some x => exact ih x

theorem walk_retag : (e.retag f).walk = e.walk.map fun (path, x) => (path, x.retag f) := by
  induction e using induction with
  | step e ih =>
      rw [walk_eq, walk_eq, elements_retag, List.flatMap_map, List.map_cons, List.map_flatMap]
      refine congrArg _ (List.flatMap_congr fun (index, x) hx => ?_)
      have hwalk := ih index x (mem_elements_iff.1 hx)
      dsimp only [retagEntry]
      rw [hwalk, List.map_map, List.map_map]
      rfl

/-- An edit that does not see the tags can be made before or after. -/
theorem modify_retag {g : Element → Element} (hg : ∀ x : Element, g (x.retag f) = (g x).retag f)
    (path : Path) : (e.retag f).modify g path = (e.modify g path).retag f := by
  induction path generalizing e with
  | nil => exact hg e
  | cons index path ih =>
      rw [modify_cons, modify_cons, childAt?_retag]
      cases e.childAt? index with
      | none => rfl
      | some x =>
          dsimp only [Option.map_some]
          rw [ih x, toNode_retag, children_retag, ← List.map_set]
          exact congrArg (Element.mk (f e.toTag)) (Node.retagAll_eq_map f _).symm

end Element

end MailMerge.Xml
