import MailMerge.Xml.Basic

/-!
# `MailMerge.Xml.Path`: elements addressed by child indices

A path leads from an element to one below it by child indices that count every node. `walk` lists
an element and all elements below it with their paths, in document order.
-/

set_option autoImplicit false

namespace MailMerge.Xml

/-- Child indices from an element down. -/
abbrev Path := List Nat

namespace Element

/-- The element at a path; the empty path leads to the element itself. -/
def get? (e : Element) : Path → Option Element
  | [] => some e
  | index :: path =>
    match e.children[index]? with
    | some (.element tag children) => get? ⟨tag, children⟩ path
    | _ => none

/-- Applies a function to the element at a path, if there is one. -/
def modify (e : Element) (f : Element → Element) : Path → Element
  | [] => f e
  | index :: path =>
    match e.children[index]? with
    | some (.element tag children) =>
      { e with children := e.children.set index (modify ⟨tag, children⟩ f path).toNode }
    | _ => e

end Element

mutual

/-- A node, standing at an index, and all elements below it, with their paths. -/
def Node.walkAt (index : Nat) : Node → List (Path × Element)
  | .element tag children =>
    ([index], ⟨tag, children⟩) ::
      (Node.walkAll 0 children).map fun (path, e) => (index :: path, e)
  | .text _ | .markup _ => []

/-- Nodes, the first standing at an index, and all elements below them, with their paths. -/
def Node.walkAll (index : Nat) : List Node → List (Path × Element)
  | [] => []
  | node :: nodes => Node.walkAt index node ++ Node.walkAll (index + 1) nodes

end

/-- The element and all elements below it with their paths, in document order. -/
def Element.walk (e : Element) : List (Path × Element) :=
  ([], e) :: Node.walkAll 0 e.children

@[simp] theorem Element.get?_nil (e : Element) : e.get? [] = some e := by
  cases e; rfl

/-- What `modify` leads to at its own path. -/
theorem Element.get?_modify_self (e : Element) (f : Element → Element) (path : Path) :
    (e.modify f path).get? path = (e.get? path).map f := by
  induction path generalizing e with
  | nil => simp [modify]
  | cons index path ih =>
    cases h : e.children[index]? with
    | none => simp [modify, get?, h]
    | some node =>
      cases node with
      | element tag children =>
        have hlt : index < e.children.length := (List.getElem?_eq_some_iff.1 h).1
        simp only [modify, get?, h, List.getElem?_set_self hlt, Element.toNode]
        exact ih ⟨tag, children⟩
      | text value => simp [modify, get?, h]
      | markup kept => simp [modify, get?, h]

end MailMerge.Xml
