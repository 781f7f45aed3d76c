/-!
# `MailMerge.Xml.Basic`: documents as trees

An element has a tag (its name and attributes, prefixes included, as written) and a list of nodes.
Comments, character data sections, processing instructions and declarations are kept as written, so
a document that is read, edited in a few places and printed keeps the rest of its markup.

* `Element.attribute?_setAttribute`: an attribute that was set has the value it was set to.
-/

set_option autoImplicit false

namespace MailMerge.Xml

/-- An attribute with its decoded value. -/
structure Attribute where
  name : String
  value : String
deriving DecidableEq, Repr

/-- A start tag: a qualified name and its attributes in order. -/
structure Tag where
  name : String
  attributes : List Attribute
deriving DecidableEq, Repr

/-- Markup other than elements, kept as written. -/
inductive Markup where
  | comment (body : String)
  | cdata (body : String)
  | instruction (body : String)
  | declaration (body : String)
  | doctype (body : String)
  /-- Character data outside the root element, with its references as written. -/
  | characters (raw : String)
deriving DecidableEq, Repr

/-- A node of an element's content. -/
inductive Node where
  | element (tag : Tag) (children : List Node)
  /-- Decoded character data. -/
  | text (value : String)
  | markup (kept : Markup)
deriving Repr

/-- An element: its tag and its content. -/
structure Element extends Tag where
  children : List Node
deriving Repr

/-- A document: what stands before the root element, the root element, and what stands after it. -/
structure Document where
  prolog : List Markup
  root : Element
  epilog : List Markup
deriving Repr

/-! ### Equality of trees -/

mutual

/-- Decides whether two nodes are equal. -/
def Node.decEq : (a b : Node) → Decidable (a = b)
  | .element tag children, .element tag' children' =>
    if h : tag = tag' then
      match Node.decEqAll children children' with
      | isTrue h' => isTrue (by rw [h, h'])
      | isFalse h' => isFalse (by simp [h'])
    else isFalse (by simp [h])
  | .text value, .text value' =>
    if h : value = value' then isTrue (by rw [h]) else isFalse (by simp [h])
  | .markup kept, .markup kept' =>
    if h : kept = kept' then isTrue (by rw [h]) else isFalse (by simp [h])
  | .element .., .text _ | .element .., .markup _ | .text _, .element ..
  | .text _, .markup _ | .markup _, .element .. | .markup _, .text _ => isFalse (by simp)

/-- Decides whether two lists of nodes are equal. -/
def Node.decEqAll : (as bs : List Node) → Decidable (as = bs)
  | [], [] => isTrue rfl
  | [], _ :: _ | _ :: _, [] => isFalse (by simp)
  | a :: as, b :: bs =>
    match Node.decEq a b with
    | isTrue h =>
      match Node.decEqAll as bs with
      | isTrue h' => isTrue (by rw [h, h'])
      | isFalse h' => isFalse (by simp [h'])
    | isFalse h => isFalse (by simp [h])

end

instance : DecidableEq Node := Node.decEq

deriving instance DecidableEq for Element
deriving instance DecidableEq for Document

/-! ### Nodes -/

/-- The element that a node is, if it is one. -/
def Node.element? : Node → Option Element
  | .element tag children => some ⟨tag, children⟩
  | .text _ | .markup _ => none

/-- An element as a node. -/
def Element.toNode (e : Element) : Node := .element e.toTag e.children

@[simp] theorem Node.element?_element (tag : Tag) (children : List Node) :
    (Node.element tag children).element? = some ⟨tag, children⟩ := rfl

@[simp] theorem Node.element?_text (value : String) : (Node.text value).element? = none := rfl

@[simp] theorem Node.element?_markup (kept : Markup) :
    (Node.markup kept).element? = none := rfl

@[simp] theorem Element.element?_toNode (e : Element) : e.toNode.element? = some e := rfl

/-- The text that markup shows: that of a character data section. -/
def Markup.text : Markup → String
  | .cdata body => body
  | _ => ""

mutual

/-- The text of a node and all below it. -/
def Node.textOf : Node → String
  | .element _ children => Node.textOfAll children
  | .text value => value
  | .markup kept => kept.text

/-- The text of nodes and all below them, in order. -/
def Node.textOfAll : List Node → String
  | [] => ""
  | node :: nodes => node.textOf ++ Node.textOfAll nodes

end

/-! ### Elements -/

namespace Element

/-- An element without attributes and content. -/
def ofName (name : String) : Element := ⟨⟨name, []⟩, []⟩

/-- The text of all below the element. -/
def text (e : Element) : String := Node.textOfAll e.children

/-- The content replaced by one text, or by nothing where the text is empty. -/
def setText (e : Element) (value : String) : Element :=
  { e with children := if value = "" then [] else [.text value] }

/-- The content with a node added at its end. -/
def push (e : Element) (node : Node) : Element :=
  { e with children := e.children ++ [node] }

/-- Value of the first attribute of a name. -/
def attribute? (e : Element) (name : String) : Option String :=
  (e.attributes.find? (·.name = name)).map (·.value)

/-- The first attribute of a name gets a value; a new attribute comes last. -/
def setAttribute (e : Element) (name value : String) : Element :=
  let rec set : List Attribute → List Attribute
    | [] => [⟨name, value⟩]
    | a :: as => if a.name = name then ⟨name, value⟩ :: as else a :: set as
  { e with attributes := set e.attributes }

/-- The element without the first attribute of a name. -/
def removeAttribute (e : Element) (name : String) : Element :=
  { e with attributes := e.attributes.eraseP (·.name = name) }

/-- Child elements with their indices among all children. -/
def elements (e : Element) : List (Nat × Element) :=
  e.children.zipIdx.filterMap fun (node, index) => node.element?.map (index, ·)

/-- First child element of a name, with its index. -/
def findChild? (e : Element) (name : String) : Option (Nat × Element) :=
  e.elements.find? (·.2.name = name)

/-- First child element of a name. -/
def child? (e : Element) (name : String) : Option Element :=
  (e.findChild? name).map (·.2)

/-- Applies a function to the first child element of a name. -/
def modifyChild (e : Element) (name : String) (f : Element → Element) : Element :=
  match e.findChild? name with
  | some (index, child) => { e with children := e.children.set index (f child).toNode }
  | none => e

theorem attribute?_setAttribute (e : Element) (name value : String) :
    (e.setAttribute name value).attribute? name = some value := by
  unfold attribute? setAttribute
  generalize e.attributes = as
  induction as with
  | nil => simp [setAttribute.set]
  | cons a as ih =>
    by_cases h : a.name = name
    · simp [setAttribute.set, h]
    · simpa [setAttribute.set, h] using ih

theorem text_setText (e : Element) (value : String) : (e.setText value).text = value := by
  by_cases h : value = "" <;> simp [setText, text, h, Node.textOfAll, Node.textOf]

end Element

/-! ### Namespaces -/

/-- The prefix that a namespace declaration binds: none for other attributes, empty for the default
namespace. -/
def Attribute.declaredPrefix? (a : Attribute) : Option String :=
  if a.name = "xmlns" then some ""
  else if "xmlns:".toList.isPrefixOf a.name.toList then some (.ofList (a.name.toList.drop 6))
  else none

/-- The prefix to which the root element binds a namespace, by its first attribute that does. -/
def Document.prefixFor? (d : Document) (uri : String) : Option String :=
  d.root.attributes.findSome? fun a => if a.value = uri then a.declaredPrefix? else none

/-- A name under a prefix; the empty prefix is left out. -/
def qualifiedName (nsPrefix localName : String) : String :=
  if nsPrefix = "" then localName else nsPrefix ++ ":" ++ localName

/-- Under one prefix different names stay different. -/
theorem qualifiedName_inj {nsPrefix a b : String} :
    qualifiedName nsPrefix a = qualifiedName nsPrefix b ↔ a = b := by
  unfold qualifiedName
  split
  · rfl
  · exact String.append_right_inj _

end MailMerge.Xml
