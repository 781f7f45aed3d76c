import MailMerge.Xml.Path
import Mathlib.Data.List.Sort

/-!
# `MailMerge.Proofs.Xml.Tree`: looking up, walking and editing a tree

Three views of a tree of elements, and how they agree.

* `Element.walk_eq`: the walk of an element is the element, then the walks of its child elements.
  Proofs over the tree use this equation and `Element.induction`, and leave the recursion over
  nodes closed.
* `Element.mem_walk_iff`: the walk lists exactly the elements that paths lead to.
* `Element.pairwise_walk`: the paths of a walk grow from entry to entry, so an element comes before
  those inside it and behind those that end before it begins.
* `Element.label?`: the node at a path without what is below it. A tree is the table of its labels
  (`Element.eq_of_label?_eq`), so "all else is unchanged" is a statement about labels.
* `Element.get?_modify_append`, `Element.label?_modify`: an edit at a path is seen at and below the
  path, and nowhere else.
-/

set_option autoImplicit false

namespace MailMerge.Xml

/-! ### Child elements -/

theorem Node.element?_eq_some_iff {node : Node} {e : Element} :
    node.element? = some e ↔ node = e.toNode := by
  cases node with
  | element tag children =>
      constructor
      · intro h
        simp only [Node.element?_element, Option.some.injEq] at h
        subst h
        rfl
      · intro h
        rw [h, Element.element?_toNode]
  | text value => simp [Element.toNode]
  | markup kept => simp [Element.toNode]

namespace Element

@[simp] theorem toNode_inj {e e' : Element} : e.toNode = e'.toNode ↔ e = e' := by
  constructor
  · intro h
    have := congrArg Node.element? h
    simpa using this
  · rintro rfl
    rfl

/-- The child element at an index. -/
def childAt? (e : Element) (index : Nat) : Option Element :=
  e.children[index]?.bind Node.element?

theorem childAt?_eq_some_iff {e x : Element} {index : Nat} :
    e.childAt? index = some x ↔ e.children[index]? = some x.toNode := by
  unfold childAt?
  rw [Option.bind_eq_some_iff]
  constructor
  · intro ⟨node, hnode, hx⟩
    rwa [Node.element?_eq_some_iff.1 hx] at hnode
  · intro h
    exact ⟨_, h, element?_toNode x⟩

/-- What is a child element depends on the child alone. -/
theorem childAt?_congr {e e' : Element} {index : Nat}
    (h : e.children[index]? = e'.children[index]?) : e.childAt? index = e'.childAt? index := by
  unfold childAt?
  rw [h]

theorem mem_elements_iff {e x : Element} {index : Nat} :
    (index, x) ∈ e.elements ↔ e.childAt? index = some x := by
  rw [childAt?_eq_some_iff]
  unfold elements
  simp only [List.mem_filterMap, List.mem_zipIdx_iff_getElem?, Option.map_eq_some_iff,
    Node.element?_eq_some_iff, Prod.mk.injEq, Prod.exists]
  constructor
  · rintro ⟨node, i, hnode, y, rfl, rfl, rfl⟩
    exact hnode
  · intro h
    exact ⟨_, index, h, x, rfl, rfl, rfl⟩

theorem elements_eq_nil_iff {e : Element} :
    e.elements = [] ↔ ∀ index, e.childAt? index = none := by
  constructor
  · intro h index
    cases hx : e.childAt? index with
    | none => rfl
    | some x =>
        rw [← mem_elements_iff, h] at hx
        cases hx
  · intro h
    rw [List.eq_nil_iff_forall_not_mem]
    intro (index, x) hx
    rw [mem_elements_iff, h index] at hx
    cases hx

/-- Child elements stand in the order of their indices. -/
theorem pairwise_elements (e : Element) : e.elements.Pairwise fun a b => a.1 < b.1 := by
  have hindex : e.children.zipIdx.Pairwise fun a b => a.2 < b.2 := by
    rw [← List.pairwise_map, List.zipIdx_map_snd]
    exact List.pairwise_lt_range'
  refine hindex.filterMap _ ?_
  intro ⟨node, i⟩ ⟨node', i'⟩ hlt ⟨j, x⟩ hx ⟨j', x'⟩ hx'
  obtain ⟨_, _, heq⟩ := Option.map_eq_some_iff.1 hx
  obtain ⟨_, _, heq'⟩ := Option.map_eq_some_iff.1 hx'
  cases heq
  cases heq'
  exact hlt

/-- A list in the order of indices that has exactly the child elements is the list of them. -/
theorem eq_elements {e : Element} {entries : List (Nat × Element)}
    (hsorted : entries.Pairwise fun a b => a.1 < b.1)
    (hmem : ∀ index x, (index, x) ∈ entries ↔ e.childAt? index = some x) :
    entries = e.elements := by
  have hirrefl : Std.Irrefl fun a b : Nat × Element => a.1 < b.1 := ⟨fun _ => Nat.lt_irrefl _⟩
  have hantisymm : Std.Antisymm fun a b : Nat × Element => a.1 < b.1 :=
    ⟨fun _ _ h h' => absurd h' (Nat.lt_asymm h)⟩
  -- Both lists are sorted by index, so their members determine them.
  refine hsorted.eq_of_mem_iff e.pairwise_elements ?_
  intro ⟨index, x⟩
  rw [hmem, mem_elements_iff]

/-- The first entry with a property, in a list in the order of indices. -/
theorem find?_eq_some_iff_of_pairwise {entries : List (Nat × Element)}
    (hsorted : entries.Pairwise fun a b => a.1 < b.1) {p : Nat × Element → Bool}
    {entry : Nat × Element} :
    entries.find? p = some entry
      ↔ entry ∈ entries ∧ p entry ∧ ∀ other ∈ entries, other.1 < entry.1 → ¬ p other := by
  rw [List.find?_eq_some_iff_append]
  constructor
  · rintro ⟨hp, before, behind, rfl, hbefore⟩
    rw [List.pairwise_append, List.pairwise_cons] at hsorted
    refine ⟨by simp, hp, fun other hother hlt => ?_⟩
    rw [List.mem_append, List.mem_cons] at hother
    rcases hother with hmem | rfl | hmem
    · simpa using hbefore other hmem
    · exact absurd hlt (Nat.lt_irrefl _)
    · exact absurd (hsorted.2.1.1 other hmem) (Nat.lt_asymm hlt)
  · intro ⟨hmem, hp, hfirst⟩
    -- In a sorted list the entries before an entry are those of a smaller index.
    obtain ⟨before, behind, rfl⟩ := List.append_of_mem hmem
    rw [List.pairwise_append] at hsorted
    refine ⟨hp, before, behind, rfl, fun other hother => ?_⟩
    have hlt := hsorted.2.2 other hother entry List.mem_cons_self
    simpa using hfirst other (List.mem_append_left _ hother) hlt

/-- The first child element of a name, told by its index. -/
theorem findChild?_eq_some_iff {e x : Element} {name : String} {index : Nat} :
    e.findChild? name = some (index, x)
      ↔ e.childAt? index = some x ∧ x.name = name
        ∧ ∀ (i : Nat) (y : Element), i < index → e.childAt? i = some y → y.name ≠ name := by
  unfold findChild?
  rw [find?_eq_some_iff_of_pairwise e.pairwise_elements]
  simp only [mem_elements_iff, decide_eq_true_eq, Prod.forall]
  refine and_congr_right fun _ => and_congr_right fun _ => forall_congr' fun i => ?_
  exact forall_congr' fun y => ⟨fun h hi hy => h hy hi, fun h hy hi => h hi hy⟩

/-- The first child element of a name stands at its index. -/
theorem findChild?_eq_some {e x : Element} {name : String} {index : Nat}
    (h : e.findChild? name = some (index, x)) : e.childAt? index = some x ∧ x.name = name :=
  ⟨(findChild?_eq_some_iff.1 h).1, (findChild?_eq_some_iff.1 h).2.1⟩

theorem child?_eq_some_iff {e x : Element} {name : String} :
    e.child? name = some x ↔ ∃ index, e.findChild? name = some (index, x) := by
  unfold child?
  rw [Option.map_eq_some_iff]
  constructor
  · rintro ⟨⟨index, y⟩, h, rfl⟩
    exact ⟨index, h⟩
  · intro ⟨index, h⟩
    exact ⟨_, h, rfl⟩

/-- A plain text is no child element. -/
theorem childAt?_setText (e : Element) (text : String) (index : Nat) :
    (e.setText text).childAt? index = none := by
  unfold childAt? setText
  split
  · rfl
  · cases index <;> rfl

/-- Elements with one tag and the same children are equal. -/
theorem ext_children {e e' : Element} (htag : e.toTag = e'.toTag)
    (hchildren : ∀ index : Nat, e.children[index]? = e'.children[index]?) : e = e' := by
  obtain ⟨tag, children⟩ := e
  obtain ⟨tag', children'⟩ := e'
  obtain rfl : tag = tag' := htag
  obtain rfl : children = children' := List.ext_getElem? hchildren
  rfl

/-- A child element is smaller than the element. -/
theorem sizeOf_lt_of_childAt? {e x : Element} {index : Nat} (h : e.childAt? index = some x) :
    sizeOf x < sizeOf e := by
  have hmem := List.sizeOf_lt_of_mem (List.mem_of_getElem? (childAt?_eq_some_iff.1 h))
  have hx : sizeOf x.toNode = sizeOf x := by
    cases x
    simp [toNode]
  have he : sizeOf e.children < sizeOf e := by
    cases e
    simp only [mk.sizeOf_spec]
    omega
  omega

/-- Induction on an element by its child elements. -/
@[elab_as_elim]
theorem induction {motive : Element → Prop}
    (step : ∀ e : Element, (∀ index x, e.childAt? index = some x → motive x) → motive e)
    (e : Element) : motive e :=
  step e fun _ x _ => induction step x
termination_by sizeOf e
decreasing_by
  rename_i h
  exact sizeOf_lt_of_childAt? h

/-! ### Looking up -/

theorem get?_cons (e : Element) (index : Nat) (path : Path) :
    e.get? (index :: path) = (e.childAt? index).bind (·.get? path) := by
  unfold childAt?
  rw [get?]
  cases h : e.children[index]? with
  | none => rfl
  | some node => cases node <;> rfl

theorem get?_cons_of_childAt? {e x : Element} {index : Nat} (h : e.childAt? index = some x)
    (path : Path) : e.get? (index :: path) = x.get? path := by
  rw [get?_cons, h]
  rfl

theorem get?_append (e : Element) (path below : Path) :
    e.get? (path ++ below) = (e.get? path).bind (·.get? below) := by
  induction path generalizing e with
  | nil => simp
  | cons index path ih =>
      rw [List.cons_append, get?_cons, get?_cons]
      cases e.childAt? index with
      | none => rfl
      | some x => exact ih x

/-! ### Walking -/

end Element

/-- The walk of nodes, the first at an index, is made of the walks of the elements among them. -/
theorem Node.walkAll_eq (index : Nat) (nodes : List Node) :
    Node.walkAll index nodes
      = ((nodes.zipIdx index).filterMap fun (node, i) => node.element?.map (i, ·)).flatMap
          fun (i, x) => x.walk.map fun (path, y) => (i :: path, y) := by
  induction nodes generalizing index with
  | nil => rfl
  | cons node nodes ih =>
      rw [Node.walkAll, ih (index + 1), List.zipIdx_cons]
      cases node with
      | element tag children =>
          simp [Node.walkAt, Element.walk]
      | text value => rfl
      | markup kept => rfl

namespace Element

/-- The walk of an element: the element, then the walks of its child elements. -/
theorem walk_eq (e : Element) :
    e.walk = ([], e) :: e.elements.flatMap
      fun (index, x) => x.walk.map fun (path, y) => (index :: path, y) := by
  rw [walk, Node.walkAll_eq]
  rfl

/-- The walk lists the elements that paths lead to. -/
theorem mem_walk_iff {e x : Element} {path : Path} :
    (path, x) ∈ e.walk ↔ e.get? path = some x := by
  induction e using induction generalizing path x with
  | step e ih =>
      rw [walk_eq]
      simp only [List.mem_cons, Prod.mk.injEq, List.mem_flatMap, List.mem_map, Prod.exists,
        mem_elements_iff]
      cases path with
      | nil => simp [eq_comm]
      | cons index path =>
          -- The path begins with the index of the child in whose walk it is.
          rw [get?_cons, Option.bind_eq_some_iff]
          constructor
          · rintro (⟨h, -⟩ | ⟨i, y, hy, p, z, hz, hp, rfl⟩)
            · cases h
            · cases hp
              exact ⟨y, hy, (ih _ y hy).1 hz⟩
          · intro ⟨y, hy, hx⟩
            exact Or.inr ⟨index, y, hy, path, x, (ih _ y hy).2 hx, rfl, rfl⟩

/-- So it can be told from the walk what holds at all paths. -/
theorem forall_mem_walk_iff {e : Element} {p : Path × Element → Prop} :
    (∀ entry ∈ e.walk, p entry) ↔ ∀ path x, e.get? path = some x → p (path, x) := by
  simp only [Prod.forall, mem_walk_iff]

/-- The paths of a walk grow, in the lexicographic order. -/
theorem pairwise_walk (e : Element) : (e.walk.map (·.1)).Pairwise (· < ·) := by
  induction e using induction with
  | step e ih =>
      rw [walk_eq, List.map_cons, List.map_flatMap, List.pairwise_cons, List.pairwise_flatMap]
      refine ⟨fun path hpath => ?_, fun (index, x) hx => ?_, e.pairwise_elements.imp ?_⟩
      · -- The element itself has the empty path, and all others begin with an index.
        simp only [List.mem_flatMap, List.mem_map] at hpath
        obtain ⟨_, -, _, ⟨_, -, rfl⟩, rfl⟩ := hpath
        exact List.nil_lt_cons _ _
      · have hwalk := ih index x (mem_elements_iff.1 hx)
        rw [List.pairwise_map] at hwalk ⊢
        rw [List.pairwise_map]
        exact hwalk.imp fun hlt => List.cons_lt_cons_iff.2 (.inr ⟨rfl, hlt⟩)
      · intro (index, x) (index', x') hlt path hpath path' hpath'
        simp only [List.mem_map] at hpath hpath'
        obtain ⟨_, ⟨_, -, rfl⟩, rfl⟩ := hpath
        obtain ⟨_, ⟨_, -, rfl⟩, rfl⟩ := hpath'
        exact List.cons_lt_cons_iff.2 (.inl hlt)

/-- The walk comes to no path twice. -/
theorem nodup_walk (e : Element) : (e.walk.map (·.1)).Nodup := by
  rw [List.nodup_iff_pairwise_ne]
  refine e.pairwise_walk.imp fun hlt => ?_
  rintro rfl
  exact List.lt_irrefl _ hlt

/-! ### Editing -/

theorem modify_cons (e : Element) (f : Element → Element) (index : Nat) (path : Path) :
    e.modify f (index :: path) = match e.childAt? index with
      | some x => { e with children := e.children.set index (x.modify f path).toNode }
      | none => e := by
  unfold childAt?
  rw [modify]
  cases h : e.children[index]? with
  | none => rfl
  | some node => cases node <;> rfl

theorem toTag_modify_cons (e : Element) (f : Element → Element) (index : Nat) (path : Path) :
    (e.modify f (index :: path)).toTag = e.toTag := by
  rw [modify_cons]
  cases e.childAt? index <;> rfl

theorem childAt?_set_self {e x y : Element} {index : Nat} (h : e.childAt? index = some x) :
    childAt? { e with children := e.children.set index y.toNode } index = some y := by
  have hlt := (List.getElem?_eq_some_iff.1 (childAt?_eq_some_iff.1 h)).1
  rw [childAt?_eq_some_iff, List.getElem?_set_self hlt]

theorem childAt?_set_of_ne {e : Element} {node : Node} {index other : Nat}
    (h : index ≠ other) :
    childAt? { e with children := e.children.set index node } other = e.childAt? other := by
  unfold childAt?
  rw [List.getElem?_set_ne h]

/-- A child element put in its own place changes nothing. -/
theorem set_of_childAt? {e x : Element} {index : Nat} (h : e.childAt? index = some x) :
    { e with children := e.children.set index x.toNode } = e := by
  refine ext_children rfl fun i => ?_
  by_cases hi : index = i
  · subst hi
    rw [childAt?_eq_some_iff.1 (childAt?_set_self h), childAt?_eq_some_iff.1 h]
  · rw [List.getElem?_set_ne hi]

/-- An edit below a child element leaves the other child elements. -/
theorem elements_modify_cons (e : Element) (f : Element → Element) (index : Nat) (path : Path) :
    (e.modify f (index :: path)).elements
      = e.elements.map fun (i, x) => (i, if i = index then x.modify f path else x) := by
  symm
  apply eq_elements
  · exact List.pairwise_map.2 e.pairwise_elements
  · intro i x
    simp only [List.mem_map, Prod.exists, Prod.mk.injEq, mem_elements_iff]
    rw [modify_cons]
    cases hat : e.childAt? index with
    | none =>
        constructor
        · rintro ⟨j, y, hy, rfl, rfl⟩
          rw [if_neg (by rintro rfl; simp [hat] at hy)]
          exact hy
        · intro hx
          exact ⟨i, x, hx, rfl, if_neg (by rintro rfl; simp [hat] at hx)⟩
    | some z =>
        by_cases hi : i = index
        · subst hi
          rw [childAt?_set_self hat]
          simp [hat]
        · rw [childAt?_set_of_ne (Ne.symm hi)]
          simp [hi]

/-- At and below the path of an edit stands what the edit made of the element. -/
theorem get?_modify_append (e : Element) (f : Element → Element) (path below : Path) :
    (e.modify f path).get? (path ++ below) = (e.get? path).bind fun x => (f x).get? below := by
  rw [get?_append, get?_modify_self]
  cases e.get? path <;> rfl

/-- An element around an edited element is edited below it. -/
theorem get?_modify_around (e : Element) (f : Element → Element) (path below : Path) :
    (e.modify f (path ++ below)).get? path = (e.get? path).map (·.modify f below) := by
  induction path generalizing e with
  | nil => rw [List.nil_append, get?_nil, get?_nil, Option.map_some]
  | cons index path ih =>
      rw [List.cons_append, modify_cons, get?_cons e]
      cases hx : e.childAt? index with
      | none =>
          dsimp only
          rw [get?_cons, hx]
          rfl
      | some x =>
          rw [get?_cons_of_childAt? (childAt?_set_self hx)]
          exact ih x

/-- An element that is neither around an edited element nor inside it stays. -/
theorem get?_modify_of_apart (e : Element) (f : Element → Element) {path other : Path}
    (h : ¬ path <+: other) (h' : ¬ other <+: path) :
    (e.modify f path).get? other = e.get? other := by
  induction path generalizing e other with
  | nil => exact absurd List.nil_prefix h
  | cons index path ih =>
      cases other with
      | nil => exact absurd List.nil_prefix h'
      | cons i other =>
          rw [modify_cons]
          cases hx : e.childAt? index with
          | none => rfl
          | some x =>
              rw [get?_cons, get?_cons]
              -- The two paths part here, or below the same child.
              by_cases hi : index = i
              · subst hi
                rw [childAt?_set_self hx, hx]
                refine ih x ?_ ?_
                · simpa using h
                · simpa using h'
              · rw [childAt?_set_of_ne hi]

/-! ### Editing all child elements -/

/-- The element with a function applied to each child element. -/
def mapChildren (f : Element → Element) (e : Element) : Element :=
  { e with children := e.children.map fun node =>
      match node.element? with
      | some x => (f x).toNode
      | none => node }

@[simp] theorem toTag_mapChildren (f : Element → Element) (e : Element) :
    (e.mapChildren f).toTag = e.toTag := rfl

theorem elements_mapChildren (f : Element → Element) (e : Element) :
    (e.mapChildren f).elements = e.elements.map fun (index, x) => (index, f x) := by
  unfold elements mapChildren
  rw [List.zipIdx_map, List.filterMap_map, List.map_filterMap]
  congr 1
  funext ⟨node, index⟩
  cases h : node.element? <;> simp [h]

/-- A function that keeps names keeps which child element is the first of a name. -/
theorem findChild?_mapChildren {f : Element → Element} (hf : ∀ x, (f x).name = x.name)
    (e : Element) (name : String) :
    (e.mapChildren f).findChild? name
      = (e.findChild? name).map fun (index, x) => (index, f x) := by
  unfold findChild?
  rw [elements_mapChildren, List.find?_map]
  simp only [Function.comp_def, hf]

theorem childAt?_mapChildren (f : Element → Element) (e : Element) (index : Nat) :
    (e.mapChildren f).childAt? index = (e.childAt? index).map f := by
  unfold childAt? mapChildren
  rw [List.getElem?_map]
  cases e.children[index]? with
  | none => rfl
  | some node => cases h : node.element? <;> simp [h]

/-- A child that the function keeps is kept. -/
theorem children_mapChildren_of_eq {f : Element → Element} {e : Element} {index : Nat}
    (h : ∀ x, e.childAt? index = some x → f x = x) :
    (e.mapChildren f).children[index]? = e.children[index]? := by
  unfold mapChildren
  rw [List.getElem?_map]
  cases hnode : e.children[index]? with
  | none => rfl
  | some node =>
      cases hx : node.element? with
      | none => simp [hx]
      | some x =>
          rw [Node.element?_eq_some_iff.1 hx] at hnode ⊢
          simp [h x (childAt?_eq_some_iff.2 hnode)]

theorem mapChildren_congr {f g : Element → Element} {e : Element}
    (h : ∀ index x, e.childAt? index = some x → f x = g x) : e.mapChildren f = e.mapChildren g := by
  unfold mapChildren
  congr 1
  refine List.map_congr_left fun node hnode => ?_
  obtain ⟨index, hindex⟩ := List.getElem?_of_mem hnode
  cases hx : node.element? with
  | none => rfl
  | some x =>
      rw [Node.element?_eq_some_iff.1 hx] at hindex
      simp only [h index x (childAt?_eq_some_iff.2 hindex)]

theorem mapChildren_eq_self {f : Element → Element} {e : Element}
    (h : ∀ index x, e.childAt? index = some x → f x = x) : e.mapChildren f = e := by
  rw [mapChildren_congr (g := id) h]
  unfold mapChildren
  have hid : (fun node : Node => match node.element? with
      | some x => (id x).toNode
      | none => node) = id := by
    funext node
    cases hx : node.element? with
    | none => rfl
    | some x => exact (Node.element?_eq_some_iff.1 hx).symm
  rw [hid, List.map_id]

theorem mapChildren_mapChildren (f g : Element → Element) (e : Element) :
    (e.mapChildren g).mapChildren f = e.mapChildren fun x => f (g x) := by
  unfold mapChildren
  simp only [List.map_map]
  congr 1
  refine List.map_congr_left fun node _ => ?_
  cases h : node.element? <;> simp [h]

/-! ### Editing at several paths -/

/-- An edit at several paths, one after another. -/
def modifyAll (e : Element) (f : Element → Element) (paths : List Path) : Element :=
  paths.foldl (fun e path => e.modify f path) e

/-- Edits below one child are edits of that child. -/
theorem modifyAll_map_cons (f : Element → Element) (paths : List Path) {e x : Element}
    {index : Nat} (h : e.childAt? index = some x) :
    e.modifyAll f (paths.map (index :: ·))
      = { e with children := e.children.set index (x.modifyAll f paths).toNode } := by
  induction paths generalizing e x with
  | nil => exact (set_of_childAt? h).symm
  | cons path paths ih =>
      show modifyAll (e.modify f (index :: path)) f (paths.map (index :: ·)) = _
      rw [modify_cons, h]
      dsimp only
      rw [ih (childAt?_set_self h), List.set_set]
      rfl

/-- Edits below all child elements, from the first to the last. The nodes before those that are
still to be edited are kept apart in `pre`, so that the indices grow with the recursion. -/
theorem modifyAll_nodes (f : Element → Element) (paths : Element → List Path) (tag : Tag)
    (pre nodes : List Node) :
    modifyAll ⟨tag, pre ++ nodes⟩ f
        (((nodes.zipIdx pre.length).filterMap fun (node, i) => node.element?.map (i, ·)).flatMap
          fun (i, x) => (paths x).map (i :: ·))
      = ⟨tag, pre ++ nodes.map fun node =>
          match node.element? with
          | some x => (x.modifyAll f (paths x)).toNode
          | none => node⟩ := by
  induction nodes generalizing pre with
  | nil => rfl
  | cons node nodes ih =>
      cases hx : node.element? with
      | none =>
          have hrest := ih (pre ++ [node])
          rw [List.length_append, List.length_singleton] at hrest
          simp only [List.zipIdx_cons, List.filterMap_cons, hx, Option.map_none]
          simpa [hx] using hrest
      | some x =>
          have hchild : childAt? ⟨tag, pre ++ node :: nodes⟩ pre.length = some x := by
            rw [childAt?_eq_some_iff, ← Node.element?_eq_some_iff.1 hx]
            simp
          -- This child is edited first, and what becomes of it joins the nodes that are done.
          have hrest := ih (pre ++ [(x.modifyAll f (paths x)).toNode])
          rw [List.length_append, List.length_singleton] at hrest
          simp only [List.zipIdx_cons, List.filterMap_cons, hx, Option.map_some,
            List.flatMap_cons]
          rw [modifyAll, List.foldl_append]
          show modifyAll (modifyAll _ f ((paths x).map (pre.length :: ·))) f _ = _
          rw [modifyAll_map_cons f (paths x) hchild]
          simpa [hx] using hrest

theorem modifyAll_elements (f : Element → Element) (paths : Element → List Path) (e : Element) :
    e.modifyAll f (e.elements.flatMap fun (index, x) => (paths x).map (index :: ·))
      = e.mapChildren fun x => x.modifyAll f (paths x) :=
  modifyAll_nodes f paths e.toTag [] e.children

/-- Paths below child elements, told from the children alone. -/
theorem flatMap_elements (paths : Element → List Path) (e : Element) :
    (e.elements.flatMap fun (index, x) => (paths x).map (index :: ·))
      = (e.children.map fun node => (node.element?.map paths).getD []).zipIdx.flatMap
          fun (below, index) => below.map (index :: ·) := by
  unfold elements
  rw [List.filterMap_eq_flatMap_toList, List.flatMap_assoc, List.zipIdx_map, List.flatMap_map]
  refine List.flatMap_congr ?_
  rintro ⟨node, index⟩ -
  cases h : node.element? <;> simp [h]

end Element

/-! ### Labels -/

/-- A node without what is below it. -/
inductive Label where
  | element (tag : Tag)
  | text (value : String)
  | markup (kept : Markup)
deriving DecidableEq, Repr

/-- A node's own part. -/
def Node.label : Node → Label
  | .element tag _ => .element tag
  | .text value => .text value
  | .markup kept => .markup kept

namespace Element

/-- The label of the node at a path. -/
def label? (e : Element) : Path → Option Label
  | [] => some (.element e.toTag)
  | [index] => e.children[index]?.map Node.label
  | index :: next :: path => (e.childAt? index).bind (·.label? (next :: path))

theorem label?_cons {e x : Element} {index : Nat} (h : e.childAt? index = some x) (path : Path) :
    e.label? (index :: path) = x.label? path := by
  cases path with
  | nil =>
      show e.children[index]?.map Node.label = x.label? []
      rw [childAt?_eq_some_iff.1 h]
      rfl
  | cons next path =>
      show (e.childAt? index).bind _ = _
      rw [h]
      rfl

/-- Labels at and below a child depend on the child alone. -/
theorem label?_congr {e e' : Element} {index : Nat}
    (h : e.children[index]? = e'.children[index]?) (path : Path) :
    e.label? (index :: path) = e'.label? (index :: path) := by
  cases path with
  | nil =>
      show e.children[index]?.map _ = e'.children[index]?.map _
      rw [h]
  | cons next path =>
      show (e.childAt? index).bind _ = (e'.childAt? index).bind _
      rw [childAt?_congr h]

/-- A tree is the table of its labels. -/
theorem eq_of_label?_eq {e e' : Element} (h : ∀ path, e.label? path = e'.label? path) :
    e = e' := by
  induction e using induction generalizing e' with
  | step e ih =>
      have htag : e.toTag = e'.toTag := by simpa [label?] using h []
      refine ext_children htag fun index => ?_
      -- The label of a child tells its kind. It is all of a text or a markup, and of an element the
      -- longer paths tell the rest.
      have hlabel : e.children[index]?.map Node.label = e'.children[index]?.map Node.label :=
        h [index]
      cases hn : e.children[index]? with
      | none =>
          rw [hn] at hlabel
          exact (Option.map_eq_none_iff.1 hlabel.symm).symm
      | some node =>
          rw [hn] at hlabel
          obtain ⟨node', hn', hnode⟩ := Option.map_eq_some_iff.1 hlabel.symm
          rw [hn', Option.some.injEq]
          cases node with
          | element tag children =>
              cases node' with
              | element tag' children' =>
                  have hx : e.childAt? index = some ⟨tag, children⟩ :=
                    childAt?_eq_some_iff.2 hn
                  have hx' : e'.childAt? index = some ⟨tag', children'⟩ :=
                    childAt?_eq_some_iff.2 hn'
                  have heq : (⟨tag, children⟩ : Element) = ⟨tag', children'⟩ :=
                    ih index _ hx fun path => by
                      rw [← label?_cons hx, ← label?_cons hx', h]
                  exact congrArg toNode heq
              | text value => simp [Node.label] at hnode
              | markup kept => simp [Node.label] at hnode
          | text value => cases node' <;> simp_all [Node.label]
          | markup kept => cases node' <;> simp_all [Node.label]

theorem label?_append {e x : Element} {path : Path} (h : e.get? path = some x) (below : Path) :
    e.label? (path ++ below) = x.label? below := by
  induction path generalizing e with
  | nil =>
      rw [get?_nil, Option.some.injEq] at h
      rw [h, List.nil_append]
  | cons index path ih =>
      rw [get?_cons, Option.bind_eq_some_iff] at h
      obtain ⟨y, hy, h⟩ := h
      rw [List.cons_append, label?_cons hy, ih h]

/-- A label of an element stands for an element. -/
theorem exists_get?_of_label? {e : Element} {path : Path} {tag : Tag}
    (h : e.label? path = some (.element tag)) : ∃ x, e.get? path = some x := by
  induction path generalizing e with
  | nil => exact ⟨e, get?_nil e⟩
  | cons index path ih =>
      -- At the end of the path the label says that the child is an element. Before the end, only an
      -- element has anything below it.
      have hchild : ∃ y, e.childAt? index = some y := by
        cases path with
        | nil =>
            obtain ⟨node, hnode, hlabel⟩ := Option.map_eq_some_iff.1 h
            cases node with
            | element tag' children => exact ⟨⟨tag', children⟩, childAt?_eq_some_iff.2 hnode⟩
            | text value => simp [Node.label] at hlabel
            | markup kept => simp [Node.label] at hlabel
        | cons next path =>
            obtain ⟨y, hy, -⟩ := Option.bind_eq_some_iff.1 h
            exact ⟨y, hy⟩
      obtain ⟨y, hy⟩ := hchild
      rw [label?_cons hy] at h
      rw [get?_cons_of_childAt? hy]
      exact ih h

/-- An element stays as it is where no label at or below its path changes. -/
theorem get?_eq_of_label?_eq {e e' x : Element} {path : Path} (hx : e.get? path = some x)
    (h : ∀ below, e'.label? (path ++ below) = e.label? (path ++ below)) :
    e'.get? path = some x := by
  have htag : e'.label? path = some (.element x.toTag) := by
    have := h []
    rw [label?_append hx, List.append_nil] at this
    exact this
  obtain ⟨x', hx'⟩ := exists_get?_of_label? htag
  rw [hx', Option.some.injEq]
  refine eq_of_label?_eq fun below => ?_
  rw [← label?_append hx', ← label?_append hx, h]

/-- What is at a path is not seen to change by an edit, unless the edit is at or around it. -/
theorem label?_modify (e : Element) (f : Element → Element) {path other : Path}
    (h : ¬ path <+: other) : (e.modify f path).label? other = e.label? other := by
  induction path generalizing e other with
  | nil => exact absurd List.nil_prefix h
  | cons index path ih =>
      rw [modify_cons]
      cases hx : e.childAt? index with
      | none => rfl
      | some x =>
          cases other with
          | nil => rfl
          | cons i other =>
              by_cases hi : index = i
              · subst hi
                rw [label?_cons (childAt?_set_self hx), label?_cons hx]
                exact ih x (by simpa using h)
              · exact label?_congr (List.getElem?_set_ne hi) other

end Element

end MailMerge.Xml
