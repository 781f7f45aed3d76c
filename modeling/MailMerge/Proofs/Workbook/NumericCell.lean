import MailMerge.Proofs.Xml.Attributes
import MailMerge.Workbook.Basic

/-!
# `MailMerge.Proofs.Workbook.NumericCell`: a cell that gets a number

A cell that refers to a shared string gets a number: its type is removed and the number takes the
place of its value.

* `Free`, `CellsApart`: no cell in an element, and no cell in the value of another. Where cells are
  apart, what becomes of a cell has no part in what becomes of another.
* `attributes_numericCell`, `findChild?_numericCell`, `children_numericCell_of_ne`: the attributes,
  the value and the other children of a cell with a number.
* `refersTo_numericCell`: a cell with a number refers to no string any more. It has lost its type,
  and it had only one as attribute names are distinct.
-/

set_option autoImplicit false

namespace MailMerge

open MailMerge.Xml

namespace SheetNames

/-- No element, at or below the given one, is a cell. -/
def Free (names : SheetNames) (e : Element) : Prop :=
  ∀ (path : Path) (x : Element), e.get? path = some x → x.name ≠ names.cell

/-- No cell stands inside the value of a cell. -/
def CellsApart (names : SheetNames) (e : Element) : Prop :=
  ∀ (path : Path) (cell v : Element), e.get? path = some cell → cell.name = names.cell →
    cell.child? names.value = some v → names.Free v

variable {names : SheetNames}

theorem Free.name_ne {e : Element} (h : names.Free e) : e.name ≠ names.cell :=
  h [] e (Element.get?_nil e)

/-- A plain text in place of the content brings no cells. -/
theorem Free.setText {e : Element} (h : names.Free e) (text : String) :
    names.Free (e.setText text) := by
  intro path x hx
  cases path with
  | nil =>
      rw [Element.get?_nil, Option.some.injEq] at hx
      exact hx ▸ h.name_ne
  | cons index path =>
      rw [Element.get?_cons, Element.childAt?_setText] at hx
      cases hx

theorem Free.cellsApart {e : Element} (h : names.Free e) : names.CellsApart e :=
  fun path cell _ hcell hname => absurd hname (h path cell hcell)

theorem CellsApart.childAt? {e x : Element} {index : Nat} (h : names.CellsApart e)
    (hx : e.childAt? index = some x) : names.CellsApart x := fun path cell v hcell =>
  h (index :: path) cell v ((Element.get?_cons_of_childAt? hx path).trans hcell)

theorem CellsApart.get? {e x : Element} {path : Path} (h : names.CellsApart e)
    (hx : e.get? path = some x) : names.CellsApart x := by
  intro below cell v hcell
  refine h (path ++ below) cell v ?_
  rw [Element.get?_append, hx]
  exact hcell

theorem CellsApart.free {e v : Element} (h : names.CellsApart e) (hname : e.name = names.cell)
    (hv : e.child? names.value = some v) : names.Free v :=
  h [] e v (Element.get?_nil e) hname hv

theorem cellsApart_iff {e : Element} :
    names.CellsApart e
      ↔ (e.name = names.cell → ∀ v, e.child? names.value = some v → names.Free v)
        ∧ ∀ index x, e.childAt? index = some x → names.CellsApart x := by
  constructor
  · intro h
    exact ⟨fun hname v hv => h.free hname hv, fun index x hx => h.childAt? hx⟩
  · intro ⟨hself, hchildren⟩ path cell v hcell hname hv
    cases path with
    | nil =>
        rw [Element.get?_nil, Option.some.injEq] at hcell
        subst hcell
        exact hself hname v hv
    | cons index path =>
        rw [Element.get?_cons, Option.bind_eq_some_iff] at hcell
        obtain ⟨x, hx, hcell⟩ := hcell
        exact hchildren index x hx path cell v hcell hname hv

theorem free_iff_walk {e : Element} :
    names.Free e ↔ ∀ entry ∈ e.walk, entry.2.name ≠ names.cell := by
  rw [Element.forall_mem_walk_iff]
  rfl

instance (e : Element) : Decidable (names.Free e) := decidable_of_iff' _ free_iff_walk

theorem cellsApart_iff_walk {e : Element} :
    names.CellsApart e ↔ ∀ entry ∈ e.walk, entry.2.name = names.cell →
      (entry.2.child? names.value).all fun v => decide (names.Free v) := by
  simp only [Element.forall_mem_walk_iff, Option.all_eq_true, decide_eq_true_eq]
  constructor
  · intro h path cell hcell hname v hv
    exact h path cell v hcell hname hv
  · intro h path cell v hcell hname hv
    exact h path cell hcell hname v hv

instance (e : Element) : Decidable (names.CellsApart e) := decidable_of_iff' _ cellsApart_iff_walk

/-! ### A cell with a number -/

/-- Removing the type and setting the value, side by side. -/
theorem numericCell_eq (number : String) (cell : Element) :
    names.numericCell number cell
      = match cell.findChild? names.value with
        | some (index, v) => { cell.removeAttribute cellType with
            children := cell.children.set index (v.setText number).toNode }
        | none => cell.removeAttribute cellType := by
  unfold numericCell Element.modifyChild
  have h : (cell.removeAttribute cellType).findChild? names.value = cell.findChild? names.value :=
    rfl
  rw [h]
  cases cell.findChild? names.value <;> rfl

theorem name_numericCell (number : String) (cell : Element) :
    (names.numericCell number cell).name = cell.name := by
  rw [numericCell_eq]
  split <;> rfl

theorem length_numericCell (number : String) (cell : Element) :
    (names.numericCell number cell).children.length = cell.children.length := by
  rw [numericCell_eq]
  split
  · exact List.length_set
  · rfl

/-- Of attributes with distinct names, the others stay in order. -/
theorem attributes_numericCell {cell : Element} (h : cell.toTag.Distinct) (number : String) :
    (names.numericCell number cell).attributes = cell.attributes.filter (·.name ≠ cellType) := by
  rw [← Element.attributes_removeAttribute h, numericCell_eq]
  split <;> rfl

theorem distinct_numericCell {cell : Element} (h : cell.toTag.Distinct) (number : String) :
    (names.numericCell number cell).toTag.Distinct := by
  unfold Tag.Distinct at h ⊢
  rw [attributes_numericCell h]
  exact h.sublist (List.filter_sublist.map _)

/-- A cell with a number refers to no string. -/
theorem refersTo_numericCell {cell : Element} (h : cell.toTag.Distinct) (number : String)
    (index : Nat) : names.refersTo index (names.numericCell number cell) = false := by
  have htype : (names.numericCell number cell).attribute? cellType = none := by
    rw [Element.attribute?_eq_none_iff, attributes_numericCell h]
    intro a ha
    simpa using (List.mem_filter.1 ha).2
  unfold refersTo
  rw [htype]
  simp

/-- In the place of the value of a cell stands its number. -/
theorem childAt?_numericCell {cell v : Element} {index : Nat} (number : String)
    (h : cell.findChild? names.value = some (index, v)) :
    (names.numericCell number cell).childAt? index = some (v.setText number) := by
  rw [numericCell_eq, h]
  exact Element.childAt?_set_self (e := cell) (Element.findChild?_eq_some h).1

/-- All children of a cell but its value stay. -/
theorem children_numericCell_of_ne {cell : Element} {index : Nat} (number : String)
    (h : ∀ v, cell.findChild? names.value ≠ some (index, v)) :
    (names.numericCell number cell).children[index]? = cell.children[index]? := by
  rw [numericCell_eq]
  cases hv : cell.findChild? names.value with
  | none => rfl
  | some found =>
      obtain ⟨i, v⟩ := found
      have hi : i ≠ index := fun heq => h v (by rw [hv, heq])
      exact List.getElem?_set_ne hi

/-- The value of a cell stays the first of its name when the cell gets a number. -/
theorem findChild?_numericCell (cell : Element) (number : String) :
    (names.numericCell number cell).findChild? names.value
      = (cell.findChild? names.value).map fun (index, v) => (index, v.setText number) := by
  cases hv : cell.findChild? names.value with
  | none =>
      rw [numericCell_eq, hv]
      exact hv
  | some found =>
      obtain ⟨index, v⟩ := found
      obtain ⟨-, hname, hfirst⟩ := Element.findChild?_eq_some_iff.1 hv
      -- The children before the value are the same, so none of them has its name.
      refine Element.findChild?_eq_some_iff.2 ⟨childAt?_numericCell number hv, hname, ?_⟩
      intro i y hi hy
      have hchildren : (names.numericCell number cell).children[i]? = cell.children[i]? := by
        refine children_numericCell_of_ne number fun w hw => ?_
        rw [hv, Option.some.injEq, Prod.mk.injEq] at hw
        omega
      rw [Element.childAt?_congr hchildren] at hy
      exact hfirst i y hi hy

theorem child?_numericCell (cell : Element) (number : String) :
    (names.numericCell number cell).child? names.value
      = (cell.child? names.value).map (·.setText number) := by
  unfold Element.child?
  rw [findChild?_numericCell, Option.map_map, Option.map_map]
  rfl

/-- A child element of a cell with a number is a child element of the cell or the number. -/
theorem childAt?_numericCell_cases {cell x : Element} {index : Nat} {number : String}
    (h : (names.numericCell number cell).childAt? index = some x) :
    cell.childAt? index = some x
      ∨ ∃ v, cell.findChild? names.value = some (index, v) ∧ x = v.setText number := by
  by_cases hv : ∃ v, cell.findChild? names.value = some (index, v)
  · obtain ⟨v, hv⟩ := hv
    rw [childAt?_numericCell number hv, Option.some.injEq] at h
    exact Or.inr ⟨v, hv, h.symm⟩
  · left
    have hchildren := children_numericCell_of_ne number fun v hv' => hv ⟨v, hv'⟩
    rwa [Element.childAt?_congr hchildren] at h

/-- A cell that gets a number gets no attribute. -/
theorem distinctAttributes_numericCell {cell : Element} (h : cell.DistinctAttributes)
    (number : String) : (names.numericCell number cell).DistinctAttributes := by
  obtain ⟨htag, hchildren⟩ := Element.distinctAttributes_iff.1 h
  refine Element.distinctAttributes_iff.2 ⟨distinct_numericCell htag number, fun index x hx => ?_⟩
  rcases childAt?_numericCell_cases hx with hx | ⟨v, hv, rfl⟩
  · exact hchildren index x hx
  · have hv := hchildren index v (Element.findChild?_eq_some hv).1
    refine Element.distinctAttributes_iff.2 ⟨(Element.distinctAttributes_iff.1 hv).1, ?_⟩
    intro i y hy
    rw [Element.childAt?_setText] at hy
    cases hy

/-- A function of the child elements may be applied before or after a cell gets its number, where it
keeps the value and the number. -/
theorem mapChildren_numericCell {f : Element → Element} (hf : ∀ x, (f x).name = x.name)
    {cell : Element} (number : String)
    (hv : ∀ v, cell.child? names.value = some v →
      f v = v ∧ f (v.setText number) = v.setText number) :
    (names.numericCell number cell).mapChildren f
      = names.numericCell number (cell.mapChildren f) := by
  rw [numericCell_eq, numericCell_eq, Element.findChild?_mapChildren hf]
  cases hfound : cell.findChild? names.value with
  | none => rfl
  | some found =>
      obtain ⟨index, v⟩ := found
      -- Setting the child and mapping the children change place, as the new child is a fixed point.
      obtain ⟨hkeep, hset⟩ := hv v (Element.child?_eq_some_iff.2 ⟨index, hfound⟩)
      dsimp only [Option.map_some]
      unfold Element.mapChildren
      rw [List.map_set, Element.element?_toNode, hkeep]
      dsimp only
      rw [hset]
      rfl

end SheetNames

end MailMerge
