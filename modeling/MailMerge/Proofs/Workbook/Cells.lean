import MailMerge.Proofs.Workbook.NumericCell

/-!
# `MailMerge.Proofs.Workbook.Cells`: numbers put into the cells of a tree

A worksheet is given numbers one string at a time: the paths of the cells that refer to a string are
collected, and the cells are edited one after another. The reference is one map over the tree:
`SheetNames.putNumbers` rewrites every cell that has a number, from the inside out.

* `modifyAll_pathsOf`: the edits at the collected paths are the map for one string. No cell may
  stand inside the value of another, else an edit drops cells whose paths are collected.
* `putNumbers_putNumbers`: two maps one after another are one map, as a cell that was given a number
  refers to no string any more.
* `get?_putNumbers_of_cell`, `label?_putNumbers`: the map leaves all cells where they are, and all
  else as it is.
-/

set_option autoImplicit false

namespace MailMerge

open MailMerge.Xml

/-! ### Numbers for all cells -/

mutual

/-- A node in which every element that has a number is turned into a numeric cell. -/
def Xml.Node.putNumbers (names : SheetNames) (number? : Element → Option String) : Node → Node
  | .element tag children =>
    let inner : Element := ⟨tag, Xml.Node.putNumbersAll names number? children⟩
    ((number? ⟨tag, children⟩).elim inner (names.numericCell · inner)).toNode
  | .text value => .text value
  | .markup kept => .markup kept

/-- Nodes in which every element that has a number is turned into a numeric cell. -/
def Xml.Node.putNumbersAll (names : SheetNames) (number? : Element → Option String) :
    List Node → List Node
  | [] => []
  | node :: nodes => node.putNumbers names number? :: Xml.Node.putNumbersAll names number? nodes

end

namespace SheetNames

/-- The tree in which every element that has a number is turned into a numeric cell. Whether an
element has one is told from the element as it was. -/
def putNumbers (names : SheetNames) (number? : Element → Option String) (e : Element) : Element :=
  let inner : Element := ⟨e.toTag, Node.putNumbersAll names number? e.children⟩
  (number? e).elim inner (names.numericCell · inner)

variable {names : SheetNames}

theorem putNumbers_eq (number? : Element → Option String) (e : Element) :
    names.putNumbers number? e
      = (number? e).elim (e.mapChildren (names.putNumbers number?))
          (names.numericCell · (e.mapChildren (names.putNumbers number?))) := by
  have hall : ∀ nodes : List Node, Node.putNumbersAll names number? nodes
      = (Element.mapChildren (names.putNumbers number?) ⟨e.toTag, nodes⟩).children := by
    intro nodes
    induction nodes with
    | nil => rfl
    | cons node nodes ih =>
        rw [Node.putNumbersAll, ih]
        cases node <;> rfl
  unfold putNumbers
  rw [hall]
  rfl

/-- Numbers are for cells only. -/
def ForCells (names : SheetNames) (number? : Element → Option String) : Prop :=
  ∀ e : Element, e.name ≠ names.cell → number? e = none

section ForCells

variable {number? : Element → Option String} (hnumber : names.ForCells number?)

theorem name_putNumbers (e : Element) : (names.putNumbers number? e).name = e.name := by
  rw [putNumbers_eq]
  cases number? e with
  | none => rfl
  | some number => exact name_numericCell number _

/-- Where no element has a number, all stays. -/
theorem putNumbers_eq_self {e : Element}
    (h : ∀ (path : Path) (x : Element), e.get? path = some x → number? x = none) :
    names.putNumbers number? e = e := by
  induction e using Element.induction with
  | step e ih =>
      rw [putNumbers_eq, h [] e (Element.get?_nil e)]
      refine Element.mapChildren_eq_self fun index x hx => ih index x hx fun path y hy => ?_
      exact h (index :: path) y ((Element.get?_cons_of_childAt? hx path).trans hy)

include hnumber in
/-- Without cells there is nothing to put numbers into. -/
theorem Free.putNumbers {e : Element} (h : names.Free e) : names.putNumbers number? e = e :=
  putNumbers_eq_self fun path x hx => hnumber x (h path x hx)

/-- The first child of a name, after numbers were put into the children. -/
theorem child?_mapChildren_putNumbers (e : Element) (name : String) :
    (e.mapChildren (names.putNumbers number?)).child? name
      = (e.child? name).map (names.putNumbers number?) := by
  unfold Element.child?
  rw [Element.findChild?_mapChildren name_putNumbers, Option.map_map, Option.map_map]
  rfl

include hnumber in
/-- Numbers in the cells below an element do not change to which string it refers. -/
theorem refersTo_mapChildren {e : Element} (h : names.CellsApart e) (index : Nat) :
    names.refersTo index (e.mapChildren (names.putNumbers number?)) = names.refersTo index e := by
  have hattribute : (e.mapChildren (names.putNumbers number?)).attribute? cellType
      = e.attribute? cellType := rfl
  unfold refersTo
  rw [child?_mapChildren_putNumbers, hattribute, Element.toTag_mapChildren]
  by_cases hname : e.name = names.cell
  · -- The index is read from the value, and there is no cell in it.
    cases hv : e.child? names.value with
    | none => rfl
    | some v => rw [Option.map_some, (h.free hname hv).putNumbers hnumber]
  · simp [hname]

include hnumber in
/-- The value of a cell that has a number is kept by the map, before and after the cell gets it. -/
theorem putNumbers_value {cell v : Element} (h : names.CellsApart cell)
    (hname : cell.name = names.cell) (hv : cell.child? names.value = some v) (number : String) :
    names.putNumbers number? v = v
      ∧ names.putNumbers number? (v.setText number) = v.setText number :=
  ⟨(h.free hname hv).putNumbers hnumber,
    ((h.free hname hv).setText number).putNumbers hnumber⟩

end ForCells

/-! ### One string -/

/-- The numbers that cells get from a list of strings with their numbers. -/
def numberIn (names : SheetNames) (commits : List (Nat × String)) (e : Element) : Option String :=
  commits.findSome? fun (index, number) => if names.refersTo index e then some number else none

theorem name_of_refersTo {index : Nat} {e : Element} (h : names.refersTo index e) :
    e.name = names.cell := by
  simp only [refersTo, Bool.and_eq_true, decide_eq_true_eq] at h
  exact h.1.1

theorem forCells_numberIn (commits : List (Nat × String)) :
    names.ForCells (names.numberIn commits) := by
  intro e hname
  rw [numberIn, List.findSome?_eq_none_iff]
  rintro ⟨index, number⟩ -
  exact if_neg fun h => hname (name_of_refersTo h)

/-- Paths of the cells, at and below an element, that refer to a string. -/
def pathsOf (names : SheetNames) (index : Nat) (e : Element) : List Path :=
  (e.walk.filter fun (_, x) => names.refersTo index x).map (·.1)

theorem pathsOf_eq (index : Nat) (e : Element) :
    names.pathsOf index e
      = (if names.refersTo index e then [[]] else [])
        ++ e.elements.flatMap fun (i, x) => (names.pathsOf index x).map (i :: ·) := by
  have hbelow :
      ((e.elements.flatMap fun (i, x) => x.walk.map fun (path, y) => (i :: path, y)).filter
        fun (_, x) => names.refersTo index x).map (·.1)
      = e.elements.flatMap fun (i, x) => (names.pathsOf index x).map (i :: ·) := by
    rw [List.filter_flatMap, List.map_flatMap]
    refine List.flatMap_congr ?_
    rintro ⟨i, x⟩ -
    unfold pathsOf
    simp [List.filter_map, Function.comp_def]
  unfold pathsOf at hbelow ⊢
  rw [Element.walk_eq, List.filter_cons, ← hbelow]
  by_cases href : names.refersTo index e = true
  · rw [if_pos href, if_pos href]
    rfl
  · rw [if_neg href, if_neg href]
    rfl

theorem mem_pathsOf_iff {index : Nat} {e : Element} {path : Path} :
    path ∈ names.pathsOf index e ↔ ∃ x, e.get? path = some x ∧ names.refersTo index x := by
  unfold pathsOf
  simp only [List.mem_map, List.mem_filter, Prod.exists, Element.mem_walk_iff]
  constructor
  · rintro ⟨_, x, ⟨hx, href⟩, rfl⟩
    exact ⟨x, hx, href⟩
  · intro ⟨x, hx, href⟩
    exact ⟨path, x, ⟨hx, href⟩, rfl⟩

theorem Free.pathsOf {e : Element} (h : names.Free e) (index : Nat) :
    names.pathsOf index e = [] := by
  rw [List.eq_nil_iff_forall_not_mem]
  intro path hpath
  obtain ⟨x, hx, href⟩ := mem_pathsOf_iff.1 hpath
  exact h path x hx (name_of_refersTo href)

/-- A cell that gets a number has the same cells below it as before: none is in its value. -/
theorem flatMap_pathsOf_numericCell {cell : Element} (h : names.CellsApart cell)
    (hname : cell.name = names.cell) (index : Nat) (number : String) :
    ((names.numericCell number cell).elements.flatMap
        fun (i, x) => (names.pathsOf index x).map (i :: ·))
      = cell.elements.flatMap fun (i, x) => (names.pathsOf index x).map (i :: ·) := by
  rw [Element.flatMap_elements, Element.flatMap_elements, numericCell_eq]
  cases hfound : cell.findChild? names.value with
  | none => rfl
  | some found =>
      obtain ⟨k, v⟩ := found
      have hfree := h.free hname (Element.child?_eq_some_iff.2 ⟨k, hfound⟩)
      have hat := Element.childAt?_eq_some_iff.1 (Element.findChild?_eq_some hfound).1
      -- Child by child: only the value is another one, and neither it nor the number has cells.
      dsimp only
      congr 1
      refine congrArg List.zipIdx ?_
      rw [List.map_set, Element.element?_toNode, Option.map_some, Option.getD_some,
        (hfree.setText number).pathsOf]
      refine List.ext_getElem? fun i => ?_
      rw [List.getElem?_set]
      split
      · rename_i hi
        subst hi
        rw [List.getElem?_map, hat]
        simp [hfree.pathsOf, (List.getElem?_eq_some_iff.1 hat).1]
      · rfl

/-- Editing the cells at the collected paths is the map for one string. -/
theorem modifyAll_pathsOf {e : Element} (h : names.CellsApart e) (index : Nat) (number : String) :
    e.modifyAll (names.numericCell number) (names.pathsOf index e)
      = names.putNumbers (names.numberIn [(index, number)]) e := by
  have hcells := names.forCells_numberIn [(index, number)]
  induction e using Element.induction with
  | step e ih =>
      -- Below an element edits and map agree by induction. It is left to move the edit of the
      -- element itself, which comes first of the edits and last in the map.
      have hbelow : e.mapChildren (fun x =>
            x.modifyAll (names.numericCell number) (names.pathsOf index x))
          = e.mapChildren (names.putNumbers (names.numberIn [(index, number)])) :=
        Element.mapChildren_congr fun i x hx => ih i x hx (h.childAt? hx)
      rw [pathsOf_eq, putNumbers_eq]
      cases href : names.refersTo index e with
      | false =>
          have hnone : names.numberIn [(index, number)] e = none := by simp [numberIn, href]
          rw [hnone]
          simp only [Bool.false_eq_true, if_false, List.nil_append, Option.elim_none]
          rw [Element.modifyAll_elements, hbelow]
      | true =>
          have hname := name_of_refersTo href
          have hsome : names.numberIn [(index, number)] e = some number := by
            simp [numberIn, href]
          rw [hsome]
          simp only [if_true, List.singleton_append, Option.elim_some]
          show (names.numericCell number e).modifyAll _ _ = _
          rw [← flatMap_pathsOf_numericCell h hname index number, Element.modifyAll_elements,
            ← mapChildren_numericCell name_putNumbers number
              fun v hv => putNumbers_value hcells h hname hv number]
          refine Element.mapChildren_congr fun i x hx => ?_
          rcases childAt?_numericCell_cases hx with hx | ⟨v, hv, rfl⟩
          · exact ih i x hx (h.childAt? hx)
          · have hv := Element.child?_eq_some_iff.2 ⟨i, hv⟩
            rw [((h.free hname hv).setText number).pathsOf,
              (putNumbers_value hcells h hname hv number).2]
            rfl

/-! ### One string after another -/

section Strings

variable {number? : Element → Option String} (hnumber : names.ForCells number?)

include hnumber in
theorem name_of_number? {e : Element} {number : String} (h : number? e = some number) :
    e.name = names.cell := by
  by_contra hname
  rw [hnumber e hname] at h
  cases h

include hnumber in
/-- No cell stands in the value of an element that gets a number. -/
theorem CellsApart.free_of_number? {e v : Element} (h : names.CellsApart e) {number : String}
    (hn : number? e = some number) {index : Nat}
    (hv : e.findChild? names.value = some (index, v)) : names.Free v :=
  h.free (name_of_number? hnumber hn) (Element.child?_eq_some_iff.2 ⟨index, hv⟩)

include hnumber in
/-- A child element after numbers were put in: one with numbers put in, or the number itself. -/
theorem childAt?_putNumbers_cases {e x : Element} (h : names.CellsApart e) {index : Nat}
    (hx : (names.putNumbers number? e).childAt? index = some x) :
    (∃ y, e.childAt? index = some y ∧ x = names.putNumbers number? y)
      ∨ ∃ v number, number? e = some number ∧ e.findChild? names.value = some (index, v)
          ∧ x = v.setText number := by
  have hmapped : (e.mapChildren (names.putNumbers number?)).childAt? index = some x →
      ∃ y, e.childAt? index = some y ∧ x = names.putNumbers number? y := by
    intro hx
    rw [Element.childAt?_mapChildren, Option.map_eq_some_iff] at hx
    obtain ⟨y, hy, heq⟩ := hx
    exact ⟨y, hy, heq.symm⟩
  rw [putNumbers_eq] at hx
  cases hn : number? e with
  | none =>
      rw [hn] at hx
      exact Or.inl (hmapped hx)
  | some number =>
      rw [hn] at hx
      rcases childAt?_numericCell_cases hx with hx | ⟨w, hw, rfl⟩
      · exact Or.inl (hmapped hx)
      · rw [Element.findChild?_mapChildren name_putNumbers, Option.map_eq_some_iff] at hw
        obtain ⟨⟨i, v⟩, hv, heq⟩ := hw
        cases heq
        have hkeep := (h.free_of_number? hnumber hn hv).putNumbers hnumber
        exact Or.inr ⟨v, number, rfl, hv, by rw [hkeep]⟩

include hnumber in
/-- Numbers bring no cells into values. -/
theorem CellsApart.putNumbers {e : Element} (h : names.CellsApart e) :
    names.CellsApart (names.putNumbers number? e) := by
  induction e using Element.induction with
  | step e ih =>
      rw [cellsApart_iff]
      constructor
      · intro hname w hw
        rw [name_putNumbers] at hname
        rw [putNumbers_eq] at hw
        -- The value of a cell is kept, or it is a number. It has no cells either way.
        have hvalue : ∀ v, e.child? names.value = some v →
            names.putNumbers number? v = v ∧ names.Free v := fun v hv =>
          ⟨(h.free hname hv).putNumbers hnumber, h.free hname hv⟩
        cases hn : number? e with
        | none =>
            rw [hn, Option.elim_none, child?_mapChildren_putNumbers, Option.map_eq_some_iff] at hw
            obtain ⟨v, hv, rfl⟩ := hw
            rw [(hvalue v hv).1]
            exact (hvalue v hv).2
        | some number =>
            rw [hn, Option.elim_some, child?_numericCell, child?_mapChildren_putNumbers] at hw
            simp only [Option.map_map, Option.map_eq_some_iff, Function.comp_apply] at hw
            obtain ⟨v, hv, rfl⟩ := hw
            rw [(hvalue v hv).1]
            exact (hvalue v hv).2.setText number
      · intro index x hx
        rcases childAt?_putNumbers_cases hnumber h hx with ⟨y, hy, rfl⟩ | ⟨v, number, hn, hv, rfl⟩
        · exact ih index y hy (h.childAt? hy)
        · exact ((h.free_of_number? hnumber hn hv).setText number).cellsApart

end Strings

theorem numberIn_append (commits others : List (Nat × String)) (e : Element) :
    names.numberIn (commits ++ others) e
      = (names.numberIn commits e).or (names.numberIn others e) := by
  unfold numberIn
  rw [List.findSome?_append]

/-- A cell that has got its number gets no other. -/
theorem numberIn_putNumbers_of_some {e : Element} (htag : e.toTag.Distinct)
    {commits : List (Nat × String)} {number : String}
    (hn : names.numberIn commits e = some number) (others : List (Nat × String)) :
    names.numberIn others (names.putNumbers (names.numberIn commits) e) = none := by
  have htag' : (e.mapChildren (names.putNumbers (names.numberIn commits))).toTag.Distinct := htag
  rw [putNumbers_eq, hn, Option.elim_some]
  simp [numberIn, refersTo_numericCell htag']

/-- A cell without a number has the same number as before in any other list. -/
theorem numberIn_putNumbers_of_none {e : Element} (h : names.CellsApart e)
    {commits : List (Nat × String)} (hn : names.numberIn commits e = none)
    (others : List (Nat × String)) :
    names.numberIn others (names.putNumbers (names.numberIn commits) e)
      = names.numberIn others e := by
  rw [putNumbers_eq, hn, Option.elim_none]
  simp only [numberIn, refersTo_mapChildren (names.forCells_numberIn commits) h]

/-- Numbers for the cells of some strings and then of others are numbers for the cells of all. -/
theorem putNumbers_putNumbers {e : Element} (h : names.CellsApart e)
    (hdistinct : e.DistinctAttributes) (commits others : List (Nat × String)) :
    names.putNumbers (names.numberIn others) (names.putNumbers (names.numberIn commits) e)
      = names.putNumbers (names.numberIn (commits ++ others)) e := by
  have hcells := names.forCells_numberIn commits
  have hothers := names.forCells_numberIn others
  induction e using Element.induction with
  | step e ih =>
      obtain ⟨htag, hchildren⟩ := Element.distinctAttributes_iff.1 hdistinct
      have hbelow : (e.mapChildren (names.putNumbers (names.numberIn commits))).mapChildren
            (names.putNumbers (names.numberIn others))
          = e.mapChildren (names.putNumbers (names.numberIn (commits ++ others))) := by
        rw [Element.mapChildren_mapChildren]
        exact Element.mapChildren_congr fun i x hx => ih i x hx (h.childAt? hx) (hchildren i x hx)
      rw [putNumbers_eq _ (names.putNumbers _ e), putNumbers_eq (names.numberIn (_ ++ _)) e,
        numberIn_append]
      cases hn : names.numberIn commits e with
      | none =>
          rw [numberIn_putNumbers_of_none h hn, Option.none_or, putNumbers_eq _ e, hn,
            Option.elim_none, hbelow]
      | some number =>
          -- The second map leaves the cell alone and works on its children only, which it might as
          -- well have done before the cell got its number.
          have hname := name_of_number? hcells hn
          rw [numberIn_putNumbers_of_some htag hn, Option.some_or, putNumbers_eq _ e, hn]
          simp only [Option.elim_some, Option.elim_none]
          rw [mapChildren_numericCell name_putNumbers, hbelow]
          intro w hw
          rw [child?_mapChildren_putNumbers, Option.map_eq_some_iff] at hw
          obtain ⟨v, hv, rfl⟩ := hw
          rw [(h.free hname hv).putNumbers hcells]
          exact putNumbers_value hothers h hname hv number

/-! ### What is seen of the numbers -/

section Seen

variable {number? : Element → Option String} (hnumber : names.ForCells number?)

/-- Children of an element stay where they are, all but the value of a cell that gets a number. -/
theorem children_putNumbers_of_ne {e : Element} {index : Nat}
    (h : ∀ v, number? e ≠ none → e.findChild? names.value ≠ some (index, v)) :
    (names.putNumbers number? e).children[index]?
      = (e.mapChildren (names.putNumbers number?)).children[index]? := by
  rw [putNumbers_eq]
  cases hn : number? e with
  | none => rfl
  | some number =>
      refine children_numericCell_of_ne number fun w hw => ?_
      rw [Element.findChild?_mapChildren name_putNumbers, Option.map_eq_some_iff] at hw
      obtain ⟨⟨i, v⟩, hv, heq⟩ := hw
      cases heq
      exact h v (by simp [hn]) hv

include hnumber in
/-- In the place of the value of a cell stands the number that the cell gets. -/
theorem findChild?_putNumbers {e v : Element} (h : names.CellsApart e) {index : Nat}
    {number : String} (hn : number? e = some number)
    (hv : e.findChild? names.value = some (index, v)) :
    (names.putNumbers number? e).findChild? names.value = some (index, v.setText number) := by
  have hkeep := (h.free_of_number? hnumber hn hv).putNumbers hnumber
  rw [putNumbers_eq, hn, Option.elim_some]
  rw [findChild?_numericCell, Element.findChild?_mapChildren name_putNumbers, hv]
  simp only [Option.map_some, hkeep]

include hnumber in
/-- A cell stays where it is: it is not in a value. -/
theorem get?_putNumbers_of_cell {e x : Element} (h : names.CellsApart e) {path : Path}
    (hx : e.get? path = some x) (hname : x.name = names.cell) :
    (names.putNumbers number? e).get? path = some (names.putNumbers number? x) := by
  induction path generalizing e with
  | nil =>
      rw [Element.get?_nil, Option.some.injEq] at hx
      rw [hx, Element.get?_nil]
  | cons index path ih =>
      rw [Element.get?_cons, Option.bind_eq_some_iff] at hx
      obtain ⟨y, hy, hx⟩ := hx
      have hchild : (names.putNumbers number? e).childAt? index
          = some (names.putNumbers number? y) := by
        have hmapped := Element.childAt?_mapChildren (names.putNumbers number?) e index
        rw [hy, Option.map_some] at hmapped
        rw [← hmapped]
        refine Element.childAt?_congr (children_putNumbers_of_ne fun v hn hv => ?_)
        -- The path leads to a cell, so it does not lead into the value of a cell.
        obtain ⟨number, hn⟩ := Option.ne_none_iff_exists'.1 hn
        have hvy : v = y := by
          have hat := (Element.findChild?_eq_some hv).1
          rwa [hy, Option.some.injEq, eq_comm] at hat
        exact h.free_of_number? hnumber hn hv path x (hvy ▸ hx) hname
      rw [Element.get?_cons_of_childAt? hchild]
      exact ih (h.childAt? hy) hx

/-- Whether a path leads into what a number takes the place of: strictly inside the value of a cell
that gets one. -/
def Overwritten (names : SheetNames) (number? : Element → Option String) (e : Element)
    (path : Path) : Prop :=
  ∃ (around : Path) (cell v : Element) (index : Nat) (inside : Path),
    e.get? around = some cell ∧ number? cell ≠ none
      ∧ cell.findChild? names.value = some (index, v)
      ∧ inside ≠ [] ∧ path = around ++ index :: inside

theorem Overwritten.of_childAt? {e x : Element} {index : Nat} {path : Path}
    (h : names.Overwritten number? x path) (hx : e.childAt? index = some x) :
    names.Overwritten number? e (index :: path) := by
  obtain ⟨around, cell, v, i, inside, hcell, hn, hv, hinside, rfl⟩ := h
  exact ⟨index :: around, cell, v, i, inside,
    (Element.get?_cons_of_childAt? hx around).trans hcell, hn, hv, hinside, rfl⟩

include hnumber in
/-- Outside the cells that get a number, and what the numbers take the place of, all is as it
was. -/
theorem label?_putNumbers {e : Element} (h : names.CellsApart e) {path : Path}
    (hcell : ∀ x, e.get? path = some x → number? x = none)
    (hinside : ¬ names.Overwritten number? e path) :
    (names.putNumbers number? e).label? path = e.label? path := by
  induction path generalizing e with
  | nil =>
      rw [putNumbers_eq, hcell e (Element.get?_nil e)]
      rfl
  | cons index path ih =>
      by_cases hvalue : ∃ v number, number? e = some number
          ∧ e.findChild? names.value = some (index, v)
      · -- Inside the value nothing is left, but its own tag stays.
        obtain ⟨v, number, hn, hv⟩ := hvalue
        obtain rfl : path = [] := by
          by_contra hne
          exact hinside ⟨[], e, v, index, path, Element.get?_nil e, by simp [hn], hv, hne, rfl⟩
        have hv' := findChild?_putNumbers hnumber h hn hv
        rw [Element.label?_cons (Element.findChild?_eq_some hv).1,
          Element.label?_cons (Element.findChild?_eq_some hv').1]
        rfl
      · have hchildren : (names.putNumbers number? e).children[index]?
            = (e.mapChildren (names.putNumbers number?)).children[index]? := by
          refine children_putNumbers_of_ne fun v hn hv => ?_
          obtain ⟨number, hn⟩ := Option.ne_none_iff_exists'.1 hn
          exact hvalue ⟨v, number, hn, hv⟩
        rw [Element.label?_congr hchildren]
        cases hx : e.childAt? index with
        | none =>
            refine Element.label?_congr (Element.children_mapChildren_of_eq fun y hy => ?_) path
            rw [hx] at hy
            cases hy
        | some x =>
            have hmapped := Element.childAt?_mapChildren (names.putNumbers number?) e index
            rw [hx, Option.map_some] at hmapped
            rw [Element.label?_cons hmapped, Element.label?_cons hx]
            exact ih (h.childAt? hx)
              (fun y hy => hcell y ((Element.get?_cons_of_childAt? hx path).trans hy))
              fun hover => hinside (hover.of_childAt? hx)

end Seen

end SheetNames

end MailMerge
