import MailMerge.Proofs.Xml.Tree
import MailMerge.Xml.Space
import Mathlib.Data.List.Find

/-!
# `MailMerge.Proofs.Xml.Retexted`: trees that differ in the content of some elements

A tree is retexted when elements of one name, the text elements, may have got a plain text in the
place of their content. Their tags may change with it, all other tags stay.

* `Retexted.modify`: a plain text put into a text element retexts the tree.
* `Retexted.exists_get?`: what stands at a path afterwards is what stood there, retexted. The other
  way round a path may lead into a content that is gone.
* `Retexted.elements_cases`: the child elements afterwards are those before, one by one, or the
  element is a text element and has none.
-/

set_option autoImplicit false

namespace MailMerge.Xml.Element

/-- What shows a text has no child elements. -/
theorem childAt?_showText (e : Element) (value : String) (index : Nat) :
    (e.showText value).childAt? index = none := by
  unfold showText
  split
  · exact e.childAt?_setText value index
  · exact e.childAt?_setText value index

theorem elements_showText (e : Element) (value : String) : (e.showText value).elements = [] :=
  elements_eq_nil_iff.2 (e.childAt?_showText value)

/-- A tree and what it becomes when some elements of a name get a plain text. -/
inductive Retexted (name : String) : Element → Element → Prop where
  /-- An element of the name with a plain text for its content. -/
  | text {e e' : Element} (h : e.name = name) (h' : e'.name = name)
      (hplain : ∀ index, e'.childAt? index = none) : Retexted name e e'
  /-- An element that is changed inside its child elements only. -/
  | inside {e e' : Element} (htag : e'.toTag = e.toTag)
      (hother : ∀ index, e.childAt? index = none → e'.children[index]? = e.children[index]?)
      (below : Nat → Element → Element)
      (hchild : ∀ index x, e.childAt? index = some x →
        e'.childAt? index = some (below index x))
      (hbelow : ∀ index x, e.childAt? index = some x → Retexted name x (below index x)) :
      Retexted name e e'

namespace Retexted

variable {name : String}

theorem refl (e : Element) : Retexted name e e := by
  induction e using Element.induction with
  | step e ih => exact .inside rfl (fun _ _ => rfl) (fun _ x => x) (fun _ _ hx => hx) ih

theorem name_eq {e e' : Element} (h : Retexted name e e') : e'.name = e.name := by
  cases h with
  | text h h' hplain => rw [h, h']
  | inside htag hother below hchild hbelow => rw [htag]

/-- Only text elements get a new tag. -/
theorem toTag_eq {e e' : Element} (h : Retexted name e e') (hname : e.name ≠ name) :
    e'.toTag = e.toTag := by
  cases h with
  | text h h' hplain => exact absurd h hname
  | inside htag hother below hchild hbelow => exact htag

theorem trans {e e' e'' : Element} (h : Retexted name e e') (h' : Retexted name e' e'') :
    Retexted name e e'' := by
  induction h generalizing e'' with
  | text h h₁ hplain =>
      cases h' with
      | text _ h'' hplain' => exact .text h h'' hplain'
      | inside htag hother below hchild hbelow =>
          -- A plain text has no child elements that could change.
          refine .text h (by rw [htag, h₁]) fun index => ?_
          rw [← hplain index]
          exact childAt?_congr (hother index (hplain index))
  | inside htag hother below hchild hbelow ih =>
      cases h' with
      | text h₁ h'' hplain' => exact .text (by rw [← htag]; exact h₁) h'' hplain'
      | inside htag' hother' below' hchild' hbelow' =>
          refine .inside (htag'.trans htag) (fun index hnone => ?_)
            (fun index x => below' index (below index x))
            (fun index x hx => hchild' index _ (hchild index x hx))
            (fun index x hx => ih index x hx (hbelow' index _ (hchild index x hx)))
          have hnode := hother index hnone
          rw [hother' index ((childAt?_congr hnode).trans hnone), hnode]

/-- A plain text put into a text element retexts the tree. -/
theorem modify {f : Element → Element} (hname : ∀ x, (f x).name = x.name)
    (hplain : ∀ x index, (f x).childAt? index = none) {e : Element} {path : Path}
    (h : ∀ x, e.get? path = some x → x.name = name) : Retexted name e (e.modify f path) := by
  induction path generalizing e with
  | nil =>
      have he : e.name = name := h e (get?_nil e)
      exact .text he ((hname e).trans he) (hplain e)
  | cons index path ih =>
      rw [modify_cons]
      cases hx : e.childAt? index with
      | none => exact refl e
      | some x =>
          dsimp only
          have hbelow : Retexted name x (x.modify f path) := by
            refine ih fun y hy => h y ?_
            rw [get?_cons_of_childAt? hx, hy]
          -- Of the child elements only the one on the way to the text changes.
          refine .inside rfl (fun i hnone => ?_)
            (fun i y => if index = i then x.modify f path else y) (fun i y hy => ?_)
            (fun i y hy => ?_)
          · have hi : index ≠ i := by
              rintro rfl
              rw [hx] at hnone
              cases hnone
            exact List.getElem?_set_ne hi
          · split
            · rename_i hi
              subst hi
              exact childAt?_set_self hx
            · rename_i hi
              rw [childAt?_set_of_ne hi, hy]
          · split
            · rename_i hi
              subst hi
              rw [hx, Option.some.injEq] at hy
              exact hy ▸ hbelow
            · exact refl y

/-- A child element afterwards is the one before, retexted. -/
theorem exists_childAt? {e e' x' : Element} (h : Retexted name e e') {index : Nat}
    (hx : e'.childAt? index = some x') :
    ∃ x, e.childAt? index = some x ∧ Retexted name x x' := by
  cases h with
  | text h h' hplain =>
      rw [hplain index] at hx
      cases hx
  | inside htag hother below hchild hbelow =>
      cases hy : e.childAt? index with
      | none =>
          rw [childAt?_congr (hother index hy), hy] at hx
          cases hx
      | some y =>
          rw [hchild index y hy, Option.some.injEq] at hx
          exact ⟨y, rfl, hx ▸ hbelow index y hy⟩

/-- What stands at a path afterwards is what stood there, retexted. -/
theorem exists_get? {e e' x' : Element} (h : Retexted name e e') {path : Path}
    (hx : e'.get? path = some x') : ∃ x, e.get? path = some x ∧ Retexted name x x' := by
  induction path generalizing e e' with
  | nil =>
      rw [get?_nil, Option.some.injEq] at hx
      exact ⟨e, get?_nil e, hx ▸ h⟩
  | cons index path ih =>
      rw [get?_cons, Option.bind_eq_some_iff] at hx
      obtain ⟨y', hy', hx⟩ := hx
      obtain ⟨y, hy, hretexted⟩ := h.exists_childAt? hy'
      rw [get?_cons_of_childAt? hy]
      exact ih hretexted hx

/-- A child element with what it is in another tree. -/
def follow (e' : Element) (entry : Nat × Element) : Nat × Element :=
  (entry.1, (e'.childAt? entry.1).getD entry.2)

/-- A child element of a child element with what it is in another tree. -/
theorem follow_follow {parent' run x x' : Element} {i j : Nat}
    (h : parent'.get? [i, j] = some x') : (follow (follow parent' (i, run)).2 (j, x)).2 = x' := by
  rw [get?_cons, Option.bind_eq_some_iff] at h
  obtain ⟨run', hrun', h⟩ := h
  rw [get?_cons, Option.bind_eq_some_iff] at h
  obtain ⟨y, hy, h⟩ := h
  rw [get?_nil, Option.some.injEq] at h
  unfold follow
  rw [hrun', Option.getD_some, hy, Option.getD_some, h]

/-- The child elements are there afterwards, one by one. -/
structure Kept (name : String) (e e' : Element) : Prop where
  elements_eq : e'.elements = e.elements.map (follow e')
  retexted : ∀ entry ∈ e.elements, Retexted name entry.2 (follow e' entry).2

/-- The child elements are kept, or they are gone with the content of a text element. -/
theorem elements_cases {e e' : Element} (h : Retexted name e e') :
    (e.name = name ∧ e'.elements = []) ∨ Kept name e e' := by
  cases h with
  | text h h' hplain => exact Or.inl ⟨h, elements_eq_nil_iff.2 hplain⟩
  | inside htag hother below hchild hbelow =>
      have hfollow : ∀ index x, e.childAt? index = some x →
          follow e' (index, x) = (index, below index x) := by
        intro index x hx
        unfold follow
        rw [hchild index x hx, Option.getD_some]
      -- The list that is claimed is sorted by index and has the child elements afterwards.
      refine Or.inr ⟨(eq_elements ?_ fun index x' => ?_).symm, ?_⟩
      · rw [List.pairwise_map]
        exact e.pairwise_elements
      · rw [List.mem_map]
        constructor
        · intro ⟨⟨i, x⟩, hx, heq⟩
          rw [mem_elements_iff] at hx
          rw [hfollow i x hx] at heq
          cases heq
          exact hchild index x hx
        · intro hx'
          obtain ⟨x, hx, -⟩ := exists_childAt?
            (.inside htag hother below hchild hbelow : Retexted name e e') hx'
          refine ⟨(index, x), mem_elements_iff.2 hx, ?_⟩
          rw [hchild index x hx, Option.some.injEq] at hx'
          rw [hfollow index x hx, hx']
      · intro ⟨index, x⟩ hx
        rw [mem_elements_iff] at hx
        rw [hfollow index x hx]
        exact hbelow index x hx

/-- An element without child elements gets none. -/
theorem elements_eq_nil {e e' : Element} (h : Retexted name e e') (hplain : e.elements = []) :
    e'.elements = [] := by
  rcases h.elements_cases with ⟨-, hnone⟩ | hkept
  · exact hnone
  · rw [hkept.elements_eq, hplain]
    rfl

/-- An element of another name keeps its child elements. -/
theorem kept {e e' : Element} (h : Retexted name e e') (hname : e.name ≠ name) :
    Kept name e e' :=
  h.elements_cases.resolve_left fun hgone => hname hgone.1

/-- The first child element of a name stays the first. -/
theorem findChild?_eq {e e' : Element} (h : Retexted name e e') (hname : e.name ≠ name)
    (childName : String) : e'.findChild? childName = (e.findChild? childName).map (follow e') := by
  obtain ⟨helements, hfollow⟩ := h.kept hname
  unfold findChild?
  rw [helements, List.find?_map]
  congr 1
  refine List.find?_congr fun entry hentry => ?_
  show decide ((follow e' entry).2.name = childName) = decide (entry.2.name = childName)
  rw [(hfollow entry hentry).name_eq]

/-- An element of another name that has no child elements stays. -/
theorem eq_of_elements_eq_nil {e e' : Element} (h : Retexted name e e') (hname : e.name ≠ name)
    (hplain : e.elements = []) : e' = e := by
  cases h with
  | text h h' hplain => exact absurd h hname
  | inside htag hother below hchild hbelow =>
      exact ext_children htag fun index => hother index (elements_eq_nil_iff.1 hplain index)

end Retexted

end MailMerge.Xml.Element
