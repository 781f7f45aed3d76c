import MailMerge.Proofs.Xml.Tree

/-!
# `MailMerge.Proofs.Xml.Everywhere`: properties of all elements of a tree

A property holds everywhere in a tree when it holds of the root element and of every element below
it. Most properties here are shallow: they tell something of an element's tag, its texts and its
other markup, and nothing of what is inside its child elements. An edit at a path keeps a shallow
property everywhere when the edit itself does (`Everywhere.modify`).
-/

set_option autoImplicit false

namespace MailMerge.Xml.Element

/-- A property of an element and of all elements below it. -/
def Everywhere (P : Element → Prop) (e : Element) : Prop :=
  ∀ (path : Path) (x : Element), e.get? path = some x → P x

/-- A property that stays when a child element gives way to another. -/
def Shallow (P : Element → Prop) : Prop :=
  ∀ (e x y : Element) (index : Nat), e.childAt? index = some x → P e →
    P { e with children := e.children.set index y.toNode }

variable {P Q : Element → Prop} {e : Element}

theorem everywhere_iff :
    e.Everywhere P ↔ P e ∧ ∀ index x, e.childAt? index = some x → x.Everywhere P := by
  constructor
  · intro h
    refine ⟨h [] e (get?_nil e), fun index x hx path y hy => h (index :: path) y ?_⟩
    rw [get?_cons_of_childAt? hx, hy]
  · intro ⟨hself, hchildren⟩ path x hx
    cases path with
    | nil =>
        rw [get?_nil, Option.some.injEq] at hx
        exact hx ▸ hself
    | cons index path =>
        rw [get?_cons, Option.bind_eq_some_iff] at hx
        obtain ⟨y, hy, hx⟩ := hx
        exact hchildren index y hy path x hx

/-- What is seen of child nodes is seen of child elements. -/
theorem everywhere_iff_of_mem :
    e.Everywhere P ↔ P e ∧ ∀ x : Element, x.toNode ∈ e.children → x.Everywhere P := by
  rw [everywhere_iff]
  refine and_congr_right fun _ => ⟨fun h x hx => ?_, fun h index x hx => ?_⟩
  · obtain ⟨index, hindex⟩ := List.getElem?_of_mem hx
    exact h index x (childAt?_eq_some_iff.2 hindex)
  · exact h x (List.mem_of_getElem? (childAt?_eq_some_iff.1 hx))

/-- A walk sees all elements, so it can check them. -/
instance [DecidablePred P] : Decidable (e.Everywhere P) :=
  decidable_of_iff (∀ entry ∈ e.walk, P entry.2)
    ⟨fun h path x hx => h (path, x) (mem_walk_iff.2 hx),
      fun h entry hentry => h entry.1 entry.2 (mem_walk_iff.1 hentry)⟩

/-- Induction on an element by the elements among its nodes. -/
theorem induction_of_mem {motive : Element → Prop}
    (step : ∀ e : Element, (∀ x : Element, x.toNode ∈ e.children → motive x) → motive e)
    (e : Element) : motive e := by
  induction e using induction with
  | step e ih =>
      refine step e fun x hx => ?_
      obtain ⟨index, hindex⟩ := List.getElem?_of_mem hx
      exact ih index x (childAt?_eq_some_iff.2 hindex)

namespace Everywhere

theorem self (h : e.Everywhere P) : P e := (everywhere_iff.1 h).1

theorem get? (h : e.Everywhere P) {path : Path} {x : Element} (hx : e.get? path = some x) :
    x.Everywhere P := by
  intro below y hy
  refine h (path ++ below) y ?_
  rw [get?_append, hx]
  exact hy

theorem imp (h : e.Everywhere P) (hPQ : ∀ x, P x → Q x) : e.Everywhere Q :=
  fun path x hx => hPQ x (h path x hx)

/-- Without child elements a property has to hold of the element alone. -/
theorem of_plain (h : P e) (hplain : ∀ index, e.childAt? index = none) : e.Everywhere P :=
  everywhere_iff.2 ⟨h, fun index x hx => by rw [hplain index] at hx; cases hx⟩

theorem push (h : e.Everywhere P) {node : Node} (hself : P (e.push node))
    (hnode : ∀ x : Element, node = x.toNode → x.Everywhere P) : (e.push node).Everywhere P := by
  refine everywhere_iff_of_mem.2 ⟨hself, fun x hx => ?_⟩
  rcases List.mem_append.1 hx with hx | hx
  · exact (everywhere_iff_of_mem.1 h).2 x hx
  · exact hnode x (List.mem_singleton.1 hx).symm

/-- A new tag keeps what is inside the child elements. -/
theorem of_children_eq (h : e.Everywhere P) {e' : Element} (hself : P e')
    (hchildren : e'.children = e.children) : e'.Everywhere P := by
  rw [everywhere_iff_of_mem, hchildren]
  exact ⟨hself, (everywhere_iff_of_mem.1 h).2⟩

/-- An edit at a path keeps a shallow property everywhere when the edit itself does. -/
theorem modify (h : e.Everywhere P) (hP : Shallow P) {f : Element → Element} {path : Path}
    (hf : ∀ x, e.get? path = some x → x.Everywhere P → (f x).Everywhere P) :
    (e.modify f path).Everywhere P := by
  induction path generalizing e with
  | nil => exact hf e (get?_nil e) h
  | cons index path ih =>
      obtain ⟨hself, hchildren⟩ := everywhere_iff.1 h
      rw [modify_cons]
      cases hx : e.childAt? index with
      | none => exact h
      | some x =>
          have hedited : (x.modify f path).Everywhere P :=
            ih (hchildren index x hx) fun y hy => hf y (by rw [get?_cons_of_childAt? hx, hy])
          refine everywhere_iff.2 ⟨hP e x _ index hx hself, fun i y hy => ?_⟩
          by_cases hi : index = i
          · subst hi
            rw [childAt?_set_self hx, Option.some.injEq] at hy
            exact hy ▸ hedited
          · rw [childAt?_set_of_ne hi] at hy
            exact hchildren i y hy

end Everywhere

end MailMerge.Xml.Element
