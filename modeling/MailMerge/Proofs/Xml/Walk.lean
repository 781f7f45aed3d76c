import MailMerge.Proofs.Xml.Tree

/-!
# `MailMerge.Proofs.Xml.Walk`: walks, looking up and access for writing

Paths are found by a walk, kept, and used later to look up an element or to change it. That is safe
because the walk and the two ways of using a path agree on which paths there are. The indices in a
path count all nodes, also those that a walk passes over.

Access for writing gives the element at a path together with the tree that arises when another
element is put in its place. An edit at a path is what is read there, changed and put back.

* `Element.count_walk`: a walk visits what paths lead to, each once.
* `Element.focus?_eq`: access for writing leads where looking up leads.
* `Element.walk_accords_paths`: the walk, looking up and access for writing, together.
-/

set_option autoImplicit false

namespace MailMerge.Xml.Element

/-- The walk visits an element under the path that leads to it once, and nothing else. -/
theorem count_walk (e x : Element) (path : Path) :
    e.walk.count (path, x) = if e.get? path = some x then 1 else 0 := by
  have hnodup : e.walk.Nodup := e.nodup_walk.of_map
  split
  · rename_i hx
    exact List.count_eq_one_of_mem hnodup (mem_walk_iff.2 hx)
  · rename_i hx
    exact List.count_eq_zero_of_not_mem fun hmem => hx (mem_walk_iff.1 hmem)

/-! ### Access for writing -/

/-- The element at a path, and the tree in which another element stands in its place. -/
def focus? (e : Element) : Path → Option (Element × (Element → Element))
  | [] => some (e, id)
  | index :: path =>
    match e.children[index]? with
    | some (.element tag children) =>
      (focus? ⟨tag, children⟩ path).map fun (x, put) =>
        (x, fun y => { e with children := e.children.set index (put y).toNode })
    | _ => none

theorem focus?_cons (e : Element) (index : Nat) (path : Path) :
    e.focus? (index :: path) = (e.childAt? index).bind fun x =>
      (x.focus? path).map fun (y, put) =>
        (y, fun z => { e with children := e.children.set index (put z).toNode }) := by
  unfold childAt?
  rw [focus?]
  cases e.children[index]? with
  | none => rfl
  | some node => cases node <;> rfl

/-- Access for writing leads to the element that is looked up, and an element is put in its place
by an edit that forgets what was there. -/
theorem focus?_eq (e : Element) (path : Path) :
    e.focus? path = (e.get? path).map fun x => (x, fun y => e.modify (fun _ => y) path) := by
  induction path generalizing e with
  | nil =>
      rw [get?_nil]
      rfl
  | cons index path ih =>
      rw [focus?_cons, get?_cons]
      simp only [modify_cons]
      cases hx : e.childAt? index with
      | none => rfl
      | some x =>
          dsimp only [Option.bind_some]
          rw [ih, Option.map_map]
          rfl

/-- An edit depends on what it does to the element at the path. -/
theorem modify_congr {e x : Element} {path : Path} (h : e.get? path = some x)
    {f g : Element → Element} (hfg : f x = g x) : e.modify f path = e.modify g path := by
  induction path generalizing e with
  | nil =>
      rw [get?_nil, Option.some.injEq] at h
      rw [modify, modify, h, hfg]
  | cons index path ih =>
      rw [get?_cons, Option.bind_eq_some_iff] at h
      obtain ⟨y, hy, hx⟩ := h
      rw [modify_cons, modify_cons, hy]
      dsimp only
      rw [ih hx]

/-- There is nothing to edit at a path that leads nowhere. -/
theorem modify_of_get?_eq_none {e : Element} {path : Path} (h : e.get? path = none)
    (f : Element → Element) : e.modify f path = e := by
  induction path generalizing e with
  | nil => simp at h
  | cons index path ih =>
      rw [modify_cons]
      cases hx : e.childAt? index with
      | none => rfl
      | some x =>
          rw [get?_cons_of_childAt? hx] at h
          dsimp only
          rw [ih h]
          exact set_of_childAt? hx

/-- An edit puts back what it makes of the element at the path. -/
theorem modify_eq_of_focus? (e : Element) (f : Element → Element) (path : Path) :
    e.modify f path = match e.focus? path with
      | some (x, put) => put (f x)
      | none => e := by
  rw [focus?_eq]
  cases hx : e.get? path with
  | none => exact modify_of_get?_eq_none hx f
  | some x => exact modify_congr hx rfl

/-! ### Walks and paths -/

/-- A walk visits each element that a path leads to once and under this path, and nothing else, in
the lexicographic order of the paths. Access for writing is had at the same paths, to the same
elements, and it is what an edit uses. An element put at a path is found there, and all elements
that are neither around the path nor below it are found as before. -/
theorem walk_accords_paths (e : Element) :
    (∀ path x, e.walk.count (path, x) = if e.get? path = some x then 1 else 0)
      ∧ (e.walk.map (·.1)).Pairwise (· < ·)
      ∧ (∀ path, (e.focus? path).map (·.1) = e.get? path)
      ∧ (∀ path f, e.modify f path = match e.focus? path with
          | some (x, put) => put (f x)
          | none => e)
      ∧ ∀ path x put, e.focus? path = some (x, put) → ∀ y,
          (put y).get? path = some y
          ∧ ∀ other, ¬ path <+: other → ¬ other <+: path → (put y).get? other = e.get? other := by
  refine ⟨fun path x => e.count_walk x path, e.pairwise_walk, fun path => ?_,
    fun path f => e.modify_eq_of_focus? f path, fun path x put hfocus y => ?_⟩
  · rw [focus?_eq, Option.map_map]
    exact Option.map_id'
  · rw [focus?_eq, Option.map_eq_some_iff] at hfocus
    obtain ⟨z, hz, heq⟩ := hfocus
    cases heq
    refine ⟨?_, fun other hbelow haround => e.get?_modify_of_apart _ hbelow haround⟩
    rw [get?_modify_self, hz, Option.map_some]

end MailMerge.Xml.Element
