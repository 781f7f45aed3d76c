import MailMerge.Proofs.Xml.RoundTrip
import MailMerge.Proofs.Xml.Walk

/-!
# `MailMerge.Proofs.Xml.Edits`: what edits do to attributes

An attribute is found, set and removed as the first of its name, so what is said of an attribute
holds where names are distinct. There an edit of an attribute changes this attribute and nothing
else (`Element.Altered`), and a list of such edits, with texts set and added in between, does so in
the elements at the paths of the edits (`Element.AlteredAt`). Elements go only with the content of
an element that gets a text.

* `Document.Edited.editAll`: edits in a row give a document that was edited.
* `Element.AlteredAt.trans`: the paths of one row of edits and of the next are put together.
* `Document.Edited.alteredAt_editAll`: edits on one attribute, in a document that was edited.
-/

set_option autoImplicit false

namespace MailMerge.Xml

/-! ### Edits in a row -/

namespace Element

/-- Of two edits at one path the second edits what the first made. -/
theorem modify_modify (e : Element) (f g : Element → Element) (path : Path) :
    (e.modify f path).modify g path = e.modify (fun x => g (f x)) path := by
  induction path generalizing e with
  | nil => rfl
  | cons index path ih =>
      rw [modify_cons e, modify_cons e]
      cases hx : e.childAt? index with
      | none =>
          dsimp only
          rw [modify_cons, hx]
      | some x =>
          dsimp only
          rw [modify_cons, childAt?_set_self hx]
          dsimp only
          rw [List.set_set, ih]

/-- An edit below a path is an edit at the path. -/
theorem modify_append (e : Element) (f : Element → Element) (path below : Path) :
    e.modify f (path ++ below) = e.modify (·.modify f below) path := by
  induction path generalizing e with
  | nil => rfl
  | cons index path ih =>
      rw [List.cons_append, modify_cons, modify_cons]
      cases e.childAt? index with
      | none => rfl
      | some x =>
          dsimp only
          rw [ih]

end Element

namespace Document

/-- A document after edits at paths, one after another. -/
def editAll (d : Document) (edits : List (Path × Edit)) : Document :=
  edits.foldl (fun d (path, edit) => d.edit edit path) d

theorem editAll_append (d : Document) (edits others : List (Path × Edit)) :
    d.editAll (edits ++ others) = (d.editAll edits).editAll others :=
  List.foldl_append

theorem Edited.editAll {d : Document} (h : d.Edited) {edits : List (Path × Edit)}
    (hedits : ∀ edit ∈ edits, ∀ x, edit.2 = .pushElement x → x.Made) :
    (d.editAll edits).Edited := by
  induction edits generalizing d with
  | nil => exact h
  | cons edit edits ih =>
      exact ih (h.edit edit.2 (hedits edit List.mem_cons_self) edit.1)
        fun other hother => hedits other (List.mem_cons_of_mem _ hother)

theorem Edited.distinctAttributes {d : Document} (h : d.Edited) : d.root.DistinctAttributes :=
  fun path x hx => (h.sound.1 path x hx).distinct

end Document

/-! ### One element -/

namespace Element

/-- An element in which an attribute has got a value or, for none, is gone. All other attributes
have their values and their order. -/
structure Altered (name : String) (value? : Option String) (x x' : Element) : Prop where
  name_eq : x'.name = x.name
  attribute?_eq : x'.attribute? name = value?
  others_eq : x'.attributes.filter (·.name ≠ name) = x.attributes.filter (·.name ≠ name)

/-- An element with the same name and the same attributes. -/
def SameTag (x x' : Element) : Prop := x'.toTag = x.toTag

section Altered

variable {name : String} {value? : Option String} {x x' x'' : Element}

theorem Altered.trans (h : Altered name value? x x') (h' : Altered name value? x' x'') :
    Altered name value? x x'' :=
  ⟨h'.name_eq.trans h.name_eq, h'.attribute?_eq, h'.others_eq.trans h.others_eq⟩

theorem Altered.trans_sameTag (h : Altered name value? x x') (h' : SameTag x' x'') :
    Altered name value? x x'' := by
  obtain ⟨tag, children⟩ := x''
  obtain rfl : tag = x'.toTag := h'
  exact ⟨h.name_eq, h.attribute?_eq, h.others_eq⟩

theorem SameTag.trans_altered (h : SameTag x x') (h' : Altered name value? x' x'') :
    Altered name value? x x'' := by
  obtain ⟨tag, children⟩ := x'
  obtain rfl : tag = x.toTag := h
  exact ⟨h'.name_eq, h'.attribute?_eq, h'.others_eq⟩

theorem altered_setAttribute (x : Element) (name value : String) :
    Altered name (some value) x (x.setAttribute name value) := by
  refine ⟨rfl, attribute?_setAttribute x name value, ?_⟩
  show (setAttribute.set name value x.attributes).filter _ = _
  induction x.attributes with
  | nil => simp [setAttribute.set]
  | cons a as ih =>
      by_cases ha : a.name = name
      · simp [setAttribute.set, ha]
      · simpa [setAttribute.set, ha] using ih

/-- Where names are distinct, no attribute of the name is left behind the one that is removed. -/
theorem altered_removeAttribute (h : x.toTag.Distinct) (name : String) :
    Altered name none x (x.removeAttribute name) := by
  have hleft := attributes_removeAttribute h name
  refine ⟨rfl, attribute?_eq_none_iff.2 fun a ha => ?_, ?_⟩
  · rw [hleft] at ha
    simpa using (List.mem_filter.1 ha).2
  · rw [hleft, List.filter_filter]
    simp

end Altered

/-! ### A tree -/

/-- A path leads inside the element at another path. -/
def Inside (around path : Path) : Prop := ∃ index below, path = around ++ index :: below

theorem inside_append_iff {path around below : Path} :
    Inside (path ++ around) (path ++ below) ↔ Inside around below := by
  unfold Inside
  simp only [List.append_assoc, List.append_cancel_left_eq]

/-- A tree in which an attribute has got a value, or is gone, in the elements at the paths `marked`,
and in which the contents of the elements at the paths `emptied` are gone. All other elements are
still there, and all other attributes are as they were. -/
structure AlteredAt (name : String) (value? : Option String) (marked emptied : List Path)
    (e e' : Element) : Prop where
  exists_iff : ∀ path, (∃ x', e'.get? path = some x')
    ↔ (∃ x, e.get? path = some x) ∧ ∀ around ∈ emptied, ¬ Inside around path
  changed : ∀ path x x', e.get? path = some x → e'.get? path = some x' →
    if path ∈ marked then Altered name value? x x' else SameTag x x'

namespace AlteredAt

variable {name : String} {value? : Option String} {marked marked' emptied emptied' : List Path}
  {e e' e'' : Element}

theorem refl (e : Element) : AlteredAt name value? [] [] e e where
  exists_iff _ := by simp
  changed path x x' hx hx' := by
    rw [hx, Option.some.injEq] at hx'
    rw [if_neg List.not_mem_nil, hx']
    rfl

/-- What is at a path was there, under the same name. -/
theorem exists_get? (h : AlteredAt name value? marked emptied e e') {path : Path} {x' : Element}
    (hx' : e'.get? path = some x') : ∃ x, e.get? path = some x ∧ x.name = x'.name := by
  obtain ⟨x, hx⟩ := ((h.exists_iff path).1 ⟨x', hx'⟩).1
  refine ⟨x, hx, ?_⟩
  have hchanged := h.changed path x x' hx hx'
  split at hchanged
  · exact hchanged.name_eq.symm
  · exact (congrArg Tag.name hchanged).symm

/-- The paths of one row of edits and of the next are put together. -/
theorem trans (h : AlteredAt name value? marked emptied e e')
    (h' : AlteredAt name value? marked' emptied' e' e'') :
    AlteredAt name value? (marked ++ marked') (emptied ++ emptied') e e'' where
  exists_iff path := by
    rw [h'.exists_iff, h.exists_iff, List.forall_mem_append, and_assoc]
  changed path x x'' hx hx'' := by
    obtain ⟨x', hx', -⟩ := h'.exists_get? hx''
    have hfirst := h.changed path x x' hx hx'
    have hsecond := h'.changed path x' x'' hx' hx''
    -- An element is altered by the first row, by the second, by both, or by none.
    by_cases hmark : path ∈ marked <;> by_cases hmark' : path ∈ marked' <;>
      simp only [hmark, hmark', List.mem_append, or_self, or_true, true_or, if_true, if_false]
        at hfirst hsecond ⊢
    · exact hfirst.trans hsecond
    · exact hfirst.trans_sameTag hsecond
    · exact hfirst.trans_altered hsecond
    · exact Eq.trans hsecond hfirst

end AlteredAt

/-- Tags at paths that an edit is not around stay. -/
theorem toTag_get?_modify {path other : Path} (h : ¬ path <+: other) (e : Element)
    (f : Element → Element) :
    ((e.modify f path).get? other).map (·.toTag) = (e.get? other).map (·.toTag) := by
  by_cases haround : other <+: path
  · obtain ⟨below, rfl⟩ := haround
    cases below with
    | nil => exact absurd (by simp) h
    | cons index below =>
        rw [get?_modify_around, Option.map_map]
        congr 1
        funext x
        exact toTag_modify_cons x f index below
  · rw [get?_modify_of_apart e f h haround]

/-- What an edit does to an element, it does to the tree around it at the element's path. -/
theorem AlteredAt.modify {name : String} {value? : Option String} {marked emptied : List Path}
    {e : Element} {f : Element → Element} {path : Path}
    (h : ∀ x, e.get? path = some x → AlteredAt name value? marked emptied x (f x)) :
    AlteredAt name value? (marked.map (path ++ ·)) (emptied.map (path ++ ·)) e
      (e.modify f path) := by
  -- At and below the path all is told from the edited element, elsewhere tags stay.
  refine ⟨fun other => ?_, fun other x x' hx hx' => ?_⟩
  · by_cases hother : path <+: other
    · obtain ⟨below, rfl⟩ := hother
      rw [get?_modify_append, get?_append]
      simp only [List.forall_mem_map, inside_append_iff]
      cases hx : e.get? path with
      | none => simp
      | some x => exact (h x hx).exists_iff below
    · have houtside : ∀ around ∈ emptied.map (path ++ ·), ¬ Inside around other := by
        rintro around hmem ⟨index, below, rfl⟩
        obtain ⟨inner, -, rfl⟩ := List.mem_map.1 hmem
        exact hother (by simp)
      rw [and_iff_left houtside, ← Option.isSome_iff_exists, ← Option.isSome_iff_exists,
        ← Option.isSome_map, toTag_get?_modify hother, Option.isSome_map]
  · by_cases hother : path <+: other
    · obtain ⟨below, rfl⟩ := hother
      rw [get?_modify_append] at hx'
      rw [get?_append] at hx
      obtain ⟨y, hy, hx⟩ := Option.bind_eq_some_iff.1 hx
      rw [hy, Option.bind_some] at hx'
      have hmark : path ++ below ∈ marked.map (path ++ ·) ↔ below ∈ marked := by simp
      simpa only [hmark] using (h y hy).changed below x x' hx hx'
    · have hmark : other ∉ marked.map (path ++ ·) := by
        intro hmem
        obtain ⟨below, -, rfl⟩ := List.mem_map.1 hmem
        exact hother (List.prefix_append path below)
      rw [if_neg hmark]
      have htags := toTag_get?_modify hother e f
      rw [hx, hx'] at htags
      exact Option.some.inj htags

/-! ### One edit -/

section Edit

variable {name : String} {value? : Option String} {x x' : Element}

/-- With the same child elements all below an element is as it was. -/
theorem alteredAt_of_childAt?_eq {marked : List Path} (hmarked : ∀ path ∈ marked, path = [])
    (h : if [] ∈ marked then Altered name value? x x' else SameTag x x')
    (hchildren : ∀ index, x'.childAt? index = x.childAt? index) :
    AlteredAt name value? marked [] x x' := by
  have hbelow : ∀ index path, x'.get? (index :: path) = x.get? (index :: path) :=
    fun index path => by rw [get?_cons, get?_cons, hchildren]
  refine ⟨fun path => ?_, fun path y y' hy hy' => ?_⟩
  · cases path with
    | nil => simp
    | cons index path => simp [hbelow]
  · cases path with
    | nil =>
        rw [get?_nil, Option.some.injEq] at hy hy'
        exact hy ▸ hy' ▸ h
    | cons index path =>
        rw [hbelow, hy, Option.some.injEq] at hy'
        rw [if_neg fun hmem => List.cons_ne_nil _ _ (hmarked _ hmem), hy']
        rfl

/-- Without child elements nothing is left below an element. -/
theorem alteredAt_of_plain (h : SameTag x x') (hplain : ∀ index, x'.childAt? index = none) :
    AlteredAt name value? [] [[]] x x' := by
  refine ⟨fun path => ?_, fun path y y' hy hy' => ?_⟩
  · cases path with
    | nil => simp [Inside]
    | cons index path => simp [get?_cons, hplain, Inside]
  · cases path with
    | nil =>
        rw [get?_nil, Option.some.injEq] at hy hy'
        exact hy ▸ hy' ▸ h
    | cons index path =>
        rw [get?_cons, hplain] at hy'
        cases hy'

theorem childAt?_push_text (x : Element) (value : String) (index : Nat) :
    (x.push (.text value)).childAt? index = x.childAt? index := by
  unfold childAt? push
  rw [List.getElem?_append]
  split
  · rfl
  · rename_i hlt
    rw [List.getElem?_eq_none (Nat.le_of_not_lt hlt)]
    cases index - x.children.length <;> rfl

end Edit

end Element

namespace Edit

/-- The paths of the elements in which an edit changes attributes. -/
def marks : Edit → List Path
  | setAttribute .. | removeAttribute _ => [[]]
  | setText _ | pushText _ | pushElement _ => []

/-- The paths of the elements that lose their content by an edit. -/
def empties : Edit → List Path
  | setText _ => [[]]
  | setAttribute .. | removeAttribute _ | pushText _ | pushElement _ => []

/-- An edit that brings no elements, and changes no attribute except that it gives the one of a name
a value, or removes it. -/
def Alters (name : String) (value? : Option String) : Edit → Prop
  | setAttribute other value => other = name ∧ value? = some value
  | removeAttribute other => other = name ∧ value? = none
  | setText _ | pushText _ => True
  | pushElement _ => False

theorem Alters.made {name : String} {value? : Option String} {edit : Edit}
    (h : edit.Alters name value?) (x : Element) (heq : edit = .pushElement x) : x.Made := by
  rw [heq] at h
  exact h.elim

theorem Alters.alteredAt {name : String} {value? : Option String} {edit : Edit}
    (h : edit.Alters name value?) {x : Element} (hx : x.toTag.Distinct) :
    x.AlteredAt name value? edit.marks edit.empties (edit.apply x) := by
  cases edit with
  | setText value => exact Element.alteredAt_of_plain rfl (x.childAt?_setText value)
  | setAttribute other value =>
      obtain ⟨rfl, rfl⟩ := h
      exact Element.alteredAt_of_childAt?_eq (by simp [marks])
        (x.altered_setAttribute other value) fun _ => rfl
  | removeAttribute other =>
      obtain ⟨rfl, rfl⟩ := h
      exact Element.alteredAt_of_childAt?_eq (by simp [marks])
        (Element.altered_removeAttribute hx other) fun _ => rfl
  | pushText value =>
      exact Element.alteredAt_of_childAt?_eq (by simp [marks]) rfl (x.childAt?_push_text value)
  | pushElement x => exact h.elim

end Edit

/-! ### Edits of a document -/

/-- The paths of the elements in which edits change attributes. -/
def marked (edits : List (Path × Edit)) : List Path :=
  edits.flatMap fun (path, edit) => edit.marks.map (path ++ ·)

/-- The paths of the elements that lose their content by edits. -/
def emptied (edits : List (Path × Edit)) : List Path :=
  edits.flatMap fun (path, edit) => edit.empties.map (path ++ ·)

namespace Document

theorem Edited.editAll_of_alters {d : Document} (h : d.Edited) {name : String}
    {value? : Option String} {edits : List (Path × Edit)}
    (hedits : ∀ edit ∈ edits, edit.2.Alters name value?) : (d.editAll edits).Edited :=
  h.editAll fun entry hmem => (hedits entry hmem).made

/-- In a document that was edited, an edit on an attribute changes this attribute in the element at
its path, and no other attribute. -/
theorem Edited.alteredAt_edit {d : Document} (h : d.Edited) {name : String}
    {value? : Option String} {edit : Edit} (halters : edit.Alters name value?) (path : Path) :
    d.root.AlteredAt name value? (edit.marks.map (path ++ ·)) (edit.empties.map (path ++ ·))
      (d.edit edit path).root :=
  .modify fun x hx => halters.alteredAt (h.distinctAttributes path x hx)

/-- Edits on one attribute, in a row, change it in the elements at their paths. -/
theorem Edited.alteredAt_editAll {d : Document} (h : d.Edited) {name : String}
    {value? : Option String} {edits : List (Path × Edit)}
    (hedits : ∀ edit ∈ edits, edit.2.Alters name value?) :
    d.root.AlteredAt name value? (marked edits) (emptied edits) (d.editAll edits).root := by
  induction edits generalizing d with
  | nil => exact .refl _
  | cons edit edits ih =>
      obtain ⟨path, edit⟩ := edit
      have halters : edit.Alters name value? := hedits (path, edit) List.mem_cons_self
      exact (h.alteredAt_edit halters path).trans (ih (h.edit edit halters.made path)
        fun other hother => hedits other (List.mem_cons_of_mem _ hother))

end Document

end MailMerge.Xml
