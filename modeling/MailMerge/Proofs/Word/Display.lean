import MailMerge.Proofs.Word.Results

/-!
# `MailMerge.Proofs.Word.Display`: what a field shows after its value is set

A field shows the texts of its result, and an editor may have split them over several runs, or over
several text elements in a run. A value is written to one of these texts and the others are left.

* `Stretch`, `IsResult`: the child runs that are the result of a field.
* `textsOf_setValue?`: the texts of a result after a value was set.
* `setValue?_shows_iff`: a field shows the value that was set exactly when the text written to is
  in its result and the others there are empty. So it is not where a value was split
  (`splitResult`).
-/

set_option autoImplicit false

namespace MailMerge

open MailMerge.Xml

/-! ### Texts of a tree -/

namespace Xml.Element

/-- The texts of elements of a name, with their paths, where the paths have a property. -/
def textsWhere (e : Element) (name : String) (p : Path → Bool) : List (Path × String) :=
  (e.walk.filter fun entry => p entry.1 && entry.2.name = name).map fun entry =>
    (entry.1, entry.2.text)

/-- A text among others when a value is written to one of them: what is inside that one is gone. -/
def overwrite (written : Path) (value : String) (entry : Path × String) : Option (Path × String) :=
  if entry.1 = written then some (written, value)
  else if written <+: entry.1 then none
  else some entry

theorem overwrite_of_not_prefix {written : Path} {entry : Path × String} (value : String)
    (h : ¬ written <+: entry.1) : overwrite written value entry = some entry := by
  have hne : entry.1 ≠ written := by
    rintro rfl
    exact h (List.prefix_refl _)
  unfold overwrite
  rw [if_neg hne, if_neg h]

theorem overwrite_cons (index : Nat) (written path : Path) (value text : String) :
    overwrite (index :: written) value (index :: path, text)
      = (overwrite written value (path, text)).map fun entry => (index :: entry.1, entry.2) := by
  unfold overwrite
  simp only [List.cons.injEq, true_and, List.cons_prefix_cons]
  split
  · rfl
  · split <;> rfl

/-- None of the texts of a child element stay when a value is written to the element itself. -/
theorem filterMap_overwrite_nil (index : Nat) (value : String) (entries : List (Path × String)) :
    (entries.map fun entry => (index :: entry.1, entry.2)).filterMap (overwrite [] value) = [] := by
  rw [List.filterMap_eq_nil_iff]
  intro entry hentry
  obtain ⟨_, -, rfl⟩ := List.mem_map.1 hentry
  simp [overwrite]

/-- When it is written below, the texts of one child element alone are touched. -/
theorem filterMap_overwrite_cons (i index : Nat) (written : Path) (value : String)
    (entries : List (Path × String)) :
    (entries.map fun entry => (i :: entry.1, entry.2)).filterMap (overwrite (index :: written) value)
      = (if i = index then entries.filterMap (overwrite written value) else entries).map
          fun entry => (i :: entry.1, entry.2) := by
  rw [List.filterMap_map]
  split
  · rename_i hi
    subst hi
    rw [List.map_filterMap]
    exact List.filterMap_congr fun entry _ => overwrite_cons i written entry.1 value entry.2
  · rename_i hi
    rw [← List.filterMap_eq_map]
    exact List.filterMap_congr fun entry _ =>
      overwrite_of_not_prefix value fun hbegins => hi (List.cons_prefix_cons.1 hbegins).1.symm

/-- The texts of an element: its own, if it is of the name, then those of its child elements. -/
theorem textsWhere_eq (e : Element) (name : String) (p : Path → Bool) :
    e.textsWhere name p
      = (if p [] && e.name = name then [([], e.text)] else [])
        ++ e.elements.flatMap fun (index, x) =>
          (x.textsWhere name fun path => p (index :: path)).map fun entry =>
            (index :: entry.1, entry.2) := by
  unfold textsWhere
  rw [walk_eq, ← List.singleton_append, List.filter_append, List.map_append]
  congr 1
  · rw [List.filter_singleton]
    cases p [] && decide (e.name = name) <;> rfl
  · simp only [List.filter_flatMap, List.map_flatMap, List.filter_map, List.map_map]
    rfl

theorem nodup_textsWhere (e : Element) (name : String) (p : Path → Bool) :
    ((e.textsWhere name p).map (·.1)).Nodup := by
  unfold textsWhere
  rw [List.map_map]
  exact e.nodup_walk.sublist (List.filter_sublist.map _)

theorem mem_textsWhere_iff {e : Element} {name : String} {p : Path → Bool} {path : Path}
    {text : String} : (path, text) ∈ e.textsWhere name p
      ↔ ∃ x, e.get? path = some x ∧ p path = true ∧ x.name = name ∧ x.text = text := by
  unfold textsWhere
  simp only [List.mem_map, List.mem_filter, mem_walk_iff, Bool.and_eq_true_iff, decide_eq_true_eq,
    Prod.exists, Prod.mk.injEq]
  constructor
  · rintro ⟨path, x, ⟨hx, hp, hname⟩, rfl, rfl⟩
    exact ⟨x, hx, hp, hname, rfl⟩
  · rintro ⟨x, hx, hp, hname, rfl⟩
    exact ⟨path, x, ⟨hx, hp, hname⟩, rfl, rfl⟩

/-- The texts after a value was written to an element of the name. The elements around it must be
of another name as far as their texts are looked at. -/
theorem textsWhere_modify {name : String} (value : String) {written : Path} {e x : Element}
    {p : Path → Bool} (hx : e.get? written = some x) (hname : x.name = name)
    (haround : ∀ around, around <+: written → around ≠ written → p around = true →
      ∀ y, e.get? around = some y → y.name ≠ name) :
    (e.modify (·.showText value) written).textsWhere name p
      = (e.textsWhere name p).filterMap (overwrite written value) := by
  induction written generalizing e p with
  | nil =>
      obtain rfl : e = x := Option.some.inj hx
      have hgone : (e.elements.flatMap fun (index, y) =>
          (y.textsWhere name fun path => p (index :: path)).map fun entry =>
            (index :: entry.1, entry.2)).filterMap (overwrite [] value) = [] := by
        rw [List.filterMap_flatMap, List.flatMap_eq_nil_iff]
        exact fun (index, y) _ => filterMap_overwrite_nil index value _
      show (e.showText value).textsWhere name p = _
      rw [textsWhere_eq, textsWhere_eq, elements_showText, name_showText,
        text_showText, List.filterMap_append, hgone, List.flatMap_nil]
      split <;> simp [overwrite]
  | cons index written ih =>
      rw [get?_cons, Option.bind_eq_some_iff] at hx
      obtain ⟨z, hz, hx⟩ := hx
      -- The element itself is around the one that is written to.
      have hself : ¬ (p [] && decide (e.name = name)) = true := by
        rw [Bool.and_eq_true_iff, decide_eq_true_eq]
        rintro ⟨hp, hsame⟩
        exact haround [] List.nil_prefix (List.cons_ne_nil _ _).symm hp e (get?_nil e) hsame
      have htag : (e.modify (·.showText value) (index :: written)).name = e.name :=
        congrArg Tag.name (toTag_modify_cons ..)
      rw [textsWhere_eq, textsWhere_eq, htag, if_neg hself, if_neg hself, List.nil_append,
        List.nil_append, elements_modify_cons, List.flatMap_map, List.filterMap_flatMap]
      refine List.flatMap_congr fun (i, y) hy => ?_
      dsimp only
      rw [filterMap_overwrite_cons]
      by_cases hi : i = index
      · subst hi
        obtain rfl : y = z := Option.some.inj ((mem_elements_iff.1 hy).symm.trans hz)
        rw [if_pos rfl, if_pos rfl, ih hx]
        intro around hbegins hne hp w hw
        refine haround (i :: around) ((List.prefix_cons_inj i).2 hbegins) ?_ hp w ?_
        · simpa using hne
        · rw [get?_cons_of_childAt? hz]
          exact hw
      · rw [if_neg hi, if_neg hi]

end Xml.Element

/-! ### Texts read in a row -/

theorem join_eq_empty_iff {texts : List String} :
    String.join texts = "" ↔ ∀ text ∈ texts, text = "" := by
  induction texts with
  | nil => simp
  | cons text texts ih =>
      rw [String.join_cons, String.append_eq_empty_iff, ih, List.forall_mem_cons]

theorem append_append_eq_self_iff {before value behind : String} :
    before ++ (value ++ behind) = value ↔ before = "" ∧ behind = "" := by
  constructor
  · intro h
    have hlength := congrArg String.length h
    rw [String.length_append, String.length_append] at hlength
    exact ⟨String.length_eq_zero_iff.1 (by omega), String.length_eq_zero_iff.1 (by omega)⟩
  · rintro ⟨rfl, rfl⟩
    simp

namespace Xml.Element

variable {entries : List (Path × String)} {written : Path} {value : String}

/-- Texts that are read in a row. -/
def joined (entries : List (Path × String)) : String := String.join (entries.map (·.2))

theorem filterMap_overwrite_of_notMem (h : written ∉ entries.map (·.1)) :
    entries.filterMap (overwrite written value)
      = entries.filter fun entry => ¬ written <+: entry.1 := by
  rw [← List.filterMap_eq_filter]
  refine List.filterMap_congr fun entry hentry => ?_
  have hne : entry.1 ≠ written := by
    rintro rfl
    exact h (List.mem_map_of_mem hentry)
  unfold overwrite
  rw [if_neg hne]
  by_cases hbegins : written <+: entry.1 <;> simp [hbegins, Option.guard]

/-- A value that is written to one of several texts is read alone just if the others are empty. -/
theorem joined_overwrite_iff (hnodup : (entries.map (·.1)).Nodup)
    (hmem : written ∈ entries.map (·.1)) :
    joined (entries.filterMap (overwrite written value)) = value
      ↔ ∀ entry ∈ entries, ¬ written <+: entry.1 → entry.2 = "" := by
  obtain ⟨⟨path, text⟩, hentry, rfl⟩ := List.mem_map.1 hmem
  obtain ⟨before, behind, rfl⟩ := List.append_of_mem hentry
  dsimp only
  rw [List.map_append, List.map_cons, List.nodup_middle, List.nodup_cons, List.mem_append,
    not_or] at hnodup
  obtain ⟨⟨hbefore, hbehind⟩, -⟩ := hnodup
  have hself : overwrite path value (path, text) = some (path, value) := if_pos rfl
  rw [List.filterMap_append, List.filterMap_cons, hself, filterMap_overwrite_of_notMem hbefore,
    filterMap_overwrite_of_notMem hbehind]
  unfold joined
  rw [List.map_append, List.map_cons, String.join_append, String.join_cons,
    append_append_eq_self_iff, join_eq_empty_iff, join_eq_empty_iff]
  simp only [List.mem_map, List.mem_filter, decide_eq_true_eq, List.mem_append, List.mem_cons]
  constructor
  · rintro ⟨hempty, hempty'⟩ entry (hmem | rfl | hmem) hbegins
    · exact hempty _ ⟨entry, ⟨hmem, hbegins⟩, rfl⟩
    · exact absurd (List.prefix_refl _) hbegins
    · exact hempty' _ ⟨entry, ⟨hmem, hbegins⟩, rfl⟩
  · intro h
    constructor
    · rintro _ ⟨entry, ⟨hmem, hbegins⟩, rfl⟩
      exact h entry (Or.inl hmem) hbegins
    · rintro _ ⟨entry, ⟨hmem, hbegins⟩, rfl⟩
      exact h entry (Or.inr (Or.inr hmem)) hbegins

end Xml.Element

namespace WordDocument

open Element (textsWhere overwrite joined)

/-! ### Results of fields -/

/-- Child runs of an element, from an index up to another. -/
structure Stretch where
  around : Path
  start : Nat
  stop : Nat

/-- A stretch is the result of a field: the runs between the `separate` run and the `end` run of a
complex field, or all child runs of a simple field. -/
def IsResult (d : WordDocument) (stretch : Stretch) : WordField → Prop
  | .complex beginRun => ∃ (parent : Element) (first middle : Nat),
      beginRun = stretch.around ++ [first] ∧ d.xml.root.get? stretch.around = some parent
        ∧ Matched (d.marks parent) first middle stretch.stop ∧ stretch.start = middle + 1
  | .simple element => ∃ parent, element = stretch.around
      ∧ d.xml.root.get? stretch.around = some parent
      ∧ stretch.start = 0 ∧ stretch.stop = parent.children.length

/-- Whether a path leads to a run of a stretch or into one. -/
def inStretch (d : WordDocument) (stretch : Stretch) (path : Path) : Bool :=
  stretch.around.isPrefixOf path && match path.drop stretch.around.length with
    | [] => false
    | index :: _ => stretch.start ≤ index && index < stretch.stop
        && (d.xml.root.get? (stretch.around ++ [index])).any (·.name = d.names.run)

/-- The texts of a stretch, with the paths of their elements. -/
def textsOf (d : WordDocument) (stretch : Stretch) : List (Path × String) :=
  d.xml.root.textsWhere d.names.text (d.inStretch stretch)

/-- What is read in a stretch. -/
def shownIn (d : WordDocument) (stretch : Stretch) : String := joined (d.textsOf stretch)

theorem inStretch_iff {d : WordDocument} {stretch : Stretch} {path : Path} :
    d.inStretch stretch path = true ↔ ∃ index below run, path = stretch.around ++ index :: below
      ∧ stretch.start ≤ index ∧ index < stretch.stop
      ∧ d.xml.root.get? (stretch.around ++ [index]) = some run ∧ run.name = d.names.run := by
  unfold inStretch
  rw [Bool.and_eq_true_iff, List.isPrefixOf_iff_prefix]
  constructor
  · rintro ⟨⟨rest, rfl⟩, h⟩
    rw [List.drop_left] at h
    cases rest with
    | nil => cases h
    | cons index below =>
        simp only [Bool.and_eq_true_iff, decide_eq_true_eq, Option.any_eq_true_iff_get] at h
        obtain ⟨⟨hstart, hstop⟩, hsome, hname⟩ := h
        exact ⟨index, below, _, rfl, hstart, hstop, (Option.some_get hsome).symm,
          by simpa using hname⟩
  · rintro ⟨index, below, run, rfl, hstart, hstop, hrun, hname⟩
    refine ⟨List.prefix_append _ _, ?_⟩
    rw [List.drop_left]
    simp [hstart, hstop, hrun, hname]

theorem IsResult.around?_eq {d : WordDocument} {stretch : Stretch} {field : WordField}
    (h : d.IsResult stretch field) : field.around? = some stretch.around := by
  cases field with
  | complex beginRun =>
      obtain ⟨_, first, _, rfl, -⟩ := h
      simp [WordField.around?]
  | simple element =>
      obtain ⟨_, rfl, -⟩ := h
      rfl

/-! ### Setting a value -/

/-- A text in a child run leaves the field characters of the runs. -/
theorem marks_showText {d : WordDocument} {parent run x : Element} {index text : Nat}
    (hrun : parent.childAt? index = some run) (hx : run.childAt? text = some x)
    (hname : x.name = d.names.text) (value : String) :
    d.marks (parent.modify (·.showText value) [index, text]) = d.marks parent := by
  have htag (i : Nat) (y : Element) :
      (if i = index then y.modify (·.showText value) [text] else y).name = y.name := by
    split
    · exact congrArg Tag.name (Element.toTag_modify_cons ..)
    · rfl
  unfold marks
  rw [Element.elements_modify_cons, List.filter_map, List.flatMap_map]
  simp only [Function.comp_def, htag]
  refine List.flatMap_congr fun (i, y) hy => ?_
  by_cases hi : i = index
  · subst hi
    obtain rfl : y = run := Option.some.inj
      ((Element.mem_elements_iff.1 (List.mem_filter.1 hy).1).symm.trans hrun)
    dsimp only
    rw [if_pos rfl, Element.elements_modify_cons, List.filterMap_map]
    refine List.filterMap_congr fun (j, z) hz => ?_
    by_cases hj : j = text
    · subst hj
      obtain rfl : z = x := Option.some.inj ((Element.mem_elements_iff.1 hz).symm.trans hx)
      have hno : z.name ≠ d.names.fieldChar := by
        rw [hname]
        exact d.fieldChar_ne_text.symm
      have hno' : (z.showText value).name ≠ d.names.fieldChar := by
        rwa [Element.name_showText]
      show (if (if j = j then z.showText value else z).name = d.names.fieldChar then _ else _) = _
      rw [if_pos rfl, if_neg hno', if_neg hno]
    · simp [hj]
  · simp [hi]

theorem setValue?_eq {d d' : WordDocument} {field : WordField} {written : Path} {value : String}
    (hwritten : d.valuePath? field = some written) (hset : d.setValue? field value = some d') :
    d' = { d with xml := { d.xml with root := d.xml.root.modify (·.showText value) written } } := by
  unfold setValue? at hset
  rw [hwritten] at hset
  exact (Option.some.inj hset).symm

section SetValue

variable {d d' : WordDocument} {field : WordField} {stretch : Stretch} {written : Path}
  {value : String} (hresult : d.IsResult stretch field)
  (hwritten : d.valuePath? field = some written) (hset : d.setValue? field value = some d')

include hresult hwritten

/-- The text that a value is written to is in a run beside the result. -/
theorem exists_written : ∃ parent run index text x, d.xml.root.get? stretch.around = some parent
    ∧ parent.childAt? index = some run ∧ run.name = d.names.run
    ∧ run.childAt? text = some x ∧ x.name = d.names.text
    ∧ written = stretch.around ++ [index, text] := by
  obtain ⟨around, parent, index, run, text, x, haround, hparent, hrun, hx, rfl⟩ :=
    exists_of_valuePath? hwritten
  obtain rfl : stretch.around = around := Option.some.inj (hresult.around?_eq.symm.trans haround)
  obtain ⟨hmem, hname⟩ := mem_elements_of_shownIn? hrun
  obtain ⟨hx, hxname⟩ := Element.findChild?_eq_some hx
  exact ⟨parent, run, index, text, x, hparent, Element.mem_elements_iff.1 hmem, hname, hx, hxname,
    rfl⟩

/-- With a text below it in the result, the text that a value is written to is in the result. -/
theorem written_mem_textsOf {entry : Path × String} (hentry : entry ∈ d.textsOf stretch)
    (hbegins : written <+: entry.1) : written ∈ (d.textsOf stretch).map (·.1) := by
  obtain ⟨x, hx, hname⟩ := exists_get?_of_valuePath? hwritten
  obtain ⟨-, -, hin, -⟩ := Element.mem_textsWhere_iff.1 hentry
  obtain ⟨_, _, index, text, _, -, -, -, -, -, rfl⟩ := exists_written hresult hwritten
  obtain ⟨i, below, run, hpath, hstart, hstop, hrun, hrunname⟩ := inStretch_iff.1 hin
  rw [hpath, List.prefix_append_right_inj, List.cons_prefix_cons] at hbegins
  obtain ⟨rfl, -⟩ := hbegins
  have hwritten' : d.inStretch stretch (stretch.around ++ [index, text]) = true :=
    inStretch_iff.2 ⟨index, [text], run, rfl, hstart, hstop, hrun, hrunname⟩
  exact List.mem_map.2 ⟨_, Element.mem_textsWhere_iff.2 ⟨x, hx, hwritten', hname, rfl⟩, rfl⟩

include hset

/-- The result of the field is the same stretch afterwards. -/
theorem isResult_setValue? : d'.IsResult stretch field := by
  obtain ⟨parent, run, index, text, x, hparent, hrun, -, hx, hname, rfl⟩ :=
    exists_written hresult hwritten
  obtain rfl := setValue?_eq hwritten hset
  have hparent' : (d.xml.root.modify (·.showText value) (stretch.around ++ [index, text])).get?
      stretch.around = some (parent.modify (·.showText value) [index, text]) := by
    rw [Element.get?_modify_around, hparent, Option.map_some]
  cases field with
  | complex beginRun =>
      obtain ⟨parent', first, middle, hbegin, hparent'', hmatched, hstart⟩ := hresult
      obtain rfl : parent = parent' := Option.some.inj (hparent.symm.trans hparent'')
      rw [← marks_showText hrun hx hname value] at hmatched
      exact ⟨_, first, middle, hbegin, hparent', hmatched, hstart⟩
  | simple element =>
      obtain ⟨parent', helement, hparent'', hstart, hstop⟩ := hresult
      obtain rfl : parent = parent' := Option.some.inj (hparent.symm.trans hparent'')
      refine ⟨_, helement, hparent', hstart, hstop.trans ?_⟩
      rw [Element.modify_cons, hrun]
      simp

theorem inStretch_setValue? : d'.inStretch stretch = d.inStretch stretch := by
  obtain ⟨parent, run, index, text, x, -, -, -, -, -, rfl⟩ := exists_written hresult hwritten
  obtain rfl := setValue?_eq hwritten hset
  have hruns (i : Nat) :
      ((d.xml.root.modify (·.showText value) (stretch.around ++ [index, text])).get?
          (stretch.around ++ [i])).any (·.name = d.names.run)
        = (d.xml.root.get? (stretch.around ++ [i])).any (·.name = d.names.run) := by
    by_cases hi : i = index
    · subst hi
      have hsplit : stretch.around ++ [i, text] = (stretch.around ++ [i]) ++ [text] := by simp
      rw [hsplit, Element.get?_modify_around, Option.any_map]
      congr 1
      funext y
      show decide ((y.modify _ [text]).name = _) = _
      rw [congrArg Tag.name (Element.toTag_modify_cons y _ text [])]
    · rw [Element.get?_modify_of_apart]
      · rw [List.prefix_append_right_inj]
        simp
      · rw [List.prefix_append_right_inj]
        simp [hi]
  funext path
  unfold inStretch
  congr 1
  cases path.drop stretch.around.length with
  | nil => rfl
  | cons i below =>
      exact congrArg (fun b => decide (stretch.start ≤ i) && decide (i < stretch.stop) && b)
        (hruns i)

/-- The texts of a result after a value was written to a text, of this result or of another. -/
theorem textsOf_setValue? :
    d'.textsOf stretch = (d.textsOf stretch).filterMap (overwrite written value) := by
  have hstretch := inStretch_setValue? hresult hwritten hset
  obtain ⟨y, hy, hyname⟩ := exists_get?_of_valuePath? hwritten
  unfold textsOf
  rw [hstretch, ← Element.textsWhere_modify value hy hyname]
  · obtain rfl := setValue?_eq hwritten hset
    rfl
  · -- Around the text that is written to, the stretch has only its run.
    intro around hbegins hne haround z hz
    obtain ⟨parent, run, index, text, x, -, -, -, -, -, rfl⟩ := exists_written hresult hwritten
    obtain ⟨i, below, run', rfl, -, -, hrun', hname⟩ := inStretch_iff.1 haround
    rw [List.prefix_append_right_inj, List.cons_prefix_cons] at hbegins
    obtain ⟨rfl, hbelow⟩ := hbegins
    have hnil : below = [] := by
      rcases List.prefix_cons_iff.1 hbelow with hnil | ⟨rest, rfl, hrest⟩
      · exact hnil
      · rw [List.prefix_nil.1 hrest] at hne
        exact absurd rfl hne
    rw [hnil, hrun', Option.some.injEq] at hz
    rw [← hz, hname]
    exact d.run_ne_text

end SetValue

/-- What a field shows when its value was set, as the text that is written to tells. Where that text
is in the result of the field, the field shows the value exactly when the other texts of the result
are empty. Where it is elsewhere, the field shows what it did. -/
theorem setValue?_shows_iff {d d' : WordDocument} {field : WordField} {stretch : Stretch}
    {value : String} (hresult : d.IsResult stretch field)
    (hset : d.setValue? field value = some d') :
    ∃ written, d.valuePath? field = some written ∧ d'.IsResult stretch field
      ∧ d'.textsOf stretch = (d.textsOf stretch).filterMap (overwrite written value)
      ∧ (d'.shownIn stretch = value
        ↔ if written ∈ (d.textsOf stretch).map (·.1) then
            ∀ entry ∈ d.textsOf stretch, ¬ written <+: entry.1 → entry.2 = ""
          else d.shownIn stretch = value) := by
  have hsome : ∃ written, d.valuePath? field = some written := by
    unfold setValue? at hset
    obtain ⟨written, hwritten, -⟩ := Option.map_eq_some_iff.1 hset
    exact ⟨written, hwritten⟩
  obtain ⟨written, hwritten⟩ := hsome
  have htexts := textsOf_setValue? hresult hwritten hset
  refine ⟨written, hwritten, isResult_setValue? hresult hwritten hset, htexts, ?_⟩
  unfold shownIn
  rw [htexts]
  split
  · rename_i hmem
    exact Element.joined_overwrite_iff (Element.nodup_textsWhere _ _ _) hmem
  · rename_i hmem
    have hkept : (d.textsOf stretch).filterMap (overwrite written value) = d.textsOf stretch := by
      rw [Element.filterMap_overwrite_of_notMem hmem, List.filter_eq_self]
      intro entry hentry
      exact decide_eq_true fun hbegins =>
        hmem (written_mem_textsOf hresult hwritten hentry hbegins)
    rw [hkept]

/-- A paragraph with a field whose value an editor has split over two runs. -/
def splitResult : WordDocument :=
  ofParagraph [charRun "begin", codeRun " MERGEFIELD Name ", charRun "separate", textRun "Old",
    textRun " Name", charRun "end"]

/-- The two runs. -/
def splitRuns : Stretch := ⟨[0], 3, 5⟩

theorem isResult_splitRuns : splitResult.IsResult splitRuns (.complex [0, 0]) :=
  ⟨_, 0, 2, rfl, rfl, ⟨[], [], [], [], .nil, .nil, by decide +kernel⟩, rfl⟩

/-- Of a value that is set the field shows the rest of the old one behind it. -/
theorem setValue?_shows_iff_splitResult :
    let field : WordField := .complex [0, 0]
    let d' := splitResult.write field "Ann"
    splitResult.IsResult splitRuns field ∧ splitResult.setValue? field "Ann" = some d'
      ∧ (∃ written, splitResult.valuePath? field = some written ∧ d'.IsResult splitRuns field
          ∧ d'.textsOf splitRuns
            = (splitResult.textsOf splitRuns).filterMap (overwrite written "Ann")
          ∧ (d'.shownIn splitRuns = "Ann"
            ↔ if written ∈ (splitResult.textsOf splitRuns).map (·.1) then
                ∀ entry ∈ splitResult.textsOf splitRuns, ¬ written <+: entry.1 → entry.2 = ""
              else splitResult.shownIn splitRuns = "Ann"))
      ∧ d'.shownIn splitRuns = "Ann Name" := by
  intro field d'
  have hset : splitResult.setValue? field "Ann" = some d' := by decide +kernel
  exact ⟨isResult_splitRuns, hset, setValue?_shows_iff isResult_splitRuns hset,
    by decide +kernel⟩

/-- So a field does not show the value that was set, though its result has texts. -/
theorem not_forall_shownIn_setValue? :
    ¬ ∀ (d d' : WordDocument) (field : WordField) (stretch : Stretch) (value : String),
      d.Bracketed → field ∈ d.fields → d.IsResult stretch field → d.textsOf stretch ≠ [] →
      d.setValue? field value = some d' → d'.shownIn stretch = value := by
  intro h
  have hmarks : ∀ entry ∈ splitResult.xml.root.walk, splitResult.marks entry.2 = []
      ∨ splitResult.marks entry.2 = [(0, .opening), (2, .separator), (5, .closing)] := by
    decide +kernel
  have hbracketed : splitResult.Bracketed :=
    bracketed_of_walk (.shown 0 2 5 .nil .nil .nil) hmarks
  have hshown := h splitResult (splitResult.write (.complex [0, 0]) "Ann") (.complex [0, 0])
    splitRuns "Ann" hbracketed (by decide +kernel) isResult_splitRuns (by decide +kernel)
    (by decide +kernel)
  have hold : (splitResult.write (.complex [0, 0]) "Ann").shownIn splitRuns = "Ann Name" := by
    decide +kernel
  rw [hold] at hshown
  exact absurd hshown (by decide)

end WordDocument

end MailMerge
