import MailMerge.Proofs.Xml.Everywhere
import MailMerge.Proofs.Xml.Retexted
import MailMerge.Word.Merge

/-!
# `MailMerge.Proofs.Word.Places`: where the code and the value of a field stand

The code and the value of a field are found from one element: the one around its `begin` run, or the
element that a simple field is. `codeIn?` and `spotIn?` are the search in that element.

Filling in puts plain texts into text elements. Neither search sees that, as the one looks at the
names and field characters of runs only, and the other takes the text of elements that hold no text
elements.

* `spotIn?_of_retexted`, `codeIn?_complex_of_kept`: the searches in an element before and after.
* `exists_get?_of_valuePath?`: a field's value is shown by a text element.
-/

set_option autoImplicit false

namespace MailMerge

open MailMerge.Xml

/-! ### Names -/

namespace WordDocument

theorem run_ne_text (d : WordDocument) : d.names.run ≠ d.names.text := fun h =>
  absurd (qualifiedName_inj.1 h) (by decide)

theorem fieldChar_ne_text (d : WordDocument) : d.names.fieldChar ≠ d.names.text := fun h =>
  absurd (qualifiedName_inj.1 h) (by decide)

theorem fieldCode_ne_text (d : WordDocument) : d.names.fieldCode ≠ d.names.text := fun h =>
  absurd (qualifiedName_inj.1 h) (by decide)

theorem simpleField_ne_text (d : WordDocument) : d.names.simpleField ≠ d.names.text := fun h =>
  absurd (qualifiedName_inj.1 h) (by decide)

end WordDocument

/-! ### The search for a value -/

namespace WordField

/-- The path of the element in which a field's code and value are searched. -/
def around? : WordField → Option Path
  | .complex beginRun => beginRun.getLast?.map fun _ => beginRun.dropLast
  | .simple element => some element

end WordField

namespace WordDocument

/-- The run that shows the value of a field, in the element around it. -/
def shownIn? (d : WordDocument) (parent : Element) : WordField → Option (Nat × Element)
  | .complex beginRun => beginRun.getLast?.bind fun index =>
      (((d.runsAfter parent index).dropWhile fun (_, run) =>
        !d.names.hasFieldChar "separate" run).tail).find? fun (_, run) => d.hasText run
  | .simple _ => parent.elements.find? fun (_, run) => run.name = d.names.run && d.hasText run

/-- The path of the text that shows the value of a field, from the element around it. -/
def spotIn? (d : WordDocument) (parent : Element) (field : WordField) : Option Path :=
  (d.shownIn? parent field).bind fun (index, run) =>
    (run.findChild? d.names.text).map fun (textIndex, _) => [index, textIndex]

/-- The runs after a `begin` run, from the element around it. -/
theorem siblings?_eq (d : WordDocument) (beginRun : Path) :
    d.siblings? beginRun = (WordField.complex beginRun).around?.bind fun path =>
      (d.xml.root.get? path).bind fun parent => beginRun.getLast?.map (d.runsAfter parent) := by
  simp only [siblings?, WordField.around?]
  cases beginRun.getLast? with
  | none => rfl
  | some index =>
      simp only [Option.map_some, Option.bind_some]
      cases d.xml.root.get? beginRun.dropLast <;> rfl

theorem valueRun?_eq (d : WordDocument) (field : WordField) :
    d.valueRun? field = field.around?.bind fun path =>
      (d.xml.root.get? path).bind fun parent =>
        (d.shownIn? parent field).map fun (index, run) => (path, index, run) := by
  cases field with
  | complex beginRun =>
      simp only [valueRun?, siblings?_eq, WordField.around?, shownIn?]
      cases beginRun.getLast? <;> simp [Option.bind_assoc]
  | simple element => rfl

theorem valuePath?_eq (d : WordDocument) (field : WordField) :
    d.valuePath? field = field.around?.bind fun path =>
      (d.xml.root.get? path).bind fun parent => (d.spotIn? parent field).map (path ++ ·) := by
  unfold valuePath? spotIn?
  rw [valueRun?_eq]
  cases field.around? with
  | none => rfl
  | some path =>
      cases hparent : d.xml.root.get? path with
      | none => simp [hparent]
      | some parent =>
          simp only [Option.bind_some, hparent]
          cases d.shownIn? parent field with
          | none => rfl
          | some found =>
              simp only [Option.map_some, Option.bind_some, Option.map_map]
              rfl

/-- The run that shows a value is a child run with text. -/
theorem mem_elements_of_shownIn? {d : WordDocument} {parent run : Element} {field : WordField}
    {index : Nat} (h : d.shownIn? parent field = some (index, run)) :
    (index, run) ∈ parent.elements ∧ run.name = d.names.run := by
  cases field with
  | complex beginRun =>
      obtain ⟨first, -, h⟩ := Option.bind_eq_some_iff.1 h
      have hmem := List.mem_of_mem_tail (List.mem_of_find?_eq_some h)
      have hruns := (List.dropWhile_sublist _).subset hmem
      unfold runsAfter at hruns
      rw [List.mem_filter] at hruns
      exact ⟨hruns.1, by simpa using (Bool.and_eq_true_iff.1 hruns.2).2⟩
  | simple element =>
      have hname := List.find?_some h
      exact ⟨List.mem_of_find?_eq_some h, by simpa using (Bool.and_eq_true_iff.1 hname).1⟩

/-- The path of a value goes from the element around the field to a run and to its first text. -/
theorem exists_of_valuePath? {d : WordDocument} {field : WordField} {path : Path}
    (h : d.valuePath? field = some path) :
    ∃ around parent index run textIndex x, field.around? = some around
      ∧ d.xml.root.get? around = some parent ∧ d.shownIn? parent field = some (index, run)
      ∧ run.findChild? d.names.text = some (textIndex, x)
      ∧ path = around ++ [index, textIndex] := by
  rw [valuePath?_eq] at h
  obtain ⟨around, haround, h⟩ := Option.bind_eq_some_iff.1 h
  obtain ⟨parent, hparent, h⟩ := Option.bind_eq_some_iff.1 h
  obtain ⟨spot, hspot, rfl⟩ := Option.map_eq_some_iff.1 h
  obtain ⟨⟨index, run⟩, hrun, hspot⟩ := Option.bind_eq_some_iff.1 hspot
  obtain ⟨⟨textIndex, x⟩, hx, rfl⟩ := Option.map_eq_some_iff.1 hspot
  exact ⟨around, parent, index, run, textIndex, x, haround, hparent, hrun, hx, rfl⟩

/-- The value of a field is shown by a text element. -/
theorem exists_get?_of_valuePath? {d : WordDocument} {field : WordField} {path : Path}
    (h : d.valuePath? field = some path) :
    ∃ x, d.xml.root.get? path = some x ∧ x.name = d.names.text := by
  obtain ⟨around, parent, index, run, textIndex, x, -, hparent, hrun, hx, rfl⟩ :=
    exists_of_valuePath? h
  obtain ⟨hx, hname⟩ := Element.findChild?_eq_some hx
  refine ⟨x, ?_, hname⟩
  have hat := Element.mem_elements_iff.1 (mem_elements_of_shownIn? hrun).1
  rw [Element.get?_append, hparent, Option.bind_some, Element.get?_cons_of_childAt? hat,
    Element.get?_cons_of_childAt? hx, Element.get?_nil]

theorem name_of_valuePath? {d : WordDocument} {field : WordField} {path : Path} {x : Element}
    (h : d.valuePath? field = some path) (hx : d.xml.root.get? path = some x) :
    x.name = d.names.text := by
  obtain ⟨y, hy, hname⟩ := exists_get?_of_valuePath? h
  rw [hx, Option.some.injEq] at hy
  exact hy ▸ hname

/-- What is left behind a row depends on what is asked of its members. -/
theorem dropWhile_congr {α : Type} {p q : α → Bool} {xs : List α} (h : ∀ x ∈ xs, p x = q x) :
    xs.dropWhile p = xs.dropWhile q := by
  induction xs with
  | nil => rfl
  | cons x xs ih =>
      obtain ⟨hx, hxs⟩ := List.forall_mem_cons.1 h
      rw [List.dropWhile_cons, List.dropWhile_cons, hx, ih hxs]

/-! ### Searches in a retexted element -/

section Retexted

variable {d : WordDocument}

theorem attribute?_of_toTag_eq {e e' : Element} (h : e'.toTag = e.toTag) (name : String) :
    e'.attribute? name = e.attribute? name := by
  unfold Element.attribute?
  rw [h]

/-- Field characters stay, as they are in no text element. -/
theorem hasFieldChar_of_retexted {run run' : Element} (h : Element.Retexted d.names.text run run')
    (hname : run.name = d.names.run) (kind : String) :
    d.names.hasFieldChar kind run' = d.names.hasFieldChar kind run := by
  obtain ⟨helements, hfollow⟩ := h.kept (hname ▸ d.run_ne_text)
  unfold WordNames.hasFieldChar
  rw [helements, List.any_map, Bool.eq_iff_iff, List.any_eq_true, List.any_eq_true]
  -- A field character keeps its name, and as it is no text also its attributes.
  refine exists_congr fun entry => and_congr_right fun hentry => ?_
  have hentry := hfollow entry hentry
  simp only [Function.comp_apply, Bool.and_eq_true, decide_eq_true_eq, hentry.name_eq]
  refine and_congr_right fun hchar => ?_
  rw [attribute?_of_toTag_eq (hentry.toTag_eq (hchar ▸ d.fieldChar_ne_text))]

/-- Whether a run has text stays, as text elements stay text elements. -/
theorem hasText_of_retexted {run run' : Element} (h : Element.Retexted d.names.text run run')
    (hname : run.name = d.names.run) : d.hasText run' = d.hasText run := by
  unfold hasText Element.child?
  rw [h.findChild?_eq (hname ▸ d.run_ne_text)]
  simp

/-- The runs after an index, in a retexted element that has kept its child elements. -/
theorem runsAfter_of_kept {parent parent' : Element}
    (h : Element.Retexted.Kept d.names.text parent parent')
    (index : Nat) :
    d.runsAfter parent' index
      = (d.runsAfter parent index).map (Element.Retexted.follow parent') := by
  unfold runsAfter
  rw [h.elements_eq, List.filter_map]
  congr 1
  refine List.filter_congr fun entry hentry => ?_
  show (_ && decide ((Element.Retexted.follow parent' entry).2.name = _)) = _
  rw [(h.retexted entry hentry).name_eq]

/-- A row of runs that have not changed their names. -/
theorem dropWhile_follow {runs : List (Nat × Element)} {parent' : Element}
    (hruns : ∀ entry ∈ runs, entry.2.name = d.names.run
      ∧ Element.Retexted d.names.text entry.2 (Element.Retexted.follow parent' entry).2) :
    (runs.map (Element.Retexted.follow parent')).dropWhile
        (fun (_, run) => !d.names.hasFieldChar "separate" run)
      = (runs.dropWhile fun (_, run) => !d.names.hasFieldChar "separate" run).map
          (Element.Retexted.follow parent') := by
  rw [List.dropWhile_map]
  congr 1
  refine dropWhile_congr fun entry hentry => ?_
  obtain ⟨hname, hretexted⟩ := hruns entry hentry
  exact congrArg not (hasFieldChar_of_retexted hretexted hname "separate")

/-- The run that shows a value stays, in an element that has kept its child elements. -/
theorem shownIn?_of_kept {parent parent' : Element}
    (h : Element.Retexted.Kept d.names.text parent parent')
    (field : WordField) :
    d.shownIn? parent' field
      = (d.shownIn? parent field).map (Element.Retexted.follow parent') := by
  cases field with
  | complex beginRun =>
      simp only [shownIn?]
      cases beginRun.getLast? with
      | none => rfl
      | some index =>
          -- Both steps of the search ask each run for what is the same before and after.
          have hruns : ∀ entry ∈ d.runsAfter parent index, entry.2.name = d.names.run
              ∧ Element.Retexted d.names.text entry.2
                (Element.Retexted.follow parent' entry).2 := by
            intro entry hentry
            unfold runsAfter at hentry
            rw [List.mem_filter] at hentry
            exact ⟨by simpa using (Bool.and_eq_true_iff.1 hentry.2).2, h.retexted entry hentry.1⟩
          simp only [Option.bind_some]
          rw [runsAfter_of_kept h, dropWhile_follow hruns, ← List.map_tail,
            List.find?_map]
          congr 1
          refine List.find?_congr fun entry hentry => ?_
          obtain ⟨hname, hentry⟩ := hruns entry
            ((List.dropWhile_sublist _).subset (List.mem_of_mem_tail hentry))
          exact hasText_of_retexted hentry hname
  | simple element =>
      simp only [shownIn?]
      rw [h.elements_eq, List.find?_map]
      congr 1
      refine List.find?_congr fun entry hentry => ?_
      have hentry := h.retexted entry hentry
      show (decide ((Element.Retexted.follow parent' entry).2.name = _) && _) = _
      rw [hentry.name_eq]
      by_cases hname : entry.2.name = d.names.run
      · rw [hasText_of_retexted hentry hname]
      · simp [hname]

/-- The spot of a value stays, in an element that has kept its child elements. -/
theorem spotIn?_of_kept {parent parent' : Element}
    (h : Element.Retexted.Kept d.names.text parent parent')
    (field : WordField) : d.spotIn? parent' field = d.spotIn? parent field := by
  unfold spotIn?
  rw [shownIn?_of_kept h]
  cases hrun : d.shownIn? parent field with
  | none => rfl
  | some entry =>
      obtain ⟨hmem, hname⟩ := mem_elements_of_shownIn? hrun
      simp only [Option.map_some, Option.bind_some]
      rw [(h.retexted entry hmem).findChild?_eq (hname ▸ d.run_ne_text), Option.map_map]
      rfl

/-- Nothing is found in an element without child elements. -/
theorem spotIn?_eq_none {parent : Element} (h : parent.elements = []) (field : WordField) :
    d.spotIn? parent field = none := by
  rw [Option.eq_none_iff_forall_not_mem]
  intro spot hspot
  obtain ⟨⟨index, run⟩, hrun, -⟩ := Option.bind_eq_some_iff.1 hspot
  have hmem := (mem_elements_of_shownIn? hrun).1
  rw [h] at hmem
  cases hmem

/-- What is found in a retexted element was found there before. -/
theorem spotIn?_of_retexted {parent parent' : Element}
    (h : Element.Retexted d.names.text parent parent') {field : WordField} {spot : Path}
    (hspot : d.spotIn? parent' field = some spot) : d.spotIn? parent field = some spot := by
  rcases h.elements_cases with ⟨-, hnone⟩ | hkept
  · rw [spotIn?_eq_none hnone] at hspot
    cases hspot
  · rwa [spotIn?_of_kept hkept] at hspot

end Retexted

/-! ### The search for a code -/

/-- The code of a field, in the element around it. -/
def codeIn? (d : WordDocument) (parent : Element) : WordField → Option String
  | .complex beginRun => beginRun.getLast?.map fun index => d.codeOf (d.runsAfter parent index)
  | .simple _ => parent.attribute? d.names.simpleCode

theorem code?_eq (d : WordDocument) (field : WordField) :
    d.code? field = field.around?.bind fun path =>
      (d.xml.root.get? path).bind fun parent => d.codeIn? parent field := by
  cases field with
  | complex beginRun =>
      simp only [code?, siblings?_eq, codeIn?, Option.map_bind, Option.map_map, Function.comp_def]
  | simple element => rfl

end WordDocument

/-- Text elements hold text only. -/
def WordNames.PlainTexts (names : WordNames) (e : Element) : Prop :=
  e.Everywhere fun x => x.name = names.text → x.elements = []

instance (names : WordNames) (e : Element) : Decidable (names.PlainTexts e) :=
  inferInstanceAs (Decidable (e.Everywhere _))

/-- Text elements and elements with code hold text only. -/
def WordNames.Flat (names : WordNames) (e : Element) : Prop :=
  ∀ (path : Path) (x : Element), e.get? path = some x →
    x.name = names.text ∨ x.name = names.fieldCode → x.elements = []

namespace WordNames

theorem flat_iff_walk {names : WordNames} {e : Element} :
    names.Flat e ↔ ∀ entry ∈ e.walk,
      entry.2.name = names.text ∨ entry.2.name = names.fieldCode → entry.2.elements = [] := by
  rw [Element.forall_mem_walk_iff]
  rfl

instance (names : WordNames) (e : Element) : Decidable (names.Flat e) :=
  decidable_of_iff' _ flat_iff_walk

theorem Flat.plainTexts {names : WordNames} {e : Element} (h : names.Flat e) :
    names.PlainTexts e :=
  fun path x hx hname => h path x hx (Or.inl hname)

theorem Flat.get? {names : WordNames} {e x : Element} {path : Path} (h : names.Flat e)
    (hx : e.get? path = some x) : names.Flat x := by
  intro below y hy
  refine h (path ++ below) y ?_
  rw [Element.get?_append, hx]
  exact hy

theorem Flat.of_mem_elements {names : WordNames} {e : Element} {entry : Nat × Element}
    (h : names.Flat e) (hentry : entry ∈ e.elements) : names.Flat entry.2 := by
  have hat : e.get? [entry.1] = some entry.2 := by
    rw [Element.get?_cons_of_childAt? (Element.mem_elements_iff.1 hentry), Element.get?_nil]
  exact h.get? hat

namespace PlainTexts

variable {names : WordNames} {e e' : Element}

theorem of_mem_elements (h : names.PlainTexts e) {entry : Nat × Element}
    (hentry : entry ∈ e.elements) : names.PlainTexts entry.2 :=
  (Element.everywhere_iff.1 h).2 entry.1 entry.2 (Element.mem_elements_iff.1 hentry)

/-- Every element keeps its child elements when texts change. -/
theorem kept (h : names.PlainTexts e) (hretexted : Element.Retexted names.text e e') :
    Element.Retexted.Kept names.text e e' := by
  rcases hretexted.elements_cases with ⟨hname, hnone⟩ | hkept
  · -- A text element had no child elements to lose.
    have hnil := h.self hname
    refine ⟨by rw [hnone, hnil]; rfl, fun entry hentry => ?_⟩
    rw [hnil] at hentry
    cases hentry
  · exact hkept

/-- Every element is there after texts change. -/
theorem exists_get? (h : names.PlainTexts e) (hretexted : Element.Retexted names.text e e')
    {path : Path} {x : Element} (hx : e.get? path = some x) :
    ∃ x', e'.get? path = some x' ∧ Element.Retexted names.text x x' := by
  induction path generalizing e e' with
  | nil =>
      rw [Element.get?_nil, Option.some.injEq] at hx
      exact ⟨e', Element.get?_nil e', hx ▸ hretexted⟩
  | cons index path ih =>
      rw [Element.get?_cons, Option.bind_eq_some_iff] at hx
      obtain ⟨y, hy, hx⟩ := hx
      have hmem := Element.mem_elements_iff.2 hy
      have hkept := h.kept hretexted
      have hy' : e'.childAt? index
          = some (Element.Retexted.follow e' (index, y)).2 := by
        rw [← Element.mem_elements_iff, hkept.elements_eq]
        exact List.mem_map.2 ⟨_, hmem, rfl⟩
      rw [Element.get?_cons_of_childAt? hy']
      exact ih (h.of_mem_elements hmem) (hkept.retexted _ hmem) hx

/-- The walk leads to the same places when texts change. -/
theorem walk_eq (h : names.PlainTexts e) (hretexted : Element.Retexted names.text e e') :
    e'.walk = e.walk.map fun (path, x) => (path, (e'.get? path).getD x) := by
  induction e using Element.induction generalizing e' with
  | step e ih =>
      have hkept := h.kept hretexted
      rw [Element.walk_eq e', Element.walk_eq e, List.map_cons, hkept.elements_eq,
        List.flatMap_map, List.map_flatMap]
      refine congrArg₂ List.cons (by simp) (List.flatMap_congr ?_)
      intro ⟨index, x⟩ hmem
      have hx' : e'.childAt? index = some (Element.Retexted.follow e' (index, x)).2 := by
        rw [← Element.mem_elements_iff, hkept.elements_eq]
        exact List.mem_map.2 ⟨_, hmem, rfl⟩
      have hwalk := ih index x (Element.mem_elements_iff.1 hmem) (h.of_mem_elements hmem)
        (hkept.retexted _ hmem)
      show ((Element.Retexted.follow e' (index, x)).2.walk.map _) = _
      rw [hwalk, List.map_map, List.map_map]
      refine List.map_congr_left fun entry _ => ?_
      show (index :: entry.1, _) = (index :: entry.1, (e'.get? (index :: entry.1)).getD entry.2)
      rw [Element.get?_cons_of_childAt? hx']

/-- Two texts at different paths are apart, as no text is inside a text. -/
theorem not_prefix (h : names.PlainTexts e) {path other : Path} {x y : Element}
    (hx : e.get? path = some x) (hname : x.name = names.text) (hy : e.get? other = some y)
    (hne : path ≠ other) : ¬ path <+: other := by
  rintro ⟨below, rfl⟩
  obtain ⟨index, below, rfl⟩ := List.exists_cons_of_ne_nil fun hnil : below = [] =>
    hne (by rw [hnil, List.append_nil])
  -- No path leads below a text.
  rw [Element.get?_append, hx, Option.bind_some, Element.get?_cons,
    Element.elements_eq_nil_iff.1 (h path x hx hname) index] at hy
  cases hy

end PlainTexts

end WordNames

namespace WordDocument

/-- Elements with code are the same in an element that has kept them. -/
theorem filter_fieldCode_of_kept {d : WordDocument} {run run' : Element}
    (hkept : Element.Retexted.Kept d.names.text run run')
    (hcode : ∀ entry ∈ run.elements, entry.2.name = d.names.fieldCode →
      (Element.Retexted.follow run' entry).2 = entry.2) :
    (run'.elements.filter fun (_, e) => e.name = d.names.fieldCode)
      = run.elements.filter fun (_, e) => e.name = d.names.fieldCode := by
  -- The same children pass the filter, as names stay.
  have hnames : run.elements.filter
        ((fun (_, e) => decide (e.name = d.names.fieldCode)) ∘ Element.Retexted.follow run')
      = run.elements.filter fun (_, e) => e.name = d.names.fieldCode := by
    refine List.filter_congr fun entry hentry => ?_
    show decide ((Element.Retexted.follow run' entry).2.name = _) = _
    rw [(hkept.retexted entry hentry).name_eq]
  rw [hkept.elements_eq, List.filter_map, hnames]
  conv_rhs => rw [← List.map_id (List.filter _ _)]
  refine List.map_congr_left fun entry hentry => ?_
  obtain ⟨hmem, hname⟩ := List.mem_filter.1 hentry
  exact Prod.ext rfl (hcode entry hmem (by simpa using hname))

/-- A code is put together from elements with code, so it stays with them. -/
theorem codeIn?_complex_of_kept {d : WordDocument} {parent parent' : Element}
    (hkept : Element.Retexted.Kept d.names.text parent parent') {beginRun : Path}
    (hpieces : ∀ index, beginRun.getLast? = some index →
      ∀ entry ∈ (d.runsAfter parent index).take codeReach,
        ((Element.Retexted.follow parent' entry).2.elements.filter
            fun (_, e) => e.name = d.names.fieldCode)
          = entry.2.elements.filter fun (_, e) => e.name = d.names.fieldCode) :
    d.codeIn? parent' (.complex beginRun) = d.codeIn? parent (.complex beginRun) := by
  simp only [codeIn?]
  cases hlast : beginRun.getLast? with
  | none => rfl
  | some index =>
      simp only [Option.map_some, codeOf]
      rw [runsAfter_of_kept hkept, ← List.map_take, List.flatMap_map]
      rw [List.flatMap_congr fun entry hentry => hpieces index hlast entry hentry]

/-- Elements with code stay as they are, as there is no text element in them. -/
theorem filter_fieldCode_of_retexted {d : WordDocument} {run run' : Element}
    (hflat : d.names.Flat run) (h : Element.Retexted d.names.text run run') :
    (run'.elements.filter fun (_, e) => e.name = d.names.fieldCode)
      = run.elements.filter fun (_, e) => e.name = d.names.fieldCode := by
  have hkept := hflat.plainTexts.kept h
  -- Elements with code are no texts and plain.
  refine filter_fieldCode_of_kept hkept fun entry hmem hname => ?_
  have hplain := hflat.of_mem_elements hmem [] entry.2 (Element.get?_nil _) (Or.inr hname)
  exact (hkept.retexted entry hmem).eq_of_elements_eq_nil (hname ▸ d.fieldCode_ne_text) hplain

/-- The code of a complex field stays, in a flat element. -/
theorem codeIn?_complex_of_retexted {d : WordDocument} {parent parent' : Element}
    (hflat : d.names.Flat parent) (h : Element.Retexted d.names.text parent parent')
    (beginRun : Path) :
    d.codeIn? parent' (.complex beginRun) = d.codeIn? parent (.complex beginRun) := by
  have hkept := hflat.plainTexts.kept h
  refine codeIn?_complex_of_kept hkept fun index _ entry hentry => ?_
  have hmem := (List.mem_filter.1 (List.mem_of_mem_take hentry)).1
  exact filter_fieldCode_of_retexted (hflat.of_mem_elements hmem) (hkept.retexted entry hmem)

end WordDocument

end MailMerge
