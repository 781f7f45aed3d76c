import MailMerge.Proofs.Word.Merge

/-!
# `MailMerge.Proofs.Word.Results`: the results of fields and the texts that are written

The result of a complex field is the runs between its own `separate` and its `end`, and that of a
simple field the inside of its element. The text that a field's value is written to is found without
a look at any `end`, so it need not stand in the result of the field, or of any.

* `Balanced`, `Matched`, `InResult`: how field characters are bracketed, and where results are.
* `firstAfter_of_shownIn?`: the run that is written to is the first with text after the first with
  `separate` after the `begin` run.
* `exists_written_of_ne`: an element that differs after a run over fields stands around, at or below
  a text that was written for a field with a value.
* `writesInResults_iff`, `writesInResults_of_flat_iff`: where every text that changes stands in the
  result of a field with a value. It is not so for a field with an empty result before a plain text
  (`emptyResult`).
-/

set_option autoImplicit false

namespace MailMerge

open MailMerge.Xml

/-! ### Brackets -/

/-- What a field character does. -/
inductive FieldMark where
  | opening
  | separator
  | closing
deriving DecidableEq, Repr

/-- The kinds of field characters. -/
def FieldMark.ofKind? (kind : String) : Option FieldMark :=
  if kind = "begin" then some .opening
  else if kind = "separate" then some .separator
  else if kind = "end" then some .closing
  else none

/-- Rows of field characters, with the indices of their runs, in which every `begin` has its `end`
and at most one `separate` between them. -/
inductive Balanced : List (Nat × FieldMark) → Prop where
  | nil : Balanced []
  | plain {code rest : List (Nat × FieldMark)} (first last : Nat) (hcode : Balanced code)
      (hrest : Balanced rest) :
      Balanced ((first, .opening) :: code ++ (last, .closing) :: rest)
  | shown {code result rest : List (Nat × FieldMark)} (first middle last : Nat)
      (hcode : Balanced code) (hresult : Balanced result) (hrest : Balanced rest) :
      Balanced ((first, .opening) :: code ++ (middle, .separator) :: result
        ++ (last, .closing) :: rest)

/-- In a row of field characters, those of three runs belong to one field. -/
def Matched (marks : List (Nat × FieldMark)) (first middle last : Nat) : Prop :=
  ∃ before code result rest, Balanced code ∧ Balanced result
    ∧ marks = before ++ (first, .opening) :: code ++ (middle, .separator) :: result
        ++ (last, .closing) :: rest

theorem Matched.mem {marks : List (Nat × FieldMark)} {first middle last : Nat}
    (h : Matched marks first middle last) :
    (first, .opening) ∈ marks ∧ (middle, .separator) ∈ marks ∧ (last, .closing) ∈ marks := by
  obtain ⟨before, code, result, rest, -, -, rfl⟩ := h
  simp

namespace WordDocument

/-- The field characters in the child runs of an element. -/
def marks (d : WordDocument) (parent : Element) : List (Nat × FieldMark) :=
  (parent.elements.filter fun (_, run) => run.name = d.names.run).flatMap fun (index, run) =>
    run.elements.filterMap fun (_, e) =>
      if e.name = d.names.fieldChar then
        ((e.attribute? d.names.fieldCharType).bind FieldMark.ofKind?).map (index, ·)
      else none

/-- The field characters among the child runs of every element are balanced. -/
def Bracketed (d : WordDocument) : Prop :=
  ∀ (path : Path) (parent : Element), d.xml.root.get? path = some parent →
    Balanced (d.marks parent)

/-- Field characters are balanced where one element at most has some among its child runs. -/
theorem bracketed_of_walk {d : WordDocument} {marks : List (Nat × FieldMark)}
    (hbalanced : Balanced marks)
    (h : ∀ entry ∈ d.xml.root.walk, d.marks entry.2 = [] ∨ d.marks entry.2 = marks) :
    d.Bracketed := by
  intro path parent hparent
  rcases h _ (Element.mem_walk_iff.2 hparent) with hnone | hmarks
  · rw [hnone]
    exact .nil
  · rwa [hmarks]

/-- A path into the result of a field: into a run between the `separate` run and the `end` run of a
complex field, or into the element of a simple field. -/
def InResult (d : WordDocument) (path : Path) : WordField → Prop
  | .complex beginRun => ∃ (around : Path) (parent run : Element)
      (first middle last index : Nat) (below : Path),
      beginRun = around ++ [first] ∧ d.xml.root.get? around = some parent
        ∧ Matched (d.marks parent) first middle last ∧ middle < index ∧ index < last
        ∧ parent.childAt? index = some run ∧ run.name = d.names.run
        ∧ path = around ++ index :: below
  | .simple element => ∃ (index : Nat) (below : Path), path = element ++ index :: below

/-- What is inside something in a result is in the result. -/
theorem InResult.append {d : WordDocument} {path : Path} {field : WordField}
    (h : d.InResult path field) (inside : Path) : d.InResult (path ++ inside) field := by
  cases field with
  | complex beginRun =>
      obtain ⟨around, parent, run, first, middle, last, index, below, h₁, h₂, h₃, h₄, h₅, h₆, h₇,
        rfl⟩ := h
      exact ⟨around, parent, run, first, middle, last, index, below ++ inside, h₁, h₂, h₃, h₄, h₅,
        h₆, h₇, by simp⟩
  | simple element =>
      obtain ⟨index, below, rfl⟩ := h
      exact ⟨index, below ++ inside, by simp⟩

/-! ### Where the value of a complex field is searched -/

/-- The first child run after an index that has a property. -/
def FirstAfter (d : WordDocument) (parent : Element) (p : Element → Bool) (start index : Nat) :
    Prop :=
  start < index
    ∧ (∃ run, parent.childAt? index = some run ∧ run.name = d.names.run ∧ p run = true)
    ∧ ∀ (i : Nat) (run : Element), start < i → i < index → parent.childAt? i = some run →
        run.name = d.names.run → p run = false

theorem mem_runsAfter_iff {d : WordDocument} {parent run : Element} {start index : Nat} :
    (index, run) ∈ d.runsAfter parent start
      ↔ parent.childAt? index = some run ∧ start < index ∧ run.name = d.names.run := by
  unfold runsAfter
  rw [List.mem_filter, Element.mem_elements_iff]
  simp

theorem pairwise_runsAfter (d : WordDocument) (parent : Element) (start : Nat) :
    (d.runsAfter parent start).Pairwise fun a b => a.1 < b.1 :=
  parent.pairwise_elements.sublist List.filter_sublist

/-- What is left of a sorted row from the first entry with a property on. -/
theorem dropWhile_eq_cons {entries rest : List (Nat × Element)} {entry : Nat × Element}
    (hsorted : entries.Pairwise fun a b => a.1 < b.1) {p : Nat × Element → Bool}
    (h : entries.dropWhile (fun x => !p x) = entry :: rest) :
    entry ∈ entries ∧ p entry = true
      ∧ (∀ other ∈ entries, other.1 < entry.1 → p other = false)
      ∧ ∀ other, other ∈ rest ↔ other ∈ entries ∧ entry.1 < other.1 := by
  induction entries with
  | nil => cases h
  | cons head entries ih =>
      obtain ⟨hhead, htail⟩ := List.pairwise_cons.1 hsorted
      cases hp : p head with
      | true =>
          rw [List.dropWhile_cons_of_neg (by simp [hp])] at h
          cases h
          refine ⟨List.mem_cons_self, hp, fun other hother hlt => ?_, fun other => ?_⟩
          · rcases List.mem_cons.1 hother with rfl | hmem
            · exact absurd hlt (Nat.lt_irrefl _)
            · exact absurd (hhead other hmem) (Nat.lt_asymm hlt)
          · rw [List.mem_cons]
            refine ⟨fun hmem => ⟨Or.inr hmem, hhead other hmem⟩, ?_⟩
            rintro ⟨rfl | hmem, hlt⟩
            · exact absurd hlt (Nat.lt_irrefl _)
            · exact hmem
      | false =>
          rw [List.dropWhile_cons_of_pos (by simp [hp])] at h
          obtain ⟨hmem, hentry, hbefore, hrest⟩ := ih htail h
          refine ⟨List.mem_cons_of_mem _ hmem, hentry, fun other hother hlt => ?_, fun other => ?_⟩
          · rcases List.mem_cons.1 hother with rfl | hother
            · exact hp
            · exact hbefore other hother hlt
          · rw [hrest, List.mem_cons]
            refine ⟨fun hother => ⟨Or.inr hother.1, hother.2⟩, ?_⟩
            rintro ⟨rfl | hother, hlt⟩
            · exact absurd (hhead entry hmem) (Nat.lt_asymm hlt)
            · exact ⟨hother, hlt⟩

/-- The value of a complex field is searched in the runs after the first with `separate`, and found
in the first of them with text. No `end` ends the search. -/
theorem firstAfter_of_shownIn? {d : WordDocument} {parent run : Element} {around : Path}
    {first index : Nat}
    (h : d.shownIn? parent (.complex (around ++ [first])) = some (index, run)) :
    ∃ middle, d.FirstAfter parent (d.names.hasFieldChar "separate") first middle
      ∧ d.FirstAfter parent d.hasText middle index := by
  simp only [shownIn?, List.getLast?_concat, Option.bind_some] at h
  have hsorted := d.pairwise_runsAfter parent first
  cases hdrop : (d.runsAfter parent first).dropWhile
      (fun entry => !d.names.hasFieldChar "separate" entry.2) with
  | nil =>
      rw [hdrop] at h
      cases h
  | cons entry rest =>
      rw [hdrop, List.tail_cons] at h
      obtain ⟨middle, separate⟩ := entry
      obtain ⟨hmem, hseparate, hbefore, hrest⟩ := dropWhile_eq_cons hsorted
        (p := fun entry => d.names.hasFieldChar "separate" entry.2) hdrop
      -- The rest of a sorted row is sorted, so the first run found in it is the least.
      have hrestsorted : rest.Pairwise fun a b => a.1 < b.1 :=
        hsorted.sublist ((List.sublist_cons_self _ _).trans (hdrop ▸ List.dropWhile_sublist _))
      obtain ⟨hindex, htext, hfirst⟩ := (Element.find?_eq_some_iff_of_pairwise hrestsorted).1 h
      obtain ⟨hat, hlt, hname⟩ := mem_runsAfter_iff.1 hmem
      obtain ⟨hindex, hmiddle⟩ := (hrest _).1 hindex
      obtain ⟨hat', -, hname'⟩ := mem_runsAfter_iff.1 hindex
      refine ⟨middle, ⟨hlt, ⟨separate, hat, hname, hseparate⟩, ?_⟩,
        ⟨hmiddle, ⟨run, hat', hname', htext⟩, ?_⟩⟩
      · intro i other hi hi' hother hothername
        exact hbefore (i, other) (mem_runsAfter_iff.2 ⟨hother, hi, hothername⟩) hi'
      · intro i other hi hi' hother hothername
        have hmem : (i, other) ∈ rest :=
          (hrest _).2 ⟨mem_runsAfter_iff.2 ⟨hother, Nat.lt_trans hlt hi, hothername⟩, hi⟩
        simpa using hfirst (i, other) hmem hi'

theorem FirstAfter.unique {d : WordDocument} {parent : Element} {p : Element → Bool}
    {start index other : Nat} (h : d.FirstAfter parent p start index)
    (h' : d.FirstAfter parent p start other) : index = other := by
  obtain ⟨hlt, ⟨run, hat, hname, hp⟩, hfirst⟩ := h
  obtain ⟨hlt', ⟨run', hat', hname', hp'⟩, hfirst'⟩ := h'
  rcases Nat.lt_trichotomy index other with hless | heq | hless
  · rw [hfirst' index run hlt hless hat hname] at hp
    cases hp
  · exact heq
  · rw [hfirst other run' hlt' hless hat' hname'] at hp'
    cases hp'

/-- A child run with text. -/
def TextRun (d : WordDocument) (parent : Element) (index : Nat) : Prop :=
  ∃ run, parent.childAt? index = some run ∧ run.name = d.names.run ∧ d.hasText run = true

/-- Where the value of a complex field stands, with the runs that are met in the search for it. -/
theorem exists_firstAfter_of_valuePath? {d : WordDocument} {around written : Path} {first : Nat}
    (h : d.valuePath? (.complex (around ++ [first])) = some written) :
    ∃ parent separate index text, d.xml.root.get? around = some parent
      ∧ d.FirstAfter parent (d.names.hasFieldChar "separate") first separate
      ∧ d.FirstAfter parent d.hasText separate index
      ∧ written = around ++ [index, text] := by
  obtain ⟨around', parent, index, run, text, x, haround, hparent, hrun, -, rfl⟩ :=
    exists_of_valuePath? h
  obtain rfl : around = around' := by simpa [WordField.around?] using haround
  obtain ⟨separate, hseparate, hindex⟩ := firstAfter_of_shownIn? hrun
  exact ⟨parent, separate, index, text, hparent, hseparate, hindex, rfl⟩

/-- The value of a complex field stands in the field's own result exactly when the runs after the
first `separate` run have text before the field's own `end`, and none up to its own `separate`. -/
theorem inResult_complex_iff {d : WordDocument} {around written : Path} {parent : Element}
    {first separate : Nat} (hparent : d.xml.root.get? around = some parent)
    (hwritten : d.valuePath? (.complex (around ++ [first])) = some written)
    (hseparate : d.FirstAfter parent (d.names.hasFieldChar "separate") first separate) :
    d.InResult written (.complex (around ++ [first]))
      ↔ ∃ middle last, Matched (d.marks parent) first middle last
          ∧ (∃ index, separate < index ∧ index < last ∧ d.TextRun parent index)
          ∧ ∀ index, separate < index → d.TextRun parent index → middle < index := by
  obtain ⟨parent', separate', index, text, hparent', hseparate', hindex, rfl⟩ :=
    exists_firstAfter_of_valuePath? hwritten
  obtain rfl : parent = parent' := Option.some.inj (hparent.symm.trans hparent')
  obtain rfl := hseparate.unique hseparate'
  obtain ⟨hlt, ⟨run, hat, hname, htext⟩, hfirst⟩ := hindex
  -- The run that is written to is the least with text after the separator, so a bound on it is a
  -- bound on all of them or on some of them.
  have hleast : ∀ i, separate < i → d.TextRun parent i → index ≤ i := by
    intro i hi ⟨other, hother, hothername, hothertext⟩
    by_contra hless
    rw [hfirst i other hi (Nat.lt_of_not_le hless) hother hothername] at hothertext
    cases hothertext
  constructor
  · rintro ⟨around', parent', run', first', middle, last, i, below, hbegin, hparent', hmatched,
      hmiddle, hlast, -, -, hpath⟩
    obtain ⟨rfl, hfirst⟩ := List.append_inj' hbegin rfl
    obtain rfl : first = first' := by simpa using hfirst
    obtain rfl : parent = parent' := Option.some.inj (hparent.symm.trans hparent')
    have hpath := List.append_cancel_left hpath
    obtain rfl : index = i := (List.cons.inj hpath).1
    exact ⟨middle, last, hmatched, ⟨index, hlt, hlast, run, hat, hname, htext⟩,
      fun i hi hi' => Nat.lt_of_lt_of_le hmiddle (hleast i hi hi')⟩
  · intro ⟨middle, last, hmatched, ⟨i, hi, hilast, hitext⟩, hmiddle⟩
    exact ⟨around, parent, run, first, middle, last, index, [text], rfl, hparent, hmatched,
      hmiddle index hlt ⟨run, hat, hname, htext⟩,
      Nat.lt_of_le_of_lt (hleast i hi hitext) hilast, hat, hname, rfl⟩

/-- The value of a simple field stands in the field's element. -/
theorem inResult_simple {d : WordDocument} {element written : Path}
    (h : d.valuePath? (.simple element) = some written) : d.InResult written (.simple element) := by
  obtain ⟨around, parent, index, run, text, x, haround, -, -, -, rfl⟩ := exists_of_valuePath? h
  obtain rfl : element = around := Option.some.inj haround
  exact ⟨index, [text], rfl⟩

/-! ### What a run over fields changes -/

section Run

variable (functions : Functions) (properties : Properties)

/-- The fields, of those listed, whose code has a value when their turn comes. -/
def filledAlong (d : WordDocument) : List WordField → List WordField
  | [] => []
  | field :: fields =>
    let rest := filledAlong (source.mergeField functions properties d field).1 fields
    if (d.fieldValue? functions properties field).isSome then field :: rest else rest

/-- One step changes nothing, or writes a text for a field with a value. The rest of the run leaves
that text plain. -/
theorem mergeField_cases (d : WordDocument) (field : WordField) (fields : List WordField) :
    (source.mergeField functions properties d field).1 = d
      ∨ ∃ value written, d.fieldValue? functions properties field = some value
          ∧ d.valuePath? field = some written
          ∧ (source.mergeField functions properties d field).1.xml.root
            = d.xml.root.modify (·.showText value) written
          ∧ ∀ x, (source.mergeEach functions properties d
              (field :: fields)).1.xml.root.get? written = some x → x.elements = [] := by
  have hstep := mergeField_fst functions properties d field
  cases hvalue : d.fieldValue? functions properties field with
  | none =>
      rw [hvalue] at hstep
      exact Or.inl hstep
  | some value =>
      rw [hvalue] at hstep
      dsimp only at hstep
      rw [write_eq] at hstep
      cases hwritten : d.valuePath? field with
      | none =>
          rw [hwritten] at hstep
          exact Or.inl hstep
      | some written =>
          rw [hwritten] at hstep
          refine Or.inr ⟨value, written, rfl, rfl, by rw [hstep], fun x hx => ?_⟩
          -- Later steps retext the document, and a plain text stays plain in that.
          have hrest := retexted_mergeEach functions properties
            (source.mergeField functions properties d field).1 fields
          obtain ⟨y, hy, hretexted⟩ := hrest.root.exists_get? hx
          rw [hstep] at hy
          dsimp only at hy
          rw [Element.get?_modify_self, Option.map_eq_some_iff] at hy
          obtain ⟨z, -, rfl⟩ := hy
          exact hretexted.elements_eq_nil (z.elements_showText value)

/-- What differs after a run over fields stands around a text that was written for a field with a
value, or at or below such a text, and then the text is plain. -/
theorem exists_written_of_ne {d : WordDocument} {fields : List WordField} {path : Path}
    (h : (source.mergeEach functions properties d fields).1.xml.root.get? path
      ≠ d.xml.root.get? path) :
    ∃ field ∈ filledAlong functions properties d fields, ∃ written,
      d.valuePath? field = some written
        ∧ (path <+: written
          ∨ written <+: path ∧ ∀ x, (source.mergeEach functions properties d
              fields).1.xml.root.get? written = some x → x.elements = []) := by
  induction fields generalizing d with
  | nil => exact absurd rfl h
  | cons field fields ih =>
      let d' := (source.mergeField functions properties d field).1
      have hrun : (source.mergeEach functions properties d (field :: fields)).1
          = (source.mergeEach functions properties d' fields).1 := rfl
      -- Where the step does not show at the path, the rest of the run does.
      have hlater : d'.xml.root.get? path = d.xml.root.get? path →
          ∃ other ∈ filledAlong functions properties d (field :: fields), ∃ written,
            d.valuePath? other = some written
              ∧ (path <+: written
                ∨ written <+: path ∧ ∀ x, (source.mergeEach functions properties d
                    (field :: fields)).1.xml.root.get? written = some x → x.elements = []) := by
        intro hsame
        rw [hrun, ← hsame] at h
        obtain ⟨other, hother, written, hwritten, hplace⟩ := ih h
        refine ⟨other, ?_, written,
          (retexted_mergeField functions properties d field).valuePath? hwritten, hplace⟩
        unfold filledAlong
        dsimp only
        split
        · exact List.mem_cons_of_mem _ hother
        · exact hother
      rcases mergeField_cases functions properties d field fields with
        hsame | ⟨value, written, hvalue, hwritten, hroot, hplain⟩
      · exact hlater (by rw [show d' = d from hsame])
      · have hfield : field ∈ filledAlong functions properties d (field :: fields) := by
          simp [filledAlong, hvalue]
        by_cases hbelow : written <+: path
        · exact ⟨field, hfield, written, hwritten, Or.inr ⟨hbelow, hplain⟩⟩
        · by_cases haround : path <+: written
          · exact ⟨field, hfield, written, hwritten, Or.inl haround⟩
          · refine hlater ?_
            rw [show d'.xml.root = _ from hroot]
            exact Element.get?_modify_of_apart _ _ hbelow haround

/-! ### Texts that change -/

/-- A text element of a document whose content is another one in a second document, or is gone. -/
def Rewritten (d d' : WordDocument) (path : Path) : Prop :=
  ∃ x, d.xml.root.get? path = some x ∧ x.name = d.names.text
    ∧ ∀ x', d'.xml.root.get? path = some x' → x'.children ≠ x.children

/-- The fields that have a value when filling in comes to them. -/
def filledFields (d : WordDocument) : List WordField :=
  filledAlong functions properties d d.fields

/-- Filling in changes no text but in the results of fields that have a value. -/
def WritesInResults (d : WordDocument) : Prop :=
  ∀ path, Rewritten d (d.merge functions properties).1 path →
    ∃ field ∈ d.filledFields functions properties, d.InResult path field

/-- A text that changes is around the text of a field with a value, or it is at or below such a text
that changes too. -/
theorem exists_written_of_rewritten {d : WordDocument} {path : Path}
    (h : Rewritten d (d.merge functions properties).1 path) :
    ∃ field ∈ d.filledFields functions properties, ∃ written,
      d.valuePath? field = some written
        ∧ (path <+: written
          ∨ written <+: path ∧ Rewritten d (d.merge functions properties).1 written) := by
  obtain ⟨x, hx, hname, hchildren⟩ := h
  have hne : (source.mergeEach functions properties d d.fields).1.xml.root.get? path
      ≠ d.xml.root.get? path := fun heq => hchildren x (heq.trans hx) rfl
  obtain ⟨field, hfield, written, hwritten, hplace⟩ :=
    exists_written_of_ne functions properties hne
  refine ⟨field, hfield, written, hwritten, ?_⟩
  rcases hplace with haround | ⟨⟨below, rfl⟩, hplain⟩
  · exact Or.inl haround
  · cases below with
    | nil => exact Or.inl (by simp)
    | cons index below =>
        refine Or.inr ⟨List.prefix_append _ _, ?_⟩
        obtain ⟨y, hy, hyname⟩ := exists_get?_of_valuePath? hwritten
        refine ⟨y, hy, hyname, fun y' hy' heq => ?_⟩
        -- The text had an element below it, and has become plain.
        have hnone : y.childAt? index = none := by
          rw [← Element.childAt?_congr (congrArg (·[index]?) heq)]
          exact Element.elements_eq_nil_iff.1 (hplain y' hy') index
        rw [Element.get?_append, hy, Option.bind_some, Element.get?_cons, hnone] at hx
        cases hx

/-- Every text that changes is in the result of a field with a value, as soon as that holds of the
texts that are written to and those around them. -/
theorem writesInResults_iff (d : WordDocument) :
    d.WritesInResults functions properties
      ↔ ∀ field ∈ d.filledFields functions properties, ∀ written,
          d.valuePath? field = some written →
          ∀ path, path <+: written → Rewritten d (d.merge functions properties).1 path →
            ∃ other ∈ d.filledFields functions properties, d.InResult path other := by
  constructor
  · intro h field _ written _ path _ hpath
    exact h path hpath
  · intro h path hpath
    obtain ⟨field, hfield, written, hwritten, hplace⟩ :=
      exists_written_of_rewritten functions properties hpath
    rcases hplace with haround | ⟨⟨below, rfl⟩, hrewritten⟩
    · exact h field hfield written hwritten path haround hpath
    · obtain ⟨other, hother, hresult⟩ :=
        h field hfield written hwritten written (List.prefix_refl _) hrewritten
      exact ⟨other, hother, hresult.append below⟩

/-! ### Flat documents -/

/-- The value that is written last to a path. -/
def lastValue? (d : WordDocument) (path : Path) : Option String :=
  (Element.textsAt (edits functions properties d d.fields) path).getLast?

variable {functions properties}

/-- In a flat document a field has a value when its turn comes if it has one at the start. -/
theorem filledAlong_of_flat {d : WordDocument} (hflat : d.Flat) {s : WordDocument}
    (h : d.Retexted s) {fields : List WordField} (hfields : ∀ field ∈ fields, field ∈ d.fields) :
    filledAlong functions properties s fields
      = fields.filter fun field => (d.fieldValue? functions properties field).isSome := by
  induction fields generalizing s with
  | nil => rfl
  | cons field fields ih =>
      have hvalue : s.fieldValue? functions properties field
          = d.fieldValue? functions properties field := by
        unfold fieldValue?
        rw [code?_of_retexted hflat h (hfields field List.mem_cons_self)]
      have hrest := ih (h.trans (retexted_mergeField functions properties s field))
        fun other hother => hfields other (List.mem_cons_of_mem _ hother)
      unfold filledAlong
      rw [hvalue, hrest, List.filter_cons]

theorem mem_filledFields_of_flat {d : WordDocument} (hflat : d.Flat) {field : WordField} :
    field ∈ d.filledFields functions properties
      ↔ field ∈ d.fields ∧ (d.fieldValue? functions properties field).isSome := by
  unfold filledFields
  rw [filledAlong_of_flat hflat (.refl d) fun _ h => h, List.mem_filter]

/-- A text of a flat document changes when the value written last to it is not what it shows. -/
theorem rewritten_of_flat_iff {d : WordDocument} (hflat : d.Flat) {path : Path} :
    Rewritten d (d.merge functions properties).1 path
      ↔ ∃ x value, d.xml.root.get? path = some x
          ∧ d.lastValue? functions properties path = some value
          ∧ (x.setText value).children ≠ x.children := by
  have hafter : ∀ x, d.xml.root.get? path = some x → x.name = d.names.text →
      ∃ x', (d.merge functions properties).1.xml.root.get? path = some x'
        ∧ x'.children = (d.lastValue? functions properties path).elim x.children
            fun value => (x.setText value).children := by
    intro x hx hname
    exact ⟨_, get?_merge functions properties hflat hx hname,
      Element.children_foldl_showText x _⟩
  constructor
  · intro ⟨x, hx, hname, hchildren⟩
    obtain ⟨x', hx', heq⟩ := hafter x hx hname
    cases hvalue : d.lastValue? functions properties path with
    | none =>
        rw [hvalue] at heq
        exact absurd heq (hchildren x' hx')
    | some value =>
        rw [hvalue, Option.elim_some] at heq
        exact ⟨x, value, hx, rfl, fun hsame => hchildren x' hx' (heq.trans hsame)⟩
  · intro ⟨x, value, hx, hvalue, hne⟩
    have hname : x.name = d.names.text := by
      have hmem := Element.mem_textsAt_iff.1 (List.mem_of_getLast? hvalue)
      obtain ⟨field, -, hpath, -⟩ := (mem_edits_iff functions properties).1 hmem
      exact name_of_valuePath? hpath hx
    obtain ⟨x', hx', heq⟩ := hafter x hx hname
    rw [hvalue] at heq
    refine ⟨x, hx, hname, fun y hy => ?_⟩
    rw [hx', Option.some.injEq] at hy
    rw [← hy, heq]
    exact hne

theorem writesInResults_of_flat_iff {d : WordDocument} (hflat : d.Flat) :
    d.WritesInResults functions properties
      ↔ ∀ (path : Path) (x : Element) (value : String), d.xml.root.get? path = some x →
          d.lastValue? functions properties path = some value →
          (x.setText value).children ≠ x.children →
          ∃ field ∈ d.fields, (d.fieldValue? functions properties field).isSome
            ∧ d.InResult path field := by
  have hfields : ∀ path, (∃ field ∈ d.filledFields functions properties, d.InResult path field)
      ↔ ∃ field ∈ d.fields, (d.fieldValue? functions properties field).isSome
          ∧ d.InResult path field := by
    intro path
    refine exists_congr fun field => ?_
    rw [mem_filledFields_of_flat hflat, and_assoc]
  unfold WritesInResults
  simp only [hfields, rewritten_of_flat_iff hflat]
  constructor
  · intro h path x value hx hvalue hne
    exact h path ⟨x, value, hx, hvalue, hne⟩
  · intro h path ⟨x, value, hx, hvalue, hne⟩
    exact h path x value hx hvalue hne

variable (functions properties)

/-- Where filling in changes no text but in the results of fields that have a value. It is a matter
of the texts that are written to, with those around them. In a flat document these are told from the
document: a text that does not show already what is written to it last must stand in the result of a
field with a value. The text written for a complex field stands in the field's own result exactly
when the runs after the first `separate` after its `begin` have text before its own `end`, and none
up to its own `separate`. The text written for a simple field always stands in it. -/
theorem writesInResults_exactly (d : WordDocument) :
    (d.WritesInResults functions properties
        ↔ ∀ field ∈ d.filledFields functions properties, ∀ written,
            d.valuePath? field = some written →
            ∀ path, path <+: written → Rewritten d (d.merge functions properties).1 path →
              ∃ other ∈ d.filledFields functions properties, d.InResult path other)
      ∧ (d.Flat →
          (d.WritesInResults functions properties
            ↔ ∀ (path : Path) (x : Element) (value : String), d.xml.root.get? path = some x →
                d.lastValue? functions properties path = some value →
                (x.setText value).children ≠ x.children →
                ∃ field ∈ d.fields, (d.fieldValue? functions properties field).isSome
                  ∧ d.InResult path field))
      ∧ (∀ (around written : Path) (parent : Element) (first separate : Nat),
          d.xml.root.get? around = some parent →
          d.valuePath? (.complex (around ++ [first])) = some written →
          d.FirstAfter parent (d.names.hasFieldChar "separate") first separate →
          (d.InResult written (.complex (around ++ [first]))
            ↔ ∃ middle last, Matched (d.marks parent) first middle last
                ∧ (∃ index, separate < index ∧ index < last ∧ d.TextRun parent index)
                ∧ ∀ index, separate < index → d.TextRun parent index → middle < index))
      ∧ ∀ element written, d.valuePath? (.simple element) = some written →
          d.InResult written (.simple element) :=
  ⟨writesInResults_iff functions properties d, writesInResults_of_flat_iff,
    fun _ _ _ _ _ hparent hwritten hseparate =>
      inResult_complex_iff hparent hwritten hseparate,
    fun _ _ hwritten => inResult_simple hwritten⟩

end Run

/-! ### An empty result -/

/-- A paragraph with a field that has an empty result, and a plain text after the field. -/
def emptyResult : WordDocument :=
  ofParagraph [charRun "begin", codeRun " MERGEFIELD Name ", charRun "separate", charRun "end",
    textRun "plain text"]

theorem bracketed_emptyResult : emptyResult.Bracketed := by
  have hmarks : ∀ entry ∈ emptyResult.xml.root.walk, emptyResult.marks entry.2 = []
      ∨ emptyResult.marks entry.2 = [(0, .opening), (2, .separator), (3, .closing)] := by
    decide +kernel
  -- Only the paragraph has field characters among its child runs.
  exact bracketed_of_walk (.shown 0 2 3 .nil .nil .nil) hmarks

/-- Filling in does not keep to the results of fields, not even where field characters are balanced:
the plain text after a field with an empty result is overwritten. -/
theorem not_forall_writesInResults :
    ¬ ∀ (functions : Functions) (properties : Properties) (d : WordDocument),
      d.Bracketed → d.WritesInResults functions properties := by
  intro h
  have hafter : (emptyResult.merge builtinFunctions (.ofList [("Name", "Ann")])).1.xml.root.get?
      [0, 4, 0] = some ⟨⟨"w:t", []⟩, [.text "Ann"]⟩ := by
    decide +kernel
  have hfields : emptyResult.filledFields builtinFunctions (.ofList [("Name", "Ann")])
      = [.complex [0, 0]] := by
    decide +kernel
  have hrewritten : Rewritten emptyResult
      (emptyResult.merge builtinFunctions (.ofList [("Name", "Ann")])).1 [0, 4, 0] := by
    refine ⟨⟨⟨"w:t", []⟩, [.text "plain text"]⟩, rfl, rfl, fun x' hx' => ?_⟩
    rw [hafter, Option.some.injEq] at hx'
    rw [← hx']
    decide
  obtain ⟨field, hfield, hresult⟩ :=
    h builtinFunctions (.ofList [("Name", "Ann")]) emptyResult bracketed_emptyResult _ hrewritten
  rw [hfields, List.mem_singleton] at hfield
  subst hfield
  obtain ⟨around, parent, run, first, middle, last, index, below, hbegin, hparent, hmatched,
    hmiddle, hlast, -⟩ := hresult
  -- The only field is in the paragraph, where no run is between the separator and the end.
  have hsplit : ([0] : Path) ++ [0] = around ++ [first] := hbegin
  obtain ⟨rfl, -⟩ := List.append_inj' hsplit rfl
  have hmarks : (emptyResult.xml.root.get? [0]).map emptyResult.marks
      = some [(0, .opening), (2, .separator), (3, .closing)] := by
    decide +kernel
  rw [hparent, Option.map_some, Option.some.injEq] at hmarks
  obtain ⟨-, hseparator, hclosing⟩ := hmatched.mem
  rw [hmarks] at hseparator hclosing
  have hmiddle' : middle = 2 := by simpa using hseparator
  have hlast' : last = 3 := by simpa using hclosing
  omega

end WordDocument

end MailMerge
