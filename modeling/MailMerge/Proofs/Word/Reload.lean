import MailMerge.Proofs.Word.Merge
import MailMerge.Proofs.Xml.RoundTrip

/-!
# `MailMerge.Proofs.Word.Reload`: written values are there after printing and reading

A value is written as one text, or as none where it is empty, into an element that had no child
elements. So a document that was read stays one that is read back as it is (`Element.Settled`), and
all that is known of documents while texts change holds of the document that is read back
(`parse_print_writeAll`): its fields are the same, and a value is the last one that was written to
its text.

The code of a field is the text of all that is inside its elements with code. A field in such an
element shows its value in the code, so the code may change with the value.
-/

set_option autoImplicit false

namespace MailMerge

open MailMerge.Xml

/-! ### Texts that are shown -/

namespace Xml.Element

/-- What shows a new text is read back as it is. -/
theorem everywhere_settled_showText {e : Element} (h : e.Settled) (value : String) :
    (e.showText value).Everywhere Settled := by
  refine .of_plain ?_ (childAt?_showText e value)
  have htext := h.setText value
  unfold showText
  split
  · exact htext.setAttribute (by decide) _
  · exact htext

theorem everywhere_settled_showAll {e : Element} (h : e.Everywhere Settled)
    (edits : List (Path × String)) : (e.showAll edits).Everywhere Settled := by
  induction edits generalizing e with
  | nil => exact h
  | cons edit edits ih =>
      exact ih (h.modify shallow_settled fun x _ hx => everywhere_settled_showText hx.self edit.2)

end Xml.Element

namespace WordDocument

/-! ### Writes -/

/-- The document after values were written to fields, one after another. -/
def writeAll (d : WordDocument) (writes : List (WordField × String)) : WordDocument :=
  writes.foldl (fun d (field, value) => d.write field value) d

/-- The texts that values are written to, with the values. -/
def written (d : WordDocument) (writes : List (WordField × String)) : List (Path × String) :=
  writes.filterMap fun (field, value) => (d.valuePath? field).map fun path => (path, value)

/-- The value that was written last to a text. -/
def lastWritten? (d : WordDocument) (writes : List (WordField × String)) (path : Path) :
    Option String :=
  (Element.textsAt (d.written writes) path).getLast?

/-- The paths of the elements that the code of a complex field is put together from. -/
def codePaths (d : WordDocument) : WordField → List Path
  | .complex beginRun =>
    (((d.siblings? beginRun).getD []).take codeReach).flatMap fun (index, run) =>
      (run.elements.filter fun (_, e) => e.name = d.names.fieldCode).map fun (place, _) =>
        beginRun.dropLast ++ [index, place]
  | .simple _ => []

/-- What a document shows in which values were written to fields of another. -/
structure Shows (d : WordDocument) (writes : List (WordField × String)) (d' : WordDocument) :
    Prop where
  fields_eq : d'.fields = d.fields
  valuePath?_eq : ∀ field, d'.valuePath? field = d.valuePath? field
  value?_eq : ∀ field, d'.value? field = (d.valuePath? field).bind fun path =>
    (d.lastWritten? writes path).or (d.value? field)
  /-- A code with none of the written texts inside. -/
  code?_eq : ∀ field ∈ d.fields,
    (∀ path ∈ d.codePaths field, ∀ edit ∈ d.written writes, ¬ path <+: edit.1) →
    d'.code? field = d.code? field

theorem retexted_writeAll (d : WordDocument) (writes : List (WordField × String)) :
    d.Retexted (d.writeAll writes) := by
  induction writes generalizing d with
  | nil => exact .refl d
  | cons write writes ih => exact (d.retexted_write write.1 write.2).trans (ih _)

/-- Values are written to the texts at the start. -/
theorem writeAll_eq {d s : WordDocument} (hplain : d.PlainTexts) (h : d.Retexted s)
    (writes : List (WordField × String)) :
    s.writeAll writes
      = { s with xml := { s.xml with root := s.xml.root.showAll (d.written writes) } } := by
  induction writes generalizing s with
  | nil => rfl
  | cons write writes ih =>
      obtain ⟨field, value⟩ := write
      show (s.write field value).writeAll writes = _
      rw [ih (h.trans (s.retexted_write field value)), write_eq, hplain.valuePath?_eq h]
      unfold written
      rw [List.filterMap_cons]
      dsimp only
      cases d.valuePath? field with
      | none => rfl
      | some path => rfl

theorem exists_of_mem_written {d : WordDocument} {writes : List (WordField × String)}
    {edit : Path × String} (h : edit ∈ d.written writes) :
    ∃ field, d.valuePath? field = some edit.1 := by
  obtain ⟨⟨field, value⟩, -, hedit⟩ := List.mem_filterMap.1 h
  obtain ⟨path, hpath, rfl⟩ := Option.map_eq_some_iff.1 hedit
  exact ⟨field, hpath⟩

/-- An element with code in one of the runs after the begin of a field. -/
theorem mem_codePaths {d : WordDocument} {beginRun : Path} {parent run x : Element}
    {index i j : Nat} (hlast : beginRun.getLast? = some index)
    (hparent : d.xml.root.get? beginRun.dropLast = some parent)
    (hrun : (i, run) ∈ (d.runsAfter parent index).take codeReach)
    (hx : (j, x) ∈ run.elements) (hname : x.name = d.names.fieldCode) :
    beginRun.dropLast ++ [i, j] ∈ d.codePaths (.complex beginRun) := by
  have hsiblings : d.siblings? beginRun = some (d.runsAfter parent index) := by
    rw [siblings?_eq, WordField.around?, hlast, Option.map_some, Option.bind_some, hparent,
      Option.bind_some, Option.map_some]
  simp only [codePaths, hsiblings, Option.getD_some]
  refine List.mem_flatMap.2 ⟨(i, run), hrun, List.mem_map.2 ⟨(j, x), ?_, rfl⟩⟩
  exact List.mem_filter.2 ⟨hx, by simpa using hname⟩

section PlainTexts

variable {d : WordDocument} (hplain : d.PlainTexts) (writes : List (WordField × String))

include hplain

/-- What is at the path of an element that no written text is inside of. -/
theorem get?_writeAll {path : Path} {x : Element} (hx : d.xml.root.get? path = some x)
    (hinside : ∀ edit ∈ d.written writes, edit.1 ≠ path → ¬ path <+: edit.1) :
    (d.writeAll writes).xml.root.get? path
      = some ((Element.textsAt (d.written writes) path).foldl Element.showText x) := by
  rw [writeAll_eq hplain (.refl d)]
  show (d.xml.root.showAll _).get? path = _
  rw [Element.get?_showAll, hx]
  · rfl
  · intro edit hedit
    by_cases heq : edit.1 = path
    · exact .inl heq
    · -- No element is inside a text.
      obtain ⟨field, hfield⟩ := exists_of_mem_written hedit
      obtain ⟨y, hy, hname⟩ := exists_get?_of_valuePath? hfield
      exact .inr ⟨hplain.not_prefix hy hname hx heq, hinside edit hedit heq⟩

theorem value?_writeAll (field : WordField) :
    (d.writeAll writes).value? field = (d.valuePath? field).bind fun path =>
      (d.lastWritten? writes path).or (d.value? field) := by
  unfold value?
  rw [hplain.valuePath?_eq (d.retexted_writeAll writes)]
  cases hpath : d.valuePath? field with
  | none => rfl
  | some path =>
      obtain ⟨x, hx, hname⟩ := exists_get?_of_valuePath? hpath
      have hat := get?_writeAll hplain writes hx fun edit hedit hne => by
        obtain ⟨other, hother⟩ := exists_of_mem_written hedit
        obtain ⟨y, hy, -⟩ := exists_get?_of_valuePath? hother
        exact hplain.not_prefix hx hname hy (Ne.symm hne)
      simp only [Option.bind_some]
      rw [hat, hx]
      -- Of the texts shown one after another the last stays.
      have htext : ∀ e : Element, e.text = Node.textOfAll e.children := fun _ => rfl
      unfold lastWritten?
      rw [Option.map_some, Option.map_some, htext, Element.children_foldl_showText]
      cases (Element.textsAt (d.written writes) path).getLast? with
      | none => rfl
      | some value => exact congrArg some (x.text_setText value)

/-- The tag of the root element stays, as it is no text of a field. -/
theorem toTag_writeAll : (d.writeAll writes).xml.root.toTag = d.xml.root.toTag := by
  have hlabel : (d.xml.root.showAll (d.written writes)).label? [] = d.xml.root.label? [] := by
    refine Element.label?_showAll d.xml.root fun edit hedit haround => ?_
    obtain ⟨field, hfield⟩ := exists_of_mem_written hedit
    obtain ⟨around, parent, index, run, textIndex, x, -, -, -, -, hpath⟩ :=
      exists_of_valuePath? hfield
    rw [List.prefix_nil, hpath] at haround
    simp at haround
  rw [writeAll_eq hplain (.refl d)]
  simpa [Element.label?] using hlabel

/-- A code stays when no text inside it is written. -/
theorem code?_writeAll {field : WordField} (hfield : field ∈ d.fields)
    (hinside : ∀ path ∈ d.codePaths field, ∀ edit ∈ d.written writes, ¬ path <+: edit.1) :
    (d.writeAll writes).code? field = d.code? field := by
  refine hplain.code?_eq (d.retexted_writeAll writes) hfield
    fun beginRun parent parent' heq hparent hparent' hretexted => ?_
  subst heq
  have hkept := WordNames.PlainTexts.kept (Element.Everywhere.get? hplain hparent) hretexted
  refine codeIn?_complex_of_kept hkept fun index hlast (i, run) hentry => ?_
  obtain ⟨hrun, hname⟩ := List.mem_filter.1 (List.mem_of_mem_take hentry)
  have hname : run.name = d.names.run := by simpa using (Bool.and_eq_true_iff.1 hname).2
  have hrunKept := (hkept.retexted (i, run) hrun).kept (hname ▸ d.run_ne_text)
  refine filter_fieldCode_of_kept hrunKept fun (j, x) hx hcode => ?_
  -- The element with code is at one of the field's paths, where it is found as it was.
  have hpath := mem_codePaths hlast hparent hentry hx hcode
  have hat : d.xml.root.get? (beginRun.dropLast ++ [i, j]) = some x := by
    rw [Element.get?_append, hparent, Option.bind_some,
      Element.get?_cons_of_childAt? (Element.mem_elements_iff.1 hrun),
      Element.get?_cons_of_childAt? (Element.mem_elements_iff.1 hx), Element.get?_nil]
  have hat' := get?_writeAll hplain writes hat fun edit hedit _ => hinside _ hpath edit hedit
  have hnone : Element.textsAt (d.written writes) (beginRun.dropLast ++ [i, j]) = [] :=
    Element.textsAt_eq_nil fun edit hedit heq =>
      hinside _ hpath edit hedit (heq ▸ List.prefix_refl _)
  rw [hnone, Element.get?_append, hparent', Option.bind_some] at hat'
  exact Element.Retexted.follow_follow hat'

end PlainTexts

/-! ### Reading again -/

/-- The prefix is read from the tag of the root element. -/
theorem ofXml_of_toTag_eq (xml : Document) {d : WordDocument}
    (htag : d.xml.root.toTag = xml.root.toTag) (hns : d.nsPrefix = (ofXml xml).nsPrefix) :
    ofXml d.xml = d := by
  obtain ⟨xml', nsPrefix⟩ := d
  obtain rfl : nsPrefix = (ofXml xml).nsPrefix := hns
  have hsame : xml'.prefixFor? namespaceUri = xml.prefixFor? namespaceUri := by
    unfold Document.prefixFor?
    rw [show xml'.root.attributes = xml.root.attributes from congrArg Tag.attributes htag]
  unfold ofXml
  rw [hsame]

/-- What is printed after values were written is read back as it is. -/
theorem parse_writeAll {source : String} {d : WordDocument}
    (h : WordDocument.parse source = .ok d)
    (hnames : d.xml.root.Everywhere fun x => x.toTag.Writable)
    (hmark : ¬ ['\uFEFF', '\uFEFF'] <+: source.toList) (hplain : d.PlainTexts)
    (writes : List (WordField × String)) :
    WordDocument.parse (d.writeAll writes).print = .ok (d.writeAll writes) := by
  obtain ⟨xml, hxml, rfl⟩ := exists_of_map_eq_ok h
  have hread : Document.parse ((ofXml xml).writeAll writes).xml.print
      = .ok ((ofXml xml).writeAll writes).xml := by
    have hclean := Document.clean_parse hxml
    have hmark := Document.not_beginsWithMark_parse hxml hmark
    rw [writeAll_eq hplain (.refl (ofXml xml)) writes]
    exact Document.parse_print_of_settled
      (Element.everywhere_settled_showAll (Document.everywhere_settled_parse hxml hnames) _)
      hclean.prolog hclean.epilog hmark
  show (Document.parse ((ofXml xml).writeAll writes).xml.print).map ofXml = _
  rw [hread]
  exact congrArg Except.ok (ofXml_of_toTag_eq xml (toTag_writeAll hplain writes)
    ((ofXml xml).retexted_writeAll writes).nsPrefix_eq)

/-- A value that is written, once or as the last of several, is there when what is printed is read
again. So are the values of fields that show other texts, the list of fields, and the codes without
written texts inside. -/
theorem parse_print_writeAll {source : String} {d : WordDocument}
    (h : WordDocument.parse source = .ok d)
    (hnames : d.xml.root.Everywhere fun x => x.toTag.Writable)
    (hmark : ¬ ['\uFEFF', '\uFEFF'] <+: source.toList) (hplain : d.PlainTexts)
    (writes : List (WordField × String)) :
    WordDocument.parse (d.writeAll writes).print = .ok (d.writeAll writes)
      ∧ d.Shows writes (d.writeAll writes) := by
  have hretexted := d.retexted_writeAll writes
  exact ⟨parse_writeAll h hnames hmark hplain writes, hplain.fields_eq hretexted,
    hplain.valuePath?_eq hretexted, value?_writeAll hplain writes,
    fun field hfield => code?_writeAll hplain writes hfield⟩

/-- The source of a paragraph with a simple field and a complex one. -/
def noteSource : String :=
  "<w:p><w:fldSimple w:instr=' MERGEFIELD Name'><w:r><w:t>?</w:t></w:r></w:fldSimple>"
    ++ "<w:r><w:fldChar w:fldCharType='begin'/></w:r>"
    ++ "<w:r><w:instrText> MERGEFIELD City</w:instrText></w:r>"
    ++ "<w:r><w:fldChar w:fldCharType='separate'/></w:r><w:r><w:t>Rome</w:t></w:r>"
    ++ "<w:r><w:fldChar w:fldCharType='end'/></w:r></w:p>"

/-- The paragraph. -/
def note : WordDocument :=
  ⟨⟨[], ⟨⟨"w:p", []⟩,
    [.element ⟨"w:fldSimple", [⟨"w:instr", " MERGEFIELD Name"⟩]⟩ [textRun "?"], charRun "begin",
      codeRun " MERGEFIELD City", charRun "separate", textRun "Rome", charRun "end"]⟩, []⟩, "w"⟩

/-- Of two values the simple field shows the last, markup and white space included. The other field
shows what it did, and both are found with their codes. -/
theorem parse_print_writeAll_note :
    let writes := [(WordField.simple [0], ""), (.simple [0], " <b>&\n")]
    WordDocument.parse noteSource = .ok note
      ∧ (note.xml.root.Everywhere fun x => x.toTag.Writable)
      ∧ ¬ ['\uFEFF', '\uFEFF'] <+: noteSource.toList
      ∧ note.PlainTexts
      ∧ note.fields.map note.valuePath? = [some [0, 0, 0], some [4, 0]]
      ∧ WordDocument.parse (note.writeAll writes).print = .ok (note.writeAll writes)
      ∧ (note.writeAll writes).fields = [.simple [0], .complex [1]]
      ∧ (note.writeAll writes).code? (.simple [0]) = some " MERGEFIELD Name"
      ∧ (note.writeAll writes).code? (.complex [1]) = some " MERGEFIELD City"
      ∧ (note.writeAll writes).value? (.simple [0]) = some " <b>&\n"
      ∧ (note.writeAll writes).value? (.complex [1]) = some "Rome" := by
  intro writes
  have hread : WordDocument.parse noteSource = .ok note := by decide +kernel
  have hnames : note.xml.root.Everywhere fun x => x.toTag.Writable := by decide +kernel
  have hmark : ¬ ['\uFEFF', '\uFEFF'] <+: noteSource.toList := by decide +kernel
  have hplain : note.PlainTexts := by decide +kernel
  obtain ⟨hagain, hshows⟩ := parse_print_writeAll hread hnames hmark hplain writes
  have hfields : note.fields = [.simple [0], .complex [1]] := by decide +kernel
  -- The text that is written is in the simple field, away from the code of the other.
  have hinside : ∀ field ∈ note.fields, ∀ path ∈ note.codePaths field,
      ∀ edit ∈ note.written writes, ¬ path <+: edit.1 := by
    decide +kernel
  have hcodes : ∀ field ∈ note.fields, (note.writeAll writes).code? field = note.code? field :=
    fun field hfield => hshows.code?_eq field hfield (hinside field hfield)
  have hvalue : ∀ field, (note.writeAll writes).value? field = _ := hshows.value?_eq
  refine ⟨hread, hnames, hmark, hplain, by decide +kernel, hagain, hshows.fields_eq.trans hfields,
    (hcodes _ (by simp [hfields])).trans ?_, (hcodes _ (by simp [hfields])).trans ?_,
    (hvalue _).trans ?_, (hvalue _).trans ?_⟩
  all_goals decide +kernel

/-! ### Fields inside codes -/

/-- The source of a paragraph with a field in the code of a field. -/
def nestedSource : String :=
  "<w:p><w:r><w:fldChar w:fldCharType='begin'/></w:r><w:r><w:instrText> MERGEFIELD "
    ++ "<w:fldSimple w:instr=' MERGEFIELD X'><w:r><w:t>Name</w:t></w:r></w:fldSimple>"
    ++ "</w:instrText></w:r></w:p>"

/-- The paragraph. -/
def nested : WordDocument :=
  ⟨⟨[], ⟨⟨"w:p", []⟩, [charRun "begin", .element ⟨"w:r", []⟩ [.element ⟨"w:instrText", []⟩
    [.text " MERGEFIELD ",
      .element ⟨"w:fldSimple", [⟨"w:instr", " MERGEFIELD X"⟩]⟩ [textRun "Name"]]]]⟩, []⟩, "w"⟩

/-- Not every code stays. One that shows the value of a field inside it changes with the value. -/
theorem not_forall_code?_write :
    ¬ ∀ (source : String) (d : WordDocument), WordDocument.parse source = .ok d →
      (d.xml.root.Everywhere fun x => x.toTag.Writable) →
      ¬ ['\uFEFF', '\uFEFF'] <+: source.toList → d.PlainTexts →
      ∀ field ∈ d.fields, (d.valuePath? field).isSome → ∀ value : String,
        ∃ d', WordDocument.parse (d.write field value).print = .ok d'
          ∧ d'.fields = d.fields ∧ d'.value? field = some value
          ∧ ∀ other ∈ d.fields, d'.code? other = d.code? other := by
  intro h
  have hsource : WordDocument.parse nestedSource = .ok nested := by decide +kernel
  have hnames : nested.xml.root.Everywhere fun x => x.toTag.Writable := by decide +kernel
  have hmark : ¬ ['\uFEFF', '\uFEFF'] <+: nestedSource.toList := by decide +kernel
  have hplain : nested.PlainTexts := by decide +kernel
  obtain ⟨d', hread, -, -, hcodes⟩ := h nestedSource nested hsource hnames hmark hplain
    (.simple [1, 0, 1]) (by decide +kernel) (by decide +kernel) "Other"
  have hagain : WordDocument.parse (nested.write (.simple [1, 0, 1]) "Other").print
      = .ok (nested.write (.simple [1, 0, 1]) "Other") :=
    parse_writeAll hsource hnames hmark hplain [(.simple [1, 0, 1], "Other")]
  obtain rfl : d' = nested.write (.simple [1, 0, 1]) "Other" :=
    Except.ok.inj (hread.symm.trans hagain)
  have hcode : (nested.write (.simple [1, 0, 1]) "Other").code? (.complex [0])
      ≠ nested.code? (.complex [0]) := by
    decide +kernel
  exact hcode (hcodes _ (by decide +kernel))

end WordDocument

end MailMerge
