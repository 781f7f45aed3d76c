import MailMerge.Proofs.Word.Merge
import MailMerge.Proofs.Xml.Prefix

/-!
# `MailMerge.Proofs.Word.Prefix`: filling in does not depend on the namespace prefix

A Word document with another prefix for the namespace of its elements has the same fields with the
same codes, shows the same values, and is filled in in the same way.

A change of documents that reading does not see, and that commutes with writing, commutes with
filling in (`FieldSource.Respects.mergeEach_eq`).

* `fields_rename`, `code?_rename`, `write_rename`: a new prefix is such a change.
* `merge_anyPrefix`: so it commutes with filling in, and `ofXml` finds it.
-/

set_option autoImplicit false

namespace MailMerge

open MailMerge.Xml

/-! ### Searching under the new prefix -/

section Search

variable {r : Renaming}

theorem WordNames.hasFieldChar_retag (hr : r.Valid) {e : Element} (h : e.Lacks r.new)
    (kind : String) :
    (WordNames.ofPrefix r.new).hasFieldChar kind (e.retag r.onTag)
      = (WordNames.ofPrefix r.old).hasFieldChar kind e := by
  unfold hasFieldChar
  rw [Element.elements_retag, List.any_map, Bool.eq_iff_iff, List.any_eq_true, List.any_eq_true]
  refine exists_congr fun entry => and_congr_right fun hentry => ?_
  have hchild := h.of_mem_elements hentry
  have hname := Element.name_retag_eq_iff hchild (l := "fldChar") (by decide)
  have htype := Element.attribute?_retag hr hchild (l := "fldCharType") (by decide) (by decide)
  refine Bool.eq_iff_iff.1 ?_
  show (decide ((entry.2.retag r.onTag).name = qualifiedName r.new "fldChar")
      && decide
        ((entry.2.retag r.onTag).attribute? (qualifiedName r.new "fldCharType") = some kind))
    = (decide (entry.2.name = qualifiedName r.old "fldChar")
      && decide (entry.2.attribute? (qualifiedName r.old "fldCharType") = some kind))
  rw [decide_eq_decide.2 hname, htype]

theorem WordNames.fieldAt?_retag (hr : r.Valid) {e : Element} (h : e.Lacks r.new) (path : Path) :
    (WordNames.ofPrefix r.new).fieldAt? path (e.retag r.onTag)
      = (WordNames.ofPrefix r.old).fieldAt? path e := by
  have hrun := Element.name_retag_eq_iff h (l := "r") (by decide)
  have hsimple := Element.name_retag_eq_iff h (l := "fldSimple") (by decide)
  have hcode := Element.attribute?_retag hr h (l := "instr") (by decide) (by decide)
  unfold fieldAt?
  rw [hasFieldChar_retag hr h]
  show (if decide ((e.retag r.onTag).name = qualifiedName r.new "r") && _ then _
    else if decide ((e.retag r.onTag).name = qualifiedName r.new "fldSimple")
      && ((e.retag r.onTag).attribute? (qualifiedName r.new "instr")).any _ then _ else _) = _
  rw [decide_eq_decide.2 hrun, decide_eq_decide.2 hsimple, hcode]
  rfl

namespace WordDocument

/-- A document with the new prefix for the old one. -/
def rename (r : Renaming) (d : WordDocument) : WordDocument := ⟨d.xml.rename r, r.new⟩

/-- The documents in which a prefix can be renamed: their names are under the old one, and none is
under the new one. -/
structure Renamable (r : Renaming) (d : WordDocument) : Prop where
  valid : r.Valid
  nsPrefix_eq : d.nsPrefix = r.old
  lacks : d.xml.root.Lacks r.new

variable {d : WordDocument}

theorem Renamable.names_eq (h : d.Renamable r) : d.names = .ofPrefix r.old :=
  congrArg WordNames.ofPrefix h.nsPrefix_eq

theorem hasText_retag (h : d.Renamable r) {run : Element} (hrun : run.Lacks r.new) :
    (d.rename r).hasText (run.retag r.onTag) = d.hasText run := by
  unfold hasText Element.child?
  rw [h.names_eq]
  show (((run.retag r.onTag).findChild? (qualifiedName r.new "t")).map _).isSome = _
  rw [Element.findChild?_retag hrun (by decide), Option.map_map, Option.isSome_map,
    Option.isSome_map]
  rfl

theorem runsAfter_retag (h : d.Renamable r) {parent : Element} (hparent : parent.Lacks r.new)
    (index : Nat) :
    (d.rename r).runsAfter (parent.retag r.onTag) index
      = (d.runsAfter parent index).map (Element.retagEntry r.onTag) := by
  unfold runsAfter
  rw [h.names_eq, Element.elements_retag, List.filter_map]
  congr 1
  refine List.filter_congr fun entry hentry => ?_
  show (_ && decide ((entry.2.retag r.onTag).name = qualifiedName r.new "r")) = _
  rw [decide_eq_decide.2
    (Element.name_retag_eq_iff (hparent.of_mem_elements hentry) (by decide))]
  rfl

theorem lacks_of_mem_runsAfter {parent : Element} (hparent : parent.Lacks r.new) {index : Nat}
    {entry : Nat × Element} (hentry : entry ∈ d.runsAfter parent index) :
    entry.2.Lacks r.new :=
  hparent.of_mem_elements (List.mem_of_mem_filter hentry)

/-- The pieces of code in a run. -/
theorem pieces_retag {run : Element} (hrun : run.Lacks r.new) :
    (run.retag r.onTag).elements.filter (fun (_, e) => e.name = qualifiedName r.new "instrText")
      = (run.elements.filter fun (_, e) => e.name = qualifiedName r.old "instrText").map
          (Element.retagEntry r.onTag) := by
  rw [Element.elements_retag, List.filter_map]
  congr 1
  exact List.filter_congr fun entry hentry =>
    decide_eq_decide.2 (Element.name_retag_eq_iff (hrun.of_mem_elements hentry) (by decide))

theorem codeOf_retag (h : d.Renamable r) {runs : List (Nat × Element)}
    (hruns : ∀ entry ∈ runs, entry.2.Lacks r.new) :
    (d.rename r).codeOf (runs.map (Element.retagEntry r.onTag)) = d.codeOf runs := by
  unfold codeOf
  rw [h.names_eq]
  dsimp only
  rw [← List.map_take, List.flatMap_map, List.map_flatMap, List.map_flatMap]
  refine congrArg String.join (List.flatMap_congr fun entry hentry => ?_)
  have hpieces := pieces_retag (hruns entry (List.mem_of_mem_take hentry))
  show ((entry.2.retag r.onTag).elements.filter
    fun (_, e) => e.name = qualifiedName r.new "instrText").map _ = _
  rw [hpieces, List.map_map]
  exact List.map_congr_left fun piece _ => Element.text_retag r.onTag piece.2

theorem codeIn?_retag (h : d.Renamable r) {parent : Element} (hparent : parent.Lacks r.new)
    (field : WordField) :
    (d.rename r).codeIn? (parent.retag r.onTag) field = d.codeIn? parent field := by
  cases field with
  | complex beginRun =>
      simp only [codeIn?]
      refine congrArg (Option.map · _) (funext fun index => ?_)
      rw [runsAfter_retag h hparent, codeOf_retag h fun entry => lacks_of_mem_runsAfter hparent]
  | simple element =>
      simp only [codeIn?]
      rw [h.names_eq]
      exact Element.attribute?_retag h.valid hparent (by decide) (by decide)

theorem shownIn?_retag (h : d.Renamable r) {parent : Element} (hparent : parent.Lacks r.new)
    (field : WordField) :
    (d.rename r).shownIn? (parent.retag r.onTag) field
      = (d.shownIn? parent field).map (Element.retagEntry r.onTag) := by
  cases field with
  | complex beginRun =>
      simp only [shownIn?]
      cases beginRun.getLast? with
      | none => rfl
      | some index =>
          simp only [Option.bind_some]
          have hruns : ∀ entry ∈ d.runsAfter parent index, entry.2.Lacks r.new :=
            fun entry => lacks_of_mem_runsAfter hparent
          -- The runs up to the one that separates code and result are the same ones.
          have hrow : (d.runsAfter parent index).dropWhile
              ((fun (_, run) => !(d.rename r).names.hasFieldChar "separate" run)
                ∘ Element.retagEntry r.onTag)
                = (d.runsAfter parent index).dropWhile
                    fun (_, run) => !d.names.hasFieldChar "separate" run := by
            rw [h.names_eq]
            exact dropWhile_congr fun entry hentry =>
              congrArg not (WordNames.hasFieldChar_retag h.valid (hruns entry hentry) "separate")
          rw [runsAfter_retag h hparent, List.dropWhile_map, hrow, ← List.map_tail,
            List.find?_map]
          congr 1
          refine List.find?_congr fun entry hentry => hasText_retag h (hruns entry ?_)
          exact (List.dropWhile_sublist _).subset (List.mem_of_mem_tail hentry)
  | simple element =>
      simp only [shownIn?]
      rw [h.names_eq, Element.elements_retag, List.find?_map]
      congr 1
      refine List.find?_congr fun entry hentry => ?_
      have hentry := hparent.of_mem_elements hentry
      show (decide ((entry.2.retag r.onTag).name = qualifiedName r.new "r")
        && (d.rename r).hasText (entry.2.retag r.onTag)) = _
      rw [decide_eq_decide.2 (Element.name_retag_eq_iff hentry (by decide)),
        hasText_retag h hentry]
      rfl

theorem spotIn?_retag (h : d.Renamable r) {parent : Element} (hparent : parent.Lacks r.new)
    (field : WordField) :
    (d.rename r).spotIn? (parent.retag r.onTag) field = d.spotIn? parent field := by
  unfold spotIn?
  rw [shownIn?_retag h hparent]
  cases hrun : d.shownIn? parent field with
  | none => rfl
  | some entry =>
      have hlacks := hparent.of_mem_elements (mem_elements_of_shownIn? hrun).1
      simp only [Option.map_some, Option.bind_some]
      rw [h.names_eq]
      show (((entry.2.retag r.onTag).findChild? (qualifiedName r.new "t")).map _) = _
      rw [Element.findChild?_retag hlacks (by decide), Option.map_map]
      rfl

/-! ### The renamed document -/

theorem code?_rename (h : d.Renamable r) (field : WordField) :
    (d.rename r).code? field = d.code? field := by
  rw [code?_eq, code?_eq]
  cases field.around? with
  | none => rfl
  | some path =>
      simp only [Option.bind_some]
      show ((d.xml.root.retag r.onTag).get? path).bind _ = _
      rw [Element.get?_retag]
      cases hparent : d.xml.root.get? path with
      | none => rfl
      | some parent => exact codeIn?_retag h (h.lacks.get? hparent) field

theorem valuePath?_rename (h : d.Renamable r) (field : WordField) :
    (d.rename r).valuePath? field = d.valuePath? field := by
  rw [valuePath?_eq, valuePath?_eq]
  cases field.around? with
  | none => rfl
  | some path =>
      simp only [Option.bind_some]
      show ((d.xml.root.retag r.onTag).get? path).bind _ = _
      rw [Element.get?_retag]
      cases hparent : d.xml.root.get? path with
      | none => rfl
      | some parent =>
          simp only [Option.map_some, Option.bind_some]
          rw [spotIn?_retag h (h.lacks.get? hparent)]

theorem fields_rename (h : d.Renamable r) : (d.rename r).fields = d.fields := by
  unfold fields
  show ((d.xml.root.retag r.onTag).walk).filterMap _ = _
  rw [Element.walk_retag, List.filterMap_map, h.names_eq]
  refine List.filterMap_congr fun entry hentry => ?_
  exact WordNames.fieldAt?_retag h.valid (h.lacks.get? (Element.mem_walk_iff.1 hentry)) entry.1

theorem write_rename (h : d.Renamable r) (field : WordField) (value : String) :
    (d.rename r).write field value = (d.write field value).rename r := by
  rw [write_eq, write_eq, valuePath?_rename h]
  cases d.valuePath? field with
  | none => rfl
  | some path =>
      have hmodify := Element.modify_retag r.onTag d.xml.root (g := (·.showText value))
        (fun x => Element.showText_retag h.valid x value) path
      exact congrArg (fun root => WordDocument.mk { d.xml with root } r.new) hmodify

/-- A written value brings in no name under the new prefix. -/
theorem renamable_write (h : d.Renamable r) (field : WordField) (value : String) :
    (d.write field value).Renamable r := by
  rw [write_eq]
  cases d.valuePath? field with
  | none => exact h
  | some path =>
      refine ⟨h.valid, h.nsPrefix_eq, Element.Everywhere.modify h.lacks
        (fun _ _ _ _ _ htag => htag) fun x _ hx => ?_⟩
      exact .of_plain (Element.lacks_toTag_showText h.valid hx.self value)
        (x.childAt?_showText value)

/-- Filling in sees neither prefix. -/
theorem respects_rename (r : Renaming) : source.Respects (Renamable r) (rename r) where
  read_eq d field h := code?_rename h field
  apply_eq d field c h := by
    cases c with
    | keep => rfl
    | text rendered => exact write_rename h field rendered
    | number number rendered => exact write_rename h field rendered
  inv_apply d field c h := by
    cases c with
    | keep => exact h
    | text rendered => exact renamable_write h field rendered
    | number number rendered => exact renamable_write h field rendered

theorem merge_rename (h : d.Renamable r) (functions : Functions) (properties : Properties) :
    (d.rename r).merge functions properties
      = ((d.merge functions properties).1.rename r, (d.merge functions properties).2) := by
  unfold merge FieldSource.mergeFields
  show source.mergeEach functions properties _ (d.rename r).fields = _
  rw [fields_rename h, (respects_rename r).mergeEach_eq functions properties _ h]
  rfl

theorem ofXml_rename {xml : Document} (hr : r.Valid) (h : xml.BindsOnce r.old namespaceUri) :
    ofXml (xml.rename r) = (ofXml xml).rename r := by
  unfold ofXml
  rw [(h.rename hr).prefixFor?_eq]
  rfl

theorem renamable_ofXml {xml : Document} (hr : r.Valid) (hbinds : xml.BindsOnce r.old namespaceUri)
    (hlacks : xml.root.Lacks r.new) : (ofXml xml).Renamable r :=
  ⟨hr, by rw [ofXml, hbinds.prefixFor?_eq]; rfl, hlacks⟩

/-- Filling in does not depend on the prefix that a document uses for its namespace. Where the root
element binds the namespace to one prefix only, and another prefix stands in no name, the document
with the other prefix in all its names has the same fields with the same codes, has the same faults,
and becomes the document that was filled in, with the other prefix. Whether other elements declare
the other prefix plays no part. -/
theorem merge_anyPrefix {xml : Document} (hr : r.Valid)
    (hbinds : xml.BindsOnce r.old namespaceUri) (hlacks : xml.root.Lacks r.new) :
    (∀ (functions : Functions) (properties : Properties),
        ((ofXml (xml.rename r)).merge functions properties).1.xml
            = ((ofXml xml).merge functions properties).1.xml.rename r
          ∧ ((ofXml (xml.rename r)).merge functions properties).2
            = ((ofXml xml).merge functions properties).2)
      ∧ (ofXml (xml.rename r)).fields = (ofXml xml).fields
      ∧ ∀ field, (ofXml (xml.rename r)).code? field = (ofXml xml).code? field := by
  have h := renamable_ofXml hr hbinds hlacks
  rw [ofXml_rename hr hbinds]
  refine ⟨fun functions properties => ?_, fields_rename h, code?_rename h⟩
  rw [merge_rename h]
  exact ⟨rfl, rfl⟩

/-- The letter with a declaration of its prefix. -/
def declaredLetter : Document :=
  { letter.xml with root := letter.xml.root.setAttribute "xmlns:w" namespaceUri }

/-- With `doc` for `w` the name is filled in and the city is reported, as before. -/
theorem merge_anyPrefix_declaredLetter :
    declaredLetter.BindsOnce "w" namespaceUri ∧ declaredLetter.root.Lacks "doc"
      ∧ (ofXml (declaredLetter.rename ⟨"w", "doc"⟩)).fields = [.complex [0, 0], .simple [0, 5]]
      ∧ ((ofXml (declaredLetter.rename ⟨"w", "doc"⟩)).merge builtinFunctions
          (.ofList [("Name", "Ann ")])).2 = [.missingField "City"]
      ∧ ((ofXml (declaredLetter.rename ⟨"w", "doc"⟩)).merge builtinFunctions
          (.ofList [("Name", "Ann ")])).1.value? (.complex [0, 0]) = some "Ann " := by
  have hvalid : Renaming.Valid ⟨"w", "doc"⟩ :=
    ⟨by decide, by decide, by decide, by decide, by decide, by decide⟩
  have hbinds : declaredLetter.BindsOnce "w" namespaceUri := by decide +kernel
  have hlacks : declaredLetter.root.Lacks "doc" := by decide +kernel
  obtain ⟨hmerge, hfields, -⟩ := merge_anyPrefix (r := ⟨"w", "doc"⟩) hvalid hbinds hlacks
  refine ⟨hbinds, hlacks, hfields.trans (by decide +kernel),
    (hmerge builtinFunctions (.ofList [("Name", "Ann ")])).2.trans (by decide +kernel), ?_⟩
  decide +kernel

end WordDocument

end Search

end MailMerge
