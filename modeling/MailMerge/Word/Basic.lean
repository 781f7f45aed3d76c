import MailMerge.Xml.Builder
import MailMerge.Xml.Path
import MailMerge.Xml.Printer
import MailMerge.Xml.Space

/-!
# `MailMerge.Word.Basic`: fields of a Word document

A field is stored in one of two shapes. A complex field is a row of sibling runs: one with the field
character `begin`, runs with the field's code, one with `separate`, runs that show the value, one
with `end`. A simple field is an element with the code as an attribute around the run that shows
the value.

Of a complex field the code is read from the first five runs after `begin`, and the value from the
first run with text after the first `separate` after `begin`.
-/

set_option autoImplicit false

namespace MailMerge

open MailMerge.Xml

/-- Qualified names of the elements and attributes that fields are made of. -/
structure WordNames where
  run : String
  text : String
  fieldChar : String
  fieldCharType : String
  fieldCode : String
  simpleField : String
  simpleCode : String
deriving DecidableEq, Repr

/-- The names under a namespace prefix. -/
def WordNames.ofPrefix (nsPrefix : String) : WordNames where
  run := qualifiedName nsPrefix "r"
  text := qualifiedName nsPrefix "t"
  fieldChar := qualifiedName nsPrefix "fldChar"
  fieldCharType := qualifiedName nsPrefix "fldCharType"
  fieldCode := qualifiedName nsPrefix "instrText"
  simpleField := qualifiedName nsPrefix "fldSimple"
  simpleCode := qualifiedName nsPrefix "instr"

/-- A Word document's main part, and the prefix of the names in it. -/
structure WordDocument where
  xml : Document
  nsPrefix : String
deriving DecidableEq, Repr

/-- A field, addressed by its `begin` run or by its element. -/
inductive WordField where
  | complex (beginRun : Path)
  | simple (element : Path)
deriving DecidableEq, Repr

namespace WordDocument

/-- The part of a package that holds the main document. -/
def partName : String := "word/document.xml"

/-- The namespace of the main document's elements. -/
def namespaceUri : String := "http://schemas.openxmlformats.org/wordprocessingml/2006/main"

/-- The names of the document's elements and attributes. -/
def names (d : WordDocument) : WordNames := .ofPrefix d.nsPrefix

/-- The document of a tree. Without a declaration of the namespace the prefix is `w`. -/
def ofXml (xml : Document) : WordDocument := ⟨xml, (xml.prefixFor? namespaceUri).getD "w"⟩

/-- Reads a document from its source. -/
def parse (source : String) : Except Error WordDocument :=
  (Document.parse source).map ofXml

/-- The document's source. -/
def print (d : WordDocument) : String := d.xml.print

end WordDocument

/-- Whether an element has a field character of a kind among its children. -/
def WordNames.hasFieldChar (names : WordNames) (kind : String) (e : Element) : Bool :=
  e.elements.any fun (_, child) =>
    child.name = names.fieldChar && child.attribute? names.fieldCharType = some kind

/-- How the code of a simple merge field begins. -/
def simpleCodeStart : String := " MERGEFIELD"

/-- The field that an element at a path begins or is. -/
def WordNames.fieldAt? (names : WordNames) (path : Path) (e : Element) : Option WordField :=
  if e.name = names.run && names.hasFieldChar "begin" e then some (.complex path)
  else if e.name = names.simpleField
      && (e.attribute? names.simpleCode).any (simpleCodeStart.toList.isPrefixOf ·.toList) then
    some (.simple path)
  else none

namespace WordDocument

/-- All fields in document order. Every run with `begin` counts, whatever its code says. -/
def fields (d : WordDocument) : List WordField :=
  d.xml.root.walk.filterMap fun (path, e) => d.names.fieldAt? path e

/-- The child runs after an index. -/
def runsAfter (d : WordDocument) (parent : Element) (index : Nat) : List (Nat × Element) :=
  parent.elements.filter fun (i, e) => index < i && e.name = d.names.run

/-- How many runs after `begin` are searched for the field's code. -/
def codeReach : Nat := 5

/-- The element around the `begin` run of a complex field, and the runs after it. -/
def siblings? (d : WordDocument) (beginRun : Path) : Option (List (Nat × Element)) :=
  match beginRun.getLast? with
  | none => none
  | some index => (d.xml.root.get? beginRun.dropLast).map (d.runsAfter · index)

/-- The code of a complex field in the runs after its `begin`. -/
def codeOf (d : WordDocument) (runs : List (Nat × Element)) : String :=
  -- A code may be split over several runs, and over several elements in a run.
  let pieces := (runs.take codeReach).flatMap fun (_, run) =>
    run.elements.filter fun (_, e) => e.name = d.names.fieldCode
  String.join (pieces.map fun (_, e) => e.text)

/-- The code of a field. -/
def code? (d : WordDocument) : WordField → Option String
  | .complex beginRun => (d.siblings? beginRun).map d.codeOf
  | .simple element => (d.xml.root.get? element).bind (·.attribute? d.names.simpleCode)

/-- Whether a run has text. -/
def hasText (d : WordDocument) (run : Element) : Bool := (run.child? d.names.text).isSome

/-- The run that shows the value of a field, with the path of the element around it. -/
def valueRun? (d : WordDocument) : WordField → Option (Path × Nat × Element)
  | .complex beginRun =>
    (d.siblings? beginRun).bind fun runs =>
      -- The run with `separate` is dropped with those before it. No `end` stops the search.
      let shown := (runs.dropWhile fun (_, run) => !d.names.hasFieldChar "separate" run).tail
      (shown.find? fun (_, run) => d.hasText run).map fun (index, run) =>
        (beginRun.dropLast, index, run)
  | .simple element =>
    (d.xml.root.get? element).bind fun e =>
      (e.elements.find? fun (_, run) => run.name = d.names.run && d.hasText run).map
        fun (index, run) => (element, index, run)

/-- The path of the text that shows the value of a field. -/
def valuePath? (d : WordDocument) (field : WordField) : Option Path :=
  (d.valueRun? field).bind fun (parent, runIndex, run) =>
    (run.findChild? d.names.text).map fun (textIndex, _) => parent ++ [runIndex, textIndex]

/-- The value that a field shows. -/
def value? (d : WordDocument) (field : WordField) : Option String :=
  (d.valuePath? field).bind fun path => (d.xml.root.get? path).map (·.text)

/-- The document in which a field shows a new value, if there is a text to show it. -/
def setValue? (d : WordDocument) (field : WordField) (value : String) : Option WordDocument :=
  (d.valuePath? field).map fun path =>
    { d with xml := { d.xml with root := d.xml.root.modify (·.showText value) path } }

end WordDocument

end MailMerge
