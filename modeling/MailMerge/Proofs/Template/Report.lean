import MailMerge.Proofs.Field.Visits
import MailMerge.Proofs.Word.Merge
import MailMerge.Proofs.Workbook.Fields

/-!
# `MailMerge.Proofs.Template.Report`: what the errors of a document depend on

In a workbook, and in a flat Word document, no field shows what is written to another. So filling in
comes to the placeholders that the document has at the start, whatever is written in between. What
is reported then follows from the names that have values and from the names and counts of arguments
of the functions alone.

* `supplied_of_includedIn`: more values take away the errors about them, and nothing else.
* `sameReport_of_sameArities`: other values, and functions that compute something else, change no
  error.
-/

set_option autoImplicit false

namespace MailMerge

theorem Workbook.visitsOccurrences (w : Workbook) : source.VisitsOccurrences w :=
  readsApart.visitsOccurrences (w.pairwise_fields.imp fun h => Nat.ne_of_lt h.2) trivial

theorem WordDocument.visitsOccurrences {d : WordDocument} (hflat : d.Flat) :
    source.VisitsOccurrences d :=
  (readsApart hflat).visitsOccurrences
    (List.pairwise_of_forall_mem_list fun _ _ _ hother => hother) (.refl d)

/-! ### More values -/

/-- A property that gets a first value leaves the other values. -/
theorem Dictionary.includedIn_insert {α : Type} {d : Dictionary α} {name : String}
    (h : d.get? name = none) (value : α) : d.IncludedIn (d.insert name value) := by
  intro other found hfound
  rw [get?_insert, if_neg, hfound]
  rintro rfl
  rw [h] at hfound
  cases hfound

/-- When more properties get values, the errors about them go and all others stay as they are, in
the same order. A placeholder that had a value has the same one, and one that cannot be read is
reported as it was. -/
theorem supplied_of_includedIn (functions : Functions) {properties properties' : Properties}
    (h : properties.IncludedIn properties') :
    (∀ w : Workbook, Workbook.source.Supplied functions properties properties' w)
      ∧ ∀ d : WordDocument, d.Flat →
          WordDocument.source.Supplied functions properties properties' d :=
  ⟨fun w => w.visitsOccurrences.supplied functions h,
    fun _ hflat => (WordDocument.visitsOccurrences hflat).supplied functions h⟩

/-- A table of one shared string, with placeholders that refer to two properties and one that cannot
be read. -/
def orderTable : Workbook where
  sharedStrings := ⟨[], ⟨⟨"sst", []⟩, [.element ⟨"si", []⟩ [.element ⟨"t", []⟩
    [.text "[[Name]], [[Street (join City)]], [[Name (]], [[City (join City)]]"]]]⟩, []⟩
  nsPrefix := ""
  worksheets := []

/-- A value for the name. -/
def nameOnly : Properties := .ofList [("Name", "Ann")]

/-- Values for the name and the city. -/
def nameAndCity : Properties := .ofList [("Name", "Ann"), ("City", "Rome")]

/-- With a city only the street is missing, and in the letter nothing is. -/
theorem supplied_of_includedIn_city :
    nameOnly.IncludedIn nameAndCity
      ∧ Workbook.source.Supplied builtinFunctions nameOnly nameAndCity orderTable
      ∧ (orderTable.merge builtinFunctions nameOnly).2
          = [.missingField "Street", .missingField "City", .invalidExpression "Name (",
              .missingField "City"]
      ∧ (orderTable.merge builtinFunctions nameAndCity).2
          = [.missingField "Street", .invalidExpression "Name ("]
      ∧ WordDocument.letter.Flat
      ∧ WordDocument.source.Supplied builtinFunctions nameOnly nameAndCity WordDocument.letter
      ∧ (WordDocument.letter.merge builtinFunctions nameOnly).2 = [.missingField "City"]
      ∧ (WordDocument.letter.merge builtinFunctions nameAndCity).2 = [] := by
  have hincluded : nameOnly.IncludedIn nameAndCity :=
    Dictionary.includedIn_insert (by decide +kernel) "Rome"
  have hflat : WordDocument.letter.Flat := by decide +kernel
  obtain ⟨hworkbook, hword⟩ := supplied_of_includedIn builtinFunctions hincluded
  exact ⟨hincluded, hworkbook orderTable, by decide +kernel, by decide +kernel, hflat,
    hword WordDocument.letter hflat, by decide +kernel, by decide +kernel⟩

/-! ### Other values -/

/-- With other values for the same properties, and functions that compute something else, a document
has the same errors, and the same placeholders get values. What is written is not read again, though
it may look like a placeholder. -/
theorem sameReport_of_sameArities {functions functions' : Functions}
    {properties properties' : Properties} (harities : SameArities functions functions')
    (hnames : ∀ name, name ∈ properties'.names ↔ name ∈ properties.names) :
    (∀ w : Workbook, Workbook.source.SameReport functions functions' properties properties' w)
      ∧ ∀ d : WordDocument, d.Flat →
          WordDocument.source.SameReport functions functions' properties properties' d :=
  ⟨fun w => w.visitsOccurrences.sameReport harities hnames,
    fun _ hflat => (WordDocument.visitsOccurrences hflat).sameReport harities hnames⟩

/-- One function that takes two texts. -/
def joining (f : String → String → String) : Functions := .ofList [("join", .binary f)]

theorem sameArities_joining (f g : String → String → String) :
    SameArities (joining f) (joining g) := by
  have hjoining : ∀ f name, (joining f).get? name
      = if name = "join" then some (.binary f) else Dictionary.empty.get? name := fun f name =>
    Dictionary.get?_insert Dictionary.empty "join" (Function.binary f) name
  intro name
  rw [hjoining, hjoining]
  split <;> rfl

/-- Values that look like a placeholder and like a code with a number in it. -/
def trickyNameAndCity : Properties :=
  .ofList [("Name", "[[Street]]"), ("City", " MERGEFIELD Street ")]

/-- In the run with values that look like fields nothing else is reported. -/
theorem sameReport_of_sameArities_tricky :
    SameArities (joining fun left _ => left) (joining fun _ _ => "7")
      ∧ (∀ name, name ∈ trickyNameAndCity.names ↔ name ∈ nameAndCity.names)
      ∧ Workbook.source.SameReport (joining fun left _ => left) (joining fun _ _ => "7")
          nameAndCity trickyNameAndCity orderTable
      ∧ (orderTable.merge (joining fun _ _ => "7") trickyNameAndCity).2
          = [.missingField "Street", .invalidExpression "Name ("]
      ∧ (orderTable.merge (joining fun _ _ => "7") trickyNameAndCity).1.texts
          = ["[[Street]], [[Street (join City)]], [[Name (]], 7"]
      ∧ WordDocument.letter.Flat
      ∧ WordDocument.source.SameReport (joining fun left _ => left) (joining fun _ _ => "7")
          nameAndCity trickyNameAndCity WordDocument.letter
      ∧ (WordDocument.letter.merge (joining fun _ _ => "7") trickyNameAndCity).2 = [] := by
  have harities := sameArities_joining (fun left _ => left) fun _ _ => "7"
  have hnames : ∀ name, name ∈ trickyNameAndCity.names ↔ name ∈ nameAndCity.names := by
    have hsame : trickyNameAndCity.names = nameAndCity.names := by decide +kernel
    exact fun name => by rw [hsame]
  have hflat : WordDocument.letter.Flat := by decide +kernel
  obtain ⟨hworkbook, hword⟩ := sameReport_of_sameArities harities hnames
  exact ⟨harities, hnames, hworkbook orderTable, by decide +kernel, by decide +kernel, hflat,
    hword WordDocument.letter hflat, by decide +kernel⟩

end MailMerge
