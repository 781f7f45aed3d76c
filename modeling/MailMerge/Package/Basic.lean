import MailMerge.Files.Basic
import MailMerge.Xml.Error

/-!
# `MailMerge.Package.Basic`: a document file as an archive of parts

A document file is an archive whose files are the parts of the document. A package is all of it in
memory: order and storage of the entries are kept, so that parts which are not replaced come out as
they were.

* `Package.part?_setPart`: a part that was replaced has its new content, the others their old one.
-/

set_option autoImplicit false

namespace MailMerge

/-- Why a file is no archive, or entries make none. -/
inductive ArchiveError where
  /-- The record that ends an archive is not found. -/
  | noEnd
  | badDirectory
  | badEntry (name : String)
  /-- The content of an entry cannot be read. -/
  | badContent (name : String)
  /-- An entry is compressed in an unknown way or encrypted. -/
  | unknownMethod (name : String)
  | duplicateName (name : String)
  /-- A folder is no archive. -/
  | folder
deriving DecidableEq, Repr

def ArchiveError.message : ArchiveError → String
  | noEnd => "invalid Zip archive: Could not find EOCD"
  | badDirectory => "invalid Zip archive: Invalid Central Directory header"
  | badEntry name => "invalid Zip archive: Invalid local file header: " ++ name
  | badContent name => "invalid Zip archive: Invalid content: " ++ name
  | unknownMethod name => "unsupported Zip archive: Compression method not supported: " ++ name
  | duplicateName name => "invalid Zip archive: Duplicate filename: " ++ name
  | folder => "i/o error: " ++ FileError.isAFolder.message

/-- Why a document file cannot be read or written. -/
inductive DocumentError where
  /-- A path leads to no file, or a file cannot be copied. -/
  | file (path : String) (fault : FileError)
  | badArchive (fault : ArchiveError)
  | missingPart (part : String)
  /-- A part is no text. -/
  | encoding (part : String)
  | xml (part : String) (fault : Xml.Error)
  | unsupportedFormat (path : String)
deriving DecidableEq, Repr

def DocumentError.message : DocumentError → String
  | file path fault => "failed to access '" ++ path ++ "': " ++ fault.message
  | badArchive fault => "invalid package: " ++ fault.message
  | missingPart part => "package has no part '" ++ part ++ "'"
  | encoding part => "part '" ++ part ++ "' is not valid UTF-8"
  | xml part fault => "malformed XML in '" ++ part ++ "': " ++ fault.message
  | unsupportedFormat path => "unsupported document type: '" ++ path ++ "'"

/-- An entry of an archive. -/
structure ArchiveEntry where
  name : String
  /-- Whether the content is kept as it is rather than compressed. -/
  stored : Bool
  data : ByteArray

/-- An entry of a package in memory. -/
structure Part extends ArchiveEntry where
  isDirectory : Bool

/-- Whether a name ends like that of a directory. -/
def namesDirectory (name : String) : Bool :=
  match name.toList.getLast? with
  | some c => c == '/' || c == '\\'
  | none => false

/-- The parts of a document file, in the order of the archive. -/
structure Package where
  parts : List Part

namespace Package

/-- The package of an archive's entries. -/
def ofEntries (entries : List ArchiveEntry) : Package :=
  ⟨entries.map fun entry => ⟨entry, namesDirectory entry.name⟩⟩

/-- Names of the parts; directories are none. -/
def partNames (p : Package) : List String :=
  (p.parts.filter (!·.isDirectory)).map (·.name)

/-- Whether an entry is the part of a name. -/
def isPart (name : String) (part : Part) : Bool := part.name = name && !part.isDirectory

/-- The content of a part. -/
def part? (p : Package) (name : String) : Option ByteArray :=
  (p.parts.find? (isPart name)).map (·.data)

/-- A text without the byte-order mark at its front. -/
def dropMark (text : String) : String :=
  match text.toList with
  | '\uFEFF' :: cs => .ofList cs
  | _ => text

/-- The content of a part as text. -/
def partText (p : Package) (name : String) : Except DocumentError String :=
  match p.part? name with
  | none => .error (.missingPart name)
  | some data =>
    match String.fromUTF8? data with
    | none => .error (.encoding name)
    | some text => .ok (dropMark text)

/-- Replaces the first part of a name in a list of entries; a new part comes last, compressed. -/
def setIn (name : String) (data : ByteArray) : List Part → List Part
  | [] => [⟨⟨name, false, data⟩, false⟩]
  | part :: parts =>
    if isPart name part then { part with data } :: parts else part :: setIn name data parts

/-- The package with a part's content replaced. -/
def setPart (p : Package) (name : String) (data : ByteArray) : Package :=
  ⟨setIn name data p.parts⟩

/-- The package with a part's content replaced by a text. -/
def setText (p : Package) (name text : String) : Package := p.setPart name text.toUTF8

/-- The entry that is written for a part: a directory has a slash at its end and no content. -/
def entryOf (part : Part) : ArchiveEntry :=
  if part.isDirectory then
    { name := if namesDirectory part.name then part.name else part.name ++ "/"
      stored := part.stored
      data := .empty }
  else part.toArchiveEntry

/-- The first name that an earlier entry has too. -/
def firstDuplicate? (seen : List String) : List ArchiveEntry → Option String
  | [] => none
  | entry :: entries =>
    if seen.contains entry.name then some entry.name
    else firstDuplicate? (entry.name :: seen) entries

/-- The entries to write, if their names are distinct. -/
def toEntries (p : Package) : Except DocumentError (List ArchiveEntry) :=
  let entries := p.parts.map entryOf
  match firstDuplicate? [] entries with
  | some name => .error (.badArchive (.duplicateName name))
  | none => .ok entries

theorem find?_setIn (name : String) (data : ByteArray) (parts : List Part) (n : String) :
    ((setIn name data parts).find? (isPart n)).map (·.data) =
      if n = name then some data else (parts.find? (isPart n)).map (·.data) := by
  induction parts with
  | nil =>
    by_cases h : n = name
    · simp [setIn, isPart, h]
    · simp [setIn, isPart, h, Ne.symm h]
  | cons part parts ih =>
    by_cases hp : isPart name part = true
    · have hp' := hp
      simp only [isPart, Bool.and_eq_true, decide_eq_true_eq] at hp'
      by_cases h : n = name
      · subst h
        simp_all [setIn, isPart]
      · rw [setIn, if_pos hp]
        simp [isPart, hp'.1, h, Ne.symm h]
    · by_cases hn : isPart n part = true
      · have h : ¬n = name := fun e => hp (e ▸ hn)
        simp [setIn, hp, hn, h]
      · simp only [Bool.not_eq_true] at hp hn
        simpa [setIn, hp, hn] using ih

theorem part?_setPart (p : Package) (name : String) (data : ByteArray) (n : String) :
    (p.setPart name data).part? n = if n = name then some data else p.part? n :=
  find?_setIn name data p.parts n

end Package

/-- How files of content `β` hold archives and text. -/
structure ArchiveFormat (β : Type) where
  /-- The entries of an archive, or why a file is no archive. -/
  read : β → Except ArchiveError (List ArchiveEntry)
  /-- The file that holds entries. -/
  write : List ArchiveEntry → β
  /-- The file that holds nothing. -/
  blank : β
  /-- The text that a file holds. -/
  text? : β → Option String

namespace Package

variable {β : Type}

/-- Reads a package from a file's content. -/
def load (format : ArchiveFormat β) (content : β) : Except DocumentError Package :=
  match format.read content with
  | .error fault => .error (.badArchive fault)
  | .ok entries => .ok (ofEntries entries)

/-- A file's content that holds the package. -/
def save (format : ArchiveFormat β) (p : Package) : Except DocumentError β :=
  p.toEntries.map format.write

end Package

end MailMerge
