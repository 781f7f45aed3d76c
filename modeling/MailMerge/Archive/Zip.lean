import MailMerge.Archive.Checksum
import MailMerge.Archive.Deflate
import MailMerge.Package.Basic

/-!
# `MailMerge.Archive.Zip`: archives in bytes

An archive is the records of its entries, each a header and the content, then a directory that has
a header of each entry, then a record that says where the directory is. All numbers in headers are
little-endian.
-/

set_option autoImplicit false

namespace MailMerge.Zip

open Deflate (littleEndian)

/-! ### Headers -/

/-- The number that begins the header in front of an entry's content. -/
def entryMark : Nat := 0x04034b50

/-- The number that begins a header in the directory. -/
def directoryMark : Nat := 0x02014b50

/-- The number that begins the record at the end. -/
def endMark : Nat := 0x06054b50

/-- The size of the header in front of an entry's content, without name. -/
def entrySize : Nat := 30

/-- The size of a header in the directory, without name and comment. -/
def directorySize : Nat := 46

/-- The size of the record at the end, without comment. -/
def endSize : Nat := 22

/-- The flag of encrypted content. -/
def encryptedFlag : Nat := 1

/-- The flag of a name in UTF-8. -/
def utf8Flag : Nat := 0x800

/-- The method of content that is kept as it is. -/
def storedMethod : Nat := 0

/-- The method of compressed content. -/
def deflatedMethod : Nat := 8

/-- The number of `n` bytes at a position. -/
def numberAt (data : ByteArray) (position : Nat) : Nat → Nat
  | 0 => 0
  | n + 1 => (data[position]?.getD 0).toNat + 256 * numberAt data (position + 1) n

/-! ### Names -/

/-- Characters of the bytes from 128 on in names that are not in UTF-8. -/
def highCharacters : Array Char :=
  ("ÇüéâäàåçêëèïîìÄÅÉæÆôöòûùÿÖÜ¢£¥₧ƒ"
    ++ "áíóúñÑªº¿⌐¬½¼¡«»░▒▓│┤╡╢╖╕╣║╗╝╜╛┐"
    ++ "└┴┬├─┼╞╟╚╔╩╦╠═╬╧╨╤╥╙╘╒╓╫╪┘┌█▄▌▐▀"
    ++ "αßΓπΣσµτΦΘΩδ∞φε∩≡±≥≤⌠⌡÷≈°∙·√ⁿ²■\u00a0").toList.toArray

/-- The character of a byte in a name that is not in UTF-8. -/
def character (byte : UInt8) : Char :=
  if byte < 128 then Char.ofNat byte.toNat else highCharacters[byte.toNat - 128]?.getD '?'

/-- The name that bytes spell. -/
def readName (flags : Nat) (data : ByteArray) : Option String :=
  if flags &&& utf8Flag = 0 then some (.ofList (data.toList.map character))
  else String.fromUTF8? data

/-! ### Reading -/

/-- The last position up to a given one at which a mark is. -/
def lastMark? (data : ByteArray) (mark : Nat) : Nat → Option Nat
  | 0 => if numberAt data 0 4 = mark then some 0 else none
  | n + 1 => if numberAt data (n + 1) 4 = mark then some (n + 1) else lastMark? data mark n

/-- The content that bytes stand for, by the method of an entry. -/
def content? (method : Nat) (data : ByteArray) : Option ByteArray :=
  if method = storedMethod then some data else Deflate.inflate? data

/-- What the directory tells of an entry. -/
structure Listed where
  name : String
  flags : Nat
  method : Nat
  checksum : Nat
  /-- The size of the content as it is in the archive. -/
  size : Nat
  /-- Where the header in front of the content is. -/
  position : Nat

/-- Reads the directory's header at a position. -/
def readListed (data : ByteArray) (position : Nat) : Except ArchiveError Listed :=
  let flags := numberAt data (position + 8) 2
  let nameSize := numberAt data (position + 28) 2
  let name? := readName flags
    (data.extract (position + directorySize) (position + directorySize + nameSize))
  match name? with
  | none => .error .badDirectory
  | some name =>
    .ok {
      name
      flags
      method := numberAt data (position + 10) 2
      checksum := numberAt data (position + 16) 4
      size := numberAt data (position + 20) 4
      position := numberAt data (position + 42) 4 }

/-- The size of the directory's header at a position. -/
def headerSize (data : ByteArray) (position : Nat) : Nat :=
  directorySize + numberAt data (position + 28) 2 + numberAt data (position + 30) 2
    + numberAt data (position + 32) 2

/-- Reads headers of the directory from a position on. -/
def readDirectory (data : ByteArray) : Nat → Nat → Except ArchiveError (List Listed)
  | 0, _ => .ok []
  | n + 1, position =>
    if numberAt data position 4 ≠ directoryMark then .error .badDirectory
    else
      match readListed data position with
      | .error e => .error e
      | .ok listed => (readDirectory data n (position + headerSize data position)).map (listed :: ·)

/-- Takes an entry into a directory. An entry of a name that is there takes the other's place. -/
def enter (listed : Listed) : List Listed → List Listed
  | [] => [listed]
  | other :: others =>
    if other.name = listed.name then listed :: others else other :: enter listed others

/-- Reads the content of an entry. -/
def readEntry (data : ByteArray) (listed : Listed) : Except ArchiveError ArchiveEntry :=
  if listed.flags &&& encryptedFlag ≠ 0
      ∨ listed.method ≠ storedMethod ∧ listed.method ≠ deflatedMethod then
    .error (.unknownMethod listed.name)
  else
    -- Of the header in front of the content only the sizes of its name and extra field matter.
    let start := listed.position + entrySize + numberAt data (listed.position + 26) 2
      + numberAt data (listed.position + 28) 2
    if numberAt data listed.position 4 ≠ entryMark ∨ data.size < start + listed.size then
      .error (.badEntry listed.name)
    else
      match content? listed.method (data.extract start (start + listed.size)) with
      | none => .error (.badContent listed.name)
      | some content =>
        if (Checksum.ofBytes content).toNat ≠ listed.checksum then
          .error (.badContent listed.name)
        else .ok ⟨listed.name, listed.method = storedMethod, content⟩

/-- Reads an archive. Of entries of one name it has the last, in the place of the first. -/
def read (data : ByteArray) : Except ArchiveError (List ArchiveEntry) :=
  if data.size < endSize then .error .noEnd
  else
    match lastMark? data endMark (data.size - endSize) with
    | none => .error .noEnd
    | some position =>
      match readDirectory data (numberAt data (position + 10) 2)
        (numberAt data (position + 16) 4) with
      | .error e => .error e
      | .ok directory =>
        (directory.foldl (fun known listed => enter listed known) []).mapM (readEntry data)

/-! ### Writing -/

/-- What the headers of an entry have in common. -/
structure Header where
  flags : Nat
  method : Nat
  checksum : Nat
  /-- The content as it is in the archive. -/
  packed : ByteArray
  size : Nat
  name : ByteArray
  isDirectory : Bool

/-- The header of an entry. A directory has nothing to compress. -/
def Header.ofEntry (entry : ArchiveEntry) : Header :=
  let stored := entry.stored || namesDirectory entry.name
  { flags := if entry.name.toList.all (·.toNat < 128) then 0 else utf8Flag
    method := if stored then storedMethod else deflatedMethod
    checksum := (Checksum.ofBytes entry.data).toNat
    packed := if stored then entry.data else Deflate.deflate entry.data
    size := entry.data.size
    name := entry.name.toUTF8
    isDirectory := namesDirectory entry.name }

/-- The version of the format that reading an entry takes. -/
def version : Nat := 20

/-- The first day that a header can give. -/
def firstDay : Nat := 0x21

/-- The part of headers that is the same in front of the content and in the directory. -/
def Header.shared (h : Header) : ByteArray :=
  -- The zeros are the time of day and, at the end, the size of an extra field.
  littleEndian 2 version ++ littleEndian 2 h.flags ++ littleEndian 2 h.method ++ littleEndian 2 0
    ++ littleEndian 2 firstDay ++ littleEndian 4 h.checksum ++ littleEndian 4 h.packed.size
    ++ littleEndian 4 h.size ++ littleEndian 2 h.name.size ++ littleEndian 2 0

/-- The header and the content of an entry. -/
def Header.record (h : Header) : ByteArray :=
  littleEndian 4 entryMark ++ h.shared ++ h.name ++ h.packed

/-- The kind of an entry and who may read and write it. -/
def Header.mode (h : Header) : Nat := if h.isDirectory then 0o40755 else 0o100644

/-- The header in the directory of an entry whose record is at a position. -/
def Header.directory (h : Header) (position : Nat) : ByteArray :=
  -- The factor 3 says that modes are those of Unix. There is no comment and only one disk.
  littleEndian 4 directoryMark ++ littleEndian 2 (3 * 256 + version) ++ h.shared
    ++ littleEndian 2 0 ++ littleEndian 2 0 ++ littleEndian 2 0
    ++ littleEndian 4 (h.mode * 0x10000) ++ littleEndian 4 position ++ h.name

/-- Appends the records of entries, and collects their directory. -/
def writeEntries (records directory : ByteArray) : List ArchiveEntry → ByteArray × ByteArray
  | [] => (records, directory)
  | entry :: entries =>
    let h := Header.ofEntry entry
    writeEntries (records ++ h.record) (directory ++ h.directory records.size) entries

/-- The record at the end. -/
def endRecord (count size position : Nat) : ByteArray :=
  -- The count on this disk is the count on all disks.
  littleEndian 4 endMark ++ littleEndian 4 0 ++ littleEndian 2 count ++ littleEndian 2 count
    ++ littleEndian 4 size ++ littleEndian 4 position ++ littleEndian 2 0

/-- Writes an archive. -/
def write (entries : List ArchiveEntry) : ByteArray :=
  let (records, directory) := writeEntries .empty .empty entries
  records ++ directory ++ endRecord entries.length directory.size records.size

/-- Files of bytes. -/
def format : ArchiveFormat ByteArray where
  read := read
  write := write
  blank := .empty
  text? := String.fromUTF8?

end MailMerge.Zip
