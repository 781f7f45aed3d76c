import MailMerge.Package.Basic

/-!
# `MailMerge.Package.Memory`: files as entries in memory

A file in memory is an archive, as the list of its entries, or other bytes. What is written is read
back as it was (`read_write`).
-/

set_option autoImplicit false

namespace MailMerge

/-- The content of a file in memory. -/
inductive FileContent where
  | archive (entries : List ArchiveEntry)
  | bytes (data : ByteArray)

namespace FileContent

/-- Files in memory. -/
def format : ArchiveFormat FileContent where
  read
    | .archive entries => .ok entries
    | .bytes _ => .error .noEnd
  write := .archive
  blank := .bytes .empty
  text?
    | .archive _ => none
    | .bytes data => String.fromUTF8? data

end FileContent

end MailMerge
