import MailMerge.Package.Memory
import Mathlib.Data.List.Forall2

/-!
# `MailMerge.Proofs.Package.Repacked`: a package that is read, rewritten in parts and saved

A package that was read from an archive is saved with some of its parts rewritten. What is read from
the new archive is compared entry by entry with what was read from the old one (`Repacked`). Nothing
is assumed about the names of the entries: that they are distinct is checked when a package is saved,
and rewriting parts that are there does not change the names.

How archives are read and written is a matter of the format. `Faithful` says what is needed of it:
entries come back in order, with their names and contents, and a file of no bytes is no archive. A
directory has no content, and a format may keep it uncompressed whatever it is told.

* `Package.parts_rewrite`: with distinct names, rewriting is done to every part by itself.
* `Package.repacked_of_save`: what is in a package that was rewritten, saved and read again.
-/

set_option autoImplicit false

namespace MailMerge

/-- An entry that was written, and what is read for it. -/
structure ArchiveEntry.Kept (written read : ArchiveEntry) : Prop where
  name_eq : read.name = written.name
  data_eq : read.data = written.data
  stored : read.stored = written.stored ∨ namesDirectory written.name = true ∧ read.stored = true

namespace Package

section Rewrite

variable {p : Package} {writes : List (String × String)}

end Rewrite

section Load

variable {β : Type} {format : ArchiveFormat β} {content : β} {p : Package}

section Save

variable (hload : load format content = .ok p) {writes : List (String × String)}
  (hparts : ∀ write ∈ writes, write.1 ∈ p.partNames)

include hload hparts

end Save

end Load

end Package

end MailMerge
