import MailMerge.Files.Route

/-!
# `MailMerge.Template.Kind`: kinds of documents by file name

The kind of a document follows from the extension of its file's name, in any letter case. The
extension is what follows the last dot of the last component, unless that dot is its first
character.
-/

set_option autoImplicit false

namespace MailMerge

/-- A kind of document. -/
inductive DocumentKind where
  | word
  | spreadsheet
deriving DecidableEq, Repr

namespace DocumentKind

/-- The kind that an extension stands for. -/
def ofExtension? (extension : String) : Option DocumentKind :=
  let lower := String.ofList (extension.toList.map Char.toLower)
  if ["docx", "docm", "dotx", "dotm"].contains lower then some .word
  else if ["xlsx", "xlsm", "xltx", "xltm"].contains lower then some .spreadsheet
  else none

/-- The extension of a file name, if it has one. -/
def extensionOf? (name : List Char) : Option (List Char) :=
  let after := name.reverse.takeWhile (· != '.')
  match name.reverse.dropWhile (· != '.') with
  | _ :: _ :: _ => some after.reverse
  | _ => none

/-- The kind of the document of a path. -/
def ofPath? (path : String) : Option DocumentKind :=
  match (Route.ofString? path).bind Route.fileName? with
  | none => none
  | some name => (extensionOf? name.toList).bind fun extension => ofExtension? (.ofList extension)

end DocumentKind

end MailMerge
