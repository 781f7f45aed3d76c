import MailMerge.Files.Route

/-!
# `MailMerge.Files.Basic`: a tree of files

Files are known by the place where they are, not by the text of a path. A path is walked part by
part, and all that it goes through has to be a folder. A file is written where a folder is there
to hold it. Paths and the names in them have a greatest length, in bytes of UTF-8, and hold no NUL.

* `Files.put_self`, `Files.put_of_ne`: a place where something was put has it, no other changes.
-/

set_option autoImplicit false

namespace MailMerge

/-- Why a path leads to no file. -/
inductive FileError where
  | notFound
  /-- A file is where a folder has to be. -/
  | notAFolder
  /-- A folder is where a file has to be. -/
  | isAFolder
  /-- A folder cannot be copied. -/
  | notCopiable
  /-- A path or a name in it is too long. -/
  | tooLong
  /-- A path has a NUL in it. -/
  | nul
deriving DecidableEq, Repr

def FileError.message : FileError → String
  | notFound => "No such file or directory (os error 2)"
  | notAFolder => "Not a directory (os error 20)"
  | isAFolder => "Is a directory (os error 21)"
  | notCopiable => "the source path is neither a regular file nor a symlink to a regular file"
  | tooLong => "File name too long (os error 36)"
  | nul => "file name contained an unexpected NUL byte"

/-- What is at a place. -/
inductive FileNode (β : Type) where
  | folder
  | file (content : β)
deriving Repr

/-- Folders and files by place. -/
abbrev Files (β : Type) := Location → Option (FileNode β)

namespace Files

variable {β : Type}

/-- The working directory without files, the root and the folders above. -/
def empty : Files β := fun here => if here.names.isEmpty then some .folder else none

/-- The files with something at a place. -/
def put (files : Files β) (here : Location) (node : FileNode β) : Files β :=
  fun place => if place = here then some node else files place

@[simp] theorem put_self (files : Files β) (here : Location) (node : FileNode β) :
    files.put here node here = some node := by simp [put]

theorem put_of_ne (files : Files β) {here place : Location} (node : FileNode β)
    (h : place ≠ here) : files.put here node place = files place := by simp [put, h]

/-- The files with folders at places. -/
def putFolders (files : Files β) (places : List Location) : Files β :=
  places.foldl (fun files place => files.put place .folder) files

/-- The files with a folder at a path. -/
def addFolder (files : Files β) (path : String) : Files β :=
  match Route.ofString? path with
  | none => files
  | some r => files.putFolders r.places

/-- The files with one at a path, in the folders that it needs. -/
def add (files : Files β) (path : String) (content : β) : Files β :=
  match Route.ofString? path with
  | none => files
  | some r => (files.putFolders r.places.dropLast).put r.location (.file content)

/-- Bytes that the name of a file or folder may have. -/
def nameBytes : Nat := 255

/-- Bytes that a path may have. -/
def pathBytes : Nat := 4095

/-- Whether the name at a place is longer than names may be. -/
def isTooLong (here : Location) : Bool :=
  match here.names with
  | [] => false
  | name :: _ => nameBytes < name.utf8ByteSize

/-- What is at a place. -/
def node (files : Files β) (here : Location) : Except FileError (FileNode β) :=
  if isTooLong here then .error .tooLong
  else
    match files here with
    | none => .error .notFound
    | some node => .ok node

/-- Checks that a place is a folder. -/
def checkFolder (files : Files β) (here : Location) : Except FileError Unit :=
  match files.node here with
  | .error e => .error e
  | .ok (.file _) => .error .notAFolder
  | .ok .folder => .ok ()

/-- Checks that places are folders; the first that is none is reported. -/
def checkFolders (files : Files β) : List Location → Except FileError Unit
  | [] => .ok ()
  | place :: places =>
    match files.checkFolder place with
    | .error e => .error e
    | .ok () => files.checkFolders places

/-- The route of a path that can name a file or folder at all. -/
def route (path : String) : Except FileError Route :=
  if path.toList.contains '\x00' then .error .nul
  else if pathBytes < path.utf8ByteSize then .error .tooLong
  else
    match Route.ofString? path with
    | none => .error .notFound
    | some r => .ok r

/-- Where a path leads, if all on its way are folders. -/
def locate (files : Files β) (path : String) : Except FileError Location :=
  match route path with
  | .error e => .error e
  | .ok r =>
    -- A path that ends like that of a folder must lead to one.
    let folders := if r.namesFolder then r.places else r.places.dropLast
    (files.checkFolders folders).map fun () => r.location

/-- The file at a path, and where it is. -/
def find (files : Files β) (path : String) : Except FileError (Location × β) :=
  match files.locate path with
  | .error e => .error e
  | .ok here =>
    match files.node here with
    | .error e => .error e
    | .ok .folder => .error .isAFolder
    | .ok (.file content) => .ok (here, content)

/-- The content of the file at a path. -/
def read (files : Files β) (path : String) : Except FileError β := (files.find path).map (·.2)

/-- The content of the file at a path, if there is one. -/
def content? (files : Files β) (path : String) : Option β := (files.read path).toOption

/-- Where a file can be written: in a folder, under a name that no folder has. -/
def placeFor (files : Files β) (r : Route) : Except FileError Location :=
  match r.steps.getLast?, r.namesFolder with
  | some (.into _), false =>
    match files.node r.location with
    | .ok .folder => .error .isAFolder
    | .error .tooLong => .error .tooLong
    -- Another file is replaced, and where nothing is a file is made.
    | _ => .ok r.location
  | _, _ => .error .isAFolder

/-- Where the file of a path can be written. -/
def place (files : Files β) (path : String) : Except FileError Location :=
  match route path with
  | .error e => .error e
  | .ok r =>
    match files.checkFolders r.places.dropLast with
    | .error e => .error e
    | .ok () => files.placeFor r

/-- Copies a file. The target is emptied before the source is read, so a file that is copied onto
itself is left blank. -/
def copy (files : Files β) (blank : β) (source target : String) : Except FileError (Files β) :=
  match files.find source with
  | .error .isAFolder => .error .notCopiable
  | .error e => .error e
  | .ok (here, content) =>
    (files.place target).map fun there =>
      files.put there (.file (if there = here then blank else content))

end Files

end MailMerge
