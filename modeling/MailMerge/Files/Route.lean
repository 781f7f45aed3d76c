import MailMerge.Text.Cut

/-!
# `MailMerge.Files.Route`: where a path leads

A path is a route from the working directory, or from the root if it begins with a slash: into a
folder or file by name, up by `..`, nowhere by `.`. Two paths that end in one place name one file,
however they are written.
-/

set_option autoImplicit false

namespace MailMerge

/-- A place in the tree of files, told by the names on the way to it. The way begins at the root,
or at the working directory or a folder above it, whose own names are not known. -/
structure Location where
  /-- How many folders above the working directory the way begins; `none` is the root. -/
  above : Option Nat
  /-- Names of folders, and of the file at the end, from the inside out. -/
  names : List String
deriving DecidableEq, Repr

namespace Location

/-- The working directory. -/
def workingDirectory : Location := ⟨some 0, []⟩

/-- The root of all files. -/
def root : Location := ⟨none, []⟩

/-- The folder or file of a name in a folder. -/
def child (folder : Location) (name : String) : Location := ⟨folder.above, name :: folder.names⟩

/-- The folder around a place; the root is around itself. -/
def parent (here : Location) : Location :=
  match here.names with
  | [] => ⟨here.above.map (· + 1), []⟩
  | _ :: outer => ⟨here.above, outer⟩

end Location

/-- What one part of a path does. -/
inductive RouteStep where
  | stay
  | up
  | into (name : String)
deriving DecidableEq, Repr

namespace RouteStep

/-- The step of a part between slashes. -/
def ofPart (part : List Char) : RouteStep :=
  if part = ['.'] then .stay else if part = ['.', '.'] then .up else .into (.ofList part)

/-- Where a step leads from a place. -/
def move (here : Location) : RouteStep → Location
  | stay => here
  | up => here.parent
  | into name => here.child name

end RouteStep

/-- A path, read as a route. -/
structure Route where
  /-- Where the route begins. -/
  start : Location
  steps : List RouteStep
  /-- Whether the path ends in a slash, and so can only name a folder. -/
  namesFolder : Bool
deriving DecidableEq, Repr

namespace Route

/-- The route of a path. Slashes in a row are as one. -/
def ofText (cs : List Char) : Route :=
  let (first, others) := Text.segments '/' cs
  let parts := (first :: others).filter (· ≠ [])
  ⟨if cs.head? = some '/' then .root else .workingDirectory,
    parts.map RouteStep.ofPart, cs.getLast? = some '/'⟩

/-- The route of a path; the empty text is none. -/
def ofString? (path : String) : Option Route :=
  if path.toList.isEmpty then none else some (ofText path.toList)

/-- The places on the way from the start to the end, both included. -/
def placesFrom (here : Location) : List RouteStep → List Location
  | [] => [here]
  | step :: steps => here :: placesFrom (step.move here) steps

/-- The places on the way, the end included. -/
def places (r : Route) : List Location := placesFrom r.start r.steps

/-- Where a path ends. -/
def location (r : Route) : Location := r.steps.foldl RouteStep.move r.start

/-- The name of the file that a path ends in. Dots at its end do not count. -/
def fileName? (r : Route) : Option String :=
  match (r.steps.filter (· ≠ .stay)).getLast? with
  | some (.into name) => some name
  | _ => none

end Route

end MailMerge
