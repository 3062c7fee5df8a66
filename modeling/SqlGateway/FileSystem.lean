import SqlGateway.Text.Split

/-!
# Files

The part of a file system that settings and databases need: files by path, and the directories
that files can be made in. What a file holds is a parameter.

A path is walked from one place to the next, and only a directory can be left again. So doubled
slashes and single dots make no difference, doubled dots go back, and a path that goes on behind a
file leads nowhere. Names and whole paths may not be longer than so many bytes.

## Main definitions

* `FileSystem.step`, `FileSystem.walk`: the place that a name or a path leads to.
* `FileSystem.read`, `FileSystem.write`: the contents of a file.
-/

namespace SqlGateway

/-! ## Paths -/

/-- The names that lead to a place; the first one is empty if they start at the root. -/
abbrev Place := List String

/-- Where a path starts. -/
def pathStart (path : String) : Place := if path.startsWith '/' then [""] else []

/-- The steps of a path. -/
def pathSteps (path : String) : List String :=
  ((Text.pieces '/' path.toList).filter fun piece ↦ !piece.isEmpty).map String.ofList

/-- How many bytes a name may have. -/
def nameLimit : Nat := 255

/-- How many bytes a path may have. -/
def pathLimit : Nat := 4095

/-- The place that a place is in. There is nothing around the root, nor around the place where paths
start otherwise. -/
def Place.parent (place : Place) : Place := if place = [""] then place else place.dropLast

/-! ## Faults -/

/-- Why a file cannot be read or written. -/
inductive FileError where
  | notFound | notDirectory | isDirectory | nameTooLong | nulInName | notText
deriving Repr, DecidableEq, Inhabited

/-- The wording of the reason. -/
def FileError.message : FileError → String
  | notFound => "No such file or directory (os error 2)"
  | notDirectory => "Not a directory (os error 20)"
  | isDirectory => "Is a directory (os error 21)"
  | nameTooLong => "File name too long (os error 36)"
  | nulInName => "file name contained an unexpected NUL byte"
  | notText => "stream did not contain valid UTF-8"

/-! ## Files and directories -/

/-- Files with contents of type `α`, and directories. -/
structure FileSystem (α : Type) where
  files : List (Place × α)
  directories : List Place
deriving Inhabited

namespace FileSystem

variable {α : Type}

/-- No files, in these directories. -/
def ofDirectories (paths : List String) : FileSystem α :=
  ⟨[], paths.map fun path ↦ pathStart path ++ pathSteps path⟩

def isDirectory (fs : FileSystem α) (place : Place) : Bool := fs.directories.contains place

/-- The contents of the file in a place. -/
def lookup (fs : FileSystem α) (place : Place) : Option α :=
  (fs.files.find? fun file ↦ file.1 == place).map Prod.snd

/-- The place that a step leads to. -/
def step (fs : FileSystem α) (place : Place) (name : String) : Except FileError Place :=
  if fs.isDirectory place then
    if name = "." then .ok place
    else if name = ".." then .ok place.parent
    else if nameLimit < name.utf8ByteSize then .error .nameTooLong
    else .ok (place ++ [name])
  else if (fs.lookup place).isSome then .error .notDirectory
  else .error .notFound

/-- Refuse a path that cannot be one. -/
def checkPath (path : String) : Except FileError Unit :=
  if path.contains '\x00' then .error .nulInName
  else if pathLimit < path.utf8ByteSize then .error .nameTooLong
  else .ok ()

/-- The place that steps lead to from where a path starts. There may be a directory, a file, or room
for one. -/
def walk (fs : FileSystem α) (path : String) (steps : List String) : Except FileError Place :=
  steps.foldlM fs.step (pathStart path)

/-- The contents of a file. Behind a file no slash may stand. -/
def read (fs : FileSystem α) (path : String) : Except FileError α := do
  checkPath path
  let place ← fs.walk path (pathSteps path)
  if fs.isDirectory place then throw .isDirectory
  match fs.lookup place with
  | some contents => if path.endsWith '/' then throw .notDirectory else return contents
  | none => throw .notFound

/-- Put contents into a place. -/
def put (place : Place) (contents : α) : List (Place × α) → List (Place × α)
  | [] => [(place, contents)]
  | file :: files =>
    if file.1 = place then (place, contents) :: files else file :: put place contents files

/-- The files with one more, or with another one, in a place. -/
def store (fs : FileSystem α) (place : Place) (contents : α) : FileSystem α :=
  { fs with files := put place contents fs.files }

/-- Make a file, or replace what it holds. What has a slash behind it is to be a directory, and its
own name is not looked at. -/
def write (fs : FileSystem α) (path : String) (contents : α) : Except FileError (FileSystem α) := do
  checkPath path
  if path.endsWith '/' then
    let place ← fs.walk path (pathSteps path).dropLast
    let _ ← fs.step place "."
    throw .isDirectory
  let place ← fs.walk path (pathSteps path)
  if fs.isDirectory place then throw .isDirectory
  return fs.store place contents

end FileSystem

end SqlGateway
