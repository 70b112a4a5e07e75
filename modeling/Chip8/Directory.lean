namespace Chip8

/-!
# Directories

A directory that holds files and nothing else, with the paths that lead into it.
Empty steps and the step `.` of a path stay where they are; a step behind the
name of a file leads nowhere.  Names and whole paths have a greatest size, and no
path holds a NUL character.  Main statement: what was written to a path is read
back from it.
-/

/-- Why a file operation fails. -/
inductive FileError where
  | notFound
  | isDirectory
  | notDirectory
  /-- A name, or a whole path, has more bytes than may be. -/
  | nameTooLong
  /-- A path holds a NUL character, which no name can have. -/
  | unexpectedNul
  /-- The bytes of a file are no text. -/
  | notText
  /-- Any other failure, in its own words. -/
  | other (message : String)
  deriving Repr, DecidableEq

namespace FileError

/-- The text that describes a failure. -/
def message : FileError → String
  | .notFound => "No such file or directory (os error 2)"
  | .isDirectory => "Is a directory (os error 21)"
  | .notDirectory => "Not a directory (os error 20)"
  | .nameTooLong => "File name too long (os error 36)"
  | .unexpectedNul => "file name contained an unexpected NUL byte"
  | .notText => "stream did not contain valid UTF-8"
  | .other message => message

end FileError

/-- Files by their names. -/
structure Directory where
  files : List (String × List UInt8)
  deriving Repr, DecidableEq

/-- Where a path leads. -/
inductive Place where
  /-- The file of a name, whether it exists or not. -/
  | file (name : String)
  /-- A directory. -/
  | directory
  /-- The file of a name as if it were a directory, and the steps from there. -/
  | inside (name : String) (steps : List String)
  /-- A name above the directory, which stands for nothing, and the steps from there. -/
  | outside (name : String) (steps : List String)
  deriving Repr, DecidableEq

namespace Place

/-- The most bytes of a path. -/
def maxPathSize : Nat :=
  4095

/-- Where the steps of a path lead from above the directory. -/
def ofOuterSteps : List String → Place
  | [] => .directory
  | step :: rest =>
      if step = "" ∨ step = "." ∨ step = ".." then
        ofOuterSteps rest
      else
        .outside step rest

/-- Where the steps of a path lead from the inside of the directory. -/
def ofSteps : List String → Place
  | [] => .directory
  | step :: rest =>
      if step = "" ∨ step = "." then
        ofSteps rest
      else if step = ".." then
        ofOuterSteps rest
      else if rest.isEmpty then
        .file step
      else
        .inside step rest

/-- Where a path leads, if it may be a path at all. -/
def ofPath (path : String) : Except FileError Place :=
  if path.toList.contains '\x00' then
    .error .unexpectedNul
  else if maxPathSize < path.utf8ByteSize then
    .error .nameTooLong
  else
    match (path.toList.splitOn '/').map String.ofList with
    | [] | [""] => .error .notFound
    | "" :: rest => .ok (ofOuterSteps rest)
    | steps => .ok (ofSteps steps)

end Place

namespace Directory

/-- The most bytes of a name. -/
def maxNameSize : Nat :=
  255

/-- Whether a name has more bytes than may be. -/
def exceedsName (name : String) : Bool :=
  maxNameSize < name.utf8ByteSize

/-- Why a name that stands for nothing cannot be followed. -/
def absent (name : String) : FileError :=
  if exceedsName name then .nameTooLong else .notFound

/-- The bytes of a file. -/
def contents?
    (directory : Directory)
    (name : String) :
    Option (List UInt8) :=
  directory.files.lookup name

/-- Why a step behind a name fails. -/
def blocked
    (directory : Directory)
    (name : String) :
    FileError :=
  if (directory.contents? name).isSome then
    .notDirectory
  else
    absent name

/-- Read the file that a path leads to. -/
def read
    (directory : Directory)
    (path : String) :
    Except FileError (List UInt8) :=
  match Place.ofPath path with
  | .ok (.file name) =>
      match directory.contents? name with
      | some bytes => .ok bytes
      | none => .error (absent name)
  | .ok .directory => .error .isDirectory
  | .ok (.inside name _) => .error (directory.blocked name)
  | .ok (.outside name _) => .error (absent name)
  | .error error => .error error

/-- Give a file new contents, and add it if there is none of its name. -/
def put
    (directory : Directory)
    (name : String)
    (bytes : List UInt8) :
    Directory where
  files :=
    (name, bytes) :: directory.files.filter fun (known, _) => known != name

/-- A file holds what it was given last. -/
@[simp] theorem contents?_put
    (directory : Directory)
    (name : String)
    (bytes : List UInt8) :
    (directory.put name bytes).contents? name = some bytes := by
  simp [contents?, put]

/-- Whether steps are only slashes at the end of a path, which ask for a directory. -/
def onlySlashes (steps : List String) : Bool :=
  !steps.isEmpty && steps.all (· = "")

/-- Change or create the file that a path leads to. -/
def update
    (directory : Directory)
    (path : String)
    (change : List UInt8 → List UInt8) :
    Except FileError Directory :=
  match Place.ofPath path with
  | .ok (.file name) =>
      if exceedsName name then
        .error .nameTooLong
      else
        .ok (directory.put name (change ((directory.contents? name).getD [])))
  | .ok .directory => .error .isDirectory
  | .ok (.inside name steps) =>
      if onlySlashes steps then
        .error .isDirectory
      else
        .error (directory.blocked name)
  | .ok (.outside name steps) =>
      if onlySlashes steps then
        .error .isDirectory
      else
        .error (absent name)
  | .error error => .error error

/-- Write the file that a path leads to. -/
def write
    (directory : Directory)
    (path : String)
    (bytes : List UInt8) :
    Except FileError Directory :=
  directory.update path fun _ => bytes

/-- What was written is read back. -/
theorem read_of_write
    {directory written : Directory}
    {path : String}
    {bytes : List UInt8}
    (success : directory.write path bytes = .ok written) :
    written.read path = .ok bytes := by
  unfold write update at success
  unfold read
  split at success
  · split at success
    · cases success
    · cases success
      simp
  · cases success
  · split at success <;> cases success
  · split at success <;> cases success
  · cases success

/-- Write behind the end of the file that a path leads to. -/
def append
    (directory : Directory)
    (path : String)
    (bytes : List UInt8) :
    Except FileError Directory :=
  directory.update path (· ++ bytes)

end Directory

end Chip8
