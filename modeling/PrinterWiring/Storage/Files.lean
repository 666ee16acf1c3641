import PrinterWiring.Storage.Path

/-!
# Files

A tree of directories and files with their texts. To write a file also makes the directories that its path leads
through, and a path only leads through directories that are there. A file is replaced whole: the new text is written
under a temporary name first, which then takes the place of the file.
-/

namespace PrinterWiring

/-- Files and directories, each at the names on the way to it. -/
structure Files where
  entries : List (List String × String)
  /-- The directories that were made. -/
  directories : List (List String)

/-- Why a file could not be read. -/
inductive ReadFailure where
  | missing
  /-- The path leads through a file. -/
  | notDirectory
  | directory
  | nameTooLong
  /-- The path contains the character that would end it. -/
  | cutOff
deriving DecidableEq

def ReadFailure.message : ReadFailure → String
  | missing => "No such file or directory (os error 2)"
  | notDirectory => "Not a directory (os error 20)"
  | directory => "Is a directory (os error 21)"
  | nameTooLong => "File name too long (os error 36)"
  | cutOff => "file name contained an unexpected NUL byte"

/-- The replacement of a file by way of a temporary one. -/
structure Replacement where
  target : String
  temporary : String
  text : String
deriving DecidableEq

namespace Files

/-- No files. -/
def empty : Files := ⟨[], []⟩

/-- The text of the file at a place. -/
def at? (fs : Files) (place : List String) : Option String := fs.entries.lookup place

/-- Whether there is a directory at a place. The working directory and all above it are there. -/
def isDirectory (fs : Files) (place : List String) : Bool :=
  place = ["/"] || place.getLast?.all (· = "..") || fs.directories.contains place

/-- Goes on by one name from a place where there has to be a directory. A name has at most 255 bytes. -/
def step (fs : Files) (place : List String) (name : String) : Except ReadFailure (List String) :=
  if !fs.isDirectory place then .error (if (fs.at? place).isSome then .notDirectory else .missing)
  else if name.utf8ByteSize > 255 then .error .nameTooLong
  else .ok (Path.step place name)

/-- The place that a path leads to. The empty path leads nowhere, and a path has less than 4096 bytes. -/
def resolve (fs : Files) (path : String) : Except ReadFailure (List String) :=
  if path.toList.any (·.toNat = 0) then .error .cutOff
  else if path.isEmpty then .error .missing
  else if path.utf8ByteSize ≥ 4096 then .error .nameTooLong
  else (Path.names path).foldlM fs.step (Path.start path)

/-- Reads a file. -/
def read (fs : Files) (path : String) : Except ReadFailure String := do
  let place ← fs.resolve path
  match fs.at? place with
  | some text => .ok text
  | none => .error (if fs.isDirectory place then .directory else .missing)

/-- The text of a file. -/
def text? (fs : Files) (path : String) : Option String := (fs.read path).toOption

/-- Whether there is a file at a path. -/
def isFile (fs : Files) (path : String) : Bool := (fs.text? path).isSome

/-- Whether there is anything at a path. -/
def exists? (fs : Files) (path : String) : Bool :=
  match fs.read path with
  | .ok _ => true
  | .error cause => cause = .directory

/-- Takes away the file at a place. -/
def erase (fs : Files) (place : List String) : Files := { fs with entries := fs.entries.filter (·.1 != place) }

/-- Makes directories. -/
def addDirectories (fs : Files) (places : List (List String)) : Files :=
  { fs with directories := places ++ fs.directories }

/-- Makes the directory at a path, and those that the path leads through. -/
def addDirectory (fs : Files) (path : String) : Files := fs.addDirectories (Path.place path :: Path.passed path)

/-- Puts a text at a place. -/
def put (fs : Files) (place : List String) (text : String) : Files :=
  { fs with entries := (place, text) :: (fs.erase place).entries }

/-- Puts a text at a path, and makes the directories that the path leads through. -/
def write (fs : Files) (path text : String) : Files :=
  (fs.addDirectories (Path.passed path)).put (Path.place path) text

/-- Replaces a file. Whatever had the temporary name is gone afterwards. -/
def replace (fs : Files) (r : Replacement) : Files := (fs.erase (Path.place r.temporary)).write r.target r.text

end Files

end PrinterWiring
