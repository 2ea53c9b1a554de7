/-!
# File trees

A tree of files below one directory, as text files are read from it by relative paths. A path is
walked name by name: `.` stays, `..` goes back up, and every name before the last must be a
directory.
-/

namespace OpGraph

/-- Why a file cannot be read. -/
inductive FileFault where
  | notFound
  -- something on the path is a file where a directory is needed
  | notDirectory
  | isDirectory
  | invalidText
  | nulInPath
  -- a name on the path has more than 255 bytes, or the path more than 4095
  | nameTooLong
  | other (reason : String)
  deriving DecidableEq, Repr

def FileFault.message : FileFault → String
  | notFound => "No such file or directory (os error 2)"
  | notDirectory => "Not a directory (os error 20)"
  | isDirectory => "Is a directory (os error 21)"
  | invalidText => "stream did not contain valid UTF-8"
  | nulInPath => "file name contained an unexpected NUL byte"
  | nameTooLong => "File name too long (os error 36)"
  | other reason => reason

/-- The files below a directory: the names that lead to each, and its contents. -/
structure FileTree where
  -- the files, each with the directories on the way and its own name
  files : List (List String × ByteArray)

namespace FileTree

def empty : FileTree := ⟨[]⟩

/-- The names on a path; empty ones between slashes are left out. -/
def names (path : String) : List String :=
  ((path.toList.splitOn '/').map String.ofList).filter (· ≠ "")

/-- The tree with a file at a relative path, in place of what was there. -/
def add (t : FileTree) (path : String) (contents : ByteArray) : FileTree :=
  let place := (names path).filter (· ≠ ".")
  ⟨t.files.filter (·.1 ≠ place) ++ [(place, contents)]⟩

/-- The contents of the file that some names lead to. -/
def file? (t : FileTree) (place : List String) : Option ByteArray := t.files.lookup place

/-- Whether some names lead to a directory: the top, or any directory on the way to a file. -/
def isDirectory (t : FileTree) (place : List String) : Bool :=
  place.isEmpty || t.files.any fun f => place.isPrefixOf f.1 && place != f.1

/-- What comes of walking on along names above the top, where nothing is known but directories. -/
def outsideFault : List String → FileFault
  | [] => .isDirectory
  | name :: rest =>
    if name = "." ∨ name = ".." then outsideFault rest
    else if 255 < name.utf8ByteSize then .nameTooLong
    else .notFound

/-- Walk from a directory along names; the result is the place they lead to. -/
def walk (t : FileTree) : List String → List String → Except FileFault (List String)
  | place, [] => .ok place
  | place, name :: rest =>
    if !t.isDirectory place then
      .error (if (t.file? place).isSome then .notDirectory else .notFound)
    else if 255 < name.utf8ByteSize then .error .nameTooLong
    else if name = "." then walk t place rest
    else if name = ".." then
      if place = [] then .error (outsideFault rest) else walk t place.dropLast rest
    else walk t (place ++ [name]) rest

/-- The contents of the file at a path. A slash at the end asks for a directory, and one at the
start leads out of the tree. -/
def read (t : FileTree) (path : String) : Except FileFault ByteArray := do
  if path.toList.contains '\x00' then throw .nulInPath
  if path = "" then throw .notFound
  if 4095 < path.utf8ByteSize then throw .nameTooLong
  if path.toList.head? = some '/' then throw (outsideFault (names path))
  let place ← t.walk [] (names path)
  match t.file? place with
  | some contents =>
    if path.toList.getLast? = some '/' then throw .notDirectory
    return contents
  | none => throw (if t.isDirectory place then .isDirectory else .notFound)

/-- The text of the file at a path. Bytes that are no text are a fault of the file. -/
def readText (t : FileTree) (path : String) : Except FileFault String := do
  match String.fromUTF8? (← t.read path) with
  | some text => return text
  | none => throw .invalidText

end FileTree

end OpGraph
