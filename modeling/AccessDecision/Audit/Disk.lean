import AccessDecision.Entries
import AccessDecision.Failure.File
import AccessDecision.Text.Utf8

/-!
# Files

The files that were written since the start.  The directories are the working one, those
above it, the root and a few that every root holds.  A path is followed name by name, so
the first name on it that is no directory decides how it fails.
-/

namespace AccessDecision

/-- Files by their paths.  The path of a file leads straight up from the working
directory or from the root and then down to the file. -/
abbrev Disk :=
  List (String × ByteArray)

namespace Disk

/-- Where a path leads. -/
structure Place where
  /-- The directory that is reached; its path is empty or ends in a slash. -/
  directory : String
  /-- The last name on the path. -/
  name : String
  /-- The path insists on a directory of that name. -/
  asDirectory : Bool

def Place.path (place : Place) : String :=
  place.directory ++ place.name

def nameLimit : Nat :=
  255

def pathLimit : Nat :=
  4095

def isLongName (name : String) : Bool :=
  decide (nameLimit < name.utf8ByteSize)

def root : String :=
  "/"

def rootDirectories : List String :=
  ["bin", "dev", "etc", "home", "lib", "proc", "root", "sys", "tmp", "usr", "var"]

/-- The file that takes everything and stays empty. -/
def nullFile : String :=
  "/dev/null"

/-- The directory above another one.  Nothing is above the root. -/
def parent (directory : String) : String :=
  if directory.toList.head? == some '/' then root else directory ++ "../"

def subdirectory? (directory name : String) : Option String :=
  if directory = root && rootDirectories.contains name then some (root ++ name ++ "/")
  else none

/-- The octets of the file with a path, if there is one. -/
def fileAt? (disk : Disk) (path : String) : Option ByteArray :=
  if path = nullFile then some .empty else disk.lookup path

/-- Follow the names on a path from a directory up to the last one.  A path that ends in
a directory leads to no file. -/
def follow (disk : Disk) (path directory : String) :
    List String → Except FileFault Place
  | [] => .error (.isDirectory path)
  | "." :: rest => follow disk path directory rest
  | ".." :: rest => follow disk path (parent directory) rest
  | name :: rest =>
      match subdirectory? directory name with
      | some inner => follow disk path inner rest
      | none =>
          if rest.isEmpty then
            .ok ⟨directory, name, path.toList.getLast? == some '/'⟩
          else if isLongName name then .error (.tooLong path)
          else if (disk.fileAt? (directory ++ name)).isSome then
            .error (.notDirectory path)
          else .error (.missing path)

def locate (disk : Disk) (path : String) : Except FileFault Place :=
  if path.toList.contains '\x00' then .error .nullInPath
  else if path.isEmpty then .error (.missing path)
  else if pathLimit < path.utf8ByteSize then .error (.tooLong path)
  else
    follow disk path (if path.toList.head? == some '/' then root else "")
      ((path.splitOn "/").filter fun name => !name.isEmpty)

def read (disk : Disk) (path : String) : Except FileFault ByteArray := do
  let place ← locate disk path
  if isLongName place.name then .error (.tooLong path)
  else
    match disk.fileAt? place.path with
    | some octets =>
        if place.asDirectory then .error (.notDirectory path) else .ok octets
    | none => .error (.missing path)

/-- Add octets at the end of a file, which is created if need be. -/
def append (disk : Disk) (path : String) (octets : ByteArray) :
    Except FileFault Disk := do
  let place ← locate disk path
  if place.asDirectory then .error (.isDirectory path)
  else if isLongName place.name then .error (.tooLong path)
  else if place.path = nullFile then .ok disk
  else .ok (Entries.set place.path ((disk.fileAt? place.path).getD .empty ++ octets) disk)

end Disk

end AccessDecision
