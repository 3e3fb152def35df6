import Acceptor.Text.Quoted

/-!
# Folders

A folder of named texts, and the reading of a file from it by a path. Of what lies outside the
folder only little is known: below the root there are the folders that every system of the usual
layout has, and the folder itself stands in one of them. Everything else outside is missing.
-/

namespace Acceptor.CommandLine

/-- Why a file cannot be read. -/
inductive FileFault where
  | missing
  | notFolder
  | folder
  | nameTooLong
  | nullCharacter
  deriving DecidableEq, Repr

/-- A file that cannot be read, by its path. -/
structure FileError where
  path : String
  fault : FileFault
  deriving DecidableEq, Repr

/-- Faults that the system finds, and that a front end reports to its user. A path with a null
character cannot be handed to the system at all. -/
def FileFault.isReported : FileFault → Bool
  | .missing | .notFolder | .folder | .nameTooLong => true
  | .nullCharacter => false

/-- The wording of an unreadable file: the number and the name of the fault, and the path. -/
def FileError.message (error : FileError) : String :=
  let about (fault : String) : String := fault ++ ": " ++ Text.quoted error.path
  match error.fault with
  | .missing => about "[Errno 2] No such file or directory"
  | .notFolder => about "[Errno 20] Not a directory"
  | .folder => about "[Errno 21] Is a directory"
  | .nameTooLong => about "[Errno 36] File name too long"
  | .nullCharacter => "embedded null byte"

/-- The parts of a path between its slashes, without empty ones and those for the folder itself. -/
def pathParts (path : String) : List String :=
  (path.splitOn "/").filter fun part => part != "" && part != "."

/-- A path starts at the root of all folders. -/
def isAbsolute (path : String) : Bool :=
  path.toList.head? == some '/'

/-- The slashes that a path to the root starts with: exactly two are kept apart from one, and any
other number counts as one. -/
def rootSlashes (path : String) : String :=
  if (path.toList.takeWhile (· == '/')).length = 2 then "//" else "/"

/-- A path without its superfluous parts. -/
def normalPath (path : String) : String :=
  let parts := "/".intercalate (pathParts path)
  if isAbsolute path then rootSlashes path ++ parts
  else if parts.isEmpty then "." else parts

/-- The greatest size of one part of a path, in bytes. -/
def maxPartSize : Nat := 255

/-- The greatest size of a path, in bytes. -/
def maxPathSize : Nat := 4095

/-- The files of a folder with their contents. -/
abbrev Folder := List (String × String)

/-- A folder that a path can lead to. -/
inductive Location where
  /-- The folder whose files are known. -/
  | own
  /-- The root of all folders. -/
  | root
  /-- The folder of devices. -/
  | devices
  /-- Another folder directly below the root, such as the one that the own folder stands in. -/
  | belowRoot
  deriving DecidableEq, Repr

/-- The folder above another one. The root is above itself. -/
def Location.parent : Location → Location
  | .own => .belowRoot
  | .root | .devices | .belowRoot => .root

/-- What a name stands for. -/
inductive FolderEntry where
  | file (content : String)
  | folder (location : Location)
  deriving DecidableEq, Repr

/-- The folders directly below the root, devices apart. -/
def rootFolders : List String :=
  ["bin", "boot", "etc", "home", "lib", "media", "mnt", "opt", "proc", "run", "sbin", "srv", "sys",
    "tmp", "usr", "var"]

/-- What a name stands for in a folder, given the files of the own one. -/
def Folder.entry? (folder : Folder) (name : String) : Location → Option FolderEntry
  | .own => (folder.lookup name).map .file
  | .root =>
    if name = "dev" then some (.folder .devices)
    else if rootFolders.contains name then some (.folder .belowRoot)
    else none
  | .devices => if name = "null" then some (.file "") else none
  | .belowRoot => none

/-- What the parts of a path lead to, from a folder on. -/
def Folder.walk (folder : Folder) (location : Location) : List String → Except FileFault String
  | [] => .error .folder
  | part :: rest =>
    if part = ".." then folder.walk location.parent rest
    else if maxPartSize < part.utf8ByteSize then .error .nameTooLong
    else
      match folder.entry? part location with
      | none => .error .missing
      | some (.folder inner) => folder.walk inner rest
      | some (.file content) => if rest.isEmpty then .ok content else .error .notFolder

/-- The content of the file at a path. -/
def Folder.read (folder : Folder) (path : String) : Except FileError String :=
  let normal := normalPath path
  let found : Except FileFault String :=
    if normal.toList.contains '\x00' then .error .nullCharacter
    else if maxPathSize < normal.utf8ByteSize then .error .nameTooLong
    else folder.walk (if isAbsolute path then .root else .own) (pathParts path)
  found.mapError fun fault => ⟨normal, fault⟩

end Acceptor.CommandLine
