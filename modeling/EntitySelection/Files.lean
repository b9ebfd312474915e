import EntitySelection.Text.Quoted
import EntitySelection.Text.Utf8

/-!
# Files

What a path leads to, and why a file cannot be opened for reading or writing.
-/

namespace EntitySelection

/-- What a path leads to. -/
inductive FileState where
  | file (bytes : List UInt8)
  | directory
  /-- Nothing, in a directory that is there. -/
  | absent
  /-- Nothing, in a directory that is not there. -/
  | unreachable
  /-- Nothing, because a file stands where the path needs a directory. -/
  | blocked
  deriving DecidableEq, Repr

/-- A state for every path. -/
abbrev Files := String → FileState

/-- Why a file cannot be opened. -/
inductive FileFault where
  | notFound
  | notDirectory
  | isDirectory
  /-- The path holds a character that no path can hold. -/
  | nullInPath
  deriving DecidableEq, Repr

def FileFault.message (path : String) : FileFault → String
  | notFound => "[Errno 2] No such file or directory: " ++ Text.quoted path
  | notDirectory => "[Errno 20] Not a directory: " ++ Text.quoted path
  | isDirectory => "[Errno 21] Is a directory: " ++ Text.quoted path
  | nullInPath => "embedded null byte"

namespace FileState

def isThere : FileState → Bool
  | file _ | directory => true
  | absent | unreachable | blocked => false

/-- The bytes of a file. -/
def read : FileState → Except FileFault (List UInt8)
  | file bytes => .ok bytes
  | directory => .error .isDirectory
  | absent | unreachable => .error .notFound
  | blocked => .error .notDirectory

/-- Whether a file can be written. -/
def write : FileState → Except FileFault Unit
  | file _ | absent => .ok ()
  | directory => .error .isDirectory
  | unreachable => .error .notFound
  | blocked => .error .notDirectory

end FileState

namespace Files

def hasNull (path : String) : Bool := path.toList.contains '\x00'

/-- The bytes at a path. -/
def read (files : Files) (path : String) : Except FileFault (List UInt8) :=
  if hasNull path then .error .nullInPath else (files path).read

/-- Whether a path can be written to. -/
def write (files : Files) (path : String) : Except FileFault Unit :=
  if hasNull path then .error .nullInPath else (files path).write

/-- Whether there is something at a path. -/
def isThere (files : Files) (path : String) : Bool := !hasNull path && (files path).isThere

end Files

/-! ## Paths -/

/-- The pieces of a path between slashes. -/
def pathPieces (path : String) : List String :=
  (path.toList.foldr (fun c parts => match parts with
    | [] => if c = '/' then [[], []] else [[c]]
    | p :: ps => if c = '/' then [] :: p :: ps else (c :: p) :: ps) [[]]).map String.ofList

/-- The slashes that a path keeps at its start: one, or two if there are exactly two. -/
def pathRoot (path : String) : String :=
  match (path.toList.takeWhile (· == '/')).length with
  | 0 => ""
  | 2 => "//"
  | _ => "/"

/-- The names on a path. -/
def pathNames (path : String) : List String :=
  (pathPieces path).filter fun s => s != "" && s != "."

/-- A path without empty pieces and single dots. -/
def tidyPath (path : String) : String :=
  let tidy := pathRoot path ++ "/".intercalate (pathNames path)
  if tidy = "" then "." else tidy

/-- What the last name on a path ends in, from its last dot on: empty if the dot is the first or
the last character. -/
def pathSuffix (path : String) : String :=
  let name := ((pathNames path).getLast?.getD "").toList
  let tail := (name.reverse.takeWhile (· != '.')).reverse
  if tail.isEmpty || name.length < tail.length + 2 then ""
  else String.ofList ('.' :: tail)

/-! ## Files in memory -/

/-- Files by the names on their paths. -/
abbrev Folder := List (List String × List UInt8)

namespace Folder

def bytes? (f : Folder) (names : List String) : Option (List UInt8) := f.lookup names

/-- Whether names lead to a directory: to the folder itself, or to where files are. -/
def isDirectory (f : Folder) (names : List String) : Bool :=
  names.isEmpty || f.any fun p => names.isPrefixOf p.1 && names.length < p.1.length

/-- What names lead to. -/
def stateOf (f : Folder) (names : List String) : FileState :=
  match f.bytes? names with
  | some bytes => .file bytes
  | none =>
    if f.isDirectory names then .directory
    else if f.isDirectory names.dropLast then .absent
    else .unreachable

/-- Follows pieces of a path from a directory. -/
def follow (f : Folder) (here : List String) : List String → FileState
  | [] => f.stateOf here
  | piece :: rest =>
    if piece = "" || piece = "." then follow f here rest
    else if piece = ".." then follow f here.dropLast rest
    else
      let there := here ++ [piece]
      match f.stateOf there with
      | .directory => follow f there rest
      | .file bytes => if rest.isEmpty then .file bytes else .blocked
      | .absent => if rest.all (· == "") then .absent else .unreachable
      | other => other

/-- The device that is empty and keeps nothing. -/
def nullDevice : String := "/dev/null"

/-- The files of a folder. Outside of it there is only the root of the paths and the empty
device. -/
def files (f : Folder) : Files := fun path =>
  if path = nullDevice then .file []
  else if pathRoot path = "" then f.follow [] (pathPieces path)
  else if (pathNames path).isEmpty then .directory
  else .unreachable

/-- The names that a path leads to, seen from the folder. -/
def namesOf (path : String) : List String :=
  (pathNames path).foldl (fun here n => if n = ".." then here.dropLast else here ++ [n]) []

/-- The folder after a file was written. -/
def put (f : Folder) (path : String) (bytes : List UInt8) : Folder :=
  if pathRoot path != "" then f
  else
    let names := namesOf path
    (names, bytes) :: f.filter (·.1 != names)

end Folder

end EntitySelection
