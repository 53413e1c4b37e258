import ServiceContract.Files.Path
import ServiceContract.Text.Line
import ServiceContract.Text.Quoted
import ServiceContract.Text.Utf8

/-!
# Trees of files

A `Tree` holds files by the names on their way from the root, and a working directory, where paths
that do not start at the root start.  Whatever is on the way to a file, to the working directory
or to one of the further directories is a directory.  `Tree.entry` walks along a path as it is
written; `Tree.readText` reads a file as UTF-8 with line feeds as line ends.
-/

namespace ServiceContract.Files

/-- The octets of the name of a file or a directory. -/
abbrev Name := List UInt8

/-- Files, the directory where relative paths start, and directories that may be empty. -/
structure Tree where
  workingDirectory : List Name := []
  files : List (List Name × List UInt8) := []
  directories : List (List Name) := []

/-- Why a path leads to no file. -/
inductive OpenFault where
  | missing
  | notADirectory
  | isADirectory
  | nameTooLong
  deriving DecidableEq, Repr

/-- The number and the wording of a fault. -/
def OpenFault.text : OpenFault → String
  | missing => "[Errno 2] No such file or directory"
  | notADirectory => "[Errno 20] Not a directory"
  | isADirectory => "[Errno 21] Is a directory"
  | nameTooLong => "[Errno 36] File name too long"

/-- The wording of a fault of a path. -/
def OpenFault.message (path : Text) (fault : OpenFault) : Text :=
  fault.text ++ ": " ++ path.quoted

/-- What a path leads to. -/
inductive Entry where
  | file (octets : List UInt8)
  | directory

/-- The greatest number of octets of a name. -/
def nameLimit : Nat := 255

/-- The greatest number of octets of a path. -/
def pathLimit : Nat := 4095

/-- The octet of a slash. -/
def slash : UInt8 := 0x2F

/-- The octet of a point. -/
def point : UInt8 := 0x2E

/-- The names in a path, the empty ones among them. -/
def namesOf (path : List UInt8) : List Name := Text.pieces slash path

/-- A step from a directory to one of its entries, to the directory above it, or nowhere. -/
def step (directory : List Name) (name : Name) : List Name :=
  if name = [] ∨ name = [point] then directory
  else if name = [point, point] then directory.dropLast
  else directory ++ [name]

/-- The places on the way from a directory along some names. -/
def placesFrom : (directory names : List Name) → List (List Name)
  | _, [] => []
  | directory, name :: rest => step directory name :: placesFrom (step directory name) rest

/-- The path to a place from the root. -/
def pathTo (place : List Name) : Text :=
  place.flatMap fun name => "/" ++ Text.decodeLossy name

namespace Tree

/-- Where a path starts. -/
def start (t : Tree) (path : List UInt8) : List Name :=
  if path.head? = some slash then [] else t.workingDirectory

/-- Whether the names lead to a directory. -/
def isDirectory (t : Tree) (names : List Name) : Bool :=
  names.isPrefixOf t.workingDirectory || t.directories.any (names.isPrefixOf ·) ||
    t.files.any fun (file, _) => names.isPrefixOf file && names != file

/-- Walks from a directory along the names of a path. -/
def walk (t : Tree) : (directory names : List Name) → Except OpenFault Entry
  | _, [] => .ok .directory
  | directory, name :: rest =>
    let names := step directory name
    if nameLimit < name.length then .error .nameTooLong
    else if t.isDirectory names then walk t names rest
    else match t.files.lookup names with
      | some octets => if rest.isEmpty then .ok (.file octets) else .error .notADirectory
      | none => .error .missing

/-- What a path leads to. -/
def entry (t : Tree) (path : List UInt8) : Except OpenFault Entry :=
  if path.isEmpty then .error .missing
  else if pathLimit < path.length then .error .nameTooLong
  else t.walk (t.start path) (namesOf path)

/-- The octets of the file that a path leads to. -/
def openFile (t : Tree) (path : List UInt8) : Except OpenFault (List UInt8) :=
  match t.entry path with
  | .ok (.file octets) => .ok octets
  | .ok .directory => .error .isADirectory
  | .error fault => .error fault

/-- The places on the way along a path, the last one included. -/
def places (t : Tree) (path : List UInt8) : List (List Name) :=
  placesFrom (t.start path) (namesOf path)

end Tree

/-- Why a file cannot be read as text. -/
inductive ReadFault where
  /-- The path cannot be looked up. -/
  | badPath (fault : PathFault)
  /-- The path, in its plain spelling, leads to no file. -/
  | unopened (path : Text) (fault : OpenFault)
  /-- The file is not UTF-8. -/
  | encoding (fault : Text.Utf8Fault)
  deriving DecidableEq, Repr

/-- The wording of a fault. -/
def ReadFault.message : ReadFault → Text
  | badPath fault => fault.message
  | unopened path fault => fault.message path
  | encoding fault => fault.message

/-- The text of the file that a path leads to. -/
def Tree.readText (t : Tree) (path : Text) : Except ReadFault Text := do
  let path := normalize path
  let octets ← (octetsOf path).mapError .badPath
  let content ← (t.openFile octets).mapError (.unopened path)
  let text ← (Text.decode content).mapError .encoding
  return text.unifyLineEnds

end ServiceContract.Files
