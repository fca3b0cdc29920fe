import ChatClient.Files.Path
import ChatClient.Text.Utf8

/-!
A tree of files, with what a program can do in it: look, read, write, remove and make directories.
Looking, reading and removing are refused only for what stands in the tree; the permission bits of a file
are data like its content. Making room for a file and writing it can fail for other reasons as well, which
the tree knows in advance.
-/
namespace ChatClient.Files

/-- Why the system refuses. -/
inductive OsError
  | notFound
  | exists
  | notDirectory
  | isDirectory
  | nameTooLong
  /-- Anything else, in the words of the system. -/
  | other (message : String)
deriving DecidableEq

def OsError.message : OsError → String
  | .notFound => "No such file or directory (os error 2)"
  | .exists => "File exists (os error 17)"
  | .notDirectory => "Not a directory (os error 20)"
  | .isDirectory => "Is a directory (os error 21)"
  | .nameTooLong => "File name too long (os error 36)"
  | .other message => message

/-- Where something stands: the names from the root on. -/
abbrev Place := List String

inductive Node
  | directory
  | file (data : List UInt8) (mode : Nat)
deriving DecidableEq

/-- What the system lets become of putting a file in its place, whatever stands there. -/
inductive Fate
  | granted
  /-- No directory may be made. -/
  | barred (cause : OsError)
  /-- The file may not be opened. -/
  | refused (cause : OsError)
  /-- The file is opened and takes so many bytes, all at most; then writing them, or bringing them to the
  disk, fails. -/
  | broken (kept : Nat) (cause : OsError)
deriving DecidableEq

/-- The bytes that get into a file which is opened. -/
def Fate.written (data : List UInt8) : Fate → List UInt8
  | .broken kept _ => data.take kept
  | _ => data

/-- Why an opened file is not finished. -/
def Fate.unfinished? : Fate → Option OsError
  | .broken _ cause => some cause
  | _ => none

/-- What stands at the places of a tree, the directory where relative paths start, and what the system lets
become of the next files that are put in their places, one after the other. All that come later are
granted. -/
structure Tree where
  nodes : List (Place × Node)
  workPlace : Place
  fates : List Fate
deriving DecidableEq

namespace Tree

/-- The tree that is only a root. -/
def empty : Tree := ⟨[], [], []⟩

def nextFate (t : Tree) : Fate := t.fates.headD .granted

def dropFate (t : Tree) : Tree := { t with fates := t.fates.tail }

/-- What stands at a place. The root is always a directory. -/
def node? (t : Tree) (place : Place) : Option Node :=
  if place = [] then some .directory else (t.nodes.find? (·.1 = place)).map (·.2)

def erase (t : Tree) (place : Place) : Tree :=
  { t with nodes := t.nodes.filter (·.1 ≠ place) }

def put (t : Tree) (place : Place) (node : Node) : Tree :=
  { t with nodes := (place, node) :: (t.erase place).nodes }

/-- The place that a name leads to from a directory. -/
def enter (t : Tree) (place : Place) (name : String) : Except OsError Place :=
  match t.node? place with
  | some .directory =>
    if 255 < name.utf8ByteSize then .error .nameTooLong
    else .ok (if name = ".." then place.dropLast else place ++ [name])
  | some (.file ..) => .error .notDirectory
  | none => .error .notFound

/-- The place that a path leads to. All but the last name have to lead through directories. -/
def locate (t : Tree) (path : String) : Except OsError Place :=
  if path = "" then .error .notFound
  else (names path).foldlM t.enter (if isAbsolute path then [] else t.workPlace)

/-- What stands where a path leads. -/
def find (t : Tree) (path : String) : Except OsError Node := do
  match t.node? (← t.locate path) with
  | some .directory => .ok .directory
  | some file => if namesDirectory path then .error .notDirectory else .ok file
  | none => .error .notFound

def isDirectory (t : Tree) (path : String) : Bool :=
  match t.find path with
  | .ok .directory => true
  | _ => false

def holds (t : Tree) (path : String) : Bool :=
  match t.find path with
  | .ok _ => true
  | .error _ => false

def read (t : Tree) (path : String) : Except OsError (List UInt8) := do
  match ← t.find path with
  | .file data _ => .ok data
  | .directory => .error .isDirectory

/-- Writes a file. The mode is that of a new file; a file that stands there already keeps its own. -/
def write (t : Tree) (path : String) (data : List UInt8) (mode : Nat) : Except OsError Tree := do
  let place ← t.locate path
  if namesDirectory path then .error .isDirectory
  else match t.node? place with
    | some .directory => .error .isDirectory
    | some (.file _ mode) => .ok (t.put place (.file data mode))
    | none => .ok (t.put place (.file data mode))

/-- Writes a file as the system lets it: not at all, or only some of it. -/
def writeAs (fate : Fate) (t : Tree) (path : String) (data : List UInt8) (mode : Nat) :
    Except OsError Tree :=
  match fate with
  | .refused cause => .error cause
  | fate => t.write path (fate.written data) mode

def setMode (t : Tree) (path : String) (mode : Nat) : Except OsError Tree := do
  let place ← t.locate path
  match t.node? place with
  | some (.file data _) => .ok (t.put place (.file data mode))
  | some .directory => .ok t
  | none => .error .notFound

/-- Removes a file. -/
def remove (t : Tree) (path : String) : Except OsError Tree := do
  let place ← t.locate path
  if namesDirectory path then .error .isDirectory
  else match t.node? place with
    | some .directory => .error .isDirectory
    | some (.file ..) => .ok (t.erase place)
    | none => .error .notFound

def makeDirectory (t : Tree) (path : String) : Except OsError Tree := do
  let place ← t.locate path
  match t.node? place with
  | some _ => .error .exists
  | none => .ok (t.put place .directory)

/-- Makes a directory unless it is one already. -/
def ensureDirectory (t : Tree) (path : String) : Except OsError Unit × Tree :=
  match t.makeDirectory path with
  | .ok t => (.ok (), t)
  | .error e => (if t.isDirectory path then .ok () else .error e, t)

/-- Makes a directory and those above it that are missing. The fuel bounds how many they are. What has
been made stays, also where the next one cannot be made. -/
def makeDirectoriesWith : (fuel : Nat) → Tree → (path : String) → Except OsError Unit × Tree
  | 0, t, _ => (.error .notFound, t)
  | fuel + 1, t, path =>
    if path = "" then (.ok (), t)
    else match t.ensureDirectory path with
      | (.error .notFound, t) =>
        match parent? path with
        | none => (.error .notFound, t)
        | some above =>
          match makeDirectoriesWith fuel t above with
          | (.ok (), t) => t.ensureDirectory path
          | failed => failed
      | made => made

def makeDirectories (t : Tree) (path : String) : Except OsError Unit × Tree :=
  makeDirectoriesWith (path.length + 1) t path

/-- Makes directories as the system lets it. What is a directory already need not be made. -/
def makeDirectoriesAs (fate : Fate) (t : Tree) (path : String) : Except OsError Unit × Tree :=
  match fate with
  | .barred cause => if path = "" ∨ t.isDirectory path then (.ok (), t) else (.error cause, t)
  | _ => t.makeDirectories path

end Tree

end ChatClient.Files
