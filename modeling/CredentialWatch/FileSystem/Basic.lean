import CredentialWatch.IoError
import CredentialWatch.Path

/-!
# A tree of files

Files are kept by their place, the list of names from the root. The root is a directory at the empty
place. Walking a path goes from place to place: every piece of the path needs a directory to start
from, a name leads to what the directory holds, and a symbolic link puts its target in front of the
pieces that are left. Forty links are followed on one walk and no more.
-/
namespace CredentialWatch

inductive Node where
  | file (content : Bytes)
  | directory
  | link (target : String)
  /-- A pipe that nobody writes to: opening it never ends. -/
  | pipe
  /-- A file that cannot be read. -/
  | unreadable (error : SystemError)
  deriving DecidableEq, Repr

/-- The names from the root to a file. -/
abbrev Place := List String

/-- The path of a place, absolute and without links. -/
def Place.path (place : Place) : String :=
  if place.isEmpty then "/" else String.join (place.map ("/" ++ ·))

/-- What places are ordered by: the characters of each name, and an end that comes before any
character. -/
def Place.ranks (place : Place) : List Nat :=
  place.flatMap fun name => (name.toList.map fun char => char.toNat + 1) ++ [0]

/-- Whether a list of ranks comes no later than another one. -/
def Place.ranksPrecede : List Nat → List Nat → Bool
  | [], _ => true
  | _ :: _, [] => false
  | left :: lefts, right :: rights =>
    left < right ∨ left = right ∧ Place.ranksPrecede lefts rights

/-- Whether a place comes no later than another one: names are compared from the root on, by their
characters. -/
def Place.precedes (left right : Place) : Bool :=
  Place.ranksPrecede left.ranks right.ranks

structure FileSystem where
  nodes : List (Place × Node)
  workingDirectory : Place
  /-- How long it takes to read what stands at a place, where it takes any time. -/
  delays : List (Place × Duration)
  deriving Repr

namespace FileSystem

/-- What stands at a place. -/
def node? (files : FileSystem) (place : Place) : Option Node :=
  if place.isEmpty then some .directory else files.nodes.lookup place

def isDirectory (files : FileSystem) (place : Place) : Bool :=
  files.node? place == some .directory

/-- The longest name of a file, in bytes. -/
def longestName : Nat := 255

/-- A path must be shorter than this, in bytes. -/
def pathLimit : Nat := 4096

/-- The number of links that one walk follows. -/
def linkLimit : Nat := 40

/-- Where a walk without links ends: at something, at a free name in a directory, at a link that has
to be followed, or nowhere. -/
inductive Stop where
  | found (place : Place) (node : Node)
  | absent (place : Place)
  | link (directory : Place) (target : String) (rest : List String)
  | failed (error : SystemError)

/-- Where a walk ends: at something, or at a free name in a directory. -/
inductive Arrival where
  | found (place : Place) (node : Node)
  | absent (place : Place)
  deriving DecidableEq, Repr

/-- Walk the pieces of a path up to the first link to follow. A link at the end of the path is
followed only if `follow` says so. -/
def advance (files : FileSystem) (follow : Bool) : Place → List String → Stop
  | place, [] =>
    match files.node? place with
    | some node => .found place node
    | none => .failed .notFound
  | place, piece :: rest =>
    if ¬ files.isDirectory place then .failed .notDirectory
    else if piece = "" ∨ piece = "." then advance files follow place rest
    else if piece = ".." then advance files follow place.dropLast rest
    else if longestName < piece.utf8ByteSize then .failed .nameTooLong
    else
      let next := place ++ [piece]
      match files.node? next with
      | none => if rest.isEmpty then .absent next else .failed .notFound
      | some (.link target) =>
        if rest.isEmpty ∧ ¬ follow then .found next (.link target)
        else .link place target rest
      | some _ => advance files follow next rest

/-- The place at which the walk along a path starts. -/
def origin (directory : Place) (path : String) : Place :=
  if Path.isAbsolute path then [] else directory

/-- Walk pieces and follow links as long as their number allows. -/
def walk (files : FileSystem) (follow : Bool) :
    Nat → Place → List String → Except SystemError Arrival
  | links, place, pieces =>
    match files.advance follow place pieces with
    | .found place node => .ok (.found place node)
    | .absent place => .ok (.absent place)
    | .failed error => .error error
    | .link directory target rest =>
      match links with
      | 0 => .error .loop
      | links + 1 =>
        if target.isEmpty then .error .notFound
        else
          walk files follow links (origin directory target) (Path.split target ++ rest)

/-- The place that a path leads to. -/
def locate (files : FileSystem) (follow : Bool) (path : String) : Except IoError Arrival :=
  if path.toList.contains '\x00' then .error .nulInPath
  else if path.isEmpty then .error (.system .notFound)
  else if pathLimit ≤ path.utf8ByteSize then .error (.system .nameTooLong)
  else
    (files.walk follow linkLimit (origin files.workingDirectory path)
      (Path.split path)).mapError .system

/-- What a path leads to, links followed. -/
def find (files : FileSystem) (path : String) : Except IoError (Place × Node) := do
  match ← files.locate true path with
  | .found place node => return (place, node)
  | .absent _ => throw (.system .notFound)

/-- The absolute path without links that leads to the same file. -/
def canonicalPath (files : FileSystem) (path : String) : Except IoError String :=
  (fun (place, _) => Place.path place) <$> files.find path

/-- The path that something is known by: the absolute one without links, or the one that is written
if it leads nowhere. -/
def sourcePath (files : FileSystem) (path : String) : String :=
  (files.canonicalPath path).toOption.getD path

/-- Whether a path leads to anything. -/
def existsAt (files : FileSystem) (path : String) : Bool :=
  (files.find path).toBool

/-- The content of the file that a path leads to. A pipe yields nothing, not even an end. -/
def read (files : FileSystem) (path : String) : Except IoError Bytes := do
  match (← files.find path).2 with
  | .file content => return content
  | .directory => throw (.system .isDirectory)
  | .pipe => throw .neverReady
  | .unreadable error => throw (.system error)
  | .link _ => throw (.system .loop)

/-- How long it takes until a read of a path has come to its end, with content or a failure. That of
a pipe never does. -/
def readingTime? (files : FileSystem) (path : String) : Option Duration :=
  match files.find path with
  | .ok (_, .pipe) => none
  | .ok (place, _) => some ((files.delays.lookup place).getD ⟨0⟩)
  | .error _ => some ⟨0⟩

/-- Whether a read of a path has come to its end before a limit. -/
def endsWithin (files : FileSystem) (path : String) (limit : Duration) : Bool :=
  (files.readingTime? path).any (·.millis < limit.millis)

end FileSystem

end CredentialWatch
