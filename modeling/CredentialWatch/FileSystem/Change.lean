import CredentialWatch.FileSystem.Basic

/-!
# Changing a tree of files

Every change gives the new tree and says what happened at which place, in order, so that a watcher
of a directory can be told. Writing follows links; making, renaming and removing a name does not.
-/
namespace CredentialWatch

/-- What happened to a name in a directory. -/
inductive ChangeKind where
  | created
  | modified
  | renamedFrom
  | renamedTo
  | removed
  deriving DecidableEq, Repr

structure FileChange where
  kind : ChangeKind
  place : Place
  deriving DecidableEq, Repr

namespace FileSystem

/-- A tree after a change, and what happened. -/
abbrev Changed := FileSystem × List FileChange

/-- The tree with a node at a place. -/
def put (files : FileSystem) (place : Place) (node : Node) : FileSystem :=
  { files with nodes := files.nodes.filter (·.1 != place) ++ [(place, node)] }

/-- The tree without a place and all that is below it. -/
def drop (files : FileSystem) (place : Place) : FileSystem :=
  { files with nodes := files.nodes.filter fun (other, _) => !place.isPrefixOf other }

/-- Write a file, which is made if the name is free. -/
def write (files : FileSystem) (path : String) (content : Bytes) : Except IoError Changed := do
  match ← files.locate true path with
  | .absent place =>
    return (files.put place (.file content), [⟨.created, place⟩, ⟨.modified, place⟩])
  | .found place node =>
    match node with
    | .file _ | .unreadable _ =>
      return (files.put place (.file content), [⟨.modified, place⟩])
    | .directory => throw (.system .isDirectory)
    | .pipe => throw .neverReady
    | .link _ => throw (.system .loop)

/-- Make something under a free name. -/
def make (files : FileSystem) (path : String) (node : Node) : Except IoError Changed := do
  match ← files.locate false path with
  | .absent place => return (files.put place node, [⟨.created, place⟩])
  | .found _ _ => throw (.system .alreadyExists)

/-- Whether pieces lead to a directory, links followed. -/
def leadsToDirectory (files : FileSystem) (start : Place) (pieces : List String) : Bool :=
  match files.walk true linkLimit start pieces with
  | .ok (.found _ .directory) => true
  | _ => false

/-- Make one directory, named by the pieces of a path. -/
def makeDirectory (files : FileSystem) (start : Place) (pieces : List String) :
    Except SystemError Changed := do
  match ← files.walk false linkLimit start pieces with
  | .absent place => return (files.put place .directory, [⟨.created, place⟩])
  | .found _ _ => throw .alreadyExists

/-- Make a directory and those above it that are missing; the pieces of its path stand in reverse
order. A directory that is there already is left as it is. -/
def makeDirectoriesFrom (files : FileSystem) (start : Place) :
    List String → Except SystemError Changed
  | [] => .ok (files, [])
  | last :: before =>
    let pieces := (last :: before).reverse
    match files.makeDirectory start pieces with
    | .ok changed => .ok changed
    | .error .notFound => do
      let (files, above) ← makeDirectoriesFrom files start before
      match files.makeDirectory start pieces with
      | .ok (files, made) => return (files, above ++ made)
      | .error error =>
        if files.leadsToDirectory start pieces then return (files, above) else throw error
    | .error error =>
      if files.leadsToDirectory start pieces then .ok (files, []) else .error error

/-- Make the directory that a path names and those above it that are missing. -/
def makeDirectories (files : FileSystem) (path : String) : Except IoError Changed :=
  if path.toList.contains '\x00' then .error .nulInPath
  else if pathLimit ≤ path.utf8ByteSize then .error (.system .nameTooLong)
  else
    let pieces := (Path.split path).filter fun piece => piece != "" && piece != "."
    (files.makeDirectoriesFrom (origin files.workingDirectory path)
      pieces.reverse).mapError .system

/-- Make the directories above the file that a path names. -/
def makeParents (files : FileSystem) (path : String) : Except IoError Changed :=
  let pieces := (Path.split path).filter fun piece => piece != "" && piece != "."
  (files.makeDirectoriesFrom (origin files.workingDirectory path)
    pieces.reverse.tail).mapError .system

/-- Whether nothing is below a directory. -/
def isEmptyDirectory (files : FileSystem) (place : Place) : Bool :=
  files.nodes.all fun (other, _) => other == place || !place.isPrefixOf other

/-- Give a file or directory another name, in the place of what had it. -/
def rename (files : FileSystem) (path newPath : String) : Except IoError Changed := do
  let .found source node ← files.locate false path | throw (.system .notFound)
  let target ← files.locate false newPath
  let moveTo (place : Place) : Changed :=
    let moved := (files.nodes.filter fun (other, _) => source.isPrefixOf other).map
      fun (other, node) => (place ++ other.drop source.length, node)
    let cleared := (files.drop source).drop place
    ({ cleared with nodes := cleared.nodes ++ moved },
      [⟨.renamedFrom, source⟩, ⟨.renamedTo, place⟩])
  match target with
  | .absent place =>
    if source.isPrefixOf place then throw (.system .invalid) else return moveTo place
  | .found place old =>
    if place = source then return (files, [])
    else if source.isPrefixOf place then throw (.system .invalid)
    else if place.isPrefixOf source then throw (.system .notEmpty)
    else
      match node, old with
      | .directory, .directory =>
        if files.isEmptyDirectory place then return moveTo place else throw (.system .notEmpty)
      | .directory, _ => throw (.system .notDirectory)
      | _, .directory => throw (.system .isDirectory)
      | _, _ => return moveTo place

/-- Remove a file; a directory is refused. -/
def remove (files : FileSystem) (path : String) : Except IoError Changed := do
  let .found place node ← files.locate false path | throw (.system .notFound)
  if node = .directory then throw (.system .isDirectory)
  return (files.drop place, [⟨.removed, place⟩])

/-- What has happened at a place between two trees. -/
def difference (before after : FileSystem) (place : Place) : List FileChange :=
  match before.node? place, after.node? place with
  | none, some _ => [⟨.created, place⟩, ⟨.modified, place⟩]
  | some _, none => [⟨.removed, place⟩]
  | old?, new? => if old? = new? then [] else [⟨.modified, place⟩]

end FileSystem

end CredentialWatch
