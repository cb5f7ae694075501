import CredentialWatch.Text.Quoted

/-!
# Paths

A path is text; its components are what it says. Repeated and trailing slashes and dots after the
first component do not count, a leading dot of a relative path and every double dot do. Two paths
are the same if their components are.
-/
namespace CredentialWatch

inductive Component where
  | root
  | current
  | parent
  | name (name : String)
  deriving DecidableEq, Repr

namespace Path

/-- The pieces of a text between slashes. -/
def split (path : String) : List String :=
  go [] path.toList
where
  go : List Char → List Char → List String
    | piece, [] => [String.ofList piece.reverse]
    | piece, char :: rest =>
      if char = '/' then String.ofList piece.reverse :: go [] rest else go (char :: piece) rest

/-- The component that a piece stands for, unless it stands for none. -/
def component? (piece : String) : Option Component :=
  if piece = "" ∨ piece = "." then none
  else if piece = ".." then some .parent
  else some (.name piece)

/-- Whether a path starts at the root. -/
def isAbsolute (path : String) : Bool :=
  path.toList.head? == some '/'

/-- What a path says, in order. -/
def components (path : String) : List Component :=
  let pieces := split path
  let start :=
    if isAbsolute path then [Component.root]
    else if pieces.head? = some "." then [Component.current]
    else []
  start ++ pieces.filterMap component?

/-- Whether two paths say the same. -/
def same (left right : String) : Bool :=
  components left == components right

/-- The path of a name below a path. An absolute name stands for itself. -/
def join (path name : String) : String :=
  if isAbsolute name then name
  else if path.isEmpty then name
  else if path.toList.getLast? == some '/' then path ++ name
  else path ++ "/" ++ name

def shown (path : String) : String :=
  Text.Quoted.quote path

end Path

end CredentialWatch
