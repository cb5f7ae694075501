import CredentialWatch.FileSystem.Basic

/-!
# What surrounds a run

A run sees a tree of files and the variables of its environment. A variable holds bytes; where text
is wanted, one that is not UTF-8 counts as absent.
-/
namespace CredentialWatch

structure World where
  files : FileSystem
  environment : List (String × Bytes)

namespace World

def lookup (world : World) (name : String) : Option Bytes :=
  world.environment.lookup name

def lookupText (world : World) (name : String) : Option String :=
  world.lookup name >>= Text.Utf8.decode?

/-- The world after a variable is set, or removed. -/
def setVariable (world : World) (name : String) (value? : Option Bytes) : World :=
  let others := world.environment.filter (·.1 != name)
  { world with environment := others ++ value?.toList.map (name, ·) }

end World

end CredentialWatch
