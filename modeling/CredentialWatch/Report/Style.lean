/-!
# Styles of terminal text

Each style is a sequence of terminal codes before the text and a reset behind it.
-/
namespace CredentialWatch

inductive Style where
  | header
  | entryName
  | description
  | notice
  | failure
  deriving DecidableEq, Repr

namespace Style

def reset : String := "\x1b[0m"

/-- The codes that switch a style on. -/
def codes : Style → String
  | header => "\x1b[1m\x1b[36m"
  | entryName => "\x1b[1m\x1b[32m"
  | description => "\x1b[2m"
  | notice => "\x1b[1m\x1b[33m"
  | failure => "\x1b[1m\x1b[31m"

/-- A text in a style. -/
def paint (style : Style) (text : String) : String :=
  style.codes ++ text ++ reset

end Style

end CredentialWatch
