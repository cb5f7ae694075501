/-!
# Reading characters

A scan consumes characters from the front and may fail. The scans here take blanks, comments and
line ends; a carriage return is part of a line end only before a line feed.
-/
namespace CredentialWatch.Toml

abbrev Scan := StateT (List Char) Option

namespace Scan

/-- The next character, which stays. -/
def peek? : Scan (Option Char) := do
  return (← get).head?

/-- Skip a number of characters. -/
def skip (count : Nat) : Scan Unit :=
  modify (List.drop count)

/-- Take one character that has to be there. -/
def expect (char : Char) : Scan Unit := do
  match ← get with
  | next :: rest => if next = char then set rest else failure
  | [] => failure

/-- Take the characters up to the first one of another kind. -/
def takeWhile (kind : Char → Bool) : Scan (List Char) := do
  let chars ← get
  set (chars.dropWhile kind)
  return chars.takeWhile kind

/-- Whether the rest begins with some characters. -/
def startsWith (start : List Char) : Scan Bool := do
  return start.isPrefixOf (← get)

end Scan

/-- A space or a tab. -/
def isBlank (char : Char) : Bool :=
  char == ' ' || char == '\t'

/-- A character that may stand in comments and strings: no control other than the tab. -/
def isPlain (char : Char) : Bool :=
  char == '\t' || (0x20 ≤ char.toNat && char.toNat != 0x7F)

/-- What is behind a line end at the front, if there is one. -/
def afterLineEnd? : List Char → Option (List Char)
  | '\n' :: rest => some rest
  | '\r' :: '\n' :: rest => some rest
  | _ => none

namespace Scan

def blanks : Scan Unit := do
  let _ ← takeWhile isBlank

/-- A comment, if one begins here, up to its line end. -/
def comment : Scan Unit := do
  if (← peek?) = some '#' then
    let _ ← takeWhile isPlain

/-- A line end, or the end of the document. -/
def lineEnd : Scan Unit := do
  let chars ← get
  if chars.isEmpty then return
  match afterLineEnd? chars with
  | some rest => set rest
  | none => failure

/-- Blanks, comments and line ends, as many as there are. -/
def spaceFrom : Nat → List Char → Option (List Char)
  | 0, chars => some chars
  | steps + 1, chars =>
    match chars with
    | [] => some []
    | char :: rest =>
      if isBlank char then spaceFrom steps rest
      else if char = '#' then spaceFrom steps (rest.dropWhile isPlain)
      else
        match afterLineEnd? chars with
        | some rest => spaceFrom steps rest
        | none => some chars

/-- Skip blanks, comments and line ends. -/
def space : Scan Unit := do
  let chars ← get
  match spaceFrom chars.length chars with
  | some rest => set rest
  | none => failure

end Scan

end CredentialWatch.Toml
