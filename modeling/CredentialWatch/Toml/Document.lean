import CredentialWatch.Toml.Scalar
import CredentialWatch.Toml.Text

/-!
# Documents

A document is a sequence of lines, each empty, a header or a setting, all of which may end in a
comment. Settings belong to the table of the header above them. Lists and inline tables may go over
several lines and end in a comma; they are nested a limited number of levels deep.
-/
namespace CredentialWatch.Toml

/-- A character of a key without quotes. -/
def isKeyChar (char : Char) : Bool :=
  ('a' ≤ char && char ≤ 'z') || ('A' ≤ char && char ≤ 'Z') || isDigit char ||
    char == '_' || char == '-'

/-- A character that ends a scalar without quotes. -/
def endsScalar (char : Char) : Bool :=
  isBlank char || char == '\n' || char == '\r' || char == '#' || char == ',' || char == '[' ||
    char == ']' || char == '\x7b' || char == '\x7d' || char == '=' || char == '"' || char == '\''

/-- How deep lists and inline tables may be nested in one another. -/
def nestingLimit : Nat := 80

namespace Scan

/-- One part of a key. -/
def keyPart : Scan String := do
  match ← peek? with
  | some '"' => line '"'
  | some '\'' => line '\''
  | _ =>
    let chars ← takeWhile isKeyChar
    if chars.isEmpty then failure else return String.ofList chars

/-- The further parts of a dotted key. -/
def keyRest : Nat → Scan (List String)
  | 0 => failure
  | steps + 1 => do
    blanks
    if (← peek?) = some '.' then
      skip 1
      blanks
      let part ← keyPart
      return part :: (← keyRest steps)
    else return []

/-- A key: the parts before its last one, and that one. -/
def key : Scan (List String × String) := do
  let first ← keyPart
  let parts := first :: (← keyRest ((← get).length + 1))
  match parts.getLast? with
  | some last => return (parts.dropLast, last)
  | none => failure

/-- A scalar without quotes. A blank may stand between a date and a time. -/
def scalar : Scan Value := do
  let chars ← takeWhile (!endsScalar ·)
  let rest ← get
  if afterDate? chars = some [] ∧ rest.head? = some ' ' ∧ (rest[1]?.any isDigit) then
    skip 1
    let time ← takeWhile (!endsScalar ·)
    match scalar? (chars ++ ' ' :: time) with
    | some value => return value
    | none => failure
  else
    match scalar? chars with
    | some value => return value
    | none => failure

mutual

/-- A value; the numbers bound how many values follow each other and how deep they are nested. -/
def value : Nat → Nat → Scan Value
  | 0, _ => failure
  | steps + 1, levels => do
    match ← peek?, levels with
    | some '"', _ => .text <$> text '"'
    | some '\'', _ => .text <$> text '\''
    | some '[', levels + 1 =>
      skip 1
      .list <$> items steps levels
    | some '\x7b', levels + 1 =>
      skip 1
      fields steps levels (Value.emptyTable .inline)
    | _, _ => scalar

/-- The items of a list up to its closing bracket. -/
def items : Nat → Nat → Scan (List Value)
  | 0, _ => failure
  | steps + 1, levels => do
    space
    if (← peek?) = some ']' then
      skip 1
      return []
    let first ← value steps levels
    space
    if (← peek?) = some ',' then
      skip 1
      return first :: (← items steps levels)
    else
      expect ']'
      return [first]

/-- The fields of an inline table up to its closing brace. -/
def fields : Nat → Nat → Value → Scan Value
  | 0, _, _ => failure
  | steps + 1, levels, table => do
    space
    if (← peek?) = some '\x7d' then
      skip 1
      return table
    let (path, last) ← key
    blanks
    expect '='
    blanks
    let assigned ← value steps levels
    let some table := Value.assign path last assigned table | failure
    space
    if (← peek?) = some ',' then
      skip 1
      fields steps levels table
    else
      expect '\x7d'
      return table

end

end Scan

/-- A document as far as it has been read: its root, and the path of the header that settings are
under. -/
structure Progress where
  root : Value
  header : List String

def Progress.start : Progress := ⟨Value.emptyTable .header, []⟩

namespace Scan

/-- A header, for one table or for one of several. -/
def header (progress : Progress) : Scan Progress := do
  let repeated ← startsWith ['[', '[']
  skip (if repeated then 2 else 1)
  blanks
  let (path, last) ← key
  blanks
  expect ']'
  if repeated then expect ']'
  let enter := if repeated then Value.openItem last else Value.openTable last
  match progress.root.modifyAt false enter path with
  | some root => return ⟨root, path ++ [last]⟩
  | none => failure

/-- A setting in the table of the current header. -/
def setting (progress : Progress) : Scan Progress := do
  let (path, last) ← key
  blanks
  expect '='
  blanks
  let value ← value ((← get).length + 1) nestingLimit
  match progress.root.modifyAt false (Value.assign path last value) progress.header with
  | some root => return { progress with root }
  | none => failure

/-- One line. -/
def documentLine (progress : Progress) : Scan Progress := do
  blanks
  let progress ←
    match ← peek? with
    | none => pure progress
    | some '#' => pure progress
    | some '\n' => pure progress
    | some '\r' => pure progress
    | some '[' => header progress
    | some _ => setting progress
  blanks
  comment
  lineEnd
  return progress

/-- All lines. -/
def documentLines : Nat → Progress → Scan Progress
  | 0, _ => failure
  | steps + 1, progress => do
    if (← get).isEmpty then return progress
    documentLines steps (← documentLine progress)

end Scan

/-- The root table of a document, if its text is well formed. A byte order mark in front does not
count. -/
def parse? (text : String) : Option Value :=
  let chars :=
    match text.toList with
    | '\uFEFF' :: rest => rest
    | chars => chars
  ((Scan.documentLines (chars.length + 1) Progress.start).run chars).map fun (progress, _) =>
    progress.root

end CredentialWatch.Toml
