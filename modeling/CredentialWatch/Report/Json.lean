import CredentialWatch.Bytes

/-!
# JSON reports

Values as a report needs them and their indented text: two spaces a level, each item on a line of
its own, empty lists and records closed at once.
-/
namespace CredentialWatch.Report

inductive Json where
  | null
  | number (value : Nat)
  | text (value : String)
  | list (items : List Json)
  | record (fields : List (String × Json))

namespace Json

/-- A character as it stands in a JSON string. -/
def escape (char : Char) : List Char :=
  if char = '"' then ['\\', '"']
  else if char = '\\' then ['\\', '\\']
  else if char = '\n' then ['\\', 'n']
  else if char = '\r' then ['\\', 'r']
  else if char = '\t' then ['\\', 't']
  else if char = '\x08' then ['\\', 'b']
  else if char = '\x0c' then ['\\', 'f']
  else if char.toNat < 32 then
    ['\\', 'u', '0', '0', Bytes.hexDigit (char.toNat / 16), Bytes.hexDigit (char.toNat % 16)]
  else [char]

def quote (text : String) : String :=
  String.ofList ('"' :: text.toList.flatMap escape ++ ['"'])

def indent (level : Nat) : String :=
  String.ofList (List.replicate (2 * level) ' ')

/-- Items between brackets, each on a line of its own one level deeper. -/
def block (first last : String) (level : Nat) (items : List String) : String :=
  if items.isEmpty then first ++ last
  else
    let lines := items.map fun item => indent (level + 1) ++ item
    first ++ "\n" ++ String.intercalate ",\n" lines ++ "\n" ++ indent level ++ last

mutual

/-- The text of a value that stands at a level. -/
def render (level : Nat) : Json → String
  | null => "null"
  | number value => toString value
  | text value => quote value
  | list items => block "[" "]" level (renderItems (level + 1) items)
  | record fields => block "\x7b" "\x7d" level (renderFields (level + 1) fields)

def renderItems (level : Nat) : List Json → List String
  | [] => []
  | item :: rest => render level item :: renderItems level rest

def renderFields (level : Nat) : List (String × Json) → List String
  | [] => []
  | (name, value) :: rest => (quote name ++ ": " ++ render level value) :: renderFields level rest

end

/-- The indented text of a value. -/
def pretty (value : Json) : String :=
  render 0 value

end Json

end CredentialWatch.Report
