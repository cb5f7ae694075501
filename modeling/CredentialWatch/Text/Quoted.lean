import CredentialWatch.Text.Printable

/-!
# Quoted text

A text between quotes, in which a quote, a backslash and the common controls are written with a
backslash, and every other character that is not shown as it is by its code point.
-/
namespace CredentialWatch.Text.Quoted

/-- Lower-case hexadecimal digits without leading zeros. -/
def hexDigits (number : Nat) : List Char :=
  Nat.toDigits 16 number

/-- A character as it stands between quotes. -/
def escape (char : Char) : List Char :=
  if char = '\x00' then ['\\', '0']
  else if char = '\t' then ['\\', 't']
  else if char = '\r' then ['\\', 'r']
  else if char = '\n' then ['\\', 'n']
  else if char = '\\' then ['\\', '\\']
  else if char = '"' then ['\\', '"']
  else if Printable.escaped char then
    ['\\', 'u', '\x7b'] ++ hexDigits char.toNat ++ ['\x7d']
  else [char]

/-- A text between quotes. -/
def quote (text : String) : String :=
  String.ofList ('"' :: text.toList.flatMap escape ++ ['"'])

/-- The text of an optional value. -/
def optional (shown : Option String) : String :=
  match shown with
  | some text => s!"Some({text})"
  | none => "None"

/-- A record's text: its name and its fields with their texts. -/
def record (name : String) (fields : List (String × String)) : String :=
  let shown := fields.map fun (field, text) => field ++ ": " ++ text
  name ++ " \x7b " ++ String.intercalate ", " shown ++ " \x7d"

/-- The text of a list of values. -/
def list (shown : List String) : String :=
  "[" ++ String.intercalate ", " shown ++ "]"

end CredentialWatch.Text.Quoted
