import CredentialWatch.Bytes
import CredentialWatch.Toml.Scan

/-!
# Strings

Basic strings know escapes, literal strings do not. Either may go over several lines between tripled
quotes; a line end right behind the opening quotes does not count, and up to two quotes may stand
before the closing ones. In a basic string of several lines a backslash at the end of a line takes
away all blanks and line ends that follow.
-/
namespace CredentialWatch.Toml

/-- The character that hexadecimal digits name, unless it is a surrogate or no character at all. -/
def charOfHex? (digits : List Char) : Option Char := do
  let values ← digits.mapM Bytes.hexValue?
  let point := values.foldl (fun sum value => sum * 16 + value) 0
  if point < 0xD800 ∨ (0xE000 ≤ point ∧ point < 0x110000) then some (Char.ofNat point) else none

/-- The character that an escape behind its backslash stands for, and the rest. -/
def escape? : List Char → Option (Char × List Char)
  | [] => none
  | letter :: rest =>
    let hex (count : Nat) : Option (Char × List Char) := do
      let digits := rest.take count
      if digits.length < count then none
      else return (← charOfHex? digits, rest.drop count)
    match letter with
    | 'b' => some ('\x08', rest)
    | 't' => some ('\t', rest)
    | 'n' => some ('\n', rest)
    | 'f' => some ('\x0c', rest)
    | 'r' => some ('\r', rest)
    | 'e' => some ('\x1b', rest)
    | '"' => some ('"', rest)
    | '\\' => some ('\\', rest)
    | 'x' => hex 2
    | 'u' => hex 4
    | 'U' => hex 8
    | _ => none

/-- The characters without blanks and line ends at the front. -/
def dropSpace : List Char → List Char
  | [] => []
  | char :: rest =>
    if isBlank char ∨ char = '\n' ∨ (char = '\r' ∧ rest.head? = some '\n') then dropSpace rest
    else char :: rest

/-- What follows a backslash at the end of a line, without blanks and line ends. -/
def afterFold? (chars : List Char) : Option (List Char) :=
  (afterLineEnd? (chars.dropWhile isBlank)).map dropSpace

/-- The rest of a string on one line behind its opening quote. -/
def lineText (quote : Char) (escapes : Bool) :
    Nat → List Char → List Char → Option (String × List Char)
  | 0, _, _ => none
  | steps + 1, taken, chars =>
    match chars with
    | [] => none
    | char :: rest =>
      if char = quote then some (String.ofList taken.reverse, rest)
      else if escapes ∧ char = '\\' then
        match escape? rest with
        | some (char, rest) => lineText quote escapes steps (char :: taken) rest
        | none => none
      else if isPlain char then lineText quote escapes steps (char :: taken) rest
      else none

/-- The rest of a string on several lines behind its opening quotes. -/
def blockText (quote : Char) (escapes : Bool) :
    Nat → List Char → List Char → Option (String × List Char)
  | 0, _, _ => none
  | steps + 1, taken, chars =>
    match chars with
    | [] => none
    | char :: rest =>
      if char = quote then
        let quotes := (chars.takeWhile (· == quote)).length
        if quotes < 3 then blockText quote escapes steps (char :: taken) rest
        else
          let kept := min (quotes - 3) 2
          some (String.ofList (List.replicate kept quote ++ taken).reverse,
            chars.drop (kept + 3))
      else if escapes ∧ char = '\\' then
        match escape? rest, afterFold? rest with
        | some (char, rest), _ => blockText quote escapes steps (char :: taken) rest
        | none, some rest => blockText quote escapes steps taken rest
        | none, none => none
      else if char = '\n' ∨ isPlain char then
        blockText quote escapes steps (char :: taken) rest
      else if char = '\r' ∧ rest.head? = some '\n' then
        blockText quote escapes steps (char :: taken) rest
      else none

namespace Scan

/-- Use a reader of characters that needs at most as many steps as there are characters. -/
def bounded {α : Type} (read : Nat → List Char → Option (α × List Char)) : Scan α := do
  let chars ← get
  match read (chars.length + 1) chars with
  | some (value, rest) =>
    set rest
    return value
  | none => failure

/-- A string on one line. -/
def line (quote : Char) : Scan String := do
  expect quote
  bounded fun steps chars => lineText quote (quote == '"') steps [] chars

/-- A string on one line or several. -/
def text (quote : Char) : Scan String := do
  if ← startsWith [quote, quote, quote] then
    skip 3
    match afterLineEnd? (← get) with
    | some rest => set rest
    | none => pure ()
    bounded fun steps chars => blockText quote (quote == '"') steps [] chars
  else line quote

end Scan

end CredentialWatch.Toml
