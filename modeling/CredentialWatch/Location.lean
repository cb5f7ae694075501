import CredentialWatch.IoError
import CredentialWatch.Path
import CredentialWatch.Text.AsciiCase

/-!
# Locations

A location is a path or a file URI. Text before the first colon is a scheme if it has at least two
characters, begins with a letter and goes on with letters, digits and the signs `+`, `-` and `.`;
every other location is a path as it stands. Only the file scheme is known, and only without a
foreign authority. The path of a URI is percent-decoded.
-/
namespace CredentialWatch

/-- Where a store is read from. -/
structure Source where
  path : String
  deriving DecidableEq, Repr

/-- Whether two sources have the same path. -/
def Source.same (left right : Source) : Bool :=
  Path.same left.path right.path

def Source.shown (source : Source) : String :=
  s!"File({Path.shown source.path})"

namespace Location

def isAlpha (char : Char) : Bool :=
  ('a' ≤ char && char ≤ 'z') || ('A' ≤ char && char ≤ 'Z')

def isSchemeChar (char : Char) : Bool :=
  isAlpha char || ('0' ≤ char && char ≤ '9') || char == '+' || char == '-' || char == '.'

/-- Whether a text may be a scheme. A single letter is a drive, not a scheme. -/
def isScheme (text : List Char) : Bool :=
  1 < text.length && (text.head?.any isAlpha) && text.all isSchemeChar

/-- The scheme of a location and what follows its colon, if it has one. -/
def splitScheme? (location : List Char) : Option (List Char × List Char) :=
  let scheme := location.takeWhile (· != ':')
  match location.dropWhile (· != ':') with
  | [] => none
  | _ :: rest => if isScheme scheme then some (scheme, rest) else none

/-- The bytes of a text in which a percent sign with two hexadecimal digits stands for a byte. -/
def percentDecode : List Char → Bytes
  | [] => []
  | char :: high :: low :: rest =>
    if char = '%' then
      match Bytes.hexValue? high, Bytes.hexValue? low with
      | some high, some low => UInt8.ofNat (high * 16 + low) :: percentDecode rest
      | _, _ => String.utf8EncodeChar char ++ percentDecode (high :: low :: rest)
    else String.utf8EncodeChar char ++ percentDecode (high :: low :: rest)
  | char :: rest => String.utf8EncodeChar char ++ percentDecode rest

/-- The path of a file URI behind its scheme, without the authority. -/
def pathPart : List Char → Except IoError (List Char)
  | '/' :: '/' :: rest =>
    let authority := rest.takeWhile (· != '/')
    if authority.isEmpty || Text.AsciiCase.same (String.ofList authority) "localhost" then
      .ok (rest.dropWhile (· != '/'))
    else .error (.remoteAuthority (String.ofList authority))
  | rest => .ok rest

/-- The source that a location names. -/
def resolve (location : String) : Except IoError Source := do
  match splitScheme? location.toList with
  | none => return ⟨location⟩
  | some (scheme, rest) =>
    if ¬ Text.AsciiCase.same (String.ofList scheme) "file" then
      throw (.unsupportedScheme (String.ofList scheme))
    let path ← pathPart rest
    if path.isEmpty then throw .noPath
    match Text.Utf8.decode (percentDecode path) with
    | .ok path => return ⟨path⟩
    | .error defect => throw (.pathNotUtf8 defect)

end Location

end CredentialWatch
