import CredentialWatch.Asn1.Value
import CredentialWatch.Text.Utf8

/-!
# Text in tagged values

The string types differ in how wide their characters are. A type of single bytes is read as the
first 256 characters; a surrogate is no character, not even as half of a pair.
-/
namespace CredentialWatch.Asn1

/-- The types with one byte for each character. -/
def narrowTags : List Tag :=
  [.numericString, .printableString, .teletexString, .ia5String, .utcTime, .generalizedTime,
    .visibleString]

/-- The text that characters of a width spell, if they all are characters. -/
def fixedWidth? (width : Nat) (content : Bytes) : Option String :=
  String.ofList <$> (content.pieces width).mapM fun piece =>
    let point := Bytes.value piece
    if point.isValidChar then some (Char.ofNat point) else none

/-- The text of a value of a string type. -/
def Value.text? (value : Value) : Option String :=
  if value.tag = .utf8String then Text.Utf8.decode? value.content
  else if value.tag ∈ narrowTags then fixedWidth? 1 value.content
  else if value.tag = .bmpString then fixedWidth? 2 value.content
  else if value.tag = .universalString then fixedWidth? 4 value.content
  else none

end CredentialWatch.Asn1
