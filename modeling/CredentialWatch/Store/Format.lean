import CredentialWatch.Text.AsciiCase

/-!
# Store formats

The formats a store may be declared as, and their names.
-/
namespace CredentialWatch

inductive StoreFormat where
  | keystore
  | archive
  | pem
  deriving DecidableEq, Repr

namespace StoreFormat

def name : StoreFormat → String
  | keystore => "JKS"
  | archive => "PKCS12"
  | pem => "PEM"

/-- The tag that shows a format among other values. -/
def tag : StoreFormat → String
  | keystore => "Jks"
  | archive => "Pkcs12"
  | pem => "Pem"

/-- Whether a store of this format exists only as a file. -/
def requiresLocation : StoreFormat → Bool
  | keystore => true
  | archive => true
  | pem => false

/-- The name that stands where none is declared. -/
def defaultName : String := "JKS"

/-- The format with a name, in any case of ASCII letters. -/
def ofName? (name : String) : Option StoreFormat :=
  if Text.AsciiCase.same name "JKS" then some keystore
  else if Text.AsciiCase.same name "PKCS12" ∨ Text.AsciiCase.same name "P12" then some archive
  else if Text.AsciiCase.same name "PEM" then some pem
  else none

end StoreFormat

end CredentialWatch
