import CredentialWatch.Text.AsciiCase

/-!
# Why an archive yields no credentials

Archives are read by a library that reports reasons in words. What they say, in any case of ASCII
letters, decides of which class the error is: an algorithm is not to be had, the bytes or the
password are bad, or the library gives up otherwise.
-/
namespace CredentialWatch

namespace Archive

/-- The reasons that a library gives for a failure. -/
structure Failure where
  reasons : List String
  deriving DecidableEq, Repr

namespace Failure

def malformed : Failure := ⟨["decode error"]⟩

def unavailable : Failure := ⟨["unsupported"]⟩

def refused : Failure := ⟨["not enough data"]⟩

end Failure

/-- Whether a text stands somewhere in another one. -/
def occursIn (marker : List Char) : List Char → Bool
  | [] => marker.isEmpty
  | char :: rest => marker.isPrefixOf (char :: rest) || occursIn marker rest

/-- What reasons say of bytes or a password that are bad. -/
def formatMarkers : List String :=
  ["mac verify", "asn1", "wrong tag", "header too long", "too long", "decode", "nested asn1",
    "bad decrypt", "parse error"]

/-- Whether a reason of a failure says something. -/
def Failure.mentions (failure : Failure) (marker : String) : Bool :=
  failure.reasons.any fun reason => occursIn marker.toList (Text.AsciiCase.fold reason)

end Archive

inductive ArchiveError where
  | passwordNotUtf8
  | keyWithoutCertificate
  | malformed
  | unavailable
  | refused
  deriving DecidableEq, Repr

/-- The class of a failure of the library. -/
def ArchiveError.ofFailure (failure : Archive.Failure) : ArchiveError :=
  if failure.mentions "unsupported" then unavailable
  else if failure.reasons.isEmpty || Archive.formatMarkers.any failure.mentions then malformed
  else refused

end CredentialWatch
