import CredentialWatch.Configuration.Basic

/-!
# What configurations are hashed by

A hasher is fed with bytes and words. A path feeds it with its chunks, cut at slashes in one pass
over the text: no chunk is empty, and a dot behind a slash is not one. A last word is mixed from the
lengths of the chunks, so that cutting the same bytes elsewhere feeds other data.
-/
namespace CredentialWatch

/-- One call of a hasher. -/
inductive Hashed where
  | bytes (content : Bytes)
  | byte (value : UInt8)
  | word (value : BitVec 64)
  deriving DecidableEq, Repr

namespace Path

/-- A chunk of the characters that were gathered, last one first, if there are any. -/
def chunk? (gathered : List Char) : Option String :=
  if gathered.isEmpty then none else some (String.ofList gathered.reverse)

/-- The chunks of a text of which some characters are already gathered. Directly behind a slash, a
dot is passed over if it is followed by another slash or by nothing. -/
def chunksFrom : Bool → List Char → List Char → List String
  | _, gathered, [] => (chunk? gathered).toList
  | behind, gathered, char :: rest =>
    if char = '/' then (chunk? gathered).toList ++ chunksFrom true [] rest
    else if behind ∧ char = '.' ∧ (rest = [] ∨ rest.head? = some '/') then
      chunksFrom false [] rest
    else chunksFrom false (char :: gathered) rest

def chunks (path : String) : List String :=
  chunksFrom false [] path.toList

/-- The word that the lengths of chunks are mixed to. -/
def mixedLengths (chunks : List Bytes) : BitVec 64 :=
  chunks.foldl (fun word chunk => (word + BitVec.ofNat 64 chunk.length).rotateRight 2) 0

def hashed (path : String) : List Hashed :=
  let chunks := (chunks path).map Text.Utf8.encode
  chunks.map Hashed.bytes ++ [.word (mixedLengths chunks)]

end Path

namespace StoreConfiguration

/-- What a configuration feeds to a hasher: the number of its role, its source behind a word that
says whether there is one, its type with an end mark, and the address of its provider. -/
def hashed (configuration : StoreConfiguration) : List Hashed :=
  let role : BitVec 64 := match configuration.role with
    | .keyStore => 0
    | .trustStore => 1
  let source := match configuration.source? with
    | none => [Hashed.word 0]
    | some source => .word 1 :: Path.hashed source.path
  [.word role] ++ source ++ [.bytes (Text.Utf8.encode configuration.storeType), .byte 0xFF] ++
    [.word (BitVec.ofNat 64 configuration.provider.identity)]

end StoreConfiguration

end CredentialWatch
