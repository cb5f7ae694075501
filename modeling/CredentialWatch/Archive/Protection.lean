import CredentialWatch.Archive.Derivation
import CredentialWatch.Archive.Layout
import CredentialWatch.Cipher.Chain

/-!
# Protection by a password

An encrypted safe or key names a scheme. The older schemes derive the key and the starting block in
the archive's own way; the general scheme names a derivation and a cipher of its own. What is wrong
is told by where it is found: parameters that cannot be read are malformed, an algorithm that is
named but not to be had is unavailable, and a scheme that is not known at all is refused.
-/
namespace CredentialWatch.Archive

open Asn1 (AlgorithmIdentifier Fields ObjectIdentifier Reader Value)

/-- How a password protects bytes; a cipher may be known by name only. -/
inductive Scheme where
  | own (cipher? : Option Cipher)
  | simple
  | general
  deriving DecidableEq, Repr

namespace Scheme

/-- The older schemes, in the order of their numbers, with the ciphers that can be used. -/
def ownCiphers : List (Nat × Option Cipher) :=
  [(1, none), (2, none), (3, some .tripleDes), (4, some .tripleDesTwoKeys), (5, none), (6, none)]

/-- The schemes before those, none of which can be used. -/
def simpleNumbers : List Nat := [1, 3, 4, 6, 10, 11]

def ofIdentifier? (identifier : ObjectIdentifier) : Option Scheme :=
  match identifier.path with
  | [1, 2, 840, 113549, 1, 12, 1, number] => (ownCiphers.lookup number).map own
  | [1, 2, 840, 113549, 1, 5, number] =>
    if number = 13 then some general
    else if number ∈ simpleNumbers then some simple
    else none
  | _ => none

end Scheme

/-- The parameter of an algorithm, which must be a sequence that a reader can read. -/
def parameterOf {α : Type} (reader : Reader α) (parameter? : Option Value) :
    Except Failure α :=
  match parameter? with
  | some parameter =>
    if parameter.tag = .sequence then (reader.runOn parameter.encoding).mapError fun _ => .malformed
    else .error .malformed
  | none => .error .malformed

/-- A salt and a number of turns. -/
def saltAndTurns : Reader (Bytes × Int) :=
  .sequence do
    let salt ← Fields.required .octetString
    let turns ← Fields.required .integer
    return (salt, turns)

/-- What the general derivation is used with. -/
structure Stretching where
  salt : Value
  turns : Int
  length? : Option Int
  code? : Option AlgorithmIdentifier
  deriving DecidableEq, Repr

namespace Stretching

/-- The general derivation. -/
def identifier : ObjectIdentifier := ⟨[1, 2, 840, 113549, 1, 5, 12]⟩

def reader : Reader Stretching :=
  .sequence do
    let salt ← Fields.required .value
    let turns ← Fields.required .integer
    let length? ← Fields.optional .integer .integer
    let code? ← Fields.last .algorithmIdentifier
    return ⟨salt, turns, length?, code?⟩

/-- The authentication codes, by the last number of their path. -/
def codes : List (Nat × Digest.Algorithm) :=
  [(6, .md5), (7, .sha1), (8, .sha224), (9, .sha256), (10, .sha384), (11, .sha512),
    (12, .sha512_224), (13, .sha512_256)]

/-- The digest that an authentication code is built on. -/
def digestOf? (identifier : ObjectIdentifier) : Option Digest.Algorithm :=
  match identifier.path with
  | [1, 2, 840, 113549, 2, number] => codes.lookup number
  | [1, 3, 6, 1, 5, 5, 8, 1, 1] => some .md5
  | [1, 3, 6, 1, 5, 5, 8, 1, 2] => some .sha1
  | _ => none

/-- The digest of a derivation; unless it names one, SHA-1. -/
def digest? (stretching : Stretching) : Option Digest.Algorithm :=
  match stretching.code? with
  | none => some .sha1
  | some code => digestOf? code.algorithm

/-- The key of a length that the derivation makes of a password. -/
def key (stretching : Stretching) (password : Passphrase) (length : Nat) :
    Except Failure Bytes := do
  if stretching.length?.any fun declared => turnCount declared ≠ length then throw .unavailable
  let some digest := stretching.digest? | throw .unavailable
  if stretching.salt.tag ≠ .octetString then throw .unavailable
  let turns ← turnsOf stretching.turns
  if turns = 0 then throw .malformed
  return stretched digest password.narrow stretching.salt.content turns length

end Stretching

/-- The ciphers of the general scheme. -/
def cipherOf? (identifier : ObjectIdentifier) : Option Cipher :=
  match identifier.path with
  | [2, 16, 840, 1, 101, 3, 4, 1, 2] => some .aes128
  | [2, 16, 840, 1, 101, 3, 4, 1, 22] => some .aes192
  | [2, 16, 840, 1, 101, 3, 4, 1, 42] => some .aes256
  | [1, 2, 840, 113549, 3, 7] => some .tripleDes
  | _ => none

/-- The starting block that a cipher's parameter gives; without one it is zero. -/
def startOf (cipher : Cipher) (parameter? : Option Value) : Except Failure Bytes :=
  match parameter? with
  | none => .ok (List.replicate cipher.blockLength 0)
  | some parameter =>
    if parameter.tag = .octetString ∧ parameter.content.length = cipher.blockLength then
      .ok parameter.content
    else .error .refused

/-- The derivation and the cipher of the general scheme. -/
def generalParameters : Reader (AlgorithmIdentifier × AlgorithmIdentifier) :=
  .sequence do
    let derivation ← Fields.required .algorithmIdentifier
    let cipher ← Fields.required .algorithmIdentifier
    return (derivation, cipher)

namespace Encrypted

/-- The message that a cipher gives, which is malformed under the wrong key. -/
def decryptWith (encrypted : Encrypted) (cipher : Cipher) (key start : Bytes) :
    Except Failure Bytes :=
  match cipher.decrypt? key start encrypted.bytes with
  | some message => .ok message
  | none => .error .malformed

/-- The message under one of the older schemes. -/
def decryptOwn (encrypted : Encrypted) (cipher? : Option Cipher) (password : Passphrase) :
    Except Failure Bytes := do
  let (salt, turns) ← parameterOf saltAndTurns encrypted.algorithm.parameter?
  let turns ← turnsOf turns
  let some cipher := cipher? | throw .unavailable
  let material (purpose : Purpose) (length : Nat) : Bytes :=
    derived .sha1 purpose password.wide salt turns length
  encrypted.decryptWith cipher (material .key cipher.keyLength)
    (material .start cipher.blockLength)

/-- The message under the general scheme. -/
def decryptGeneral (encrypted : Encrypted) (password : Passphrase) : Except Failure Bytes := do
  let (derivation, named) ← parameterOf generalParameters encrypted.algorithm.parameter?
  if derivation.algorithm ≠ Stretching.identifier then throw .unavailable
  let some cipher := cipherOf? named.algorithm | throw .unavailable
  let start ← startOf cipher named.parameter?
  let stretching ← parameterOf Stretching.reader derivation.parameter?
  let key ← stretching.key password cipher.keyLength
  encrypted.decryptWith cipher key start

/-- The message that a password protects. -/
def decrypt (encrypted : Encrypted) (password : Passphrase) : Except Failure Bytes :=
  match Scheme.ofIdentifier? encrypted.algorithm.algorithm with
  | none => .error .refused
  | some (.own cipher?) => encrypted.decryptOwn cipher? password
  | some .simple => do
    let _ ← parameterOf saltAndTurns encrypted.algorithm.parameter?
    throw .unavailable
  | some .general => encrypted.decryptGeneral password

end Encrypted

end CredentialWatch.Archive
