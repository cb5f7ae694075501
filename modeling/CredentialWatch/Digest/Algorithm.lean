import CredentialWatch.Digest.Md5
import CredentialWatch.Digest.Sha1
import CredentialWatch.Digest.Sha2
import CredentialWatch.Digest.Sha3

/-!
# Digest algorithms

The digests that an archive may name, each with the length of its blocks; codes keyed by a secret
are built on any of them.
-/
namespace CredentialWatch.Digest

inductive Algorithm where
  | md5
  | sha1
  | sha224
  | sha256
  | sha384
  | sha512
  | sha512_224
  | sha512_256
  | sha3_224
  | sha3_256
  | sha3_384
  | sha3_512
  deriving DecidableEq, Repr

namespace Algorithm

/-- The bytes in a block of the message. -/
def blockLength : Algorithm → Nat
  | md5 | sha1 | sha224 | sha256 => 64
  | sha384 | sha512 | sha512_224 | sha512_256 => 128
  | sha3_224 => Sha3.blockLength 28
  | sha3_256 => Sha3.blockLength 32
  | sha3_384 => Sha3.blockLength 48
  | sha3_512 => Sha3.blockLength 64

/-- The bytes in a digest. -/
def length : Algorithm → Nat
  | md5 => 16
  | sha1 => 20
  | sha224 | sha512_224 | sha3_224 => 28
  | sha256 | sha512_256 | sha3_256 => 32
  | sha384 | sha3_384 => 48
  | sha512 | sha3_512 => 64

/-- The digest of a message. -/
def digest : Algorithm → Bytes → Bytes
  | md5 => Digest.md5
  | sha1 => Digest.sha1
  | sha224 => Digest.sha224
  | sha256 => Digest.sha256
  | sha384 => Digest.sha384
  | sha512 => Digest.sha512
  | sha512_224 => Digest.sha512_224
  | sha512_256 => Digest.sha512_256
  | sha3_224 => sha3 28
  | sha3_256 => sha3 32
  | sha3_384 => sha3 48
  | sha3_512 => sha3 64

/-- A key as long as a block: a longer one is digested, and zeros follow it. -/
def keyBlock (algorithm : Algorithm) (key : Bytes) : Bytes :=
  let key := if algorithm.blockLength < key.length then algorithm.digest key else key
  key ++ List.replicate (algorithm.blockLength - key.length) 0

/-- The authentication code of a message under a key. -/
def code (algorithm : Algorithm) (key message : Bytes) : Bytes :=
  let block := algorithm.keyBlock key
  let inner := algorithm.digest (block.map (· ^^^ 0x36) ++ message)
  algorithm.digest (block.map (· ^^^ 0x5c) ++ inner)

end Algorithm

end CredentialWatch.Digest
