import Mathlib.Data.List.Basic

/-!
# Byte strings and the cryptographic library

`Bytes` is `std::vector<uint8_t>`. `Crypto` is what the code takes from OpenSSL, as a
parameter of the whole model: the digest, the MAC and the authenticated cipher. Its only
laws are the output lengths: SHA-256 and HMAC-SHA-256 return 32 bytes. No collision freeness,
no unforgeability and no inverse of the cipher is built in; a result that needs one of them
says so.

`hkdfSha256` is HKDF over this MAC, written out in blocks as the code calls it, and not a further
parameter: what it gives for two infos depends on the MAC alone.
-/

namespace TboxSec

/-- A byte string, `std::vector<uint8_t>`. -/
abbrev Bytes := List UInt8

instance : LawfulBEq Bytes := inferInstance

/-- The bytes of a text. -/
def textBytes (s : String) : Bytes := s.toUTF8.data.toList

/-- The cryptographic library. -/
structure Crypto where
  /-- SHA-256. -/
  sha256 : Bytes → Bytes
  sha256_length : ∀ b, (sha256 b).length = 32
  /-- HMAC-SHA-256, key first. -/
  hmacSha256 : Bytes → Bytes → Bytes
  hmacSha256_length : ∀ k b, (hmacSha256 k b).length = 32
  /-- AES-256-GCM with a given IV: `iv || ciphertext || tag`. -/
  gcmSeal : (key aad iv plain : Bytes) → Bytes
  /-- AES-256-GCM opening; `none` when the tag does not verify. -/
  gcmOpen : (key aad sealed : Bytes) → Option Bytes

/-! ### HKDF-SHA-256 -/

namespace Crypto

variable (X : Crypto)

/-- The expansion loop of `hkdf_sha256`: `n` more blocks after the block `t`, the next one
with counter byte `counter`. -/
def hkdfBlocks (prk info : Bytes) : ℕ → UInt8 → Bytes → Bytes
  | 0, _, _ => []
  | n + 1, counter, t =>
    let block := X.hmacSha256 prk (t ++ info ++ [counter])
    block ++ hkdfBlocks prk info n (counter + 1) block

/-- `hkdf_sha256`: an empty salt stands for 32 zero bytes; the blocks are 32 bytes long and
the last one is cut to the requested length. -/
def hkdfSha256 (ikm salt info : Bytes) (outLen : ℕ) : Bytes :=
  let prk := X.hmacSha256 (if salt.isEmpty then List.replicate 32 0 else salt) ikm
  (X.hkdfBlocks prk info ((outLen + 31) / 32) 1 []).take outLen

end Crypto

end TboxSec
