import TboxSec.Hsm.Curve
import TboxSec.Keyprov.World
import TboxSec.Lib.JsonText

/-!
# The SoftFile HSM

`SoftFileHsm`: device keys in two store records each, the private key encrypted under a
key-encryption key that is a file of its own, with a cache of the keys in memory.

* **Two records**: `save_key_to_store` writes the encrypted private key first and the metadata
  last, as the commit marker; `delete_key` removes them in the same order.
* **Existence** is decided by the cache or the metadata record alone.
* A program runs on a `World` and may be cut short at any change of the store, leaving the
  `Disk` alone. One change of the store is all-or-nothing.
-/

namespace TboxSec.Hsm

open Canonical Crash
open Keyprov (Key256 KekAnswer)

/-! ### Data -/

/-- `KeyData`. The creation time is in nanoseconds. -/
structure KeyData where
  pub : Bytes
  priv : Bytes
  algorithm : String
  createdAt : ℤ
  deriving DecidableEq

/-- `KeyStorageMode`. -/
inductive KeyStorageMode where
  | hsm | softFile
  deriving DecidableEq

/-- `KeyPair`. -/
structure KeyPair where
  keyId : String := ""
  algorithm : String := ""
  publicKey : Bytes := []
  privateKeyExists : Bool := false
  storageMode : KeyStorageMode := .hsm
  exportable : Bool := false
  createdAt : ℤ := 0
  deriving DecidableEq

/-- What outlives the process: the store and the file of the key-encryption key. -/
structure Disk where
  store : String → Option String
  kek : Option Bytes

/-- The fields of the HSM, and whether the engine over it is initialized. -/
structure Memory where
  encryptionKey : Bytes
  keys : String → Option KeyData
  initialized : Bool

/-- A process that has just started. -/
def Memory.fresh : Memory := ⟨[], fun _ => none, false⟩

/-- The machine. `writes` counts the changes of the store asked for in this call. -/
structure World where
  disk : Disk
  mem : Memory
  writes : ℕ

/-- How the store answers one change. A crash comes before the change takes effect; a crash
after the last change is a restart after the call. -/
inductive WriteAnswer where
  | ok | failed | crash
  deriving DecidableEq

/-- What the environment answers during one call. -/
structure Oracle where
  /-- The changes of the store, in order. -/
  write : ℕ → WriteAnswer
  /-- Reading the store does not throw. -/
  reads : Bool
  kek : KekAnswer
  /-- The IV of an encryption; `none` when `RAND_bytes` fails. -/
  iv : Option {b : Bytes // b.length = 12}
  /-- The private number of a generated key; `none` when the generation fails. -/
  scalar : Option ℕ
  /-- The clock, in nanoseconds. -/
  now : ℤ
  /-- What decides a signature, besides key and digest. -/
  entropy : Bytes

/-- The code outside the repository that the HSM calls. -/
structure Library where
  crypto : Crypto
  curve : Curve
  /-- `json::dump` and `json::parse`. -/
  json : JsonText String
  /-- `ECDSA_sign` with a private number, a digest and the random choice. -/
  ecdsaSign : ℕ → Bytes → Bytes → Option Bytes

/-- A program of the HSM. -/
abbrev HsmM := Prog World Disk

/-! ### Texts -/

/-- The value of a hex digit of either case. -/
def nibble (c : Char) : Option ℕ :=
  if '0' ≤ c ∧ c ≤ '9' then some (c.toNat - '0'.toNat)
  else if 'a' ≤ c ∧ c ≤ 'f' then some (c.toNat - 'a'.toNat + 10)
  else if 'A' ≤ c ∧ c ≤ 'F' then some (c.toNat - 'A'.toNat + 10)
  else none

/-- The value of the first characters of a text that `std::stoul` reads to the base 16, for the
texts of at most two characters it is given; `none` when it throws. -/
def stoulHex : List Char → Option ℕ
  | [] => none
  | [c] => nibble c
  | c :: d :: _ =>
    match nibble c, nibble d with
    | some hi, some lo => some (hi * 16 + lo)
    | some hi, none => some hi
    | none, some lo =>
      if c = '+' ∨ c = ' ' ∨ c = '\t' ∨ c = '\n' ∨ c = '\x0b' ∨ c = '\x0c' ∨ c = '\r' then some lo
      else if c = '-' then some (2 ^ 64 - lo)
      else none
    | none, none => none

/-- The loop of `hex_to_bytes`. -/
def hexLoop : List Char → Option Bytes
  | [] => some []
  | [c] => do
    let n ← stoulHex [c]
    return [UInt8.ofNat n]
  | c :: d :: rest => do
    let n ← stoulHex [c, d]
    let bs ← hexLoop rest
    return UInt8.ofNat n :: bs

/-- `hex_to_bytes`; `none` when it throws. -/
def hexToBytes (hex : String) : Option Bytes := hexLoop hex.toList

/-- `is_valid_key_id`. -/
def isValidKeyId (keyId : String) : Bool :=
  let l := keyId.toList
  !(l.zip l.tail).contains ('.', '.') && !l.contains '/' && !l.contains '\\'

/-- The record of an encrypted private key. -/
def privateRecord (keyId : String) : String := "encrypted_private_key_" ++ keyId

/-- The record of the metadata. -/
def metadataRecord (keyId : String) : String := "key_metadata_" ++ keyId

/-! ### Encryption of private keys -/

section Encryption

variable (L : Library)

/-- `encrypt_private_key`. -/
def encryptPrivateKey (ω : Oracle) (encryptionKey plainKey : Bytes) : Except ErrorCode Bytes :=
  if encryptionKey.length ≠ 32 then .error .internalError
  else
    match ω.iv with
    | none => .error .internalError
    | some iv => .ok (L.crypto.gcmSeal encryptionKey [] iv.val plainKey)

/-- `decrypt_private_key`. -/
def decryptPrivateKey (encryptionKey encryptedKey : Bytes) : Except ErrorCode Bytes :=
  if encryptionKey.length ≠ 32 then .error .internalError
  else if encryptedKey.length < 28 then .error .storageCorruption
  else
    match L.crypto.gcmOpen encryptionKey [] encryptedKey with
    | none => .error .storageCorruption
    | some plain => .ok plain

end Encryption

/-! ### The store -/

section Store

variable (L : Library) (ω : Oracle)

/-- A change of the store; `false` when the store throws. -/
def change (f : (String → Option String) → String → Option String) : HsmM Bool := fun w =>
  match ω.write w.writes with
  | .ok => .done true { w with disk.store := f w.disk.store, writes := w.writes + 1 }
  | .failed => .done false { w with writes := w.writes + 1 }
  | .crash => .crashed w.disk

/-- `store_.save`. -/
def storeSave (key text : String) : HsmM Bool :=
  change ω fun store => Function.update store key (some text)

/-- `store_.remove`. -/
def storeRemove (key : String) : HsmM Bool :=
  change ω fun store => Function.update store key none

/-- The metadata document of a key. -/
def metadataJson (keyId : String) (kd : KeyData) : Json String :=
  .obj
    [("algorithm", .str kd.algorithm), ("created_at", .int (kd.createdAt.tdiv 1000000000)),
     ("key_id", .str keyId), ("public_key", .str (toHex kd.pub))]

/-- `save_key_to_store`: the encrypted private key first, the metadata last. -/
def saveKeyToStore (keyId : String) (kd : KeyData) : HsmM ErrorCode := do
  let key ← Prog.gets (·.mem.encryptionKey)
  match encryptPrivateKey L ω key kd.priv with
  | .error rc => pure rc
  | .ok encrypted =>
    if !(← storeSave ω (privateRecord keyId) (toHex encrypted)) then pure .storageWriteFailed
    else if !(← storeSave ω (metadataRecord keyId) (L.json.dump (metadataJson keyId kd))) then
      pure .storageWriteFailed
    else pure .success

/-- `metadata.at(k).get<std::string>()`. -/
def textAt (k : String) (j : Json String) : Option String := do
  let v ← j.field? k
  v.text

/-- `load_key_from_store`, on the content of the store. -/
def loadKeyFromStore (encryptionKey : Bytes) (store : String → Option String)
    (keyId : String) : Except ErrorCode KeyData :=
  if !ω.reads then .error .storageReadFailed
  else
    match store (metadataRecord keyId) with
    | none => .error .keyNotFound
    | some text =>
      match L.json.parse text with
      | none => .error .storageCorruption
      | some metadata =>
        match textAt "algorithm" metadata, (textAt "public_key" metadata).bind hexToBytes with
        | some algorithm, some pub =>
          match store (privateRecord keyId) with
          | none => .error .keyNotFound
          | some hex =>
            match hexToBytes hex with
            | none => .error .storageCorruption
            | some encrypted =>
              match decryptPrivateKey L encryptionKey encrypted with
              | .error rc => .error rc
              | .ok priv =>
                match (metadata.field? "created_at").bind Json.number with
                | none => .error .storageCorruption
                | some seconds => .ok ⟨pub, priv, algorithm, seconds * 1000000000⟩
        | _, _ => .error .storageCorruption

/-- The search of `keys_` at the start of every use of a key: a key that is not cached is
loaded and cached. -/
def fetchKey (keyId : String) : HsmM (Except ErrorCode KeyData) := do
  let mem ← Prog.gets (·.mem)
  match mem.keys keyId with
  | some kd => pure (.ok kd)
  | none =>
    let store ← Prog.gets (·.disk.store)
    match loadKeyFromStore L ω mem.encryptionKey store keyId with
    | .error rc => pure (.error rc)
    | .ok kd =>
      Prog.modify fun w => { w with mem.keys := Function.update w.mem.keys keyId (some kd) }
      pure (.ok kd)

/-! ### The key-encryption key -/

/-- `generate_encryption_key`: whether the bytes reach the file is not checked. -/
def generateEncryptionKey : HsmM ErrorCode := fun w =>
  match ω.kek.random with
  | none =>
    .done .internalError
      { w with mem.encryptionKey := (w.mem.encryptionKey ++ List.replicate 32 0).take 32 }
  | some key =>
    if !ω.kek.opens then .done .storageWriteFailed { w with mem.encryptionKey := key.val }
    else
      let disk : Disk := { w.disk with kek := some (key.val.take ω.kek.written) }
      if ω.kek.crash then .crashed disk
      else .done .success { w with mem.encryptionKey := key.val, disk }

/-- `load_encryption_key`, on the content of the file. -/
def loadEncryptionKey (file : Bytes) : HsmM ErrorCode := fun w =>
  if !ω.kek.opens then .done .storageReadFailed w
  else if file.length < 32 then .done .storageCorruption { w with mem.encryptionKey := [] }
  else .done .success { w with mem.encryptionKey := file.take 32 }

/-- `SoftFileHsm::initialize`. -/
def hsmInitialize : HsmM ErrorCode := do
  match ← Prog.gets (·.disk.kek) with
  | some file => loadEncryptionKey ω file
  | none => generateEncryptionKey ω

/-! ### Keys -/

/-- The key data of a generated key. -/
def generatedKey (C : Curve) (algorithm : String) (now : ℤ) (scalar : ℕ) : KeyData :=
  ⟨C.point2oct (scalar • C.base), bn2bin scalar, algorithm, now⟩

/-- `generate_key_pair`. -/
def generateKeyPair (keyId algorithm : String) : HsmM (ErrorCode × KeyPair) := do
  let mem ← Prog.gets (·.mem)
  if !isValidKeyId keyId then pure (.invalidParameter, {})
  else if (mem.keys keyId).isSome then pure (.keyAlreadyExists, {})
  else
    match ω.scalar with
    | none => pure (.keyGenerationFailed, {})
    | some scalar =>
      let kd := generatedKey L.curve algorithm ω.now scalar
      let rc ← saveKeyToStore L ω keyId kd
      if rc ≠ .success then pure (rc, {})
      else
        Prog.modify fun w => { w with mem.keys := Function.update w.mem.keys keyId (some kd) }
        pure (.success,
          { keyId, algorithm, publicKey := kd.pub, privateKeyExists := true
            storageMode := .softFile, createdAt := kd.createdAt })

/-- `sign`. -/
def sign (keyId : String) (data : Bytes) : HsmM (ErrorCode × Bytes) := do
  if !isValidKeyId keyId then pure (.invalidParameter, [])
  else
    match ← fetchKey L ω keyId with
    | .error rc => pure (rc, [])
    | .ok kd =>
      match L.curve.oct2point kd.pub with
      | none => pure (.hsmKeyGenerationFailed, [])
      | some _ =>
        match L.ecdsaSign (bin2bn kd.priv) (L.crypto.sha256 data) ω.entropy with
        | none => pure (.hsmSignFailed, [])
        | some signature => pure (.success, signature)

/-- `export_public_key`. -/
def exportPublicKey (keyId : String) : HsmM (ErrorCode × Bytes) := do
  if !isValidKeyId keyId then pure (.invalidParameter, [])
  else
    match ← fetchKey L ω keyId with
    | .error rc => pure (rc, [])
    | .ok kd => pure (.success, kd.pub)

/-- `key_exists`: the cache or the metadata record. -/
def keyExists (w : World) (keyId : String) : Bool :=
  isValidKeyId keyId &&
    ((w.mem.keys keyId).isSome || (ω.reads && (w.disk.store (metadataRecord keyId)).isSome))

/-- `delete_key`: the private key first, the metadata last. -/
def deleteKey (keyId : String) : HsmM ErrorCode := do
  if !isValidKeyId keyId then pure .invalidParameter
  else
    Prog.modify fun w => { w with mem.keys := Function.update w.mem.keys keyId none }
    if !(← storeRemove ω (privateRecord keyId)) then pure .storageWriteFailed
    else if !(← storeRemove ω (metadataRecord keyId)) then pure .storageWriteFailed
    else pure .success

/-- What `unwrap_ecdh_es_v1` is called with. -/
structure UnwrapArgs where
  recipientKeyId : String
  serverEphemeralPublicKey : Bytes
  hkdfSalt : Bytes
  hkdfInfo : Bytes
  nonce : Bytes
  ciphertext : Bytes
  authenticationTag : Bytes
  aad : Bytes

/-- The agreement, derivation and decryption of `unwrap_ecdh_es_v1` with a loaded key. -/
def unwrapWith (kd : KeyData) (a : UnwrapArgs) : ErrorCode × Bytes :=
  match L.curve.oct2point kd.pub, L.curve.oct2point a.serverEphemeralPublicKey with
  | some _, some eph =>
    if eph = 0 then (.wrappedKeyInvalid, [])
    else
      match L.curve.ecdhComputeKey (bin2bn kd.priv) eph with
      | none => (.wrappedKeyInvalid, [])
      | some shared =>
        let kek := L.crypto.hkdfSha256 shared a.hkdfSalt a.hkdfInfo 32
        match L.crypto.gcmOpen kek a.aad (a.nonce ++ a.ciphertext ++ a.authenticationTag) with
        | none => (.wrappedKeyInvalid, [])
        | some plaintext => (.success, plaintext)
  | _, _ => (.wrappedKeyInvalid, [])

/-- `unwrap_ecdh_es_v1`. -/
def unwrapEcdhEsV1 (a : UnwrapArgs) : HsmM (ErrorCode × Bytes) := do
  if !isValidKeyId a.recipientKeyId then pure (.invalidParameter, [])
  else if a.serverEphemeralPublicKey.length ≠ 65 ∨ a.nonce.length ≠ 12 ∨
      a.authenticationTag.length ≠ 16 ∨ a.hkdfSalt.length ≠ 32 then
    pure (.wrappedKeyInvalid, [])
  else
    match ← fetchKey L ω a.recipientKeyId with
    | .error rc => pure (rc, [])
    | .ok kd => pure (unwrapWith L kd a)

end Store

end TboxSec.Hsm
