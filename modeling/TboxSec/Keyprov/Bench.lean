import TboxSec.Keyprov.System

/-!
# A bench daemon

A small platform on which runs of the daemon can be evaluated. Its digest is a polynomial
hash of 32 bytes, its MAC and its cipher tag are digests of the key and the text, its HSM
returns the wrapped bytes as the key and signs by digesting; an HSM call fails exactly when
the environment's seed for it is not empty.

The bench requests are built the way a sender builds them: the additional data and the wire
digest are computed from the request.

* `crypto` and `platform` are the library and the HSM, `daemonD` the deployment on them.
* `calm` is an environment in which nothing fails; `failingSave`, `failingSign`, `dyingSave` and
  `dyingPut` disturb one call each.
* `importOf` is a request for two keys under one id, `startUp` a process that comes up, and
  `committedRun` a run in which an import is committed.
-/

namespace TboxSec.Keyprov.Bench

open Canonical

/-! ### The platform -/

/-- A polynomial hash modulo `2 ^ 256 - 189`. -/
def hashNat (b : Bytes) : ℕ := b.foldl (fun h x => h * 257 + x.toNat + 1) 7 % (2 ^ 256 - 189)

/-- The digest: the 32 bytes of the hash. -/
def sha256 (b : Bytes) : Bytes :=
  let h := hashNat b
  (List.range 32).map fun i => UInt8.ofNat (h >>> (8 * i))

/-- The MAC. -/
def hmacSha256 (key b : Bytes) : Bytes := sha256 (key ++ 0x5c :: b)

/-- The cipher: the plain text and a tag. -/
def gcmSeal (key aad iv plain : Bytes) : Bytes :=
  iv ++ plain ++ (sha256 (key ++ aad ++ iv ++ plain)).take 16

/-- Opening checks the tag. -/
def gcmOpen (key aad enc : Bytes) : Option Bytes :=
  let iv := enc.take 12
  let plain := (enc.drop 12).take (enc.length - 28)
  if gcmSeal key aad iv plain = enc then some plain else none

/-- The cryptographic library of the bench. -/
def crypto : Crypto where
  sha256 := sha256
  sha256_length b := by simp [sha256]
  hmacSha256 := hmacSha256
  hmacSha256_length k b := by simp [hmacSha256, sha256]
  gcmSeal := gcmSeal
  gcmOpen := gcmOpen

/-- Serialized envelope parameters. -/
def serialize (p : EnvelopeParameters) : Bytes :=
  let buf := appendEnumSegment [] p.formatVersion
  let buf := appendLengthPrefixed buf p.serverEphemeralPublicKey
  let buf := appendLengthPrefixed buf p.hkdfSalt
  let buf := appendString buf p.hkdfContextVersion
  let buf := appendLengthPrefixed buf p.nonce
  let buf := appendLengthPrefixed buf p.authenticationTag
  let buf := appendLengthPrefixed buf p.canonicalAad
  let buf := appendLengthPrefixed buf p.aadDigest
  let buf := appendUint64beSegment buf p.rootKeyVersion
  let buf := appendString buf p.derivationVersion
  let buf := appendLengthPrefixed buf p.recipientCertificateDigest
  appendString buf p.operationId

/-- One length-prefixed segment and what follows it. -/
def readSegment : Bytes → Option (Bytes × Bytes)
  | b₃ :: b₂ :: b₁ :: b₀ :: rest =>
    let n := ((b₃.toNat * 256 + b₂.toNat) * 256 + b₁.toNat) * 256 + b₀.toNat
    if n ≤ rest.length then some (rest.take n, rest.drop n) else none
  | _ => none

/-- A big-endian number. -/
def readNat (b : Bytes) : ℕ := b.foldl (fun n x => n * 256 + x.toNat) 0

/-- An ASCII text. -/
def readText (b : Bytes) : String := String.ofList (b.map fun x => Char.ofNat x.toNat)

/-- Parsing of serialized parameters; nothing is left over as an unknown field. -/
def parse (data : Bytes) : Option (EnvelopeParameters × Bool) := do
  let (formatVersion, rest) ← readSegment data
  let (serverEphemeralPublicKey, rest) ← readSegment rest
  let (hkdfSalt, rest) ← readSegment rest
  let (hkdfContextVersion, rest) ← readSegment rest
  let (nonce, rest) ← readSegment rest
  let (authenticationTag, rest) ← readSegment rest
  let (canonicalAad, rest) ← readSegment rest
  let (aadDigest, rest) ← readSegment rest
  let (rootKeyVersion, rest) ← readSegment rest
  let (derivationVersion, rest) ← readSegment rest
  let (recipientCertificateDigest, rest) ← readSegment rest
  let (operationId, rest) ← readSegment rest
  if rest ≠ [] then none
  else
    some
      ({ formatVersion := readNat formatVersion
         serverEphemeralPublicKey, hkdfSalt, hkdfContextVersion := readText hkdfContextVersion
         nonce, authenticationTag, canonicalAad, aadDigest
         rootKeyVersion := readNat rootKeyVersion
         derivationVersion := readText derivationVersion
         recipientCertificateDigest, operationId := readText operationId }, false)

mutual

/-- The JSON writer. It writes the values alone: every object here has fixed keys. -/
def dump : Json → Bytes
  | .str s => 0x22 :: (textBytes s ++ [0x22])
  | .num n => textBytes (toString n)
  | .bool b => textBytes (if b then "true" else "false")
  | .arr l => 0x5b :: dumpList l
  | .obj fields => 0x7b :: dumpFields fields

/-- The elements of an array. -/
def dumpList : List Json → Bytes
  | [] => [0x5d]
  | j :: rest => dump j ++ 0x2c :: dumpList rest

/-- The fields of an object. -/
def dumpFields : List (String × Json) → Bytes
  | [] => [0x7d]
  | (_, j) :: rest => dump j ++ 0x2c :: dumpFields rest

end

/-! ### Requests -/

/-- The certificate digest of the bench device. -/
def certDigest : Bytes := List.replicate 32 0xc3

/-- The bench device. -/
def binding : BusinessKeyDeviceBinding :=
  { ready := true, deviceKeyId := "device", activeCertP256 := true
    activeCertKeyAgreement := true, activeCertDigitalSignature := true
    privateKeyCanDerive := true, privateKeyCanSign := true, activeCertDigest := certDigest
    activeCertValidFromMs := 1, activeCertValidToMs := 1000000
    activeCertCaFalse := true, activeCertEkuClientAuthOnly := true
    activeCertCriticalExtensionsAllowed := true, activeCertLeafDigestBound := true
    activeCertChainKeyMatch := true, identityTemplateSignDerive := true }

/-- A key of the bench: 32 bytes. -/
def keyBytes (b : UInt8) : Bytes := List.replicate 32 b

/-- An item before its envelope is made. -/
def bareItem (purpose keyId : String) (version : ℕ) (key : UInt8) : WrappedKeyItem :=
  { purpose, keyId, businessKeyVersion := version, algorithm := defaultKeyAlgorithm
    wrappedKey := keyBytes key, parameters := [], validFromMs := 1, validToMs := 1000000
    wrappingSuite := wrappingSuiteEcdhEsP256, envelopeFormat := .ecdhEsP256V1
    envelopeDigest := [], keyCheckValue := computeKcv crypto (keyBytes key)
    keyCheckValuePresent := true }

/-- The envelope parameters of an item, before the additional data are filled in. -/
def bareParameters : EnvelopeParameters :=
  { formatVersion := 1, serverEphemeralPublicKey := 0x04 :: List.replicate 64 0x11
    hkdfSalt := List.replicate 32 0x22, hkdfContextVersion := "v1"
    nonce := List.replicate 12 0x33, authenticationTag := List.replicate 16 0x44
    canonicalAad := [], aadDigest := [], rootKeyVersion := 1, derivationVersion := "d1"
    recipientCertificateDigest := certDigest, operationId := "op" }

/-- The envelope parameters a sender computes for an item. -/
def parametersOf (requestId domain : String) (item : WrappedKeyItem) : EnvelopeParameters :=
  let aad := rebuildEnvelopeAad requestId domain item bareParameters
  { bareParameters with canonicalAad := aad, aadDigest := sha256 aad }

/-- An item with its parameters and wire digest. -/
def sealItem (requestId domain : String) (item : WrappedKeyItem) : WrappedKeyItem :=
  let item := { item with parameters := serialize (parametersOf requestId domain item) }
  { item with
    envelopeDigest := buildWireEnvelopeDigestV1 crypto
      (wireDigestInputOf (envelopeContext requestId domain binding item) item) }

/-- The two items of a request, both of one version. -/
def requestItems (requestId domain : String) (version : ℕ) (key : UInt8) : List WrappedKeyItem :=
  [sealItem requestId domain (bareItem purposeUplink (requestId ++ "-up") version key),
   sealItem requestId domain (bareItem purposeDownlink (requestId ++ "-down") version key)]

/-- The platform of the bench. -/
def platform : Platform where
  crypto := crypto
  envelope := { parse, serialize, onCurve := fun _ => true }
  dump := dump
  unwrap req seed := if seed = [] then (.success, req.ciphertext) else (.internalError, [])
  sign key digest seed :=
    if seed = [] then (.success, sha256 (textBytes key ++ digest) ++ sha256 digest)
    else (.internalError, [])

/-- The bench daemon: enabled, every other setting at its default. -/
def daemonD : Deployment where
  platform := platform
  provider :=
    { allowedAlgorithms := [defaultKeyAlgorithm]
      allowedWrappingSuites := [wrappingSuiteEcdhEsP256] }
  service := ServiceConfig.ofConfig { enabled := true }

/-! ### Environments -/

/-- A trusted clock standing at 500 ms. -/
def clock : TrustedTimeSample :=
  { utcNowMs := 500, trustState := .trusted, freshnessAgeMs := 0, uncertaintyMs := 0 }

/-- An environment in which nothing fails. -/
def calm : Oracle where
  save _ := .ok
  put _ := .ok
  now _ := clock
  binding _ := binding
  unwrapSeed _ := []
  signSeed _ := []
  iv _ := some (List.replicate 12 0x55)
  storeOpen := some true
  stateLoads := true
  ledgerReady := true
  ledgerLoads := true
  kek :=
    { random := some ⟨List.replicate 32 0x77, rfl⟩
      opens := true
      written := 32
      crash := false }

/-- An environment in which only the save number `n` of the call fails. -/
def failingSave (n : ℕ) : Oracle := { calm with save := fun k => if k = n then .failed else .ok }

/-- An environment in which every save fails. -/
def failingSaves : Oracle := { calm with save := fun _ => .failed }

/-- An environment in which the process dies at the save number `n` of the call. -/
def dyingSave (n : ℕ) : Oracle := { calm with save := fun k => if k = n then .crash else .ok }

/-- An environment in which only the signatures fail. -/
def failingSign : Oracle := { calm with signSeed := fun _ => [1] }

/-- An environment in which the process dies at the first ledger put of the call. -/
def dyingPut : Oracle := { calm with put := fun _ => .crash }

/-- The legacy import of the bench request `requestId` with keys of one version. -/
def importOf (requestId : String) (version : ℕ) : Call :=
  .importBatch requestId businessDomainV2c (requestItems requestId businessDomainV2c version 0xaa)

/-- A process is started and initialised. -/
def startUp : List Label := [⟨.boot true 9, calm⟩, ⟨.init, calm⟩]

/-- Request A is committed. -/
def committedRun : List Label := startUp ++ [⟨importOf "A" 1, calm⟩]

end TboxSec.Keyprov.Bench
