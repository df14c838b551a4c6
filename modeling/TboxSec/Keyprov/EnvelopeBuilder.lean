import TboxSec.Hsm.SoftFile
import TboxSec.Keyprov.Pipeline

/-!
# The envelope builder and the SoftFile HSM as its counterpart

`buildEcdhEsP256EnvelopeV1` wraps a business key for a device: an ephemeral key agreement,
HKDF, AES-256-GCM, the parameters as a protobuf message, and the digests over them.
`softFileUnwrap` is the HSM of the daemon in a given state, seen as the platform call that
unwraps.

The choices that are random when the caller leaves them open are an argument.

* `KeyprovEnvelopeInput` and `KeyprovEnvelopeOutput` are the builder's two sides, and
  `builderChecks` what it refuses.
* `builderAad`, `builderInfo` and `builderMessage` are the texts that it computes.
* `builtItem` is the item that a sender makes of the output, and `unwrapArgs` what the pipeline
  makes of that item when it calls the HSM.

That the two sides agree is proved in `Keyprov.WrapUnwrap`.
-/

namespace TboxSec.Keyprov

open Canonical Hsm

/-! ### The builder -/

/-- `KeyprovEnvelopeInput`. -/
structure KeyprovEnvelopeInput where
  devicePublicKey : Bytes
  requestId : String
  businessDomain : String := "V2C_COMM"
  purpose : String
  keyId : String
  businessKeyVersion : ℕ := 0
  businessKey : Bytes
  rootKeyVersion : ℕ := 1
  derivationVersion : String := "v1"
  operationId : String
  recipientCertificateDigest : Bytes
  wrappingSuite : String := "ECDH_ES_P256_HKDF_SHA256_AES256GCM"
  keyAlgorithm : String := "AES-256"
  hkdfContextVersion : String := "v1"
  serverEphemeralPrivateKey : Bytes := []
  hkdfSalt : Bytes := []
  nonce : Bytes := []

/-- `KeyprovEnvelopeOutput`. -/
structure KeyprovEnvelopeOutput where
  wrappedKey : Bytes
  parameters : Bytes
  envelopeDigest : Bytes
  keyCheckValue : Kcv
  canonicalAad : Bytes
  aadDigest : Bytes
  serverEphemeralPublicKey : Bytes
  hkdfInfo : Bytes
  ecdhSharedSecret : Bytes
  kek : Bytes
  proofInput : Bytes
  authenticationTag : Bytes

/-- What `RAND_bytes` returns for the choices left open; `none` when it fails. -/
structure EnvelopeRandom where
  ephemeral : Option {b : Bytes // b.length = 32}
  salt : Option {b : Bytes // b.length = 32}
  nonce : Option {b : Bytes // b.length = 12}

/-- A choice of the caller, or a random one when the caller leaves it open. -/
def chosen {n : ℕ} (given : Bytes) (random : Option {b : Bytes // b.length = n}) :
    Except ErrorCode Bytes :=
  if given.isEmpty then
    match random with
    | none => .error .internalError
    | some b => .ok b.val
  else if given.length ≠ n then .error .invalidParameter
  else .ok given

/-- `derive_public_key`. -/
def derivePublicKey (C : Curve) (priv : Bytes) : Option Bytes :=
  let pub := C.point2oct (bin2bn priv • C.base)
  if pub.length = 65 then some pub else none

/-- `ecdh_shared`. -/
def ecdhShared (C : Curve) (priv peerPub : Bytes) : Option Bytes :=
  match C.oct2point peerPub with
  | none => none
  | some peer => C.ecdhComputeKey (bin2bn priv) peer

/-- `aes_gcm_encrypt`: the ciphertext and the tag apart. -/
def aesGcmEncrypt (X : Crypto) (key nonce aad plain : Bytes) : Option (Bytes × Bytes) :=
  if key.length ≠ 32 ∨ nonce.length ≠ 12 then none
  else
    let sealed := X.gcmSeal key aad nonce plain
    some ((sealed.drop 12).take (sealed.length - 28), sealed.drop (sealed.length - 16))

/-- The checks of the builder on its input. -/
def builderChecks (L : EnvelopeLib) (i : KeyprovEnvelopeInput) : List (Bool × ErrorCode) :=
  [(!isValidP256UncompressedPoint L i.devicePublicKey, .invalidParameter),
   (i.requestId == "" || i.keyId == "" || i.businessDomain == "" || i.purpose == "",
     .invalidParameter),
   (i.businessKey.length != 32, .invalidParameter),
   (i.recipientCertificateDigest.length != 32, .invalidParameter),
   (i.businessKeyVersion == 0, .invalidParameter),
   (i.wrappingSuite != wrappingSuiteEcdhEsP256, .businessKeyUnsupported),
   (i.keyAlgorithm != defaultKeyAlgorithm, .businessKeyUnsupported),
   ((wrappingSuiteEnumValue i.wrappingSuite).isNone, .businessKeyUnsupported),
   ((purposeEnumValue i.purpose).isNone, .businessKeyUnsupported)]

/-- The additional data of the builder. -/
def builderAad (i : KeyprovEnvelopeInput) : Bytes :=
  buildParProtoAadV1
    { envelopeFormat := KeyEnvelopeFormat.value .ecdhEsP256V1
      wrappingSuite := (wrappingSuiteEnumValue i.wrappingSuite).getD 0
      requestId := i.requestId
      businessDomain := i.businessDomain
      purpose := (purposeEnumValue i.purpose).getD 0
      keyId := i.keyId
      businessKeyVersion := i.businessKeyVersion
      rootKeyVersion := i.rootKeyVersion
      derivationVersion := i.derivationVersion
      recipientCertificateDigest := i.recipientCertificateDigest }

/-- The HKDF info of the builder. -/
def builderInfo (i : KeyprovEnvelopeInput) : Bytes :=
  textBytes (buildHkdfInfoV1 i.requestId i.businessDomain i.purpose i.keyId
    i.businessKeyVersion (toHex i.recipientCertificateDigest))

/-- The parameters message of the builder. -/
def builderMessage (X : Crypto) (i : KeyprovEnvelopeInput) (ephPub salt nonce tag : Bytes) :
    EnvelopeParameters :=
  { formatVersion := 1
    serverEphemeralPublicKey := ephPub
    hkdfSalt := salt
    hkdfContextVersion := i.hkdfContextVersion
    nonce
    authenticationTag := tag
    canonicalAad := builderAad i
    aadDigest := X.sha256 (builderAad i)
    rootKeyVersion := i.rootKeyVersion
    derivationVersion := i.derivationVersion
    recipientCertificateDigest := i.recipientCertificateDigest
    operationId := i.operationId }

/-- The digests and the output of the builder, once the key is wrapped. -/
def builderOutput (X : Crypto) (L : EnvelopeLib) (i : KeyprovEnvelopeInput)
    (ephPub salt nonce shared ciphertext tag : Bytes) : KeyprovEnvelopeOutput :=
  let parameters := L.serialize (builderMessage X i ephPub salt nonce tag)
  let envelopeDigest := buildWireEnvelopeDigestV1 X
    { envelopeFormat := KeyEnvelopeFormat.value .ecdhEsP256V1
      requestId := i.requestId
      businessDomain := i.businessDomain
      purpose := (purposeEnumValue i.purpose).getD 0
      keyId := i.keyId
      businessKeyVersion := i.businessKeyVersion
      wrappingSuite := (wrappingSuiteEnumValue i.wrappingSuite).getD 0
      wrappedKey := ciphertext
      parameters }
  let keyCheckValue := computeKcv X i.businessKey
  { wrappedKey := ciphertext
    parameters
    envelopeDigest
    keyCheckValue
    canonicalAad := builderAad i
    aadDigest := X.sha256 (builderAad i)
    serverEphemeralPublicKey := ephPub
    hkdfInfo := builderInfo i
    ecdhSharedSecret := shared
    kek := X.hkdfSha256 shared salt (builderInfo i) 32
    proofInput := buildProofInput X
      { requestId := i.requestId
        businessDomain := i.businessDomain
        purpose := (purposeEnumValue i.purpose).getD 0
        keyId := i.keyId
        businessKeyVersion := i.businessKeyVersion
        envelopeDigest
        keyCheckValue := keyCheckValue.toBytes }
    authenticationTag := tag }

/-- `buildEcdhEsP256EnvelopeV1`. -/
def buildEcdhEsP256EnvelopeV1 (X : Crypto) (C : Curve) (L : EnvelopeLib)
    (i : KeyprovEnvelopeInput) (rnd : EnvelopeRandom) :
    Except ErrorCode KeyprovEnvelopeOutput :=
  match firstReject (builderChecks L i) with
  | some rc => .error rc
  | none => do
    let ephPriv ← chosen i.serverEphemeralPrivateKey rnd.ephemeral
    match derivePublicKey C ephPriv with
    | none => .error .internalError
    | some ephPub =>
      let salt ← chosen i.hkdfSalt rnd.salt
      let nonce ← chosen i.nonce rnd.nonce
      match ecdhShared C ephPriv i.devicePublicKey with
      | none => .error .internalError
      | some shared =>
        let kek := X.hkdfSha256 shared salt (builderInfo i) 32
        match aesGcmEncrypt X kek nonce (builderAad i) i.businessKey with
        | none => .error .internalError
        | some (ciphertext, tag) =>
          .ok (builderOutput X L i ephPub salt nonce shared ciphertext tag)

/-- The item a sender makes of the builder's output, valid in the given window. -/
def builtItem (i : KeyprovEnvelopeInput) (out : KeyprovEnvelopeOutput)
    (validFromMs validToMs : ℤ) : WrappedKeyItem :=
  { purpose := i.purpose
    keyId := i.keyId
    businessKeyVersion := i.businessKeyVersion
    algorithm := i.keyAlgorithm
    wrappedKey := out.wrappedKey
    parameters := out.parameters
    validFromMs
    validToMs
    wrappingSuite := i.wrappingSuite
    envelopeFormat := .ecdhEsP256V1
    envelopeDigest := out.envelopeDigest
    keyCheckValue := out.keyCheckValue
    keyCheckValuePresent := true }

/-! ### The HSM behind the provider -/

/-- The arguments of a request to the HSM. -/
def unwrapArgs (req : UnwrapRequest) : UnwrapArgs :=
  { recipientKeyId := req.deviceKeyId
    serverEphemeralPublicKey := req.ephemeralPublicKey
    hkdfSalt := req.salt
    hkdfInfo := req.hkdfInfo
    nonce := req.nonce
    ciphertext := req.ciphertext
    authenticationTag := req.tag
    aad := req.aad }

/-- The answer of the SoftFile HSM in the state `w`. Unwrapping changes no store. -/
def softFileUnwrap (H : Library) (ω : Hsm.Oracle) (w : Hsm.World) (req : UnwrapRequest) :
    ErrorCode × Bytes :=
  match unwrapEcdhEsV1 H ω (unwrapArgs req) w with
  | .done r _ => r
  | .crashed _ => (.internalError, [])

end TboxSec.Keyprov
