import TboxSec.Keyprov.Types
import TboxSec.Lib.Checks

/-!
# The envelope validator

`validateEnvelope` of `business_key_envelope.cpp`: the checks made on one wrapped key before
any cryptographic operation. The protobuf runtime and the curve arithmetic it calls are
parameters (`EnvelopeLib`); the canonical re-serialization test, the length limits, the
certificate gate, the rebuilt additional data and the recomputed wire digest are the code's
own, in the code's order.

* `EnvelopeContext` is what the envelope has to fit: the request, the device and its certificate.
* `envelopeHeaderChecks` and `envelopeParameterChecks` are the lists of checks, in order, with the
  code of each.
* `validateEnvelope` runs them and gives the parameters and the rebuilt additional data;
  `validateEnvelope_ok` says what has been checked when it does.
-/

namespace TboxSec.Keyprov

open Canonical

/-- `EcdhEsP256EnvelopeParameters`. -/
structure EnvelopeParameters where
  formatVersion : ℕ
  serverEphemeralPublicKey : Bytes
  hkdfSalt : Bytes
  hkdfContextVersion : String
  nonce : Bytes
  authenticationTag : Bytes
  canonicalAad : Bytes
  aadDigest : Bytes
  rootKeyVersion : ℕ
  derivationVersion : String
  recipientCertificateDigest : Bytes
  operationId : String
  deriving DecidableEq

/-- What the validator takes from protobuf and from OpenSSL's curve arithmetic. -/
structure EnvelopeLib where
  /-- `ParseFromArray`: the message and whether it carries unknown fields. -/
  parse : Bytes → Option (EnvelopeParameters × Bool)
  /-- Deterministic serialization. -/
  serialize : EnvelopeParameters → Bytes
  /-- `EC_POINT_oct2point` succeeds with a finite point on P-256. -/
  onCurve : Bytes → Bool

/-- `EnvelopeLimits`. -/
structure EnvelopeLimits where
  maxCanonicalAad : ℕ := 1024
  maxParameters : ℕ := 2048
  maxWrappedKey : ℕ := 4096

/-- `EnvelopeContext`. -/
structure EnvelopeContext where
  requestId : String
  businessDomain : String
  purpose : String
  activeCertDigest : Bytes
  activeCertP256 : Bool
  activeCertKeyAgreement : Bool
  activeCertDigitalSignature : Bool
  privateKeyCanDerive : Bool
  privateKeyCanSign : Bool
  activeCertCaFalse : Bool
  activeCertEkuClientAuthOnly : Bool
  activeCertCriticalExtensionsAllowed : Bool
  activeCertLeafDigestBound : Bool
  activeCertChainKeyMatch : Bool
  identityTemplateSignDerive : Bool

/-- `ValidatedEnvelope`. -/
structure ValidatedEnvelope where
  params : EnvelopeParameters
  canonicalAad : Bytes
  envelopeDigest : Bytes
  keyCheckValue : Kcv
  deriving DecidableEq

/-- `purposeEnumValue`. -/
def purposeEnumValue (purpose : String) : Option ℕ :=
  if purpose = purposeUplink then some 1
  else if purpose = purposeDownlink then some 2
  else none

/-- `wrappingSuiteEnumValue`. -/
def wrappingSuiteEnumValue (suite : String) : Option ℕ :=
  if suite = wrappingSuiteEcdhEsP256 then some 2 else none

/-- `isValidP256UncompressedPoint`. -/
def isValidP256UncompressedPoint (L : EnvelopeLib) (point : Bytes) : Bool :=
  point.length == 65 && point.head? == some 0x04 && L.onCurve point

/-- `parseEcdhEsP256Parameters`: unknown fields and non-canonical bytes are rejected. -/
def parseEcdhEsP256Parameters (L : EnvelopeLib) (data : Bytes) :
    Except ErrorCode EnvelopeParameters :=
  if data.isEmpty then .error .wrappedKeyInvalid
  else
    match L.parse data with
    | none => .error .wrappedKeyInvalid
    | some (msg, unknownFields) =>
      if unknownFields then .error .wrappedKeyInvalid
      else if L.serialize msg ≠ data then .error .wrappedKeyInvalid
      else .ok msg

/-- `rebuildEnvelopeAad`. An unknown purpose or suite leaves the value `0`. -/
def rebuildEnvelopeAad (requestId businessDomain : String) (item : WrappedKeyItem)
    (params : EnvelopeParameters) : Bytes :=
  buildParProtoAadV1
    { envelopeFormat := item.envelopeFormat.value
      wrappingSuite := (wrappingSuiteEnumValue item.wrappingSuite).getD 0
      requestId
      businessDomain
      purpose := (purposeEnumValue item.purpose).getD 0
      keyId := item.keyId
      businessKeyVersion := item.businessKeyVersion
      rootKeyVersion := params.rootKeyVersion
      derivationVersion := params.derivationVersion
      recipientCertificateDigest := params.recipientCertificateDigest }

/-- The input of the wire digest the validator recomputes from the received bytes. -/
def wireDigestInputOf (ctx : EnvelopeContext) (item : WrappedKeyItem) : EnvelopeDigestInput :=
  { envelopeFormat := KeyEnvelopeFormat.value .ecdhEsP256V1
    requestId := ctx.requestId
    businessDomain := ctx.businessDomain
    purpose := (purposeEnumValue item.purpose).getD 0
    keyId := item.keyId
    businessKeyVersion := item.businessKeyVersion
    wrappingSuite := (wrappingSuiteEnumValue item.wrappingSuite).getD 0
    wrappedKey := item.wrappedKey
    parameters := item.parameters }

/-- The largest business-key version, `(1 << 63) - 1`. -/
def maxBusinessKeyVersion : ℕ := 2 ^ 63 - 1

/-- The checks made before the parameters are parsed. -/
def envelopeHeaderChecks (item : WrappedKeyItem) (limits : EnvelopeLimits) :
    List (Bool × ErrorCode) :=
  [(item.envelopeFormat != .ecdhEsP256V1, .businessKeyUnsupported),
   ((wrappingSuiteEnumValue item.wrappingSuite).isNone, .businessKeyUnsupported),
   (item.algorithm != defaultKeyAlgorithm, .businessKeyUnsupported),
   (item.parameters.isEmpty, .wrappedKeyInvalid),
   (decide (item.parameters.length > limits.maxParameters), .wrappedKeyInvalid)]

/-- The checks made on the parsed parameters, up to the recomputed digests. -/
def envelopeParameterChecks (X : Crypto) (L : EnvelopeLib) (item : WrappedKeyItem)
    (ctx : EnvelopeContext) (limits : EnvelopeLimits) (params : EnvelopeParameters) :
    List (Bool × ErrorCode) :=
  let aad := rebuildEnvelopeAad ctx.requestId ctx.businessDomain item params
  let computed := buildWireEnvelopeDigestV1 X (wireDigestInputOf ctx item)
  [(params.formatVersion != 1, .wrappedKeyInvalid),
   (params.hkdfContextVersion != "v1", .businessKeyUnsupported),
   (item.wrappedKey.isEmpty || decide (item.wrappedKey.length > limits.maxWrappedKey),
     .wrappedKeyInvalid),
   (decide (params.canonicalAad.length > limits.maxCanonicalAad), .wrappedKeyInvalid),
   (params.hkdfSalt.length != 32, .wrappedKeyInvalid),
   (params.nonce.length != 12, .wrappedKeyInvalid),
   (params.authenticationTag.length != 16, .wrappedKeyInvalid),
   (params.aadDigest.length != 32, .wrappedKeyInvalid),
   (params.recipientCertificateDigest.length != 32, .wrappedKeyInvalid),
   (!isValidP256UncompressedPoint L params.serverEphemeralPublicKey, .wrappedKeyInvalid),
   (!ctx.activeCertP256 || !ctx.activeCertKeyAgreement || !ctx.activeCertDigitalSignature ||
     !ctx.privateKeyCanDerive || !ctx.privateKeyCanSign || !ctx.activeCertCaFalse ||
     !ctx.activeCertEkuClientAuthOnly || !ctx.activeCertCriticalExtensionsAllowed ||
     !ctx.activeCertLeafDigestBound || !ctx.activeCertChainKeyMatch ||
     !ctx.identityTemplateSignDerive, .businessKeyNotReady),
   (ctx.activeCertDigest != params.recipientCertificateDigest, .wrappedKeyInvalid),
   (aad != params.canonicalAad, .wrappedKeyInvalid),
   (X.sha256 aad != params.aadDigest, .wrappedKeyInvalid),
   ((purposeEnumValue item.purpose).isNone, .businessKeyUnsupported),
   (item.envelopeDigest != computed, .wrappedKeyInvalid),
   (item.businessKeyVersion == 0 || decide (item.businessKeyVersion > maxBusinessKeyVersion),
     .wrappedKeyInvalid),
   (params.rootKeyVersion == 0, .wrappedKeyInvalid),
   (params.derivationVersion == "", .wrappedKeyInvalid),
   (params.operationId == "", .wrappedKeyInvalid)]

/-- `validateEnvelope`. -/
def validateEnvelope (X : Crypto) (L : EnvelopeLib) (item : WrappedKeyItem)
    (ctx : EnvelopeContext) (limits : EnvelopeLimits) : Except ErrorCode ValidatedEnvelope :=
  match firstReject (envelopeHeaderChecks item limits) with
  | some rc => .error rc
  | none =>
    match parseEcdhEsP256Parameters L item.parameters with
    | .error rc => .error rc
    | .ok params =>
      match firstReject (envelopeParameterChecks X L item ctx limits params) with
      | some rc => .error rc
      | none =>
        .ok
          { params
            canonicalAad := rebuildEnvelopeAad ctx.requestId ctx.businessDomain item params
            envelopeDigest := buildWireEnvelopeDigestV1 X (wireDigestInputOf ctx item)
            keyCheckValue := item.keyCheckValue }

/-! ### What acceptance means -/

/-- An accepted envelope passed every check, on the parameters its bytes parse to. -/
theorem validateEnvelope_ok {X : Crypto} {L : EnvelopeLib} {item : WrappedKeyItem}
    {ctx : EnvelopeContext} {limits : EnvelopeLimits} {v : ValidatedEnvelope}
    (h : validateEnvelope X L item ctx limits = .ok v) :
    parseEcdhEsP256Parameters L item.parameters = .ok v.params ∧
      (∀ c ∈ envelopeHeaderChecks item limits, c.1 = false) ∧
      (∀ c ∈ envelopeParameterChecks X L item ctx limits v.params, c.1 = false) ∧
      v.envelopeDigest = buildWireEnvelopeDigestV1 X (wireDigestInputOf ctx item) := by
  unfold validateEnvelope at h
  split at h
  · cases h
  · rename_i hheader
    split at h
    · cases h
    · rename_i params hparse
      split at h
      · cases h
      · rename_i hchecks
        cases h
        exact ⟨hparse, firstReject_eq_none_iff.mp hheader, firstReject_eq_none_iff.mp hchecks,
          rfl⟩

/-- The additional data of an accepted envelope are those rebuilt from the request. -/
theorem canonicalAad_of_validateEnvelope {X : Crypto} {L : EnvelopeLib} {item : WrappedKeyItem}
    {ctx : EnvelopeContext} {limits : EnvelopeLimits} {v : ValidatedEnvelope}
    (h : validateEnvelope X L item ctx limits = .ok v) :
    v.canonicalAad = rebuildEnvelopeAad ctx.requestId ctx.businessDomain item v.params := by
  unfold validateEnvelope at h
  split at h
  · cases h
  split at h
  · cases h
  split at h
  · cases h
  · cases h
    rfl

/-- An accepted item is for one of the two purposes. -/
theorem purpose_of_validateEnvelope {X : Crypto} {L : EnvelopeLib} {item : WrappedKeyItem}
    {ctx : EnvelopeContext} {limits : EnvelopeLimits} {v : ValidatedEnvelope}
    (h : validateEnvelope X L item ctx limits = .ok v) :
    item.purpose = purposeUplink ∨ item.purpose = purposeDownlink := by
  obtain ⟨-, -, hchecks, -⟩ := validateEnvelope_ok h
  have hpurpose : (purposeEnumValue item.purpose).isNone = false :=
    hchecks ((purposeEnumValue item.purpose).isNone, .businessKeyUnsupported)
      (by simp [envelopeParameterChecks])
  unfold purposeEnumValue at hpurpose
  split_ifs at hpurpose with hup hdown
  · exact .inl hup
  · exact .inr hdown
  · cases hpurpose

end TboxSec.Keyprov
