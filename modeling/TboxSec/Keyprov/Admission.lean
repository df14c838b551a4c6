import Mathlib.Data.List.Sort
import TboxSec.Keyprov.Provider

/-!
# Admission of an import request

The parts of `BusinessKeyProvisioningService` that decide on a request without changing
anything: the configuration with its defaults, the trusted-time readings, the capability
epoch and snapshot, the structural checks, the version and validity check, the generation
number a new operation gets and the digest that identifies a request.
-/

namespace TboxSec.Keyprov

open Canonical Crash

/-! ### Configuration -/

/-- `BusinessKeyProvisioningConfig`, the fields the service reads. -/
structure ProvisioningConfig where
  enabled : Bool := false
  allowedDomains : List String := []
  requiredPurposes : List String := []
  allowedEnvelopeFormats : List String := []
  allowedWrappingSuites : List String := []
  allowedAlgorithms : List String := []
  maxItems : ℤ := 2
  maxWrappedKeyBytes : ℤ := 4096
  maxParametersBytes : ℤ := 2048

/-- A configuration as the service holds it: the constructor has filled in the defaults, so
some purpose is required. -/
structure ServiceConfig extends ProvisioningConfig where
  requiredPurposes_ne : requiredPurposes ≠ []

/-- A list, or its default when it is empty. -/
def orDefault (l default : List String) : List String := if l.isEmpty then default else l

/-- The constructor of the service. -/
def ServiceConfig.ofConfig (c : ProvisioningConfig) : ServiceConfig where
  toProvisioningConfig :=
    { c with
      allowedDomains := orDefault c.allowedDomains [businessDomainV2c]
      requiredPurposes := orDefault c.requiredPurposes [purposeUplink, purposeDownlink]
      allowedAlgorithms := orDefault c.allowedAlgorithms [defaultKeyAlgorithm]
      allowedWrappingSuites := orDefault c.allowedWrappingSuites [wrappingSuiteEcdhEsP256]
      allowedEnvelopeFormats :=
        orDefault c.allowedEnvelopeFormats [KeyEnvelopeFormat.toText .ecdhEsP256V1] }
  requiredPurposes_ne := by
    unfold orDefault
    split
    · exact List.cons_ne_nil _ _
    · rename_i h
      simpa using h

/-- One daemon: the code outside the repository it calls and its two configurations. -/
structure Deployment where
  platform : Platform
  provider : ProviderConfig
  service : ServiceConfig

variable (D : Deployment) (ω : Oracle)

/-! ### Time, epoch and capability -/

/-- `trusted_now_ms`; `none` is NOT_READY. -/
def trustedNowMs : SecM (Option ℤ) := do
  let s ← trustedTimeNow ω
  pure (if s.trustState = .trusted then some s.utcNowMs else none)

/-- The upper bound of the current time that `kl1_trusted_upper_now` reads off a sample. -/
def trustedUpper (s : TrustedTimeSample) : Option ℤ :=
  if s.trustState ≠ .trusted then none
  else if s.uncertaintyMs > 1000 then none
  else if s.freshnessAgeMs > 300000 then none
  else some (s.utcNowMs + s.uncertaintyMs)

/-- `kl1_trusted_upper_now`; `none` is NOT_READY. -/
def kl1TrustedUpperNow : SecM (Option ℤ) := do
  let s ← trustedTimeNow ω
  pure (trustedUpper s)

/-- `KeyprovEpochSource::epoch`. -/
def epoch (svc : Service) : ℕ :=
  let h := D.platform.crypto.sha256
    (appendUint64be (appendUint32be [] svc.bootNonce) svc.epochGeneration)
  (h.take 8).foldl (fun e b => e * 256 + b.toNat) 0

/-- `kContractVersion`. -/
def capabilityContractVersion : ℕ := 2

/-- `compute_snapshot`. -/
def computeSnapshot (svc : Service) : KeyprovContractSnapshot :=
  let lease := svc.importReady && epoch D svc != 0
  { resultContractVersion := capabilityContractVersion
    querySemanticsVersion := 1
    capabilityEpoch := epoch D svc
    storageReady := svc.storageReady
    supportsAtomicDualCommit := svc.cap.atomicDualPurposeCommitReady
    supportsLeaseAdmission := lease
    kl1ProfileVersion := if lease then kl1ProfileVersion else 0
    daemonBuildId := "sec-kl1-v1"
    sdkBuildId := "sec-client-kl1-v1" }

/-- `binding_agreement_ok`. -/
def bindingAgreementOk (b : BusinessKeyDeviceBinding) : Bool :=
  b.ready && b.deviceKeyId != "" && b.activeCertP256 && b.activeCertKeyAgreement &&
    b.activeCertDigitalSignature && b.privateKeyCanDerive && b.privateKeyCanSign &&
    !b.activeCertDigest.isEmpty && b.activeCertCaFalse && b.activeCertEkuClientAuthOnly &&
    b.activeCertCriticalExtensionsAllowed && b.activeCertLeafDigestBound &&
    b.activeCertChainKeyMatch && b.identityTemplateSignDerive

/-- The capabilities that follow from the provider, the binding and the clock. -/
def capabilityOf (prov : Provider) (b : BusinessKeyDeviceBinding) (timeReady : Bool) :
    V2cKeyProvisioningCapability :=
  let journal := prov.readable
  { envelopeV1ImportReady := true
    atomicDualPurposeCommitReady := true
    importProofSignEcdsaP256V1Ready := prov.hsm
    secureJournalReplayReady := journal
    identityKeyTemplateSignDerive := b.ready && b.identityTemplateSignDerive
    csrKeyUsageRequestMatched := true
    certificateProfileMatched :=
      b.ready && b.activeCertP256 && b.activeCertKeyAgreement && b.activeCertDigitalSignature &&
        b.activeCertCaFalse && b.activeCertEkuClientAuthOnly &&
        b.activeCertCriticalExtensionsAllowed
    certificateChainAndKeyMatch := b.ready && b.activeCertChainKeyMatch
    certificateCriticalExtensionsAllowed := b.ready && b.activeCertCriticalExtensionsAllowed
    leafCertificateDigestBound := b.ready && b.activeCertLeafDigestBound
    protoReleaseMatched := true
    envelopeFormatV1 := true
    p256Ecdh := prov.hsm
    hkdfSha256 := prov.hsm
    aes256GcmDecryptToSlot := prov.hsm
    atomicDualSlotCommit := true
    activeCertificateKeyAgreement := b.ready && b.activeCertP256 && b.activeCertKeyAgreement
    activeCertificateDigitalSignature :=
      b.ready && b.activeCertP256 && b.activeCertDigitalSignature
    activePrivateKeyCanDerive := b.ready && b.privateKeyCanDerive
    activePrivateKeyCanSign := b.ready && b.privateKeyCanSign
    ecdsaP256Sha256P1363 := prov.hsm
    secureJournalReady := journal
    trustedTimeReady := timeReady
    businessKeyImportResultNotFoundV1 := true }

/-- `compute_capability`. -/
def computeCapability : SecM V2cKeyProvisioningCapability := do
  let prov ← Prog.gets (·.prov)
  let b ← probeBinding ω
  let now ← trustedNowMs ω
  pure (capabilityOf prov b now.isSome)

/-! ### Validation -/

/-- The checks `validate_structure` makes on one item, after the purposes and key ids seen
before it. -/
def itemChecks (cfg : ServiceConfig) (seenPurposes seenKeyIds : List String)
    (item : WrappedKeyItem) : List (Bool × ErrorCode) :=
  [(!cfg.requiredPurposes.contains item.purpose, .businessKeyUnsupported),
   (seenPurposes.contains item.purpose, .businessKeyUnsupported),
   (item.keyId == "", .wrappedKeyInvalid),
   (seenKeyIds.contains item.keyId, .wrappedKeyInvalid),
   (!cfg.allowedAlgorithms.contains item.algorithm, .businessKeyUnsupported),
   (!cfg.allowedWrappingSuites.contains item.wrappingSuite, .businessKeyUnsupported),
   (item.envelopeFormat != .ecdhEsP256V1 ||
     !cfg.allowedEnvelopeFormats.contains item.envelopeFormat.toText, .businessKeyUnsupported),
   (item.businessKeyVersion == 0 || decide (item.businessKeyVersion > maxBusinessKeyVersion),
     .wrappedKeyInvalid),
   (decide (item.validFromMs ≤ 0) || decide (item.validToMs ≤ item.validFromMs),
     .wrappedKeyInvalid),
   (item.wrappedKey.isEmpty, .wrappedKeyInvalid),
   (decide ((item.wrappedKey.length : ℤ) > cfg.maxWrappedKeyBytes), .wrappedKeyInvalid),
   (item.parameters.isEmpty, .wrappedKeyInvalid),
   (decide ((item.parameters.length : ℤ) > cfg.maxParametersBytes), .wrappedKeyInvalid),
   (item.envelopeDigest.length != 32, .wrappedKeyInvalid),
   (!item.keyCheckValuePresent, .wrappedKeyInvalid)]

/-- The item loop of `validate_structure`: the rejection, or the purposes seen. -/
def validateItems (cfg : ServiceConfig) :
    List String → List String → List WrappedKeyItem → Except ErrorCode (List String)
  | seenPurposes, _, [] => .ok seenPurposes
  | seenPurposes, seenKeyIds, item :: rest =>
    match firstReject (itemChecks cfg seenPurposes seenKeyIds item) with
    | some rc => .error rc
    | none =>
      validateItems cfg (item.purpose :: seenPurposes) (item.keyId :: seenKeyIds) rest

/-- The checks `validate_structure` makes before its item loop. -/
def headChecks (cfg : ServiceConfig) (requestId domain : String) (items : List WrappedKeyItem) :
    List (Bool × ErrorCode) :=
  [(requestId == "", .invalidParameter),
   (decide ((textBytes requestId).length > 128), .invalidParameter),
   (!cfg.allowedDomains.contains domain, .businessKeyUnsupported),
   (decide ((items.length : ℤ) ≠ cfg.maxItems), .businessKeyUnsupported),
   (items.length != cfg.requiredPurposes.length, .businessKeyUnsupported)]

/-- `validate_structure`. -/
def validateStructure (cfg : ServiceConfig) (requestId domain : String)
    (items : List WrappedKeyItem) : ErrorCode :=
  match firstReject (headChecks cfg requestId domain items) with
  | some rc => rc
  | none =>
    match validateItems cfg [] [] items with
    | .error rc => rc
    | .ok seen =>
      if cfg.requiredPurposes.all seen.contains then .success else .businessKeyUnsupported

/-- The loop of `validate_version_and_time`, at a trusted time `now`. -/
def versionTimeCheck (prov : Provider) (domain : String) (now : ℤ) :
    List WrappedKeyItem → ErrorCode
  | [] => .success
  | item :: rest =>
    let q := querySlot D.platform prov domain item.purpose
    if q.1 = .success ∧ q.2.present ∧ item.businessKeyVersion ≤ q.2.businessKeyVersion then
      .businessKeyConflict
    else if now < item.validFromMs ∨ now > item.validToMs then .wrappedKeyInvalid
    else versionTimeCheck prov domain now rest

/-- `validate_version_and_time`. -/
def validateVersionAndTime (domain : String) (items : List WrappedKeyItem) :
    SecM ErrorCode := do
  let prov ← Prog.gets (·.prov)
  match ← trustedNowMs ω with
  | none => pure .businessKeyNotReady
  | some now => pure (versionTimeCheck D prov domain now items)

/-- `next_generation`, a 64-bit number. -/
def nextGeneration (prov : Provider) : ℕ :=
  let maxGen := D.service.requiredPurposes.foldl
    (fun g p =>
      let q := querySlot D.platform prov businessDomainV2c p
      if q.1 = .success then max g q.2.activeGeneration else g)
    0
  (maxGen + 1) % 2 ^ 64

/-! ### The request digest -/

/-- An item with its validated envelope. -/
abbrev Row := WrappedKeyItem × ValidatedEnvelope

/-- The part of the request digest's input for one item. -/
def appendRow (buf : Bytes) (r : Row) : Bytes :=
  let X := D.platform.crypto
  let it := r.1
  let v := r.2
  let buf := appendString buf it.purpose
  let buf := appendString buf it.keyId
  let buf := appendUint64be buf it.businessKeyVersion
  let buf := appendString buf it.algorithm
  let buf := appendEnumVarint buf ((wrappingSuiteEnumValue it.wrappingSuite).getD 0)
  let buf := appendEnumVarint buf it.envelopeFormat.value
  let buf := appendLengthPrefixed buf (X.sha256 it.wrappedKey)
  let buf := appendLengthPrefixed buf (X.sha256 it.parameters)
  let buf := appendLengthPrefixed buf v.envelopeDigest
  let buf := appendLengthPrefixed buf it.keyCheckValue.toBytes
  let buf := appendLengthPrefixed buf v.params.recipientCertificateDigest
  let buf := appendUint64be buf v.params.rootKeyVersion
  let buf := appendString buf v.params.derivationVersion
  appendString buf v.params.operationId

/-- The bytes under `build_request_digest`: the items in purpose order. -/
def requestDigestInput (requestId domain : String) (rows : List Row) : Bytes :=
  let buf := appendString [] "openiov|keyprov-req|v1"
  let buf := appendString buf requestId
  let buf := appendString buf domain
  let buf := appendString buf D.provider.providerVersion
  (rows.insertionSort fun a b => a.1.purpose ≤ b.1.purpose).foldl (appendRow D) buf

/-- `build_request_digest`. -/
def buildRequestDigest (requestId domain : String) (rows : List Row) : String :=
  toHex (D.platform.crypto.sha256 (requestDigestInput D requestId domain rows))

end TboxSec.Keyprov
