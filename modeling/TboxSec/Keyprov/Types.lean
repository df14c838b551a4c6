import TboxSec.Canonical.Encoding
import TboxSec.ErrorCode

/-!
# Business-key provisioning: the data model

The public types of `tbox/sec/business_key.h` and the records the provisioning service, its
provider and its ledger exchange. Enumerations are inductive types, 64-bit versions and
generations natural numbers, millisecond times integers; a cleared buffer is a byte string.

* An envelope arrives as a `WrappedKeyItem` and is answered by a `BusinessKeyStatus`.
* `BusinessKeyJournalEntry` is the record of an operation, with its phase and its generation;
  `BusinessKeySlotInfo` and `BusinessKeyMetadata` are what is shown and copied of a slot.
* `KeyprovContractSnapshot`, `KeyprovImportContext` and `KeyprovResultAttachment` belong to the
  KL1 variant of the import.
* `TrustedTimeSample` is what the clock of the trusted time answers.
-/

namespace TboxSec.Keyprov

open Canonical

/-! ### Enumerations and constants -/

/-- `BusinessKeyState`. -/
inductive BusinessKeyState where
  | missing | staged | active | invalid | unknown
  deriving DecidableEq

/-- `BusinessKeyImportState`, the coarse public state of a batch. -/
inductive BusinessKeyImportState where
  | requested | staged | committed | failed | unknown | notFound
  deriving DecidableEq

/-- `KeyEnvelopeFormat`. -/
inductive KeyEnvelopeFormat where
  | unspecified | ecdhEsP256V1
  deriving DecidableEq

/-- `BusinessKeyImportPhase`, the authoritative phase of a journal record. -/
inductive BusinessKeyImportPhase where
  | new | validated | processing | uplinkStaged | bothStaged | committing | succeeded
  | rollingBack | failed | outcomeUnknown | recovering | unknown
  deriving DecidableEq

/-- `JournalLoadStatus`. -/
inductive JournalLoadStatus where
  | found | notFound | ioError | authFailed | corrupt | unsupportedVersion
  deriving DecidableEq

/-- `business_key_state_to_string`. -/
def BusinessKeyState.toText : BusinessKeyState → String
  | .missing => "MISSING"
  | .staged => "STAGED"
  | .active => "ACTIVE"
  | .invalid => "INVALID"
  | .unknown => "UNKNOWN"

/-- `key_envelope_format_to_string`. -/
def KeyEnvelopeFormat.toText : KeyEnvelopeFormat → String
  | .unspecified => "UNSPECIFIED"
  | .ecdhEsP256V1 => "ECDH_ES_P256_V1"

/-- The wire value of an envelope format. -/
def KeyEnvelopeFormat.value : KeyEnvelopeFormat → ℕ
  | .unspecified => 0
  | .ecdhEsP256V1 => 1

/-- `business_key_import_phase_to_string`. -/
def BusinessKeyImportPhase.toText : BusinessKeyImportPhase → String
  | .new => "NEW"
  | .validated => "VALIDATED"
  | .processing => "PROCESSING"
  | .uplinkStaged => "UPLINK_STAGED"
  | .bothStaged => "BOTH_STAGED"
  | .committing => "COMMITTING"
  | .succeeded => "SUCCEEDED"
  | .rollingBack => "ROLLING_BACK"
  | .failed => "FAILED"
  | .outcomeUnknown => "OUTCOME_UNKNOWN"
  | .recovering => "RECOVERING"
  | .unknown => "UNKNOWN"

/-- A record in this phase is final: neither recovery nor a retry touches it. -/
def BusinessKeyImportPhase.terminal : BusinessKeyImportPhase → Bool
  | .succeeded | .failed => true
  | _ => false

/-- `import_state_from_phase`. -/
def importStateFromPhase : BusinessKeyImportPhase → BusinessKeyImportState
  | .new | .validated | .processing => .requested
  | .uplinkStaged | .bothStaged | .committing => .staged
  | .succeeded => .committed
  | .rollingBack | .failed => .failed
  | .outcomeUnknown | .recovering | .unknown => .unknown

/-- `kBusinessDomainV2c`. -/
def businessDomainV2c : String := "V2C_COMM"

/-- `kBusinessPurposeUplinkAead`. -/
def purposeUplink : String := "UPLINK_AEAD"

/-- `kBusinessPurposeDownlinkAead`. -/
def purposeDownlink : String := "DOWNLINK_AEAD"

/-- `kWrappingSuiteEcdhEsP256`. -/
def wrappingSuiteEcdhEsP256 : String := "ECDH_ES_P256_HKDF_SHA256_AES256GCM"

/-- `kDefaultKeyAlgorithm`. -/
def defaultKeyAlgorithm : String := "AES-256"

/-- `kImportProofAlgorithmP1363`. -/
def importProofAlgorithmP1363 : String := "ECDSA_P256_SHA256_P1363"

/-- `kImportProofSizeP1363`. -/
def importProofSizeP1363 : ℕ := 64

/-- `kKeyprovKl1ProfileVersion`. -/
def kl1ProfileVersion : ℕ := 1

/-! ### Requests and results -/

/-- `WrappedKeyItem`. -/
structure WrappedKeyItem where
  purpose : String
  keyId : String
  businessKeyVersion : ℕ
  algorithm : String
  wrappedKey : Bytes
  parameters : Bytes
  validFromMs : ℤ
  validToMs : ℤ
  wrappingSuite : String
  envelopeFormat : KeyEnvelopeFormat
  envelopeDigest : Bytes
  keyCheckValue : Kcv
  keyCheckValuePresent : Bool
  deriving DecidableEq

/-- `BusinessKeyStatus`: the public record of one key of a batch. -/
structure BusinessKeyStatus where
  businessDomain : String := ""
  purpose : String := ""
  businessKeyVersion : ℕ := 0
  state : BusinessKeyState := .unknown
  keyIdDigest : String := ""
  algorithm : String := ""
  validFromMs : ℤ := 0
  validToMs : ℤ := 0
  envelopeFormat : KeyEnvelopeFormat := .unspecified
  envelopeDigest : Bytes := []
  keyCheckValue : Kcv := {}
  keyCheckValuePresent : Bool := false
  importProof : Bytes := []
  proofAlgorithm : String := ""
  keyId : String := ""
  recipientCertificateDigest : Bytes := []
  deriving DecidableEq

/-- `ImportResult`. -/
structure ImportResult where
  requestId : String := ""
  businessDomain : String := ""
  state : BusinessKeyImportState := .unknown
  items : List BusinessKeyStatus := []
  committedAtMs : ℤ := 0
  providerVersionDigest : String := ""
  importProof : Bytes := []
  proofAlgorithm : String := ""
  bindingCertificateDigest : Bytes := []
  deriving DecidableEq

/-- `BusinessKeyJournalEntry`: the journal record of one request. -/
structure BusinessKeyJournalEntry where
  requestIdDigest : String := ""
  requestDigest : String := ""
  phase : BusinessKeyImportPhase := .unknown
  generation : ℕ := 0
  items : List BusinessKeyStatus := []
  createdAtMs : ℤ := 0
  committedAtMs : ℤ := 0
  providerVersionDigest : String := ""
  lastError : String := ""
  importProof : Bytes := []
  proofAlgorithm : String := ""
  bindingCertificateDigest : Bytes := []
  deriving DecidableEq

/-- `BusinessKeySlotInfo`. -/
structure BusinessKeySlotInfo where
  present : Bool := false
  state : BusinessKeyState := .missing
  businessKeyVersion : ℕ := 0
  keyIdDigest : String := ""
  algorithm : String := ""
  validFromMs : ℤ := 0
  validToMs : ℤ := 0
  activeGeneration : ℕ := 0
  deriving DecidableEq

/-- `BusinessKeyMetadata`, one ledger record. -/
structure BusinessKeyMetadata where
  present : Bool := false
  businessDomain : String := ""
  purpose : String := ""
  keyIdDigest : String := ""
  businessKeyVersion : ℕ := 0
  algorithm : String := ""
  validFromMs : ℤ := 0
  validToMs : ℤ := 0
  activeGeneration : ℕ := 0
  requestIdDigest : String := ""
  createdAtMs : ℤ := 0
  committedAtMs : ℤ := 0
  deriving DecidableEq

/-- `BusinessKeyDeviceBinding`, the current unwrapping identity. The public key bytes, which
the service only clears, are left out. -/
structure BusinessKeyDeviceBinding where
  ready : Bool := false
  deviceKeyId : String := ""
  activeCertP256 : Bool := false
  activeCertKeyAgreement : Bool := false
  activeCertDigitalSignature : Bool := false
  privateKeyCanDerive : Bool := false
  privateKeyCanSign : Bool := false
  activeCertDigest : Bytes := []
  activeCertValidFromMs : ℤ := 0
  activeCertValidToMs : ℤ := 0
  activeCertCaFalse : Bool := false
  activeCertEkuClientAuthOnly : Bool := false
  activeCertCriticalExtensionsAllowed : Bool := false
  activeCertLeafDigestBound : Bool := false
  activeCertChainKeyMatch : Bool := false
  identityTemplateSignDerive : Bool := false
  deriving DecidableEq

/-! ### The KL1 contract -/

/-- `KeyprovContractSnapshot`. -/
structure KeyprovContractSnapshot where
  resultContractVersion : ℕ := 0
  querySemanticsVersion : ℕ := 0
  capabilityEpoch : ℕ := 0
  storageReady : Bool := false
  supportsAtomicDualCommit : Bool := false
  supportsLeaseAdmission : Bool := false
  kl1ProfileVersion : ℕ := 0
  daemonBuildId : String := ""
  sdkBuildId : String := ""
  deriving DecidableEq

/-- `KeyprovImportContext`. -/
structure KeyprovImportContext where
  admissionExpireAtMs : ℤ
  capabilityEpoch : ℕ
  kl1ProfileVersion : ℕ
  deriving DecidableEq

/-- `KeyprovResultAttachment`. -/
structure KeyprovResultAttachment where
  snapshot : KeyprovContractSnapshot := {}
  requestIdentityDigest : String := ""
  queriedAtMs : ℤ := 0
  deriving DecidableEq

/-! ### Trusted time -/

/-- `TimeTrustState`. -/
inductive TimeTrustState where
  | trusted | untrusted | unknown
  deriving DecidableEq

/-- The part of a `TrustedTimeSample` the provisioning service reads, in milliseconds. -/
structure TrustedTimeSample where
  utcNowMs : ℤ
  trustState : TimeTrustState
  freshnessAgeMs : ℤ
  uncertaintyMs : ℤ
  deriving DecidableEq

end TboxSec.Keyprov
