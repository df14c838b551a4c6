import TboxSec.Ipc.Client
import TboxSec.Keyprov.Admission
import TboxSec.Tls.Types
import TboxSec.Time.Types

/-!
# The messages of the other methods

What the dispatcher writes and the client reads for the TLS credentials, the capability of the
key provisioning, the trusted time and the provisioning status. The envelope of the trusted time
is written and read by functions that both programs share.

The client reads every number into the type of its variable, so what it holds of a reason code is
a number (`TlsStateReport`), not one of the codes.

* `…ToJson` writes a message and `…FromJson` reads it; the two stand beside each other.
* The conversions of the enumerations to text and back come first, each with the lemma that a
  value is read back from its text.
* `capabilityFlags` are the twenty-three flags of the capability, under their names.
* `requiredEnvelopeKeys` are the fields without which no envelope is read.
-/

namespace TboxSec.Ipc

open Tls (TlsCredentialBundle TlsCredentialState TlsCredentialStatus KeyAlgorithm SignatureAlgorithm
  TlsSignRequest)
open Time (TrustedTimeEnvelope)
open Keyprov (V2cKeyProvisioningCapability capabilityContractVersion)

/-! ### Codes and texts -/

/-- The value of the enumerator. -/
def errorCodeValue : ErrorCode → ℕ
  | .success => 0
  | .keyGenerationFailed => 1001
  | .keyAlreadyExists => 1002
  | .keyNotFound => 1003
  | .csrBuildFailed => 2001
  | .csrInvalidSubject => 2002
  | .csrSignFailed => 2003
  | .pkiRejected => 3001
  | .pkiTimeout => 3002
  | .pkiConnectionFailed => 3003
  | .pkiInvalidResponse => 3004
  | .certValidationFailed => 4001
  | .certKeyMismatch => 4002
  | .certExpired => 4003
  | .certInstallFailed => 4004
  | .hsmInitFailed => 5001
  | .hsmCommunicationFailed => 5002
  | .hsmKeyGenerationFailed => 5003
  | .hsmSignFailed => 5004
  | .hsmVerificationFailed => 5005
  | .storageWriteFailed => 6001
  | .storageReadFailed => 6002
  | .storageCorruption => 6003
  | .udsSessionTimeout => 7001
  | .udsSecurityDenied => 7002
  | .udsInvalidRequest => 7003
  | .seedGenerationFailed => 7007
  | .keyVerificationFailed => 7008
  | .softKeyModeNotAllowed => 1009
  | .tlsCredentialNotReady => 1010
  | .tlsCredentialInvalid => 1011
  | .tlsKeyRefInvalid => 1012
  | .tlsSignAlgorithmNotAllowed => 1013
  | .tlsHsmSignFailed => 1014
  | .tlsMaterialKeyMissing => 1015
  | .tlsMaterialFormatInvalid => 1016
  | .tlsChainInvalid => 1017
  | .tlsKeyMismatch => 1018
  | .tlsCertExpired => 1019
  | .tlsCaInvalid => 1020
  | .businessKeyUnsupported => 1021
  | .businessKeyConflict => 1022
  | .wrappedKeyInvalid => 1023
  | .businessKeyImportUnknown => 1024
  | .businessKeyNotReady => 1025
  | .businessKeyPartialRollback => 1026
  | .businessKeyOutcomeUnknown => 1028
  | .kl1AdmissionRejected => 1029
  | .kl1CapabilityEpochMismatch => 1030
  | .trustedTimeUnavailable => 1031
  | .trustedTimeTimeout => 1032
  | .trustedTimeUnsupported => 1033
  | .trustedTimeMalformed => 1034
  | .aclDenied => 1027
  | .configError => 1100
  | .invalidParameter => 8001
  | .notInitialized => 8002
  | .operationInProgress => 8003
  | .notImplemented => 8004
  | .connectionFailed => 8005
  | .provNotConfigured => 8006
  | .internalError => 9999

/-- The codes fit an `int` that is not negative. -/
theorem errorCodeValue_lt (rc : ErrorCode) : errorCodeValue rc < 2 ^ 31 := by
  cases rc <;> decide

@[simp]
theorem errorCodeValue_eq_zero {rc : ErrorCode} : errorCodeValue rc = 0 ↔ rc = .success := by
  cases rc <;> decide

/-- `tls_credential_status_to_string`. -/
def tlsCredentialStatusToString : TlsCredentialStatus → String
  | .ready => "READY"
  | .notReady => "NOT_READY"
  | .expired => "EXPIRED"
  | .revoked => "REVOKED"
  | .error => "ERROR"

/-- `string_to_tls_credential_status`. -/
def stringToTlsCredentialStatus (s : String) : TlsCredentialStatus :=
  if s = "READY" then .ready
  else if s = "NOT_READY" then .notReady
  else if s = "EXPIRED" then .expired
  else if s = "REVOKED" then .revoked
  else if s = "ERROR" then .error
  else .notReady

@[simp]
theorem stringToTlsCredentialStatus_toString (s : TlsCredentialStatus) :
    stringToTlsCredentialStatus (tlsCredentialStatusToString s) = s := by
  cases s <;> decide

/-- `key_algorithm_to_string`. -/
def keyAlgorithmToString : KeyAlgorithm → String
  | .ecdsaP256 => "ecdsa-p256"
  | .unknown => "unknown"

/-- `string_to_key_algorithm`. -/
def stringToKeyAlgorithm (s : String) : KeyAlgorithm :=
  if s = "ecdsa-p256" then .ecdsaP256 else .unknown

@[simp]
theorem stringToKeyAlgorithm_toString (a : KeyAlgorithm) :
    stringToKeyAlgorithm (keyAlgorithmToString a) = a := by
  cases a <;> decide

/-- `signature_algorithm_to_string`. -/
def signatureAlgorithmToString : SignatureAlgorithm → String
  | .ecdsaSecp256r1Sha256 => "ecdsa_secp256r1_sha256"
  | .unknown => "unknown"

@[simp]
theorem signatureAlgorithm_ofText_toString (a : SignatureAlgorithm) :
    SignatureAlgorithm.ofText (signatureAlgorithmToString a) = a := by
  cases a <;> decide

/-- `DeviceProvisionState`. -/
inductive DeviceProvisionState where
  | unknown | none | vinWritten | bound | failed
  deriving DecidableEq

/-- `device_provision_state_to_string`. -/
def DeviceProvisionState.toText : DeviceProvisionState → String
  | .none => "NONE"
  | .vinWritten => "VIN_WRITTEN"
  | .bound => "BOUND"
  | .failed => "FAILED"
  | .unknown => "UNKNOWN"

variable (B : Base64Functions)

/-! ### TLS credentials -/

/-- The answer of `handle_get_tls_credential`. -/
def tlsCredentialToJson (bundle : TlsCredentialBundle) : Json String :=
  Json.null
    |>.assign "credential_id" (.str bundle.credentialId)
    |>.assign "version" (.int bundle.version)
    |>.assign "root_ca_bundle" (.str (B.encode bundle.rootCaBundleDer))
    |>.assign "client_cert_chain" (.str (B.encode bundle.clientCertChainDer))
    |>.assign "private_key_ref" (.str (B.encode bundle.privateKeyRef))
    |>.assign "key_algorithm" (.str (keyAlgorithmToString bundle.keyAlgorithm))
    |>.assign "not_before" (.int bundle.notBefore)
    |>.assign "not_after" (.int bundle.notAfter)
    |>.assign "credential_status" (.str (tlsCredentialStatusToString bundle.status))

/-- What `SecClient::get_tls_credential` takes from it; `none` is an exception. -/
def tlsCredentialFromJson (j : Json String) : Option TlsCredentialBundle := do
  let credentialId ← textField "credential_id" j
  let version ← uint64Field "version" j
  let rootCaBundle ← textField "root_ca_bundle" j
  let clientCertChain ← textField "client_cert_chain" j
  let privateKeyRef ← textField "private_key_ref" j
  let keyAlgorithm ← textField "key_algorithm" j
  let notBefore ← int64Field "not_before" j
  let notAfter ← int64Field "not_after" j
  let status ← j.value "credential_status" Json.text "NOT_READY"
  some
    { credentialId, version, notBefore, notAfter
      rootCaBundleDer := B.decode rootCaBundle
      clientCertChainDer := B.decode clientCertChain
      privateKeyRef := B.decode privateKeyRef
      keyAlgorithm := stringToKeyAlgorithm keyAlgorithm
      status := stringToTlsCredentialStatus status }

/-- The answer of `handle_get_tls_credential_state`. -/
def tlsCredentialStateToJson (state : TlsCredentialState) : Json String :=
  Json.null
    |>.assign "credential_id" (.str state.credentialId)
    |>.assign "version" (.int state.version)
    |>.assign "credential_status" (.str (tlsCredentialStatusToString state.status))
    |>.assign "reason_code" (.int (errorCodeValue state.reasonCode))

/-- `TlsCredentialState` as the client holds it. -/
structure TlsStateReport where
  credentialId : String
  version : ℕ
  status : TlsCredentialStatus
  reasonCode : ℤ
  deriving DecidableEq

/-- The report of a state. -/
def reportOf (state : TlsCredentialState) : TlsStateReport :=
  { credentialId := state.credentialId, version := state.version, status := state.status
    reasonCode := errorCodeValue state.reasonCode }

variable (R : JsonReader)

/-- What `SecClient::get_tls_credential_state` takes from the answer. -/
def tlsCredentialStateFromJson (j : Json String) : Option TlsStateReport := do
  let credentialId ← textField "credential_id" j
  let version ← uint64Field "version" j
  let status ← j.value "credential_status" Json.text "NOT_READY"
  let reasonCode ← j.value "reason_code" R.toInt 0
  some { credentialId, version, status := stringToTlsCredentialStatus status, reasonCode }

/-- The request of `SecClient::sign_tls`. The context is sent when there is one; the daemon
decodes it and does not use it. -/
def signTlsToJson (request : TlsSignRequest) (context : Bytes) (requestId : String) :
    Json String :=
  Json.null
    |>.assign "private_key_ref" (.str (B.encode request.privateKeyRef))
    |>.assign "algorithm" (.str (signatureAlgorithmToString request.algorithm))
    |>.assign "digest" (.str (B.encode request.digest))
    |>.assignIf (context ≠ []) "context" (.str (B.encode context))
    |>.assign "request_id" (.str requestId)

/-! ### The capability -/

/-- The truth values of a capability, with the key of each, in the order of
`capability_to_json`. -/
def capabilityFlags (c : V2cKeyProvisioningCapability) : List (String × Bool) :=
  [("envelope_v1_import_ready", c.envelopeV1ImportReady),
   ("atomic_dual_purpose_commit_ready", c.atomicDualPurposeCommitReady),
   ("import_proof_sign_ecdsa_p256_v1_ready", c.importProofSignEcdsaP256V1Ready),
   ("secure_journal_replay_ready", c.secureJournalReplayReady),
   ("identity_key_template_sign_derive", c.identityKeyTemplateSignDerive),
   ("csr_key_usage_request_matched", c.csrKeyUsageRequestMatched),
   ("certificate_profile_matched", c.certificateProfileMatched),
   ("certificate_chain_and_key_match", c.certificateChainAndKeyMatch),
   ("certificate_critical_extensions_allowed", c.certificateCriticalExtensionsAllowed),
   ("leaf_certificate_digest_bound", c.leafCertificateDigestBound),
   ("proto_release_matched", c.protoReleaseMatched),
   ("envelope_format_v1", c.envelopeFormatV1),
   ("p256_ecdh", c.p256Ecdh),
   ("hkdf_sha256", c.hkdfSha256),
   ("aes256_gcm_decrypt_to_slot", c.aes256GcmDecryptToSlot),
   ("atomic_dual_slot_commit", c.atomicDualSlotCommit),
   ("active_certificate_key_agreement", c.activeCertificateKeyAgreement),
   ("active_certificate_digital_signature", c.activeCertificateDigitalSignature),
   ("active_private_key_can_derive", c.activePrivateKeyCanDerive),
   ("active_private_key_can_sign", c.activePrivateKeyCanSign),
   ("ecdsa_p256_sha256_p1363", c.ecdsaP256Sha256P1363),
   ("secure_journal_ready", c.secureJournalReady),
   ("trusted_time_ready", c.trustedTimeReady),
   ("business_key_import_result_not_found_v1", c.businessKeyImportResultNotFoundV1)]

/-- `capability_to_json`. -/
def capabilityToJson (c : V2cKeyProvisioningCapability) : Json String :=
  ((capabilityFlags c).foldl (fun j flag => j.assign flag.1 (.bool flag.2))
    (Json.null.assign "capability_contract_version" (.int capabilityContractVersion)))
    |>.assign "all" (.bool c.all)

/-- What `SecClient::get_v2c_key_provisioning_capability` takes from the answer, once the version
is the one it knows. It does not read the flag of the result query. -/
def capabilityFromJson (j : Json String) : Option V2cKeyProvisioningCapability := do
  let envelopeV1ImportReady ← boolField "envelope_v1_import_ready" j
  let atomicDualPurposeCommitReady ← boolField "atomic_dual_purpose_commit_ready" j
  let importProofSignEcdsaP256V1Ready ← boolField "import_proof_sign_ecdsa_p256_v1_ready" j
  let secureJournalReplayReady ← boolField "secure_journal_replay_ready" j
  let identityKeyTemplateSignDerive ← boolField "identity_key_template_sign_derive" j
  let csrKeyUsageRequestMatched ← boolField "csr_key_usage_request_matched" j
  let certificateProfileMatched ← boolField "certificate_profile_matched" j
  let certificateChainAndKeyMatch ← boolField "certificate_chain_and_key_match" j
  let certificateCriticalExtensionsAllowed ←
    boolField "certificate_critical_extensions_allowed" j
  let leafCertificateDigestBound ← boolField "leaf_certificate_digest_bound" j
  let protoReleaseMatched ← boolField "proto_release_matched" j
  let envelopeFormatV1 ← boolField "envelope_format_v1" j
  let p256Ecdh ← boolField "p256_ecdh" j
  let hkdfSha256 ← boolField "hkdf_sha256" j
  let aes256GcmDecryptToSlot ← boolField "aes256_gcm_decrypt_to_slot" j
  let atomicDualSlotCommit ← boolField "atomic_dual_slot_commit" j
  let activeCertificateKeyAgreement ← boolField "active_certificate_key_agreement" j
  let activeCertificateDigitalSignature ← boolField "active_certificate_digital_signature" j
  let activePrivateKeyCanDerive ← boolField "active_private_key_can_derive" j
  let activePrivateKeyCanSign ← boolField "active_private_key_can_sign" j
  let ecdsaP256Sha256P1363 ← boolField "ecdsa_p256_sha256_p1363" j
  let secureJournalReady ← boolField "secure_journal_ready" j
  let trustedTimeReady ← boolField "trusted_time_ready" j
  some
    { envelopeV1ImportReady, atomicDualPurposeCommitReady, importProofSignEcdsaP256V1Ready
      secureJournalReplayReady, identityKeyTemplateSignDerive, csrKeyUsageRequestMatched
      certificateProfileMatched, certificateChainAndKeyMatch, certificateCriticalExtensionsAllowed
      leafCertificateDigestBound, protoReleaseMatched, envelopeFormatV1, p256Ecdh, hkdfSha256
      aes256GcmDecryptToSlot, atomicDualSlotCommit, activeCertificateKeyAgreement
      activeCertificateDigitalSignature, activePrivateKeyCanDerive, activePrivateKeyCanSign
      ecdsaP256Sha256P1363, secureJournalReady, trustedTimeReady }

/-! ### Trusted time -/

/-- `TrustedTimeEnvelope{}`. -/
def emptyEnvelope : TrustedTimeEnvelope where
  contractVersion := 0
  capabilities := ""
  contractComplete := false
  secDaemonEpoch := 0
  secTimeEventSequence := 0
  timeDaemonEpoch := 0
  timeEventSequence := 0
  sourceId := ""
  sourceKind := ""
  sourceEpoch := 0
  policyVersion := ""
  trustState := ""
  source := ""
  reason := ""
  utcValid := false
  utcEpochMs := 0
  freshnessAgeMs := 0
  uncertaintyValid := false
  uncertaintyMs := 0
  remainingValidityMs := 0
  driftBoundPpm := 0
  systemClockAligned := false
  alignmentErrorMs := 0
  authStatus := ""
  evidenceRef := ""
  valid := false
  errorClass := ""

/-- `trusted_time_envelope_to_json`. -/
def trustedTimeEnvelopeToJson (e : TrustedTimeEnvelope) : Json String :=
  Json.null
    |>.assign "contract_version" (.int e.contractVersion)
    |>.assign "capabilities" (.str e.capabilities)
    |>.assign "contract_complete" (.bool e.contractComplete)
    |>.assign "sec_daemon_epoch" (.int e.secDaemonEpoch)
    |>.assign "sec_time_event_sequence" (.int e.secTimeEventSequence)
    |>.assign "time_daemon_epoch" (.int e.timeDaemonEpoch)
    |>.assign "time_event_sequence" (.int e.timeEventSequence)
    |>.assign "source_id" (.str e.sourceId)
    |>.assign "source_kind" (.str e.sourceKind)
    |>.assign "source_epoch" (.int e.sourceEpoch)
    |>.assign "policy_version" (.str e.policyVersion)
    |>.assign "trust_state" (.str e.trustState)
    |>.assign "source" (.str e.source)
    |>.assign "reason" (.str e.reason)
    |>.assign "utc_valid" (.bool e.utcValid)
    |>.assign "utc_epoch_ms" (.int e.utcEpochMs)
    |>.assign "freshness_age_ms" (.int e.freshnessAgeMs)
    |>.assign "uncertainty_valid" (.bool e.uncertaintyValid)
    |>.assign "uncertainty_ms" (.int e.uncertaintyMs)
    |>.assign "remaining_validity_ms" (.int e.remainingValidityMs)
    |>.assign "drift_bound_ppm" (.int e.driftBoundPpm)
    |>.assign "system_clock_aligned" (.bool e.systemClockAligned)
    |>.assign "alignment_error_ms" (.int e.alignmentErrorMs)
    |>.assign "auth_status" (.str e.authStatus)
    |>.assign "evidence_ref" (.str e.evidenceRef)
    |>.assign "valid" (.bool e.valid)
    |>.assign "error_class" (.str e.errorClass)

/-- The fields without which an envelope is malformed. -/
def requiredEnvelopeKeys : List String :=
  ["trust_state", "sec_daemon_epoch", "valid", "contract_version"]

/-- `trusted_time_envelope_from_json`; `none` is a return of false. -/
def trustedTimeEnvelopeFromJson (j : Json String) : Option TrustedTimeEnvelope :=
  if !j.isObject then none
  else if !requiredEnvelopeKeys.all fun key => j.contains key then none
  else do
    let contractVersion ← uint32Field "contract_version" j
    let capabilities ← textField "capabilities" j
    let contractComplete ← boolField "contract_complete" j
    let secDaemonEpoch ← uint64Field "sec_daemon_epoch" j
    let secTimeEventSequence ← uint64Field "sec_time_event_sequence" j
    let timeDaemonEpoch ← uint64Field "time_daemon_epoch" j
    let timeEventSequence ← uint64Field "time_event_sequence" j
    let sourceId ← textField "source_id" j
    let sourceKind ← textField "source_kind" j
    let sourceEpoch ← uint64Field "source_epoch" j
    let policyVersion ← textField "policy_version" j
    let trustState ← textField "trust_state" j
    let source ← textField "source" j
    let reason ← textField "reason" j
    let utcValid ← boolField "utc_valid" j
    let utcEpochMs ← int64Field "utc_epoch_ms" j
    let freshnessAgeMs ← int64Field "freshness_age_ms" j
    let uncertaintyValid ← boolField "uncertainty_valid" j
    let uncertaintyMs ← int64Field "uncertainty_ms" j
    let remainingValidityMs ← int64Field "remaining_validity_ms" j
    let driftBoundPpm ← int64Field "drift_bound_ppm" j
    let systemClockAligned ← boolField "system_clock_aligned" j
    let alignmentErrorMs ← int64Field "alignment_error_ms" j
    let authStatus ← textField "auth_status" j
    let evidenceRef ← textField "evidence_ref" j
    let valid ← boolField "valid" j
    let errorClass ← textField "error_class" j
    some
      { contractVersion, capabilities, contractComplete, secDaemonEpoch, secTimeEventSequence
        timeDaemonEpoch, timeEventSequence, sourceId, sourceKind, sourceEpoch, policyVersion
        trustState, source, reason, utcValid, utcEpochMs, freshnessAgeMs, uncertaintyValid
        uncertaintyMs, remainingValidityMs, driftBoundPpm, systemClockAligned, alignmentErrorMs
        authStatus, evidenceRef, valid, errorClass }

end TboxSec.Ipc
