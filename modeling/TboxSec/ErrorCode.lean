/-!
# Error codes

`ErrorCode` of `tbox/sec/errors.h` and its symbolic names. The names are data of the
protocol: a failed import stores one in its journal record.
-/

namespace TboxSec

/-- `ErrorCode`. -/
inductive ErrorCode where
  | success | keyGenerationFailed | keyAlreadyExists | keyNotFound | csrBuildFailed
  | csrInvalidSubject | csrSignFailed | pkiRejected | pkiTimeout | pkiConnectionFailed
  | pkiInvalidResponse | certValidationFailed | certKeyMismatch | certExpired
  | certInstallFailed | hsmInitFailed | hsmCommunicationFailed | hsmKeyGenerationFailed
  | hsmSignFailed | hsmVerificationFailed | storageWriteFailed | storageReadFailed
  | storageCorruption | udsSessionTimeout | udsSecurityDenied | udsInvalidRequest
  | seedGenerationFailed | keyVerificationFailed | softKeyModeNotAllowed
  | tlsCredentialNotReady | tlsCredentialInvalid | tlsKeyRefInvalid
  | tlsSignAlgorithmNotAllowed | tlsHsmSignFailed | tlsMaterialKeyMissing
  | tlsMaterialFormatInvalid | tlsChainInvalid | tlsKeyMismatch | tlsCertExpired | tlsCaInvalid
  | businessKeyUnsupported | businessKeyConflict | wrappedKeyInvalid | businessKeyImportUnknown
  | businessKeyNotReady | businessKeyPartialRollback | businessKeyOutcomeUnknown
  | kl1AdmissionRejected | kl1CapabilityEpochMismatch | trustedTimeUnavailable
  | trustedTimeTimeout | trustedTimeUnsupported | trustedTimeMalformed | aclDenied
  | configError | invalidParameter | notInitialized | operationInProgress | notImplemented
  | connectionFailed | provNotConfigured | internalError
  deriving DecidableEq

/-- `error_code_to_string`. -/
def ErrorCode.toText : ErrorCode → String
  | .success => "SUCCESS"
  | .keyGenerationFailed => "KEY_GENERATION_FAILED"
  | .keyAlreadyExists => "KEY_ALREADY_EXISTS"
  | .keyNotFound => "KEY_NOT_FOUND"
  | .csrBuildFailed => "CSR_BUILD_FAILED"
  | .csrInvalidSubject => "CSR_INVALID_SUBJECT"
  | .csrSignFailed => "CSR_SIGN_FAILED"
  | .pkiRejected => "PKI_REJECTED"
  | .pkiTimeout => "PKI_TIMEOUT"
  | .pkiConnectionFailed => "PKI_CONNECTION_FAILED"
  | .pkiInvalidResponse => "PKI_INVALID_RESPONSE"
  | .certValidationFailed => "CERT_VALIDATION_FAILED"
  | .certKeyMismatch => "CERT_KEY_MISMATCH"
  | .certExpired => "CERT_EXPIRED"
  | .certInstallFailed => "CERT_INSTALL_FAILED"
  | .hsmInitFailed => "HSM_INIT_FAILED"
  | .hsmCommunicationFailed => "HSM_COMMUNICATION_FAILED"
  | .hsmKeyGenerationFailed => "HSM_KEY_GENERATION_FAILED"
  | .hsmSignFailed => "HSM_SIGN_FAILED"
  | .hsmVerificationFailed => "HSM_VERIFICATION_FAILED"
  | .storageWriteFailed => "STORAGE_WRITE_FAILED"
  | .storageReadFailed => "STORAGE_READ_FAILED"
  | .storageCorruption => "STORAGE_CORRUPTION"
  | .udsSessionTimeout => "UDS_SESSION_TIMEOUT"
  | .udsSecurityDenied => "UDS_SECURITY_DENIED"
  | .udsInvalidRequest => "UDS_INVALID_REQUEST"
  | .seedGenerationFailed => "SEED_GENERATION_FAILED"
  | .keyVerificationFailed => "KEY_VERIFICATION_FAILED"
  | .softKeyModeNotAllowed => "SOFT_KEY_MODE_NOT_ALLOWED"
  | .tlsCredentialNotReady => "TLS_CREDENTIAL_NOT_READY"
  | .tlsCredentialInvalid => "TLS_CREDENTIAL_INVALID"
  | .tlsKeyRefInvalid => "TLS_KEY_REF_INVALID"
  | .tlsSignAlgorithmNotAllowed => "TLS_SIGN_ALGORITHM_NOT_ALLOWED"
  | .tlsHsmSignFailed => "TLS_HSM_SIGN_FAILED"
  | .tlsMaterialKeyMissing => "TLS_MATERIAL_KEY_MISSING"
  | .tlsMaterialFormatInvalid => "TLS_MATERIAL_FORMAT_INVALID"
  | .tlsChainInvalid => "TLS_CHAIN_INVALID"
  | .tlsKeyMismatch => "TLS_KEY_MISMATCH"
  | .tlsCertExpired => "TLS_CERT_EXPIRED"
  | .tlsCaInvalid => "TLS_CA_INVALID"
  | .businessKeyUnsupported => "BUSINESS_KEY_UNSUPPORTED"
  | .businessKeyConflict => "BUSINESS_KEY_CONFLICT"
  | .wrappedKeyInvalid => "WRAPPED_KEY_INVALID"
  | .businessKeyImportUnknown => "BUSINESS_KEY_IMPORT_UNKNOWN"
  | .businessKeyNotReady => "BUSINESS_KEY_NOT_READY"
  | .businessKeyPartialRollback => "BUSINESS_KEY_PARTIAL_ROLLBACK"
  | .businessKeyOutcomeUnknown => "BUSINESS_KEY_OUTCOME_UNKNOWN"
  | .kl1AdmissionRejected => "KL1_ADMISSION_REJECTED"
  | .kl1CapabilityEpochMismatch => "KL1_CAPABILITY_EPOCH_MISMATCH"
  | .trustedTimeUnavailable => "TRUSTED_TIME_UNAVAILABLE"
  | .trustedTimeTimeout => "TRUSTED_TIME_TIMEOUT"
  | .trustedTimeUnsupported => "TRUSTED_TIME_UNSUPPORTED"
  | .trustedTimeMalformed => "TRUSTED_TIME_MALFORMED"
  | .aclDenied => "ACL_DENIED"
  | .configError => "CONFIG_ERROR"
  | .invalidParameter => "INVALID_PARAMETER"
  | .notInitialized => "NOT_INITIALIZED"
  | .operationInProgress => "OPERATION_IN_PROGRESS"
  | .notImplemented => "NOT_IMPLEMENTED"
  | .connectionFailed => "CONNECTION_FAILED"
  | .provNotConfigured => "PROV_NOT_CONFIGURED"
  | .internalError => "INTERNAL_ERROR"

end TboxSec
