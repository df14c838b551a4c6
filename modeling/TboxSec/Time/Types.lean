import TboxSec.Keyprov.Types

/-!
# Trusted time: the data model

The types of `trusted_time.h` and of the wire envelope `tbox/sec/time.h`.

Every count of milliseconds is an integer here. The C++ code computes with `int64_t`, whose
overflow has no defined result; where it computes with numbers that come from outside, the model
keeps the width of 64 bits. A `system_clock` time point is the integer count of its
ticks, nanoseconds since the epoch; a C++ field with a separate presence flag that is set
together with it is an `Option`.

Left out are the fields no decision reads: the socket path, the query timeout, the cache age
limit and the diagnostic texts.
-/

namespace TboxSec.Time

open Keyprov (TimeTrustState)

/-! ### Enumerations -/

/-- `TimeSource`. -/
inductive TimeSource where
  | platformSync | hardwareRtc | fakeTest | none
  deriving DecidableEq

/-- `TimeSyncState`. -/
inductive TimeSyncState where
  | unsynch | syncing | synced | holdover | fault
  deriving DecidableEq

/-- `TimeSourceKind`. -/
inductive TimeSourceKind where
  | none | ntpNetwork | cellular | gnss | hardwareRtc
  deriving DecidableEq

/-- `TimeAuthStatus`. -/
inductive TimeAuthStatus where
  | unknown | unverified | verified | failed
  deriving DecidableEq

/-- `TimeReason`. -/
inductive TimeReason where
  | platformSynced | platformNotSynchronized | platformNotAuthenticated
  | platformAuthUnverifiable | platformContractIncomplete | platformTooOld
  | platformUncertaintyTooHigh | platformRollbackDetected | platformValidityExpired
  | platformInterfaceUnavailable | platformMalformed
  | rtcProvisioned | rtcNotProvisioned | rtcNotHealthy | rtcOutOfRange | rtcRollbackDetected
  | rtcReadError | rtcInterfaceUnavailable
  | noSourceAvailable | timeExpired | fakeTest
  deriving DecidableEq

/-- `timeTrustStateToString`. -/
def timeTrustStateToString : TimeTrustState → String
  | .trusted => "trusted"
  | .untrusted => "untrusted"
  | .unknown => "unknown"

/-- `timeSourceToString`. -/
def timeSourceToString : TimeSource → String
  | .platformSync => "platform_sync"
  | .hardwareRtc => "hardware_rtc"
  | .fakeTest => "fake_test"
  | .none => "none"

/-- `timeReasonToString`. -/
def timeReasonToString : TimeReason → String
  | .platformSynced => "platform_synced"
  | .platformNotSynchronized => "platform_not_synchronized"
  | .platformNotAuthenticated => "platform_not_authenticated"
  | .platformAuthUnverifiable => "platform_auth_unverifiable"
  | .platformContractIncomplete => "platform_contract_incomplete"
  | .platformTooOld => "platform_too_old"
  | .platformUncertaintyTooHigh => "platform_uncertainty_too_high"
  | .platformRollbackDetected => "platform_rollback_detected"
  | .platformValidityExpired => "platform_validity_expired"
  | .platformInterfaceUnavailable => "platform_interface_unavailable"
  | .platformMalformed => "platform_malformed"
  | .rtcProvisioned => "rtc_provisioned"
  | .rtcNotProvisioned => "rtc_not_provisioned"
  | .rtcNotHealthy => "rtc_not_healthy"
  | .rtcOutOfRange => "rtc_out_of_range"
  | .rtcRollbackDetected => "rtc_rollback_detected"
  | .rtcReadError => "rtc_read_error"
  | .rtcInterfaceUnavailable => "rtc_interface_unavailable"
  | .noSourceAvailable => "no_source_available"
  | .timeExpired => "time_expired"
  | .fakeTest => "fake_test"

/-- `timeSourceKindToString`. -/
def timeSourceKindToString : TimeSourceKind → String
  | .none => "none"
  | .ntpNetwork => "ntp_network"
  | .cellular => "cellular"
  | .gnss => "gnss"
  | .hardwareRtc => "hardware_rtc"

/-- `timeAuthStatusToString`. -/
def timeAuthStatusToString : TimeAuthStatus → String
  | .unknown => "unknown"
  | .unverified => "unverified"
  | .verified => "verified"
  | .failed => "failed"

/-! ### Samples, facts and results -/

/-- The ticks of `system_clock` in a millisecond. -/
def ticksPerMs : ℤ := 1000000

/-- `duration_cast<milliseconds>` of a `system_clock` time point: towards zero. -/
def toMs (ticks : ℤ) : ℤ := ticks.tdiv ticksPerMs

/-- `TrustedTimeSample`; `utcNow` is in ticks. -/
structure TrustedTimeSample where
  utcNow : ℤ := 0
  trustState : TimeTrustState := .unknown
  source : TimeSource := .none
  freshnessAge : ℤ := 0
  uncertainty : ℤ := 0
  reason : TimeReason := .noSourceAvailable
  sourceEpoch : ℕ := 0
  deriving DecidableEq

/-- `TimeFactSnapshot`. -/
structure TimeFactSnapshot where
  contractVersion : ℕ := 0
  capabilities : String := ""
  timeDaemonEpoch : ℕ := 0
  timeEventSequence : ℕ := 0
  state : TimeSyncState := .unsynch
  sourceId : String := ""
  sourceKind : TimeSourceKind := .none
  sourceEpoch : ℕ := 0
  utcValid : Bool := false
  utcEpochMs : ℤ := 0
  systemClockAligned : Bool := false
  alignmentErrorMs : ℤ := 0
  freshnessAgeMs : ℤ := 0
  uncertaintyValid : Bool := false
  uncertaintyMs : ℤ := 0
  remainingValidityMs : ℤ := 0
  driftBoundPpm : ℤ := 0
  authStatus : TimeAuthStatus := .unknown
  evidenceRef : String := ""
  policyVersion : String := ""
  rttMs : ℤ := 0
  receivedBootMs : ℤ := 0
  transportOk : Bool := false
  validated : Bool := false
  contractComplete : Bool := false
  deriving DecidableEq

/-- `TrustedTimeResult`. -/
structure TrustedTimeResult where
  sample : TrustedTimeSample := {}
  contractVersion : ℕ := 0
  capabilities : String := ""
  contractComplete : Bool := false
  secDaemonEpoch : ℕ := 0
  secTimeEventSequence : ℕ := 0
  timeDaemonEpoch : ℕ := 0
  timeEventSequence : ℕ := 0
  sourceId : String := ""
  sourceKind : TimeSourceKind := .none
  policyVersion : String := ""
  systemClockAligned : Bool := false
  alignmentErrorMs : ℤ := 0
  remainingValidityMs : ℤ := 0
  driftBoundPpm : ℤ := 0
  authStatus : TimeAuthStatus := .unknown
  evidenceRef : String := ""
  utcValid : Bool := false
  errorClass : String := ""
  deriving DecidableEq

/-- `TrustedTimeConfig`, with the defaults of the header. -/
structure TrustedTimeConfig where
  platformEnabled : Bool := true
  maxFreshness : ℤ := 300000
  maxUncertainty : ℤ := 2000
  hwRtcEnabled : Bool := true
  hwRtcRequireProvisioned : Bool := true
  rollbackTolerance : ℤ := 2000
  monitorRefreshInterval : ℤ := 500
  leaseMax : ℤ := 1000
  approvedPolicyVersions : List String := ["1"]
  approvedSources : List String := []
  requireEvidence : Bool := true
  deriving DecidableEq

/-! ### The wire envelope -/

/-- `TrustedTimeEnvelope`. -/
structure TrustedTimeEnvelope where
  contractVersion : ℕ
  capabilities : String
  contractComplete : Bool
  secDaemonEpoch : ℕ
  secTimeEventSequence : ℕ
  timeDaemonEpoch : ℕ
  timeEventSequence : ℕ
  sourceId : String
  sourceKind : String
  sourceEpoch : ℕ
  policyVersion : String
  trustState : String
  source : String
  reason : String
  utcValid : Bool
  utcEpochMs : ℤ
  freshnessAgeMs : ℤ
  uncertaintyValid : Bool
  uncertaintyMs : ℤ
  remainingValidityMs : ℤ
  driftBoundPpm : ℤ
  systemClockAligned : Bool
  alignmentErrorMs : ℤ
  authStatus : String
  evidenceRef : String
  valid : Bool
  errorClass : String
  deriving DecidableEq

/-- `TrustedTimeResult::to_envelope`. -/
def TrustedTimeResult.toEnvelope (r : TrustedTimeResult) : TrustedTimeEnvelope where
  contractVersion := r.contractVersion
  capabilities := r.capabilities
  contractComplete := r.contractComplete
  secDaemonEpoch := r.secDaemonEpoch
  secTimeEventSequence := r.secTimeEventSequence
  timeDaemonEpoch := r.timeDaemonEpoch
  timeEventSequence := r.timeEventSequence
  sourceId := r.sourceId
  sourceKind := timeSourceKindToString r.sourceKind
  sourceEpoch := r.sample.sourceEpoch
  policyVersion := r.policyVersion
  trustState := timeTrustStateToString r.sample.trustState
  source := timeSourceToString r.sample.source
  reason := timeReasonToString r.sample.reason
  utcValid := r.utcValid
  utcEpochMs := if r.utcValid then toMs r.sample.utcNow else 0
  freshnessAgeMs := r.sample.freshnessAge
  uncertaintyValid := r.utcValid
  uncertaintyMs := r.sample.uncertainty
  remainingValidityMs := r.remainingValidityMs
  driftBoundPpm := r.driftBoundPpm
  systemClockAligned := r.systemClockAligned
  alignmentErrorMs := r.alignmentErrorMs
  authStatus := timeAuthStatusToString r.authStatus
  evidenceRef := r.evidenceRef
  valid := r.errorClass == ""
  errorClass := r.errorClass

end TboxSec.Time
