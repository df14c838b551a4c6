import TboxSec.Time.Types
import TboxSec.Lib.Checks
import TboxSec.Lib.FixedWidth
import Mathlib.Data.List.Infix

/-!
# The composite provider

`CompositeTrustedTimeProvider` asks the platform first and the hardware clock second, and
passes each answer through its gate. A gate either **grants** a lease, with the values
brought forward to the current instant, or names the reason it does not.

The provider keeps one number across queries: the **last known good** time, the greatest
UTC it has ever granted. Both gates refuse a time that lies further behind it than the
tolerance.

The platform gate computes with numbers that another process supplies, in 64 bits, and nothing
bounds them from above before it does. So its program (`platformGate`) leaves open what becomes of
the exact result of an operation. `gatePlatform` reads it for a machine whose operations wrap
around; the exact reading and the one in which an overflow has no result are in `Overflow`. What
the code computes from its own configuration and its last known good time alone is exact here.
-/

namespace TboxSec.Time

open Keyprov (TimeTrustState)

variable (cfg : TrustedTimeConfig)

/-- The fields of `CompositeTrustedTimeProvider` that queries change. The epoch is recorded
and never read. -/
structure Composite where
  /-- `last_known_good_`, once `has_lkg_` is set. -/
  lastKnownGood : Option ℤ := none
  /-- `last_epoch_`, once `has_epoch_` is set. -/
  lastEpoch : Option ℕ := none
  deriving DecidableEq

/-! ### The platform gate -/

/-- `authBound`. -/
def authBound (f : TimeFactSnapshot) : Bool :=
  f.authStatus == .verified && cfg.approvedPolicyVersions.contains f.policyVersion &&
    !(cfg.requireEvidence && f.evidenceRef == "") &&
    !(!cfg.approvedSources.isEmpty && !cfg.approvedSources.contains f.sourceId)

/-- `contractComplete`. -/
def contractComplete (f : TimeFactSnapshot) : Bool :=
  f.validated && f.contractVersion != 0 &&
    decide ("snapshot".toList <:+: f.capabilities.toList) && f.timeDaemonEpoch != 0 &&
    f.sourceId != "" && f.sourceKind != .none && f.policyVersion != "" &&
    decide (0 < f.driftBoundPpm) && decide (0 ≤ f.remainingValidityMs) &&
    decide (0 ≤ f.freshnessAgeMs) && decide (0 ≤ f.uncertaintyMs)

/-- `age_eff`, `u_eff`, `remain` and `utc_eff`: the values of facts at the instant of the gate. -/
structure Effective where
  age : ℤ
  uncertainty : ℤ
  remain : ℤ
  utc : ℤ
  deriving DecidableEq

section

variable {m : Type → Type} [Monad m] (op : ℤ → m ℤ)

/-- The effective values of the facts at the boot time `now`. The quotient is the C++ one,
towards zero; like the comparisons it cannot overflow. -/
def effective (f : TimeFactSnapshot) (now : ℤ) : m Effective := do
  let gap ← op (now - f.receivedBootMs)
  let elapsed := max 0 gap
  let age ← op (f.freshnessAgeMs + f.rttMs)
  let age ← op (age + elapsed)
  let growth ← op (f.driftBoundPpm * age)
  let uncertainty ← op (f.uncertaintyMs + growth.tdiv 1000000)
  let remain ← op (f.remainingValidityMs - f.rttMs)
  let remain ← op (remain - elapsed)
  let utc ← op (f.utcEpochMs + age)
  pure { age, uncertainty, remain, utc }

/-- The `lease` of the platform gate. -/
def platformLease (v : Effective) : m ℤ := do
  let freshnessBudget ← op (cfg.maxFreshness - v.age)
  let uncertaintyBudget ← op (cfg.maxUncertainty - v.uncertainty)
  pure (max 0 (min cfg.leaseMax (min v.remain (min freshnessBudget uncertaintyBudget))))

end

/-- The rollback test of the platform gate, in milliseconds. -/
def rolledBackMs (c : Composite) (utcMs : ℤ) : Bool :=
  match c.lastKnownGood with
  | none => false
  | some good => decide (utcMs < toMs good - cfg.rollbackTolerance)

/-- The facts of the source that every later answer of the platform gate carries. -/
def carriedFacts (f : TimeFactSnapshot) : TrustedTimeResult :=
  { sample := { source := .platformSync, sourceEpoch := f.sourceEpoch }
    contractVersion := f.contractVersion
    capabilities := f.capabilities
    timeDaemonEpoch := f.timeDaemonEpoch
    timeEventSequence := f.timeEventSequence
    sourceId := f.sourceId
    sourceKind := f.sourceKind
    policyVersion := f.policyVersion
    authStatus := f.authStatus
    evidenceRef := f.evidenceRef
    systemClockAligned := f.systemClockAligned
    alignmentErrorMs := f.alignmentErrorMs
    driftBoundPpm := f.driftBoundPpm
    utcValid := f.utcValid
    contractComplete := f.contractComplete }

/-- A gate's refusal. -/
def TrustedTimeResult.refuse (out : TrustedTimeResult) (v : TimeTrustState × TimeReason) :
    TrustedTimeResult :=
  { out with sample.trustState := v.1, sample.reason := v.2 }

/-- The refusals of the platform gate between the contract and the arithmetic, in order. -/
def accessChecks (f : TimeFactSnapshot) : List (Bool × (TimeTrustState × TimeReason)) :=
  [(f.authStatus == .unverified || f.authStatus == .failed,
      .untrusted, .platformNotAuthenticated),
   (!authBound cfg f, .unknown, .platformAuthUnverifiable),
   (!f.utcValid || !f.uncertaintyValid, .unknown, .platformContractIncomplete)]

/-- The refusals of the platform gate that compare the effective values, in order. -/
def limitChecks (c : Composite) (v : Effective) : List (Bool × (TimeTrustState × TimeReason)) :=
  [(decide (v.age > cfg.maxFreshness), .untrusted, .platformTooOld),
   (decide (v.uncertainty > cfg.maxUncertainty), .untrusted, .platformUncertaintyTooHigh),
   (rolledBackMs cfg c v.utc, .untrusted, .platformRollbackDetected)]

/-- The grant of the platform gate: the effective values `v` under the lease `lease`. The time
point is made of `ticks`, which are nanoseconds. -/
def platformGrant (f : TimeFactSnapshot) (v : Effective) (lease ticks : ℤ) : TrustedTimeResult :=
  { carriedFacts f with
    contractComplete := true
    sample :=
      { source := .platformSync
        sourceEpoch := f.sourceEpoch
        trustState := .trusted
        reason := .platformSynced
        utcNow := ticks
        freshnessAge := v.age
        uncertainty := v.uncertainty }
    remainingValidityMs := lease }

/-- The refusals of the platform gate that stand before the arithmetic. -/
def earlyRefusal (f : TimeFactSnapshot) : Option TrustedTimeResult :=
  let bare : TrustedTimeResult := { sample := { source := .platformSync } }
  if !f.transportOk then some (bare.refuse (.unknown, .platformInterfaceUnavailable))
  else if !f.validated then some (bare.refuse (.unknown, .platformContractIncomplete))
  else if f.state ≠ .synced then
    some ((carriedFacts f).refuse (.untrusted, .platformNotSynchronized))
  else if !contractComplete f then
    some ({ carriedFacts f with contractComplete := false }.refuse
      (.unknown, .platformContractIncomplete))
  else
    (firstReject (accessChecks cfg f)).map fun refusal =>
      { carriedFacts f with contractComplete := true }.refuse refusal

/-- The platform gate at the boot time `now`, with `op` for what becomes of the exact result of an
operation. -/
def platformGate {m : Type → Type} [Monad m] (op : ℤ → m ℤ) (c : Composite)
    (f : TimeFactSnapshot) (now : ℤ) : m TrustedTimeResult :=
  match earlyRefusal cfg f with
  | some r => pure r
  | none => do
    let known : TrustedTimeResult := { carriedFacts f with contractComplete := true }
    let v ← effective op f now
    match firstReject (limitChecks cfg c v) with
    | some refusal => pure (known.refuse refusal)
    | none =>
      let lease ← platformLease cfg op v
      if lease ≤ 0 then pure (known.refuse (.untrusted, .platformValidityExpired))
      else
        let ticks ← op (v.utc * ticksPerMs)
        pure (platformGrant f v lease ticks)

/-- The platform gate of a machine that makes `fit n` of the exact result `n` of an operation. -/
def gateOn (fit : ℤ → ℤ) (c : Composite) (f : TimeFactSnapshot) (now : ℤ) : TrustedTimeResult :=
  Id.run (platformGate cfg (fun n => pure (fit n)) c f now)

/-- `gatePlatform`: the operations of 64 bits wrap around. -/
def gatePlatform (c : Composite) (f : TimeFactSnapshot) (now : ℤ) : TrustedTimeResult :=
  gateOn cfg wrapSigned c f now

/-! ### The hardware clock gate -/

/-- The rollback test of the hardware clock gate, in ticks. -/
def rolledBackTicks (c : Composite) (utc : ℤ) : Bool :=
  match c.lastKnownGood with
  | none => false
  | some good => decide (utc < good - cfg.rollbackTolerance * ticksPerMs)

/-- The `lease` of the hardware clock gate. -/
def rtcLease (s : TrustedTimeSample) : ℤ :=
  max 0 (min cfg.leaseMax (wrapSigned (cfg.maxUncertainty - s.uncertainty)))

/-- The refusals of the hardware clock gate for a sample that claims to be trusted. -/
def rtcChecks (c : Composite) (s : TrustedTimeSample) :
    List (Bool × (TimeTrustState × TimeReason)) :=
  [(s.source != .hardwareRtc, .untrusted, .platformMalformed),
   (cfg.hwRtcRequireProvisioned && s.reason != .rtcProvisioned, .untrusted, .rtcNotProvisioned),
   (decide (s.uncertainty > cfg.maxUncertainty), .untrusted, .rtcNotHealthy),
   (rolledBackTicks cfg c s.utcNow, .untrusted, .rtcRollbackDetected),
   (decide (rtcLease cfg s ≤ 0), .untrusted, .rtcNotHealthy)]

/-- `gateHardwareRtc`. -/
def gateHardwareRtc (c : Composite) (s : TrustedTimeSample) : TrustedTimeResult :=
  let out : TrustedTimeResult := { sample := s }
  if s.trustState ≠ .trusted then out
  else
    match firstReject (rtcChecks cfg c s) with
    | some v => out.refuse v
    | none => { out with remainingValidityMs := rtcLease cfg s }

/-! ### The query -/

/-- `acceptAsKnownGood`. -/
def acceptAsKnownGood (c : Composite) (s : TrustedTimeSample) : Composite where
  lastKnownGood :=
    match c.lastKnownGood with
    | none => some s.utcNow
    | some good => if s.utcNow > good then some s.utcNow else some good
  lastEpoch := some s.sourceEpoch

/-- How much a reason tells: the classes of `moreSpecific`. -/
def reasonClass : TimeReason → ℕ
  | .noSourceAvailable => 0
  | .platformInterfaceUnavailable | .rtcInterfaceUnavailable => 1
  | _ => 2

/-- `moreSpecific`. -/
def moreSpecific (a b : TimeReason) : Bool := decide (reasonClass a > reasonClass b)

/-- The gate of a source that may be missing or switched off. -/
def gated {α : Type} (enabled : Bool) (gate : α → TrustedTimeResult) (answer : Option α) :
    Option TrustedTimeResult :=
  if enabled then answer.map gate else none

/-- What `query` answers when no source is asked. -/
def noSource : TrustedTimeResult :=
  { sample := { trustState := .untrusted, reason := .noSourceAvailable, source := .none } }

/-- The answer of `query` when neither gate grants: the reason that tells most, the platform's
first. -/
def fallback (platform rtc : Option TrustedTimeResult) : TrustedTimeResult :=
  let first := platform.getD noSource
  match rtc with
  | none => first
  | some g => if moreSpecific g.sample.reason first.sample.reason then g else first

/-- The gates' answers: a source whose pointer is null has no answer. -/
def platformAnswer (c : Composite) (facts : Option TimeFactSnapshot) (now : ℤ) :
    Option TrustedTimeResult :=
  gated cfg.platformEnabled (gatePlatform cfg c · now) facts

/-- The hardware clock's part of `platformAnswer`. -/
def rtcAnswer (c : Composite) (rtc : Option TrustedTimeSample) : Option TrustedTimeResult :=
  gated cfg.hwRtcEnabled (gateHardwareRtc cfg c) rtc

/-- A gate granted. -/
def TrustedTimeResult.granted (r : TrustedTimeResult) : Bool := r.sample.trustState == .trusted

/-- `CompositeTrustedTimeProvider::query`, from what the two sources answer and the boot time
the platform gate reads. -/
def query (c : Composite) (facts : Option TimeFactSnapshot) (rtc : Option TrustedTimeSample)
    (now : ℤ) : TrustedTimeResult × Composite :=
  let platform := platformAnswer cfg c facts now
  match platform.filter (·.granted) with
  | some g => (g, acceptAsKnownGood c g.sample)
  | none =>
    let hardware := rtcAnswer cfg c rtc
    match hardware.filter (·.granted) with
    | some g => (g, acceptAsKnownGood c g.sample)
    | none => (fallback platform hardware, c)

end TboxSec.Time
