import TboxSec.Time.Composite

/-!
# The platform adapter

`PlatformTimeAdapter` asks the TIME client for a snapshot and maps it to the facts the
composite judges. The client is outside the repository: its answers are data here. The
enumerations of the TIME SDK correspond constructor by constructor to the SEC ones, so
`mapState`, `mapKind` and `mapAuth` are identities.

* `TimeSnapshot` is the client's answer, with the fields that `mapSnapshot` copies.
* `adapterQuery` is the query. Without a connection, or when the client fails, there are no facts;
  a client that does not support the query leaves the mark that it was reached.
-/

namespace TboxSec.Time

/-- The fields of `tbox::time::TimeSnapshot` that are read, and what its `validate` answers. -/
structure TimeSnapshot where
  validate : Bool
  contractVersion : ℕ
  capabilities : String
  daemonEpoch : ℕ
  eventSequence : ℕ
  state : TimeSyncState
  sourceId : String
  sourceKind : TimeSourceKind
  sourceEpoch : ℕ
  utcValid : Bool
  utcEpochMs : ℤ
  systemClockAligned : Bool
  alignmentErrorMs : ℤ
  freshnessAgeMs : ℤ
  uncertaintyValid : Bool
  uncertaintyMs : ℤ
  remainingValidityMs : ℤ
  driftBoundPpm : ℤ
  authStatus : TimeAuthStatus
  evidenceRef : String
  policyVersion : String

/-- `TimeSourceClient::QueryResult`, by what the adapter makes of its error code. -/
inductive QueryResult where
  /-- `kOk` or `kTimeUnavailable`: a snapshot with the measured round trip. -/
  | snapshot (snap : TimeSnapshot) (rttMs : ℤ)
  | unsupported
  /-- Unreachable, timed out, invalid or failed. -/
  | failed

/-- `mapSnapshot`, received at the boot time `now`. -/
def mapSnapshot (snap : TimeSnapshot) (rttMs now : ℤ) : TimeFactSnapshot :=
  let f : TimeFactSnapshot :=
    { receivedBootMs := now
      rttMs := max 0 rttMs
      transportOk := true
      validated := snap.validate
      contractVersion := snap.contractVersion
      capabilities := snap.capabilities
      timeDaemonEpoch := snap.daemonEpoch
      timeEventSequence := snap.eventSequence
      state := snap.state
      sourceId := snap.sourceId
      sourceKind := snap.sourceKind
      sourceEpoch := snap.sourceEpoch
      utcValid := snap.utcValid
      utcEpochMs := snap.utcEpochMs
      systemClockAligned := snap.systemClockAligned
      alignmentErrorMs := snap.alignmentErrorMs
      freshnessAgeMs := snap.freshnessAgeMs
      uncertaintyValid := snap.uncertaintyValid
      uncertaintyMs := snap.uncertaintyMs
      remainingValidityMs := snap.remainingValidityMs
      driftBoundPpm := snap.driftBoundPpm
      authStatus := snap.authStatus
      evidenceRef := snap.evidenceRef
      policyVersion := snap.policyVersion }
  { f with contractComplete := contractComplete f }

/-- `PlatformTimeAdapter::query`: it starts at the boot time `asked`, and an answer of the
client is received at `received`. -/
def adapterQuery (connected : Bool) (answer : QueryResult) (asked received : ℤ) :
    TimeFactSnapshot :=
  if !connected then { receivedBootMs := asked }
  else
    match answer with
    | .snapshot snap rttMs => mapSnapshot snap rttMs received
    | .unsupported => { receivedBootMs := asked, transportOk := true }
    | .failed => { receivedBootMs := asked }

end TboxSec.Time
