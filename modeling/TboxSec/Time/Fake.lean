import TboxSec.Time.Publisher
import TboxSec.Lib.Machine

/-!
# The development source

`FakeTrustedTimeSnapshotSource` answers from an injected provider. It caches nothing: every
`get` takes a new sample, offers it for publication and then numbers it.

It is what a development build has in place of the monitor, behind the same interface.

* `FakeSource.get` refuses a stale token first, as the monitor does, and then samples.
* A trusted sample is given the whole lease that the configuration allows.
* `fakeSource` is the machine: any order of `start`, `stop` and `get`, with any samples.

Because it numbers an answer after publishing it, the number in the answer is that of the event
which describes it; the monitor stamps its cache before, and needs a condition for that.
-/

namespace TboxSec.Time

open Keyprov (TimeTrustState)

/-- The fields of `FakeTrustedTimeSnapshotSource`. -/
structure FakeSource where
  running : Bool := false
  tokensInvalidated : Bool := true
  secDaemonEpoch : ℕ := 0
  events : Publisher := {}

/-- The steps of the source. A sample is what the provider's `now` answers, `none` without a
provider. -/
inductive FakeAct where
  | start (boot : ℕ) (sample : Option TrustedTimeSample)
  | stop
  | get (token : ℕ) (sample : Option TrustedTimeSample)
  | subscribe
  | release (slot : ℕ)

namespace FakeSource

variable (leaseMax : ℤ)

/-- `snapshotLocked`. -/
def snapshot (s : FakeSource) (sample : Option TrustedTimeSample) : TrustedTimeResult :=
  let given := sample.getD {}
  let trusted := given.trustState == .trusted
  { contractVersion := 1
    capabilities := "snapshot,v1"
    contractComplete := true
    secDaemonEpoch := s.secDaemonEpoch
    secTimeEventSequence := s.events.sequence
    sourceId := "dev-test-fake"
    policyVersion := "dev_test_fake"
    systemClockAligned := true
    authStatus := .unverified
    evidenceRef := "dev_test_fake_profile"
    sample :=
      { given with
        source := .fakeTest
        sourceEpoch := 1
        freshnessAge := 0
        uncertainty := 0
        reason := if trusted then .fakeTest else given.reason }
    utcValid := true
    remainingValidityMs := if trusted then max 0 leaseMax else 0 }

/-- `start`. -/
def start (s : FakeSource) (boot : ℕ) (sample : Option TrustedTimeSample) : FakeSource :=
  if s.running then s
  else
    let s' : FakeSource :=
      { s with
        running := true
        tokensInvalidated := false
        secDaemonEpoch := if s.secDaemonEpoch = 0 then 1 + boot else s.secDaemonEpoch }
    { s' with events := s'.events.publishIfChanged (s'.snapshot leaseMax sample) }

/-- `stop`. -/
def stop (s : FakeSource) : FakeSource :=
  { s with running := false, tokensInvalidated := true, events.subscribers := [] }

/-- The token is refused. -/
def refusesToken (s : FakeSource) (token : ℕ) : Bool :=
  token != 0 && (token != s.secDaemonEpoch || s.tokensInvalidated)

/-- The answer to a token of another instance or of a stopped one. -/
def staleReply (s : FakeSource) : TrustedTimeResult :=
  { sample := { trustState := .unknown, source := .none, reason := .platformMalformed }
    secDaemonEpoch := s.secDaemonEpoch
    errorClass := "stale" }

/-- `get`. -/
def get (s : FakeSource) (token : ℕ) (sample : Option TrustedTimeSample) :
    FakeSource × TrustedTimeResult :=
  if s.refusesToken token then (s, s.staleReply)
  else
    let r := s.snapshot leaseMax sample
    let events := s.events.publishIfChanged r
    ({ s with events }, { r with secTimeEventSequence := events.sequence })

/-- One step of the source, with the answer of a `get`. -/
def step (s : FakeSource) : FakeAct → FakeSource × Option TrustedTimeResult
  | .start boot sample => (s.start leaseMax boot sample, none)
  | .stop => (s.stop, none)
  | .get token sample => ((s.get leaseMax token sample).1, some (s.get leaseMax token sample).2)
  | .subscribe => ({ s with events := s.events.subscribe }, none)
  | .release slot => ({ s with events := s.events.release slot }, none)

end FakeSource

/-- The development source as a machine. -/
def fakeSource (leaseMax : ℤ) : Machine FakeSource FakeAct (Option TrustedTimeResult) where
  step := FakeSource.step leaseMax

end TboxSec.Time
