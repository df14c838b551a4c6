import TboxSec.Time.Adapter
import TboxSec.Time.Publisher
import TboxSec.Lib.Machine

/-!
# The monitor

`TrustedTimeMonitor` keeps the last answer of the composite provider and reduces its lease by
the time gone by when it is read.

Every operation of the monitor runs under its mutex, so the monitor is a `Machine` whose steps
are the locked sections: one pass of the monitoring loop, one `get`, the three parts of `stop`.
A run is a list of such steps in **any order**. The boot clock is part of the state and only
moves forward: a label says how many milliseconds pass before each of its readings, also while
a query is under way.

The ghost field `latest` records the refresh the cache comes from.
-/

namespace TboxSec.Time

open Keyprov (TimeTrustState)

/-- How a monitor is set up: its configuration, and whether the pointers to its sources are
set. -/
structure Setup where
  cfg : TrustedTimeConfig
  platform : Bool := true
  rtc : Bool := true

/-- What the environment does during one step. -/
structure Env where
  /-- The milliseconds before the loop reads the clock. -/
  beforeLoop : ℕ := 0
  /-- Before `refreshLocked` or `revokeLocked` reads it. -/
  beforeRefresh : ℕ := 0
  /-- Before the adapter reads it. -/
  beforeQuery : ℕ := 0
  /-- Until the client's answer is received. -/
  beforeReceive : ℕ := 0
  /-- Before the platform gate reads it. -/
  beforeGate : ℕ := 0
  /-- Before `get` reads it. -/
  beforeReply : ℕ := 0
  /-- The client connects when asked to. -/
  connect : Bool := false
  /-- The client gives a handle for a subscription. -/
  subscribes : Bool := true
  client : QueryResult := .failed
  rtc : TrustedTimeSample := {}

/-- A call of `refreshLocked`: when it began, when the gate judged, the facts it read and what
the composite answered. -/
structure Refresh where
  began : ℤ
  judged : ℤ
  facts : TimeFactSnapshot
  result : TrustedTimeResult

/-- How far a call of `stop` has got. -/
inductive StopStage where
  | idle | revoked | joined
  deriving DecidableEq

/-- The fields of `TrustedTimeMonitor`, of its composite and of its client's connection. -/
structure Monitor where
  running : Bool := false
  refreshPending : Bool := false
  secDaemonEpoch : ℕ
  tokensInvalidated : Bool := false
  lastRefreshBootMs : ℤ := 0
  lastConnectAttemptMs : ℤ := 0
  /-- `cached_`, while `has_cached_` is set. -/
  cached : Option TrustedTimeResult := none
  /-- `time_sub_` is set. -/
  timeSub : Bool := false
  connected : Bool := false
  composite : Composite := {}
  events : Publisher := {}
  /-- The boot clock. -/
  boot : ℤ
  /-- The call of `stop` under way. -/
  stopping : StopStage := .idle
  /-- `stop` has returned and `start` was not called since. -/
  stopped : Bool := false
  /-- Ghost: the last call of `refreshLocked`. -/
  latest : Option Refresh := none

/-- A monitor constructed when the boot clock stood at `boot`. -/
def Monitor.new (boot : ℕ) : Monitor := { secDaemonEpoch := 1 + boot, boot := boot }

variable (S : Setup)

namespace Monitor

/-! ### Refresh and revocation -/

/-- The facts `composite_->query()` reads and the boot time of its gate, when it is entered at
the boot time `entered`. -/
def readFacts (m : Monitor) (e : Env) (entered : ℤ) : TimeFactSnapshot × ℤ :=
  let asked := entered + e.beforeQuery
  let received := asked + e.beforeReceive
  (adapterQuery m.connected e.client asked received, received + e.beforeGate)

/-- `composite_->query()`. -/
def queryComposite (m : Monitor) (e : Env) (entered : ℤ) : TrustedTimeResult × Composite :=
  query S.cfg m.composite (if S.platform then some (m.readFacts e entered).1 else none)
    (if S.rtc then some e.rtc else none) (m.readFacts e entered).2

/-- A result under the monitor's epoch and its current sequence number. -/
def stamp (m : Monitor) (r : TrustedTimeResult) : TrustedTimeResult :=
  { r with
    secDaemonEpoch := m.secDaemonEpoch
    secTimeEventSequence := m.events.sequence }

/-- `refreshLocked` does not keep a trusted result without a lease. -/
def dropEmptyLease (r : TrustedTimeResult) : TrustedTimeResult :=
  if r.granted && decide (r.remainingValidityMs ≤ 0) then
    { r with
      sample.trustState := .untrusted
      sample.reason := .platformValidityExpired
      remainingValidityMs := 0 }
  else r

/-- What `refreshLocked` caches. -/
def refreshed (m : Monitor) (e : Env) : TrustedTimeResult :=
  dropEmptyLease (m.stamp (m.queryComposite S e (m.boot + e.beforeRefresh)).1)

/-- What `revokeLocked` caches in place of `r`. -/
def revoked (m : Monitor) (r : TrustedTimeResult) (reason : TimeReason) : TrustedTimeResult :=
  m.stamp
    { r with
      sample.trustState := .untrusted
      sample.reason := reason
      remainingValidityMs := 0 }

/-- The cache is replaced at the boot time `now` and offered for publication. -/
def recache (m : Monitor) (now : ℤ) (r : TrustedTimeResult) : Monitor :=
  { m with
    lastRefreshBootMs := now
    cached := some r
    events := m.events.publishIfChanged r }

/-- `refreshLocked`. -/
def refresh (m : Monitor) (e : Env) : Monitor :=
  let began := m.boot + e.beforeRefresh
  let read := m.readFacts e began
  let q := m.queryComposite S e began
  { m.recache began (m.refreshed S e) with
    composite := q.2
    boot := read.2
    latest := some { began, judged := read.2, facts := read.1, result := q.1 } }

/-- `revokeLocked`. -/
def revoke (m : Monitor) (e : Env) (r : TrustedTimeResult) (reason : TimeReason) : Monitor :=
  let now := m.boot + e.beforeRefresh
  { m.recache now (m.revoked r reason) with boot := now }

/-! ### The monitoring loop -/

/-- The connection part of a pass at the boot time `now`. -/
def manageConnection (m : Monitor) (e : Env) (now : ℤ) : Monitor :=
  if !(S.cfg.platformEnabled && S.platform) then m
  else if !m.connected then
    if now - m.lastConnectAttemptMs ≥ 2000 then
      if e.connect then
        { m with
          lastConnectAttemptMs := now, connected := true, timeSub := e.subscribes
          refreshPending := true }
      else { m with lastConnectAttemptMs := now }
    else m
  else if !m.timeSub then { m with timeSub := e.subscribes, refreshPending := true }
  else m

/-- The refresh part of a pass at the boot time `now`. -/
def manageCache (m : Monitor) (e : Env) (now : ℤ) : Monitor :=
  if m.refreshPending then refresh S { m with refreshPending := false } e
  else if now - m.lastRefreshBootMs ≥ S.cfg.monitorRefreshInterval then refresh S m e
  else
    match m.cached with
    | none => m
    | some r =>
      if r.granted && decide (now - m.lastRefreshBootMs ≥ r.remainingValidityMs) then
        m.revoke e r .timeExpired
      else m

/-- One pass of `runLoop`; the loop ends when the monitor does not run. -/
def loopPass (m : Monitor) (e : Env) : Monitor :=
  if !m.running then m
  else
    let now := m.boot + e.beforeLoop
    manageCache S (manageConnection S { m with boot := now } e now) e now

/-! ### Reading the cache -/

/-- The answer to a token of another instance or of a stopped one. -/
def staleReply (m : Monitor) : TrustedTimeResult :=
  { sample := { trustState := .unknown, source := .none, reason := .platformMalformed }
    secDaemonEpoch := m.secDaemonEpoch
    errorClass := "stale" }

/-- The token is refused. -/
def refusesToken (m : Monitor) (token : ℕ) : Bool :=
  token != 0 && (token != m.secDaemonEpoch || m.tokensInvalidated)

/-- The cached result as `get` shows it: the lease is reduced by the time since the refresh. -/
def shown (m : Monitor) (r : TrustedTimeResult) : TrustedTimeResult :=
  if r.granted then
    let remaining := r.remainingValidityMs - max 0 (m.boot - m.lastRefreshBootMs)
    if remaining ≤ 0 then
      { r with
        sample.trustState := .untrusted
        sample.reason := .timeExpired
        remainingValidityMs := 0 }
    else { r with remainingValidityMs := remaining }
  else r

/-- The monitor when `get` reads its cache: refreshed if there is none. -/
def beforeReading (m : Monitor) (e : Env) : Monitor :=
  let m' := if m.cached.isNone then refresh S m e else m
  { m' with boot := m'.boot + e.beforeReply }

/-- `get`. -/
def get (m : Monitor) (token : ℕ) (e : Env) : Monitor × TrustedTimeResult :=
  if m.refusesToken token then (m, m.staleReply)
  else
    let m' := m.beforeReading S e
    (m', m'.shown (m'.cached.getD {}))

/-! ### Start and stop -/

/-- `start`. It is called by the thread that calls `stop`, so never while one is under way. -/
def start (m : Monitor) : Monitor :=
  if m.stopping ≠ .idle ∨ m.running then m
  else { m with running := true, tokensInvalidated := false, stopped := false }

/-- The locked section of `stop`. -/
def stopLocked (m : Monitor) : Monitor :=
  if m.stopping ≠ .idle then m
  else
    { m with
      running := false
      tokensInvalidated := true
      cached := none
      timeSub := m.timeSub && !m.running
      stopping := .revoked }

/-- `stop` joins the loop thread. -/
def stopJoin (m : Monitor) : Monitor :=
  if m.stopping = .revoked then { m with stopping := .joined } else m

/-- `stop` disconnects the platform and returns. -/
def stopDisconnect (m : Monitor) : Monitor :=
  if m.stopping = .joined then
    { m with connected := m.connected && !S.platform, stopping := .idle, stopped := true }
  else m

end Monitor

/-! ### The machine -/

/-- The steps of a monitor and of what is around it. -/
inductive Act where
  | start
  | stopLocked
  | stopJoin
  | stopDisconnect
  | loopPass (e : Env)
  | get (token : ℕ) (e : Env)
  /-- `refresh_now`, also from an event of the TIME service. -/
  | refreshNow
  /-- `provider()->now()`, called by another component. -/
  | providerNow (e : Env)
  /-- The connection to the TIME service is lost. -/
  | linkLost
  /-- The boot clock moves on. -/
  | tick (ms : ℕ)
  | subscribe
  /-- The handle of a subscription is destroyed. -/
  | release (slot : ℕ)

/-- `provider()->now()` asks the same composite. -/
def Monitor.providerNow (m : Monitor) (e : Env) : Monitor :=
  { m with composite := (m.queryComposite S e m.boot).2, boot := (m.readFacts e m.boot).2 }

/-- One step of the monitor, with the answer of a `get`. -/
def Monitor.step (m : Monitor) : Act → Monitor × Option TrustedTimeResult
  | .start => (m.start, none)
  | .stopLocked => (m.stopLocked, none)
  | .stopJoin => (m.stopJoin, none)
  | .stopDisconnect => (m.stopDisconnect S, none)
  | .loopPass e => (m.loopPass S e, none)
  | .get token e => ((m.get S token e).1, some (m.get S token e).2)
  | .refreshNow => ({ m with refreshPending := true }, none)
  | .providerNow e => (m.providerNow S e, none)
  | .linkLost => ({ m with connected := false }, none)
  | .tick ms => ({ m with boot := m.boot + ms }, none)
  | .subscribe => ({ m with events := m.events.subscribe }, none)
  | .release slot => ({ m with events := m.events.release slot }, none)

/-- The monitor as a machine. -/
def monitor : Machine Monitor Act (Option TrustedTimeResult) where
  step := Monitor.step S

/-! ### What a step does -/

variable {S} {m : Monitor}

/-- The actions that start and stop the monitor. -/
def Act.isControl : Act → Bool
  | .start | .stopLocked | .stopJoin | .stopDisconnect => true
  | _ => false

namespace Monitor

theorem start_cases : m.start = m ∨ m.stopping = .idle ∧
    m.start = { m with running := true, tokensInvalidated := false, stopped := false } := by
  unfold start
  split
  · exact .inl rfl
  · rename_i hidle
    exact .inr ⟨not_not.mp fun h => hidle (.inl h), rfl⟩

theorem stopLocked_cases : m.stopping ≠ .idle ∧ m.stopLocked = m ∨
    m.stopLocked =
      { m with
        running := false
        tokensInvalidated := true
        cached := none
        timeSub := m.timeSub && !m.running
        stopping := .revoked } := by
  unfold stopLocked
  split
  · rename_i hstage
    exact .inl ⟨hstage, rfl⟩
  · exact .inr rfl

theorem stopJoin_cases : m.stopJoin = m ∨
    m.stopping = .revoked ∧ m.stopJoin = { m with stopping := .joined } := by
  unfold stopJoin
  split
  · rename_i hstage
    exact .inr ⟨hstage, rfl⟩
  · exact .inl rfl

theorem stopDisconnect_cases : m.stopDisconnect S = m ∨ m.stopping = .joined ∧
    m.stopDisconnect S =
      { m with connected := m.connected && !S.platform, stopping := .idle, stopped := true } := by
  unfold stopDisconnect
  split
  · rename_i hstage
    exact .inr ⟨hstage, rfl⟩
  · exact .inl rfl

/-- **Starting and stopping** change the control fields and the connection alone; the cache
stays, or is emptied. -/
theorem step_of_isControl {a : Act} (ha : a.isControl = true) :
    ∃ running tokensInvalidated stopping stopped connected timeSub cached,
      (cached = m.cached ∨ cached = none) ∧
      m.step S a =
        ({ m with running, tokensInvalidated, stopping, stopped, connected, timeSub, cached },
          none) := by
  cases a with
  | start =>
    change ∃ _ _ _ _ _ _ _, _ ∧ (m.start, none) = _
    rcases m.start_cases with heq | ⟨-, heq⟩
    · exact ⟨_, _, _, _, _, _, _, .inl rfl, by rw [heq]⟩
    · exact ⟨_, _, _, _, _, _, _, .inl rfl, by rw [heq]⟩
  | stopLocked =>
    change ∃ _ _ _ _ _ _ _, _ ∧ (m.stopLocked, none) = _
    rcases m.stopLocked_cases with ⟨-, heq⟩ | heq
    · exact ⟨_, _, _, _, _, _, _, .inl rfl, by rw [heq]⟩
    · exact ⟨_, _, _, _, _, _, _, .inr rfl, by rw [heq]⟩
  | stopJoin =>
    change ∃ _ _ _ _ _ _ _, _ ∧ (m.stopJoin, none) = _
    rcases m.stopJoin_cases with heq | ⟨-, heq⟩
    · exact ⟨_, _, _, _, _, _, _, .inl rfl, by rw [heq]⟩
    · exact ⟨_, _, _, _, _, _, _, .inl rfl, by rw [heq]⟩
  | stopDisconnect =>
    change ∃ _ _ _ _ _ _ _, _ ∧ (m.stopDisconnect S, none) = _
    rcases m.stopDisconnect_cases (S := S) with heq | ⟨-, heq⟩
    · exact ⟨_, _, _, _, _, _, _, .inl rfl, by rw [heq]⟩
    · exact ⟨_, _, _, _, _, _, _, .inl rfl, by rw [heq]⟩
  | _ => cases ha

/-- **The connection part of a pass** changes the connection fields alone. -/
theorem manageConnection_frame (e : Env) (now : ℤ) :
    ∃ lastConnectAttemptMs connected timeSub refreshPending,
      m.manageConnection S e now =
        { m with lastConnectAttemptMs, connected, timeSub, refreshPending } := by
  unfold manageConnection
  split
  · exact ⟨_, _, _, _, rfl⟩
  split
  · split
    · split
      · exact ⟨_, _, _, _, rfl⟩
      · exact ⟨_, _, _, _, rfl⟩
    · exact ⟨_, _, _, _, rfl⟩
  split
  · exact ⟨_, _, _, _, rfl⟩
  · exact ⟨_, _, _, _, rfl⟩

/-- **The refresh part of a pass**: a refresh, the revocation of the cached result, or nothing. -/
theorem manageCache_cases (e : Env) (now : ℤ) :
    (∃ refreshPending, m.manageCache S e now = refresh S { m with refreshPending } e) ∨
      (∃ r, m.cached = some r ∧ m.manageCache S e now = m.revoke e r .timeExpired) ∨
      m.manageCache S e now = m := by
  unfold manageCache
  split
  · exact .inl ⟨_, rfl⟩
  split
  · exact .inl ⟨m.refreshPending, rfl⟩
  split
  · exact .inr (.inr rfl)
  · rename_i r hcached
    split
    · exact .inr (.inl ⟨r, hcached, rfl⟩)
    · exact .inr (.inr rfl)

end Monitor

end TboxSec.Time
