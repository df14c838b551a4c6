import TboxSec.Time.Monitor
import TboxSec.Time.Trust

/-!
# The lease of a reading

A trusted answer of `get` rests on the last refresh: the cache holds what the composite granted
then, under the boot time at which the refresh **began**. As the query of a refresh takes time,
the lease counted from there ends before the lease the gate granted.

* `trust_within_lease`: every trusted answer is inside the lease, in every order of steps.
* `values_at_call`: only the lease is counted down. The UTC, the age and the uncertainty in a
  trusted answer are those of the instant at which the gate judged, so they are values at the
  time of the call only if no time has passed since.
-/

namespace TboxSec.Time

variable {S : Setup} {m m' : Monitor} {r : TrustedTimeResult}

/-! ### What a refresh records -/

/-- What a granted refresh stands for: the grant of the platform gate at the instant it judged,
or a sample of the hardware clock, under a positive lease of bounded length. -/
structure Refresh.Sound (S : Setup) (ref : Refresh) : Prop where
  judged : ref.began ≤ ref.judged
  leasePos : ref.result.granted = true → 0 < ref.result.remainingValidityMs
  leaseLe : ref.result.granted = true → ref.result.remainingValidityMs ≤ S.cfg.leaseMax
  platform : ref.result.platformTrusted = true →
    ref.result = grantOn wrapSigned S.cfg ref.facts (wrapped ref.facts ref.judged)

private theorem rtcLease_le {cfg : TrustedTimeConfig} {s : TrustedTimeSample}
    (h : 0 < rtcLease cfg s) :
    rtcLease cfg s ≤ cfg.leaseMax := by
  unfold rtcLease at h ⊢
  omega

/-- **What the composite grants** has a positive lease of at most `lease_max`, and from the
platform it is the grant at the gate's instant. -/
theorem queryComposite_granted {e : Env} {entered : ℤ}
    (h : (m.queryComposite S e entered).1.granted = true) :
    0 < (m.queryComposite S e entered).1.remainingValidityMs ∧
      (m.queryComposite S e entered).1.remainingValidityMs ≤ S.cfg.leaseMax ∧
      ((m.queryComposite S e entered).1.platformTrusted = true →
        (m.queryComposite S e entered).1 =
          grantOn wrapSigned S.cfg (m.readFacts e entered).1
            (wrapped (m.readFacts e entered).1 (m.readFacts e entered).2)) := by
  unfold Monitor.queryComposite at h ⊢
  rcases query_cases S.cfg m.composite (if S.platform then some (m.readFacts e entered).1 else none)
    (if S.rtc then some e.rtc else none) (m.readFacts e entered).2 with
    ⟨f, hf, -, hgate, hq⟩ | ⟨s, -, -, hgate, hq⟩ | ⟨hno, -, -⟩
  · have hf : f = (m.readFacts e entered).1 := by
      cases hp : S.platform with
      | false => simp [hp] at hf
      | true => simpa [hp, eq_comm] using hf
    subst hf
    obtain ⟨hT, -⟩ := granted_gateOn_iff.mp hgate
    have hlease : 0 < leaseOn wrapSigned S.cfg
        (wrapped (m.readFacts e entered).1 (m.readFacts e entered).2) :=
      leaseOn_pos_iff.mpr ⟨hT.leaseMax, hT.remaining, hT.freshnessLeft, hT.uncertaintyLeft⟩
    rw [hq, gatePlatform, gateOn_of_granted hgate]
    exact ⟨hlease, (leaseOn_eq hlease).trans_le (min_le_left _ _), fun _ => rfl⟩
  · obtain ⟨hsource, -, hlease, hremaining⟩ := gateHardwareRtc_of_granted hgate
    rw [hq]
    refine ⟨hremaining ▸ hlease, hremaining ▸ rtcLease_le hlease, fun hp => ?_⟩
    simp [TrustedTimeResult.platformTrusted, (gateHardwareRtc_source hgate).1, hsource] at hp
  · rw [hno] at h
    cases h

/-! ### The cache -/

/-- What the cache shows as trusted is what the latest refresh was granted, dated to its
beginning. -/
structure Leased (S : Setup) (m : Monitor) : Prop where
  sound : ∀ ref, m.latest = some ref → ref.Sound S ∧ ref.judged ≤ m.boot
  backed : ∀ r, m.cached = some r → r.granted = true →
    ∃ ref, m.latest = some ref ∧ m.lastRefreshBootMs = ref.began ∧
      r = { ref.result with
        secDaemonEpoch := r.secDaemonEpoch
        secTimeEventSequence := r.secTimeEventSequence }

private theorem leased_new (boot : ℕ) : Leased S (.new boot) where
  sound := fun ref h => (by cases h)
  backed := fun r h => (by cases h)

/-- A step that leaves the cache and its date alone. -/
theorem Leased.of_same (h : Leased S m) (hlatest : m'.latest = m.latest)
    (hcached : m'.cached = m.cached) (hdate : m'.lastRefreshBootMs = m.lastRefreshBootMs)
    (hboot : m.boot ≤ m'.boot) : Leased S m' where
  sound := fun ref href =>
    have hs := h.sound ref (hlatest ▸ href)
    ⟨hs.1, hs.2.trans hboot⟩
  backed := by
    rw [hlatest, hcached, hdate]
    exact h.backed

/-- A step that leaves nothing trusted in the cache. -/
private theorem Leased.of_untrusted (h : Leased S m) (hlatest : m'.latest = m.latest)
    (hcached : ∀ r, m'.cached = some r → r.granted = false) (hboot : m.boot ≤ m'.boot) :
    Leased S m' where
  sound := fun ref href =>
    have hs := h.sound ref (hlatest ▸ href)
    ⟨hs.1, hs.2.trans hboot⟩
  backed := fun r hr hgranted => (by rw [hcached r hr] at hgranted; cases hgranted)

private theorem dropEmptyLease_of_granted (h : (Monitor.dropEmptyLease r).granted = true) :
    Monitor.dropEmptyLease r = r := by
  unfold Monitor.dropEmptyLease at h ⊢
  split
  · rename_i hempty
    rw [if_pos hempty] at h
    cases h
  · rfl

private theorem readFacts_forward (m : Monitor) (e : Env) (entered : ℤ) : entered ≤
    (m.readFacts e entered).2 := by
  simp only [Monitor.readFacts]
  omega

/-- **A refresh** puts what the composite grants into the cache. -/
theorem leased_refresh (m : Monitor) (e : Env) : Leased S (m.refresh S e) where
  sound := by
    intro ref href
    obtain rfl := Option.some.inj href
    refine ⟨⟨readFacts_forward m e _, ?_, ?_, ?_⟩, le_rfl⟩
    · exact fun hgranted => (queryComposite_granted hgranted).1
    · exact fun hgranted => (queryComposite_granted hgranted).2.1
    · intro hp
      have hgranted : (m.queryComposite S e (m.boot + e.beforeRefresh)).1.granted = true := by
        simp only [TrustedTimeResult.platformTrusted, Bool.and_eq_true] at hp
        exact hp.1
      exact (queryComposite_granted hgranted).2.2 hp
  backed := by
    intro r hr hgranted
    obtain rfl := Option.some.inj hr
    -- a trusted result is kept as the composite gave it, under the monitor's stamp
    have hkept : m.refreshed S e =
        m.stamp (m.queryComposite S e (m.boot + e.beforeRefresh)).1 :=
      dropEmptyLease_of_granted hgranted
    rw [hkept]
    exact ⟨_, rfl, rfl, rfl⟩

private theorem leased_manageConnection (h : Leased S m) (e : Env) (now : ℤ) :
    Leased S (m.manageConnection S e now) := by
  obtain ⟨_, _, _, _, hframe⟩ := m.manageConnection_frame (S := S) e now
  rw [hframe]
  exact h.of_same rfl rfl rfl le_rfl

private theorem leased_manageCache (h : Leased S m) (e : Env) (now : ℤ) :
    Leased S (m.manageCache S e now) := by
  rcases m.manageCache_cases (S := S) e now with ⟨_, heq⟩ | ⟨r, -, heq⟩ | heq
  · rw [heq]
    exact leased_refresh _ e
  · -- the revoked entry is dated anew, but it is not trusted
    rw [heq]
    refine h.of_untrusted rfl (fun r' hr => ?_) ?_
    · obtain rfl := Option.some.inj hr
      rfl
    · change m.boot ≤ m.boot + e.beforeRefresh
      omega
  · rw [heq]
    exact h

private theorem leased_beforeReading (h : Leased S m) (e : Env) :
    Leased S (m.beforeReading S e) := by
  unfold Monitor.beforeReading
  simp only
  split
  · exact (leased_refresh m e).of_same rfl rfl rfl (by change _ ≤ _ + (e.beforeReply : ℤ); omega)
  · exact h.of_same rfl rfl rfl (by change _ ≤ _ + (e.beforeReply : ℤ); omega)

/-- **Every step keeps the cache backed by the latest refresh.** -/
theorem leased_step (h : Leased S m) (a : Act) : Leased S ((monitor S).step m a).1 := by
  change Leased S (m.step S a).1
  by_cases ha : a.isControl = true
  · obtain ⟨_, _, _, _, _, _, cached, hcached, hstep⟩ := m.step_of_isControl (S := S) ha
    rw [hstep]
    rcases hcached with rfl | rfl
    · exact h.of_same rfl rfl rfl le_rfl
    · exact h.of_untrusted rfl (fun r hr => (by cases hr)) le_rfl
  cases a with
  | start | stopLocked | stopJoin | stopDisconnect => exact absurd rfl ha
  | loopPass e =>
    change Leased S (m.loopPass S e)
    unfold Monitor.loopPass
    split
    · exact h
    · have hwait : Leased S { m with boot := m.boot + e.beforeLoop } :=
        h.of_same rfl rfl rfl (by change m.boot ≤ m.boot + e.beforeLoop; omega)
      exact leased_manageCache (leased_manageConnection hwait e _) e _
  | get token e =>
    change Leased S (m.get S token e).1
    unfold Monitor.get
    split
    · exact h
    · exact leased_beforeReading h e
  | refreshNow => exact h.of_same rfl rfl rfl le_rfl
  | providerNow e => exact h.of_same rfl rfl rfl (readFacts_forward m e m.boot)
  | linkLost => exact h.of_same rfl rfl rfl le_rfl
  | tick ms => exact h.of_same rfl rfl rfl (by change m.boot ≤ m.boot + ms; omega)
  | subscribe => exact h.of_same rfl rfl rfl le_rfl
  | release slot => exact h.of_same rfl rfl rfl le_rfl

private theorem leased_run (S : Setup) (boot : ℕ) (past : List Act) :
    Leased S ((monitor S).run (.new boot) past) :=
  (monitor S).run_invariant (c := fun _ _ => True) (I := Leased S) (fun _ a h _ => leased_step h a)
    (leased_new boot) ((monitor S).along_true _ past)

/-! ### Trusted answers -/

/-- A trusted answer shows the cached result under what is left of its lease. -/
private theorem shown_of_granted (h : (m.shown r).granted = true) :
    r.granted = true ∧ 0 < (m.shown r).remainingValidityMs ∧
      m.shown r = { r with
        remainingValidityMs := r.remainingValidityMs - max 0 (m.boot - m.lastRefreshBootMs) } := by
  unfold Monitor.shown at h ⊢
  cases hr : r.granted with
  | false =>
    rw [hr, if_neg (by simp)] at h
    rw [hr] at h
    cases h
  | true =>
    simp only [hr, if_true] at h ⊢
    split
    · rename_i hspent
      rw [if_pos hspent] at h
      cases h
    · rename_i hleft
      exact ⟨trivial, not_le.mp hleft, rfl⟩

/-- **A trusted answer of `get`** is the grant of the latest refresh, with the lease reduced by
the time since that refresh began. -/
theorem get_of_granted (h : Leased S m) {token : ℕ} {e : Env}
    (hgranted : (m.get S token e).2.granted = true) :
    ∃ ref, (m.get S token e).1.latest = some ref ∧ ref.Sound S ∧
      ref.judged ≤ (m.get S token e).1.boot ∧ ref.result.granted = true ∧
      0 < (m.get S token e).2.remainingValidityMs ∧
      (m.get S token e).2 =
        { ref.result with
          secDaemonEpoch := (m.get S token e).2.secDaemonEpoch
          secTimeEventSequence := (m.get S token e).2.secTimeEventSequence
          remainingValidityMs :=
            ref.result.remainingValidityMs - ((m.get S token e).1.boot - ref.began) } := by
  unfold Monitor.get at hgranted ⊢
  split
  · rename_i hstale
    rw [if_pos hstale] at hgranted
    cases hgranted
  rename_i hfresh
  rw [if_neg hfresh] at hgranted
  have hleased := leased_beforeReading h e
  simp only at hgranted ⊢
  generalize m.beforeReading S e = n at hleased hgranted ⊢
  obtain ⟨hcached, hpos, hshown⟩ := shown_of_granted hgranted
  cases hc : n.cached with
  | none =>
    rw [hc] at hcached
    cases hcached
  | some r =>
    rw [hc] at hcached hpos hshown
    obtain ⟨ref, href, hdate, hr⟩ := hleased.backed r hc hcached
    obtain ⟨hsound, hboot⟩ := hleased.sound ref href
    have hgrant : ref.result.granted = true := by rw [hr] at hcached; exact hcached
    have hremaining : r.remainingValidityMs = ref.result.remainingValidityMs := by rw [hr]
    -- the cache is dated to the beginning of the refresh, and the gate judged after that
    have helapsed : max 0 (n.boot - n.lastRefreshBootMs) = n.boot - ref.began := by
      have hjudged := hsound.judged
      rw [hdate]
      omega
    refine ⟨ref, href, hsound, hboot, hgrant, hpos, ?_⟩
    simp only [Option.getD_some] at hshown ⊢
    rw [hshown, hremaining, helapsed]
    simp only
    rw [hr]

/-- **No trust beyond the lease**: in every order of steps, a trusted answer of `get` comes from
a grant of the latest refresh, inside its lease, and shows no more of it than is left since the
refresh began. -/
theorem trust_within_lease (S : Setup) (boot : ℕ) (past : List Act) (token : ℕ) (e : Env)
    (h : (((monitor S).run (.new boot) past).get S token e).2.granted = true) :
    ∃ ref, (((monitor S).run (.new boot) past).get S token e).1.latest = some ref ∧
      ref.result.granted = true ∧
      (((monitor S).run (.new boot) past).get S token e).1.boot <
        ref.judged + ref.result.remainingValidityMs ∧
      0 < (((monitor S).run (.new boot) past).get S token e).2.remainingValidityMs ∧
      (((monitor S).run (.new boot) past).get S token e).2.remainingValidityMs ≤
        ref.result.remainingValidityMs -
          ((((monitor S).run (.new boot) past).get S token e).1.boot - ref.began) ∧
      (((monitor S).run (.new boot) past).get S token e).1.boot < ref.began + S.cfg.leaseMax := by
  obtain ⟨ref, href, hsound, -, hgrant, hpos, hr⟩ := get_of_granted (leased_run S boot past) h
  have hle : (((monitor S).run (.new boot) past).get S token e).2.remainingValidityMs =
      ref.result.remainingValidityMs -
        ((((monitor S).run (.new boot) past).get S token e).1.boot - ref.began) := by
    rw [hr]
  have hjudged := hsound.judged
  have hlease := hsound.leaseLe hgrant
  exact ⟨ref, href, hgrant, by omega, hpos, hle.le, by omega⟩

/-! ### Values at the time of the call -/

/-- The envelope of the answer `r` given at the boot time `now` has the values of that instant.
The UTC and the age of a refresh are those of the instant at which it was judged, and both grow
from there; its lease counts from the beginning of the refresh. An answer of the platform is what
a gate would report that judges the same facts at `now`. -/
structure AsOfCall (cfg : TrustedTimeConfig) (ref : Refresh) (now : ℤ) (r : TrustedTimeResult) :
    Prop where
  utc : r.toEnvelope.utcEpochMs = ref.result.toEnvelope.utcEpochMs + (now - ref.judged)
  age : r.toEnvelope.freshnessAgeMs = ref.result.toEnvelope.freshnessAgeMs + (now - ref.judged)
  remaining : r.toEnvelope.remainingValidityMs =
    ref.result.toEnvelope.remainingValidityMs - (now - ref.began)
  uncertainty : ref.result.platformTrusted = true → r.toEnvelope.uncertaintyMs =
    wrapSigned (ref.facts.uncertaintyMs +
      (wrapSigned (r.toEnvelope.driftBoundPpm * r.toEnvelope.freshnessAgeMs)).tdiv 1000000)
  anew : ref.result.platformTrusted = true →
    r.toEnvelope.utcEpochMs =
        (grantOn wrapSigned cfg ref.facts (wrapped ref.facts now)).toEnvelope.utcEpochMs ∧
      r.toEnvelope.freshnessAgeMs = (wrapped ref.facts now).age ∧
      r.toEnvelope.uncertaintyMs = (wrapped ref.facts now).uncertainty

/-- **A trusted answer has the values of the time of the call** exactly if no time has passed
since the gate judged the facts of the refresh it comes from. -/
theorem values_at_call (S : Setup) (boot : ℕ) (past : List Act) (token : ℕ) (e : Env)
    (h : (((monitor S).run (.new boot) past).get S token e).2.granted = true) :
    ∃ ref, (((monitor S).run (.new boot) past).get S token e).1.latest = some ref ∧
      (AsOfCall S.cfg ref (((monitor S).run (.new boot) past).get S token e).1.boot
          (((monitor S).run (.new boot) past).get S token e).2 ↔
        (((monitor S).run (.new boot) past).get S token e).1.boot = ref.judged) := by
  obtain ⟨ref, href, hsound, -, hgrant, -, hr⟩ := get_of_granted (leased_run S boot past) h
  refine ⟨ref, href, ?_⟩
  generalize (((monitor S).run (.new boot) past).get S token e).1.boot = now at hr ⊢
  generalize (((monitor S).run (.new boot) past).get S token e).2 = r at hr ⊢
  have hage : r.toEnvelope.freshnessAgeMs = ref.result.toEnvelope.freshnessAgeMs := by rw [hr]; rfl
  constructor
  · intro hcall
    have hmoved := hcall.age
    omega
  · intro hjudged
    have hutc : r.toEnvelope.utcEpochMs = ref.result.toEnvelope.utcEpochMs := by rw [hr]; rfl
    have hunc : r.toEnvelope.uncertaintyMs = ref.result.toEnvelope.uncertaintyMs := by rw [hr]; rfl
    have hdrift : r.toEnvelope.driftBoundPpm = ref.result.toEnvelope.driftBoundPpm := by
      rw [hr]
      rfl
    have hleft : r.toEnvelope.remainingValidityMs =
        ref.result.toEnvelope.remainingValidityMs - (now - ref.began) := by rw [hr]; rfl
    -- the gate judged at the same millisecond, so the grant is the one of this instant
    have hresult : ref.result.platformTrusted = true →
        ref.result = grantOn wrapSigned S.cfg ref.facts (wrapped ref.facts now) := by
      rw [hjudged]
      exact hsound.platform
    refine ⟨by omega, by omega, hleft, fun hp => ?_, fun hp => ?_⟩
    · rw [hunc, hdrift, hage, hresult hp]
      rfl
    · rw [hutc, hage, hunc, hresult hp]
      exact ⟨rfl, rfl, rfl⟩

/-! ### A reading after the refresh -/

namespace Bench

/-- A monitor that approves one source. -/
def setup : Setup := { cfg := { approvedSources := ["ntp-verified-1"] } }

/-- A synchronised and verified snapshot of that source. -/
def snapshot : TimeSnapshot :=
  { validate := true, contractVersion := 1, capabilities := "snapshot,v1", daemonEpoch := 1
    eventSequence := 1, state := .synced, sourceId := "ntp-verified-1", sourceKind := .ntpNetwork
    sourceEpoch := 1, utcValid := true, utcEpochMs := 1700000000000, systemClockAligned := true
    alignmentErrorMs := 0, freshnessAgeMs := 0, uncertaintyValid := true, uncertaintyMs := 50
    remainingValidityMs := 30000, driftBoundPpm := 100, authStatus := .verified
    evidenceRef := "ev:1", policyVersion := "1" }

/-- The TIME service is up and answers with this snapshot. -/
def up : Env := { connect := true, client := .snapshot snapshot 0 }

/-- It answers the same after 7 ms. -/
def slow : Env := { up with beforeReceive := 7 }

/-- The monitor is started and refreshed; then some time passes. -/
def refreshedRun (ms : ℕ) : List Act := [.start, .loopPass up, .tick ms]

end Bench

open Bench in
/-- A reading 100 ms after the refresh is trusted within the lease. -/
theorem trust_within_lease_later :
    (((monitor setup).run (.new 1000000) (refreshedRun 100)).get setup 0 {}).2.granted = true ∧
      ∃ ref, (((monitor setup).run (.new 1000000) (refreshedRun 100)).get setup 0 {}).1.latest =
          some ref ∧ ref.result.granted = true := by
  have h : (((monitor setup).run (.new 1000000) (refreshedRun 100)).get setup 0 {}).2.granted =
      true := by decide +kernel
  obtain ⟨ref, href, hgrant, -⟩ := trust_within_lease setup 1000000 (refreshedRun 100) 0 {} h
  exact ⟨h, ref, href, hgrant⟩

open Bench in
/-- A reading at the very millisecond at which the gate judged has the values of the call, also
when the answer of the TIME service took 7 ms. -/
theorem values_at_call_at_once :
    ∃ ref, (((monitor setup).run (.new 1000000) [.start, .loopPass slow]).get setup 0 {}).1.latest =
        some ref ∧ ref.began + 7 = ref.judged ∧
      AsOfCall setup.cfg ref
        (((monitor setup).run (.new 1000000) [.start, .loopPass slow]).get setup 0 {}).1.boot
        (((monitor setup).run (.new 1000000) [.start, .loopPass slow]).get setup 0 {}).2 := by
  have h :
      (((monitor setup).run (.new 1000000) [.start, .loopPass slow]).get setup 0 {}).2.granted =
        true ∧
      (((monitor setup).run (.new 1000000) [.start, .loopPass slow]).get setup 0 {}).1.latest.map
        (fun ref => (ref.began + 7, ref.judged)) =
      some ((((monitor setup).run (.new 1000000) [.start, .loopPass slow]).get setup 0 {}).1.boot,
        (((monitor setup).run (.new 1000000) [.start, .loopPass slow]).get setup 0 {}).1.boot) := by
    decide +kernel
  obtain ⟨ref, href, hiff⟩ :=
    values_at_call setup 1000000 [.start, .loopPass slow] 0 {} h.1
  have hinstants := h.2
  rw [href] at hinstants
  obtain ⟨hbegan, hjudged⟩ := Prod.mk.inj (Option.some.inj hinstants)
  exact ⟨ref, href, hbegan.trans hjudged.symm, hiff.mpr hjudged.symm⟩

open Bench in
/-- **A reading 100 ms after the refresh shows the age of the refresh**, not its own. -/
theorem values_not_at_call :
    (((monitor setup).run (.new 1000000) (refreshedRun 100)).get setup 0 {}).2.granted = true ∧
      ∀ ref, (((monitor setup).run (.new 1000000) (refreshedRun 100)).get setup 0 {}).1.latest =
          some ref →
        ¬ AsOfCall setup.cfg ref
          (((monitor setup).run (.new 1000000) (refreshedRun 100)).get setup 0 {}).1.boot
          (((monitor setup).run (.new 1000000) (refreshedRun 100)).get setup 0 {}).2 := by
  have h : (((monitor setup).run (.new 1000000) (refreshedRun 100)).get setup 0 {}).2.granted =
        true ∧
      (((monitor setup).run (.new 1000000) (refreshedRun 100)).get setup 0
        {}).2.toEnvelope.freshnessAgeMs = 0 ∧
      (((monitor setup).run (.new 1000000) (refreshedRun 100)).get setup 0 {}).1.latest.map
        (fun ref => ref.result.toEnvelope.freshnessAgeMs +
          ((((monitor setup).run (.new 1000000) (refreshedRun 100)).get setup 0 {}).1.boot -
            ref.judged)) = some 100 := by
    decide +kernel
  refine ⟨h.1, fun ref href hcall => ?_⟩
  have hage := hcall.age
  have hdue := h.2.2
  rw [href, Option.map_some, ← hage, h.2.1] at hdue
  cases hdue

end TboxSec.Time
