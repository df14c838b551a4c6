import TboxSec.Time.Composite

/-!
# What the gates grant

The platform gate is one program for every arithmetic, and so is what it grants: on a machine
that makes `fit n` of the exact result `n` of an operation, the **effective values** are
`effectiveOn fit`, and `granted_gateOn_iff` lists everything that facts have to satisfy on these
values. `exact` are the values in exact arithmetic, `wrapped` those of a machine of 64 bits.

`query_cases` says where a granted answer of the composite comes from.

* `PassesChecks` is what is asked of the facts before any arithmetic, and
  `earlyRefusal_eq_none_iff` that the checks ask just this.
* `Trustworthy` adds the limits on the effective values, and the lease.
* `gateOn_cases`: an answer of the gate is a refusal before the arithmetic, a refusal by a limit,
  or the grant `grantOn` with the lease `leaseOn`.
-/

namespace TboxSec.Time

open Keyprov (TimeTrustState)

variable {cfg : TrustedTimeConfig} {c : Composite} {f : TimeFactSnapshot} {now : ℤ}
  {fit : ℤ → ℤ} {v : Effective}

/-! ### The effective values -/

/-- The local time since the facts were received, at the boot time `now`. -/
def elapsedSince (f : TimeFactSnapshot) (now : ℤ) : ℤ := max 0 (now - f.receivedBootMs)

/-- The exact age of the facts at the boot time `now`. -/
def ageEff (f : TimeFactSnapshot) (now : ℤ) : ℤ := f.freshnessAgeMs + f.rttMs + elapsedSince f now

/-- The exact uncertainty: it has grown at the drift rate over the whole age. -/
def uncertaintyEff (f : TimeFactSnapshot) (now : ℤ) : ℤ :=
  f.uncertaintyMs + (f.driftBoundPpm * ageEff f now).tdiv 1000000

/-- The exact remaining validity. -/
def remainEff (f : TimeFactSnapshot) (now : ℤ) : ℤ :=
  f.remainingValidityMs - f.rttMs - elapsedSince f now

/-- The exact UTC. -/
def utcEff (f : TimeFactSnapshot) (now : ℤ) : ℤ := f.utcEpochMs + ageEff f now

/-- The effective values of a machine that makes `fit n` of the exact result `n`. -/
def effectiveOn (fit : ℤ → ℤ) (f : TimeFactSnapshot) (now : ℤ) : Effective :=
  Id.run (effective (fun n => pure (fit n)) f now)

/-- The effective values in exact arithmetic. -/
def exact (f : TimeFactSnapshot) (now : ℤ) : Effective := effectiveOn id f now

/-- The effective values of a machine of 64 bits whose operations wrap around. -/
def wrapped (f : TimeFactSnapshot) (now : ℤ) : Effective := effectiveOn wrapSigned f now

@[simp]
theorem exact_age : (exact f now).age = ageEff f now := rfl

@[simp]
theorem exact_uncertainty : (exact f now).uncertainty = uncertaintyEff f now := rfl

@[simp]
theorem exact_remain : (exact f now).remain = remainEff f now := rfl

@[simp]
theorem exact_utc : (exact f now).utc = utcEff f now := rfl

/-- The lease on the values `v`. -/
def leaseOn (fit : ℤ → ℤ) (cfg : TrustedTimeConfig) (v : Effective) : ℤ :=
  Id.run (platformLease cfg (fun n => pure (fit n)) v)

/-- The platform gate in exact arithmetic. -/
def exactGate (cfg : TrustedTimeConfig) (c : Composite) (f : TimeFactSnapshot) (now : ℤ) :
    TrustedTimeResult :=
  gateOn cfg id c f now

/-- The grant on the values `v`. -/
def grantOn (fit : ℤ → ℤ) (cfg : TrustedTimeConfig) (f : TimeFactSnapshot) (v : Effective) :
    TrustedTimeResult :=
  platformGrant f v (leaseOn fit cfg v) (fit (v.utc * ticksPerMs))

/-! ### The platform gate -/

/-- Everything the contract asks of platform facts, but for the approval of their source, when
their effective values are `v`. -/
structure Trustworthy (fit : ℤ → ℤ) (cfg : TrustedTimeConfig) (c : Composite)
    (f : TimeFactSnapshot) (v : Effective) : Prop where
  transport : f.transportOk = true
  validated : f.validated = true
  synced : f.state = .synced
  contract : contractComplete f = true
  verified : f.authStatus = .verified
  policy : f.policyVersion ∈ cfg.approvedPolicyVersions
  evidence : cfg.requireEvidence = true → f.evidenceRef ≠ ""
  utc : f.utcValid = true
  bounded : f.uncertaintyValid = true
  fresh : v.age ≤ cfg.maxFreshness
  certain : v.uncertainty ≤ cfg.maxUncertainty
  forward : ∀ good, c.lastKnownGood = some good → toMs good - cfg.rollbackTolerance ≤ v.utc
  leaseMax : 0 < cfg.leaseMax
  remaining : 0 < v.remain
  freshnessLeft : 0 < fit (cfg.maxFreshness - v.age)
  uncertaintyLeft : 0 < fit (cfg.maxUncertainty - v.uncertainty)

private theorem authBound_iff : authBound cfg f = true ↔
    f.authStatus = .verified ∧ f.policyVersion ∈ cfg.approvedPolicyVersions ∧
      (cfg.requireEvidence = true → f.evidenceRef ≠ "") ∧
      (cfg.approvedSources ≠ [] → f.sourceId ∈ cfg.approvedSources) := by
  have hevidence : !(cfg.requireEvidence && f.evidenceRef == "") ↔
      (cfg.requireEvidence = true → f.evidenceRef ≠ "") := by
    cases cfg.requireEvidence <;> simp
  have hsource : !(!cfg.approvedSources.isEmpty && !cfg.approvedSources.contains f.sourceId) ↔
      (cfg.approvedSources ≠ [] → f.sourceId ∈ cfg.approvedSources) := by
    cases cfg.approvedSources <;> simp
  rw [authBound, Bool.and_eq_true, Bool.and_eq_true, Bool.and_eq_true, hevidence, hsource]
  simp [and_assoc]

private theorem rolledBackMs_eq_false_iff {utc : ℤ} : rolledBackMs cfg c utc = false ↔
    ∀ good, c.lastKnownGood = some good → toMs good - cfg.rollbackTolerance ≤ utc := by
  unfold rolledBackMs
  cases c.lastKnownGood with
  | none => simp
  | some good => simp

/-- The checks before the arithmetic pass exactly for bound evidence and valid values. -/
private theorem accessChecks_pass_iff : firstReject (accessChecks cfg f) = none ↔
    authBound cfg f = true ∧ f.utcValid = true ∧ f.uncertaintyValid = true := by
  rw [firstReject_eq_none_iff]
  simp only [accessChecks, List.mem_cons, List.not_mem_nil, or_false, forall_eq_or_imp, forall_eq]
  constructor
  · rintro ⟨-, hauth, hvalues⟩
    exact ⟨by simpa using hauth, by simpa using hvalues⟩
  · rintro ⟨hauth, hutc, hbounded⟩
    have hverified : f.authStatus = .verified := (authBound_iff.mp hauth).1
    simp [hverified, hauth, hutc, hbounded]

/-- The checks of the effective values pass exactly within the limits. -/
private theorem limitChecks_pass_iff : firstReject (limitChecks cfg c v) = none ↔
    v.age ≤ cfg.maxFreshness ∧ v.uncertainty ≤ cfg.maxUncertainty ∧
      ∀ good, c.lastKnownGood = some good → toMs good - cfg.rollbackTolerance ≤ v.utc := by
  rw [firstReject_eq_none_iff, ← rolledBackMs_eq_false_iff]
  simp [limitChecks]

/-- A lease is positive exactly if each budget is. -/
theorem leaseOn_pos_iff : 0 < leaseOn fit cfg v ↔
    0 < cfg.leaseMax ∧ 0 < v.remain ∧ 0 < fit (cfg.maxFreshness - v.age) ∧
      0 < fit (cfg.maxUncertainty - v.uncertainty) := by
  change 0 < max 0 (min cfg.leaseMax (min v.remain
    (min (fit (cfg.maxFreshness - v.age)) (fit (cfg.maxUncertainty - v.uncertainty))))) ↔ _
  simp only [lt_max_iff, lt_min_iff, lt_irrefl, false_or]

/-- A positive lease is the shortest of the budgets. -/
theorem leaseOn_eq (h : 0 < leaseOn fit cfg v) :
    leaseOn fit cfg v = min cfg.leaseMax (min v.remain
      (min (fit (cfg.maxFreshness - v.age)) (fit (cfg.maxUncertainty - v.uncertainty)))) := by
  change 0 < max 0 _ at h
  change max 0 _ = _
  rcases lt_max_iff.mp h with h | h
  · exact absurd h (lt_irrefl _)
  · exact max_eq_right h.le

@[simp]
theorem granted_grantOn : (grantOn fit cfg f v).granted = true := rfl

private theorem granted_refuse {out : TrustedTimeResult} {v : TimeTrustState × TimeReason}
    (hv : v.1 ≠ .trusted) : (out.refuse v).granted = false := by
  simp [TrustedTimeResult.granted, TrustedTimeResult.refuse, hv]

/-- A refusal that does not grant and whose reason is one of those that tell most. -/
def Decisive (refusal : TimeTrustState × TimeReason) : Prop :=
  refusal.1 ≠ .trusted ∧ reasonClass refusal.2 = 2

/-- Every check before the arithmetic refuses decisively. -/
theorem accessChecks_decisive {refusal : TimeTrustState × TimeReason}
    (h : firstReject (accessChecks cfg f) = some refusal) : Decisive refusal := by
  have hmem := exists_of_firstReject_eq_some h
  simp only [accessChecks, List.mem_cons, List.not_mem_nil, or_false, Prod.mk.injEq] at hmem
  rcases hmem with ⟨-, rfl⟩ | ⟨-, rfl⟩ | ⟨-, rfl⟩
  all_goals exact ⟨by simp, rfl⟩

/-- Every check of the effective values refuses decisively. -/
private theorem limitChecks_decisive {refusal : TimeTrustState × TimeReason}
    (h : firstReject (limitChecks cfg c v) = some refusal) : Decisive refusal := by
  have hmem := exists_of_firstReject_eq_some h
  simp only [limitChecks, List.mem_cons, List.not_mem_nil, or_false, Prod.mk.injEq] at hmem
  rcases hmem with ⟨-, rfl⟩ | ⟨-, rfl⟩ | ⟨-, rfl⟩
  all_goals exact ⟨by simp, rfl⟩

/-- The facts pass every check that stands before the arithmetic. -/
structure PassesChecks (cfg : TrustedTimeConfig) (f : TimeFactSnapshot) : Prop where
  transport : f.transportOk = true
  validated : f.validated = true
  synced : f.state = .synced
  contract : contractComplete f = true
  authenticated : authBound cfg f = true
  utc : f.utcValid = true
  bounded : f.uncertaintyValid = true

/-- The gate reaches the arithmetic exactly for facts that pass the checks before it. -/
theorem earlyRefusal_eq_none_iff : earlyRefusal cfg f = none ↔ PassesChecks cfg f := by
  unfold earlyRefusal
  dsimp only
  split
  · rename_i h
    exact iff_of_false (by simp) fun hp => by simp [hp.transport] at h
  split
  · rename_i h
    exact iff_of_false (by simp) fun hp => by simp [hp.validated] at h
  split
  · rename_i h
    exact iff_of_false (by simp) fun hp => h hp.synced
  split
  · rename_i h
    exact iff_of_false (by simp) fun hp => by simp [hp.contract] at h
  rename_i htransport hvalid hsynced hcontract
  rw [Option.map_eq_none_iff, accessChecks_pass_iff]
  constructor
  · rintro ⟨hauth, hutc, hbounded⟩
    exact ⟨by simpa using htransport, by simpa using hvalid, by simpa using hsynced,
      by simpa using hcontract, hauth, hutc, hbounded⟩
  · exact fun hp => ⟨hp.authenticated, hp.utc, hp.bounded⟩

/-- None of these refusals grants. -/
private theorem earlyRefusal_untrusted {r : TrustedTimeResult} (h : earlyRefusal cfg f = some r) :
    r.granted = false := by
  unfold earlyRefusal at h
  dsimp only at h
  split at h
  · obtain rfl := Option.some.inj h
    exact granted_refuse (by simp)
  split at h
  · obtain rfl := Option.some.inj h
    exact granted_refuse (by simp)
  split at h
  · obtain rfl := Option.some.inj h
    exact granted_refuse (by simp)
  split at h
  · obtain rfl := Option.some.inj h
    exact granted_refuse (by simp)
  · obtain ⟨refusal, hrefusal, rfl⟩ := Option.map_eq_some_iff.mp h
    exact granted_refuse (accessChecks_decisive hrefusal).1

/-- What is left of the gate after the checks before the arithmetic. -/
theorem gateOn_of_passes (h : earlyRefusal cfg f = none) :
    gateOn cfg fit c f now =
      match firstReject (limitChecks cfg c (effectiveOn fit f now)) with
      | some refusal =>
        ({ carriedFacts f with contractComplete := true } : TrustedTimeResult).refuse refusal
      | none =>
        if leaseOn fit cfg (effectiveOn fit f now) ≤ 0 then
          ({ carriedFacts f with contractComplete := true } : TrustedTimeResult).refuse
            (.untrusted, .platformValidityExpired)
        else grantOn fit cfg f (effectiveOn fit f now) := by
  rw [gateOn, platformGate, h]
  rfl

/-- **The outcomes of the gate** on a machine: a refusal before the arithmetic, a refusal of the
effective values, or their grant. -/
theorem gateOn_cases (fit : ℤ → ℤ) (cfg : TrustedTimeConfig) (c : Composite)
    (f : TimeFactSnapshot) (now : ℤ) :
    (¬PassesChecks cfg f ∧ earlyRefusal cfg f = some (gateOn cfg fit c f now)) ∨
    (PassesChecks cfg f ∧ (∃ refusal : TimeTrustState × TimeReason, Decisive refusal ∧
        gateOn cfg fit c f now =
          ({ carriedFacts f with contractComplete := true } : TrustedTimeResult).refuse refusal) ∧
      ¬(firstReject (limitChecks cfg c (effectiveOn fit f now)) = none ∧
        0 < leaseOn fit cfg (effectiveOn fit f now))) ∨
    (PassesChecks cfg f ∧ gateOn cfg fit c f now = grantOn fit cfg f (effectiveOn fit f now) ∧
      firstReject (limitChecks cfg c (effectiveOn fit f now)) = none ∧
      0 < leaseOn fit cfg (effectiveOn fit f now)) := by
  cases hearly : earlyRefusal cfg f with
  | some r =>
    have hno : ¬PassesChecks cfg f := by
      rw [← earlyRefusal_eq_none_iff, hearly]
      simp
    have hgate : gateOn cfg fit c f now = r := by
      rw [gateOn, platformGate, hearly]
      rfl
    exact .inl ⟨hno, by rw [hgate]⟩
  | none =>
    have hpass : PassesChecks cfg f := earlyRefusal_eq_none_iff.mp hearly
    have hgate : gateOn cfg fit c f now = _ := gateOn_of_passes hearly
    right
    cases hlimits : firstReject (limitChecks cfg c (effectiveOn fit f now)) with
    | some refusal =>
      rw [hlimits] at hgate
      exact .inl ⟨hpass, ⟨refusal, limitChecks_decisive hlimits, hgate⟩, by simp⟩
    | none =>
      rw [hlimits] at hgate
      by_cases hlease : leaseOn fit cfg (effectiveOn fit f now) ≤ 0
      · rw [if_pos hlease] at hgate
        exact .inl ⟨hpass, ⟨_, ⟨by simp, rfl⟩, hgate⟩, fun h => absurd h.2 (not_lt.mpr hlease)⟩
      · rw [if_neg hlease] at hgate
        exact .inr ⟨hpass, hgate, rfl, not_le.mp hlease⟩

/-- **The platform gate grants** exactly trustworthy facts of an approved source, where an empty
list approves every source. -/
theorem granted_gateOn_iff : (gateOn cfg fit c f now).granted = true ↔
    Trustworthy fit cfg c f (effectiveOn fit f now) ∧
      (cfg.approvedSources ≠ [] → f.sourceId ∈ cfg.approvedSources) := by
  rcases gateOn_cases fit cfg c f now with
    ⟨hno, hgate⟩ | ⟨hpass, ⟨refusal, hrefusal, hgate⟩, hno⟩ | ⟨hpass, hgate, hlimits, hlease⟩
  · rw [earlyRefusal_untrusted hgate]
    refine iff_of_false (by simp) fun ⟨hT, hsource⟩ => hno ?_
    exact ⟨hT.transport, hT.validated, hT.synced, hT.contract,
      authBound_iff.mpr ⟨hT.verified, hT.policy, hT.evidence, hsource⟩, hT.utc, hT.bounded⟩
  · rw [hgate, granted_refuse hrefusal.1]
    refine iff_of_false (by simp) fun ⟨hT, _⟩ => hno ⟨?_, ?_⟩
    · exact limitChecks_pass_iff.mpr ⟨hT.fresh, hT.certain, hT.forward⟩
    · exact leaseOn_pos_iff.mpr
        ⟨hT.leaseMax, hT.remaining, hT.freshnessLeft, hT.uncertaintyLeft⟩
  · obtain ⟨hverified, hpolicy, hevidence, hsource⟩ := authBound_iff.mp hpass.authenticated
    obtain ⟨hage, hunc, hback⟩ := limitChecks_pass_iff.mp hlimits
    obtain ⟨hmax, hremain, hfreshness, huncertainty⟩ := leaseOn_pos_iff.mp hlease
    rw [hgate]
    exact iff_of_true rfl ⟨⟨hpass.transport, hpass.validated, hpass.synced, hpass.contract,
      hverified, hpolicy, hevidence, hpass.utc, hpass.bounded, hage, hunc, hback, hmax, hremain,
      hfreshness, huncertainty⟩, hsource⟩

/-- A granted answer of the platform gate is the grant. -/
theorem gateOn_of_granted (h : (gateOn cfg fit c f now).granted = true) :
    gateOn cfg fit c f now = grantOn fit cfg f (effectiveOn fit f now) := by
  rcases gateOn_cases fit cfg c f now with
    ⟨-, hgate⟩ | ⟨-, ⟨refusal, hrefusal, hgate⟩, -⟩ | ⟨-, hgate, -⟩
  · rw [earlyRefusal_untrusted hgate] at h
    cases h
  · rw [hgate, granted_refuse hrefusal.1] at h
    cases h
  · exact hgate

/-! ### The hardware clock gate -/

theorem gateHardwareRtc_source {s : TrustedTimeSample}
    (h : (gateHardwareRtc cfg c s).granted = true) :
    (gateHardwareRtc cfg c s).sample = s ∧ s.trustState = .trusted ∧
      firstReject (rtcChecks cfg c s) = none := by
  unfold gateHardwareRtc at h ⊢
  split at h
  · rename_i hs
    simp [TrustedTimeResult.granted, hs] at h
  rename_i hs
  rw [if_neg hs]
  cases hchecks : firstReject (rtcChecks cfg c s) with
  | none => exact ⟨rfl, by simpa using hs, rfl⟩
  | some v =>
    -- every refusal of the hardware clock gate is UNTRUSTED
    rw [hchecks] at h
    have hmem := exists_of_firstReject_eq_some hchecks
    simp only [rtcChecks, List.mem_cons, List.not_mem_nil, or_false, Prod.mk.injEq] at hmem
    have hv : v.1 ≠ .trusted := by
      rcases hmem with ⟨-, rfl⟩ | ⟨-, rfl⟩ | ⟨-, rfl⟩ | ⟨-, rfl⟩ | ⟨-, rfl⟩ <;> simp
    rw [granted_refuse hv] at h
    cases h

theorem gateHardwareRtc_of_granted {s : TrustedTimeSample}
    (h : (gateHardwareRtc cfg c s).granted = true) :
    s.source = .hardwareRtc ∧ rolledBackTicks cfg c s.utcNow = false ∧ 0 < rtcLease cfg s ∧
      (gateHardwareRtc cfg c s).remainingValidityMs = rtcLease cfg s := by
  obtain ⟨-, hs, hchecks⟩ := gateHardwareRtc_source h
  have hpass := firstReject_eq_none_iff.mp hchecks
  simp only [rtcChecks, List.mem_cons, List.not_mem_nil, or_false, forall_eq_or_imp,
    forall_eq] at hpass
  obtain ⟨hsource, -, -, hback, hlease⟩ := hpass
  refine ⟨by simpa using hsource, hback, by simpa using hlease, ?_⟩
  unfold gateHardwareRtc
  rw [if_neg (by simp [hs]), hchecks]

/-! ### The query -/

/-- The answer of `query` with the source PLATFORM_SYNC that is trusted. -/
def TrustedTimeResult.platformTrusted (r : TrustedTimeResult) : Bool :=
  r.granted && r.sample.source == .platformSync

theorem gated_granted {α : Type} {enabled : Bool} {gate : α → TrustedTimeResult}
    {answer : Option α} {g : TrustedTimeResult} :
    (gated enabled gate answer).filter (·.granted) = some g ↔
      ∃ a, answer = some a ∧ enabled = true ∧ (gate a).granted = true ∧ g = gate a := by
  rw [Option.filter_eq_some_iff]
  cases enabled with
  | false => simp [gated]
  | true =>
    cases answer with
    | none => simp [gated]
    | some a =>
      simp only [gated, if_true, Option.map_some, Option.some.injEq, exists_eq_left', true_and]
      constructor
      · rintro ⟨rfl, h⟩
        exact ⟨h, rfl⟩
      · rintro ⟨h, rfl⟩
        exact ⟨rfl, h⟩

theorem fallback_not_granted {platform rtc : Option TrustedTimeResult}
    (hplatform : platform.filter (·.granted) = none) (hrtc : rtc.filter (·.granted) = none) :
    (fallback platform rtc).granted = false := by
  have hfirst : (platform.getD noSource).granted = false := by
    cases platform with
    | none => rfl
    | some g => simpa [Option.filter] using hplatform
  unfold fallback
  cases rtc with
  | none => exact hfirst
  | some g =>
    have hg : g.granted = false := by simpa [Option.filter] using hrtc
    simp only
    split
    · exact hg
    · exact hfirst

/-- Where a granted answer of `query` comes from. -/
theorem query_cases (cfg : TrustedTimeConfig) (c : Composite) (facts : Option TimeFactSnapshot)
    (rtc : Option TrustedTimeSample) (now : ℤ) :
    (∃ f, facts = some f ∧ cfg.platformEnabled = true ∧
      (gatePlatform cfg c f now).granted = true ∧
      query cfg c facts rtc now =
        (gatePlatform cfg c f now, acceptAsKnownGood c (gatePlatform cfg c f now).sample)) ∨
    (∃ s, rtc = some s ∧ cfg.hwRtcEnabled = true ∧ (gateHardwareRtc cfg c s).granted = true ∧
      query cfg c facts rtc now =
        (gateHardwareRtc cfg c s, acceptAsKnownGood c (gateHardwareRtc cfg c s).sample)) ∨
    ((query cfg c facts rtc now).1.granted = false ∧ (query cfg c facts rtc now).2 = c ∧
      ∀ f, facts = some f → cfg.platformEnabled = true →
        (gatePlatform cfg c f now).granted = false) := by
  cases hplatform : (platformAnswer cfg c facts now).filter (·.granted) with
  | some g =>
    have hq : query cfg c facts rtc now = (g, acceptAsKnownGood c g.sample) := by
      simp only [query, hplatform]
    obtain ⟨f, hf, hon, hgranted, rfl⟩ := gated_granted.mp hplatform
    exact .inl ⟨f, hf, hon, hgranted, hq⟩
  | none =>
    have hno : ∀ f, facts = some f → cfg.platformEnabled = true →
        (gatePlatform cfg c f now).granted = false := by
      intro f hf hon
      by_contra hgranted
      have hsome : (platformAnswer cfg c facts now).filter (·.granted) =
          some (gatePlatform cfg c f now) :=
        gated_granted.mpr ⟨f, hf, hon, by simpa using hgranted, rfl⟩
      rw [hsome] at hplatform
      cases hplatform
    cases hrtc : (rtcAnswer cfg c rtc).filter (·.granted) with
    | some g =>
      have hq : query cfg c facts rtc now = (g, acceptAsKnownGood c g.sample) := by
        simp only [query, hplatform, hrtc]
      obtain ⟨s, hs, hon, hgranted, rfl⟩ := gated_granted.mp hrtc
      exact .inr (.inl ⟨s, hs, hon, hgranted, hq⟩)
    | none =>
      have hq : query cfg c facts rtc now =
          (fallback (platformAnswer cfg c facts now) (rtcAnswer cfg c rtc), c) := by
        simp only [query, hplatform, hrtc]
      rw [hq]
      exact .inr (.inr ⟨fallback_not_granted hplatform hrtc, rfl, hno⟩)

end TboxSec.Time
