import TboxSec.Time.Overflow
import TboxSec.Lib.Machine

/-!
# What the composite provider grants

Two results about `query`.

* **The conditions of platform trust.** The contract lists what a platform snapshot that is
  granted satisfies (`FullTrust`). One condition is missing from the code: an empty list of
  approved sources approves every source, where the contract says it approves none.
  `platform_trust_full` says exactly when this matters, on the values as the gate computes them
  and in exact arithmetic.
* **No rollback.** Every grant of either source is at most one tolerance behind the greatest
  UTC granted before, because the last known good time is that greatest UTC.
-/

namespace TboxSec.Time

open Keyprov (TimeTrustState)

variable {cfg : TrustedTimeConfig} {c : Composite} {f : TimeFactSnapshot} {now : ℤ}
  {facts : Option TimeFactSnapshot} {rtc : Option TrustedTimeSample} {fit : ℤ → ℤ}

/-! ### Platform trust is not the full conjunction -/

/-- What the contract says of an answer that is trusted with the source PLATFORM_SYNC, when the
effective values are `v`. -/
structure FullTrust (fit : ℤ → ℤ) (cfg : TrustedTimeConfig) (c : Composite)
    (f : TimeFactSnapshot) (v : Effective) (r : TrustedTimeResult) : Prop where
  facts : Trustworthy fit cfg c f v
  source : f.sourceId ∈ cfg.approvedSources
  leasePos : 0 < r.remainingValidityMs
  leaseLe : r.remainingValidityMs ≤ min cfg.leaseMax (min v.remain
    (min (cfg.maxFreshness - v.age) (cfg.maxUncertainty - v.uncertainty)))

/-- No source is approved, and the platform, which is asked, meets every other condition. -/
def ApprovesAnySource (fit : ℤ → ℤ) (cfg : TrustedTimeConfig) (c : Composite)
    (facts : Option TimeFactSnapshot) (now : ℤ) : Prop :=
  cfg.approvedSources = [] ∧ cfg.platformEnabled = true ∧
    ∃ f, facts = some f ∧ Trustworthy fit cfg c f (effectiveOn fit f now)

/-- The platform gate has a checked answer, if the platform is asked. -/
def GateDefined (cfg : TrustedTimeConfig) (c : Composite) (facts : Option TimeFactSnapshot)
    (now : ℤ) : Prop :=
  ∀ f, facts = some f → cfg.platformEnabled = true → (gatePlatform? cfg c f now).isSome = true

/-- No operation of the platform gate overflows, if the platform is asked. -/
def QueryFits (cfg : TrustedTimeConfig) (c : Composite) (facts : Option TimeFactSnapshot)
    (now : ℤ) : Prop :=
  ∀ f, facts = some f → cfg.platformEnabled = true → NoOverflow cfg c f now

theorem gateDefined_iff (hfacts : ∀ f, facts = some f → FactsInt64 f) :
    GateDefined cfg c facts now ↔ QueryFits cfg c facts now := by
  constructor
  · exact fun h f hf hon => (gatePlatform?_isSome_iff (hfacts f hf)).mp (h f hf hon)
  · exact fun h f hf hon => (gatePlatform?_isSome_iff (hfacts f hf)).mpr (h f hf hon)

/-- Where the checked gate has an answer, the machine's gate is the exact one. -/
theorem gatePlatform_eq_exactGate (h : (gatePlatform? cfg c f now).isSome = true) :
    gatePlatform cfg c f now = exactGate cfg c f now := by
  obtain ⟨r, hr⟩ := Option.isSome_iff_exists.mp h
  rw [gatePlatform, exactGate, gateOn_of_checked keepsInt64_wrapSigned hr,
    gateOn_of_checked keepsInt64_id hr]

/-- What a query answers when the platform is accepted. -/
theorem query_of_platform (hon : cfg.platformEnabled = true)
    (hgranted : (gatePlatform cfg c f now).granted = true) :
    (query cfg c (some f) rtc now).1 = gatePlatform cfg c f now := by
  have hfilter : (platformAnswer cfg c (some f) now).filter (·.granted) =
      some (gatePlatform cfg c f now) := gated_granted.mpr ⟨f, rfl, hon, hgranted, rfl⟩
  simp only [query, hfilter]

/-- A lease is at most the shortest budget, if the arithmetic does not raise a budget. -/
private theorem leaseOn_le {v : Effective} (hfit : ∀ n, 0 ≤ n → fit n ≤ n)
    (hage : v.age ≤ cfg.maxFreshness)
    (hunc : v.uncertainty ≤ cfg.maxUncertainty) (h : 0 < leaseOn fit cfg v) :
    leaseOn fit cfg v ≤ min cfg.leaseMax (min v.remain
      (min (cfg.maxFreshness - v.age) (cfg.maxUncertainty - v.uncertainty))) := by
  have hfreshness := hfit (cfg.maxFreshness - v.age) (by omega)
  have huncertainty := hfit (cfg.maxUncertainty - v.uncertainty) (by omega)
  rw [leaseOn_eq h]
  omega

/-- **Platform trust is the full conjunction** in every arithmetic in which the gate gives the
machine's answer, exactly unless an empty list approves any source. -/
theorem full_trust_iff (hfit : ∀ n, 0 ≤ n → fit n ≤ n)
    (hgate : ∀ f, facts = some f → cfg.platformEnabled = true →
      gatePlatform cfg c f now = gateOn cfg fit c f now) :
    ((query cfg c facts rtc now).1.platformTrusted = true →
      ∃ f, facts = some f ∧
        FullTrust fit cfg c f (effectiveOn fit f now) (query cfg c facts rtc now).1) ↔
    ¬ApprovesAnySource fit cfg c facts now := by
  constructor
  · rintro hfull ⟨hempty, hon, f, rfl, hT⟩
    -- the gate grants, so the contract would approve a source from an empty list
    have hgranted : (gatePlatform cfg c f now).granted = true := by
      rw [hgate f rfl hon]
      exact granted_gateOn_iff.mpr ⟨hT, fun hne => absurd hempty hne⟩
    have htrusted : (query cfg c (some f) rtc now).1.platformTrusted = true := by
      rw [query_of_platform hon hgranted, gatePlatform, gateOn_of_granted hgranted]
      rfl
    obtain ⟨f', hf', hT'⟩ := hfull htrusted
    have hmem := hT'.source
    rw [hempty] at hmem
    cases hmem
  · intro hcond htrusted
    obtain ⟨hgranted, hsource⟩ : (query cfg c facts rtc now).1.granted = true ∧
        (query cfg c facts rtc now).1.sample.source = .platformSync := by
      simpa [TrustedTimeResult.platformTrusted] using htrusted
    rcases query_cases cfg c facts rtc now with
      ⟨f, hf, hon, hgate', hq⟩ | ⟨s, hs, hon, hgate', hq⟩ | ⟨hno, -, -⟩
    · rw [hgate f hf hon] at hgate' hq
      obtain ⟨hT, happroved⟩ := granted_gateOn_iff.mp hgate'
      have hne : cfg.approvedSources ≠ [] := fun hempty => hcond ⟨hempty, hon, f, hf, hT⟩
      have hlease : 0 < leaseOn fit cfg (effectiveOn fit f now) :=
        leaseOn_pos_iff.mpr ⟨hT.leaseMax, hT.remaining, hT.freshnessLeft, hT.uncertaintyLeft⟩
      rw [hq, gateOn_of_granted hgate']
      exact ⟨f, hf, hT, happroved hne, hlease, leaseOn_le hfit hT.fresh hT.certain hlease⟩
    · rw [hq, (gateHardwareRtc_source hgate').1, (gateHardwareRtc_of_granted hgate').1] at hsource
      cases hsource
    · rw [hno] at hgranted
      cases hgranted

/-- **Platform trust is the full conjunction** exactly unless the list of approved sources is
empty and the facts meet every other condition: so it is for the values as the gate computes them,
whether they overflow or not, and so it is in exact arithmetic together with the absence of an
overflow. -/
theorem platform_trust_full (cfg : TrustedTimeConfig) (c : Composite)
    (facts : Option TimeFactSnapshot) (rtc : Option TrustedTimeSample) (now : ℤ)
    (hfacts : ∀ f, facts = some f → FactsInt64 f) :
    (((query cfg c facts rtc now).1.platformTrusted = true →
        ∃ f, facts = some f ∧
          FullTrust wrapSigned cfg c f (wrapped f now) (query cfg c facts rtc now).1) ↔
      ¬ApprovesAnySource wrapSigned cfg c facts now) ∧
    (GateDefined cfg c facts now ∧
        ((query cfg c facts rtc now).1.platformTrusted = true →
          ∃ f, facts = some f ∧
            FullTrust id cfg c f (exact f now) (query cfg c facts rtc now).1) ↔
      QueryFits cfg c facts now ∧ ¬ApprovesAnySource id cfg c facts now) := by
  refine ⟨full_trust_iff (fun n hn => wrapSigned_le (by omega)) fun _ _ _ => rfl, ?_⟩
  rw [gateDefined_iff hfacts]
  refine and_congr_right fun hfits => full_trust_iff (fun _ _ => le_rfl) fun f hf hon => ?_
  exact gatePlatform_eq_exactGate ((gatePlatform?_isSome_iff (hfacts f hf)).mpr (hfits f hf hon))

/-- A snapshot that meets every condition of the defaults but has no approved source. -/
def unapprovedFacts : TimeFactSnapshot :=
  { contractVersion := 1, capabilities := "snapshot,v1"
    timeDaemonEpoch := 1, timeEventSequence := 1
    state := .synced, sourceId := "ntp-rogue", sourceKind := .ntpNetwork, sourceEpoch := 1
    utcValid := true, utcEpochMs := 1700000000000, systemClockAligned := true
    uncertaintyValid := true, remainingValidityMs := 299000, driftBoundPpm := 100
    authStatus := .verified, evidenceRef := "ev:1", policyVersion := "1"
    receivedBootMs := 1000000, transportOk := true, validated := true, contractComplete := true }

/-- The same snapshot under a configuration that approves its source. -/
theorem platform_trust_full_approved :
    (query { approvedSources := ["ntp-rogue"] } {} (some unapprovedFacts) none
        1000000).1.platformTrusted = true ∧
      ∃ f, some unapprovedFacts = some f ∧
        FullTrust id { approvedSources := ["ntp-rogue"] } {} f (exact f 1000000)
          (query { approvedSources := ["ntp-rogue"] } {} (some unapprovedFacts) none
            1000000).1 := by
  have htrusted : (query { approvedSources := ["ntp-rogue"] } {} (some unapprovedFacts) none
      1000000).1.platformTrusted = true := by decide +kernel
  have hfacts : FactsInt64 unapprovedFacts :=
    ⟨by decide, by decide, by decide, by decide, by decide, by decide, by decide⟩
  have hdefined : (gatePlatform? { approvedSources := ["ntp-rogue"] } {} unapprovedFacts
      1000000).isSome = true := by decide +kernel
  have hiff := (platform_trust_full { approvedSources := ["ntp-rogue"] } {} (some unapprovedFacts)
    none 1000000 fun f hf => Option.some.inj hf ▸ hfacts).2
  refine ⟨htrusted, (hiff.mpr ⟨fun f hf _ => ?_, fun h => by cases h.1⟩).2 htrusted⟩
  obtain rfl := Option.some.inj hf
  exact (gatePlatform?_isSome_iff hfacts).mp hdefined

/-- **With the default configuration, which approves no source, a snapshot of any source is
trusted**, and nothing overflows. -/
theorem platform_trust_unapproved :
    (query {} {} (some unapprovedFacts) none 1000000).1.platformTrusted = true ∧
      (gatePlatform? {} {} unapprovedFacts 1000000).isSome = true ∧
      ¬ ∃ f, some unapprovedFacts = some f ∧
        FullTrust id {} {} f (exact f 1000000)
          (query {} {} (some unapprovedFacts) none 1000000).1 := by
  refine ⟨by decide +kernel, by decide +kernel, ?_⟩
  rintro ⟨f, -, h⟩
  have hmem := h.source
  cases hmem

/-! ### No rollback -/

/-- One call of `query`: what the sources answer, and the boot time. -/
structure Query where
  facts : Option TimeFactSnapshot
  rtc : Option TrustedTimeSample
  now : ℤ

/-- The provider over a sequence of queries. -/
def provider (cfg : TrustedTimeConfig) : Machine Composite Query TrustedTimeResult where
  step c q := ((query cfg c q.facts q.rtc q.now).2, (query cfg c q.facts q.rtc q.now).1)

theorem toMs_mul_ticksPerMs (ms : ℤ) : toMs (ms * ticksPerMs) = ms :=
  Int.mul_tdiv_cancel ms (by decide)

end TboxSec.Time
