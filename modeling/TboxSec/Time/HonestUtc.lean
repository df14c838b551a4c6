import TboxSec.Time.Lease
import TboxSec.Time.Fake

/-!
# The UTC of an envelope

An envelope says whether its UTC is valid, and an unknown UTC is not to be written as zero. The
flag of the platform is copied from the facts before the gate has judged them, the value is set by
the grant alone; the gate of the hardware clock sets the value and never the flag; the development
source always sets the flag.

* **The composite** (`query_honest_iff`): the flag is honest exactly if the platform is granted,
  or if the hardware clock is not and the platform's facts claim no UTC. The UTC and the
  uncertainty of a grant are the exact ones as long as the gate has no overflow, the conversion to
  a time point included.
* **The monitor** keeps the flag and the value of its latest refresh through expiry and
  revocation, so its answers are honest as long as its refreshes are (`honest_get`).
* **The development source** (`fake_honest_iff`) is honest about the samples it trusts.
-/

namespace TboxSec.Time

variable {cfg : TrustedTimeConfig} {c : Composite} {f : TimeFactSnapshot} {now : ℤ}
  {facts : Option TimeFactSnapshot} {rtc : Option TrustedTimeSample} {r : TrustedTimeResult}

/-! ### Honesty -/

/-- The envelope of `r` shows a UTC as valid only if it is the `accepted` estimate of UTC and
uncertainty, and a trusted result shows the UTC of its sample. -/
structure HonestUtc (accepted : Option (ℤ × ℤ)) (r : TrustedTimeResult) : Prop where
  valid : r.toEnvelope.utcValid = true →
    accepted = some (r.toEnvelope.utcEpochMs, r.toEnvelope.uncertaintyMs)
  trusted : r.granted = true →
    r.toEnvelope.utcValid = true ∧ r.toEnvelope.utcEpochMs = toMs r.sample.utcNow

/-- A result that shows no UTC and is not trusted is honest. -/
private theorem honestUtc_of_silent {accepted : Option (ℤ × ℤ)} (hvalid : r.utcValid = false)
    (hgranted : r.granted = false) : HonestUtc accepted r where
  valid h := by
    change r.utcValid = true at h
    rw [hvalid] at h
    cases h
  trusted h := by
    rw [hgranted] at h
    cases h

/-- The estimate of the platform's facts, if the platform is asked and its gate accepts them. -/
def platformAccepted (cfg : TrustedTimeConfig) (c : Composite) (facts : Option TimeFactSnapshot)
    (now : ℤ) : Option (ℤ × ℤ) :=
  (facts.filter fun f => cfg.platformEnabled && (gatePlatform cfg c f now).granted).map
    fun f => (utcEff f now, uncertaintyEff f now)

/-- The estimate of the hardware clock, if it is asked and its gate accepts the sample. -/
def rtcAccepted (cfg : TrustedTimeConfig) (c : Composite) (rtc : Option TrustedTimeSample) :
    Option (ℤ × ℤ) :=
  (rtc.filter fun s => cfg.hwRtcEnabled && (gateHardwareRtc cfg c s).granted).map
    fun s => (toMs s.utcNow, s.uncertainty)

/-- The estimate of the source that a query accepts. -/
def acceptedEstimate (cfg : TrustedTimeConfig) (c : Composite) (facts : Option TimeFactSnapshot)
    (rtc : Option TrustedTimeSample) (now : ℤ) : Option (ℤ × ℤ) :=
  (platformAccepted cfg c facts now).or (rtcAccepted cfg c rtc)

/-- The platform is asked, and its facts are readable and claim a valid UTC. -/
def ClaimsUtc (cfg : TrustedTimeConfig) (facts : Option TimeFactSnapshot) : Prop :=
  cfg.platformEnabled = true ∧
    ∃ f, facts = some f ∧ f.transportOk = true ∧ f.validated = true ∧ f.utcValid = true

/-- The platform is accepted; or the hardware clock is not either, and nobody claims a UTC. -/
def HonestSources (cfg : TrustedTimeConfig) (c : Composite) (facts : Option TimeFactSnapshot)
    (rtc : Option TrustedTimeSample) (now : ℤ) : Prop :=
  (platformAccepted cfg c facts now).isSome = true ∨
    rtcAccepted cfg c rtc = none ∧ ¬ClaimsUtc cfg facts

/-! ### The flag of the gates -/

/-- A refusal before the arithmetic has the flag of readable facts. -/
private theorem earlyRefusal_utcValid (h : earlyRefusal cfg f = some r) :
    r.utcValid = (f.transportOk && f.validated && f.utcValid) := by
  unfold earlyRefusal at h
  cases htransport : f.transportOk with
  | false =>
    rw [htransport] at h
    obtain rfl := Option.some.inj h
    rfl
  | true =>
    cases hvalidated : f.validated with
    | false =>
      rw [htransport, hvalidated] at h
      obtain rfl := Option.some.inj h
      rfl
    | true =>
      rw [htransport, hvalidated, if_neg (by simp), if_neg (by simp)] at h
      split at h
      · obtain rfl := Option.some.inj h
        rfl
      split at h
      · obtain rfl := Option.some.inj h
        rfl
      · obtain ⟨refusal, -, rfl⟩ := Option.map_eq_some_iff.mp h
        rfl

/-- A refusal of readable facts before the arithmetic is as specific as a reason can be. -/
private theorem earlyRefusal_reasonClass (htransport : f.transportOk = true)
    (h : earlyRefusal cfg f = some r) : reasonClass r.sample.reason = 2 := by
  unfold earlyRefusal at h
  rw [htransport, if_neg (by simp)] at h
  split at h
  · obtain rfl := Option.some.inj h
    rfl
  split at h
  · obtain rfl := Option.some.inj h
    rfl
  split at h
  · obtain rfl := Option.some.inj h
    rfl
  · obtain ⟨refusal, hrefusal, rfl⟩ := Option.map_eq_some_iff.mp h
    exact (accessChecks_decisive hrefusal).2

/-- The flag of the platform gate is that of readable facts, whatever the gate decides. -/
private theorem gatePlatform_utcValid :
    (gatePlatform cfg c f now).utcValid = (f.transportOk && f.validated && f.utcValid) := by
  rcases gateOn_cases wrapSigned cfg c f now with
    ⟨-, hgate⟩ | ⟨hpass, ⟨refusal, -, hgate⟩, -⟩ | ⟨hpass, hgate, -⟩
  · exact earlyRefusal_utcValid hgate
  · rw [gatePlatform, hgate, hpass.transport, hpass.validated]
    rfl
  · rw [gatePlatform, hgate, hpass.transport, hpass.validated]
    rfl

/-- A refusal of readable facts is as specific as a reason can be. -/
private theorem gatePlatform_reasonClass (htransport : f.transportOk = true) :
    reasonClass (gatePlatform cfg c f now).sample.reason = 2 := by
  rcases gateOn_cases wrapSigned cfg c f now with
    ⟨-, hgate⟩ | ⟨-, ⟨refusal, hrefusal, hgate⟩, -⟩ | ⟨-, hgate, -⟩
  · exact earlyRefusal_reasonClass htransport hgate
  · rw [gatePlatform, hgate]
    exact hrefusal.2
  · rw [gatePlatform, hgate]
    rfl

/-- The gate of the hardware clock never sets the flag. -/
private theorem gateHardwareRtc_utcValid (s : TrustedTimeSample) :
    (gateHardwareRtc cfg c s).utcValid = false := by
  unfold gateHardwareRtc
  dsimp only
  split
  · rfl
  split
  · rfl
  · rfl

private theorem rtcAnswer_utcValid {g : TrustedTimeResult} (h : rtcAnswer cfg c rtc = some g) :
    g.utcValid = false := by
  unfold rtcAnswer gated at h
  split at h
  · obtain ⟨s, -, rfl⟩ := Option.map_eq_some_iff.mp h
    exact gateHardwareRtc_utcValid s
  · cases h

private theorem fallback_utcValid_of_silent {platform rtc : Option TrustedTimeResult}
    (hplatform : (platform.getD noSource).utcValid = false)
    (hrtc : ∀ g, rtc = some g → g.utcValid = false) : (fallback platform rtc).utcValid = false := by
  unfold fallback
  cases rtc with
  | none => exact hplatform
  | some g =>
    dsimp only
    split
    · exact hrtc g rfl
    · exact hplatform

/-- No reason of the hardware clock says more than a reason that says most. -/
private theorem fallback_of_top {platform rtc : Option TrustedTimeResult}
    (h : reasonClass (platform.getD noSource).sample.reason = 2) :
    fallback platform rtc = platform.getD noSource := by
  have hspecific : ∀ a : TimeReason,
      moreSpecific a (platform.getD noSource).sample.reason = false := by
    intro a
    unfold moreSpecific
    rw [h]
    cases a <;> rfl
  unfold fallback
  cases rtc with
  | none => rfl
  | some g =>
    dsimp only
    rw [hspecific, if_neg (by simp)]

/-- **The flag of a refused query** is the claim of the platform. -/
theorem fallback_utcValid_iff :
    (fallback (platformAnswer cfg c facts now) (rtcAnswer cfg c rtc)).utcValid = true ↔
      ClaimsUtc cfg facts := by
  have hrtc : ∀ g, rtcAnswer cfg c rtc = some g → g.utcValid = false :=
    fun g hg => rtcAnswer_utcValid hg
  by_cases hclaims : ClaimsUtc cfg facts
  · obtain ⟨hon, f, rfl, htransport, hvalidated, hutc⟩ := hclaims
    have hanswer : platformAnswer cfg c (some f) now = some (gatePlatform cfg c f now) := by
      rw [platformAnswer, gated, if_pos hon, Option.map_some]
    have hvalid : (gatePlatform cfg c f now).utcValid = true := by
      rw [gatePlatform_utcValid, htransport, hvalidated, hutc]
      rfl
    have htop : reasonClass ((some (gatePlatform cfg c f now)).getD noSource).sample.reason = 2 :=
      gatePlatform_reasonClass htransport
    rw [hanswer, fallback_of_top htop]
    exact iff_of_true hvalid ⟨hon, f, rfl, htransport, hvalidated, hutc⟩
  · have hsilent : ((platformAnswer cfg c facts now).getD noSource).utcValid = false := by
      unfold platformAnswer gated
      by_cases hon : cfg.platformEnabled = true
      · rw [if_pos hon]
        cases facts with
        | none => rfl
        | some f =>
          change (gatePlatform cfg c f now).utcValid = false
          rw [gatePlatform_utcValid]
          by_contra hvalid
          simp only [Bool.not_eq_false, Bool.and_eq_true] at hvalid
          exact hclaims ⟨hon, f, rfl, hvalid.1.1, hvalid.1.2, hvalid.2⟩
      · rw [if_neg hon]
        rfl
    rw [fallback_utcValid_of_silent hsilent hrtc]
    exact iff_of_false (by simp) hclaims

/-! ### The composite -/

private theorem platformAccepted_eq_some_iff {est : ℤ × ℤ} :
    platformAccepted cfg c facts now = some est ↔
      ∃ f, facts = some f ∧ cfg.platformEnabled = true ∧
        (gatePlatform cfg c f now).granted = true ∧ (utcEff f now, uncertaintyEff f now) = est := by
  rw [platformAccepted, Option.map_eq_some_iff]
  constructor
  · rintro ⟨f, hf, hest⟩
    obtain ⟨hfacts, hgranted⟩ := Option.filter_eq_some_iff.mp hf
    rw [Bool.and_eq_true] at hgranted
    exact ⟨f, hfacts, hgranted.1, hgranted.2, hest⟩
  · rintro ⟨f, hfacts, hon, hgranted, hest⟩
    exact ⟨f, Option.filter_eq_some_iff.mpr ⟨hfacts, by rw [hon, hgranted]; rfl⟩, hest⟩

private theorem rtcAccepted_eq_some_iff {est : ℤ × ℤ} :
    rtcAccepted cfg c rtc = some est ↔
      ∃ s, rtc = some s ∧ cfg.hwRtcEnabled = true ∧
        (gateHardwareRtc cfg c s).granted = true ∧ (toMs s.utcNow, s.uncertainty) = est := by
  rw [rtcAccepted, Option.map_eq_some_iff]
  constructor
  · rintro ⟨s, hs, hest⟩
    obtain ⟨hrtc, hgranted⟩ := Option.filter_eq_some_iff.mp hs
    rw [Bool.and_eq_true] at hgranted
    exact ⟨s, hrtc, hgranted.1, hgranted.2, hest⟩
  · rintro ⟨s, hrtc, hon, hgranted, hest⟩
    exact ⟨s, Option.filter_eq_some_iff.mpr ⟨hrtc, by rw [hon, hgranted]; rfl⟩, hest⟩

/-- The exact grant of the platform shows the estimate of its facts. -/
private theorem honestUtc_grantOn (hutc : f.utcValid = true) :
    HonestUtc (some (utcEff f now, uncertaintyEff f now)) (grantOn id cfg f (exact f now)) := by
  have hms : (grantOn id cfg f (exact f now)).toEnvelope.utcEpochMs = utcEff f now := by
    change (if f.utcValid then toMs (utcEff f now * ticksPerMs) else 0) = utcEff f now
    rw [if_pos hutc, toMs_mul_ticksPerMs]
  refine ⟨fun _ => ?_, fun _ => ⟨hutc, ?_⟩⟩
  · rw [hms]
    rfl
  · rw [hms]
    exact (toMs_mul_ticksPerMs _).symm

variable (rtc) in
/-- Where nothing overflows, the answer to an accepted platform is the exact grant. -/
private theorem query_of_platform_exact (hfits : GateDefined cfg c (some f) now)
    (hon : cfg.platformEnabled = true) (hgranted : (gatePlatform cfg c f now).granted = true) :
    (query cfg c (some f) rtc now).1 = grantOn id cfg f (exact f now) ∧ f.utcValid = true := by
  have hexact : gatePlatform cfg c f now = exactGate cfg c f now :=
    gatePlatform_eq_exactGate (hfits f rfl hon)
  rw [query_of_platform hon hgranted]
  rw [hexact] at hgranted ⊢
  obtain ⟨hT, -⟩ := granted_gateOn_iff.mp hgranted
  exact ⟨gateOn_of_granted hgranted, hT.utc⟩

private theorem platformAnswer_refused (h : platformAccepted cfg c facts now = none) :
    (platformAnswer cfg c facts now).filter (·.granted) = none := by
  by_contra hne
  obtain ⟨g, hg⟩ := Option.ne_none_iff_exists'.mp hne
  obtain ⟨f, hf, hon, hgranted, -⟩ := gated_granted.mp hg
  have hsome := platformAccepted_eq_some_iff.mpr ⟨f, hf, hon, hgranted, rfl⟩
  rw [h] at hsome
  cases hsome

private theorem rtcAnswer_refused (h : rtcAccepted cfg c rtc = none) :
    (rtcAnswer cfg c rtc).filter (·.granted) = none := by
  by_contra hne
  obtain ⟨g, hg⟩ := Option.ne_none_iff_exists'.mp hne
  obtain ⟨s, hs, hon, hgranted, -⟩ := gated_granted.mp hg
  have hsome := rtcAccepted_eq_some_iff.mpr ⟨s, hs, hon, hgranted, rfl⟩
  rw [h] at hsome
  cases hsome

/-- What a query answers when only the hardware clock is accepted. -/
private theorem query_of_rtc {s : TrustedTimeSample}
    (hplatform : platformAccepted cfg c facts now = none)
    (hon : cfg.hwRtcEnabled = true) (hgranted : (gateHardwareRtc cfg c s).granted = true) :
    (query cfg c facts (some s) now).1 = gateHardwareRtc cfg c s := by
  have hfilter : (rtcAnswer cfg c (some s)).filter (·.granted) =
      some (gateHardwareRtc cfg c s) := gated_granted.mpr ⟨s, rfl, hon, hgranted, rfl⟩
  simp only [query, platformAnswer_refused hplatform, hfilter]

/-- What it answers when neither is. -/
private theorem query_of_refused (hplatform : platformAccepted cfg c facts now = none)
    (hrtc : rtcAccepted cfg c rtc = none) :
    (query cfg c facts rtc now).1 =
        fallback (platformAnswer cfg c facts now) (rtcAnswer cfg c rtc) ∧
      (query cfg c facts rtc now).1.granted = false := by
  have hp := platformAnswer_refused hplatform
  have hr := rtcAnswer_refused hrtc
  have hquery : (query cfg c facts rtc now).1 =
      fallback (platformAnswer cfg c facts now) (rtcAnswer cfg c rtc) := by
    simp only [query, hp, hr]
  exact ⟨hquery, hquery ▸ fallback_not_granted hp hr⟩

/-- **The composite is honest** exactly about honest sources, where nothing overflows. -/
theorem query_honest_iff (hfits : GateDefined cfg c facts now) :
    HonestUtc (acceptedEstimate cfg c facts rtc now) (query cfg c facts rtc now).1 ↔
      HonestSources cfg c facts rtc now := by
  cases hp : platformAccepted cfg c facts now with
  | some est =>
    -- the platform is granted
    obtain ⟨f, rfl, hon, hgranted, rfl⟩ := platformAccepted_eq_some_iff.mp hp
    obtain ⟨hgrant, hutc⟩ := query_of_platform_exact rtc hfits hon hgranted
    rw [hgrant, acceptedEstimate, hp]
    exact iff_of_true (honestUtc_grantOn hutc) (.inl (by rw [hp]; rfl))
  | none =>
    have hno : ¬(platformAccepted cfg c facts now).isSome = true := by
      rw [hp]
      exact Bool.false_ne_true
    cases hr : rtcAccepted cfg c rtc with
    | some est =>
      -- the hardware clock is granted, and its result never has the flag
      refine iff_of_false (fun h => ?_) ?_
      · obtain ⟨s, rfl, hon, hgranted, -⟩ := rtcAccepted_eq_some_iff.mp hr
        rw [query_of_rtc hp hon hgranted] at h
        have hflag : (gateHardwareRtc cfg c s).utcValid = true := (h.trusted hgranted).1
        rw [gateHardwareRtc_utcValid] at hflag
        cases hflag
      · rintro (h | ⟨h, -⟩)
        · exact hno h
        · rw [hr] at h
          cases h
    | none =>
      obtain ⟨hquery, hrefused⟩ := query_of_refused hp hr
      by_cases hclaims : ClaimsUtc cfg facts
      · have hflag : (fallback (platformAnswer cfg c facts now) (rtcAnswer cfg c rtc)).utcValid =
            true := fallback_utcValid_iff.mpr hclaims
        rw [← hquery] at hflag
        refine iff_of_false (fun h => ?_) ?_
        · have hest := h.valid hflag
          rw [acceptedEstimate, hp, hr] at hest
          cases hest
        · rintro (h | ⟨-, h⟩)
          · exact hno h
          · exact h hclaims
      · have hflag : (query cfg c facts rtc now).1.utcValid = false := by
          rw [hquery, ← Bool.not_eq_true, fallback_utcValid_iff]
          exact hclaims
        exact iff_of_true (honestUtc_of_silent hflag hrefused) (.inr ⟨hr, hclaims⟩)

/-! ### The monitor -/

variable {S : Setup} {m m' : Monitor}

/-- The estimate of the facts that a refresh accepted. -/
def Refresh.estimate (ref : Refresh) : Option (ℤ × ℤ) :=
  if ref.result.granted then some (utcEff ref.facts ref.judged, uncertaintyEff ref.facts ref.judged)
  else none

/-- The facts that a refresh of the monitor `m` hands to the composite. -/
def Monitor.askedFacts (S : Setup) (m : Monitor) (e : Env) : Option TimeFactSnapshot :=
  if S.platform then some (m.readFacts e (m.boot + e.beforeRefresh)).1 else none

/-- When the monitor `m` asks them, the sources are honest, and the gate has no overflow on the
numbers of 64 bits it is given. -/
structure Monitor.AsksHonest (S : Setup) (m : Monitor) (e : Env) : Prop where
  int64 : ∀ f, m.askedFacts S e = some f → FactsInt64 f
  fits : QueryFits S.cfg m.composite (m.askedFacts S e)
    (m.readFacts e (m.boot + e.beforeRefresh)).2
  sources : HonestSources S.cfg m.composite (m.askedFacts S e)
    (if S.rtc then some e.rtc else none) (m.readFacts e (m.boot + e.beforeRefresh)).2

/-- The monitor of a pass when it looks at its cache. -/
def Monitor.inPass (S : Setup) (m : Monitor) (e : Env) : Monitor :=
  Monitor.manageConnection S { m with boot := m.boot + e.beforeLoop } e (m.boot + e.beforeLoop)

/-- **The step condition**: if the step refreshes the cache, the sources are honest then. -/
def Act.Honest (S : Setup) (m : Monitor) : Act → Prop
  | .loopPass e =>
    m.running = true →
      ((m.inPass S e).refreshPending = true ∨
        m.boot + e.beforeLoop - (m.inPass S e).lastRefreshBootMs ≥ S.cfg.monitorRefreshInterval) →
      (m.inPass S e).AsksHonest S e
  | .get token e => m.refusesToken token = false → m.cached = none → m.AsksHonest S e
  | _ => True

/-- `r` shows what `r'` shows of the UTC, and is not trusted more. -/
structure SameUtc (r r' : TrustedTimeResult) : Prop where
  flag : r.utcValid = r'.utcValid
  utc : r.sample.utcNow = r'.sample.utcNow
  uncertainty : r.sample.uncertainty = r'.sample.uncertainty
  granted : r.granted = true → r'.granted = true

private theorem SameUtc.honest {est : Option (ℤ × ℤ)} {r r' : TrustedTimeResult} (h : SameUtc r r')
    (hr : HonestUtc est r') : HonestUtc est r := by
  have hvalid : r.toEnvelope.utcValid = r'.toEnvelope.utcValid := h.flag
  have hutc : r.toEnvelope.utcEpochMs = r'.toEnvelope.utcEpochMs := by
    simp only [TrustedTimeResult.toEnvelope, h.flag, h.utc]
  have huncertainty : r.toEnvelope.uncertaintyMs = r'.toEnvelope.uncertaintyMs := h.uncertainty
  refine ⟨fun hv => ?_, fun hg => ?_⟩
  · rw [hutc, huncertainty]
    exact hr.valid (hvalid ▸ hv)
  · obtain ⟨hv, hu⟩ := hr.trusted (h.granted hg)
    rw [hvalid, hutc, h.utc]
    exact ⟨hv, hu⟩

/-- The cache shows the UTC of the latest refresh, and that refresh was honest. -/
def Backed (m : Monitor) : Prop :=
  ∀ r, m.cached = some r →
    ∃ ref, m.latest = some ref ∧ HonestUtc ref.estimate ref.result ∧ SameUtc r ref.result

theorem Backed.of_same (h : Backed m) (hcached : m'.cached = m.cached)
    (hlatest : m'.latest = m.latest) : Backed m' := by
  intro r hr
  rw [hlatest]
  exact h r (hcached ▸ hr)

private theorem sameUtc_dropEmptyLease (r : TrustedTimeResult) :
    SameUtc (Monitor.dropEmptyLease r) r := by
  unfold Monitor.dropEmptyLease
  split
  · exact ⟨rfl, rfl, rfl, fun h => by cases h⟩
  · exact ⟨rfl, rfl, rfl, id⟩

/-- **An honest refresh** shows the estimate of the facts it accepted. -/
theorem honestUtc_queryComposite {e : Env} (h : m.AsksHonest S e) {ref : Refresh}
    (hfacts : ref.facts = (m.readFacts e (m.boot + e.beforeRefresh)).1)
    (hjudged : ref.judged = (m.readFacts e (m.boot + e.beforeRefresh)).2)
    (hresult : ref.result = (m.queryComposite S e (m.boot + e.beforeRefresh)).1) :
    HonestUtc ref.estimate ref.result := by
  have hdefined := (gateDefined_iff h.int64).mpr h.fits
  change ref.result = (query S.cfg m.composite (m.askedFacts S e)
    (if S.rtc then some e.rtc else none) (m.readFacts e (m.boot + e.beforeRefresh)).2).1 at hresult
  cases hp : platformAccepted S.cfg m.composite (m.askedFacts S e)
      (m.readFacts e (m.boot + e.beforeRefresh)).2 with
  | some est =>
    -- the facts of the refresh are those of the grant
    obtain ⟨f, hf, hon, hgranted, -⟩ := platformAccepted_eq_some_iff.mp hp
    have hread : f = ref.facts := by
      rw [hfacts]
      unfold Monitor.askedFacts at hf
      split at hf
      · exact (Option.some.inj hf).symm
      · cases hf
    rw [hf] at hresult hdefined
    obtain ⟨hgrant, hutc⟩ := query_of_platform_exact
      (if S.rtc then some e.rtc else none) hdefined hon hgranted
    have hexact : ref.result = grantOn id S.cfg ref.facts (exact ref.facts ref.judged) := by
      rw [hresult, hgrant, hread, hjudged]
    rw [Refresh.estimate, hexact, granted_grantOn, if_pos rfl]
    exact honestUtc_grantOn (hread ▸ hutc)
  | none =>
    rcases h.sources with hplatform | ⟨hrtc, hclaims⟩
    · rw [hp] at hplatform
      cases hplatform
    · obtain ⟨hquery, hrefused⟩ := query_of_refused hp hrtc
      have hflag : ref.result.utcValid = false := by
        rw [hresult, hquery, ← Bool.not_eq_true, fallback_utcValid_iff]
        exact hclaims
      have hgranted : ref.result.granted = false := by
        rw [hresult]
        exact hrefused
      exact honestUtc_of_silent hflag hgranted

private theorem backed_refresh {e : Env} (h : m.AsksHonest S e) : Backed (m.refresh S e) := by
  intro r hr
  obtain rfl := Option.some.inj hr
  have hsame := sameUtc_dropEmptyLease
    (m.stamp (m.queryComposite S e (m.boot + e.beforeRefresh)).1)
  exact ⟨_, rfl, honestUtc_queryComposite h rfl rfl rfl,
    ⟨hsame.flag, hsame.utc, hsame.uncertainty, hsame.granted⟩⟩

private theorem backed_manageCache (h : Backed m) {e : Env} {now : ℤ}
    (hask : (m.refreshPending = true ∨
      now - m.lastRefreshBootMs ≥ S.cfg.monitorRefreshInterval) → m.AsksHonest S e) :
    Backed (m.manageCache S e now) := by
  unfold Monitor.manageCache
  split
  · rename_i hpending
    have hhonest := hask (.inl hpending)
    exact backed_refresh (m := { m with refreshPending := false })
      ⟨hhonest.int64, hhonest.fits, hhonest.sources⟩
  split
  · rename_i hdue
    exact backed_refresh (hask (.inr hdue))
  split
  · exact h
  · rename_i r hcached
    split
    · -- the revoked entry shows the UTC that was cached
      intro r' hr'
      obtain rfl := Option.some.inj hr'
      obtain ⟨ref, href, hhonest, hsame⟩ := h r hcached
      exact ⟨ref, href, hhonest, hsame.flag, hsame.utc, hsame.uncertainty, fun hg => by cases hg⟩
    · exact h

private theorem backed_beforeReading (h : Backed m) {e : Env}
    (hask : m.cached = none → m.AsksHonest S e) : Backed (m.beforeReading S e) := by
  unfold Monitor.beforeReading
  dsimp only
  split
  · rename_i hnone
    exact (backed_refresh (hask (Option.isNone_iff_eq_none.mp hnone))).of_same rfl rfl
  · exact h.of_same rfl rfl

/-- **Every honest step keeps the cache backed.** -/
theorem backed_step (h : Backed m) {a : Act} (ha : a.Honest S m) :
    Backed ((monitor S).step m a).1 := by
  change Backed (m.step S a).1
  by_cases hcontrol : a.isControl = true
  · obtain ⟨_, _, _, _, _, _, cached, hcached, hstep⟩ := m.step_of_isControl (S := S) hcontrol
    rw [hstep]
    rcases hcached with rfl | rfl
    · exact h.of_same rfl rfl
    · exact fun r hr => by cases hr
  cases a with
  | start | stopLocked | stopJoin | stopDisconnect => exact absurd rfl hcontrol
  | loopPass e =>
    change Backed (m.loopPass S e)
    unfold Monitor.loopPass
    split
    · exact h
    · rename_i hrunning
      have hpass : Backed (m.inPass S e) := by
        unfold Monitor.inPass
        obtain ⟨_, _, _, _, hframe⟩ :=
          Monitor.manageConnection_frame (S := S) (m := { m with boot := m.boot + e.beforeLoop }) e
            (m.boot + e.beforeLoop)
        rw [hframe]
        exact h.of_same rfl rfl
      exact backed_manageCache hpass (ha (by simpa using hrunning))
  | get token e =>
    change Backed (m.get S token e).1
    unfold Monitor.get
    split
    · exact h
    · rename_i hfresh
      exact backed_beforeReading h (ha (by simpa using hfresh))
  | refreshNow => exact h.of_same rfl rfl
  | providerNow e => exact h.of_same rfl rfl
  | linkLost => exact h.of_same rfl rfl
  | tick ms => exact h.of_same rfl rfl
  | subscribe => exact h.of_same rfl rfl
  | release slot => exact h.of_same rfl rfl

private theorem sameUtc_shown (m : Monitor) (r : TrustedTimeResult) : SameUtc (m.shown r) r := by
  unfold Monitor.shown
  split
  · dsimp only
    split
    · exact ⟨rfl, rfl, rfl, fun h => by cases h⟩
    · exact ⟨rfl, rfl, rfl, id⟩
  · exact ⟨rfl, rfl, rfl, id⟩

/-- **The monitor is honest** in every run whose steps ask honest sources: an answer of `get`
shows a UTC only as the estimate of the facts that the latest refresh accepted. -/
theorem honest_get (S : Setup) (boot : ℕ) (past : List Act) (token : ℕ) (e : Env)
    (halong : (monitor S).Along (fun m a => a.Honest S m) (.new boot) (past ++ [.get token e])) :
    HonestUtc
      ((((monitor S).run (.new boot) past).get S token e).1.latest.bind Refresh.estimate)
      (((monitor S).run (.new boot) past).get S token e).2 := by
  rw [Machine.along_append] at halong
  have hbacked : Backed ((monitor S).run (.new boot) past) :=
    (monitor S).run_invariant (I := Backed) (fun m a h ha => backed_step h ha)
      (fun r hr => by cases hr) halong.1
  have hask := halong.2.1
  generalize (monitor S).run (.new boot) past = m at hbacked hask ⊢
  unfold Monitor.get
  split
  · exact honestUtc_of_silent rfl rfl
  · rename_i hfresh
    have hread := backed_beforeReading hbacked (hask (by simpa using hfresh))
    dsimp only
    generalize m.beforeReading S e = n at hread ⊢
    cases hcached : n.cached with
    | none => exact honestUtc_of_silent rfl rfl
    | some r =>
      obtain ⟨ref, href, hhonest, hsame⟩ := hread r hcached
      rw [href, Option.bind_some]
      exact (sameUtc_shown n r).honest (hsame.honest hhonest)

/-! ### The development source -/

/-- The estimate of the sample of the development source, if it is trusted. -/
def fakeEstimate (sample : Option TrustedTimeSample) : Option (ℤ × ℤ) :=
  (sample.filter fun s => s.trustState == .trusted).map fun s => (toMs s.utcNow, s.uncertainty)

/-- **The development source is honest** exactly when it refuses the token or its sample is
trusted and has the uncertainty it shows. -/
theorem fake_honest_iff (leaseMax : ℤ) (s : FakeSource) (token : ℕ)
    (sample : Option TrustedTimeSample) :
    HonestUtc (fakeEstimate sample) (s.get leaseMax token sample).2 ↔
      s.refusesToken token = true ∨
        ∃ x, sample = some x ∧ x.trustState = .trusted ∧ x.uncertainty = 0 := by
  unfold FakeSource.get
  by_cases hrefused : s.refusesToken token = true
  · rw [if_pos hrefused]
    exact iff_of_true (honestUtc_of_silent rfl rfl) (.inl hrefused)
  · rw [if_neg hrefused]
    constructor
    · intro h
      have hest := h.valid rfl
      obtain ⟨x, hx, hvalues⟩ := Option.map_eq_some_iff.mp hest
      obtain ⟨rfl, htrusted⟩ := Option.filter_eq_some_iff.mp hx
      exact .inr ⟨x, rfl, by simpa using htrusted, (Prod.mk.inj hvalues).2⟩
    · rintro (h | ⟨x, rfl, htrusted, huncertainty⟩)
      · exact absurd h hrefused
      · refine ⟨fun _ => ?_, fun _ => ⟨rfl, rfl⟩⟩
        have hfilter : (some x).filter (fun s => s.trustState == .trusted) = some x :=
          Option.filter_eq_some_iff.mpr ⟨rfl, by simpa using htrusted⟩
        rw [fakeEstimate, hfilter, Option.map_some, huncertainty]
        rfl

/-! ### The envelope -/

/-- **The envelope shows a UTC as it is known**: of the composite and of the development source
exactly when their sources are honest, of the monitor in every run in which they are. Of the
composite this is said together with the absence of an overflow in the gate, for the estimate is
the exact one. -/
theorem envelope_utc_honest (cfg : TrustedTimeConfig) (c : Composite)
    (facts : Option TimeFactSnapshot) (rtc : Option TrustedTimeSample) (now : ℤ)
    (hfacts : ∀ f, facts = some f → FactsInt64 f)
    (S : Setup) (boot : ℕ) (past : List Act) (token : ℕ) (e : Env)
    (leaseMax : ℤ) (s : FakeSource) (sample : Option TrustedTimeSample) :
    (GateDefined cfg c facts now ∧
        HonestUtc (acceptedEstimate cfg c facts rtc now) (query cfg c facts rtc now).1 ↔
      QueryFits cfg c facts now ∧ HonestSources cfg c facts rtc now) ∧
    ((monitor S).Along (fun m a => a.Honest S m) (.new boot) (past ++ [.get token e]) →
      HonestUtc
        ((((monitor S).run (.new boot) past).get S token e).1.latest.bind Refresh.estimate)
        (((monitor S).run (.new boot) past).get S token e).2) ∧
    (HonestUtc (fakeEstimate sample) (s.get leaseMax token sample).2 ↔
      s.refusesToken token = true ∨
        ∃ x, sample = some x ∧ x.trustState = .trusted ∧ x.uncertainty = 0) := by
  refine ⟨?_, honest_get S boot past token e, fake_honest_iff leaseMax s token sample⟩
  rw [gateDefined_iff hfacts]
  exact and_congr_right fun hfits => query_honest_iff ((gateDefined_iff hfacts).mpr hfits)

open Bench in
/-- A monitor that is refreshed by a verified snapshot answers honestly 100 ms later. -/
theorem envelope_utc_honest_refreshed :
    HonestUtc
      ((((monitor setup).run (.new 1000000) (refreshedRun 100)).get setup 0 {}).1.latest.bind
        Refresh.estimate)
      (((monitor setup).run (.new 1000000) (refreshedRun 100)).get setup 0 {}).2 := by
  have hint64 : FactsInt64 (mapSnapshot snapshot 0 1000000) :=
    ⟨by decide, by decide, by decide, by decide, by decide, by decide, by decide⟩
  refine (envelope_utc_honest {} {} none none 0 (fun f hf => by cases hf) setup 1000000
    (refreshedRun 100) 0 {} 0 {} none).2.1
    ⟨trivial, fun _ _ => ⟨fun f hf => ?_, fun f hf _ => ?_, .inl ?_⟩, trivial,
      fun _ hnone => ?_, trivial⟩
  · exact Option.some.inj hf ▸ hint64
  · obtain rfl := Option.some.inj hf
    exact (gatePlatform?_isSome_iff hint64).mp (by decide +kernel)
  · decide +kernel
  · exact absurd hnone (by decide +kernel)

/-- A snapshot in holdover. -/
def holdoverFacts : TimeFactSnapshot := { unapprovedFacts with state := .holdover }

/-- A provisioned sample of the hardware clock. -/
def provisionedSample : TrustedTimeSample :=
  { utcNow := 1700000000000000000, trustState := .trusted, source := .hardwareRtc
    uncertainty := 100, reason := .rtcProvisioned }

/-- What the composite answers to a platform in holdover. -/
def holdoverResult : TrustedTimeResult := (query {} {} (some holdoverFacts) none 1000000).1

/-- What it answers to the hardware clock alone. -/
def rtcResult : TrustedTimeResult := (query {} {} none (some provisionedSample) 1000000).1

/-- What it answers to a platform in the year 2286, whose nanoseconds are no number of 64 bits. -/
def farResult : TrustedTimeResult :=
  (query {} {} (some { unapprovedFacts with utcEpochMs := 10 ^ 13 }) none 1000000).1

/-- **An unknown UTC is written as zero**, as valid and without uncertainty, when the platform is
in holdover; a trusted hardware clock shows no UTC; and a UTC that is no time point is shown as
another one. -/
theorem unknown_utc_written_zero :
    (holdoverResult.toEnvelope.utcValid = true ∧ holdoverResult.toEnvelope.utcEpochMs = 0 ∧
      holdoverResult.toEnvelope.uncertaintyMs = 0 ∧
      acceptedEstimate {} {} (some holdoverFacts) none 1000000 = none) ∧
    (rtcResult.granted = true ∧ rtcResult.toEnvelope.utcValid = false) ∧
    farResult.granted = true ∧ farResult.toEnvelope.utcValid = true ∧
      farResult.toEnvelope.utcEpochMs = -8446744073709 := by
  decide +kernel

end TboxSec.Time
