import TboxSec.Time.LeaseSound

/-!
# The arithmetic of the gate in 64 bits

The gate computes its four effective values in signed numbers of 64 bits, from facts that another
process supplies, and compares them with the limits afterwards. The checks before it bound the
age, the uncertainty and the remaining validity from below and the drift bound to positive values;
nothing is bounded from above.

* **The checked reading** of the gate (`gatePlatform?`) has no answer when one of its operations
  overflows. `FitsInt64` says in terms of the facts when the effective values have no overflow,
  `NoOverflow` when the whole gate has none.
* **Every machine agrees** with the checked reading where it has an answer
  (`gateOn_of_checked`), so without overflow `gatePlatform` is the exact gate.
* **With an overflow**, `overflow_trusted` shows a grant to facts whose uncertainty is far above
  the limit.
-/

namespace TboxSec.Time

variable {cfg : TrustedTimeConfig} {c : Composite} {f : TimeFactSnapshot} {now : ℤ}
  {fit : ℤ → ℤ} {v : Effective} {r : TrustedTimeResult}

/-! ### The checked reading -/

/-- The effective values, if none of the operations overflows. -/
def effective? (f : TimeFactSnapshot) (now : ℤ) : Option Effective := effective int64? f now

/-- The answer of the platform gate, if none of its operations overflows. -/
def gatePlatform? (cfg : TrustedTimeConfig) (c : Composite) (f : TimeFactSnapshot) (now : ℤ) :
    Option TrustedTimeResult :=
  platformGate cfg int64? c f now

/-- An arithmetic that is exact as long as nothing overflows. -/
def KeepsInt64 (fit : ℤ → ℤ) : Prop := ∀ n, IsInt64 n → fit n = n

theorem keepsInt64_wrapSigned : KeepsInt64 wrapSigned := fun _ => wrapSigned_of_isInt64

theorem keepsInt64_id : KeepsInt64 id := fun _ _ => rfl

/-- What a checked operation continues with is what the machine continues with. -/
theorem KeepsInt64.bind {α : Type} (hfit : KeepsInt64 fit) {n : ℤ} {k : ℤ → Option α} {a : α}
    (h : (int64? n).bind k = some a) : k (fit n) = some a := by
  obtain ⟨r, hr, ha⟩ := Option.bind_eq_some_iff.mp h
  obtain ⟨hn, rfl⟩ := int64?_eq_some_iff.mp hr
  rwa [hfit n hn]

/-- **Every machine computes the checked values** where there are any. -/
theorem effectiveOn_of_checked (hfit : KeepsInt64 fit) (h : effective? f now = some v) :
    effectiveOn fit f now = v := by
  simp only [effective?, effective, Option.bind_eq_bind, Option.pure_def] at h
  have hvalues := hfit.bind (hfit.bind (hfit.bind (hfit.bind (hfit.bind (hfit.bind (hfit.bind
    (hfit.bind h)))))))
  exact Option.some.inj hvalues

/-- Every machine computes the checked lease. -/
private theorem leaseOn_of_checked (hfit : KeepsInt64 fit) {lease : ℤ}
    (h : platformLease cfg int64? v = some lease) : leaseOn fit cfg v = lease := by
  simp only [platformLease, Option.bind_eq_bind, Option.pure_def] at h
  exact Option.some.inj (hfit.bind (hfit.bind h))

/-- **Every machine gives the checked answer** where there is one. -/
theorem gateOn_of_checked (hfit : KeepsInt64 fit) (h : gatePlatform? cfg c f now = some r) :
    gateOn cfg fit c f now = r := by
  cases hearly : earlyRefusal cfg f with
  | some early =>
    rw [gatePlatform?, platformGate, hearly] at h
    rw [gateOn, platformGate, hearly]
    exact Option.some.inj h
  | none =>
    rw [gatePlatform?, platformGate, hearly] at h
    obtain ⟨v, hv, hjudged⟩ := Option.bind_eq_some_iff.mp h
    rw [gateOn_of_passes hearly, effectiveOn_of_checked hfit hv]
    cases hlimits : firstReject (limitChecks cfg c v) with
    | some refusal =>
      rw [hlimits] at hjudged
      exact Option.some.inj hjudged
    | none =>
      rw [hlimits] at hjudged
      obtain ⟨lease, hlease, hgranted⟩ := Option.bind_eq_some_iff.mp hjudged
      dsimp only
      rw [leaseOn_of_checked hfit hlease]
      by_cases hspent : lease ≤ 0
      · rw [if_pos hspent] at hgranted ⊢
        exact Option.some.inj hgranted
      · rw [if_neg hspent] at hgranted ⊢
        rw [grantOn, leaseOn_of_checked hfit hlease]
        exact Option.some.inj (hfit.bind hgranted)

/-! ### When nothing overflows -/

/-- Every field of the facts is a number of 64 bits. -/
structure FactsInt64 (f : TimeFactSnapshot) : Prop where
  utc : IsInt64 f.utcEpochMs
  freshnessAge : IsInt64 f.freshnessAgeMs
  uncertainty : IsInt64 f.uncertaintyMs
  remainingValidity : IsInt64 f.remainingValidityMs
  driftBound : IsInt64 f.driftBoundPpm
  rtt : IsInt64 f.rttMs
  receivedBoot : IsInt64 f.receivedBootMs

/-- The gap of the clocks, the age, the product with the drift, the uncertainty, the remaining
validity and the time of the facts are numbers of 64 bits. -/
structure FitsInt64 (f : TimeFactSnapshot) (now : ℤ) : Prop where
  gap : IsInt64 (now - f.receivedBootMs)
  age : f.freshnessAgeMs + f.rttMs + max 0 (now - f.receivedBootMs) < 2 ^ 63
  growth : IsInt64 (f.driftBoundPpm *
    (f.freshnessAgeMs + f.rttMs + max 0 (now - f.receivedBootMs)))
  uncertainty : f.uncertaintyMs + (f.driftBoundPpm *
    (f.freshnessAgeMs + f.rttMs + max 0 (now - f.receivedBootMs))).tdiv 1000000 < 2 ^ 63
  remainTop : f.remainingValidityMs - f.rttMs < 2 ^ 63
  remain : -2 ^ 63 ≤ f.remainingValidityMs - f.rttMs - max 0 (now - f.receivedBootMs)
  utc : IsInt64 (f.utcEpochMs + (f.freshnessAgeMs + f.rttMs + max 0 (now - f.receivedBootMs)))

/-- What the completeness of the contract says of the numbers. -/
private theorem contractComplete_bounds (h : contractComplete f = true) :
    0 < f.driftBoundPpm ∧ 0 ≤ f.remainingValidityMs ∧ 0 ≤ f.freshnessAgeMs ∧
      0 ≤ f.uncertaintyMs := by
  simp only [contractComplete, Bool.and_eq_true, decide_eq_true_eq] at h
  tauto

/-- A truncated quotient is no further from zero. -/
private theorem neg_le_tdiv {x : ℤ} (h : -2 ^ 63 ≤ x) : -2 ^ 63 ≤ x.tdiv 1000000 := by
  have hsign : Int.sign 1000000 = 1 := rfl
  rw [Int.tdiv_eq_ediv, hsign]
  split_ifs with hx
  · omega
  · omega

/-- **No operation overflows** exactly when the facts fit. -/
theorem effective?_isSome_iff (hf : FactsInt64 f) (hp : PassesChecks cfg f) :
    (effective? f now).isSome = true ↔ FitsInt64 f now := by
  obtain ⟨-, hremaining, hfreshness, huncertainty⟩ := contractComplete_bounds hp.contract
  obtain ⟨hrttLow, hrttHigh⟩ := hf.rtt
  have helapsed : 0 ≤ max 0 (now - f.receivedBootMs) := le_max_left _ _
  simp only [effective?, effective, Option.bind_eq_bind, Option.pure_def, isSome_int64?_bind,
    Option.isSome_some, and_true]
  constructor
  · rintro ⟨hgap, -, hage, hgrowth, hu, hremainTop, hremain, hutc⟩
    exact ⟨hgap, hage.2, hgrowth, hu.2, hremainTop.2, hremain.1, hutc⟩
  · rintro ⟨hgap, hage, hgrowth, hu, hremainTop, hremain, hutc⟩
    have htdiv := neg_le_tdiv hgrowth.1
    refine ⟨hgap, ⟨?_, ?_⟩, ⟨?_, hage⟩, hgrowth, ⟨?_, hu⟩, ⟨?_, hremainTop⟩, ⟨hremain, ?_⟩,
      hutc⟩
    all_goals omega

/-- **A machine that does not overflow** computes the exact values. -/
theorem wrapped_of_isSome (h : (effective? f now).isSome = true) :
    wrapped f now = exact f now := by
  obtain ⟨v, hv⟩ := Option.isSome_iff_exists.mp h
  rw [wrapped, exact, effectiveOn_of_checked keepsInt64_wrapSigned hv,
    effectiveOn_of_checked keepsInt64_id hv]

/-- No operation of the gate overflows at the boot time `now`. The operations are those that the
gate comes to: the effective values once the checks before them are passed, the budgets within the
limits, and the time point under a positive lease. -/
def NoOverflow (cfg : TrustedTimeConfig) (c : Composite) (f : TimeFactSnapshot) (now : ℤ) : Prop :=
  PassesChecks cfg f → FitsInt64 f now ∧
    (firstReject (limitChecks cfg c (exact f now)) = none →
      IsInt64 (cfg.maxFreshness - ageEff f now) ∧
      IsInt64 (cfg.maxUncertainty - uncertaintyEff f now) ∧
      (0 < leaseOn id cfg (exact f now) → IsInt64 (utcEff f now * ticksPerMs)))

/-- The checked gate after the checks before the arithmetic. -/
private theorem gatePlatform?_of_passes (h : earlyRefusal cfg f = none) :
    gatePlatform? cfg c f now = (effective? f now).bind fun v =>
      match firstReject (limitChecks cfg c v) with
      | some refusal =>
        some (({ carriedFacts f with contractComplete := true } : TrustedTimeResult).refuse refusal)
      | none => (platformLease cfg int64? v).bind fun lease =>
        if lease ≤ 0 then
          some (({ carriedFacts f with contractComplete := true } : TrustedTimeResult).refuse
            (.untrusted, .platformValidityExpired))
        else (int64? (v.utc * ticksPerMs)).bind fun ticks =>
          some (platformGrant f v lease ticks) := by
  rw [gatePlatform?, platformGate, h]
  rfl

/-- The checked lease is there if both differences are in range, and it is the exact one. -/
private theorem platformLease_checked (cfg : TrustedTimeConfig) (v : Effective) :
    platformLease cfg int64? v =
      if IsInt64 (cfg.maxFreshness - v.age) ∧ IsInt64 (cfg.maxUncertainty - v.uncertainty) then
        some (leaseOn id cfg v)
      else none := by
  simp only [platformLease, int64?]
  split_ifs <;> first | rfl | tauto

/-- **The gate has a checked answer** exactly if none of its operations overflows. -/
theorem gatePlatform?_isSome_iff (hf : FactsInt64 f) :
    (gatePlatform? cfg c f now).isSome = true ↔ NoOverflow cfg c f now := by
  cases hearly : earlyRefusal cfg f with
  | some early =>
    have hno : ¬PassesChecks cfg f := by
      rw [← earlyRefusal_eq_none_iff, hearly]
      simp
    rw [gatePlatform?, platformGate, hearly]
    exact iff_of_true rfl fun hpass => absurd hpass hno
  | none =>
    have hpass : PassesChecks cfg f := earlyRefusal_eq_none_iff.mp hearly
    have hvalues : (effective? f now).isSome = true ↔ FitsInt64 f now :=
      effective?_isSome_iff hf hpass
    rw [gatePlatform?_of_passes hearly, NoOverflow, ← hvalues]
    cases hv : effective? f now with
    | none => simp [hpass]
    | some v =>
      obtain rfl : exact f now = v := effectiveOn_of_checked keepsInt64_id hv
      rw [Option.bind_some]
      cases hlimits : firstReject (limitChecks cfg c (exact f now)) with
      | some refusal => simp
      | none =>
        dsimp only
        rw [platformLease_checked]
        by_cases hbudgets : IsInt64 (cfg.maxFreshness - ageEff f now) ∧
            IsInt64 (cfg.maxUncertainty - uncertaintyEff f now)
        · rw [exact_age, exact_uncertainty, if_pos hbudgets, Option.bind_some]
          by_cases hspent : leaseOn id cfg (exact f now) ≤ 0
          · simp [hpass, hspent, hbudgets, not_lt.mpr hspent]
          · rw [if_neg hspent, isSome_int64?_bind]
            simp [hpass, hbudgets, not_le.mp hspent]
        · rw [exact_age, exact_uncertainty, if_neg hbudgets]
          refine iff_of_false (by simp) fun h => hbudgets ?_
          obtain ⟨-, hin⟩ := h hpass
          exact ⟨(hin rfl).1, (hin rfl).2.1⟩

/-! ### Overflow and the limits -/

/-- **The arithmetic of the gate is sound exactly when the facts fit.** Then none of its
operations overflows, and facts that the machine's gate trusts are within the limits. -/
theorem effective_values_iff (cfg : TrustedTimeConfig) (c : Composite) (f : TimeFactSnapshot)
    (now : ℤ) (hf : FactsInt64 f) (hp : PassesChecks cfg f) :
    (effective? f now).isSome = true ∧
        ((gatePlatform cfg c f now).granted = true →
          ageEff f now ≤ cfg.maxFreshness ∧ uncertaintyEff f now ≤ cfg.maxUncertainty) ↔
      FitsInt64 f now := by
  rw [← effective?_isSome_iff hf hp]
  constructor
  · exact fun h => h.1
  · intro h
    refine ⟨h, fun hgranted => ?_⟩
    obtain ⟨hT, -⟩ := granted_gateOn_iff.mp hgranted
    have hwrapped : effectiveOn wrapSigned f now = exact f now := wrapped_of_isSome h
    rw [hwrapped] at hT
    exact ⟨hT.fresh, hT.certain⟩

/-- Ordinary facts fit. -/
theorem effective_values_iff_fast :
    (effective? (fastFacts 100) 1000).isSome = true ∧
      ((gatePlatform longLeases {} (fastFacts 100) 1000).granted = true →
        ageEff (fastFacts 100) 1000 ≤ longLeases.maxFreshness ∧
          uncertaintyEff (fastFacts 100) 1000 ≤ longLeases.maxUncertainty) := by
  have hauth : authBound longLeases (fastFacts 100) = true := by decide +kernel
  refine (effective_values_iff longLeases {} (fastFacts 100) 1000
    ⟨by decide, by decide, by decide, by decide, by decide, by decide, by decide⟩
    ⟨rfl, rfl, rfl, contractComplete_fastFacts (by decide), hauth, rfl, rfl⟩).mpr
    ⟨by decide, by decide, by decide, by decide, by decide, by decide, by decide⟩

/-- Facts whose drift wraps around to nothing at the age of four milliseconds. -/
def wrappingFacts : TimeFactSnapshot :=
  { fastFacts (2 ^ 62) with freshnessAgeMs := 4, remainingValidityMs := 299000 }

/-- **An overflow is trusted.** With the default configuration a machine that wraps around trusts
facts that are uncertain by centuries. -/
theorem overflow_trusted :
    FactsInt64 wrappingFacts ∧ PassesChecks {} wrappingFacts ∧
      effective? wrappingFacts 0 = none ∧
      (gatePlatform {} {} wrappingFacts 0).granted = true ∧
      (gatePlatform {} {} wrappingFacts 0).sample.uncertainty = 0 ∧
      uncertaintyEff wrappingFacts 0 = 18446744073709 := by
  refine ⟨⟨by decide, by decide, by decide, by decide, by decide, by decide, by decide⟩,
    ⟨rfl, rfl, rfl, ?_, ?_, rfl, rfl⟩, ?_, ?_, ?_, ?_⟩
  all_goals decide +kernel

end TboxSec.Time
