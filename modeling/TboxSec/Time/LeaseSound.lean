import TboxSec.Time.Gate
import Mathlib.Tactic.Linarith

/-!
# What a lease promises

The lease is looked at in exact arithmetic here, as `exactGate` computes it. It is the shortest
of four budgets. Three of them are spent at the rate of the clock: the age grows by one millisecond
in a millisecond, the remaining validity shrinks by one. The fourth is the budget of the
uncertainty, and the uncertainty grows at the rate of the drift bound.

* **At most one millisecond per millisecond** (`uncertaintyEff_le_add`), which is a drift bound of
  a million ppm, the uncertainty stays within its budget for the whole lease.
* **Beyond it** the contract of the facts still counts as complete, and a lease that is as long as
  the budget outlives it: `lease_sound_iff` says which leases are sound, and that there are drift
  bounds for which not all of them are.
-/

namespace TboxSec.Time

variable {cfg : TrustedTimeConfig} {c : Composite} {f : TimeFactSnapshot} {now t : ℤ}

/-- The facts, judged at the boot time `now`, are within the limits of the gate. -/
def WithinLimits (cfg : TrustedTimeConfig) (f : TimeFactSnapshot) (now : ℤ) : Prop :=
  ageEff f now ≤ cfg.maxFreshness ∧ uncertaintyEff f now ≤ cfg.maxUncertainty ∧
    0 ≤ remainEff f now

/-- The facts stay within the limits for the `lease` that begins at the boot time `now`. -/
def SoundLease (cfg : TrustedTimeConfig) (f : TimeFactSnapshot) (now lease : ℤ) : Prop :=
  ∀ t, 0 ≤ t → t ≤ lease → WithinLimits cfg f (now + t)

/-- The shortest of the four budgets. -/
def shortestBudget (cfg : TrustedTimeConfig) (f : TimeFactSnapshot) (now : ℤ) : ℤ :=
  min cfg.leaseMax (min (remainEff f now)
    (min (cfg.maxFreshness - ageEff f now) (cfg.maxUncertainty - uncertaintyEff f now)))

/-! ### The facts at a later time -/

private theorem ageEff_mono (ht : 0 ≤ t) : ageEff f now ≤ ageEff f (now + t) := by
  unfold ageEff elapsedSince
  omega

private theorem ageEff_le_add (ht : 0 ≤ t) : ageEff f (now + t) ≤ ageEff f now + t := by
  unfold ageEff elapsedSince
  omega

private theorem remainEff_sub_le (ht : 0 ≤ t) : remainEff f now - t ≤ remainEff f (now + t) := by
  unfold remainEff elapsedSince
  omega

/-- The uncertainty does not shrink. -/
private theorem uncertaintyEff_mono (hdrift : 0 < f.driftBoundPpm) (ht : 0 ≤ t) :
    uncertaintyEff f now ≤ uncertaintyEff f (now + t) := by
  have hgrowth : f.driftBoundPpm * ageEff f now ≤ f.driftBoundPpm * ageEff f (now + t) :=
    Int.mul_le_mul_of_nonneg_left (ageEff_mono ht) hdrift.le
  have hdiv := Int.tdiv_le_tdiv (c := 1000000) (by decide) hgrowth
  unfold uncertaintyEff
  omega

/-- The truncated quotient of a sum. -/
private theorem tdiv_add_le (x : ℤ) (ht : 0 ≤ t) :
    (x + 1000000 * t).tdiv 1000000 ≤ x.tdiv 1000000 + t := by
  have hsign : Int.sign 1000000 = 1 := rfl
  rw [Int.tdiv_eq_ediv, Int.tdiv_eq_ediv, hsign]
  split_ifs with hsum hx
  · omega
  · omega
  · omega
  · omega

/-- **A drift of at most a million ppm** grows the uncertainty no faster than the clock runs. -/
theorem uncertaintyEff_le_add (hdrift : 0 < f.driftBoundPpm) (hslow : f.driftBoundPpm ≤ 1000000)
    (ht : 0 ≤ t) : uncertaintyEff f (now + t) ≤ uncertaintyEff f now + t := by
  have hage : ageEff f (now + t) - ageEff f now ≤ t := by
    have h : ageEff f (now + t) ≤ ageEff f now + t := ageEff_le_add ht
    omega
  have hage0 : 0 ≤ ageEff f (now + t) - ageEff f now := by
    have h : ageEff f now ≤ ageEff f (now + t) := ageEff_mono ht
    omega
  have hgrowth : f.driftBoundPpm * ageEff f (now + t) ≤
      f.driftBoundPpm * ageEff f now + 1000000 * t := by
    nlinarith
  have hdiv := Int.tdiv_le_tdiv (c := 1000000) (by decide) hgrowth
  have hsum := tdiv_add_le (f.driftBoundPpm * ageEff f now) ht
  unfold uncertaintyEff
  omega

/-! ### The lease -/

/-- A lease that is granted is the shortest budget, and the facts are within the limits. -/
private theorem granted_lease (hgranted : (exactGate cfg c f now).granted = true) :
    (exactGate cfg c f now).remainingValidityMs = shortestBudget cfg f now ∧
      0 < f.driftBoundPpm ∧ 0 < shortestBudget cfg f now := by
  obtain ⟨hT, -⟩ := granted_gateOn_iff.mp hgranted
  have hpos : 0 < leaseOn id cfg (exact f now) :=
    leaseOn_pos_iff.mpr ⟨hT.leaseMax, hT.remaining, hT.freshnessLeft, hT.uncertaintyLeft⟩
  have hlease : leaseOn id cfg (exact f now) = shortestBudget cfg f now := leaseOn_eq hpos
  have hdrift : 0 < f.driftBoundPpm := by
    have hcontract := hT.contract
    simp only [contractComplete, Bool.and_eq_true, decide_eq_true_eq] at hcontract
    tauto
  refine ⟨?_, hdrift, hlease ▸ hpos⟩
  rw [exactGate, gateOn_of_granted hgranted]
  exact hlease

/-- A lease is as sound as the uncertainty at its end. -/
private theorem soundLease_iff (hdrift : 0 < f.driftBoundPpm)
    (hbudget : 0 < shortestBudget cfg f now) :
    SoundLease cfg f now (shortestBudget cfg f now) ↔
      uncertaintyEff f (now + shortestBudget cfg f now) ≤ cfg.maxUncertainty := by
  constructor
  · intro h
    exact (h _ hbudget.le le_rfl).2.1
  · intro h t ht htl
    have hle : shortestBudget cfg f now ≤ remainEff f now ∧
        shortestBudget cfg f now ≤ cfg.maxFreshness - ageEff f now := by
      unfold shortestBudget
      omega
    refine ⟨?_, ?_, ?_⟩
    · have hage : ageEff f (now + t) ≤ ageEff f now + t := ageEff_le_add ht
      omega
    · -- the uncertainty is greatest at the end
      have hend : now + shortestBudget cfg f now = now + t + (shortestBudget cfg f now - t) := by
        omega
      have hmono : uncertaintyEff f (now + t) ≤
          uncertaintyEff f (now + t + (shortestBudget cfg f now - t)) :=
        uncertaintyEff_mono hdrift (by omega)
      rw [← hend] at hmono
      omega
    · have hremain : remainEff f now - t ≤ remainEff f (now + t) := remainEff_sub_le ht
      omega

/-- Facts with the drift bound `ppm` and nothing else that limits a lease. -/
def fastFacts (ppm : ℤ) : TimeFactSnapshot where
  contractVersion := 1
  capabilities := "snapshot,v1"
  timeDaemonEpoch := 1
  state := .synced
  sourceId := "ntp"
  sourceKind := .ntpNetwork
  utcValid := true
  utcEpochMs := 1000
  uncertaintyValid := true
  remainingValidityMs := 2000000
  driftBoundPpm := ppm
  authStatus := .verified
  evidenceRef := "e"
  policyVersion := "1"
  transportOk := true
  validated := true

/-- A configuration that grants long leases. -/
def longLeases : TrustedTimeConfig where
  maxFreshness := 2000000
  maxUncertainty := 1000000
  leaseMax := 1000000

theorem contractComplete_fastFacts {ppm : ℤ} (hppm : 0 < ppm) :
    contractComplete (fastFacts ppm) = true := by
  have hcapabilities : decide ("snapshot".toList <:+: "snapshot,v1".toList) = true := by
    decide
  have hdrift : decide (0 < ppm) = true := decide_eq_true hppm
  change (true && true && decide ("snapshot".toList <:+: "snapshot,v1".toList) && true && true &&
    true && true && decide (0 < ppm) && true && true && true) = true
  rw [hcapabilities, hdrift]
  rfl

/-- At the age zero the drift has not yet grown anything. -/
private theorem exact_fastFacts (ppm : ℤ) :
    exact (fastFacts ppm) 0 = { age := 0, uncertainty := 0, remain := 2000000, utc := 1000 } := by
  have hunc : uncertaintyEff (fastFacts ppm) 0 = 0 := by
    change 0 + (ppm * 0).tdiv 1000000 = 0
    rw [Int.mul_zero]
    rfl
  change Effective.mk 0 (uncertaintyEff (fastFacts ppm) 0) 2000000 1000 = _
  rw [hunc]

private theorem granted_fastFacts {ppm : ℤ} (hppm : 0 < ppm) :
    (exactGate longLeases {} (fastFacts ppm) 0).granted = true := by
  refine granted_gateOn_iff.mpr ⟨?_, fun hne => absurd rfl hne⟩
  change Trustworthy id longLeases {} (fastFacts ppm) (exact (fastFacts ppm) 0)
  rw [exact_fastFacts]
  have hevidence : ("e" : String) ≠ "" := by decide
  exact ⟨rfl, rfl, rfl, contractComplete_fastFacts hppm, rfl, List.mem_singleton.mpr rfl,
    fun _ => hevidence, rfl, rfl, by decide, by decide, fun _ hgood => (nomatch hgood), by decide,
    by decide, by decide, by decide⟩

/-- **Every drift bound above a million ppm** is granted a lease that it outgrows. -/
theorem fastFacts_unsound {ppm : ℤ} (hppm : 1000000 < ppm) :
    ¬SoundLease longLeases (fastFacts ppm) 0
      (exactGate longLeases {} (fastFacts ppm) 0).remainingValidityMs := by
  have hgranted := granted_fastFacts (show 0 < ppm by omega)
  obtain ⟨hlease, hdrift, hpos⟩ := granted_lease hgranted
  have hbudget : shortestBudget longLeases (fastFacts ppm) 0 = 1000000 := by
    rw [shortestBudget, ← exact_age, ← exact_uncertainty, ← exact_remain, exact_fastFacts]
    rfl
  rw [hlease, soundLease_iff hdrift hpos, hbudget, not_le]
  have hend : ageEff (fastFacts ppm) (0 + 1000000) = 1000000 := rfl
  have hdiv : (ppm * 1000000).tdiv 1000000 = ppm := Int.mul_tdiv_cancel ppm (by decide)
  change (1000000 : ℤ) < 0 + (ppm * ageEff (fastFacts ppm) (0 + 1000000)).tdiv 1000000
  rw [hend, hdiv]
  omega

/-- **A lease is sound** exactly when the drift bound is at most a million ppm or the budgets are
so short that even the faster drift stays within the limit until the shortest of them is spent;
and the drift bounds of which every lease is sound are those of at most a million ppm. -/
theorem lease_sound_iff (cfg : TrustedTimeConfig) (c : Composite) (f : TimeFactSnapshot)
    (now ppm : ℤ) :
    ((exactGate cfg c f now).granted = true →
      (SoundLease cfg f now (exactGate cfg c f now).remainingValidityMs ↔
        f.driftBoundPpm ≤ 1000000 ∨
          uncertaintyEff f (now + shortestBudget cfg f now) ≤ cfg.maxUncertainty)) ∧
    ((∀ (cfg : TrustedTimeConfig) (c : Composite) (f : TimeFactSnapshot) (now : ℤ),
        f.driftBoundPpm = ppm → (exactGate cfg c f now).granted = true →
          SoundLease cfg f now (exactGate cfg c f now).remainingValidityMs) ↔
      ppm ≤ 1000000) := by
  have hiff : ∀ (cfg : TrustedTimeConfig) (c : Composite) (f : TimeFactSnapshot) (now : ℤ),
      (exactGate cfg c f now).granted = true →
        (SoundLease cfg f now (exactGate cfg c f now).remainingValidityMs ↔
          f.driftBoundPpm ≤ 1000000 ∨
            uncertaintyEff f (now + shortestBudget cfg f now) ≤ cfg.maxUncertainty) := by
    intro cfg c f now hgranted
    obtain ⟨hlease, hdrift, hpos⟩ := granted_lease hgranted
    rw [hlease, soundLease_iff hdrift hpos]
    constructor
    · exact fun h => .inr h
    · rintro (hslow | hend)
      · -- the budget of the uncertainty is one of the four
        have hgrowth : uncertaintyEff f (now + shortestBudget cfg f now) ≤
            uncertaintyEff f now + shortestBudget cfg f now :=
          uncertaintyEff_le_add hdrift hslow hpos.le
        have hle : shortestBudget cfg f now ≤ cfg.maxUncertainty - uncertaintyEff f now := by
          unfold shortestBudget
          omega
        omega
      · exact hend
  refine ⟨hiff cfg c f now, fun h => ?_, fun hslow cfg c f now hf hgranted => ?_⟩
  · by_contra hfast
    have hppm : 1000000 < ppm := not_le.mp hfast
    exact fastFacts_unsound hppm
      (h longLeases {} (fastFacts ppm) 0 rfl (granted_fastFacts (by omega)))
  · exact (hiff cfg c f now hgranted).mpr (.inl (hf ▸ hslow))

theorem lease_sound_iff_slow :
    SoundLease longLeases (fastFacts 100) 0
      (exactGate longLeases {} (fastFacts 100) 0).remainingValidityMs :=
  ((lease_sound_iff longLeases {} (fastFacts 100) 0 100).1 (granted_fastFacts (by decide))).mpr
    (.inl (by decide))

/-- Facts whose uncertainty is near the limit and grows by two milliseconds in one. -/
def nearLimit : TimeFactSnapshot :=
  { fastFacts 2000000 with uncertaintyMs := 1500, remainingValidityMs := 299000 }

/-- **With the default configuration** such facts are granted a lease, and at its end their
uncertainty is above the limit. -/
theorem lease_outlived :
    (exactGate {} {} nearLimit 0).granted = true ∧
      ¬SoundLease {} nearLimit 0 (exactGate {} {} nearLimit 0).remainingValidityMs := by
  have hgranted : (exactGate {} {} nearLimit 0).granted = true := by decide +kernel
  refine ⟨hgranted, fun hsound => ?_⟩
  have hlease : (exactGate {} {} nearLimit 0).remainingValidityMs = 500 := by decide +kernel
  rw [hlease] at hsound
  have hend := (hsound 500 (by decide) (by decide)).2.1
  exact absurd hend (by decide +kernel)

end TboxSec.Time
