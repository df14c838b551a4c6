import TboxSec.Lib.Machine
import TboxSec.Sec.State

/-!
# Seed-key challenges

`get_seed` and `verify_key` with the seed state, the failure counter and the lockout timer they
share. AES-128 is a parameter. A reply says more than the error code: `compared` holds the
outcome of the comparison of the presented key with the expected one, which the service logs,
and is `none` when no comparison took place.

`getSeed_cases` and `verifyKey_cases` list the ways a call can end, each with its condition and
its whole effect. A call either answers before the comparison and leaves seed, counter and
timer alone, or compares and consumes the seed.

* `SeedCall` is a call with its clock, and `run` what a service makes of it.
* `Comparable` is the state in which a key is compared at all.
* The lemmas at the end say which fields of the service the small updates leave alone.
-/

namespace TboxSec.Sec

open Canonical

/-- Seconds of the steady clock, which counts nanoseconds. -/
def seconds (n : ℕ) : ℕ := n * 1000000000

/-- `MAX_FAILED_ATTEMPTS`. -/
def maxFailedAttempts : ℕ := 3

/-- `LOCKOUT_DURATION_SEC`. -/
def lockoutDurationSec : ℕ := 10

/-- A `requestSeed` level is odd. -/
def requestsSeed (level : UInt8) : Bool := level.toNat % 2 == 1

/-- A `sendKey` level is even and not zero. -/
def sendsKey (level : UInt8) : Bool := level.toNat % 2 == 0 && level != 0

namespace SecService

variable (s : SecService)

/-- `is_seed_valid`: the elapsed time is cut to whole seconds. -/
def isSeedValid (now : ℕ) : Bool :=
  s.currentSeed.generated && !s.currentSeed.consumed &&
    decide ((now - s.currentSeed.generatedAt) / seconds 1 < 30)

/-- `invalidate_seed`: the bytes are cleared, the length stays. -/
def invalidateSeed : SecService :=
  { s with
    currentSeed.consumed := true
    currentSeed.seed := List.replicate s.currentSeed.seed.length 0 }

/-- `is_in_lockout`. The flag outlives the lockout. -/
def isInLockout (now : ℕ) : Bool := s.inLockout && decide (now < s.lockoutUntil)

/-- `increment_failed_attempts`: the last attempt starts a lockout and resets the counter. -/
def incrementFailedAttempts (now : ℕ) : SecService :=
  if s.failedAttempts + 1 ≥ maxFailedAttempts then
    { s with
      inLockout := true, lockoutUntil := now + seconds lockoutDurationSec, failedAttempts := 0 }
  else { s with failedAttempts := s.failedAttempts + 1 }

/-- `reset_failed_attempts`. -/
def resetFailedAttempts : SecService := { s with failedAttempts := 0, inLockout := false }

/-- `decodeHexSecret` on the configured shared secret: 32 hex digits. -/
def decodedSecret : Option Bytes :=
  if s.sharedSecret.utf8ByteSize = 32 then hexToBytes s.sharedSecret else none

end SecService

/-- One AES-128 block without padding, key first. -/
abbrev BlockCipher := Bytes → Bytes → Bytes

variable (aes : BlockCipher)

/-- `compute_expected_key`. -/
def computeExpectedKey (s : SecService) (evp : Bool) (seed : Bytes) : Except ErrorCode Bytes :=
  if seed.length ≠ seedKeySize then .error .invalidParameter
  else match s.decodedSecret with
    | none => .error .keyVerificationFailed
    | some secret => if evp then .ok (aes secret seed) else .error .keyVerificationFailed

/-! ### The two calls -/

/-- The answer to a call. -/
structure SeedReply where
  code : ErrorCode
  /-- The issued seed. -/
  seed : Option Bytes := none
  /-- Whether the presented key was the expected one, if it was compared at all. -/
  compared : Option Bool := none
  deriving DecidableEq

/-- `get_seed`. -/
def getSeed (level : UInt8) (ω : Oracle) (w : World) : World × SeedReply :=
  if !w.svc.initialized then (w, { code := .notInitialized })
  else if w.svc.shuttingDown then (w, { code := .notInitialized })
  else if !requestsSeed level then (w, { code := .invalidParameter })
  else if w.svc.isInLockout ω.clock.first then (w, { code := .udsSecurityDenied })
  else match ω.random with
    | none =>
      (w.handleError ω .seedGenerationFailed "Seed generation failed",
        { code := .seedGenerationFailed })
    | some seed =>
      ({ w with
          svc.currentSeed :=
            { seed := seed.val, securityLevel := level, generated := true, consumed := false
              generatedAt := ω.clock.third } },
        { code := .success, seed := some seed.val })

/-- `verify_key`. The comparison in constant time is equality. -/
def verifyKey (level : UInt8) (key : Bytes) (ω : Oracle) (w : World) : World × SeedReply :=
  if !w.svc.initialized then (w, { code := .notInitialized })
  else if w.svc.shuttingDown then (w, { code := .notInitialized })
  else if !sendsKey level then (w, { code := .invalidParameter })
  else if w.svc.isInLockout ω.clock.first then (w, { code := .udsSecurityDenied })
  else if !w.svc.isSeedValid ω.clock.second then (w, { code := .keyVerificationFailed })
  else if level.toNat ≠ w.svc.currentSeed.securityLevel.toNat + 1 then
    (w, { code := .invalidParameter })
  else match computeExpectedKey aes w.svc ω.evp w.svc.currentSeed.seed with
    | .error e =>
      (w.handleError ω e "Key computation failed", { code := .keyVerificationFailed })
    | .ok expected =>
      if key = expected then
        ({ w with svc := w.svc.invalidateSeed.resetFailedAttempts },
          { code := .success, compared := some true })
      else
        ({ w with svc := (w.svc.incrementFailedAttempts ω.clock.third).invalidateSeed },
          { code := .keyVerificationFailed, compared := some false })

/-- A call of the security-access part. -/
inductive SeedCall where
  | getSeed (level : UInt8) (ω : Oracle)
  | verifyKey (level : UInt8) (key : Bytes) (ω : Oracle)

namespace SeedCall

/-- The clock readings of a call. -/
def clock : SeedCall → Readings
  | .getSeed _ ω => ω.clock
  | .verifyKey _ _ ω => ω.clock

/-- The level has the parity that the call needs. -/
def rightParity : SeedCall → Bool
  | .getSeed level _ => requestsSeed level
  | .verifyKey level _ _ => sendsKey level

/-- The call on a service. -/
def run (c : SeedCall) (w : World) : World × SeedReply :=
  match c with
  | .getSeed level ω => Sec.getSeed level ω w.fresh
  | .verifyKey level key ω => Sec.verifyKey aes level key ω w.fresh

end SeedCall

/-! ### How a call can end -/

/-- The service answers: it is initialised and not shutting down. -/
def SecService.Serving (s : SecService) : Prop :=
  s.initialized = true ∧ s.shuttingDown = false

/-- A service that has just been initialised. -/
structure SecService.JustInitialized (s : SecService) : Prop where
  serving : s.Serving
  seed : s.currentSeed.generated = false
  failedAttempts : s.failedAttempts = 0
  inLockout : s.inLockout = false

variable {aes} {w : World} {ω : Oracle} {level : UInt8}

@[simp]
theorem World.svc_fresh : w.fresh.svc = w.svc := rfl

@[simp]
theorem World.persisted_fresh : w.fresh.persisted = w.persisted := rfl

/-- What a served `get_seed` with a level of the right parity does. -/
theorem getSeed_cases (ω : Oracle) (hw : w.svc.Serving) (hl : requestsSeed level = true) :
    (w.svc.isInLockout ω.clock.first = true ∧
      getSeed level ω w = (w, { code := .udsSecurityDenied })) ∨
    (w.svc.isInLockout ω.clock.first = false ∧ ω.random = none ∧
      getSeed level ω w = (w.handleError ω .seedGenerationFailed "Seed generation failed",
        { code := .seedGenerationFailed })) ∨
    (w.svc.isInLockout ω.clock.first = false ∧ ∃ seed : Seed, ω.random = some seed ∧
      getSeed level ω w =
        ({ w with
            svc.currentSeed :=
              { seed := seed.val, securityLevel := level, generated := true, consumed := false
                generatedAt := ω.clock.third } },
          { code := .success, seed := some seed.val })) := by
  unfold getSeed
  rw [hw.1, hw.2, hl]
  cases hlock : w.svc.isInLockout ω.clock.first with
  | true => exact .inl ⟨rfl, rfl⟩
  | false =>
    cases hr : ω.random with
    | none => exact .inr (.inl ⟨rfl, rfl, rfl⟩)
    | some seed => exact .inr (.inr ⟨rfl, seed, rfl, rfl⟩)

/-- What stands between a served `verify_key` of the right parity and the comparison. -/
structure Comparable (s : SecService) (level : UInt8) (ω : Oracle) : Prop where
  free : s.isInLockout ω.clock.first = false
  valid : s.isSeedValid ω.clock.second = true
  level : level.toNat = s.currentSeed.securityLevel.toNat + 1

/-- What a served `verify_key` with a level of the right parity does. -/
theorem verifyKey_cases (aes : BlockCipher) (key : Bytes) (ω : Oracle) (hw : w.svc.Serving)
    (hl : sendsKey level = true) :
    (w.svc.isInLockout ω.clock.first = true ∧
      verifyKey aes level key ω w = (w, { code := .udsSecurityDenied })) ∨
    (w.svc.isInLockout ω.clock.first = false ∧ w.svc.isSeedValid ω.clock.second = false ∧
      verifyKey aes level key ω w = (w, { code := .keyVerificationFailed })) ∨
    (w.svc.isInLockout ω.clock.first = false ∧ w.svc.isSeedValid ω.clock.second = true ∧
      level.toNat ≠ w.svc.currentSeed.securityLevel.toNat + 1 ∧
      verifyKey aes level key ω w = (w, { code := .invalidParameter })) ∨
    (Comparable w.svc level ω ∧
      ∃ e, computeExpectedKey aes w.svc ω.evp w.svc.currentSeed.seed = .error e ∧
        verifyKey aes level key ω w =
          (w.handleError ω e "Key computation failed", { code := .keyVerificationFailed })) ∨
    (Comparable w.svc level ω ∧
      computeExpectedKey aes w.svc ω.evp w.svc.currentSeed.seed = .ok key ∧
        verifyKey aes level key ω w =
          ({ w with svc := w.svc.invalidateSeed.resetFailedAttempts },
            { code := .success, compared := some true })) ∨
    (Comparable w.svc level ω ∧
      ∃ expected, computeExpectedKey aes w.svc ω.evp w.svc.currentSeed.seed = .ok expected ∧
        key ≠ expected ∧
        verifyKey aes level key ω w =
          ({ w with svc := (w.svc.incrementFailedAttempts ω.clock.third).invalidateSeed },
            { code := .keyVerificationFailed, compared := some false })) := by
  unfold verifyKey
  rw [hw.1, hw.2, hl]
  cases hlock : w.svc.isInLockout ω.clock.first with
  | true => exact .inl ⟨rfl, rfl⟩
  | false =>
    cases hvalid : w.svc.isSeedValid ω.clock.second with
    | false => exact .inr (.inl ⟨rfl, rfl, rfl⟩)
    | true =>
      by_cases hlevel : level.toNat = w.svc.currentSeed.securityLevel.toNat + 1
      · have hc : Comparable w.svc level ω := ⟨hlock, hvalid, hlevel⟩
        cases hexp : computeExpectedKey aes w.svc ω.evp w.svc.currentSeed.seed with
        | error e => exact .inr (.inr (.inr (.inl ⟨hc, e, rfl, by simp [hlevel]⟩)))
        | ok expected =>
          by_cases hkey : key = expected
          · subst hkey
            exact .inr (.inr (.inr (.inr (.inl ⟨hc, rfl, by simp [hlevel]⟩))))
          · exact .inr (.inr (.inr (.inr (.inr ⟨hc, expected, rfl, hkey, by simp [hlevel, hkey]⟩))))
      · exact .inr (.inr (.inl ⟨rfl, rfl, hlevel, by simp [hlevel]⟩))

/-- A call with a level of the wrong parity changes nothing. -/
theorem getSeed_wrongParity (hw : w.svc.Serving) (hl : requestsSeed level = false) :
    getSeed level ω w = (w, { code := .invalidParameter }) := by
  unfold getSeed
  rw [hw.1, hw.2, hl]
  rfl

theorem verifyKey_wrongParity (aes : BlockCipher) (key : Bytes) (ω : Oracle)
    (hw : w.svc.Serving) (hl : sendsKey level = false) :
    verifyKey aes level key ω w = (w, { code := .invalidParameter }) := by
  unfold verifyKey
  rw [hw.1, hw.2, hl]
  rfl

/-! ### The fields after a comparison -/

section Fields

variable {s : SecService} {now t : ℕ}

@[simp]
theorem SecService.isInLockout_invalidateSeed :
    s.invalidateSeed.isInLockout t = s.isInLockout t := rfl

@[simp]
theorem SecService.failedAttempts_invalidateSeed :
    s.invalidateSeed.failedAttempts = s.failedAttempts := rfl

@[simp]
theorem SecService.currentSeed_incrementFailedAttempts :
    (s.incrementFailedAttempts now).currentSeed = s.currentSeed := by
  unfold incrementFailedAttempts
  split_ifs <;> rfl

@[simp]
theorem SecService.currentSeed_resetFailedAttempts :
    s.resetFailedAttempts.currentSeed = s.currentSeed := rfl

/-- The third failure starts a lockout, an earlier one is only counted. -/
theorem SecService.incrementFailedAttempts_cases (s : SecService) (now : ℕ) :
    (2 ≤ s.failedAttempts ∧
      s.incrementFailedAttempts now =
        { s with
          inLockout := true, lockoutUntil := now + seconds lockoutDurationSec
          failedAttempts := 0 }) ∨
    (s.failedAttempts < 2 ∧
      s.incrementFailedAttempts now = { s with failedAttempts := s.failedAttempts + 1 }) := by
  unfold incrementFailedAttempts
  by_cases h : 2 ≤ s.failedAttempts
  · exact .inl ⟨h, if_pos (by simp only [maxFailedAttempts]; omega)⟩
  · exact .inr ⟨by omega, if_neg (by simp only [maxFailedAttempts]; omega)⟩

/-- A lockout that was just started lasts until its end. -/
@[simp]
theorem SecService.isInLockout_started {u n : ℕ} :
    ({ s with inLockout := true, lockoutUntil := u, failedAttempts := n } :
      SecService).isInLockout t = true ↔ t < u := by
  simp [isInLockout]

/-- A lockout that is over stays over. -/
theorem SecService.isInLockout_of_le (h : s.isInLockout now = false) (ht : now ≤ t) :
    s.isInLockout t = false := by
  unfold isInLockout at *
  cases hflag : s.inLockout with
  | false => rfl
  | true =>
    rw [hflag, Bool.true_and, decide_eq_false_iff_not] at h
    rw [Bool.true_and, decide_eq_false_iff_not]
    omega

/-- A valid seed was issued, was not compared, and is less than thirty seconds old. -/
theorem SecService.isSeedValid_iff :
    s.isSeedValid now = true ↔
      s.currentSeed.generated = true ∧ s.currentSeed.consumed = false ∧
        now < s.currentSeed.generatedAt + seconds 30 := by
  unfold isSeedValid seconds
  simp only [Bool.and_eq_true, Bool.not_eq_true', decide_eq_true_eq, and_assoc]
  constructor
  · rintro ⟨hg, hc, hlt⟩
    exact ⟨hg, hc, by omega⟩
  · rintro ⟨hg, hc, hlt⟩
    exact ⟨hg, hc, by omega⟩

end Fields

/-- A computed key is the seed under the shared secret. -/
theorem computeExpectedKey_ok {s : SecService} {evp : Bool} {seed expected : Bytes}
    (h : computeExpectedKey aes s evp seed = .ok expected) :
    ∃ secret, s.decodedSecret = some secret ∧ expected = aes secret seed := by
  unfold computeExpectedKey at h
  split at h
  · cases h
  · cases hs : s.decodedSecret with
    | none => rw [hs] at h; cases h
    | some secret =>
      rw [hs] at h
      dsimp only at h
      split at h
      · cases h
        exact ⟨secret, rfl, rfl⟩
      · cases h

/-! ### The example vector of AES-128 -/

/-- Its plain text, as a seed. -/
def exampleSeed : Seed :=
  ⟨[0x00, 0x11, 0x22, 0x33, 0x44, 0x55, 0x66, 0x77, 0x88, 0x99, 0xaa, 0xbb, 0xcc, 0xdd, 0xee,
    0xff], rfl⟩

/-- Its cipher text, the key of that seed. -/
def exampleKey : Bytes :=
  [0x69, 0xc4, 0xe0, 0xd8, 0x6a, 0x7b, 0x04, 0x30, 0xd8, 0xcd, 0xb7, 0x80, 0x70, 0xb4, 0xc5, 0x5a]

/-- A cipher that agrees with AES-128 on the vector. -/
def exampleAes : BlockCipher := fun _ _ => exampleKey

/-- A service with the key of the vector as its shared secret. -/
def exampleSvc : SecService :=
  { initialized := true, sharedSecret := "000102030405060708090a0b0c0d0e0f" }

end TboxSec.Sec
