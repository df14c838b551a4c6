import TboxSec.Sec.SeedKey

/-!
# The challenge protocol

What a client may conclude from the history of its exchanges with the service, in terms of
that history alone: which seed was issued last, whether a key has been compared since, how many
comparisons have failed in a row, and whether the service is locked out.

`Obeys aes secret past x` is the protocol's rule for one more exchange `x` after the history
`past`. The state of the service is an account of the history (`Account`): its counter is the
number of failures, its timer is the last lockout, and a seed that is still usable is the one
issued last. Every call keeps the account, whence every exchange of every run obeys the rule.
-/

namespace TboxSec.Sec

variable (aes : BlockCipher)

/-- A call with its answer. -/
structure Exchange where
  call : SeedCall
  reply : SeedReply

/-- The service answering security-access calls. -/
def challenger : Machine World SeedCall Exchange where
  step w c := ((c.run aes w).1, ⟨c, (c.run aes w).2⟩)

/-! ### The rules of the protocol -/

/-- A seed as it was issued. -/
structure Issue where
  seed : Bytes
  level : UInt8
  at_ : ℕ

namespace Exchange

/-- The seed that the exchange issues. -/
def issue (x : Exchange) : Option Issue :=
  match x.call, x.reply.seed with
  | .getSeed level ω, some seed => some ⟨seed, level, ω.clock.third⟩
  | _, _ => none

/-- The exchange is a failing comparison. -/
def Fails (x : Exchange) : Prop := x.reply.compared = some false

instance (x : Exchange) : Decidable x.Fails := inferInstanceAs (Decidable (_ = _))

/-- The exchanges follow one another on the clock. -/
def Before (x y : Exchange) : Prop := x.call.clock.third ≤ y.call.clock.first

end Exchange

/-- The number of failing comparisons after one more exchange: a success and the start of a
lockout reset it. -/
def tally (n : ℕ) (x : Exchange) : ℕ :=
  match x.reply.compared with
  | some true => 0
  | some false => if n = 2 then 0 else n + 1
  | none => n

/-- The failing comparisons since the last success or lockout start. -/
def failures (past : List Exchange) : ℕ := past.foldl tally 0

/-- The service is locked out at `t`: a third failing comparison happened less than ten seconds
before. -/
def LockedOut (past : List Exchange) (t : ℕ) : Prop :=
  ∃ before x after, past = before ++ x :: after ∧ x.Fails ∧ failures before = 2 ∧
    t < x.call.clock.third + seconds lockoutDurationSec

/-- `i` is the seed issued last, and no key has been compared since. -/
def Pending (past : List Exchange) (i : Issue) : Prop :=
  ∃ before x after, past = before ++ x :: after ∧ x.issue = some i ∧
    ∀ y ∈ after, y.issue = none ∧ y.reply.compared = none

/-- The rule for one more exchange after the history `past`, under the shared secret. -/
structure Obeys (secret : Option Bytes) (past : List Exchange) (x : Exchange) : Prop where
  /-- A key is accepted only for the seed issued last, of the level below, less than thirty
  seconds ago, not compared since, and outside a lockout. -/
  accepts : ∀ level key ω, x.call = .verifyKey level key ω → x.reply.code = .success →
    ∃ i k, Pending past i ∧ secret = some k ∧ key = aes k i.seed ∧
      level.toNat = i.level.toNat + 1 ∧ ω.clock.second < i.at_ + seconds 30 ∧
      ¬ LockedOut past ω.clock.first
  /-- A comparison is the first one since the seed was issued. -/
  compares : x.reply.compared ≠ none → ∃ i, Pending past i
  /-- Denied is every call of the right parity during a lockout, and no other call. -/
  denies : x.reply.code = .udsSecurityDenied ↔
    x.call.rightParity = true ∧ LockedOut past x.call.clock.first

/-! ### Histories that grow by one exchange -/

section History

variable {past : List Exchange} {x : Exchange} {i : Issue} {t : ℕ}

@[simp]
theorem failures_append : failures (past ++ [x]) = tally (failures past) x := by
  simp [failures, List.foldl_append]

private theorem failures_lt (past : List Exchange) : failures past < 3 := by
  induction past using List.reverseRecOn with
  | nil => simp [failures]
  | append_singleton past x ih =>
    rw [failures_append, tally]
    split
    · omega
    · split_ifs <;> omega
    · exact ih

/-- One more exchange starts a lockout or leaves the earlier ones. -/
private theorem lockedOut_append :
    LockedOut (past ++ [x]) t ↔
      LockedOut past t ∨
        (x.Fails ∧ failures past = 2 ∧ t < x.call.clock.third + seconds lockoutDurationSec) := by
  constructor
  · rintro ⟨before, y, after, heq, hfails, hn, ht⟩
    rcases List.eq_nil_or_concat after with rfl | ⟨after', z, rfl⟩
    · obtain ⟨rfl, rfl⟩ : past = before ∧ x = y := by simpa using List.append_inj' heq rfl
      exact .inr ⟨hfails, hn, ht⟩
    · have heq' : past ++ [x] = (before ++ y :: after') ++ [z] := by simpa using heq
      obtain ⟨rfl, -⟩ := List.append_inj' heq' rfl
      exact .inl ⟨before, y, after', rfl, hfails, hn, ht⟩
  · rintro (⟨before, y, after, rfl, hfails, hn, ht⟩ | ⟨hfails, hn, ht⟩)
    · exact ⟨before, y, after ++ [x], by simp, hfails, hn, ht⟩
    · exact ⟨past, x, [], rfl, hfails, hn, ht⟩

/-- A lockout ends once. -/
private theorem LockedOut.earlier {t' : ℕ} (h : LockedOut past t) (ht : t' ≤ t) :
    LockedOut past t' := by
  obtain ⟨before, x, after, rfl, hfails, hn, hlt⟩ := h
  exact ⟨before, x, after, rfl, hfails, hn, lt_of_le_of_lt ht hlt⟩

/-- A lockout of the history ends ten seconds after the history at the latest. -/
private theorem LockedOut.lt (h : LockedOut past t) {b : ℕ}
    (hb : ∀ y ∈ past, y.call.clock.third ≤ b) : t < b + seconds lockoutDurationSec := by
  obtain ⟨before, x, after, rfl, -, -, hlt⟩ := h
  have hx := hb x (by simp)
  omega

/-- The seed that was just issued is pending. -/
private theorem pending_issued (h : x.issue = some i) : Pending (past ++ [x]) i :=
  ⟨past, x, [], rfl, h, by simp⟩

/-- An exchange without a seed and without a comparison leaves a seed pending. -/
theorem Pending.append (h : Pending past i) (hi : x.issue = none)
    (hc : x.reply.compared = none) : Pending (past ++ [x]) i := by
  obtain ⟨before, y, after, rfl, hy, hafter⟩ := h
  refine ⟨before, y, after ++ [x], by simp, hy, fun z hz => ?_⟩
  rcases List.mem_append.mp hz with hz | hz
  · exact hafter z hz
  · rw [List.mem_singleton.mp hz]
    exact ⟨hi, hc⟩

end History

/-! ### The state is an account of the history -/

/-- The state of the service accounts for the history, under the shared secret. -/
structure Account (secret : Option Bytes) (past : List Exchange) (w : World) : Prop where
  serving : w.svc.Serving
  secret : w.svc.decodedSecret = secret
  counter : w.svc.failedAttempts = failures past
  /-- The timer tells the lockouts of the history, at any time after the history. -/
  lockout : ∀ t, (∀ x ∈ past, x.call.clock.third ≤ t) →
    (w.svc.isInLockout t = true ↔ LockedOut past t)
  /-- A seed that is not consumed is pending. -/
  seed : w.svc.currentSeed.generated = true → w.svc.currentSeed.consumed = false →
    Pending past ⟨w.svc.currentSeed.seed, w.svc.currentSeed.securityLevel,
      w.svc.currentSeed.generatedAt⟩

variable {aes} {secret : Option Bytes} {past : List Exchange} {w w' : World} {x : Exchange}

/-- An exchange that leaves seed, counter and timer alone keeps the account. -/
private theorem Account.quiet (h : Account secret past w) (hsvc : w'.svc = w.svc)
    (hi : x.issue = none)
    (hc : x.reply.compared = none) : Account secret (past ++ [x]) w' := by
  have hfails : ¬ x.Fails := by simp [Exchange.Fails, hc]
  refine ⟨by rw [hsvc]; exact h.serving, by rw [hsvc]; exact h.secret, ?_, ?_, ?_⟩
  · rw [hsvc, failures_append, tally, hc]
    exact h.counter
  · intro t ht
    rw [hsvc, lockedOut_append]
    simp only [hfails, false_and, or_false]
    exact h.lockout t fun y hy => ht y (List.mem_append_left _ hy)
  · rw [hsvc]
    intro hg hcons
    exact (h.seed hg hcons).append hi hc

/-- Issuing a seed keeps the account: the new seed is pending. -/
private theorem Account.issued (h : Account secret past w) {s : SeedState}
    (hi : x.issue = some ⟨s.seed, s.securityLevel, s.generatedAt⟩)
    (hc : x.reply.compared = none) :
    Account secret (past ++ [x]) { w with svc.currentSeed := s } := by
  have hfails : ¬ x.Fails := by simp [Exchange.Fails, hc]
  refine ⟨h.serving, h.secret, ?_, ?_,
    fun _ _ => pending_issued hi⟩
  · rw [failures_append, tally, hc]
    exact h.counter
  · intro t ht
    rw [lockedOut_append]
    simp only [hfails, false_and, or_false]
    exact h.lockout t fun y hy => ht y (List.mem_append_left _ hy)

/-- Accepting a key keeps the account. Outside a lockout there is none left to forget. -/
theorem Account.accepted (h : Account secret past w) (hc : x.reply.compared = some true)
    (hbefore : ∀ y ∈ past, y.Before x)
    (hfree : w.svc.isInLockout x.call.clock.first = false) :
    Account secret (past ++ [x]) { w with svc := w.svc.invalidateSeed.resetFailedAttempts } := by
  have hfails : ¬ x.Fails := by simp [Exchange.Fails, hc]
  refine ⟨h.serving, h.secret, ?_, ?_, ?_⟩
  · rw [failures_append, tally, hc]
    rfl
  · intro t ht
    rw [lockedOut_append]
    simp only [hfails, false_and, or_false]
    refine ⟨fun hlock => by simp [SecService.isInLockout, SecService.resetFailedAttempts] at hlock,
      fun hlock => ?_⟩
    have hxt : x.call.clock.third ≤ t := ht x (by simp)
    have hfirst : x.call.clock.first ≤ t :=
      le_trans x.call.clock.first_le (le_trans x.call.clock.second_le hxt)
    have hnow := (h.lockout _ hbefore).mpr (hlock.earlier hfirst)
    rw [hfree] at hnow
    cases hnow
  · intro _ hcons
    cases hcons

/-- A failing comparison keeps the account: it is counted, or starts the lockout. -/
private theorem Account.rejected (h : Account secret past w) (hfails : x.Fails)
    (hbefore : ∀ y ∈ past, y.Before x) :
    Account secret (past ++ [x])
      { w with svc := (w.svc.incrementFailedAttempts x.call.clock.third).invalidateSeed } := by
  have hfirst : x.call.clock.first ≤ x.call.clock.third :=
    le_trans x.call.clock.first_le x.call.clock.second_le
  have hcount := h.counter
  have hlt := failures_lt past
  have hcompared : x.reply.compared = some false := hfails
  rcases SecService.incrementFailedAttempts_cases w.svc x.call.clock.third with
    ⟨hn, heq⟩ | ⟨hn, heq⟩
  · have htwo : failures past = 2 := by omega
    refine ⟨?_, ?_, ?_, ?_, ?_⟩
    · rw [heq]
      exact h.serving
    · rw [heq]
      exact h.secret
    · simp [heq, tally, hcompared, htwo]
    · intro t ht
      rw [lockedOut_append]
      change (w.svc.incrementFailedAttempts _).isInLockout t = true ↔ _
      rw [heq, SecService.isInLockout_started]
      refine ⟨fun hlt => .inr ⟨hfails, htwo, hlt⟩, ?_⟩
      rintro (hpast | ⟨-, -, hlt⟩)
      · exact hpast.lt fun y hy => le_trans (hbefore y hy) hfirst
      · exact hlt
    · intro _ hcons
      cases hcons
  · have htwo : failures past ≠ 2 := by omega
    refine ⟨?_, ?_, ?_, ?_, ?_⟩
    · rw [heq]
      exact h.serving
    · rw [heq]
      exact h.secret
    · simp [heq, tally, hcompared, htwo, hcount]
    · intro t ht
      rw [lockedOut_append]
      simp only [SecService.isInLockout_invalidateSeed, heq, htwo, false_and, and_false, or_false]
      exact h.lockout t fun y hy => ht y (List.mem_append_left _ hy)
    · intro _ hcons
      cases hcons

/-! ### Every exchange keeps the account and obeys -/

/-- A timer that has run out: the history is not locked out. -/
private theorem Account.not_lockedOut {t : ℕ} (h : Account secret past w)
    (hpast : ∀ y ∈ past, y.call.clock.third ≤ t) (hfree : w.svc.isInLockout t = false) :
    ¬ LockedOut past t := by
  rw [← h.lockout t hpast, hfree]
  exact Bool.false_ne_true

/-- An exchange that issues a seed, or ends before the comparison, and is not denied. -/
private theorem obeys_quiet (h : Account secret past w) (hbefore : ∀ y ∈ past, y.Before x)
    (hverify : ∀ level key ω, x.call = .verifyKey level key ω → x.reply.code ≠ .success)
    (hc : x.reply.compared = none) (hcode : x.reply.code ≠ .udsSecurityDenied)
    (hfree : x.call.rightParity = true → w.svc.isInLockout x.call.clock.first = false) :
    Obeys aes secret past x := by
  refine ⟨fun level key ω hx hs => absurd hs (hverify level key ω hx), fun hne => absurd hc hne,
    fun hden => absurd hden hcode, fun hlock => ?_⟩
  exact absurd hlock.2 (h.not_lockedOut hbefore (hfree hlock.1))

/-- A denied exchange. -/
private theorem obeys_denied (h : Account secret past w) (hbefore : ∀ y ∈ past, y.Before x)
    (hx : x.reply = { code := .udsSecurityDenied }) (hparity : x.call.rightParity = true)
    (hlock : w.svc.isInLockout x.call.clock.first = true) : Obeys aes secret past x := by
  refine ⟨fun level key ω _ hs => ?_, fun hne => ?_, fun _ => ⟨hparity, ?_⟩, fun _ => ?_⟩
  · rw [hx] at hs
    cases hs
  · rw [hx] at hne
    exact absurd rfl hne
  · exact (h.lockout _ hbefore).mp hlock
  · rw [hx]

/-- A comparison is made with the pending seed, outside a lockout. -/
theorem Account.pending {level : UInt8} {ω : Oracle} (h : Account secret past w)
    (hc : Comparable w.svc level ω) :
    Pending past ⟨w.svc.currentSeed.seed, w.svc.currentSeed.securityLevel,
      w.svc.currentSeed.generatedAt⟩ := by
  obtain ⟨hg, hcons, -⟩ := SecService.isSeedValid_iff.mp hc.valid
  exact h.seed hg hcons

/-- **The step of `get_seed`.** -/
theorem getSeed_step {level : UInt8} {ω : Oracle} (h : Account secret past w)
    (hx : x = ⟨.getSeed level ω, (getSeed level ω w).2⟩) (hbefore : ∀ y ∈ past, y.Before x) :
    Account secret (past ++ [x]) (getSeed level ω w).1 ∧ Obeys aes secret past x := by
  have hnot : ∀ l k ω', x.call = .verifyKey l k ω' → x.reply.code ≠ .success := by
    intro l k ω' hcall
    rw [hx] at hcall
    cases hcall
  cases hl : requestsSeed level with
  | false =>
    rw [getSeed_wrongParity h.serving hl] at hx ⊢
    subst hx
    have hparity : (SeedCall.getSeed level ω).rightParity = false := hl
    refine ⟨h.quiet rfl rfl rfl, obeys_quiet h hbefore hnot rfl (fun hd => by cases hd) ?_⟩
    intro htrue
    rw [hparity] at htrue
    cases htrue
  | true =>
    rcases getSeed_cases ω h.serving hl with
      ⟨hlock, heq⟩ | ⟨hfree, -, heq⟩ | ⟨hfree, seed, -, heq⟩
    · rw [heq] at hx ⊢
      subst hx
      exact ⟨h.quiet rfl rfl rfl, obeys_denied h hbefore rfl hl hlock⟩
    · rw [heq] at hx ⊢
      subst hx
      exact ⟨h.quiet (World.svc_handleError ..) rfl rfl,
        obeys_quiet h hbefore hnot rfl (fun hd => by cases hd) fun _ => hfree⟩
    · rw [heq] at hx ⊢
      subst hx
      exact ⟨h.issued rfl rfl,
        obeys_quiet h hbefore hnot rfl (fun hd => by cases hd) fun _ => hfree⟩

/-- **The step of `verify_key`.** -/
theorem verifyKey_step {level : UInt8} {key : Bytes} {ω : Oracle} (h : Account secret past w)
    (hx : x = ⟨.verifyKey level key ω, (verifyKey aes level key ω w).2⟩)
    (hbefore : ∀ y ∈ past, y.Before x) :
    Account secret (past ++ [x]) (verifyKey aes level key ω w).1 ∧ Obeys aes secret past x := by
  -- An answer other than success and denial, given before the comparison and outside a lockout.
  have hearly : ∀ {w' : World} {code : ErrorCode},
      verifyKey aes level key ω w = (w', { code }) → w'.svc = w.svc → code ≠ .success →
      code ≠ .udsSecurityDenied →
      (sendsKey level = true → w.svc.isInLockout ω.clock.first = false) →
      Account secret (past ++ [x]) w' ∧ Obeys aes secret past x := by
    intro w' code heq hsvc hsucc hden hfree
    rw [heq] at hx
    subst hx
    exact ⟨h.quiet hsvc rfl rfl, obeys_quiet h hbefore (fun _ _ _ _ => hsucc) rfl hden hfree⟩
  cases hl : sendsKey level with
  | false =>
    have heq := verifyKey_wrongParity aes key ω h.serving hl
    rw [heq]
    refine hearly heq rfl (fun hd => by cases hd) (fun hd => by cases hd) fun htrue => ?_
    rw [hl] at htrue
    cases htrue
  | true =>
    rcases verifyKey_cases aes key ω h.serving hl with
      ⟨hlock, heq⟩ | ⟨hfree, -, heq⟩ | ⟨hfree, -, -, heq⟩ | ⟨hcomp, e, -, heq⟩ |
        ⟨hcomp, hok, heq⟩ | ⟨hcomp, expected, hok, hne, heq⟩
    · rw [heq] at hx ⊢
      subst hx
      exact ⟨h.quiet rfl rfl rfl, obeys_denied h hbefore rfl hl hlock⟩
    · rw [heq]
      exact hearly heq rfl (fun hd => by cases hd) (fun hd => by cases hd) fun _ => hfree
    · rw [heq]
      exact hearly heq rfl (fun hd => by cases hd) (fun hd => by cases hd) fun _ => hfree
    · rw [heq]
      exact hearly heq (World.svc_handleError ..) (fun hd => by cases hd)
        (fun hd => by cases hd) fun _ => hcomp.free
    · rw [heq] at hx ⊢
      subst hx
      have hout := h.not_lockedOut hbefore hcomp.free
      refine ⟨h.accepted rfl hbefore hcomp.free, ?_, fun _ => ⟨_, h.pending hcomp⟩,
        (fun hd => by cases hd), fun hlock => absurd hlock.2 hout⟩
      rintro l k ω' ⟨⟩ -
      obtain ⟨k, hk, hkey⟩ := computeExpectedKey_ok hok
      obtain ⟨-, -, hyoung⟩ := SecService.isSeedValid_iff.mp hcomp.valid
      exact ⟨_, k, h.pending hcomp, h.secret.symm.trans hk, hkey, hcomp.level, hyoung, hout⟩
    · rw [heq] at hx ⊢
      subst hx
      have hout := h.not_lockedOut hbefore hcomp.free
      refine ⟨h.rejected rfl hbefore, ?_, fun _ => ⟨_, h.pending hcomp⟩,
        (fun hd => by cases hd), fun hlock => absurd hlock.2 hout⟩
      rintro l k ω' - ⟨⟩

/-! ### Runs -/

/-- The steady clock does not decrease from one call to the next. -/
def ClockAdvances (calls : List SeedCall) : Prop :=
  calls.Pairwise fun a b => a.clock.third ≤ b.clock.first

instance (calls : List SeedCall) : Decidable (ClockAdvances calls) :=
  inferInstanceAs (Decidable (List.Pairwise _ _))

private theorem SecService.JustInitialized.account (h : w.svc.JustInitialized) :
    Account w.svc.decodedSecret [] w := by
  refine ⟨h.serving, rfl, h.failedAttempts, fun t _ => ?_, fun hg => ?_⟩
  · simp [SecService.isInLockout, h.inLockout, LockedOut]
  · rw [h.seed] at hg
    cases hg

/-- The account speaks of the service alone. -/
theorem Account.fresh (h : Account secret past w) : Account secret past w.fresh :=
  ⟨h.serving, h.secret, h.counter, h.lockout, h.seed⟩

/-- **Every call keeps the account and obeys.** -/
theorem challenger_step (h : Account secret past w) (c : SeedCall)
    (hbefore : ∀ y ∈ past, y.Before ((challenger aes).step w c).2) :
    Account secret (past ++ [((challenger aes).step w c).2]) ((challenger aes).step w c).1 ∧
      Obeys aes secret past ((challenger aes).step w c).2 := by
  cases c with
  | getSeed level ω => exact getSeed_step h.fresh rfl hbefore
  | verifyKey level key ω => exact verifyKey_step h.fresh rfl hbefore

/-- The exchanges of a run are those of its calls. -/
private theorem map_call_replies (w : World) (calls : List SeedCall) :
    ((challenger aes).replies w calls).map Exchange.call = calls := by
  induction calls generalizing w with
  | nil => rfl
  | cons c calls ih => exact congrArg (c :: ·) (ih _)

private theorem pairwise_before (aes : BlockCipher) (w : World) {calls : List SeedCall}
    (h : ClockAdvances calls) :
    ((challenger aes).replies w calls).Pairwise Exchange.Before := by
  have hmap : (((challenger aes).replies w calls).map Exchange.call).Pairwise
      fun a b => a.clock.third ≤ b.clock.first := by
    rw [map_call_replies]
    exact h
  rw [List.pairwise_map] at hmap
  exact hmap

/-- **The state accounts for the history** after every run. -/
theorem account_run {calls : List SeedCall} (h : w.svc.JustInitialized)
    (hclock : ClockAdvances calls) :
    Account w.svc.decodedSecret ((challenger aes).replies w calls)
      ((challenger aes).run w calls) := by
  refine (challenger aes).run_replies (c := fun _ _ => True)
    (I := fun past w' => past.Pairwise Exchange.Before → Account w.svc.decodedSecret past w')
    (fun _ => h.account) ?_ (Machine.along_true _ _ _) (pairwise_before aes w hclock)
  · intro past w' c ih _ hpair
    obtain ⟨hpast, -, hbefore⟩ := List.pairwise_append.mp hpair
    exact (challenger_step (ih hpast) c fun y hy => hbefore y hy _ (List.mem_singleton_self _)).1

/-- **The seed-key protocol.** Every exchange of every run of a service that has just been
initialised obeys the rules of the challenge protocol: which keys are accepted, that a seed is
compared once, and which calls a lockout denies. -/
theorem seedKey_protocol (aes : BlockCipher) (w : World) (calls : List SeedCall)
    {past : List Exchange} {x : Exchange} {future : List Exchange} (h : w.svc.JustInitialized)
    (hclock : ClockAdvances calls)
    (hx : (challenger aes).replies w calls = past ++ x :: future) :
    Obeys aes w.svc.decodedSecret past x := by
  have hpair := pairwise_before aes w hclock
  rw [hx] at hpair
  obtain ⟨-, -, hcross⟩ := List.pairwise_append.mp hpair
  obtain ⟨before, c, after, rfl, rfl, rfl⟩ := (challenger aes).exists_of_replies_eq hx
  have hbefore : ClockAdvances before := (List.pairwise_append.mp hclock).1
  exact (challenger_step (account_run h hbefore) c
    fun y hy => hcross y hy _ (List.mem_cons_self ..)).2

/-! ### A successful challenge -/

/-- A seed is requested at level `0x27` and its key sent one second later. -/
def exampleCalls : List SeedCall :=
  [.getSeed 0x27 { clock := .at 0, random := some exampleSeed },
   .verifyKey 0x28 exampleKey { clock := .at (seconds 1) }]

/-- The key is accepted, and the exchange obeys. -/
theorem seedKey_protocol_accepts :
    ∃ past x, (challenger exampleAes).replies { svc := exampleSvc } exampleCalls = past ++ [x] ∧
      x.reply.code = .success ∧ Obeys exampleAes exampleSvc.decodedSecret past x :=
  ⟨[⟨exampleCalls[0], { code := .success, seed := some exampleSeed.val }⟩],
    ⟨exampleCalls[1], { code := .success, compared := some true }⟩, by rfl, rfl,
    seedKey_protocol exampleAes { svc := exampleSvc } exampleCalls ⟨⟨rfl, rfl⟩, rfl, rfl, rfl⟩
      (by decide) (show _ = _ ++ _ :: [] by rfl)⟩

end TboxSec.Sec
