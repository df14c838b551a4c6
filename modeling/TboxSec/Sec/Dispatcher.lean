import TboxSec.Sec.SeedKey

/-!
# The diagnostic dispatcher

`ServiceDispatcher` translates the answers of the security service into UDS response codes and
keeps a failure counter of its own. The service's counter counts failing comparisons and is
reset by a success; the dispatcher's counts every `KEY_VERIFICATION_FAILED`, also those given
without a comparison, and no success resets it.

`diagnostics_truthful_iff` says exactly for which runs the two counters agree and the response
codes tell the truth about the lockout: those in which no key is sent without a usable seed, the
expected key can always be computed, and no key is accepted while failures are being counted.
-/

namespace TboxSec.Sec

/-- `SecurityAccessResponse`. -/
structure SecurityAccessResponse where
  nrc : UInt8 := 0
  data : Bytes := []
  deriving DecidableEq

/-- The fields of `ServiceDispatcher`. -/
structure ServiceDispatcher where
  /-- `sec_service_` is set. -/
  secService : Bool := true
  failedAttempts : ℕ := 0
  deriving DecidableEq

/-- The dispatcher in front of the service. -/
structure Diagnostics where
  dispatcher : ServiceDispatcher := {}
  world : World := {}
  deriving DecidableEq

/-- A `handle_security_access` call, with the response record it fills in. -/
structure AccessCall where
  subFunction : UInt8
  requestData : Bytes := []
  response : SecurityAccessResponse := {}
  oracle : Oracle

/-- The filled-in response and the returned code. -/
structure AccessReply where
  response : SecurityAccessResponse
  code : ErrorCode
  deriving DecidableEq

namespace Diagnostics

variable (aes : BlockCipher) (d : Diagnostics)

/-- `handle_request_seed`. -/
def handleRequestSeed (level : UInt8) (ω : Oracle) (response : SecurityAccessResponse) :
    Diagnostics × AccessReply :=
  let (world, reply) := getSeed level ω d.world
  let d := { d with world }
  match reply.code with
  | .success => (d, ⟨{ nrc := 0x00, data := reply.seed.getD [] }, .success⟩)
  | .udsSecurityDenied => (d, ⟨{ response with nrc := 0x37 }, reply.code⟩)
  | .seedGenerationFailed => (d, ⟨{ response with nrc := 0x72 }, reply.code⟩)
  | _ => (d, ⟨{ response with nrc := 0x22 }, reply.code⟩)

/-- `handle_send_key`. A success leaves the dispatcher's counter as it is. -/
def handleSendKey (level : UInt8) (key : Bytes) (ω : Oracle) (response : SecurityAccessResponse) :
    Diagnostics × AccessReply :=
  let (world, reply) := verifyKey aes level key ω d.world
  let d := { d with world }
  match reply.code with
  | .success => (d, ⟨{ nrc := 0x00, data := [0x01] }, .success⟩)
  | .udsSecurityDenied => (d, ⟨{ response with nrc := 0x37 }, reply.code⟩)
  | .keyVerificationFailed =>
    let failedAttempts := d.dispatcher.failedAttempts + 1
    if failedAttempts ≥ 3 then
      ({ d with dispatcher.failedAttempts := 0 },
        ⟨{ response with nrc := 0x36 }, reply.code⟩)
    else
      ({ d with dispatcher.failedAttempts := failedAttempts },
        ⟨{ response with nrc := 0x35 }, reply.code⟩)
  | _ => (d, ⟨{ response with nrc := 0x22 }, reply.code⟩)

/-- `handle_security_access`: odd sub-functions request a seed, even ones send a key. -/
def handleSecurityAccess (c : AccessCall) : Diagnostics × AccessReply :=
  if !d.dispatcher.secService then (d, ⟨{ c.response with nrc := 0x22 }, .notInitialized⟩)
  else if c.subFunction.toNat % 2 = 1 then
    d.handleRequestSeed c.subFunction c.oracle c.response
  else d.handleSendKey aes c.subFunction c.requestData c.oracle c.response

/-- One call; the service takes its answers afresh. -/
def step (c : AccessCall) : Diagnostics × AccessReply :=
  { d with world := d.world.fresh }.handleSecurityAccess aes c

end Diagnostics

variable (aes : BlockCipher)

/-- The dispatcher answering calls. -/
def diagnostics : Machine Diagnostics AccessCall AccessReply where
  step d c := d.step aes c

/-! ### What the response codes are to say -/

/-- The step from `d` with the call `c` tells the truth: `0x36` is returned exactly when the call
puts the service into lockout, `0x37` exactly when it is made during a lockout, and the counters
agree afterwards. -/
structure TellsTruth (d : Diagnostics) (c : AccessCall) : Prop where
  exceeded : (d.step aes c).2.response.nrc = 0x36 ↔
    d.world.svc.isInLockout c.oracle.clock.first = false ∧
      (d.step aes c).1.world.svc.isInLockout c.oracle.clock.third = true
  delayed : (d.step aes c).2.response.nrc = 0x37 ↔
    d.world.svc.isInLockout c.oracle.clock.first = true
  agree : (d.step aes c).1.dispatcher.failedAttempts =
    (d.step aes c).1.world.svc.failedAttempts

/-- A key that the service, outside a lockout, judges: by comparing it with the expected key of a
usable seed, or by its level. Accepting it comes with no failure counted. -/
structure JudgedKey (s : SecService) (c : AccessCall) : Prop where
  valid : s.isSeedValid c.oracle.clock.second = true
  computes : c.subFunction.toNat = s.currentSeed.securityLevel.toNat + 1 →
    ∃ expected, computeExpectedKey aes s c.oracle.evp s.currentSeed.seed = .ok expected ∧
      (c.requestData = expected → s.failedAttempts = 0)

/-- The condition on a call: a key sent outside a lockout is judged. -/
def InStep (d : Diagnostics) (c : AccessCall) : Prop :=
  sendsKey c.subFunction = true → d.world.svc.isInLockout c.oracle.clock.first = false →
    JudgedKey aes d.world.svc c

/-! ### One step -/

/-- Both parts serve, and their counters agree. -/
structure Synced (d : Diagnostics) : Prop where
  dispatcher : d.dispatcher.secService = true
  serving : d.world.svc.Serving
  agree : d.dispatcher.failedAttempts = d.world.svc.failedAttempts
  few : d.world.svc.failedAttempts < 3

variable {aes} {d : Diagnostics} {c : AccessCall}

/-- A step after which the service is as before and the counters are untouched: only the denial
of a lockout may be reported. -/
private theorem tellsTruth_quiet (h : Synced d) {d' : Diagnostics} {r : AccessReply}
    (heq : d.step aes c = (d', r)) (hcount : d'.dispatcher = d.dispatcher)
    (hfail : d'.world.svc.failedAttempts = d.world.svc.failedAttempts)
    (hlock : ∀ t, d'.world.svc.isInLockout t = d.world.svc.isInLockout t)
    (hexceeded : r.response.nrc ≠ 0x36)
    (hdelayed : r.response.nrc = 0x37 ↔ d.world.svc.isInLockout c.oracle.clock.first = true) :
    TellsTruth aes d c := by
  refine ⟨?_, ?_, ?_⟩
  · rw [heq, hlock]
    refine ⟨fun hnrc => absurd hnrc hexceeded, fun ⟨hfree, hin⟩ => ?_⟩
    have hle := le_trans c.oracle.clock.first_le c.oracle.clock.second_le
    rw [SecService.isInLockout_of_le hfree hle] at hin
    cases hin
  · rw [heq]
    exact hdelayed
  · rw [heq, hcount, hfail]
    exact h.agree

/-- What keeps the counters in step keeps the diagnostics synced. -/
private theorem synced_of_step {d' : Diagnostics} {r : AccessReply}
    (heq : d.step aes c = (d', r)) (hd : d'.dispatcher.secService = true)
    (hs : d'.world.svc.Serving)
    (hagree : d'.dispatcher.failedAttempts = d'.world.svc.failedAttempts)
    (hfew : d'.world.svc.failedAttempts < 3) : Synced (d.step aes c).1 := by
  rw [heq]
  exact ⟨hd, hs, hagree, hfew⟩

/-- A seed request tells the truth. -/
private theorem requestSeed_step (aes : BlockCipher) (h : Synced d)
    (hodd : requestsSeed c.subFunction = true) :
    TellsTruth aes d c ∧ Synced (d.step aes c).1 := by
  have hmod : c.subFunction.toNat % 2 = 1 := by simpa [requestsSeed] using hodd
  have hstep : d.step aes c =
      { d with world := d.world.fresh }.handleRequestSeed c.subFunction c.oracle c.response := by
    simp [Diagnostics.step, Diagnostics.handleSecurityAccess, h.dispatcher, hmod]
  have hw : d.world.fresh.svc.Serving := h.serving
  unfold Diagnostics.handleRequestSeed at hstep
  rcases getSeed_cases c.oracle hw hodd with
    ⟨hlock, heq⟩ | ⟨hfree, -, heq⟩ | ⟨hfree, seed, -, heq⟩
  · rw [heq] at hstep
    exact ⟨tellsTruth_quiet h hstep rfl rfl (fun _ => rfl) (by simp) ⟨fun _ => hlock, fun _ => rfl⟩,
      synced_of_step hstep h.dispatcher h.serving h.agree h.few⟩
  · rw [heq] at hstep
    refine ⟨tellsTruth_quiet h hstep rfl rfl (fun _ => rfl) (by simp) ?_,
      synced_of_step hstep h.dispatcher h.serving h.agree h.few⟩
    refine ⟨fun hnrc => by simp at hnrc, fun hlock => ?_⟩
    exact absurd (hfree.symm.trans hlock) Bool.false_ne_true
  · rw [heq] at hstep
    refine ⟨tellsTruth_quiet h hstep rfl rfl (fun _ => rfl) (by simp) ?_,
      synced_of_step hstep h.dispatcher h.serving h.agree h.few⟩
    refine ⟨fun hnrc => by simp at hnrc, fun hlock => ?_⟩
    exact absurd (hfree.symm.trans hlock) Bool.false_ne_true

/-- Without a lockout the response code must not be `0x37`. -/
private theorem delayed_of_free {nrc : UInt8} {b : Bool} (hfree : b = false) (hnrc : nrc ≠ 0x37) :
    nrc = 0x37 ↔ b = true :=
  ⟨fun heq => absurd heq hnrc, fun hb => absurd (hfree.symm.trans hb) Bool.false_ne_true⟩

/-- A key answered with `KEY_VERIFICATION_FAILED` is counted by the dispatcher, with the response
code of the count. -/
private theorem sendKey_counted {w : World} {reply : SeedReply}
    (hdisp : d.dispatcher.secService = true) (heven : c.subFunction.toNat % 2 ≠ 1)
    (heq : verifyKey aes c.subFunction c.requestData c.oracle d.world.fresh = (w, reply))
    (hcode : reply.code = .keyVerificationFailed) :
    (d.dispatcher.failedAttempts + 1 ≥ 3 ∧
      d.step aes c = ({ world := w, dispatcher := { d.dispatcher with failedAttempts := 0 } },
        ⟨{ c.response with nrc := 0x36 }, reply.code⟩)) ∨
    (d.dispatcher.failedAttempts + 1 < 3 ∧
      d.step aes c =
        ({ world := w
           dispatcher := { d.dispatcher with failedAttempts := d.dispatcher.failedAttempts + 1 } },
          ⟨{ c.response with nrc := 0x35 }, reply.code⟩)) := by
  unfold Diagnostics.step Diagnostics.handleSecurityAccess Diagnostics.handleSendKey
  rw [heq]
  by_cases hn : d.dispatcher.failedAttempts + 1 ≥ 3
  · exact .inl ⟨hn, by simp [hdisp, heven, hcode, hn]⟩
  · exact .inr ⟨by omega, by simp [hdisp, heven, hcode, hn]⟩

/-- A count of the dispatcher alone breaks the agreement of the counters. -/
private theorem not_tellsTruth_of_counted (h : Synced d) {w : World} {reply : SeedReply}
    (heven : c.subFunction.toNat % 2 ≠ 1)
    (heq : verifyKey aes c.subFunction c.requestData c.oracle d.world.fresh = (w, reply))
    (hcode : reply.code = .keyVerificationFailed)
    (hsame : w.svc.failedAttempts = d.world.svc.failedAttempts) : ¬ TellsTruth aes d c := by
  intro htruth
  have hagree := htruth.agree
  have hbefore := h.agree
  rcases sendKey_counted h.dispatcher heven heq hcode with ⟨hn, hstep⟩ | ⟨hn, hstep⟩
  · rw [hstep] at hagree
    dsimp only at hagree
    omega
  · rw [hstep] at hagree
    dsimp only at hagree
    omega

/-- **The step of a sent key.** It tells the truth exactly under the condition, and then the
counters stay synced. -/
theorem sendKey_step (h : Synced d) (heven : sendsKey c.subFunction = true) :
    (TellsTruth aes d c ↔ InStep aes d c) ∧
      (TellsTruth aes d c → Synced (d.step aes c).1) := by
  have hmod : c.subFunction.toNat % 2 ≠ 1 := by
    simp only [sendsKey, Bool.and_eq_true, beq_iff_eq] at heven
    omega
  have hstep : d.step aes c =
      { d with world := d.world.fresh }.handleSendKey aes c.subFunction c.requestData c.oracle
        c.response := by
    simp [Diagnostics.step, Diagnostics.handleSecurityAccess, h.dispatcher, hmod]
  have hw : d.world.fresh.svc.Serving := h.serving
  have hle := le_trans c.oracle.clock.first_le c.oracle.clock.second_le
  unfold Diagnostics.handleSendKey at hstep
  rcases verifyKey_cases aes c.requestData c.oracle hw heven with
    ⟨hlock, heq⟩ | ⟨hfree, hinvalid, heq⟩ | ⟨hfree, hvalid, hlevel, heq⟩ |
      ⟨hcomp, e, herr, heq⟩ | ⟨hcomp, hok, heq⟩ | ⟨hcomp, expected, hok, hne, heq⟩
  · -- Denied: both sides hold.
    rw [heq] at hstep
    have htruth : TellsTruth aes d c := tellsTruth_quiet h hstep rfl rfl (fun _ => rfl) (by simp)
      ⟨fun _ => hlock, fun _ => rfl⟩
    refine ⟨⟨fun _ _ hfree => ?_, fun _ => htruth⟩, fun _ =>
      synced_of_step hstep h.dispatcher h.serving h.agree h.few⟩
    exact absurd (hlock.symm.trans hfree) Bool.false_ne_true.symm
  · -- No usable seed: neither holds.
    have hnot := not_tellsTruth_of_counted h hmod heq rfl rfl
    refine ⟨⟨fun htruth => absurd htruth hnot, fun hin => ?_⟩, fun htruth => absurd htruth hnot⟩
    have hvalid := (hin heven hfree).valid
    exact absurd (hinvalid.symm.trans hvalid) Bool.false_ne_true
  · -- A key of another level: both hold.
    rw [heq] at hstep
    have htruth : TellsTruth aes d c := tellsTruth_quiet h hstep rfl rfl (fun _ => rfl) (by simp)
      (delayed_of_free hfree (by simp))
    exact ⟨⟨fun _ _ _ => ⟨hvalid, fun hl => absurd hl hlevel⟩, fun _ => htruth⟩, fun _ =>
      synced_of_step hstep h.dispatcher h.serving h.agree h.few⟩
  · -- The expected key cannot be computed: neither holds.
    have hnot := not_tellsTruth_of_counted h hmod heq rfl rfl
    refine ⟨⟨fun htruth => absurd htruth hnot, fun hin => ?_⟩, fun htruth => absurd htruth hnot⟩
    obtain ⟨expected, hok, -⟩ := (hin heven hcomp.free).computes hcomp.level
    have hclash := herr.symm.trans hok
    cases hclash
  · -- The key is accepted: the service's counter is reset, the dispatcher's is not.
    rw [heq] at hstep
    have hagree := h.agree
    constructor
    · constructor
      · intro htruth _ _
        refine ⟨hcomp.valid, fun _ => ⟨c.requestData, hok, fun _ => ?_⟩⟩
        have hafter := htruth.agree
        rw [hstep] at hafter
        exact hagree.symm.trans hafter
      · intro hin
        obtain ⟨expected, hok', hzero⟩ := (hin heven hcomp.free).computes hcomp.level
        have hsame : c.requestData = expected := Except.ok.inj (hok.symm.trans hok')
        refine ⟨?_, ?_, ?_⟩
        · rw [hstep]
          exact ⟨fun hnrc => by simp at hnrc, fun hlock => by cases hlock.2⟩
        · rw [hstep]
          exact delayed_of_free hcomp.free (by simp)
        · rw [hstep]
          exact hagree.trans (hzero hsame)
    · intro htruth
      have hafter := htruth.agree
      rw [hstep] at hafter
      exact synced_of_step hstep h.dispatcher h.serving hafter (Nat.succ_pos 2)
  · -- A failing comparison: both count it, and the third one starts the lockout.
    have hagree := h.agree
    have hin : InStep aes d c := fun _ _ =>
      ⟨hcomp.valid, fun _ => ⟨expected, hok, fun hsame => absurd hsame hne⟩⟩
    suffices hboth : TellsTruth aes d c ∧ Synced (d.step aes c).1 from
      ⟨⟨fun _ => hin, fun _ => hboth.1⟩, fun _ => hboth.2⟩
    have hcounted := sendKey_counted h.dispatcher hmod heq rfl
    rcases SecService.incrementFailedAttempts_cases d.world.fresh.svc
        c.oracle.clock.third with ⟨hn, hinc⟩ | ⟨hn, hinc⟩
    · have hthree : d.dispatcher.failedAttempts + 1 ≥ 3 := by
        rw [hagree]
        exact Nat.succ_le_succ hn
      obtain ⟨-, hstep⟩ := hcounted.resolve_right fun hfew => by omega
      have hzero : (d.world.fresh.svc.incrementFailedAttempts
          c.oracle.clock.third).invalidateSeed.failedAttempts = 0 := by
        rw [hinc]
        rfl
      have hlock : (d.world.fresh.svc.incrementFailedAttempts
          c.oracle.clock.third).invalidateSeed.isInLockout c.oracle.clock.third = true := by
        rw [SecService.isInLockout_invalidateSeed, hinc, SecService.isInLockout_started]
        exact Nat.lt_add_of_pos_right (by decide)
      refine ⟨⟨?_, ?_, ?_⟩, synced_of_step hstep h.dispatcher ?_ hzero.symm ?_⟩
      · rw [hstep]
        exact ⟨fun _ => ⟨hcomp.free, hlock⟩, fun _ => rfl⟩
      · rw [hstep]
        exact delayed_of_free hcomp.free (by simp)
      · rw [hstep]
        exact hzero.symm
      · rw [hinc]
        exact h.serving
      · rw [hzero]
        exact Nat.succ_pos 2
    · have htwo : d.dispatcher.failedAttempts + 1 < 3 := by
        rw [hagree]
        exact Nat.succ_lt_succ hn
      obtain ⟨-, hstep⟩ := hcounted.resolve_left fun hmany => by omega
      rw [hinc] at hstep
      have hafter : d.dispatcher.failedAttempts + 1 = d.world.svc.failedAttempts + 1 := by
        rw [hagree]
      refine ⟨⟨?_, ?_, ?_⟩, synced_of_step hstep h.dispatcher h.serving hafter
        (Nat.succ_lt_succ hn)⟩
      · rw [hstep]
        refine ⟨fun hnrc => by simp at hnrc, fun hlock => ?_⟩
        have hfree : d.world.svc.isInLockout c.oracle.clock.third = false :=
          SecService.isInLockout_of_le hcomp.free hle
        exact absurd (hfree.symm.trans hlock.2) Bool.false_ne_true
      · rw [hstep]
        exact delayed_of_free hcomp.free (by simp)
      · rw [hstep]
        exact hafter

/-- **The step.** -/
theorem diagnostics_step (h : Synced d) (hzero : c.subFunction ≠ 0) :
    (TellsTruth aes d c ↔ InStep aes d c) ∧
      (TellsTruth aes d c → Synced (d.step aes c).1) := by
  by_cases hodd : c.subFunction.toNat % 2 = 1
  · have hreq : requestsSeed c.subFunction = true := by simpa [requestsSeed] using hodd
    obtain ⟨htruth, hsynced⟩ := requestSeed_step aes h hreq
    refine ⟨⟨fun _ hsend => ?_, fun _ => htruth⟩, fun _ => hsynced⟩
    simp [sendsKey, hodd] at hsend
  · have hsend : sendsKey c.subFunction = true := by
      have heven : c.subFunction.toNat % 2 = 0 := by omega
      simp [sendsKey, heven, hzero]
    exact sendKey_step h hsend

/-! ### Runs -/

/-- **The diagnostic layer tells the truth about lockout exactly** in those runs in which every
key sent outside a lockout is judged by the service: a usable seed is there, the expected key
can be computed, and the key is accepted only with no failure counted. -/
theorem diagnostics_truthful_iff (aes : BlockCipher) {d : Diagnostics} {calls : List AccessCall}
    (hdisp : d.dispatcher = {}) (hsvc : d.world.svc.JustInitialized)
    (hzero : ∀ c ∈ calls, c.subFunction ≠ 0) :
    (diagnostics aes).Along (TellsTruth aes) d calls ↔
      (diagnostics aes).Along (InStep aes) d calls := by
  have hstart : Synced d := by
    refine ⟨by rw [hdisp], hsvc.serving, ?_, ?_⟩
    · rw [hdisp, hsvc.failedAttempts]
    · rw [hsvc.failedAttempts]
      exact Nat.succ_pos 2
  exact (diagnostics aes).along_congr (I := Synced) hstart
    (fun _ c hc hI => (diagnostics_step hI (hzero c hc)).1)
    fun _ c hc hI htruth => (diagnostics_step hI (hzero c hc)).2 htruth

/-! ### Runs of a fresh service -/

/-- A fresh dispatcher in front of an initialised service with a shared secret. -/
def exampleDiagnostics : Diagnostics :=
  { world := { svc := exampleSvc } }

/-- A seed request, a wrong key, and a seed request. -/
def wrongKeyCalls : List AccessCall :=
  [{ subFunction := 0x27, oracle := { random := some exampleSeed } },
   { subFunction := 0x28, requestData := [], oracle := {} },
   { subFunction := 0x27, oracle := { random := some exampleSeed } }]

/-- One wrong key, compared and counted by both: the condition and the property hold. -/
theorem diagnostics_truthful_wrongKey :
    (diagnostics exampleAes).Along (InStep exampleAes) exampleDiagnostics wrongKeyCalls ∧
      (diagnostics exampleAes).Along (TellsTruth exampleAes) exampleDiagnostics
        wrongKeyCalls := by
  have hcond : (diagnostics exampleAes).Along (InStep exampleAes) exampleDiagnostics
      wrongKeyCalls := by
    refine ⟨?_, ?_, ?_, trivial⟩
    · intro hsend
      exact absurd hsend (by decide)
    · refine fun _ _ => ⟨by decide, fun _ => ⟨exampleKey, by rfl, fun hkey => ?_⟩⟩
      exact absurd hkey (by decide)
    · intro hsend
      exact absurd hsend (by decide)
  have hiff := diagnostics_truthful_iff exampleAes (d := exampleDiagnostics) rfl
    ⟨⟨rfl, rfl⟩, rfl, rfl, rfl⟩
    (show ∀ c ∈ wrongKeyCalls, c.subFunction ≠ 0 by decide)
  exact ⟨hcond, hiff.mpr hcond⟩

/-- Three keys sent without any seed. -/
def seedlessCalls : List AccessCall :=
  List.replicate 3 { subFunction := 0x28, requestData := [0], oracle := {} }

/-- **Three keys without a seed.** The third is answered with `0x36`, but the service has counted
nothing and is not locked out. -/
theorem not_truthful_seedless :
    ¬ (diagnostics exampleAes).Along (TellsTruth exampleAes) exampleDiagnostics
      seedlessCalls := by
  rintro ⟨-, -, htruth, -⟩
  exact absurd (htruth.exceeded.mp (by decide)).2 (by decide)

end TboxSec.Sec
