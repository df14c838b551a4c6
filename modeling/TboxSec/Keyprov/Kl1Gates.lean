import TboxSec.Keyprov.Kl1Admission

/-!
# The gates of `importKl1`

Before it enters `run_pipeline`, `importKl1` reads the trusted clock four times: for the first
check of time, epoch and lease, in the version check, for the second check of time, epoch and
lease, and for the start time of the operation. Each time the clock may answer as it likes.

* `LeaseOpen`: what a check of time, epoch and lease finds at one of these samples.
* `Kl1Gates`: what all the checks find.
* `importKl1Decide_cases`: a request without a record is rejected, or its checks have found just
  that and the operation is started.
* `kl1_gates`: so a call changes something only if the checks have found that.
* `start_past_lease`: the fourth sample is not checked, so an operation can start at a time past
  its lease.
-/

namespace TboxSec.Keyprov

open Canonical Crash Prog Journal

variable {D : Deployment} {ω : Oracle} {w w' : World} {requestId domain : String}
  {items : List WrappedKeyItem} {context : KeyprovImportContext} {a : Admitted}

/-- At the sample `n` of the call the lease is open: the clock is trusted, certain to a second and
synchronised within five minutes, the caller knows the current epoch, and the upper bound of the
time is before the end of the lease. -/
structure LeaseOpen (D : Deployment) (ω : Oracle) (svc : Service)
    (context : KeyprovImportContext) (n : ℕ) : Prop where
  trusted : (ω.now n).trustState = .trusted
  certain : (ω.now n).uncertaintyMs ≤ 1000
  recent : (ω.now n).freshnessAgeMs ≤ 300000
  epoch : context.capabilityEpoch = epoch D svc
  early : (ω.now n).utcNowMs + (ω.now n).uncertaintyMs < context.admissionExpireAtMs

/-- What the checks of a new request find. -/
structure Kl1Gates (D : Deployment) (ω : Oracle) (w : World) (items : List WrappedKeyItem)
    (context : KeyprovImportContext) : Prop where
  /-- The last check. -/
  last : LeaseOpen D ω w.svc context 2
  first : LeaseOpen D ω w.svc context 0
  /-- The items are valid from the upper bound of the first sample to the end of the lease. -/
  covered : ∀ it ∈ items, it.validFromMs ≤ (ω.now 0).utcNowMs + (ω.now 0).uncertaintyMs ∧
    context.admissionExpireAtMs ≤ it.validToMs
  /-- So is the certificate. -/
  certificate : (ω.binding 0).activeCertValidFromMs ≤
      (ω.now 0).utcNowMs + (ω.now 0).uncertaintyMs ∧
    context.admissionExpireAtMs ≤ (ω.binding 0).activeCertValidToMs
  trusted : (ω.now 1).trustState = .trusted
  /-- The items are valid at the second sample. -/
  current : ∀ it ∈ items, it.validFromMs ≤ (ω.now 1).utcNowMs ∧ (ω.now 1).utcNowMs ≤ it.validToMs
  /-- The items are newer than the active keys. -/
  versions : ∀ it ∈ items, ∀ slot, w.prov.state.active.find? it.purpose = some slot →
    slot.present = true → slot.version < it.businessKeyVersion

/-- But for the count of the environment's answers nothing has changed. -/
def Unchanged (w w' : World) : Prop := { w' with asked := w.asked } = w

private theorem Unchanged.disk_eq (h : Unchanged w w') : w'.disk = w.disk := by
  rw [← (show { w' with asked := w.asked } = w from h)]

private theorem unchanged_asked (w : World) (k : Asked) : Unchanged w { w with asked := k } := rfl

/-! ### The single checks -/

private theorem leaseCheck_eq_success_iff {svc : Service} {n : ℕ} :
    leaseCheck D svc context (trustedUpper (ω.now n)) = .success ↔
      LeaseOpen D ω svc context n := by
  constructor
  · intro h
    unfold trustedUpper at h
    split_ifs at h with htrusted hcertain hrecent
    · cases h
    · cases h
    · cases h
    rw [leaseCheck] at h
    split_ifs at h with hepoch hlease
    exact ⟨not_not.mp htrusted, not_lt.mp hcertain, not_lt.mp hrecent, not_not.mp hepoch,
      not_le.mp hlease⟩
  · intro h
    simp [trustedUpper, leaseCheck, h.trusted, not_lt.mpr h.certain, not_lt.mpr h.recent,
      h.epoch, not_le.mpr h.early]

theorem LeaseOpen.trustedUpper {svc : Service} {n : ℕ} (h : LeaseOpen D ω svc context n) :
    trustedUpper (ω.now n) = some ((ω.now n).utcNowMs + (ω.now n).uncertaintyMs) := by
  rw [Keyprov.trustedUpper, if_neg (not_not.mpr h.trusted), if_neg (not_lt.mpr h.certain),
    if_neg (not_lt.mpr h.recent)]

private theorem coversLease_iff {u : ℤ} :
    coversLease a context u = true ↔
      (∀ it ∈ a.rows.map Prod.fst, it.validFromMs ≤ u ∧
        context.admissionExpireAtMs ≤ it.validToMs) ∧
      a.binding.activeCertValidFromMs ≤ u ∧
        context.admissionExpireAtMs ≤ a.binding.activeCertValidToMs := by
  simp [coversLease, List.all_eq_true, and_assoc]

/-- The version check at a ready provider. -/
private theorem of_versionTimeCheck {prov : Provider} {now : ℤ} (hready : prov.ready = true)
    (h : versionTimeCheck D prov domain now items = .success) :
    ∀ it ∈ items, (it.validFromMs ≤ now ∧ now ≤ it.validToMs) ∧
      ∀ slot, prov.state.active.find? it.purpose = some slot → slot.present = true →
        slot.version < it.businessKeyVersion := by
  induction items with
  | nil => exact fun it hit => nomatch hit
  | cons item rest ih =>
    unfold versionTimeCheck at h
    dsimp only at h
    split_ifs at h with hversion htime
    rw [not_or, not_lt, not_lt] at htime
    refine List.forall_mem_cons.mpr ⟨⟨htime, fun slot hslot hpresent => ?_⟩, ih h⟩
    by_contra hle
    refine hversion ?_
    simp only [querySlot, hready, hslot, hpresent, Bool.not_true, Bool.false_eq_true, if_false]
    exact ⟨trivial, trivial, not_lt.mp hle⟩

/-! ### The checks in their order -/

/-- The gates change nothing and take no sample of the clock. They let the request through as the
gates of `import` do, or reject it. -/
private theorem importKl1Gates_run :
    ∃ r k, importKl1Gates D ω requestId domain items context { w with asked := {} } =
        .done r { w with asked := k } ∧ k.nows = 0 ∧
      ∀ a, r = .ok a → admittedRequest D ω w requestId domain items = some a := by
  by_cases hdown : (w.svc.shuttingDown || !D.service.enabled) = true
  · refine ⟨.error (.businessKeyNotReady, refusal requestId domain .unknown), {}, ?_, rfl,
      fun a ha => by cases ha⟩
    simp only [importKl1Gates, Bind.bind, Prog.bind, Prog.gets, hdown, if_true]
    rfl
  by_cases hcontext : (!w.svc.importReady || !(computeSnapshot D w.svc).supportsLeaseAdmission ||
      context.kl1ProfileVersion != kl1ProfileVersion || context.capabilityEpoch == 0) = true
  · refine ⟨.error (.businessKeyNotReady, refusal requestId domain .failed), {}, ?_, rfl,
      fun a ha => by cases ha⟩
    simp only [importKl1Gates, Bind.bind, Prog.bind, Prog.gets, hdown, hcontext, if_true,
      Bool.false_eq_true, if_false]
    rfl
  obtain ⟨r, k, hgates, hnows, hr⟩ := @importGates_eq D ω w requestId domain items
  refine ⟨r, k, ?_, hnows, fun a ha => by rw [← hr, ha]; rfl⟩
  rw [← hgates]
  exact importKl1Gates_eq (by simpa using hdown) (by simpa using hcontext)

private theorem binding_of_admittedRequest
    (h : admittedRequest D ω w requestId domain items = some a) :
    a.binding = ω.binding 0 := by
  unfold admittedRequest at h
  split_ifs at h
  split at h
  · cases h
  · obtain rfl := Option.some.inj h
    rfl

/-- A request that is rejected gets an error code, and nothing is changed for it. -/
private theorem importKl1_reply {rc : ErrorCode} {out : ImportResult} {identity : String}
    {k : Asked}
    (h : importKl1Decide D ω requestId domain items context { w with asked := {} } =
      .done (.reply rc out, identity) { w with asked := k }) :
    ∃ attach, callStep D w ⟨.importKl1 requestId domain items context, ω⟩ =
      ({ w with asked := k }, .resultKl1 rc out attach) := by
  refine ⟨{ snapshot := computeSnapshot D w.svc, requestIdentityDigest := identity }, ?_⟩
  have hrun : importKl1 D ω requestId domain items context { w with asked := {} } =
      .done (rc, out, { snapshot := computeSnapshot D w.svc, requestIdentityDigest := identity })
        { w with asked := k } := by
    unfold importKl1
    rw [Prog.gets_bind, Prog.bind_of_done h]
    rfl
  simp only [callStep, hrun]
  rfl

/-- **A request without a record** is rejected, or its checks have found what they must and the
operation is started. -/
theorem importKl1Decide_cases
    (hnew : (loadJournalEx D.platform w.prov (textDigest D.platform.crypto requestId)).status =
      .notFound) :
    (∃ rc out k, importKl1Decide D ω requestId domain items context { w with asked := {} } =
        .done (.reply rc out, "") { w with asked := k } ∧ rc ≠ .success) ∨
      ((∃ a k, importKl1Decide D ω requestId domain items context { w with asked := {} } =
        .done (.start a, "") { w with asked := k }) ∧ Kl1Gates D ω w items context) := by
  obtain ⟨r, k, hgates, hnows, hr⟩ := @importKl1Gates_run D ω w requestId domain items context
  unfold importKl1Decide
  rw [Prog.bind_of_done hgates]
  cases r with
  | error r =>
    refine .inl ⟨r.1, r.2, k, rfl, ?_⟩
    obtain ⟨r', k', hgates', hgated⟩ := @reads_importKl1Gates D ω { w with asked := {} } requestId
      domain items context
    rw [hgates] at hgates'
    injection hgates' with heq
    rw [← heq] at hgated
    exact hgated.1.1
  | ok a =>
    have hadmitted := hr a rfl
    obtain ⟨hdomain, hrows⟩ := rows_of_admittedRequest hadmitted
    dsimp only
    rw [Prog.gets_bind]
    simp only [id, ridDigest_of_admittedRequest hadmitted, hnew]
    split
    · exact .inl ⟨.businessKeyImportUnknown, refusal requestId domain .unknown, k, rfl, nofun⟩
    obtain ⟨k', hadmission⟩ := @kl1Admission_eq D ω w context a k hnows
    rw [Prog.bind_of_done hadmission]
    by_cases hrc : admissionCode D ω w a context = .success
    swap
    · rw [if_pos hrc]
      exact .inl ⟨_, refusal requestId domain .failed, k', rfl, hrc⟩
    rw [if_neg (not_not.mpr hrc)]
    refine .inr ⟨⟨a, k', rfl⟩, ?_⟩
    obtain ⟨hlease, hcovers, htrusted, hversions, hstill⟩ := admissionCode_eq_success_iff.mp hrc
    have hfirst := leaseCheck_eq_success_iff.mp hlease
    have hlast := leaseCheck_eq_success_iff.mp hstill
    rw [hfirst.trustedUpper, Option.getD_some] at hcovers
    obtain ⟨hitems, hcertificate⟩ := coversLease_iff.mp hcovers
    rw [hrows] at hitems
    rw [binding_of_admittedRequest hadmitted] at hcertificate
    -- the journal could be read, so the provider is ready
    have hready : w.prov.ready = true := by
      by_contra hno
      rw [Bool.not_eq_true] at hno
      simp [loadJournalEx, Provider.readable, hno] at hnew
    rw [hdomain, hrows] at hversions
    have hall := of_versionTimeCheck hready hversions
    exact ⟨hlast, hfirst, hitems, hcertificate, htrusted, fun it hit => (hall it hit).1,
      fun it hit => (hall it hit).2⟩

/-- **The gates.** Whatever the state of the daemon and the answers of its clock, a new request
changes something only if its checks have found what they must, the last of them at the third
sample; and a request that is rejected before `run_pipeline` leaves everything as it was. -/
theorem kl1_gates (D : Deployment) (w : World) (requestId domain : String)
    (items : List WrappedKeyItem) (context : KeyprovImportContext) (ω : Oracle)
    (hnew : (loadJournalEx D.platform w.prov (textDigest D.platform.crypto requestId)).status =
      .notFound) :
    (¬ Unchanged w (callStep D w ⟨.importKl1 requestId domain items context, ω⟩).1 →
      Kl1Gates D ω w items context) ∧
    ∀ rc out, (Label.mk (.importKl1 requestId domain items context) ω).decision D w =
        some (.reply rc out) →
      rc ≠ .success ∧
        (∃ attach, (callStep D w ⟨.importKl1 requestId domain items context, ω⟩).2 =
          .resultKl1 rc out attach) ∧
        Unchanged w (callStep D w ⟨.importKl1 requestId domain items context, ω⟩).1 := by
  rcases @importKl1Decide_cases D ω w requestId domain items context hnew with
    ⟨rc, out, k, hdecide, hrc⟩ | ⟨⟨a, k, hdecide⟩, hgates⟩
  · obtain ⟨attach, hstep⟩ := importKl1_reply hdecide
    have hunchanged : Unchanged w { w with asked := k } := unchanged_asked w k
    rw [hstep]
    refine ⟨fun hno => absurd hunchanged hno, fun rc' out' hdecision => ?_⟩
    simp only [Label.decision, hdecide] at hdecision
    cases hdecision
    exact ⟨hrc, ⟨attach, rfl⟩, hunchanged⟩
  · refine ⟨fun _ => hgates, fun rc out hdecision => ?_⟩
    simp only [Label.decision, hdecide] at hdecision
    cases hdecision

/-! ### The sample that is not checked -/

namespace Bench

/-- The clock goes past the bench lease between the third sample and the fourth. -/
def late : Oracle :=
  { calm with now := fun n => if n = 3 then { clock with utcNowMs := 2000 } else clock }

/-- What the bench call leaves when its fourth sample is `late`. -/
def lateStart : World :=
  (callStep daemonD ((daemon daemonD).run {} startUp)
    ⟨.importKl1 "A" businessDomainV2c (itemsOf "A" 1) (leaseAfter startUp), late⟩).1

set_option maxRecDepth 10000 in
/-- Before the call nothing is known of the request and nothing is committed; after it the keys
are, and the record of the request has the late start time. -/
private theorem lateStart_committed :
    (loadJournalEx daemonD.platform ((daemon daemonD).run {} startUp).prov
        (textDigest daemonD.platform.crypto "A")).status = .notFound ∧
      ¬ HasCommitted ((daemon daemonD).run {} startUp).disk ∧ HasCommitted lateStart.disk ∧
      (loadJournalEx daemonD.platform lateStart.prov
          (textDigest daemonD.platform.crypto "A")).entry.map
        (fun e => (e.phase, e.createdAtMs)) = some (.succeeded, (late.now 3).utcNowMs) := by
  decide +kernel

end Bench

open Bench in
/-- The gates at the first request of a fresh daemon. -/
theorem kl1_gates_first :
    Kl1Gates daemonD late ((daemon daemonD).run {} startUp) (itemsOf "A" 1)
      (leaseAfter startUp) := by
  obtain ⟨hnew, hbefore, hafter, -⟩ := lateStart_committed
  have hchanged : ¬ Unchanged ((daemon daemonD).run {} startUp) lateStart := by
    intro hunchanged
    rw [hunchanged.disk_eq] at hafter
    exact hbefore hafter
  exact (kl1_gates daemonD ((daemon daemonD).run {} startUp) "A" businessDomainV2c
    (itemsOf "A" 1) (leaseAfter startUp) late hnew).1 hchanged

open Bench in
/-- **An operation starts past its lease.** The last sample before `run_pipeline` is the fourth,
which gives the operation its start time: the record of `A` says so. It is trusted and its upper
bound is past the end of the lease, and still the keys are activated. -/
theorem start_past_lease :
    (loadJournalEx daemonD.platform ((daemon daemonD).run {} startUp).prov
        (textDigest daemonD.platform.crypto "A")).status = .notFound ∧
      ¬ HasCommitted ((daemon daemonD).run {} startUp).disk ∧
      (∃ e ∈ (loadJournalEx daemonD.platform lateStart.prov
          (textDigest daemonD.platform.crypto "A")).entry,
        e.phase = .succeeded ∧ e.createdAtMs = (late.now 3).utcNowMs) ∧
      HasCommitted lateStart.disk ∧
      (late.now 3).trustState = .trusted ∧
      ¬ (late.now 3).utcNowMs + (late.now 3).uncertaintyMs <
        (leaseAfter startUp).admissionExpireAtMs := by
  obtain ⟨hnew, hbefore, hafter, hentry⟩ := lateStart_committed
  obtain ⟨e, he, hvalues⟩ := Option.map_eq_some_iff.mp hentry
  obtain ⟨hphase, hcreated⟩ := Prod.mk.inj hvalues
  exact ⟨hnew, hbefore, ⟨e, he, hphase, hcreated⟩, hafter, by decide, by decide⟩

end TboxSec.Keyprov
