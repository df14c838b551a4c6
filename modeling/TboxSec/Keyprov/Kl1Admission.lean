import TboxSec.Keyprov.Convergence
import TboxSec.Keyprov.Evidence
import TboxSec.Keyprov.FailClosed
import TboxSec.Keyprov.Readiness

/-!
# Admission of a new request by `importKl1`

A request id that has no record is new to `import`. `importKl1` also wants the provider to hold
no **residue** of a transaction, and `hasTransactionResidue` counts a commit marker as one: with
a batch committed it cannot be proved that the request was never processed. So `importKl1` and
the queries take a request for new exactly **before the first commit**; from then on `importKl1`
refuses every new request as unknown, and `import` goes on.

* `transactionResidue_iff`: what counts as a residue, in terms of the provider's fields.
* `admissionCode` is the code of the admission in a healthy state, and `kl1Admission_eq` that the
  admission answers with it.
* `kl1_admits_until_commit` compares the two imports and a query on one request.
-/

namespace TboxSec.Keyprov

open Canonical Crash Prog Journal

variable {D : Deployment} {M : Set ImportRequest} {K : Bytes} {ω : Oracle} {w : World} {s : KSys}
  {l : Label}
  {past : List Label} {requestId domain : String} {items : List WrappedKeyItem}
  {context : KeyprovImportContext} {a : Admitted}

/-! ### The residue of a healthy daemon -/

/-- Initialised, ready for imports, the store readable, nothing staged, every record settled. -/
structure Healthy (w : World) : Prop where
  up : w.svc.shuttingDown = false
  importReady : w.svc.importReady = true
  readable : w.prov.readable = true
  unstaged : w.prov.state.staging.isEmpty = true
  settled : ∀ r js, w.prov.state.journal.find? r = some js → js.entry.phase.terminal = true

/-- No request made in the run has this request id; they are told apart by their digests. -/
def NeverUsed (D : Deployment) (past : List Label) (requestId : String) : Prop :=
  ∀ q ∈ requests past,
    textDigest D.platform.crypto q.requestId ≠ textDigest D.platform.crypto requestId

instance (w : World) : Decidable (Healthy w) :=
  decidable_of_iff
    (w.svc.shuttingDown = false ∧ w.svc.importReady = true ∧ w.prov.readable = true ∧
      w.prov.state.staging.isEmpty = true ∧
      ∀ b ∈ w.prov.state.journal.toList, b.2.entry.phase.terminal = true)
    ⟨fun ⟨hup, hready, hread, hstaging, hall⟩ => ⟨hup, hready, hread, hstaging, fun r js hjs =>
        hall (r, js) (OrdMap.mem_toList_iff.mpr hjs)⟩,
      fun h => ⟨h.up, h.importReady, h.readable, h.unstaged, fun b hb =>
        h.settled b.1 b.2 (OrdMap.mem_toList_iff.mp hb)⟩⟩

instance (D : Deployment) (past : List Label) (requestId : String) :
    Decidable (NeverUsed D past requestId) :=
  inferInstanceAs (Decidable (∀ q ∈ requests past, _))

/-- An active batch has been committed. -/
private theorem hasCommitted_of_pos (hlive : Live D M K w s) (hinv : Inv (scheme D) s)
    (hpos : 0 < s.mem.gen) : HasCommitted w.disk := by
  have hlatest : 0 < s.latest.gen := by
    rw [← (hinv.sync hlive.loaded).1]
    exact hpos
  obtain ⟨m, hm, hgen⟩ : ∃ m ∈ s.log, 0 < m.gen := by
    unfold Sys.latest at hlatest
    cases hlog : s.log with
    | nil =>
      rw [hlog] at hlatest
      exact absurd hlatest (lt_irrefl 0)
    | cons m rest =>
      rw [hlog] at hlatest
      exact ⟨m, List.mem_cons_self .., hlatest⟩
  obtain ⟨doc, hdoc, hsim⟩ := hlive.disk.exists_state hm
  refine ⟨doc, hdoc, ?_⟩
  -- a committed batch covers every required purpose, and there is one
  obtain ⟨p, hp⟩ := List.exists_mem_of_ne_nil _ D.service.requiredPurposes_ne
  have hshaped := ((hinv.docs m (List.mem_cons_of_mem _ hm)).shaped hgen p).mpr hp
  obtain ⟨i, hi⟩ := Option.isSome_iff_exists.mp hshaped
  obtain ⟨slot, hslot, -⟩ := hsim.slot p i hi
  refine Bool.eq_false_iff.mpr fun hempty => ?_
  rw [OrdMap.isEmpty_iff_find?.mp hempty p] at hslot
  cases hslot

/-- **The residue of a healthy daemon** is the first commit, whatever the request. -/
theorem transactionResidue_iff (hlive : Live D M K w s) (hinv : Inv (scheme D) s)
    (hhealthy : Healthy w) (r : String) :
    transactionResidue D w r = true ↔ HasCommitted w.disk := by
  constructor
  · intro hresidue
    by_contra hnone
    -- without a commit the generation is zero: no marker, no slot, no ledger record
    have h0 : s.mem.gen = 0 := by
      by_contra hne
      exact hnone (hasCommitted_of_pos hlive hinv (Nat.pos_of_ne_zero hne))
    have hprovider : hasTransactionResidue w.prov = false := by
      simp [hasTransactionResidue, hhealthy.readable, hhealthy.unstaged, hlive.mem.unmarked h0]
    have hposted : s.posted = some fun _ => none := by
      refine hinv.unposted ?_
      rw [← (hinv.sync hlive.loaded).1]
      exact h0
    have hledger : ∀ p ∈ D.service.requiredPurposes,
        ledgerGet w.ledger businessDomainV2c p = none :=
      fun p hp => (hlive.ledger _ hposted).none p hp rfl
    unfold transactionResidue at hresidue
    rw [hprovider, Bool.false_or, List.any_eq_true] at hresidue
    obtain ⟨p, hp, hfound⟩ := hresidue
    rw [hledger p hp] at hfound
    cases hfound
  · intro hcommitted
    have hmarker := commitMarker_ne hlive.mem (pos_of_hasCommitted hlive hinv hcommitted)
    simp [transactionResidue, hasTransactionResidue, hmarker]

/-- A request that was never made has no record. -/
private theorem entry_of_neverUsed (htraced : Traced (scheme D) (Origin D past) s)
    (hnew : NeverUsed D past requestId) :
    s.mem.entry (textDigest D.platform.crypto requestId) = none := by
  cases hentry : s.mem.entry (textDigest D.platform.crypto requestId) with
  | none => rfl
  | some e =>
    obtain ⟨q, hq, hdigest, -⟩ := (htraced s.mem (List.mem_cons_self ..)).1 _ e hentry
    exact absurd hdigest (hnew q hq)

/-! ### What `importKl1` decides -/

/-- The request passes every check of `importKl1` but that of its record: the gates, the time,
epoch and lease checks, the validity over the lease, the version check, and the time, epoch and
lease checks once more. -/
structure Kl1Passes (D : Deployment) (ω : Oracle) (w : World) (requestId domain : String)
    (items : List WrappedKeyItem) (context : KeyprovImportContext) (a : Admitted) : Prop where
  request : admittedRequest D ω w requestId domain items = some a
  snapshot : (computeSnapshot D w.svc).supportsLeaseAdmission = true
  profile : context.kl1ProfileVersion = kl1ProfileVersion
  epoch : context.capabilityEpoch ≠ 0
  lease : leaseCheck D w.svc context (trustedUpper (ω.now 0)) = .success
  covers : coversLease a context ((trustedUpper (ω.now 0)).getD 0) = true
  trusted : (ω.now 1).trustState = .trusted
  versions : versionTimeCheck D w.prov domain (ω.now 1).utcNowMs items = .success
  leaseStill : leaseCheck D w.svc context (trustedUpper (ω.now 2)) = .success

private theorem up_of_admittedRequest (h : admittedRequest D ω w requestId domain items = some a) :
    w.svc.shuttingDown = false ∧ D.service.enabled = true ∧
      validateStructure D.service requestId domain items = .success := by
  unfold admittedRequest at h
  split at h
  · cases h
  rename_i hgate
  split at h
  · cases h
  rename_i hstruct
  simp only [Bool.or_eq_true, not_or] at hgate
  exact ⟨by simpa using hgate.1.1, by simpa using hgate.1.2, not_not.mp hstruct⟩

theorem rows_of_admittedRequest (h : admittedRequest D ω w requestId domain items = some a) :
    a.businessDomain = domain ∧ a.rows.map Prod.fst = items := by
  unfold admittedRequest at h
  split at h
  · cases h
  split at h
  · cases h
  split at h
  · cases h
  split at h
  · cases h
  · rename_i rows hrows
    obtain rfl := Option.some.inj h
    exact ⟨rfl, (checkRows_ok hrows).1⟩

/-- Past its own gates, `importKl1` makes those of `import`. -/
theorem importKl1Gates_eq (hdown : (w.svc.shuttingDown || !D.service.enabled) = false)
    (hcontext : (!w.svc.importReady || !(computeSnapshot D w.svc).supportsLeaseAdmission ||
      context.kl1ProfileVersion != kl1ProfileVersion || context.capabilityEpoch == 0) = false) :
    importKl1Gates D ω requestId domain items context { w with asked := {} } =
      importGates D ω requestId domain items { w with asked := {} } := by
  have hready : w.svc.importReady = true := by
    simp only [Bool.or_eq_false_iff] at hcontext
    simpa using hcontext.1.1.1
  simp only [importKl1Gates, importGates, Bind.bind, Prog.bind, Prog.gets, hdown, hcontext,
    Bool.false_eq_true, if_false]
  simp only [hready, Bool.not_true, Bool.false_eq_true, if_false]
  rfl

/-- The code of the admission of a new request, over its three samples of the clock. -/
def admissionCode (D : Deployment) (ω : Oracle) (w : World) (a : Admitted)
    (context : KeyprovImportContext) : ErrorCode :=
  let lease n := leaseCheck D w.svc context (trustedUpper (ω.now n))
  let versions :=
    versionTimeCheck D w.prov a.businessDomain (ω.now 1).utcNowMs (a.rows.map Prod.fst)
  if lease 0 ≠ .success then lease 0
  else if !coversLease a context ((trustedUpper (ω.now 0)).getD 0) then .wrappedKeyInvalid
  else if (ω.now 1).trustState ≠ .trusted then .businessKeyNotReady
  else if versions ≠ .success then versions
  else lease 2

/-- The admission changes nothing. -/
theorem kl1Admission_eq {k : Asked} (hnows : k.nows = 0) :
    ∃ k', kl1Admission D ω a context { w with asked := k } =
      .done (admissionCode D ω w a context) { w with asked := k' } := by
  by_cases hlease : leaseCheck D w.svc context (trustedUpper (ω.now 0)) = .success
  swap
  · refine ⟨{ k with nows := 1 }, ?_⟩
    simp [kl1Admission, admissionCode, kl1TrustedUpperNow, trustedTimeNow, Bind.bind, Prog.bind,
      Prog.gets, Pure.pure, Prog.pure, hnows, hlease]
  by_cases hcovers : coversLease a context ((trustedUpper (ω.now 0)).getD 0) = true
  swap
  · refine ⟨{ k with nows := 1 }, ?_⟩
    simp [kl1Admission, admissionCode, kl1TrustedUpperNow, trustedTimeNow, Bind.bind, Prog.bind,
      Prog.gets, Pure.pure, Prog.pure, hnows, hlease, hcovers]
  -- the version check takes the second sample
  by_cases htrusted : (ω.now 1).trustState = .trusted
  swap
  · refine ⟨{ k with nows := 2 }, ?_⟩
    simp [kl1Admission, admissionCode, kl1TrustedUpperNow, validateVersionAndTime, trustedNowMs,
      trustedTimeNow, Bind.bind, Prog.bind, Prog.gets, Pure.pure, Prog.pure, hnows, hlease, hcovers,
      htrusted]
  by_cases hversions : versionTimeCheck D w.prov a.businessDomain (ω.now 1).utcNowMs
      (a.rows.map Prod.fst) = .success
  swap
  · refine ⟨{ k with nows := 2 }, ?_⟩
    simp [kl1Admission, admissionCode, kl1TrustedUpperNow, validateVersionAndTime, trustedNowMs,
      trustedTimeNow, Bind.bind, Prog.bind, Prog.gets, Pure.pure, Prog.pure, hnows, hlease, hcovers,
      htrusted, hversions]
  refine ⟨{ k with nows := 3 }, ?_⟩
  simp [kl1Admission, admissionCode, kl1TrustedUpperNow, validateVersionAndTime, trustedNowMs,
    trustedTimeNow, Bind.bind, Prog.bind, Prog.gets, Pure.pure, Prog.pure, hnows, hlease, hcovers,
    htrusted, hversions]

theorem admissionCode_eq_success_iff : admissionCode D ω w a context = .success ↔
    leaseCheck D w.svc context (trustedUpper (ω.now 0)) = .success ∧
      coversLease a context ((trustedUpper (ω.now 0)).getD 0) = true ∧
      (ω.now 1).trustState = .trusted ∧
      versionTimeCheck D w.prov a.businessDomain (ω.now 1).utcNowMs (a.rows.map Prod.fst) =
        .success ∧
      leaseCheck D w.svc context (trustedUpper (ω.now 2)) = .success := by
  constructor
  · intro h
    unfold admissionCode at h
    dsimp only at h
    split_ifs at h with hlease hcovers htrusted hversions
    · exact absurd h hlease
    · exact absurd h hversions
    · exact ⟨not_not.mp hlease, by simpa using hcovers, not_not.mp htrusted,
        not_not.mp hversions, h⟩
  · rintro ⟨hlease, hcovers, htrusted, hversions, hstill⟩
    simp [admissionCode, hlease, hcovers, htrusted, hversions, hstill]

/-- **`importKl1` decides** on a request without a record that passes its checks. -/
theorem decision_importKl1 (h : Kl1Passes D ω w requestId domain items context a)
    (hstatus : loadJournalEx D.platform w.prov (textDigest D.platform.crypto requestId) =
      { status := .notFound }) :
    (Label.mk (.importKl1 requestId domain items context) ω).decision D w =
      some (if transactionResidue D w (textDigest D.platform.crypto requestId) then
        .reply .businessKeyImportUnknown (refusal requestId domain .unknown)
      else .start a) := by
  obtain ⟨r, k, hgates, hnows, hr⟩ := importGates_eq (D := D) (ω := ω) (w := w)
  rw [h.request] at hr
  have hok : r = .ok a := by
    cases r with
    | error r => cases hr
    | ok a' =>
      obtain rfl := Option.some.inj hr
      rfl
  subst hok
  obtain ⟨hup, henabled, -⟩ := up_of_admittedRequest h.request
  have hready := importReady_of_admittedRequest h.request
  rw [← @importKl1Gates_eq D ω w requestId domain items context (by simp [hup, henabled])
    (by simp [hready, h.snapshot, h.profile, h.epoch])] at hgates
  have hrid := ridDigest_of_admittedRequest h.request
  obtain ⟨hdomain, hrows⟩ := rows_of_admittedRequest h.request
  obtain ⟨k', hadmission⟩ := @kl1Admission_eq D ω w context a k hnows
  rw [admissionCode_eq_success_iff.mpr ⟨h.lease, h.covers, h.trusted, by
    rw [hdomain, hrows]
    exact h.versions, h.leaseStill⟩] at hadmission
  have hresidue : transactionResidue D { w with asked := k } = transactionResidue D w := rfl
  have hdecide : ∃ w', importKl1Decide D ω requestId domain items context { w with asked := {} } =
      .done (if transactionResidue D w (textDigest D.platform.crypto requestId) then
        .reply .businessKeyImportUnknown (refusal requestId domain .unknown)
      else .start a, "") w' := by
    unfold importKl1Decide
    simp only [Bind.bind, Prog.bind, hgates, Prog.gets, id, hrid, hstatus, hresidue]
    split
    · exact ⟨_, rfl⟩
    · refine ⟨{ w with asked := k' }, ?_⟩
      unfold Prog.bind
      rw [hadmission]
      rfl
  obtain ⟨w', hdecide⟩ := hdecide
  simp only [Label.decision, hdecide]

/-- A request of the right structure can be queried. -/
private theorem queryChecks_of_validateStructure (hup : w.svc.shuttingDown = false)
    (henabled : D.service.enabled = true) (hready : w.svc.providerReady = true)
    (hstruct : validateStructure D.service requestId domain items = .success) :
    firstReject (queryChecks D w.svc requestId) = none := by
  unfold validateStructure at hstruct
  split at hstruct
  · rename_i rc hrej
    have hrefuse : Refuses rc := refuses_of_firstReject rfl hrej
    exact absurd hstruct hrefuse.1
  · rename_i hrej
    have hchecks := firstReject_eq_none_iff.mp hrej
    simp only [headChecks, List.forall_mem_cons] at hchecks
    simp [queryChecks, firstReject, hup, henabled, hready, hchecks.1, hchecks.2.1]

/-! ### Governance -/

/-- A part of what a program keeps is kept. -/
private theorem keeps_governance {α : Type} {m : SecM α} (h : Keeps (·.svc) m) :
    Keeps (·.svc.governanceRequired) m :=
  fun w => Prog.wp_mono (h w) (fun _ _ hsvc => congrArg Service.governanceRequired hsvc)
    fun _ hc => hc

private theorem keeps_loadOrGenerateKek (file : Option Bytes) :
    Keeps (·.svc) (loadOrGenerateKek ω file) := by
  intro w
  cases file with
  | none =>
    unfold Prog.wp loadOrGenerateKek generateKek
    split
    · rfl
    split
    · rfl
    simp only
    split
    · trivial
    · rfl
  | some file =>
    change (loadKek ω file w).Meets _ _
    unfold loadKek
    split
    · rfl
    split
    · rfl
    · rfl

private theorem keeps_loadState : Keeps (·.svc) (loadState ω) := by
  intro w
  unfold Prog.wp loadState
  split
  · rfl
  simp only
  split
  · rfl
  split
  · rfl
  · rfl

private theorem keeps_providerInitialize : Keeps (·.svc) (providerInitialize D.platform ω) := by
  unfold providerInitialize
  split
  · exact keeps_pure _
  refine Keeps.bind (keeps_modify fun _ => by rfl) fun _ => ?_
  split
  · exact keeps_pure _
  refine (keeps_gets _).bind fun file => (keeps_loadOrGenerateKek file).bind fun rc => ?_
  split
  · exact keeps_pure _
  refine Keeps.bind (keeps_modify fun _ => by rfl) fun _ => keeps_loadState.bind fun rc => ?_
  split
  · exact keeps_pure _
  · exact Keeps.bind (fun _ => rfl) fun _ => keeps_pure _

private theorem keeps_recoverEntries (es : List BusinessKeyJournalEntry) :
    Keeps (·.svc) (recoverEntries D ω es) := by
  induction es with
  | nil => exact keeps_pure _
  | cons e es ih =>
    unfold recoverEntries
    split
    · exact ih
    · exact (keeps_recoverEntry e).bind fun _ => ih

/-- `initialize` leaves the governance flag alone. -/
private theorem governance_serviceInitialize :
    Keeps (·.svc.governanceRequired) (serviceInitialize D ω) := by
  have hnotReady : ∀ rc, Keeps (·.svc.governanceRequired) (notReady rc) := fun rc w => rfl
  have hledger : Keeps (·.svc) (ledgerLoad ω) := by
    intro w
    unfold Prog.wp ledgerLoad
    split
    · rfl
    split
    · rfl
    split
    · rfl
    · rfl
  unfold serviceInitialize
  split
  · exact hnotReady _
  refine (keeps_governance keeps_providerInitialize).bind fun rc => ?_
  split
  · exact hnotReady _
  refine (keeps_governance hledger).bind fun rc => ?_
  split
  · exact hnotReady _
  refine Keeps.bind (keeps_governance ((keeps_gets _).bind fun _ => keeps_recoverEntries _))
    fun _ => ?_
  exact fun w => rfl

private theorem settle_crashed {α : Type} {reply : α → Reply} (hreply : ∀ a, reply a ≠ .crashed)
    {o : Outcome World Disk α} (h : (settle reply o).2 = .crashed) :
    (settle reply o).1.svc = {} := by
  cases o with
  | done a w => exact absurd h (hreply a)
  | crashed d => rfl

/-- After a crash there is no service. -/
private theorem svc_of_crashed (h : (callStep D w l).2 = .crashed) :
    (callStep D w l).1.svc = {} := by
  cases hl : l.call with
  | boot hsm bootNonce => simp [callStep, hl] at h
  | beginShutdown => simp [callStep, hl] at h
  | storeReady ready => simp [callStep, hl] at h
  | _ =>
    simp only [callStep, hl] at h ⊢
    exact settle_crashed (fun _ h => by cases h) h

/-- **Nothing sets the governance flag**: this provider never finds its storage replaced. -/
theorem governance_run (D : Deployment) (past : List Label) :
    ((daemon D).run {} past).svc.governanceRequired = false := by
  refine (daemon D).run_invariant (c := fun _ _ => True)
    (I := fun w => w.svc.governanceRequired = false) (fun w l h _ => ?_) rfl
    ((daemon D).along_true _ past)
  change (callStep D w l).1.svc.governanceRequired = false
  -- only a new process, `initialize` and a crash touch the service's own state
  by_cases hcrashed : (callStep D w l).2 = .crashed
  · rw [svc_of_crashed hcrashed]
  cases hl : l.call with
  | boot hsm bootNonce => simp only [callStep, hl, bootWorld]
  | init =>
    have hkeeps := governance_serviceInitialize (D := D) (ω := l.oracle) { w with asked := {} }
    simp only [callStep, hl]
    unfold Prog.wp at hkeeps
    cases hm : serviceInitialize D l.oracle { w with asked := {} } with
    | done rc w' =>
      rw [hm] at hkeeps
      exact hkeeps.trans h
    | crashed d => rfl
  | _ =>
    have hgo : GoesOn D w l := ⟨by rw [hl]; rfl, hcrashed⟩
    exact (congrArg Service.governanceRequired hgo.standing).trans h

/-- **`importKl1` admits a new request until the first commit.** In a healthy state a request that
passes the checks is started by the legacy import, and by `importKl1` only while nothing has been
committed: once a slot is ACTIVE the lookup counts it as the trace of a transaction, and can no
longer say that a request was never made. A query shows the same difference. -/
theorem kl1_admits_until_commit (D : Deployment) (past : List Label) (requestId domain : String)
    (items : List WrappedKeyItem) (context : KeyprovImportContext) (ω ω' : Oracle) (a : Admitted)
    (hhealthy : Healthy ((daemon D).run {} past)) (hnew : NeverUsed D past requestId)
    (himport : (admittedRequest D ω ((daemon D).run {} past) requestId domain items).isSome = true)
    (htimely : Timely D ω ((daemon D).run {} past) domain items)
    (hkl1 : Kl1Passes D ω' ((daemon D).run {} past) requestId domain items context a) :
    (∃ a', (Label.mk (.importBatch requestId domain items) ω).decision D
        ((daemon D).run {} past) = some (.start a')) ∧
      (Label.mk (.importKl1 requestId domain items context) ω').decision D
        ((daemon D).run {} past) =
        some (if HasCommitted ((daemon D).run {} past).disk then
          .reply .businessKeyImportUnknown (refusal requestId domain .unknown)
        else .start a) ∧
      ∀ ω'', (callStep D ((daemon D).run {} past) ⟨.getImportResult requestId, ω''⟩).2 =
        .result .success (refusal requestId businessDomainV2c
          (if HasCommitted ((daemon D).run {} past).disk then .unknown else .notFound)) := by
  obtain ⟨s, ⟨K, hsim⟩, htraced⟩ := exists_traced D past
  have hgovernance := governance_run D past
  generalize (daemon D).run {} past = w at *
  have hlive := hsim.live (hsim.importReady hhealthy.importReady)
  -- records come from requests of the run, so there is none
  have hentry := entry_of_neverUsed htraced hnew
  have hstatus : loadJournalEx D.platform w.prov (textDigest D.platform.crypto requestId) =
      { status := .notFound } := by
    rw [loadJournalEx_of_live hlive, if_pos hhealthy.readable, hentry]
  have hresidue := transactionResidue_iff hlive hsim.inv hhealthy
    (textDigest D.platform.crypto requestId)
  refine ⟨?_, ?_, fun ω'' => ?_⟩
  · obtain ⟨d, hdecision, hd⟩ := decision_importBatch (D := D) (ω := ω) (w := w)
    obtain ⟨a', ha'⟩ := Option.isSome_iff_exists.mp himport
    rw [ha'] at hd
    simp only [ridDigest_of_admittedRequest ha', loadJournal_eq, hstatus, if_pos htimely] at hd
    exact ⟨a', hdecision.trans (congrArg some hd)⟩
  · rw [decision_importKl1 hkl1 hstatus]
    simp only [hresidue]
  · obtain ⟨hup, henabled, hstruct⟩ := up_of_admittedRequest hkl1.request
    have hchecks : firstReject (queryChecks D w.svc requestId) = none :=
      queryChecks_of_validateStructure hup henabled (hsim.importReady hhealthy.importReady) hstruct
    have hrun : (callStep D w ⟨.getImportResult requestId, ω''⟩).2 =
        .result (queryJournal D w requestId).1 (queryJournal D w requestId).2.1 := by
      simp only [callStep, getImportResult, Bind.bind, Prog.bind, Prog.gets, id, hchecks]
      rfl
    rw [hrun, queryJournal_of_none hlive hhealthy.readable hentry, hgovernance, Bool.false_or]
    by_cases hcommitted : HasCommitted w.disk
    · rw [if_pos (hresidue.mpr hcommitted), if_pos hcommitted]
    · rw [if_neg (mt hresidue.mp hcommitted), if_neg hcommitted]

namespace Bench

/-- The lease under which the bench calls `importKl1` after `past`: it ends at 1000 ms. -/
def leaseAfter (past : List Label) : KeyprovImportContext :=
  { kl1ProfileVersion := kl1ProfileVersion
    capabilityEpoch := epoch daemonD ((daemon daemonD).run {} past).svc
    admissionExpireAtMs := 1000 }

/-- The items of the bench request `requestId`. -/
def itemsOf (requestId : String) (version : ℕ) : List WrappedKeyItem :=
  requestItems requestId businessDomainV2c version 0xaa

/-- A bench request that passes the checks of `importKl1`. -/
private theorem exists_kl1Passes (past : List Label) (requestId : String) (version : ℕ)
    (h : (admittedRequest daemonD calm ((daemon daemonD).run {} past) requestId businessDomainV2c
        (itemsOf requestId version)).any
          (fun a => coversLease a (leaseAfter past) ((trustedUpper clock).getD 0)) = true ∧
      (computeSnapshot daemonD ((daemon daemonD).run {} past).svc).supportsLeaseAdmission = true ∧
      leaseCheck daemonD ((daemon daemonD).run {} past).svc (leaseAfter past)
        (trustedUpper clock) = .success ∧
      (leaseAfter past).capabilityEpoch ≠ 0 ∧
      versionTimeCheck daemonD ((daemon daemonD).run {} past).prov businessDomainV2c 500
        (itemsOf requestId version) = .success) :
    ∃ a, Kl1Passes daemonD calm ((daemon daemonD).run {} past) requestId businessDomainV2c
      (itemsOf requestId version) (leaseAfter past) a := by
  obtain ⟨hcovers, hsnapshot, hlease, hepoch, hversions⟩ := h
  cases ha : admittedRequest daemonD calm ((daemon daemonD).run {} past) requestId
      businessDomainV2c (itemsOf requestId version) with
  | none =>
    rw [ha] at hcovers
    cases hcovers
  | some a =>
    rw [ha] at hcovers
    exact ⟨a, ha, hsnapshot, rfl, hepoch, hlease, hcovers, rfl, hversions, hlease⟩

end Bench

open Bench in
set_option maxRecDepth 10000 in
/-- Before the first commit `importKl1` admits the request `A`, and a query of it says NOT_FOUND. -/
theorem kl1_admits_first :
    ∃ a, (Label.mk (.importKl1 "A" businessDomainV2c (itemsOf "A" 1) (leaseAfter startUp))
        calm).decision daemonD ((daemon daemonD).run {} startUp) = some (.start a) := by
  obtain ⟨a, ha⟩ := exists_kl1Passes startUp "A" 1 (by decide +kernel)
  have h := (kl1_admits_until_commit daemonD startUp "A" businessDomainV2c (itemsOf "A" 1)
    (leaseAfter startUp) calm calm a (by decide +kernel) (by decide +kernel) (by decide +kernel)
    (by decide +kernel) ha).2.1
  rw [if_neg (by decide +kernel)] at h
  exact ⟨a, h⟩

namespace Bench

/-- The decision starts an operation. -/
def starts : Decision → Bool
  | .start _ => true
  | _ => false

set_option maxRecDepth 10000 in
/-- After the first commit, `import` still starts the request `B`. -/
private theorem start_committedRun :
    ∃ a, (Label.mk (importOf "B" 2) calm).decision daemonD
      ((daemon daemonD).run {} committedRun) = some (.start a) := by
  have hstart : (((Label.mk (importOf "B" 2) calm).decision daemonD
      ((daemon daemonD).run {} committedRun)).any starts) = true := by
    decide +kernel
  cases hd : (Label.mk (importOf "B" 2) calm).decision daemonD
      ((daemon daemonD).run {} committedRun) with
  | none =>
    rw [hd] at hstart
    cases hstart
  | some d =>
    rw [hd] at hstart
    cases d with
    | start a => exact ⟨a, rfl⟩
    | reply rc out => cases hstart
    | recover a e => cases hstart

end Bench

open Bench in
set_option maxRecDepth 10000 in
/-- **After the first commit `importKl1` refuses a new request that `import` admits.** The request
`B` rotates to a greater version and passes every check. -/
theorem kl1_locked_out :
    (Healthy ((daemon daemonD).run {} committedRun) ∧ NeverUsed daemonD committedRun "B" ∧
      ∃ a, Kl1Passes daemonD calm ((daemon daemonD).run {} committedRun) "B" businessDomainV2c
        (itemsOf "B" 2) (leaseAfter committedRun) a) ∧
      (∃ a, (Label.mk (importOf "B" 2) calm).decision daemonD
        ((daemon daemonD).run {} committedRun) = some (.start a)) ∧
      (Label.mk (.importKl1 "B" businessDomainV2c (itemsOf "B" 2) (leaseAfter committedRun))
        calm).decision daemonD ((daemon daemonD).run {} committedRun) =
          some (.reply .businessKeyImportUnknown (refusal "B" businessDomainV2c .unknown)) ∧
      (callStep daemonD ((daemon daemonD).run {} committedRun)
        ⟨.getImportResult "B", calm⟩).2 =
          .result .success (refusal "B" businessDomainV2c .unknown) := by
  -- the closed facts go to the kernel together, which then replays the run once
  have hfacts :
      (Healthy ((daemon daemonD).run {} committedRun) ∧ NeverUsed daemonD committedRun "B") ∧
        (Label.mk (.importKl1 "B" businessDomainV2c (itemsOf "B" 2) (leaseAfter committedRun))
          calm).decision daemonD ((daemon daemonD).run {} committedRun) =
            some (.reply .businessKeyImportUnknown (refusal "B" businessDomainV2c .unknown)) ∧
        (callStep daemonD ((daemon daemonD).run {} committedRun)
          ⟨.getImportResult "B", calm⟩).2 =
            .result .success (refusal "B" businessDomainV2c .unknown) := by
    decide +kernel
  exact ⟨⟨hfacts.1.1, hfacts.1.2, exists_kl1Passes committedRun "B" 2 (by decide +kernel)⟩,
    start_committedRun, hfacts.2.1, hfacts.2.2⟩

end TboxSec.Keyprov
