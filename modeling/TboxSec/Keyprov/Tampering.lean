import TboxSec.Keyprov.FailClosed

/-!
# A tampered record

A record on disk that fails its MAC check is to stay unknown. `listJournal` shows it to
`recover_on_startup` as an **empty record in phase UNKNOWN**, and recovery settles it like any
unfinished one: the first `initialize` that gets through replaces it by an authenticated record
in phase FAILED, and the next query reports that. Nothing of the tampering is left.

So the record stays unknown only if the service never starts at all.

* `Tampered` is a disk whose newest document holds a record with a MAC that does not verify, and
  `Replaced` one in which an authenticated record stands in its place.
* `wp_recoverEntries_settled`: the loop of the recovery settles every unfinished record.
* `replaced_after_restart`: one restart of an enabled service is enough.
-/

namespace TboxSec.Keyprov

open Canonical Crash Prog

variable {D : Deployment} {ω : Oracle} {w : World} {requestId : String}

/-- The newest document, of a supported format, has a record of the request that fails its MAC
check under the key file. -/
def Tampered (D : Deployment) (d : Disk) (requestId : String) : Prop :=
  ∃ file doc rest js, d.kek = some file ∧ kekSize ≤ file.length ∧ d.state = doc :: rest ∧
    doc.v ≤ supportedStateVersion ∧
    doc.state.journal.find? (textDigest D.platform.crypto requestId) = some js ∧
    js.macHex ≠ journalMac D.platform (deriveMacKey D.platform (file.take kekSize)) js.entry

/-- The newest document has an authenticated record of the request in a terminal phase. -/
def Replaced (D : Deployment) (d : Disk) (requestId : String) : Prop :=
  ∃ file doc e, d.kek = some file ∧ d.state.head? = some doc ∧ e.phase.terminal = true ∧
    doc.state.journal.find? (textDigest D.platform.crypto requestId) =
      some ⟨e, journalMac D.platform (deriveMacKey D.platform (file.take kekSize)) e⟩

/-- After every later sequence of calls, the record is not replaced and a query of it that is
answered says UNKNOWN. -/
structure StaysUnknown (D : Deployment) (w : World) (requestId : String) : Prop where
  kept : ∀ ls, ¬ Replaced D ((daemon D).run w ls).disk requestId
  answer : ∀ ls ω out,
    ((daemon D).step ((daemon D).run w ls) ⟨.getImportResult requestId, ω⟩).2 =
      .result .success out → out.state = .unknown

private theorem Tampered.not_replaced {d : Disk} (h : Tampered D d requestId) :
    ¬ Replaced D d requestId := by
  obtain ⟨file, doc, rest, js, hfile, -, hdocs, -, hjs, hmac⟩ := h
  rintro ⟨file', doc', e, hfile', hdoc', -, hfind⟩
  obtain rfl : file = file' := by
    rw [hfile] at hfile'
    exact Option.some.inj hfile'
  obtain rfl : doc = doc' := by
    rw [hdocs] at hdoc'
    exact Option.some.inj hdoc'
  rw [hjs] at hfind
  obtain rfl := Option.some.inj hfind
  exact hmac rfl

/-! ### Recovery at start-up -/

theorem Rewrites.refl (P : Platform) (w : World) : Rewrites P ω w w :=
  ⟨rfl, rfl, rfl, rfl, fun _ h => h, fun _ _ h => h⟩

/-- **The recovery loop** settles every unfinished record it is given. -/
theorem wp_recoverEntries_settled (hready : w.prov.ready = true)
    (es : List BusinessKeyJournalEntry) :
    Prog.wp (recoverEntries D ω es)
      (fun _ w' => Rewrites D.platform ω w w' ∧ ∀ e ∈ es, e.phase.terminal = false →
        Settled D.platform w'.prov e.requestIdDigest ∧
          (ω.Unfailing → w.prov.store = some true → w'.Current))
      (fun _ => ¬ ω.Unfailing) w := by
  induction es generalizing w with
  | nil => exact ⟨.refl D.platform w, fun e he => (by cases he)⟩
  | cons e es ih =>
    unfold recoverEntries
    cases hphase : e.phase.terminal with
    | true =>
      simp only [if_true]
      refine Prog.wp_mono (ih hready) (fun _ w' h => ⟨h.1, fun e' he' hopen => ?_⟩) fun _ h => h
      rcases List.mem_cons.mp he' with rfl | he'
      · rw [hphase] at hopen
        cases hopen
      · exact h.2 e' he' hopen
    | false =>
      simp only [Bool.false_eq_true, if_false]
      refine Prog.wp_bind.mpr (Prog.wp_mono (wp_recoverEntry_settled hready e) ?_ fun _ h => h)
      -- a later recovery keeps the records settled so far
      rintro e₁ w₁ ⟨h₁, hs₁, hcurrent₁⟩
      refine Prog.wp_mono (ih (h₁.ready.trans hready)) ?_ fun _ h => h
      rintro - w₂ ⟨h₂, hs₂⟩
      refine ⟨h₁.trans h₂, fun e' he' hopen => ?_⟩
      rcases List.mem_cons.mp he' with rfl | he'
      · refine ⟨h₂.settled _ hs₁, fun hω hstore => ?_⟩
        exact h₂.current hω (h₁.store.trans hstore) (hcurrent₁ hω hstore)
      · obtain ⟨hs, hcurrent⟩ := hs₂ e' he' hopen
        exact ⟨hs, fun hω hstore => hcurrent hω (h₁.store.trans hstore)⟩

/-- A record that fails its MAC check is listed as an unfinished one. -/
private theorem mem_listJournal_of_unauthentic {P : Platform} {prov : Provider} {r : String}
    {js : JournalStored} (hversion : prov.stateVersionUnknown = false)
    (hjs : prov.state.journal.find? r = some js)
    (hmac : js.macHex ≠ journalMac P prov.macKey js.entry) :
    { requestIdDigest := r, phase := .unknown } ∈ listJournal P prov := by
  unfold listJournal
  rw [hversion, if_neg (by simp)]
  refine List.mem_map.mpr ⟨(r, js), OrdMap.mem_toList_iff.mpr hjs, ?_⟩
  rw [listedEntry, if_neg hmac]

/-- What an unhindered `initialize` of the provider has loaded. -/
structure Loaded (D : Deployment) (file : Bytes) (doc : StateDoc) (w : World) : Prop where
  kek : w.disk.kek = some file
  ready : w.prov.ready = true
  store : w.prov.store = some true
  macKey : w.prov.macKey = deriveMacKey D.platform (file.take kekSize)
  version : w.prov.stateVersionUnknown = false
  journal : w.prov.state.journal = doc.state.journal

private theorem wp_providerInitialize_loaded {d : Disk} {file : Bytes} {doc : StateDoc}
    {rest : List StateDoc} (hfile : d.kek = some file) (hlength : kekSize ≤ file.length)
    (hdocs : d.state = doc :: rest) (hversion : doc.v ≤ supportedStateVersion) :
    Prog.wp (providerInitialize D.platform Bench.calm)
      (fun rc w => rc = .success ∧ Loaded D file doc w) (fun _ => False)
      (bootWorld d true 0) := by
  have hsupported : decide (doc.v > supportedStateVersion) = false := by simpa using hversion
  unfold providerInitialize
  refine Prog.wp_bind.mpr (Prog.wp_modify.mpr ?_)
  rw [if_neg (by simp)]
  refine Prog.wp_bind.mpr (Prog.wp_gets.mpr (Prog.wp_bind.mpr ?_))
  simp only [bootWorld, hfile, loadOrGenerateKek]
  unfold Prog.wp loadKek
  rw [if_neg (by simp [Bench.calm]), if_neg (not_lt.mpr hlength)]
  refine Prog.wp_bind.mpr (Prog.wp_modify.mpr (Prog.wp_bind.mpr ?_))
  unfold Prog.wp loadState
  simp only [ne_eq, not_true_eq_false, if_false, hdocs]
  rw [if_neg (by simp [Bench.calm]), Outcome.meets_done, if_neg (by simp)]
  refine ⟨rfl, hfile, rfl, rfl, rfl, hsupported, ?_⟩
  simp only
  split
  · rfl
  · rfl

/-- The end of `initialize` writes no document. -/
private theorem wp_finishInitialize_disk :
    Prog.wp (finishInitialize ω) (fun _ w' => w'.disk = w.disk) (fun _ => False) w := by
  refine Prog.wp_bind.mpr (Prog.wp_modify.mpr ?_)
  rfl

/-- **A restart replaces the tampered record.** -/
theorem replaced_after_restart (henabled : D.service.enabled = true)
    (h : Tampered D w.disk requestId) :
    Replaced D ((daemon D).run w [⟨.boot true 0, Bench.calm⟩, ⟨.init, Bench.calm⟩]).disk
      requestId := by
  obtain ⟨file, doc, rest, js, hfile, hlength, hdocs, hversion, hjs, hmac⟩ := h
  have hω : Bench.calm.Unfailing := ⟨fun _ => rfl, fun _ => rfl⟩
  have hwp : Prog.wp (serviceInitialize D Bench.calm)
      (fun _ w' => Replaced D w'.disk requestId) (fun _ => False) (bootWorld w.disk true 0) := by
    unfold serviceInitialize
    rw [if_neg (by simp [henabled])]
    refine Prog.wp_bind.mpr (Prog.wp_mono
      (wp_providerInitialize_loaded hfile hlength hdocs hversion) ?_ fun _ h => h)
    rintro - w₁ ⟨rfl, h₁⟩
    rw [if_neg (by simp)]
    have hledger : Prog.wp (ledgerLoad Bench.calm)
        (fun rc w₂ => rc = .success ∧ Loaded D file doc w₂) (fun _ => False) w₁ := by
      unfold Prog.wp ledgerLoad
      rw [if_neg (by simp [Bench.calm])]
      split
      · exact ⟨rfl, h₁⟩
      · rw [if_neg (by simp [Bench.calm])]
        exact ⟨rfl, h₁.kek, h₁.ready, h₁.store, h₁.macKey, h₁.version, h₁.journal⟩
    refine Prog.wp_bind.mpr (Prog.wp_mono hledger ?_ fun _ h => h)
    rintro - w₂ ⟨rfl, h₂⟩
    rw [if_neg (by simp)]
    refine Prog.wp_bind.mpr (Prog.wp_bind.mpr (Prog.wp_gets.mpr ?_))
    refine Prog.wp_mono (wp_recoverEntries_settled h₂.ready _) ?_ fun _ hno => hno hω
    rintro - w₃ ⟨h₃, hs₃⟩
    refine Prog.wp_mono wp_finishInitialize_disk ?_ fun _ h => h
    intro rc w₄ hdisk
    -- the tampered record is in the list that was recovered
    have hlisted := mem_listJournal_of_unauthentic (P := D.platform) h₂.version
      (by rw [h₂.journal]; exact hjs) (by rw [h₂.macKey]; exact hmac)
    obtain ⟨⟨e, hphase, hfind⟩, hcurrent⟩ := hs₃ _ hlisted rfl
    rw [h₃.macKey, h₂.macKey] at hfind
    rw [hdisk]
    exact ⟨file, ⟨1, w₃.prov.state⟩, e, h₃.kek.trans h₂.kek, hcurrent hω h₂.store, hphase, hfind⟩
  have hrun : (daemon D).run w [⟨.boot true 0, Bench.calm⟩, ⟨.init, Bench.calm⟩] =
      (settle .code (serviceInitialize D Bench.calm (bootWorld w.disk true 0))).1 := rfl
  rw [hrun]
  unfold Prog.wp at hwp
  cases hm : serviceInitialize D Bench.calm (bootWorld w.disk true 0) with
  | done rc w' =>
    rw [hm] at hwp
    exact hwp
  | crashed d =>
    rw [hm] at hwp
    exact hwp.elim

/-! ### A service that is not enabled -/

section Disabled

variable (henabled : D.service.enabled = false)

include henabled

private theorem importBatch_of_disabled {l : Label} {domain : String} {items : List WrappedKeyItem}
    (hl : l.call = .importBatch requestId domain items) :
    l.decision D w = some (.reply .businessKeyNotReady (refusal requestId domain .unknown)) := by
  simp [Label.decision, hl, importDecide, importGates, Bind.bind, Prog.bind, Prog.gets,
    Pure.pure, Prog.pure, henabled]

private theorem importKl1_of_disabled {l : Label} {domain : String} {items : List WrappedKeyItem}
    {context : KeyprovImportContext} (hl : l.call = .importKl1 requestId domain items context) :
    l.decision D w = some (.reply .businessKeyNotReady (refusal requestId domain .unknown)) := by
  simp [Label.decision, hl, importKl1Decide, importKl1Gates, Bind.bind, Prog.bind, Prog.gets,
    Pure.pure, Prog.pure, henabled]

/-- A disabled service refuses every query. -/
private theorem queryChecks_of_disabled :
    firstReject (queryChecks D w.svc requestId) = some .businessKeyNotReady := by
  cases hdown : w.svc.shuttingDown with
  | true => simp [queryChecks, firstReject, hdown]
  | false => simp [queryChecks, firstReject, hdown, henabled]

/-- **A disabled service writes nothing.** -/
theorem disk_step_of_disabled (l : Label) : ((daemon D).step w l).1.disk = w.disk := by
  change (callStep D w l).1.disk = w.disk
  cases hl : l.call with
  | boot hsm bootNonce => simp only [callStep, hl, bootWorld]
  | init =>
    simp [callStep, hl, serviceInitialize, notReady, henabled, Bind.bind, Prog.bind, Prog.modify,
      Pure.pure, Prog.pure, settle]
  | beginShutdown => simp only [callStep, hl]
  | importBatch rid domain items =>
    obtain ⟨⟨k, -, hsame⟩, -⟩ := unmoved_of_reply (importBatch_of_disabled (w := w) henabled hl)
    rw [hsame]
  | importKl1 rid domain items context =>
    obtain ⟨⟨k, -, hsame⟩, -⟩ := unmoved_of_reply (importKl1_of_disabled (w := w) henabled hl)
    rw [hsame]
  | getImportResult rid =>
    simp [callStep, hl, getImportResult, queryChecks_of_disabled henabled, Bind.bind, Prog.bind,
      Prog.gets, Pure.pure, Prog.pure, settle]
  | getImportResultKl1 rid =>
    simp [callStep, hl, getImportResultKl1, queryChecks_of_disabled henabled, Bind.bind, Prog.bind,
      Prog.gets, Pure.pure, Prog.pure, settle]
  | getStatus domain purposes =>
    simp [callStep, hl, getStatus, henabled, Bind.bind, Prog.bind, Prog.gets, Pure.pure, Prog.pure,
      settle]
  | storeReady ready => simp only [callStep, hl]

end Disabled

/-- **A tampered record stays unknown** exactly if the service is disabled. Recovery at the start is
shown an empty record in phase UNKNOWN in its place and settles it, so that an enabled service soon
has an authenticated record in phase FAILED there. -/
theorem tampered_stays_unknown_iff (D : Deployment) (w : World) (requestId : String)
    (h : Tampered D w.disk requestId) :
    StaysUnknown D w requestId ↔ D.service.enabled = false := by
  constructor
  · intro hstays
    by_contra henabled
    exact hstays.kept _ (replaced_after_restart (by simpa using henabled) h)
  · intro henabled
    have hdisk : ∀ ls, ((daemon D).run w ls).disk = w.disk := by
      intro ls
      refine (daemon D).run_invariant (c := fun _ _ => True) (I := fun w' => w'.disk = w.disk)
        (fun w' l hw' _ => (disk_step_of_disabled henabled l).trans hw') rfl
        ((daemon D).along_true _ ls)
    refine ⟨fun ls => ?_, fun ls ω out hreply => ?_⟩
    · rw [hdisk ls]
      exact h.not_replaced
    · exfalso
      change (callStep D _ _).2 = _ at hreply
      simp [callStep, getImportResult, queryChecks_of_disabled henabled, Bind.bind, Prog.bind,
        Prog.gets, Pure.pure, Prog.pure, settle] at hreply

namespace Bench

/-- A stored record of the request `A` that claims success under a wrong MAC. -/
def tamperedRecord : JournalStored :=
  ⟨{ requestIdDigest := textDigest crypto "A", phase := .succeeded, generation := 1 }, "00"⟩

/-- A disk with this record and a key file. -/
def tamperedDisk : Disk :=
  { state := [⟨1, { journal := OrdMap.empty.insert (textDigest crypto "A") tamperedRecord }⟩]
    kek := some (List.replicate 32 0x77) }

/-- The bench daemon, not enabled. -/
def disabledD : Deployment := { daemonD with service := ServiceConfig.ofConfig {} }

set_option maxRecDepth 10000 in
private theorem tampered_tamperedDisk : Tampered daemonD tamperedDisk "A" := by
  refine ⟨List.replicate 32 0x77, _, _, tamperedRecord, rfl, by decide, rfl, le_rfl, ?_, ?_⟩
  · decide
  · decide

end Bench

open Bench in
/-- With the service disabled the record stays as it is. -/
theorem tampered_stays_unknown_disabled :
    Tampered disabledD tamperedDisk "A" ∧ StaysUnknown disabledD { disk := tamperedDisk } "A" :=
  ⟨tampered_tamperedDisk, (tampered_stays_unknown_iff disabledD { disk := tamperedDisk } "A"
    tampered_tamperedDisk).mpr rfl⟩

open Bench in
set_option maxRecDepth 10000 in
/-- **After a restart the tampered record is reported as FAILED.** -/
theorem tampered_reported_failed :
    Tampered daemonD tamperedDisk "A" ∧ ¬ StaysUnknown daemonD { disk := tamperedDisk } "A" := by
  refine ⟨tampered_tamperedDisk, fun hstays => ?_⟩
  have hreply : ((daemon daemonD).step ((daemon daemonD).run { disk := tamperedDisk } startUp)
      ⟨.getImportResult "A", calm⟩).2 =
      .result .success (refusal "A" businessDomainV2c .failed) := by
    decide +kernel
  have hunknown := hstays.answer startUp calm _ hreply
  cases hunknown

end TboxSec.Keyprov
