import TboxSec.Keyprov.InitSpec

/-!
# The daemon refines the protocol

**Every call of the daemon, with every fault, is a path of the journalled batch protocol**
(`callStep_refines`). The policy of the path is read off the call: a request is taken up only
if the call decides to start a new operation, a record is certified only with the proofs of
that request, a record is settled by its generation only if the call recovers one that the
slots answer for, and a posting goes wrong only if a ledger put fails or the domain is not
`V2C_COMM`.

A reply that carries a result agrees with the journal in memory after the call (`Verdict`).
-/

namespace TboxSec.Keyprov

open Canonical Crash Journal Crash.Simulation

variable {D : Deployment} {M : Set ImportRequest} {π : KPolicy} {K : Bytes} {ω : Oracle}
  {w : World} {s : KSys}

/-! ### What a call licenses -/

/-- What a call may do beyond the steps that are always right. -/
def policyAt (D : Deployment) (w : World) (l : Label) (s : KSys) : KPolicy where
  start m r e := m = s.mem ∧ ∃ a now, l.decision D w = some (.start a) ∧ r = a.ridDigest ∧
    e = initialEntry D a (nextGeneration D w.prov) now
  certify r e := ∃ a, l.decision D w = some (.start a) ∧ r = a.ridDigest ∧
    EntryAttested D a.requestId e
  recover r e :=
    (∃ a, l.decision D w = some (.recover a e) ∧ bothActive D w.prov e.generation = true) ∨
    (l.call = .init ∧ (reloaded s).mem.entry r = some e ∧ phaseStatus e.phase = .pending ∧
      e.generation = (reloaded s).mem.gen ∧ 0 < (reloaded s).mem.gen)
  smudge := ¬ ((∀ n, l.oracle.put n = .ok) ∧
    ∀ a, l.decision D w = some (.start a) → a.businessDomain = businessDomainV2c)

/-! ### The parts of an import -/

/-- A journal lookup in a live provider: it finds what the journal has, if the store can be
read. -/
theorem loadJournalEx_of_live (h : Live D M K w s) (r : String) :
    loadJournalEx D.platform w.prov r =
      if w.prov.readable then
        match s.mem.entry r with
        | none => { status := .notFound }
        | some e => { status := .found, entry := some e }
      else { status := .ioError, providerError := .businessKeyNotReady } := by
  unfold loadJournalEx
  cases hread : w.prov.readable with
  | false => rfl
  | true =>
    rw [h.version, ← h.mem.entry r]
    cases hjs : w.prov.state.journal.find? r with
    | none => rfl
    | some js =>
      have hauth := h.mem.stored r js hjs
      simp [h.macKey, hauth.mac, hauth.rid]

/-- What `loadJournal` shows of a live provider is in the journal. -/
private theorem entry_of_loadJournal (h : Live D M K w s) {r : String} {e : BusinessKeyJournalEntry}
    (he : loadJournal D.platform w.prov r = some e) : s.mem.entry r = some e := by
  unfold loadJournal at he
  rw [loadJournalEx_of_live h] at he
  cases hread : w.prov.readable with
  | false =>
    rw [hread] at he
    cases he
  | true =>
    rw [hread] at he
    cases hentry : s.mem.entry r with
    | none =>
      rw [hentry] at he
      cases he
    | some e' =>
      rw [hentry] at he
      exact he

/-- The journal keeps a record's items apart. -/
private theorem nodup_of_entry (h : Live D M K w s) {r : String} {e : BusinessKeyJournalEntry}
    (he : s.mem.entry r = some e) :
    (e.items.map (·.purpose)).Nodup ∧ e.requestIdDigest = r ∧ e.phase ≠ .rollingBack := by
  obtain ⟨js, -, rfl, hauth⟩ := h.mem.find_of_entry he
  exact ⟨hauth.items, hauth.rid, hauth.phase⟩

/-- A refusal says nothing about the record. -/
private theorem verdict_of_refused {m : KDoc} {Own : String → Prop} {requestId ridDigest : String}
    {rc : ErrorCode} {out : ImportResult} (hstate : out.state ≠ .committed)
    (hrc : Refuses rc ∨ rc = .businessKeyImportUnknown ∧ out.state = .unknown) :
    Verdict m Own requestId ridDigest rc out where
  committed h := absurd h hstate
  own h := absurd h hstate
  failed h := by
    exfalso
    rcases hrc with ⟨h₁, h₂, h₃⟩ | ⟨rfl, hunknown⟩
    · rcases h with h | ⟨h | h, -⟩
      · exact h₂ h
      · exact h₁ h
      · exact h₃ h
    · rcases h with h | ⟨-, h⟩
      · cases h
      · rw [hunknown] at h
        cases h

/-- What the journal holds of the request `q` when its import answers. -/
abbrev ImportVerdict (D : Deployment) (m : KDoc) (q : ImportRequest) (rc : ErrorCode)
    (out : ImportResult) : Prop :=
  Verdict m (OwnDigest D q) q.requestId (textDigest D.platform.crypto q.requestId) rc out

/-- **The finishing part of an import** over a live daemon. -/
theorem finishImport_triple (hlive : Live D M K w s) (hinv : Inv (scheme D) s)
    (hb : s.busy = none) {q : ImportRequest} {d : Decision}
    (hq : q ∈ M) (hd : Decided D w q.requestId q.domain q.items d)
    (hstart : ∀ a now, d = .start a →
      π.start s.mem a.ridDigest (initialEntry D a (nextGeneration D w.prov) now))
    (hcertify : ∀ a e, d = .start a → EntryAttested D a.requestId e → π.certify a.ridDigest e)
    (hrecover : ∀ a e, d = .recover a e → bothActive D w.prov e.generation = true →
      π.recover e.requestIdDigest e)
    (hsmudge : ¬ ((∀ n, ω.put n = .ok) ∧
      ∀ a, d = .start a → a.businessDomain = businessDomainV2c) → π.smudge) :
    (simulation D M π K).Triple s w (finishImport D ω d)
      (fun r w' s' => w'.svc = w.svc ∧ ImportVerdict D s'.mem q r.1 r.2.1) := by
  cases hd with
  | refuse hstate hrc => exact Triple.pure hlive ⟨rfl, verdict_of_refused hstate hrc⟩
  | @known a e ha hready he =>
    have hentry := entry_of_loadJournal hlive he
    have hrid : a.ridDigest = textDigest D.platform.crypto q.requestId := by
      rw [ha.rid, ha.requestId]
    obtain ⟨hnodup, herid, hroll⟩ := nodup_of_entry hlive hentry
    -- the record decides: a conflict and a terminal record are answered at once
    by_cases hconflict : Conflicts a e
    · rw [existingDecision_of_conflict hconflict]
      exact Triple.pure hlive
        ⟨rfl, verdict_of_refused (by simp [refusal]) (.inl refuses_conflict)⟩
    have hown := ha.ownDigest hconflict
    rcases existingDecision_cases hconflict with ⟨hs, hd⟩ | ⟨hf, hd⟩ | ⟨hterm, hd⟩
    · rw [hd, ha.requestId]
      exact Triple.pure hlive ⟨rfl, verdict_of_succeeded (hrid ▸ hentry) hs hown⟩
    · rw [hd]
      exact Triple.pure hlive ⟨rfl, verdict_of_failed (hrid ▸ hentry) hf (by simp [refusal])⟩
    -- an unfinished record is settled first, and the reply is read off the settled record
    have hpending := phaseStatus_pending.mpr hterm
    rw [hd] at hstart hrecover hsmudge ⊢
    refine Triple.bind (recoverEntry_triple hlive hinv hb (by rw [herid]; exact hentry) hpending
      hnodup (hrecover a e rfl) fun hput => hsmudge fun h => hput h.1) ?_
    rintro e' w' s' - hlive' ⟨hsvc, hset⟩
    have hentry' : s'.mem.entry (textDigest D.platform.crypto q.requestId) = some e' := by
      rw [hset.mem, ← hrid, herid]
      exact Doc.put_entry_self ..
    have hverdict : ImportVerdict D s'.mem q (recoveredReply a e').1 (recoveredReply a e').2 := by
      unfold recoveredReply
      by_cases hs : e'.phase = .succeeded
      · rw [if_pos hs, ha.requestId]
        exact verdict_of_succeeded hentry' hs (hset.digest ▸ hown)
      · rw [if_neg hs]
        exact verdict_of_failed hentry' (hset.terminal.resolve_left hs) (by simp [refusal])
    exact Triple.pure hlive' ⟨hsvc, hverdict⟩
  | @start a ha hready he htime =>
    obtain ⟨now, htime⟩ := htime
    have hnext := nextGeneration_eq hlive.mem hlive.ready hinv.mem
    unfold finishImport startOperation
    refine Triple.gets_bind ?_
    refine Prog.wp_bind.mpr (wp_trustedNowMs fun t k => ?_)
    -- the version check is what makes the batch newer than the active one
    have hnewer := newer_of_versionTimeCheck hlive.mem hlive.ready ha.items htime a.businessDomain
    refine Triple.bind (runPipeline_triple ha.toAdmittedOk (ha.request_eq ▸ hq) (hlive.asked k)
      hinv hb hnext hnewer (hstart a _ rfl) (fun e => hcertify a e rfl)
      fun hn => hsmudge fun h => hn ⟨h.1, h.2 a rfl⟩) ?_
    rintro ⟨rc, out⟩ w' s' - hlive' ⟨hsvc, hverdict⟩
    refine Triple.pure hlive' ⟨hsvc, ?_⟩
    rw [ha.rid, ha.requestId] at hverdict
    exact hverdict.mono fun d hd => ⟨a, ha, .inr hd⟩

theorem Decided.asked {requestId domain : String} {items : List WrappedKeyItem} {d : Decision}
    (h : Decided D w requestId domain items d) (k : Asked) :
    Decided D { w with asked := k } requestId domain items d := by
  cases h with
  | refuse hstate hrc => exact .refuse hstate hrc
  | known ha hready he => exact .known ha hready he
  | start ha hready he htime => exact .start ha hready he htime

theorem SimAt.asked (h : SimAt D M K w s) (k : Asked) : SimAt D M K { w with asked := k } s :=
  ⟨h.inv, h.disk, h.mem, h.unkeyed, fun hp => (h.live hp).asked k, h.ledger, h.importReady,
    h.busy⟩

/-- What a call leaves behind when it is cut short. -/
def CrashPost (D : Deployment) (M : Set ImportRequest) (π : KPolicy) (s : KSys) (d : Disk) : Prop :=
  ∃ K s', Steps (scheme D) π s s' ∧ Inv (scheme D) s' ∧ DiskSim D M K d s'

/-- **The finishing part of an import**, over any daemon. -/
theorem wp_finishImport (h : SimAt D M K w s) {q : ImportRequest} {d : Decision}
    (hq : q ∈ M) (hd : Decided D w q.requestId q.domain q.items d)
    (hstart : ∀ a now, d = .start a →
      π.start s.mem a.ridDigest (initialEntry D a (nextGeneration D w.prov) now))
    (hcertify : ∀ a e, d = .start a → EntryAttested D a.requestId e → π.certify a.ridDigest e)
    (hrecover : ∀ a e, d = .recover a e → bothActive D w.prov e.generation = true →
      π.recover e.requestIdDigest e)
    (hsmudge : ¬ ((∀ n, ω.put n = .ok) ∧
      ∀ a, d = .start a → a.businessDomain = businessDomainV2c) → π.smudge) :
    Prog.wp (finishImport D ω d)
      (fun r w' => ∃ s', Steps (scheme D) π s s' ∧ Sim D M w' s' ∧
        ImportVerdict D s'.mem q r.1 r.2.1)
      (CrashPost D M π s) w := by
  have hlive_case : w.svc.importReady = true →
      Prog.wp (finishImport D ω d)
        (fun r w' => ∃ s', Steps (scheme D) π s s' ∧ Sim D M w' s' ∧
          ImportVerdict D s'.mem q r.1 r.2.1)
        (CrashPost D M π s) w := by
    intro hready
    have hlive := h.live (h.importReady hready)
    refine Prog.wp_mono (finishImport_triple hlive h.inv h.busy hq hd hstart hcertify hrecover
      hsmudge) ?_ ?_
    · rintro r w' ⟨s', hpath, hlive', hsvc, hverdict⟩
      -- the work on the request ends with the call
      have hpath' : Steps (scheme D) π s { s' with busy := none } := hpath.tail .unlock
      have hlive'' : Live D M K w' { s' with busy := none } :=
        ⟨hlive'.disk.congr rfl rfl, hlive'.mem, hlive'.keyed, hlive'.ready, hlive'.loaded,
          hlive'.kek, hlive'.macKey, hlive'.version, hlive'.ledger⟩
      refine ⟨_, hpath', ⟨K, hlive''.simAt (inv_steps hpath' h.inv) rfl ?_⟩, hverdict⟩
      rw [hsvc]
      exact h.importReady
    · rintro dsk ⟨s', hpath, hdisk⟩
      exact ⟨K, s', hpath, inv_steps hpath h.inv, hdisk⟩
  cases hd with
  | refuse hstate hrc => exact ⟨s, .refl, ⟨K, h⟩, verdict_of_refused hstate hrc⟩
  | known ha hready he => exact hlive_case hready
  | start ha hready he htime => exact hlive_case hready

/-! ### Queries -/

section Query

variable (h : Live D M K w s) {requestId : String}

include h

theorem queryJournal_of_not_readable (hread : w.prov.readable = false) :
    queryJournal D w requestId =
      (.businessKeyNotReady, refusal requestId businessDomainV2c .unknown, "") := by
  simp [queryJournal, loadJournalEx_of_live h, hread]

theorem queryJournal_of_none (hread : w.prov.readable = true)
    (hentry : s.mem.entry (textDigest D.platform.crypto requestId) = none) :
    queryJournal D w requestId =
      if w.svc.governanceRequired ||
          transactionResidue D w (textDigest D.platform.crypto requestId) then
        (.success, refusal requestId businessDomainV2c .unknown, "")
      else (.success, refusal requestId businessDomainV2c .notFound, "") := by
  simp [queryJournal, loadJournalEx_of_live h, hread, hentry, refusal]

theorem queryJournal_of_some (hread : w.prov.readable = true) {e : BusinessKeyJournalEntry}
    (hentry : s.mem.entry (textDigest D.platform.crypto requestId) = some e) :
    queryJournal D w requestId =
      if e.phase = .succeeded then
        (.success, buildCommittedResult requestId e, e.requestDigest)
      else
        (.success,
          { refusal requestId businessDomainV2c (importStateFromPhase e.phase) with
            items := e.items
            providerVersionDigest := e.providerVersionDigest },
          e.requestDigest) := by
  simp [queryJournal, loadJournalEx_of_live h, hread, hentry, refusal]

/-- **A query** agrees with the journal in memory. -/
theorem verdict_queryJournal (requestId : String) :
    Verdict s.mem (fun _ => True) requestId (textDigest D.platform.crypto requestId)
      (queryJournal D w requestId).1 (queryJournal D w requestId).2.1 := by
  cases hread : w.prov.readable with
  | false =>
    rw [queryJournal_of_not_readable h hread]
    exact verdict_of_refused (by simp [refusal]) (.inl refuses_notReady)
  | true =>
    cases hentry : s.mem.entry (textDigest D.platform.crypto requestId) with
    | none =>
      rw [queryJournal_of_none h hread hentry]
      split
      · exact ⟨fun hc => (by cases hc), fun hc => (by cases hc),
          fun hf => (by rcases hf with hf | ⟨-, hf⟩ <;> cases hf)⟩
      · exact ⟨fun hc => (by cases hc), fun hc => (by cases hc),
          fun hf => (by rcases hf with hf | ⟨-, hf⟩ <;> cases hf)⟩
    | some e =>
      obtain ⟨-, -, hroll⟩ := nodup_of_entry h hentry
      rw [queryJournal_of_some h hread hentry]
      split
      · rename_i hs
        exact verdict_of_succeeded hentry hs trivial
      · rename_i hs
        refine ⟨fun hc => ?_, fun _ _ _ => trivial, fun hf => ⟨e, hentry, ?_⟩⟩
        · exfalso
          have hstate : importStateFromPhase e.phase = .committed := hc
          cases hphase : e.phase <;> simp_all [importStateFromPhase]
        · have hstate : importStateFromPhase e.phase = .failed := by
            rcases hf with hf | ⟨-, hf⟩
            · cases hf
            · exact hf
          cases hphase : e.phase <;> simp_all [importStateFromPhase]

end Query

private theorem refuses_of_queryChecks {svc : Service} {requestId : String} {rc : ErrorCode}
    (h : firstReject (queryChecks D svc requestId) = some rc) : Refuses rc :=
  refuses_of_firstReject rfl h

theorem providerReady_of_queryChecks {svc : Service} {requestId : String}
    (h : firstReject (queryChecks D svc requestId) = none) : svc.providerReady = true := by
  have hchecks := firstReject_eq_none_iff.mp h
  simp only [queryChecks, List.forall_mem_cons, Bool.or_eq_false_iff, Bool.not_eq_false'] at hchecks
  exact hchecks.2.1.2

private theorem reads_getImportResult (h : SimAt D M K w s) (requestId : String) :
    Reads (getImportResult D requestId) w fun r =>
      Verdict s.mem (fun _ => True) requestId (textDigest D.platform.crypto requestId) r.1 r.2 := by
  unfold getImportResult
  refine Reads.gets_bind ?_
  simp only [id]
  split
  · rename_i rc hrej
    exact .pure (verdict_of_refused (by simp) (.inl (refuses_of_queryChecks hrej)))
  · rename_i hrej
    exact .pure (verdict_queryJournal (h.live (providerReady_of_queryChecks hrej)) requestId)

private theorem reads_getImportResultKl1 (h : SimAt D M K w s) (requestId : String) :
    Reads (getImportResultKl1 D ω requestId) w fun r =>
      Verdict s.mem (fun _ => True) requestId (textDigest D.platform.crypto requestId)
        r.1 r.2.1 := by
  unfold getImportResultKl1
  refine Reads.gets_bind ?_
  simp only [id]
  split
  · rename_i rc hrej
    exact .pure (verdict_of_refused (by simp) (.inl (refuses_of_queryChecks hrej)))
  · rename_i hrej
    refine reads_trustedNowMs.bind fun t k _ => ?_
    exact .pure (verdict_queryJournal (h.live (providerReady_of_queryChecks hrej)) requestId)

private theorem reads_getStatus (domain : String) (purposes : List String) :
    Reads (getStatus D domain purposes) w fun _ => True := by
  unfold getStatus
  refine Reads.gets_bind ?_
  simp only [id]
  split
  · exact .pure trivial
  split
  · exact .pure trivial
  split
  · exact .pure trivial
  · exact .pure trivial

/-! ### Every call -/

/-- The request digests that the call takes for its own; a query takes any. -/
def Label.Own (D : Deployment) (l : Label) (d : String) : Prop :=
  ∀ q, l.call.importRequest = some q → OwnDigest D q d

/-- What a call leaves: a state of the protocol reached under the policy the call licenses, a
reply that agrees with it, and after `initialize` no pending record. -/
structure CallPost (D : Deployment) (M : Set ImportRequest) (w : World) (l : Label) (s s' : KSys)
    (r : World × Reply) : Prop where
  steps : Steps (scheme D) (policyAt D w l s) s s'
  sim : Sim D M r.1 s'
  verdict : ∀ rid rc out, l.call.requestId = some rid → r.2.importResult = some (rc, out) →
    Verdict s'.mem (l.Own D) rid (textDigest D.platform.crypto rid) rc out
  clean : l.call = .init → CleanStart r.1 s'

/-- The end of a call, finished or cut short. -/
theorem settle_of_wp {α : Type} {m : SecM α} {reply : α → Reply} {Q : α → World → Prop}
    {C : Disk → Prop} {P : World × Reply → Prop} (h : Prog.wp m Q C w)
    (hQ : ∀ a w', Q a w' → P (w', reply a)) (hC : ∀ d, C d → P (deadWorld d, .crashed)) :
    P (settle reply (m w)) := by
  unfold Prog.wp at h
  cases hm : m w with
  | done a w' => rw [hm] at h; exact hQ a w' h
  | crashed d => rw [hm] at h; exact hC d h

/-- A crash is a step of the protocol. -/
private theorem callPost_of_crash {l : Label} {d : Disk}
    (h : CrashPost D M (policyAt D w l s) s d) :
    ∃ s', CallPost D M w l s s' (deadWorld d, .crashed) := by
  obtain ⟨K, s', hpath, hinv, hdisk⟩ := h
  refine ⟨_, hpath.tail .crash, ⟨K, ?_⟩, fun rid rc out _ hr => (by cases hr), fun _ hp => ?_⟩
  · exact (hdisk.idle (w := deadWorld d) hinv rfl rfl rfl).simAt rfl rfl
  · cases hp

/-- A call that is about no request and does not initialise. -/
private theorem callPost_of_sim {l : Label} {s' : KSys} {r : World × Reply}
    (hsteps : Steps (scheme D) (policyAt D w l s) s s') (hsim : Sim D M r.1 s')
    (hrid : l.call.requestId = none) (hinit : l.call ≠ .init) : CallPost D M w l s s' r where
  steps := hsteps
  sim := hsim
  verdict := fun rid rc out hsome => absurd (hrid.symm.trans hsome) (by simp)
  clean := fun hi => absurd hi hinit

/-- A call that only reads. -/
private theorem callPost_of_reads {α : Type} {m : SecM α} {reply : α → Reply} {P : α → Prop}
    {l : Label}
    (h : SimAt D M K w s) (hm : Reads m { w with asked := {} } P) (hinit : l.call ≠ .init)
    (hreply : ∀ r rid rc out, P r → l.call.requestId = some rid →
      (reply r).importResult = some (rc, out) →
      Verdict s.mem (l.Own D) rid (textDigest D.platform.crypto rid) rc out) :
    CallPost D M w l s s (settle reply (m { w with asked := {} })) := by
  obtain ⟨r, k, hrun, hr⟩ := hm
  rw [hrun]
  exact ⟨.refl, ⟨K, h.asked k⟩, fun rid rc out => hreply r rid rc out hr,
    fun hi => absurd hi hinit⟩

/-- The finishing part of an import, under the policy its call licenses. -/
private theorem wp_finishImport_policyAt (h : SimAt D M K w s) {l : Label} {q : ImportRequest}
    (hq : q ∈ M) {d : Decision} (hd : Decided D w q.requestId q.domain q.items d)
    (hdecision : l.decision D w = some d) (k : Asked) :
    Prog.wp (finishImport D l.oracle d)
      (fun r w' => ∃ s', Steps (scheme D) (policyAt D w l s) s s' ∧ Sim D M w' s' ∧
        ImportVerdict D s'.mem q r.1 r.2.1)
      (CrashPost D M (policyAt D w l s) s) { w with asked := k } := by
  refine wp_finishImport (h.asked k) hq (hd.asked k) ?_ ?_ ?_ ?_
  · rintro a now rfl
    exact ⟨rfl, a, now, hdecision, rfl, rfl⟩
  · rintro a e rfl hattested
    exact ⟨a, hdecision, rfl, hattested⟩
  · rintro a e rfl hboth
    exact .inl ⟨a, hdecision, hboth⟩
  · intro hn
    refine fun hall => hn ⟨hall.1, fun a ha => hall.2 a ?_⟩
    rw [hdecision, ha]

/-- The end of an import, finished or cut short. -/
private theorem callPost_of_verdict {α : Type} {m : SecM α} {reply : α → Reply}
    {code : α → ErrorCode}
    {result : α → ImportResult} {l : Label} {q : ImportRequest}
    (hq : l.call.importRequest = some q) (hinit : l.call ≠ .init)
    (hreply : ∀ a, (reply a).importResult = some (code a, result a))
    (hwp : Prog.wp m
      (fun a w' => ∃ s', Steps (scheme D) (policyAt D w l s) s s' ∧ Sim D M w' s' ∧
        ImportVerdict D s'.mem q (code a) (result a))
      (CrashPost D M (policyAt D w l s) s) { w with asked := {} }) :
    ∃ s', CallPost D M w l s s' (settle reply (m { w with asked := {} })) := by
  refine settle_of_wp (P := fun r => ∃ s', CallPost D M w l s s' r) hwp ?_
    (fun d hd => callPost_of_crash hd)
  rintro a w' ⟨s', hpath, hsim, hverdict⟩
  refine ⟨s', hpath, hsim, fun rid rc out hrid' hres => ?_, fun hi => absurd hi hinit⟩
  obtain rfl : q.requestId = rid :=
    Option.some.inj ((Call.requestId_of_importRequest hq).symm.trans hrid')
  obtain ⟨rfl, rfl⟩ : code a = rc ∧ result a = out :=
    Prod.mk.inj (Option.some.inj ((hreply a).symm.trans hres))
  refine hverdict.mono fun d hd q' hq' => ?_
  rwa [← Option.some.inj (hq.symm.trans hq')]

/-- **The legacy import.** -/
theorem callPost_importBatch (h : SimAt D M K w s) {l : Label} {requestId domain : String}
    {items : List WrappedKeyItem} (hl : l.call = .importBatch requestId domain items)
    (hq : ⟨requestId, domain, items⟩ ∈ M) :
    ∃ s', CallPost D M w l s s' (callStep D w l) := by
  have hreads : Reads (importDecide D l.oracle requestId domain items) { w with asked := {} }
      (Decided D { w with asked := {} } requestId domain items) := reads_importDecide
  obtain ⟨d, k, hrun, hd⟩ := hreads
  have hdecision : l.decision D w = some d := by
    simp only [Label.decision, hl, hrun]
  have hwp : Prog.wp (importBatch D l.oracle requestId domain items)
      (fun r w' => ∃ s', Steps (scheme D) (policyAt D w l s) s s' ∧ Sim D M w' s' ∧
        ImportVerdict D s'.mem ⟨requestId, domain, items⟩ r.1 r.2)
      (CrashPost D M (policyAt D w l s) s) { w with asked := {} } := by
    refine Prog.wp_bind.mpr ?_
    unfold Prog.wp
    rw [hrun]
    refine Prog.wp_bind.mpr (Prog.wp_mono
      (wp_finishImport_policyAt h hq (hd.asked w.asked) hdecision k)
      ?_ fun _ hc => hc)
    rintro ⟨rc, out, now⟩ w' hpost
    exact hpost
  have hstep : callStep D w l =
      settle (fun a => .result a.1 a.2)
        (importBatch D l.oracle requestId domain items { w with asked := {} }) := by
    simp only [callStep, hl]
  rw [hstep]
  exact callPost_of_verdict (q := ⟨requestId, domain, items⟩) (by rw [hl]; rfl) (by simp [hl])
    (fun _ => rfl) hwp

/-- **The KL1 import.** -/
theorem callPost_importKl1 (h : SimAt D M K w s) {l : Label} {requestId domain : String}
    {items : List WrappedKeyItem} {context : KeyprovImportContext}
    (hl : l.call = .importKl1 requestId domain items context)
    (hq : ⟨requestId, domain, items⟩ ∈ M) :
    ∃ s', CallPost D M w l s s' (callStep D w l) := by
  have hreads : Reads (importKl1Decide D l.oracle requestId domain items context)
      { w with asked := {} }
      (fun r => Decided D { w with asked := {} } requestId domain items r.1) :=
    reads_importKl1Decide
  obtain ⟨⟨d, identity⟩, k, hrun, hd⟩ := hreads
  have hdecision : l.decision D w = some d := by
    simp only [Label.decision, hl, hrun]
  have hwp : Prog.wp (importKl1 D l.oracle requestId domain items context)
      (fun r w' => ∃ s', Steps (scheme D) (policyAt D w l s) s s' ∧ Sim D M w' s' ∧
        ImportVerdict D s'.mem ⟨requestId, domain, items⟩ r.1 r.2.1)
      (CrashPost D M (policyAt D w l s) s) { w with asked := {} } := by
    refine Prog.wp_bind.mpr (Prog.wp_gets.mpr (Prog.wp_bind.mpr ?_))
    unfold Prog.wp
    rw [hrun]
    refine Prog.wp_bind.mpr (Prog.wp_mono
      (wp_finishImport_policyAt h hq (hd.asked w.asked) hdecision k)
      ?_ fun _ hc => hc)
    rintro ⟨rc, out, now⟩ w' hpost
    -- the attachment depends on the decision, the verdict does not
    dsimp only
    cases d with
    | start a =>
      change Prog.wp (if rc = .success then _ else _) _ _ w'
      split
      · exact hpost
      · exact hpost
    | reply rc' out' => exact hpost
    | recover a e => exact hpost
  have hstep : callStep D w l =
      settle (fun a => .resultKl1 a.1 a.2.1 a.2.2)
        (importKl1 D l.oracle requestId domain items context { w with asked := {} }) := by
    simp only [callStep, hl]
  rw [hstep]
  exact callPost_of_verdict (q := ⟨requestId, domain, items⟩) (by rw [hl]; rfl) (by simp [hl])
    (fun _ => rfl) hwp

/-- **`initialize`.** -/
theorem callPost_init (h : SimAt D M K w s) {l : Label} (hl : l.call = .init) :
    ∃ s', CallPost D M w l s s' (callStep D w l) := by
  have hnone : l.decision D w = none := by simp only [Label.decision, hl]
  have hwp := wp_serviceInitialize (π := policyAt D w l s) (ω := l.oracle) (h.asked {}).idle
    (fun r e he hp hg hpos => .inr ⟨hl, he, hp, hg, hpos⟩)
    (fun hn => fun hall => hn hall.1)
  have hstep : callStep D w l =
      settle .code (serviceInitialize D l.oracle { w with asked := {} }) := by
    simp only [callStep, hl]
  rw [hstep]
  refine settle_of_wp (P := fun r => ∃ s', CallPost D M w l s s' r) hwp ?_ fun d hd => ?_
  · rintro rc w' ⟨K', s', hpath, hsim, hclean⟩
    exact ⟨s', hpath, ⟨K', hsim⟩, fun rid rc out _ hr => (by cases hr), fun _ => hclean⟩
  · exact callPost_of_crash hd

/-- **The daemon refines the protocol**, as long as the requests made are in `M`. -/
theorem callStep_refines (h : Sim D M w s) (l : Label)
    (hq : ∀ q, l.call.importRequest = some q → q ∈ M) :
    ∃ s', CallPost D M w l s s' (callStep D w l) := by
  obtain ⟨K, h⟩ := h
  cases hl : l.call with
  | boot hsm bootNonce =>
    -- a new process starts from the disk alone, as after a crash
    refine ⟨_, callPost_of_sim (.single .crash) ⟨K, ?_⟩ (by rw [hl]; rfl) (by simp [hl])⟩
    simp only [callStep, hl]
    exact (h.disk.idle (w := bootWorld w.disk hsm bootNonce) h.inv rfl rfl rfl).simAt rfl rfl
  | init => exact callPost_init h hl
  | beginShutdown =>
    refine ⟨s, callPost_of_sim .refl ⟨K, ?_⟩ (by rw [hl]; rfl) (by simp [hl])⟩
    simp only [callStep, hl]
    have h' := h.asked {}
    exact ⟨h'.inv, h'.disk, h'.mem, h'.unkeyed, fun hp => (h'.live hp).svc _, h'.ledger,
      h'.importReady, h'.busy⟩
  | importBatch rid domain items => exact callPost_importBatch h hl (hq _ (by rw [hl]; rfl))
  | importKl1 rid domain items context => exact callPost_importKl1 h hl (hq _ (by rw [hl]; rfl))
  | getImportResult rid =>
    refine ⟨s, ?_⟩
    have hstep : callStep D w l = settle (fun a => .result a.1 a.2)
        (getImportResult D rid { w with asked := {} }) := by simp only [callStep, hl]
    rw [hstep]
    refine callPost_of_reads h (reads_getImportResult (h.asked {}) rid) (by simp [hl]) ?_
    intro r rid' rc out hr hrid hres
    rw [hl] at hrid
    cases hrid
    cases hres
    exact hr.mono fun d _ q hq => (by rw [hl] at hq; cases hq)
  | getImportResultKl1 rid =>
    refine ⟨s, ?_⟩
    have hstep : callStep D w l = settle (fun a => .resultKl1 a.1 a.2.1 a.2.2)
        (getImportResultKl1 D l.oracle rid { w with asked := {} }) := by simp only [callStep, hl]
    rw [hstep]
    refine callPost_of_reads h (reads_getImportResultKl1 (h.asked {}) rid) (by simp [hl]) ?_
    intro r rid' rc out hr hrid hres
    rw [hl] at hrid
    cases hrid
    cases hres
    exact hr.mono fun d _ q hq => (by rw [hl] at hq; cases hq)
  | getStatus domain purposes =>
    refine ⟨s, ?_⟩
    have hstep : callStep D w l = settle (fun a => .statuses a.1 a.2)
        (getStatus D domain purposes { w with asked := {} }) := by simp only [callStep, hl]
    rw [hstep]
    refine callPost_of_reads h (reads_getStatus domain purposes) (by simp [hl]) ?_
    intro r rid' rc out _ hrid _
    rw [hl] at hrid
    cases hrid
  | storeReady ready =>
    -- the relation does not look at the readiness of the store
    refine ⟨s, callPost_of_sim .refl ⟨K, ?_⟩ (by rw [hl]; rfl) (by simp [hl])⟩
    simp only [callStep, hl]
    refine ⟨h.inv, h.disk, h.mem, h.unkeyed, fun hp => ?_, h.ledger, h.importReady, h.busy⟩
    have hlive := h.live hp
    exact ⟨hlive.disk, hlive.mem, hlive.keyed, hlive.ready, hlive.loaded, hlive.kek,
      hlive.macKey, hlive.version, hlive.ledger⟩

/-! ### Every run -/

theorem sim_fresh : Sim D M {} Sys.fresh := by
  refine ⟨List.replicate kekSize 0, inv_fresh,
    ⟨.nil, List.length_replicate, ?_, fun _ => rfl, ?_, ?_⟩,
    stateSim_blank, fun _ => rfl, fun hp => (by cases hp), ?_, fun hi => (by cases hi), rfl⟩
  · intro file hfile
    cases hfile
  · intro b hb
    rw [← Option.some.inj hb]
    exact ⟨fun _ _ _ => rfl, fun _ _ i hi => (by cases hi)⟩
  · intro c hc
    cases hc
  · intro b hb _
    rw [← Option.some.inj hb]
    exact ⟨fun _ _ _ => rfl, fun _ _ i hi => (by cases hi)⟩

end TboxSec.Keyprov
