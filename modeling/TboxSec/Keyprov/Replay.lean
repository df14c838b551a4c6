import TboxSec.Keyprov.Evidence
import TboxSec.Keyprov.FailClosed

/-!
# Replays of a settled request

A terminal record answers every later import of its request id: the stored result for the same
request, a conflict for another one, and **nothing is executed again**. This rests on the record
being there. It is, if it is in the **last document saved** (a restart goes back to that one) and
if the store **can be read** whenever such an import passes its gates. The legacy import takes an
unreadable store for a missing record and runs the request once more, over the settled record.

* `Saved` and `ReadableFor` are the two conditions; `Digested`: no record is without a digest of its
  request.
* `frozen_run`: along such a run the record stays as it is.
* `settled_request_executed` is a run in which the second condition fails, and the settled request
  is executed once more.
-/

namespace TboxSec.Keyprov

open Canonical Crash Prog Journal

variable {D : Deployment} {M : Set ImportRequest} {K : Bytes} {ω : Oracle} {w : World}
  {s s' : KSys} {l : Label}
  {past ls : List Label} {requestId domain : String} {items : List WrappedKeyItem}
  {context : KeyprovImportContext} {q : ImportRequest} {a : Admitted}
  {r : String} {e : BusinessKeyJournalEntry}

/-! ### The gates -/

/-- The request as the gates of the call let it through. -/
def Label.admitted (D : Deployment) (w : World) (l : Label) : Option Admitted :=
  match l.call with
  | .importBatch requestId domain items =>
    match importGates D l.oracle requestId domain items { w with asked := {} } with
    | .done (.ok a) _ => some a
    | _ => none
  | .importKl1 requestId domain items context =>
    match importKl1Gates D l.oracle requestId domain items context { w with asked := {} } with
    | .done (.ok a) _ => some a
    | _ => none
  | _ => none

/-- **The gates decide first.** What they turn away is answered at once; a request they let
through is judged by its record, if the lookup finds one. -/
theorem decision_of_gates (hq : l.call.importRequest = some q) :
    match l.admitted D w with
    | none => ∃ rc out, l.decision D w = some (.reply rc out)
    | some a =>
      (AdmittedFor D q.requestId q.domain q.items a ∧ w.svc.importReady = true) ∧
        ∀ e, loadJournalEx D.platform w.prov a.ridDigest = { status := .found, entry := some e } →
          l.decision D w = some (existingDecision a e) := by
  cases hl : l.call with
  | importBatch requestId domain items =>
    obtain rfl : (⟨requestId, domain, items⟩ : ImportRequest) = q := by
      rw [hl] at hq
      exact Option.some.inj hq
    have hreads : Reads (importGates D l.oracle requestId domain items) { w with asked := {} }
        (Gated D { w with asked := {} } requestId domain items) := reads_importGates
    obtain ⟨g, k, hrun, hgated⟩ := hreads
    cases g with
    | error g =>
      simp only [Label.admitted, Label.decision, hl, hrun, importDecide, Bind.bind, Prog.bind]
      exact ⟨g.1, g.2, rfl⟩
    | ok a =>
      simp only [Label.admitted, Label.decision, hl, hrun, importDecide, Bind.bind, Prog.bind]
      refine ⟨hgated, fun e he => ?_⟩
      have hload : loadJournal D.platform w.prov a.ridDigest = some e := by
        rw [loadJournal_eq, he]
      simp only [Prog.gets, hload]
      rfl
  | importKl1 requestId domain items context =>
    obtain rfl : (⟨requestId, domain, items⟩ : ImportRequest) = q := by
      rw [hl] at hq
      exact Option.some.inj hq
    have hreads : Reads (importKl1Gates D l.oracle requestId domain items context)
        { w with asked := {} } (Gated D { w with asked := {} } requestId domain items) :=
      reads_importKl1Gates
    obtain ⟨g, k, hrun, hgated⟩ := hreads
    cases g with
    | error g =>
      simp only [Label.admitted, Label.decision, hl, hrun, importKl1Decide, Bind.bind, Prog.bind]
      exact ⟨g.1, g.2, rfl⟩
    | ok a =>
      simp only [Label.admitted, Label.decision, hl, hrun, importKl1Decide, Bind.bind, Prog.bind]
      refine ⟨hgated, fun e he => ?_⟩
      simp only [Prog.gets, id, he]
      rfl
  | _ =>
    rw [hl] at hq
    cases hq

private theorem admitted_of_gates (hq : l.call.importRequest = some q)
    (ha : l.admitted D w = some a) :
    AdmittedFor D q.requestId q.domain q.items a ∧ w.svc.importReady = true := by
  have h := decision_of_gates (D := D) (w := w) hq
  rw [ha] at h
  exact h.1

/-! ### Request digests -/

/-- A new operation has a request digest. -/
private theorem digest_of_start (h : l.decision D w = some (.start a)) : a.digest ≠ "" := by
  obtain ⟨q, -, ha, -⟩ := admitted_of_start h
  rw [ha.digest]
  exact buildRequestDigest_ne_empty _ _ _

/-! ### The record stays -/

/-- The record `e` of `r` is in the last document saved. -/
def Saved (w : World) (r : String) (e : BusinessKeyJournalEntry) : Prop :=
  ∃ doc ∈ w.disk.state.head?, ∃ js ∈ doc.state.journal.find? r, js.entry = e

instance (w : World) (r : String) (e : BusinessKeyJournalEntry) : Decidable (Saved w r e) :=
  inferInstanceAs (Decidable (∃ doc ∈ w.disk.state.head?, _))

/-- An import of the request id that passes its gates is made while the store can be read. -/
def ReadableFor (D : Deployment) (requestId : String) (w : World) (l : Label) : Prop :=
  ∀ a ∈ l.admitted D w, a.ridDigest = textDigest D.platform.crypto requestId →
    w.prov.readable = true

instance (D : Deployment) (requestId : String) (w : World) (l : Label) :
    Decidable (ReadableFor D requestId w l) :=
  inferInstanceAs (Decidable (∀ a ∈ l.admitted D w, _))

/-- A record that is found and saved is in every document that counts. -/
private theorem frozen_of_saved (hsim : SimAt D M K w s)
    (hfound : loadJournalEx D.platform w.prov r = { status := .found, entry := some e })
    (hsaved : Saved w r e) : Frozen r e s := by
  rintro m (⟨-, rfl⟩ | rfl)
  · obtain ⟨js, hjs, hload⟩ := exists_of_found (by rw [hfound])
    obtain rfl : js.entry = e := by
      rw [hfound] at hload
      injection hload with _ hentry
      exact (Option.some.inj hentry).symm
    exact hsim.mem.entry_of_find hjs
  · obtain ⟨doc, hdoc, js, hjs, rfl⟩ := hsaved
    exact (hsim.disk.latest hdoc).entry_of_find hjs

/-- Every record of the daemon has a request digest. -/
def Digested (_ : String) (e : BusinessKeyJournalEntry) : Prop := e.requestDigest ≠ ""

private theorem digested_call (hsim : Sim D M w s) (h : Marked Digested s)
    (hsteps : Steps (scheme D) (policyAt D w l s) s s') : Marked Digested s' := by
  refine marked_steps ?_ ?_ hsteps hsim.inv h
  · rintro m r e ⟨-, a, now, hdec, rfl, rfl⟩
    exact digest_of_start hdec
  · intro r e e' halike he
    have hkin : e'.requestDigest = e.requestDigest := halike.kin
    exact fun h => he (hkin.symm.trans h)

/-- A request is started over only if its record cannot be seen. -/
private theorem started_of_readable (hsim : Sim D M w s) (hread : ReadableFor D requestId w l)
    (m : KDoc)
    (hπ : (policyAt D w l s).start m (textDigest D.platform.crypto requestId) e) :
    m.entry (textDigest D.platform.crypto requestId) = none := by
  obtain ⟨K, hsim⟩ := hsim
  obtain ⟨rfl, a, now, hdec, hrid, rfl⟩ := hπ
  obtain ⟨q, hq, ha, -, hload⟩ := admitted_of_start hdec
  have hgates := decision_of_gates (D := D) (w := w) hq
  cases hadm : l.admitted D w with
  | none =>
    rw [hadm] at hgates
    obtain ⟨rc, out, hreply⟩ := hgates
    rw [hdec] at hreply
    cases hreply
  | some a' =>
    -- the request let through is the one that was started
    obtain ⟨ha', -⟩ := admitted_of_gates hq hadm
    have hrid' : a'.ridDigest = a.ridDigest := by
      rw [ha'.rid, ha.rid, ha'.requestId, ha.requestId]
    have hreadable := hread a' hadm (hrid'.trans hrid.symm)
    have hlive := hsim.live_of_start hdec
    cases hentry : s.mem.entry (textDigest D.platform.crypto requestId) with
    | none => rfl
    | some e =>
      rw [← hrid, loadJournal_eq, loadJournalEx_of_live hlive, if_pos hreadable, hentry] at hload
      cases hload

/-- **A settled record stays** in every later run in which it can be read when it is needed. -/
theorem frozen_run (hterminal : e.phase.terminal = true)
    (h : ∃ s, Sim D .univ w s ∧ Marked Digested s ∧
      Frozen (textDigest D.platform.crypto requestId) e s)
    (hc : (daemon D).Along (ReadableFor D requestId) w ls) :
    ∃ s, Sim D .univ ((daemon D).run w ls) s ∧ Marked Digested s ∧
      Frozen (textDigest D.platform.crypto requestId) e s := by
  refine Machine.run_invariant (M := daemon D)
    (I := fun w => ∃ s, Sim D .univ w s ∧ Marked Digested s ∧
      Frozen (textDigest D.platform.crypto requestId) e s) ?_ h hc
  rintro w l ⟨s, hsim, hmarked, hfrozen⟩ hl
  obtain ⟨s', hpost⟩ := callStep_refines hsim l fun _ _ => Set.mem_univ _
  have hsettled : (scheme D).status e ≠ .pending := by
    intro hpending
    rw [phaseStatus_pending.mp hpending] at hterminal
    cases hterminal
  exact ⟨s', hpost.sim, digested_call hsim hmarked hpost.steps,
    frozen_steps (fun m e' hπ => started_of_readable hsim hl m hπ) hsettled hpost.steps
      hsim.inv hfrozen⟩

/-! ### Replays -/

/-- The import replays the record `e`: nothing is executed or changed, another request under the
same id is a conflict, and the request itself gets the result that is stored. -/
structure Replays (D : Deployment) (w : World) (requestId : String) (e : BusinessKeyJournalEntry)
    (l : Label) : Prop where
  unmoved : Unmoved w (callStep D w l)
  conflict : ∀ a ∈ l.admitted D w, a.digest ≠ e.requestDigest →
    ∃ out, (callStep D w l).2.importResult = some (.businessKeyConflict, out)
  stored : ∀ a ∈ l.admitted D w, a.digest = e.requestDigest → e.phase = .succeeded →
    (callStep D w l).2.importResult = some (.success, buildCommittedResult requestId e)

/-- A request that its gates turn away changes nothing. -/
private theorem replays_of_not_admitted (hq : l.call.importRequest = some q)
    (h : l.admitted D w = none) : Replays D w requestId e l := by
  have hgates := decision_of_gates (D := D) (w := w) hq
  rw [h] at hgates
  obtain ⟨rc, out, hreply⟩ := hgates
  refine ⟨(unmoved_of_reply hreply).1, fun a ha => ?_, fun a ha => ?_⟩
  · rw [h] at ha
    cases ha
  · rw [h] at ha
    cases ha

/-- A request whose record is found and settled is answered from it. -/
private theorem replays_of_found (hq : l.call.importRequest = some q)
    (hadm : l.admitted D w = some a)
    (hfound : loadJournalEx D.platform w.prov a.ridDigest = { status := .found, entry := some e })
    (hterminal : e.phase.terminal = true) (hdigest : e.requestDigest ≠ "") :
    Replays D w q.requestId e l := by
  have hgates := decision_of_gates (D := D) (w := w) hq
  rw [hadm] at hgates
  obtain ⟨⟨ha, -⟩, hdecision⟩ := hgates
  have hdecision := hdecision e hfound
  -- either the request digests differ, or the phase of the record decides
  by_cases hconflict : Conflicts a e
  · rw [existingDecision_of_conflict hconflict] at hdecision
    obtain ⟨hunmoved, hresult⟩ := unmoved_of_reply hdecision
    refine ⟨hunmoved, fun _ _ _ => ⟨_, hresult⟩, fun a' ha' heq => ?_⟩
    obtain rfl := Option.some.inj (hadm.symm.trans ha')
    exact absurd heq.symm hconflict.2
  · have hsame : ∀ a' ∈ l.admitted D w, a'.digest = e.requestDigest := by
      intro a' ha'
      obtain rfl := Option.some.inj (hadm.symm.trans ha')
      by_contra hne
      exact hconflict ⟨hdigest, fun heq => hne heq.symm⟩
    rcases existingDecision_cases hconflict with ⟨-, hd⟩ | ⟨hphase, hd⟩ | ⟨hphase, -⟩
    · rw [hd] at hdecision
      obtain ⟨hunmoved, hresult⟩ := unmoved_of_reply hdecision
      refine ⟨hunmoved, fun a' ha' hne => absurd (hsame a' ha') hne, fun _ _ _ _ => ?_⟩
      rw [hresult, ha.requestId]
    · rw [hd] at hdecision
      refine ⟨(unmoved_of_reply hdecision).1, fun a' ha' hne => absurd (hsame a' ha') hne,
        fun _ _ _ hsucceeded => ?_⟩
      rw [hphase] at hsucceeded
      cases hsucceeded
    · rw [hphase] at hterminal
      cases hterminal

/-- **A settled request is never executed again.** From any state in which its record is found and
saved, in every later run in which the store can be read when the request is made again. The answer
is read from the record, whichever of the two imports asks, and neither slots nor proofs nor ledger
change. -/
theorem settled_request_replays (D : Deployment) (past later : List Label) (l : Label)
    (q : ImportRequest) (e : BusinessKeyJournalEntry) (hq : l.call.importRequest = some q)
    (hfound : loadJournalEx D.platform ((daemon D).run {} past).prov
      (textDigest D.platform.crypto q.requestId) = { status := .found, entry := some e })
    (hterminal : e.phase.terminal = true)
    (hsaved : Saved ((daemon D).run {} past) (textDigest D.platform.crypto q.requestId) e)
    (hc : (daemon D).Along (ReadableFor D q.requestId) ((daemon D).run {} past) (later ++ [l])) :
    Replays D ((daemon D).run {} (past ++ later)) q.requestId e l := by
  rw [Machine.along_append] at hc
  obtain ⟨s, ⟨K, hsim⟩, hmarked⟩ := run_refines (c := fun _ _ => True)
    (I := fun _ => Marked Digested) marked_fresh
    (fun _ _ _ _ _ hsim h _ hsteps => digested_call hsim h hsteps)
    (Machine.along_true (daemon D) {} past)
  obtain ⟨s', ⟨K', hsim'⟩, hmarked', hfrozen⟩ := frozen_run hterminal
    ⟨s, ⟨K, hsim⟩, hmarked, frozen_of_saved hsim hfound hsaved⟩ hc.1
  have hlast := hc.2.1
  rw [Machine.run_append]
  generalize (daemon D).run ((daemon D).run {} past) later = w at *
  -- the gates come first; what they let through finds the record, which is still there
  cases hadm : l.admitted D w with
  | none => exact replays_of_not_admitted hq hadm
  | some a =>
    obtain ⟨ha, hready⟩ := admitted_of_gates hq hadm
    have hrid : a.ridDigest = textDigest D.platform.crypto q.requestId := by
      rw [ha.rid, ha.requestId]
    have hlive := hsim'.live (hsim'.importReady hready)
    have hentry := hfrozen s'.mem (.inl ⟨hlive.loaded, rfl⟩)
    refine replays_of_found hq hadm ?_ hterminal
      (hmarked' s'.mem (List.mem_cons_self ..) _ e hentry)
    rw [loadJournalEx_of_live hlive, if_pos (hlast a hadm hrid), hrid, hentry]

section Runs

open Bench

/-- A new process takes over. -/
def takeOver : List Label := [⟨.boot true 10, calm⟩, ⟨.init, calm⟩]

/-- The store stops being readable. -/
def unreadable : List Label := [⟨.storeReady false, calm⟩]

set_option maxRecDepth 10000 in
/-- After a restart the request gets the result that was stored. -/
theorem settled_request_replays_restart :
    ∃ e, (loadJournalEx daemonD.platform ((daemon daemonD).run {} committedRun).prov
        (textDigest daemonD.platform.crypto "A")).entry = some e ∧
      (callStep daemonD ((daemon daemonD).run {} (committedRun ++ takeOver))
        ⟨importOf "A" 1, calm⟩).2.importResult =
          some (.success, buildCommittedResult "A" e) := by
  have hrun : ∃ e ∈ (loadJournalEx daemonD.platform ((daemon daemonD).run {} committedRun).prov
        (textDigest daemonD.platform.crypto "A")).entry,
      (loadJournalEx daemonD.platform ((daemon daemonD).run {} committedRun).prov
        (textDigest daemonD.platform.crypto "A") = { status := .found, entry := some e }) ∧
      e.phase = .succeeded ∧
      Saved ((daemon daemonD).run {} committedRun) (textDigest daemonD.platform.crypto "A") e ∧
      (daemon daemonD).Along (ReadableFor daemonD "A") ((daemon daemonD).run {} committedRun)
        (takeOver ++ [⟨importOf "A" 1, calm⟩]) ∧
      ∃ a ∈ (⟨importOf "A" 1, calm⟩ : Label).admitted daemonD
          ((daemon daemonD).run {} (committedRun ++ takeOver)),
        a.digest = e.requestDigest := by
    decide +kernel
  obtain ⟨e, he, hfound, hphase, hsaved, hc, a, ha, hdigest⟩ := hrun
  refine ⟨e, he, ?_⟩
  exact (settled_request_replays daemonD committedRun takeOver ⟨importOf "A" 1, calm⟩
    ⟨"A", businessDomainV2c, requestItems "A" businessDomainV2c 1 0xaa⟩ e rfl hfound
    (by rw [hphase]; rfl) hsaved hc).stored a ha hdigest hphase

/-- The legacy import of other keys under the id of request A. -/
def otherKeys : Label := ⟨importOf "A" 2, calm⟩

set_option maxRecDepth 10000 in
/-- **A settled request is executed again** when the store cannot be read: the legacy import of
other keys under its id unwraps them and leaves its record as failed. -/
theorem settled_request_executed :
    ∃ e, loadJournalEx daemonD.platform ((daemon daemonD).run {} committedRun).prov
        (textDigest daemonD.platform.crypto "A") = { status := .found, entry := some e } ∧
      e.phase = .succeeded ∧
      Saved ((daemon daemonD).run {} committedRun) (textDigest daemonD.platform.crypto "A") e ∧
      ¬ Replays daemonD ((daemon daemonD).run {} (committedRun ++ unreadable)) "A" e otherKeys ∧
      (((daemon daemonD).run {}
        (committedRun ++ unreadable ++ [otherKeys])).prov.state.journal.find?
        (textDigest daemonD.platform.crypto "A")).map (·.entry.phase) = some .failed := by
  have hrun : ∃ e ∈ (loadJournalEx daemonD.platform ((daemon daemonD).run {} committedRun).prov
        (textDigest daemonD.platform.crypto "A")).entry,
      (loadJournalEx daemonD.platform ((daemon daemonD).run {} committedRun).prov
        (textDigest daemonD.platform.crypto "A") = { status := .found, entry := some e }) ∧
      e.phase = .succeeded ∧
      Saved ((daemon daemonD).run {} committedRun) (textDigest daemonD.platform.crypto "A") e ∧
      (callStep daemonD ((daemon daemonD).run {} (committedRun ++ unreadable))
        otherKeys).1.asked.effects ≠ (0, 0, 0, 0, 0) ∧
      (((daemon daemonD).run {}
        (committedRun ++ unreadable ++ [otherKeys])).prov.state.journal.find?
        (textDigest daemonD.platform.crypto "A")).map (·.entry.phase) = some .failed := by
    decide +kernel
  obtain ⟨e, -, hfound, hphase, hsaved, heffects, hfailed⟩ := hrun
  refine ⟨e, hfound, hphase, hsaved, fun h => heffects ?_, hfailed⟩
  obtain ⟨k, hk, hworld⟩ := h.unmoved
  rw [hworld]
  exact hk

end Runs

end TboxSec.Keyprov
