import TboxSec.Keyprov.Atomicity
import TboxSec.Keyprov.Bench
import TboxSec.Keyprov.RequestDigest

/-!
# Verdicts on requests

What COMMITTED and FAILED mean for a request, over every run of the daemon. A verdict that is
given long after the work is reconstructed from the journal and the slots, and the
reconstruction compares **generation numbers** only. That is sound as long as a new operation
is not admitted while an unfinished record carries the number it will get
(`committed_backed`), or the number of the ACTIVE slots (`committed_never_failed`); it never
restores the proofs a record has lost (`committed_attested`).

Each condition is followed by the run that goes wrong without it.
-/

namespace TboxSec.Keyprov

open Canonical Crash Journal

variable {D : Deployment} {M : Set ImportRequest} {K : Bytes} {w : World} {s : KSys} {l : Label}
  {past : List Label}

/-! ### Conditions on a step -/

/-- The unfinished records of the journal. -/
def unfinished (st : State) : List BusinessKeyJournalEntry :=
  (st.journal.toList.map fun b => b.2.entry).filter fun e => !e.phase.terminal

/-- The call starts a new operation. -/
def Label.starts (D : Deployment) (w : World) (l : Label) : Option Admitted :=
  match l.decision D w with
  | some (.start a) => some a
  | _ => none

theorem starts_of_decision {a : Admitted} (h : l.decision D w = some (.start a)) :
    l.starts D w = some a := by
  unfold Label.starts
  rw [h]

/-- A pending record of the document in memory is an unfinished record of the provider. -/
private theorem mem_unfinished {st : State} {m : KDoc} (h : StateSim D M K st m) {r : String}
    {e : BusinessKeyJournalEntry} (he : m.entry r = some e)
    (hp : phaseStatus e.phase = .pending) : e ∈ unfinished st := by
  obtain ⟨js, hjs, rfl, -⟩ := h.find_of_entry he
  refine List.mem_filter.mpr ⟨List.mem_map.mpr ⟨(r, js), OrdMap.mem_toList_iff.mpr hjs, rfl⟩, ?_⟩
  rw [phaseStatus_pending.mp hp]
  rfl

/-- SHA-256 has no collision among the request ids of a run. -/
def CollisionFree (D : Deployment) (ls : List Label) : Prop :=
  ∀ x ∈ ls.filterMap (·.call.requestId), ∀ y ∈ ls.filterMap (·.call.requestId),
    D.platform.crypto.sha256 (textBytes x) = D.platform.crypto.sha256 (textBytes y) → x = y

instance (D : Deployment) (ls : List Label) : Decidable (CollisionFree D ls) :=
  inferInstanceAs (Decidable (∀ x ∈ _, ∀ y ∈ _, _ → _))

/-- Without a collision, the digest of the last call's request id tells its request. -/
private theorem CollisionFree.eq (h : CollisionFree D (past ++ [l])) {rid : String}
    (hrid : l.call.requestId = some rid) {q : ImportRequest} (hq : q ∈ requests (past ++ [l]))
    (hdigest : textDigest D.platform.crypto q.requestId = textDigest D.platform.crypto rid) :
    q.requestId = rid := by
  obtain ⟨l', hl', hlq⟩ := mem_requests.mp hq
  refine h _ (List.mem_filterMap.mpr ⟨l', hl', Call.requestId_of_importRequest hlq⟩) _
    (List.mem_filterMap.mpr ⟨l, List.mem_append_right _ (List.mem_singleton.mpr rfl), hrid⟩) ?_
  exact toHex_injective hdigest

/-- What is hashed of the requests of a run: their ids, and all that goes into their digests. -/
def hashedIn (D : Deployment) (ls : List Label) : List Bytes :=
  (ls.filterMap (·.call.requestId)).map textBytes ++
    (requests ls).flatMap fun q => hashedFor D q (q.items.filterMap (rowOf D))

private theorem hashedFor_subset_hashedIn {ls : List Label} {q : ImportRequest}
    (hq : q ∈ requests ls) :
    hashedFor D q (q.items.filterMap (rowOf D)) ⊆ hashedIn D ls := fun _ hb =>
  List.mem_append_right _ (List.mem_flatMap.mpr ⟨q, hq, hb⟩)

theorem NoCollision.mono {hashed hashed' : List Bytes} (h : NoCollision D hashed')
    (hsub : hashed ⊆ hashed') : NoCollision D hashed :=
  fun a ha b hb => h a (hsub ha) b (hsub hb)

private theorem NoCollision.collisionFree {ls : List Label} (h : NoCollision D (hashedIn D ls)) :
    CollisionFree D ls := fun _ hx _ hy heq =>
  textBytes_injective (h _ (List.mem_append_left _ (List.mem_map_of_mem hx)) _
    (List.mem_append_left _ (List.mem_map_of_mem hy)) heq)

/-! ### A COMMITTED verdict -/

/-- Both ACTIVE slots hold the key id digests and versions of the items. -/
def HoldsItems (D : Deployment) (st : State) (items : List WrappedKeyItem) : Prop :=
  ∀ p ∈ [purposeUplink, purposeDownlink], ∃ it ∈ items, it.purpose = p ∧
    (st.active.find? p).map (fun slot => (slot.keyIdDigest, slot.version)) =
      some (textDigest D.platform.crypto it.keyId, it.businessKeyVersion)

instance (D : Deployment) (st : State) (items : List WrappedKeyItem) :
    Decidable (HoldsItems D st items) :=
  inferInstanceAs (Decidable (∀ p ∈ _, ∃ it ∈ _, _))

/-- At some moment both ACTIVE slots on disk held the items. -/
def Held (D : Deployment) (d : Disk) (items : List WrappedKeyItem) : Prop :=
  ∃ doc ∈ d.state, HoldsItems D doc.state items

instance (D : Deployment) (d : Disk) (items : List WrappedKeyItem) : Decidable (Held D d items) :=
  inferInstanceAs (Decidable (∃ doc ∈ _, _))

/-- The record `e` was made for a request of the run, under an id that meets `P`: it has the
digest of that request and describes the keys of its items, and the items were in the slots. -/
def Backed (D : Deployment) (ls : List Label) (d : Disk) (P : String → Prop)
    (e : BusinessKeyJournalEntry) : Prop :=
  ∃ q ∈ requests ls, P q.requestId ∧ HasDigest D q e.requestDigest ∧
    batchOf e.items = requestBatch D q ∧ Held D d q.items

/-- The last call of a run: the world it leaves and its reply. -/
def lastCall (D : Deployment) (past : List Label) (l : Label) : World × Reply :=
  callStep D ((daemon D).run {} past) l

/-- COMMITTED is said of a request only if its own items were committed. An import answered
COMMITTED has had the items it sent in both slots; any COMMITTED answer is read off a succeeded
record of the request id that is backed; and so is every succeeded record in memory or on disk. -/
structure CommittedBacked (D : Deployment) (past : List Label) (l : Label) : Prop where
  imported : ∀ q rc out, l.call.importRequest = some q →
    (lastCall D past l).2.importResult = some (rc, out) → out.state = .committed →
    Held D (lastCall D past l).1.disk q.items
  reply : ∀ rid rc out, l.call.requestId = some rid →
    (lastCall D past l).2.importResult = some (rc, out) → out.state = .committed →
    ∃ js, (lastCall D past l).1.prov.state.journal.find? (textDigest D.platform.crypto rid) =
        some js ∧ js.entry.phase = .succeeded ∧ out = buildCommittedResult rid js.entry ∧
      Backed D (past ++ [l]) (lastCall D past l).1.disk (· = rid) js.entry
  record : ∀ st ∈ (lastCall D past l).1.prov.state :: (lastCall D past l).1.disk.state.map
      (·.state), ∀ r js, st.journal.find? r = some js → js.entry.phase = .succeeded →
    Backed D (past ++ [l]) (lastCall D past l).1.disk
      (textDigest D.platform.crypto · = r) js.entry

/-- A new operation is admitted only when no unfinished record carries the generation it will
get. -/
def Unrivalled (D : Deployment) (w : World) (l : Label) : Prop :=
  (l.starts D w).isSome = true →
    ∀ e ∈ unfinished w.prov.state, e.generation ≠ nextGeneration D w.prov

instance (D : Deployment) (w : World) (l : Label) : Decidable (Unrivalled D w l) :=
  inferInstanceAs (Decidable (_ → ∀ e ∈ _, _))

theorem unrivalled_policyAt (hsim : Sim D M w s) (h : Unrivalled D w l) :
    (policyAt D w l s).Unrivalled (scheme D) := by
  obtain ⟨K, hsim⟩ := hsim
  rintro m r e ⟨rfl, a, now, hdec, rfl, rfl⟩ r' e' he' hp'
  exact h (by rw [starts_of_decision hdec]; rfl) e' (mem_unfinished hsim.mem he' hp')

/-- A document of the log is a state document on disk. -/
theorem DiskSim.exists_state {d : Disk} (h : DiskSim D M K d s) {m : KDoc} (hm : m ∈ s.log) :
    ∃ doc ∈ d.state, StateSim D M K doc.state m := by
  obtain ⟨doc, hdoc, -, hsim⟩ := exists_left_of_mem_right h.docs m hm
  exact ⟨doc, hdoc, hsim⟩

/-- A document whose batch is that of a request holds its items. -/
private theorem holdsItems_of_stateSim {st : State} {m : KDoc} (h : StateSim D M K st m)
    (hm : DocInv (scheme D) m) (hpos : 0 < m.gen) {q : ImportRequest}
    (hact : m.active = requestBatch D q) : HoldsItems D st q.items := by
  intro p hp
  obtain ⟨i, hi⟩ := Option.isSome_iff_exists.mp
    ((hm.shaped hpos p).mpr ((h.both hpos p).mpr hp))
  obtain ⟨slot, hslot, hsim⟩ := h.slot p i hi
  obtain ⟨it, hit, hpurpose, rfl⟩ := exists_item_of_requestBatch (hact ▸ hi)
  refine ⟨it, hit, hpurpose, ?_⟩
  rw [hslot, Option.map_some, hsim.keyIdDigest, hsim.version]
  rfl

/-- The record was made for a request of the run filed under `r`: it has the digest of that
request and describes the keys of its items. -/
def MadeFor (D : Deployment) (ls : List Label) (r : String) (e : BusinessKeyJournalEntry) : Prop :=
  ∃ q ∈ requests ls, textDigest D.platform.crypto q.requestId = r ∧
    HasDigest D q e.requestDigest ∧ batchOf e.items = requestBatch D q

theorem MadeFor.append {r : String} {e : BusinessKeyJournalEntry} (h : MadeFor D past r e)
    (l : Label) : MadeFor D (past ++ [l]) r e := by
  obtain ⟨q, hq, hmade⟩ := h
  exact ⟨q, mem_requests_append hq l, hmade⟩

/-- An admitted request is validated. -/
theorem AdmittedFor.validated {q : ImportRequest} {a : Admitted}
    (h : AdmittedFor D q.requestId q.domain q.items a) : Validated D q a.binding a.rows :=
  ⟨h.structural, h.envelopes⟩

/-- A request that is taken up is a request of the call, and its record is made for it. -/
private theorem madeFor_of_start {m : KDoc} {r : String} {e : BusinessKeyJournalEntry}
    (h : (policyAt D w l s).start m r e) : MadeFor D (past ++ [l]) r e := by
  obtain ⟨-, a, now, hdec, rfl, rfl⟩ := h
  obtain ⟨q, hq, ha, -⟩ := admitted_of_start hdec
  exact ⟨q, mem_requests_last hq, by rw [ha.rid, ha.requestId],
    ⟨_, _, ha.validated, ha.digest⟩, ha.batchOf_eq⟩

/-- **Every record is made for a request of the run**, over one call. -/
theorem madeFor_call (hsim : Sim D M w s) (h : Marked (MadeFor D past) s)
    (hsteps : Steps (scheme D) (policyAt D w l s) s s') :
    Marked (MadeFor D (past ++ [l])) s' := by
  refine marked_steps (fun _ _ _ => madeFor_of_start) ?_ hsteps hsim.inv
    fun m hm r e he => (h m hm r e he).append l
  -- a record keeps its batch and its digest through all its phases
  rintro r e e' ⟨-, hbatch, hdigest⟩ ⟨q, hq, hr, hd, hb⟩
  exact ⟨q, hq, hr, by rw [hdigest]; exact hd, hbatch.trans hb⟩

/-- A succeeded record of the protocol is backed. -/
private theorem backed_of_succeeded {d : Disk} {ls : List Label} (hdisk : DiskSim D M K d s)
    (hinv : Inv (scheme D) s) (hland : Landed (scheme D) s) (hmade : Marked (MadeFor D ls) s)
    {m : KDoc} (hm : m ∈ s.mem :: s.log) {r : String} {e : BusinessKeyJournalEntry}
    (he : m.entry r = some e) (hs : e.phase = .succeeded) {P : String → Prop}
    (hP : ∀ q ∈ requests ls, textDigest D.platform.crypto q.requestId = r → P q.requestId) :
    Backed D ls d P e := by
  obtain ⟨q, hq, hr, hdigest, hbatch⟩ := hmade m hm r e he
  obtain ⟨m', hm', hpos, hact⟩ := hland.landed m hm r e he (phaseStatus_succeeded.mpr hs)
  obtain ⟨doc, hdoc, hsim⟩ := hdisk.exists_state hm'
  exact ⟨q, hq, hP q hq hr, hdigest, hbatch, doc, hdoc,
    holdsItems_of_stateSim hsim (hinv.docs m' (List.mem_cons_of_mem _ hm')) hpos
      (hact.trans hbatch)⟩

/-- Validity windows and the order of the items say nothing about what the slots hold. -/
theorem HoldsItems.of_same {st : State} {q q' : ImportRequest} (h : HoldsItems D st q.items)
    (hsame : q.withoutWindows.Same q'.withoutWindows) : HoldsItems D st q'.items := by
  intro p hp
  obtain ⟨it, hit, rfl, hslot⟩ := h p hp
  have hmem : it.withoutWindow ∈ q'.withoutWindows.items :=
    hsame.2.2.subset (List.mem_map_of_mem hit)
  obtain ⟨it', hit', heq⟩ := List.mem_map.mp hmem
  have hpurpose : it'.purpose = it.purpose := (congrArg WrappedKeyItem.purpose heq :)
  have hkey : it'.keyId = it.keyId := (congrArg WrappedKeyItem.keyId heq :)
  have hversion : it'.businessKeyVersion = it.businessKeyVersion :=
    (congrArg WrappedKeyItem.businessKeyVersion heq :)
  exact ⟨it', hit', hpurpose, by rw [hslot, hkey, hversion]⟩

/-- A backed record that an import takes for its own backs the items of the import. -/
theorem Backed.held {ls : List Label} {d : Disk} {P : String → Prop} {e : BusinessKeyJournalEntry}
    (h : Backed D ls d P e) {q : ImportRequest} (hq : q ∈ requests ls)
    (hown : OwnDigest D q e.requestDigest) (hsha : NoCollision D (hashedIn D ls)) :
    Held D d q.items := by
  obtain ⟨q', hq', -, ⟨b, rows, hvalid, hdigest⟩, -, doc, hdoc, hholds⟩ := h
  obtain ⟨a, ha, hempty | heq⟩ := hown
  · rw [hdigest] at hempty
    exact absurd hempty (buildRequestDigest_ne_empty _ _ _)
  refine ⟨doc, hdoc, hholds.of_same ?_⟩
  -- equal digests are equal requests, validity windows apart
  refine (buildRequestDigest_eq_iff hvalid ha.validated (hsha.mono ?_)).mp ?_
  · rw [hvalid.rows_eq, ha.validated.rows_eq]
    exact List.append_subset.mpr ⟨hashedFor_subset_hashedIn hq', hashedFor_subset_hashedIn hq⟩
  · rw [← hdigest, heq, ha.digest]

/-- **A COMMITTED verdict is backed**, in every run in which no operation is admitted beside an
unfinished record of its generation. The record behind the verdict was made for an import of the run
with the same digest, and at one moment all items of that import stood in the slots, ACTIVE
together. -/
theorem committed_backed (D : Deployment) (past : List Label) (l : Label)
    (hc : (daemon D).Along (Unrivalled D) {} (past ++ [l]))
    (hsha : NoCollision D (hashedIn D (past ++ [l]))) : CommittedBacked D past l := by
  obtain ⟨s, s', -, -, hpost, hland, hmade⟩ := call_refines
    (I := fun ls s => Landed (scheme D) s ∧ Marked (MadeFor D ls) s)
    ⟨landed_fresh, marked_fresh⟩
    (fun _ _ _ _ _ hsim hI hcl hsteps =>
      ⟨landed_steps (unrivalled_policyAt hsim hcl) hsteps hsim.inv hI.1,
        madeFor_call hsim hI.2 hsteps⟩) hc
  obtain ⟨K, hsim⟩ := hpost.sim
  have hreply : ∀ rid rc out, l.call.requestId = some rid →
      (lastCall D past l).2.importResult = some (rc, out) → out.state = .committed →
      ∃ js, (lastCall D past l).1.prov.state.journal.find? (textDigest D.platform.crypto rid) =
          some js ∧ js.entry.phase = .succeeded ∧ out = buildCommittedResult rid js.entry ∧
        (l.Own D js.entry.requestDigest) ∧
        Backed D (past ++ [l]) (lastCall D past l).1.disk (· = rid) js.entry := by
    intro rid rc out hrid hres hstate
    have hverdict := hpost.verdict rid rc out hrid hres
    obtain ⟨e, he, hs, hout⟩ := hverdict.committed hstate
    obtain ⟨js, hjs, rfl, -⟩ := hsim.mem.find_of_entry he
    exact ⟨js, hjs, hs, hout, hverdict.own hstate _ he,
      backed_of_succeeded hsim.disk hsim.inv hland hmade (List.mem_cons_self ..) he hs
        fun q hq hdigest => hsha.collisionFree.eq hrid hq hdigest⟩
  constructor
  · intro q rc out hq hres hstate
    obtain ⟨js, -, -, -, hown, hbacked⟩ :=
      hreply _ rc out (Call.requestId_of_importRequest hq) hres hstate
    exact hbacked.held (mem_requests_last hq) (hown q hq) hsha
  · intro rid rc out hrid hres hstate
    obtain ⟨js, hjs, hs, hout, -, hbacked⟩ := hreply rid rc out hrid hres hstate
    exact ⟨js, hjs, hs, hout, hbacked⟩
  · intro st hst r js hjs hs
    rcases List.mem_cons.mp hst with rfl | hst
    · exact backed_of_succeeded hsim.disk hsim.inv hland hmade (List.mem_cons_self ..)
        (hsim.mem.entry_of_find hjs) hs fun q _ hdigest => hdigest
    · obtain ⟨doc, hdoc, rfl⟩ := List.mem_map.mp hst
      obtain ⟨m, hm, hdocSim⟩ := hsim.disk.exists_doc hdoc
      exact backed_of_succeeded hsim.disk hsim.inv hland hmade (List.mem_cons_of_mem _ hm)
        (hdocSim.entry_of_find hjs) hs fun q _ hdigest => hdigest

section Runs

open Bench

/-- Request A is left undecided by a failing save, then B takes its generation. -/
def rivalRun : List Label :=
  startUp ++ [⟨importOf "A" 1, failingSave 1⟩, ⟨importOf "B" 1, calm⟩]

/-- Request A again. -/
def retryA : Label := ⟨importOf "A" 1, calm⟩

set_option maxRecDepth 10000 in
/-- **The retry of A is answered COMMITTED**, though A's items were never in the slots. -/
theorem committed_not_backed :
    NoCollision daemonD (hashedIn daemonD (rivalRun ++ [retryA])) ∧
      ¬ CommittedBacked daemonD rivalRun retryA := by
  refine ⟨by decide +kernel, fun h => ?_⟩
  have hrun : ((lastCall daemonD rivalRun retryA).2.importResult.map (·.2.state) =
        some .committed) ∧
      ∀ q ∈ retryA.call.importRequest,
        ¬ Held daemonD (lastCall daemonD rivalRun retryA).1.disk q.items := by decide +kernel
  obtain ⟨hstate, hnot⟩ := hrun
  obtain ⟨⟨rc, out⟩, hres, hout⟩ := Option.map_eq_some_iff.mp hstate
  exact hnot _ rfl (h.imported _ rc out rfl hres hout)

set_option maxRecDepth 10000 in
/-- An import on a fresh device is answered COMMITTED, and is backed. -/
theorem committed_backed_first_import :
    (lastCall daemonD startUp retryA).2.importResult.map (·.2.state) = some .committed ∧
      CommittedBacked daemonD startUp retryA := by
  -- the closed facts go to the kernel together, which then replays the run once
  have hrun : (lastCall daemonD startUp retryA).2.importResult.map (·.2.state) = some .committed ∧
      (daemon daemonD).Along (Unrivalled daemonD) {} (startUp ++ [retryA]) ∧
      NoCollision daemonD (hashedIn daemonD (startUp ++ [retryA])) := by decide +kernel
  obtain ⟨hstate, halong, hsha⟩ := hrun
  exact ⟨hstate, committed_backed daemonD startUp retryA halong hsha⟩

end Runs

/-! ### A FAILED verdict -/

/-- The slots hold the items of the unfinished record of `r`, which carries their generation. -/
def CommittedIn (st : State) (r : String) : Bool :=
  match st.journal.find? r with
  | none => false
  | some js =>
    !js.entry.phase.terminal && js.entry.generation == st.generation &&
      decide (0 < st.generation) && js.entry.items.all fun it =>
        (st.active.find? it.purpose).map (fun slot => (slot.keyIdDigest, slot.version)) ==
          some (it.keyIdDigest, it.businessKeyVersion)

/-- A commit has persisted the batch of `r` as ACTIVE. -/
def BatchPersisted (d : Disk) (r : String) : Prop := ∃ doc ∈ d.state, CommittedIn doc.state r = true

instance (d : Disk) (r : String) : Decidable (BatchPersisted d r) :=
  inferInstanceAs (Decidable (∃ doc ∈ _, _))

/-- A request whose batch was persisted is not failed: in memory, on disk, and in the answer of
the last call. -/
structure NeverFailed (D : Deployment) (past : List Label) (l : Label) : Prop where
  record : ∀ r js, BatchPersisted (lastCall D past l).1.disk r →
    (lastCall D past l).1.prov.state.journal.find? r = some js → js.entry.phase ≠ .failed
  stored : ∀ r js, BatchPersisted (lastCall D past l).1.disk r →
    ∀ doc ∈ (lastCall D past l).1.disk.state.head?, doc.state.journal.find? r = some js →
      js.entry.phase ≠ .failed
  reply : ∀ rid rc out, l.call.requestId = some rid →
    BatchPersisted (lastCall D past l).1.disk (textDigest D.platform.crypto rid) →
    (lastCall D past l).2.importResult = some (rc, out) → ¬ DeclaresFailed rc out

/-- A new operation is admitted only for a request that the journal says it does not know. -/
def LookedUp (D : Deployment) (w : World) (l : Label) : Prop :=
  ∀ a ∈ l.starts D w, (loadJournalEx D.platform w.prov a.ridDigest).status = .notFound

instance (D : Deployment) (w : World) (l : Label) : Decidable (LookedUp D w l) :=
  inferInstanceAs (Decidable (∀ a ∈ l.starts D w, _))

/-- A new operation is admitted only for a request the journal does not know, in the domain
`V2C_COMM`. -/
def NewRequest (D : Deployment) (w : World) (l : Label) : Prop :=
  ∀ a ∈ l.starts D w, (loadJournalEx D.platform w.prov a.ridDigest).status = .notFound ∧
    a.businessDomain = businessDomainV2c

instance (D : Deployment) (w : World) (l : Label) : Decidable (NewRequest D w l) :=
  inferInstanceAs (Decidable (∀ a ∈ l.starts D w, _ ∧ _))

theorem NewRequest.lookedUp (h : NewRequest D w l) : LookedUp D w l := fun a ha => (h a ha).1

/-- A new operation is admitted only for a new request, and when no unfinished record carries
the generation of the ACTIVE slots. -/
def SettledFirst (D : Deployment) (w : World) (l : Label) : Prop :=
  NewRequest D w l ∧ ((l.starts D w).isSome = true →
    ∀ e ∈ unfinished w.prov.state, e.generation ≠ w.prov.state.generation)

instance (D : Deployment) (w : World) (l : Label) : Decidable (SettledFirst D w l) :=
  inferInstanceAs (Decidable (_ ∧ (_ → ∀ e ∈ _, _)))

/-- A lookup that says NOT_FOUND is right. -/
private theorem entry_eq_none_of_notFound (hlive : Live D M K w s) {r : String}
    (h : (loadJournalEx D.platform w.prov r).status = .notFound) : s.mem.entry r = none := by
  rw [loadJournalEx_of_live hlive] at h
  cases hread : w.prov.readable with
  | false =>
    rw [hread] at h
    cases h
  | true =>
    rw [hread] at h
    cases hentry : s.mem.entry r with
    | none => rfl
    | some e =>
      rw [hentry] at h
      cases h

/-- The daemon that starts an operation is live. -/
theorem SimAt.live_of_start (h : SimAt D M K w s) {a : Admitted}
    (hdec : l.decision D w = some (.start a)) : Live D M K w s := by
  obtain ⟨q, -, -, hready, -⟩ := admitted_of_start hdec
  exact h.live (h.importReady hready)

theorem unknown_policyAt (hsim : Sim D M w s) (h : LookedUp D w l) :
    (policyAt D w l s).Unknown := by
  obtain ⟨K, hsim⟩ := hsim
  rintro m r e ⟨rfl, a, now, hdec, rfl, rfl⟩
  exact entry_eq_none_of_notFound (hsim.live_of_start hdec) (h a (starts_of_decision hdec))

theorem steady_policyAt (h : NewRequest D w l) : (policyAt D w l s).Steady (scheme D) := by
  rintro m r e ⟨rfl, a, now, hdec, rfl, rfl⟩ p i hi
  obtain ⟨it, hit, -, rfl⟩ := exists_item_of_batchOf hi
  obtain ⟨row, -, rfl⟩ := List.mem_map.mp hit
  exact (h a (starts_of_decision hdec)).2

private theorem settled_policyAt (hsim : Sim D M w s) (h : SettledFirst D w l) :
    (policyAt D w l s).Settled (scheme D) := by
  obtain ⟨K, hsim⟩ := hsim
  rintro m r e ⟨rfl, a, now, hdec, rfl, rfl⟩ r' e' he' hp' hg'
  refine absurd ?_ (h.2 (by rw [starts_of_decision hdec]; rfl) e'
    (mem_unfinished hsim.mem he' hp'))
  rw [hsim.mem.gen]
  exact hg'

/-- A batch that was persisted was committed in the protocol. -/
private theorem committed_of_batchPersisted {d : Disk} (hdisk : DiskSim D M K d s) {r : String}
    (h : BatchPersisted d r) : Committed (scheme D) s.log r := by
  obtain ⟨doc, hdoc, hin⟩ := h
  obtain ⟨m, hm, hsim⟩ := hdisk.exists_doc hdoc
  unfold CommittedIn at hin
  split at hin
  · cases hin
  · rename_i js hjs
    simp only [Bool.and_eq_true, Bool.not_eq_true', beq_iff_eq, decide_eq_true_eq] at hin
    obtain ⟨⟨⟨hterm, hgen⟩, hpos⟩, -⟩ := hin
    rw [hsim.gen] at hgen hpos
    exact ⟨m, hm, js.entry, hsim.entry_of_find hjs, phaseStatus_pending.mpr hterm, hgen, hpos⟩

private theorem not_failed_of_holds {m : KDoc} {r : String} (h : Holds (scheme D) m r)
    {e : BusinessKeyJournalEntry} (he : m.entry r = some e) : e.phase ≠ .failed := by
  obtain ⟨e', he', hstat⟩ := h
  obtain rfl := Option.some.inj (he.symm.trans he')
  intro hf
  have hfailed : (scheme D).status e = .failed := phaseStatus_failed.mpr hf
  rcases hstat with hs | ⟨hs, -⟩ <;> rw [hfailed] at hs <;> cases hs

/-- **A committed batch is never declared failed**, in every run in which an operation is admitted
only beside settled records of the ACTIVE generation. Once the slots of a batch are ACTIVE, neither
a reply nor a record, in memory or on the disk, calls its request FAILED, whatever crashes and
restarts follow. -/
theorem committed_never_failed (D : Deployment) (past : List Label) (l : Label)
    (hc : (daemon D).Along (SettledFirst D) {} (past ++ [l])) : NeverFailed D past l := by
  obtain ⟨s, s', -, -, hpost, hkept⟩ := call_refines (I := fun _ s => Kept (scheme D) s)
    kept_fresh
    (fun _ _ _ _ _ hsim hI hcl hsteps =>
      kept_steps (unknown_policyAt hsim hcl.1.lookedUp) (settled_policyAt hsim hcl)
        (steady_policyAt hcl.1) hsteps hsim.inv hI) hc
  obtain ⟨K, hsim⟩ := hpost.sim
  -- the document in memory counts as soon as it has a record
  have hmem : ∀ r e, BatchPersisted (lastCall D past l).1.disk r → s'.mem.entry r = some e →
      e.phase ≠ .failed := by
    intro r e hbatch he
    have hloaded : s'.loaded = true := by
      by_contra hl
      rw [(hsim.inv.unloaded (by simpa using hl)).1] at he
      cases he
    exact not_failed_of_holds (hkept.holds r (committed_of_batchPersisted hsim.disk hbatch) _
      (.inl ⟨hloaded, rfl⟩)) he
  constructor
  · intro r js hbatch hjs
    exact hmem r js.entry hbatch (hsim.mem.entry_of_find hjs)
  · intro r js hbatch doc hdoc hjs
    -- the last document saved counts as well
    exact not_failed_of_holds (hkept.holds r (committed_of_batchPersisted hsim.disk hbatch) _
      (.inr rfl)) ((hsim.disk.latest hdoc).entry_of_find hjs)
  · intro rid rc out hrid hbatch hreply hfailed
    obtain ⟨e, he, hf⟩ := (hpost.verdict rid rc out hrid hreply).failed hfailed
    exact hmem _ e hbatch he hf

section Runs

open Bench

/-- Request A is committed, but its signatures fail; then B is committed. -/
def overtakenRun : List Label :=
  startUp ++ [⟨importOf "A" 1, failingSign⟩, ⟨importOf "B" 2, calm⟩]

set_option maxRecDepth 10000 in
/-- **The retry of A is answered PARTIAL_ROLLBACK**, though A's batch was ACTIVE. -/
theorem committed_then_failed : ¬ NeverFailed daemonD overtakenRun retryA := by
  intro h
  have hrun : BatchPersisted (lastCall daemonD overtakenRun retryA).1.disk
        (textDigest daemonD.platform.crypto "A") ∧
      (lastCall daemonD overtakenRun retryA).2.importResult.map Prod.fst =
        some .businessKeyPartialRollback := by decide +kernel
  obtain ⟨hbatch, hcode⟩ := hrun
  obtain ⟨⟨rc, out⟩, hres, hrc⟩ := Option.map_eq_some_iff.mp hcode
  exact h.reply "A" rc out rfl hbatch hres (.inl hrc)

/-- A request whose signatures fail, on a fresh device. -/
def unsignedRun : List Label := startUp ++ [⟨importOf "A" 1, failingSign⟩]

set_option maxRecDepth 10000 in
/-- The retry of a request whose signatures failed does not fail it. -/
theorem committed_never_failed_retry :
    BatchPersisted (lastCall daemonD unsignedRun retryA).1.disk
        (textDigest daemonD.platform.crypto "A") ∧
      NeverFailed daemonD unsignedRun retryA := by
  have hrun : BatchPersisted (lastCall daemonD unsignedRun retryA).1.disk
        (textDigest daemonD.platform.crypto "A") ∧
      (daemon daemonD).Along (SettledFirst daemonD) {} (unsignedRun ++ [retryA]) := by
    decide +kernel
  obtain ⟨hbatch, halong⟩ := hrun
  exact ⟨hbatch, committed_never_failed daemonD unsignedRun retryA halong⟩

end Runs

/-! ### The proofs of a COMMITTED result -/

/-- A result of `requestId` with the proof of every item, the proof algorithm and the digest of
the certificate it is bound to. -/
structure ResultAttested (D : Deployment) (requestId : String) (out : ImportResult) : Prop where
  items_ne : out.items ≠ []
  certificate_ne : out.bindingCertificateDigest ≠ []
  algorithm : out.proofAlgorithm = importProofAlgorithmP1363
  items : ∀ it ∈ out.items, ItemAttested D requestId out.bindingCertificateDigest it

/-- A COMMITTED answer of the last call carries its proofs. -/
def CommittedAttested (D : Deployment) (past : List Label) (l : Label) : Prop :=
  ∀ rid rc out, l.call.requestId = some rid →
    (lastCall D past l).2.importResult = some (rc, out) → out.state = .committed →
    ResultAttested D rid out

/-- The record the call recovers. -/
def Label.recovers (D : Deployment) (w : World) (l : Label) : Option BusinessKeyJournalEntry :=
  match l.decision D w with
  | some (.recover _ e) => some e
  | _ => none

/-- No unfinished record carries the generation of the ACTIVE slots when it is looked at: by a
retry of its request, or by the recovery of `initialize`. -/
def NothingToRecover (D : Deployment) (w : World) (l : Label) : Prop :=
  (∀ e ∈ l.recovers D w, bothActive D w.prov e.generation = false) ∧
    match l.call with
    | .init => ∀ e ∈ unfinished (loadedState w), 0 < e.generation →
        e.generation ≠ (loadedState w).generation
    | _ => True

instance (D : Deployment) (w : World) (l : Label) : Decidable (NothingToRecover D w l) := by
  unfold NothingToRecover
  cases l.call <;> infer_instance

/-- The fields read back stand for the document read back. -/
theorem SimAt.loaded (h : SimAt D M K w s) : StateSim D M K (loadedState w) (reloaded s).mem := by
  have hdocs := h.disk.docs
  unfold loadedState reloaded
  cases hstate : w.disk.state with
  | nil =>
    rw [hstate] at hdocs
    rw [List.forall₂_nil_left_iff.mp hdocs]
    exact h.mem
  | cons doc docs =>
    rw [hstate] at hdocs
    obtain ⟨m, log, ⟨-, hsim⟩, -, hlog⟩ := List.forall₂_cons_left_iff.mp hdocs
    rw [hlog]
    exact hsim

private theorem recover_policyAt (hsim : Sim D M w s) (h : NothingToRecover D w l) (r : String)
    (e : BusinessKeyJournalEntry) : ¬ (policyAt D w l s).recover r e := by
  obtain ⟨K, hsim⟩ := hsim
  rintro (⟨a, hdec, hboth⟩ | ⟨hinit, he, hp, hgen, hpos⟩)
  · have hrecovers : l.recovers D w = some e := by
      unfold Label.recovers
      rw [hdec]
    rw [h.1 e hrecovers] at hboth
    cases hboth
  · have hall := h.2
    rw [hinit] at hall
    refine hall e (mem_unfinished hsim.loaded he hp) (hgen ▸ hpos) ?_
    rw [hsim.loaded.gen]
    exact hgen

/-- A record with its proofs, made for a request of the run filed under `r`. -/
def AttestedIn (D : Deployment) (ls : List Label) (r : String) (e : BusinessKeyJournalEntry) :
    Prop :=
  ∃ q ∈ requests ls, textDigest D.platform.crypto q.requestId = r ∧
    EntryAttested D q.requestId e

/-- A record that is certified is certified for the request of the call. -/
private theorem attestedIn_of_certify {r : String} {e : BusinessKeyJournalEntry}
    (h : (policyAt D w l s).certify r e) : AttestedIn D (past ++ [l]) r e := by
  obtain ⟨a, hdec, rfl, hatt⟩ := h
  obtain ⟨q, hq, ha, -⟩ := admitted_of_start hdec
  exact ⟨q, mem_requests_last hq, by rw [ha.rid, ha.requestId], ha.requestId ▸ hatt⟩

/-- **A COMMITTED result is fully attested**, in every run in which no record is recovered by its
generation number. The answer names the certificate it is bound to, and every item of it carries a
signature of the HSM over its own request, key and envelope, with the check value of a key that the
HSM unwrapped for this request and item. -/
theorem committed_attested (D : Deployment) (past : List Label) (l : Label)
    (hc : (daemon D).Along (NothingToRecover D) {} (past ++ [l]))
    (hsha : CollisionFree D (past ++ [l])) : CommittedAttested D past l := by
  obtain ⟨s, s', -, -, hpost, hsealed⟩ := call_refines
    (I := fun ls s => Sealed (scheme D) (AttestedIn D ls) s) sealed_fresh
    (fun _ _ _ _ l hsim hI hcl hsteps =>
      sealed_steps (fun _ _ => attestedIn_of_certify) (recover_policyAt hsim hcl) hsteps hsim.inv
        (hI.mono fun r e ⟨q, hq, hatt⟩ => ⟨q, mem_requests_append hq l, hatt⟩)) hc
  intro rid rc out hrid hreply hstate
  obtain ⟨e, he, hs, rfl⟩ := (hpost.verdict rid rc out hrid hreply).committed hstate
  obtain ⟨q, hq, hdigest, hatt⟩ :=
    hsealed _ (List.mem_cons_self ..) _ e he (phaseStatus_succeeded.mpr hs)
  rw [hsha.eq hrid hq hdigest] at hatt
  exact ⟨hatt.items_ne, hatt.certificate_ne, hatt.algorithm, hatt.items⟩

section Runs

open Bench

set_option maxRecDepth 10000 in
/-- **The retry of a request whose signatures failed is answered COMMITTED without a proof.** -/
theorem committed_not_attested : ¬ CommittedAttested daemonD unsignedRun retryA := by
  intro h
  have hrun : (lastCall daemonD unsignedRun retryA).2.importResult.map
      (fun r => (r.2.state, r.2.items.map (·.importProof))) = some (.committed, [[], []]) := by
    decide +kernel
  obtain ⟨⟨rc, out⟩, hres, hout⟩ := Option.map_eq_some_iff.mp hrun
  obtain ⟨hstate, hproofs⟩ := Prod.mk.inj hout
  obtain ⟨it, items, hitems, hit, -⟩ := List.map_eq_cons_iff.mp hproofs
  have hlen := ((h "A" rc out rfl hres hstate).items it (hitems ▸ List.mem_cons_self ..)).length
  rw [hit] at hlen
  cases hlen

set_option maxRecDepth 10000 in
/-- An import on a fresh device is answered COMMITTED, with its proofs. -/
theorem committed_attested_first_import :
    (lastCall daemonD startUp retryA).2.importResult.map (·.2.state) = some .committed ∧
      CommittedAttested daemonD startUp retryA := by
  have hrun : (lastCall daemonD startUp retryA).2.importResult.map (·.2.state) = some .committed ∧
      (daemon daemonD).Along (NothingToRecover daemonD) {} (startUp ++ [retryA]) ∧
      CollisionFree daemonD (startUp ++ [retryA]) := by decide +kernel
  obtain ⟨hstate, halong, hsha⟩ := hrun
  exact ⟨hstate, committed_attested daemonD startUp retryA halong hsha⟩

end Runs

end TboxSec.Keyprov
