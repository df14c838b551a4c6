import TboxSec.Keyprov.AdmissionSpec
import TboxSec.Keyprov.LedgerSpec
import TboxSec.Keyprov.Bench

/-!
# Fail-closed reading of the journal

`loadJournalEx` tells six outcomes of a journal lookup apart, and `importKl1` treats each by
itself. `import` goes through the wrapper `loadJournal`, which **folds them into one bit**: a
record that fails its MAC is shown as an empty one, and is then "recovered" and rewritten; a
corrupt record, an unsupported document and an unreadable store are shown as no record, and a
new operation starts.

Everything here is about a single call in an **arbitrary world**, tampered or not.
-/

namespace TboxSec.Keyprov

open Canonical Crash Prog

variable {D : Deployment} {ω : Oracle} {w : World} {l : Label}
  {requestId domain : String} {items : List WrappedKeyItem} {context : KeyprovImportContext}

/-! ### Calls without an effect -/

/-- The requests that can change something outside the call: saves, ledger puts, unwraps,
signatures and slot encryptions. -/
def Asked.effects (k : Asked) : ℕ × ℕ × ℕ × ℕ × ℕ := (k.saves, k.puts, k.unwraps, k.signs, k.ivs)

/-- The call left the daemon and its disk as they were, and made no request that could change
anything. -/
def Unmoved (w : World) (r : World × Reply) : Prop :=
  ∃ k : Asked, k.effects = (0, 0, 0, 0, 0) ∧ r.1 = { w with asked := k }

/-- Asking for the time has no effect on the store. -/
private theorem effects_trustedNowMs : Keeps (·.asked.effects) (trustedNowMs ω) := fun _ => rfl

/-- Asking for the device binding has none. -/
private theorem effects_probeBinding : Keeps (·.asked.effects) (probeBinding ω) := fun _ => rfl

/-- Asking for the latest time that it can be has none. -/
private theorem effects_kl1TrustedUpperNow :
    Keeps (·.asked.effects) (kl1TrustedUpperNow ω) := fun _ => rfl

/-- The checks that both imports share have none. -/
private theorem effects_checkRequest :
    Keeps (·.asked.effects) (checkRequest D ω requestId domain items) := by
  unfold checkRequest
  simp only
  split
  · exact keeps_pure _
  refine effects_probeBinding.bind fun b => ?_
  split
  · exact keeps_pure _
  split
  · exact keeps_pure _
  · exact keeps_pure _

/-- The gates of the legacy import have none. -/
private theorem effects_importGates :
    Keeps (·.asked.effects) (importGates D ω requestId domain items) := by
  refine (keeps_gets _).bind fun svc => ?_
  split
  · exact keeps_pure _
  split
  · exact keeps_pure _
  refine effects_checkRequest.bind fun r => ?_
  cases r with
  | error rc => exact keeps_pure _
  | ok a => exact keeps_pure _

/-- The gates of the KL1 import have none. -/
private theorem effects_importKl1Gates :
    Keeps (·.asked.effects) (importKl1Gates D ω requestId domain items context) := by
  refine (keeps_gets _).bind fun svc => ?_
  split
  · exact keeps_pure _
  split
  · exact keeps_pure _
  refine effects_checkRequest.bind fun r => ?_
  cases r with
  | error rc => exact keeps_pure _
  | ok a => exact keeps_pure _

/-- The check of versions and validity windows has none. -/
private theorem effects_validateVersionAndTime :
    Keeps (·.asked.effects) (validateVersionAndTime D ω domain items) := by
  refine (keeps_gets _).bind fun prov => effects_trustedNowMs.bind fun t => ?_
  cases t with
  | none => exact keeps_pure _
  | some now => exact keeps_pure _

/-- The admission of a KL1 request has none. -/
private theorem effects_kl1Admission {a : Admitted} :
    Keeps (·.asked.effects) (kl1Admission D ω a context) := by
  refine (keeps_gets _).bind fun svc => effects_kl1TrustedUpperNow.bind fun u => ?_
  simp only
  split
  · exact keeps_pure _
  split
  · exact keeps_pure _
  refine effects_validateVersionAndTime.bind fun rc => ?_
  split
  · exact keeps_pure _
  · exact effects_kl1TrustedUpperNow.bind fun _ => keeps_pure _

/-- So deciding about a legacy request has no effect on the store. -/
private theorem effects_importDecide :
    Keeps (·.asked.effects) (importDecide D ω requestId domain items) := by
  refine effects_importGates.bind fun r => ?_
  cases r with
  | error r => exact keeps_pure _
  | ok a =>
    refine (keeps_gets _).bind fun prov => ?_
    split
    · exact keeps_pure _
    refine effects_validateVersionAndTime.bind fun rc => ?_
    split
    · exact keeps_pure _
    · exact keeps_pure _

/-- Nor has deciding about a KL1 request. -/
private theorem effects_importKl1Decide :
    Keeps (·.asked.effects) (importKl1Decide D ω requestId domain items context) := by
  refine effects_importKl1Gates.bind fun r => ?_
  cases r with
  | error r => exact keeps_pure _
  | ok a =>
    refine (keeps_gets _).bind fun w => ?_
    simp only
    split
    · exact keeps_pure _
    · split
      · exact keeps_pure _
      refine effects_kl1Admission.bind fun rc => ?_
      split
      · exact keeps_pure _
      · exact keeps_pure _
    · exact keeps_pure _
    · exact keeps_pure _

/-- **An import that answers at once touches nothing.** -/
theorem unmoved_of_reply {rc : ErrorCode} {out : ImportResult}
    (h : l.decision D w = some (.reply rc out)) :
    Unmoved w (callStep D w l) ∧ (callStep D w l).2.importResult = some (rc, out) := by
  cases hl : l.call with
  | importBatch requestId domain items =>
    have hreads : Reads (importDecide D l.oracle requestId domain items) { w with asked := {} }
        (Decided D { w with asked := {} } requestId domain items) := reads_importDecide
    obtain ⟨d, k, hrun, -⟩ := hreads
    have hkeeps := wp_done (effects_importDecide (D := D) { w with asked := {} }) hrun
    simp only [Label.decision, hl, hrun, Option.some.injEq] at h
    subst h
    have hcall : callStep D w l = ({ w with asked := k }, .result rc out) := by
      have hbatch : importBatch D l.oracle requestId domain items { w with asked := {} } =
          .done (rc, out) { w with asked := k } := by
        change Prog.bind (importDecide D l.oracle requestId domain items) _ _ = _
        unfold Prog.bind
        rw [hrun]
        rfl
      simp only [callStep, hl, hbatch, settle]
    rw [hcall]
    exact ⟨⟨k, hkeeps, rfl⟩, rfl⟩
  | importKl1 requestId domain items context =>
    have hreads : Reads (importKl1Decide D l.oracle requestId domain items context)
        { w with asked := {} }
        (fun r => Decided D { w with asked := {} } requestId domain items r.1) :=
      reads_importKl1Decide
    obtain ⟨⟨d, identity⟩, k, hrun, -⟩ := hreads
    have hkeeps := wp_done (effects_importKl1Decide (D := D) { w with asked := {} }) hrun
    simp only [Label.decision, hl, hrun, Option.some.injEq] at h
    subst h
    have hcall : callStep D w l = ({ w with asked := k },
        .resultKl1 rc out
          { snapshot := computeSnapshot D w.svc, requestIdentityDigest := identity }) := by
      have hkl1 : importKl1 D l.oracle requestId domain items context { w with asked := {} } =
          .done (rc, out,
            { snapshot := computeSnapshot D w.svc, requestIdentityDigest := identity })
            { w with asked := k } := by
        change Prog.bind (importKl1Decide D l.oracle requestId domain items context) _ _ = _
        unfold Prog.bind
        rw [hrun]
        rfl
      simp only [callStep, hl, hkl1, settle]
    rw [hcall]
    exact ⟨⟨k, hkeeps, rfl⟩, rfl⟩
  | _ => simp only [Label.decision, hl, reduceCtorEq] at h

/-! ### What the legacy import decides -/

/-- The request as the gates of `import` admit it, in the environment `ω`. -/
def admittedRequest (D : Deployment) (ω : Oracle) (w : World) (requestId domain : String)
    (items : List WrappedKeyItem) : Option Admitted :=
  if w.svc.shuttingDown || !D.service.enabled || !w.svc.importReady then none
  else if validateStructure D.service requestId domain items ≠ .success then none
  else if !bindingAgreementOk (ω.binding 0) then none
  else
    match checkRows D requestId domain (ω.binding 0) items with
    | .error _ => none
    | .ok rows =>
      some
        { requestId
          businessDomain := domain
          rows
          binding := ω.binding 0
          ridDigest := textDigest D.platform.crypto requestId
          digest := buildRequestDigest D requestId domain rows }

/-- The clock is trusted, and the version and validity check passes at its time. -/
def Timely (D : Deployment) (ω : Oracle) (w : World) (domain : String)
    (items : List WrappedKeyItem) : Prop :=
  (ω.now 0).trustState = .trusted ∧
    versionTimeCheck D w.prov domain (ω.now 0).utcNowMs items = .success

instance : Decidable (Timely D ω w domain items) := inferInstanceAs (Decidable (_ ∧ _))

/-- An admitted request is looked up under the digest of its own id. -/
theorem ridDigest_of_admittedRequest {a : Admitted}
    (h : admittedRequest D ω w requestId domain items = some a) :
    a.ridDigest = textDigest D.platform.crypto requestId := by
  unfold admittedRequest at h
  split at h
  · cases h
  split at h
  · cases h
  split at h
  · cases h
  split at h
  · cases h
  · obtain rfl := Option.some.inj h
    rfl

/-- The gates of `import` ask for one device binding and nothing else. -/
theorem importGates_eq :
    ∃ r k, importGates D ω requestId domain items { w with asked := {} } =
        .done r { w with asked := k } ∧ k.nows = 0 ∧
      r.toOption = admittedRequest D ω w requestId domain items := by
  unfold importGates admittedRequest
  change ∃ r k, (if (w.svc.shuttingDown || !D.service.enabled) = true then
    (Pure.pure _ : SecM (Except (ErrorCode × ImportResult) Admitted)) else _) _ = _ ∧ _
  by_cases hdown : (w.svc.shuttingDown || !D.service.enabled) = true
  · refine ⟨_, _, by rw [if_pos hdown]; rfl, rfl, ?_⟩
    rw [if_pos (by simp [hdown])]
    rfl
  rw [if_neg hdown]
  by_cases hready : (!w.svc.importReady) = true
  · refine ⟨_, _, by rw [if_pos hready]; rfl, rfl, ?_⟩
    rw [if_pos (by simp [hready])]
    rfl
  rw [if_neg hready, if_neg (by simp_all)]
  change ∃ r k, Prog.bind (checkRequest D ω requestId domain items) _ _ = _ ∧ _
  unfold Prog.bind checkRequest
  by_cases hstruct : validateStructure D.service requestId domain items ≠ .success
  · rw [if_pos hstruct, if_pos hstruct]
    exact ⟨_, _, rfl, rfl, rfl⟩
  rw [if_neg hstruct, if_neg hstruct]
  by_cases hbinding : (!bindingAgreementOk (ω.binding 0)) = true
  · rw [if_pos hbinding]
    refine ⟨.error (.businessKeyNotReady, refusal requestId domain .failed), { bindings := 1 },
      ?_, rfl, rfl⟩
    simp only [Bind.bind, Prog.bind, probeBinding, hbinding, if_true]
    rfl
  rw [if_neg hbinding]
  cases hrows : checkRows D requestId domain (ω.binding 0) items with
  | error rc =>
    refine ⟨.error (rc, refusal requestId domain .failed), { bindings := 1 }, ?_, rfl, rfl⟩
    simp only [Bind.bind, Prog.bind, probeBinding, if_neg hbinding, hrows]
    rfl
  | ok rows =>
    refine ⟨.ok _, { bindings := 1 }, ?_, rfl, rfl⟩
    simp only [Bind.bind, Prog.bind, probeBinding, if_neg hbinding, hrows]
    rfl

/-- The version and time check takes the first sample of the clock. -/
private theorem validateVersionAndTime_eq {k : Asked} (hnows : k.nows = 0) :
    ∃ rc k', validateVersionAndTime D ω domain items { w with asked := k } =
        .done rc { w with asked := k' } ∧
      (rc = .success ↔ Timely D ω w domain items) := by
  unfold Timely
  rw [← hnows]
  by_cases htrusted : (ω.now k.nows).trustState = .trusted
  · refine ⟨versionTimeCheck D w.prov domain (ω.now k.nows).utcNowMs items,
      { k with nows := k.nows + 1 }, ?_, ?_⟩
    · simp only [validateVersionAndTime, trustedNowMs, trustedTimeNow, Bind.bind, Prog.bind,
        Prog.gets, Pure.pure, Prog.pure, htrusted, if_true]
    · simp [htrusted]
  · refine ⟨.businessKeyNotReady, { k with nows := k.nows + 1 }, ?_, ?_⟩
    · simp only [validateVersionAndTime, trustedNowMs, trustedTimeNow, Bind.bind, Prog.bind,
        Prog.gets, Pure.pure, Prog.pure, htrusted, if_false]
    · simp [htrusted]

/-- **The legacy import decides** by its gates, the folded lookup and the clock. -/
theorem decision_importBatch :
    ∃ d, (Label.mk (.importBatch requestId domain items) ω).decision D w = some d ∧
      match admittedRequest D ω w requestId domain items with
      | none => ∃ rc out, d = .reply rc out
      | some a =>
        match loadJournal D.platform w.prov a.ridDigest with
        | some e => d = existingDecision a e
        | none =>
          if Timely D ω w domain items then d = .start a else ∃ rc out, d = .reply rc out := by
  -- the gates are run once, and what follows depends on their result alone
  obtain ⟨r, k, hgates, hnows, hr⟩ := importGates_eq (D := D) (ω := ω) (w := w)
  have hdecide : ∀ d w', importDecide D ω requestId domain items { w with asked := {} } =
      .done d w' → (Label.mk (.importBatch requestId domain items) ω).decision D w = some d := by
    intro d w' hrun
    simp only [Label.decision, hrun]
  rw [← hr]
  cases r with
  | error r =>
    refine ⟨.reply r.1 r.2, hdecide _ { w with asked := k } ?_, r.1, r.2, rfl⟩
    change Prog.bind (importGates D ω requestId domain items) _ _ = _
    unfold Prog.bind
    rw [hgates]
    rfl
  | ok a =>
    have hrest : ∀ d w', (match loadJournal D.platform w.prov a.ridDigest with
        | some e => (Pure.pure (existingDecision a e) : SecM Decision)
        | none => do
          let rc ← validateVersionAndTime D ω domain items
          if rc ≠ ErrorCode.success then Pure.pure (.reply rc (refusal requestId domain .failed))
          else Pure.pure (.start a)) { w with asked := k } = .done d w' →
        (Label.mk (.importBatch requestId domain items) ω).decision D w = some d := by
      intro d w' hrun
      refine hdecide d w' ?_
      change Prog.bind (importGates D ω requestId domain items) _ _ = _
      unfold Prog.bind
      rw [hgates]
      exact hrun
    simp only [Except.toOption]
    cases hload : loadJournal D.platform w.prov a.ridDigest with
    | some e =>
      refine ⟨existingDecision a e, hrest _ { w with asked := k } ?_, rfl⟩
      rw [hload]
      rfl
    | none =>
      obtain ⟨rc, k', hrun, hrc⟩ := validateVersionAndTime_eq (w := w) hnows
      simp only
      by_cases htimely : Timely D ω w domain items
      · refine ⟨.start a, hrest _ { w with asked := k' } ?_, by rw [if_pos htimely]⟩
        rw [hload]
        change Prog.bind (validateVersionAndTime D ω domain items) _ _ = _
        unfold Prog.bind
        rw [hrun]
        simp only [hrc.mpr htimely]
        rfl
      · refine ⟨.reply rc (refusal requestId domain .failed), hrest _ { w with asked := k' } ?_, ?_⟩
        · rw [hload]
          change Prog.bind (validateVersionAndTime D ω domain items) _ _ = _
          unfold Prog.bind
          rw [hrun]
          exact congrFun (if_pos (mt hrc.mp htimely)) _
        · rw [if_neg htimely]
          exact ⟨_, _, rfl⟩

/-! ### What recovery does to a record -/

/-- The provider holds an authenticated record of the request id digest `r`, in a terminal
phase. -/
def Settled (P : Platform) (prov : Provider) (r : String) : Prop :=
  ∃ e : BusinessKeyJournalEntry, e.phase.terminal = true ∧
    prov.state.journal.find? r = some ⟨e, journalMac P prov.macKey e⟩

/-- Neither a save nor a put fails or crashes. -/
def Oracle.Unfailing (ω : Oracle) : Prop := (∀ n, ω.save n = .ok) ∧ ∀ n, ω.put n = .ok

/-- The newest document is what the provider holds. -/
def World.Current (w : World) : Prop := w.disk.state.head? = some ⟨1, w.prov.state⟩

/-- What the writes of a recovery leave of the provider. -/
structure Rewrites (P : Platform) (ω : Oracle) (w w' : World) : Prop where
  ready : w'.prov.ready = w.prov.ready
  store : w'.prov.store = w.prov.store
  macKey : w'.prov.macKey = w.prov.macKey
  kek : w'.disk.kek = w.disk.kek
  settled : ∀ r, Settled P w.prov r → Settled P w'.prov r
  current : ω.Unfailing → w.prov.store = some true → w.Current → w'.Current

/-- Rewriting the record may go on from what it has left. -/
theorem Rewrites.trans {P : Platform} {w₁ w₂ w₃ : World} (h : Rewrites P ω w₁ w₂)
    (h' : Rewrites P ω w₂ w₃) : Rewrites P ω w₁ w₃ where
  ready := h'.ready.trans h.ready
  store := h'.store.trans h.store
  macKey := h'.macKey.trans h.macKey
  kek := h'.kek.trans h.kek
  settled := fun r hr => h'.settled r (h.settled r hr)
  current := fun hω hstore hw => h'.current hω (h.store.trans hstore) (h.current hω hstore hw)

/-- A save writes what the provider holds. -/
private theorem wp_saveState_current :
    Prog.wp (saveState ω)
      (fun _ w' => w'.prov = w.prov ∧ w'.svc = w.svc ∧ w'.disk.kek = w.disk.kek ∧
        (ω.Unfailing → w.prov.store = some true → w'.Current))
      (fun _ => ¬ ω.Unfailing) w := by
  unfold Prog.wp saveState
  split
  · rename_i hstore
    exact ⟨rfl, rfl, rfl, fun _ h => absurd h hstore⟩
  split
  · exact ⟨rfl, rfl, rfl, fun _ _ => rfl⟩
  · rename_i hsave
    exact ⟨rfl, rfl, rfl, fun hω => (by rw [hω.1] at hsave; cases hsave)⟩
  · rename_i hsave
    exact ⟨rfl, rfl, rfl, fun hω => (by rw [hω.1] at hsave; cases hsave)⟩
  · rename_i hsave
    exact fun hω => (by rw [hω.1] at hsave; cases hsave)

/-- A terminal record is saved: it is authenticated, and no other one changes. -/
private theorem wp_saveJournal_settled (hready : w.prov.ready = true) {e : BusinessKeyJournalEntry}
    (he : e.phase.terminal = true) :
    Prog.wp (saveJournal D.platform ω e)
      (fun _ w' => Rewrites D.platform ω w w' ∧ Settled D.platform w'.prov e.requestIdDigest ∧
        (ω.Unfailing → w.prov.store = some true → w'.Current))
      (fun _ => ¬ ω.Unfailing) w := by
  refine Prog.wp_bind.mpr (Prog.wp_gets.mpr ?_)
  rw [if_neg (by simp [hready])]
  refine Prog.wp_bind.mpr (Prog.wp_modify.mpr ?_)
  refine Prog.wp_mono wp_saveState_current ?_ fun _ h => h
  rintro rc w' ⟨hprov, -, hkek, hcurrent⟩
  have hself : Settled D.platform w'.prov e.requestIdDigest := by
    rw [hprov]
    exact ⟨e, he, OrdMap.find?_insert_self ..⟩
  refine ⟨⟨by rw [hprov]; rfl, by rw [hprov]; rfl, by rw [hprov]; rfl, hkek, fun r hr => ?_,
    fun hω hstore _ => hcurrent hω hstore⟩, hself, hcurrent⟩
  by_cases hrid : r = e.requestIdDigest
  · rw [hrid]
    exact hself
  · obtain ⟨e', he', hfind⟩ := hr
    rw [hprov]
    exact ⟨e', he', (OrdMap.find?_insert_of_ne hrid).trans hfind⟩

/-- A rollback leaves the journal alone. -/
private theorem wp_rollbackStaging_settled (hready : w.prov.ready = true) (generation : ℕ) :
    Prog.wp (rollbackStaging ω generation)
      (fun _ w' => w'.prov.ready = true ∧ w'.prov.store = w.prov.store ∧
        w'.prov.macKey = w.prov.macKey ∧ w'.disk.kek = w.disk.kek ∧
        w'.prov.state.journal = w.prov.state.journal)
      (fun _ => ¬ ω.Unfailing) w := by
  refine Prog.wp_bind.mpr (Prog.wp_gets.mpr ?_)
  rw [if_neg (by simp [hready])]
  split
  · exact ⟨hready, rfl, rfl, rfl, rfl⟩
  refine Prog.wp_bind.mpr (Prog.wp_modify.mpr ?_)
  refine Prog.wp_mono wp_saveState_current ?_ fun _ h => h
  rintro rc w' ⟨hprov, -, hkek, -⟩
  rw [hprov]
  exact ⟨hready, rfl, rfl, hkek, rfl⟩

/-- Where the store does not fail, the ledger is written and nothing else changes. -/
private theorem wp_ledgerPuts_unfailing (ms : List BusinessKeyMetadata) :
    Prog.wp (ledgerPuts ω ms) (fun _ w' => OnlyLedger w w') (fun _ => ¬ ω.Unfailing) w := by
  by_cases hω : ω.Unfailing
  · induction ms generalizing w with
    | nil => exact ⟨rfl, rfl, rfl, rfl, rfl⟩
    | cons m ms ih =>
      refine Prog.wp_bind.mpr ?_
      unfold Prog.wp ledgerPut
      simp only [hω.2]
      refine Prog.wp_mono (m := ledgerPuts ω ms) ih (fun _ w' h' => ?_) fun _ h => h
      exact ⟨h'.prov, h'.svc, h'.state, h'.kek, h'.commits⟩
  · exact wp_ledgerPuts ms (fun w' h => h) fun _ _ _ _ => hω

/-- **Recovery settles the record it is given**, whatever it says, and keeps the settled ones. -/
theorem wp_recoverEntry_settled (hready : w.prov.ready = true) (e : BusinessKeyJournalEntry) :
    Prog.wp (recoverEntry D ω e)
      (fun _ w' => Rewrites D.platform ω w w' ∧ Settled D.platform w'.prov e.requestIdDigest ∧
        (ω.Unfailing → w.prov.store = some true → w'.Current))
      (fun _ => ¬ ω.Unfailing) w := by
  refine Prog.wp_bind.mpr ?_
  change Prog.wp _ _ _ { w with asked.nows := w.asked.nows + 1 }
  refine Prog.wp_bind.mpr (Prog.wp_gets.mpr ?_)
  split
  · -- the slots carry the generation: the record is saved as succeeded, then posted
    refine Prog.wp_bind.mpr (Prog.wp_mono (wp_saveJournal_settled (by exact hready) rfl) ?_
      fun _ h => h)
    rintro rc w₁ ⟨h₁, hs₁, hcurrent₁⟩
    refine Prog.wp_bind.mpr (Prog.wp_mono (wp_ledgerPuts_unfailing _) ?_ fun _ h => h)
    rintro - w₂ h₂
    have hcurrent : ω.Unfailing → w.prov.store = some true → w₂.Current := by
      intro hω hstore
      have hcurrent := hcurrent₁ hω hstore
      unfold World.Current at hcurrent ⊢
      rw [h₂.prov, h₂.state]
      exact hcurrent
    refine Prog.wp_pure.mpr ⟨⟨?_, ?_, ?_, ?_, ?_, fun hω hstore _ => hcurrent hω hstore⟩, ?_,
      hcurrent⟩
    · rw [h₂.prov]; exact h₁.ready
    · rw [h₂.prov]; exact h₁.store
    · rw [h₂.prov]; exact h₁.macKey
    · rw [h₂.kek]; exact h₁.kek
    · rw [h₂.prov]; exact h₁.settled
    · rw [h₂.prov]; exact hs₁
  · -- otherwise the staging area is emptied and the record given up
    refine Prog.wp_bind.mpr (Prog.wp_mono (wp_rollbackStaging_settled (by exact hready) _) ?_
      fun _ h => h)
    rintro rc w₁ ⟨hready₁, hstore₁, hmac₁, hkek₁, hjournal₁⟩
    refine Prog.wp_bind.mpr (Prog.wp_mono (wp_saveJournal_settled hready₁ rfl) ?_ fun _ h => h)
    rintro rc w₂ ⟨h₂, hs₂, hcurrent₂⟩
    have hcurrent : ω.Unfailing → w.prov.store = some true → w₂.Current :=
      fun hω hstore => hcurrent₂ hω (hstore₁.trans hstore)
    refine Prog.wp_pure.mpr ⟨⟨?_, ?_, ?_, ?_, fun r hr => ?_,
      fun hω hstore _ => hcurrent hω hstore⟩, hs₂, hcurrent⟩
    · exact h₂.ready.trans (hready₁.trans hready.symm)
    · exact h₂.store.trans hstore₁
    · exact h₂.macKey.trans hmac₁
    · exact h₂.kek.trans hkek₁
    · refine h₂.settled r ?_
      obtain ⟨e', he', hfind⟩ := hr
      exact ⟨e', he', by rw [hjournal₁, hmac₁]; exact hfind⟩

/-! ### The folded lookup -/

section Lookup

variable {P : Platform} {prov : Provider} {r : String}

/-- A record fails its MAC check. -/
private theorem authFailed_iff :
    (loadJournalEx P prov r).status = .authFailed ↔
      prov.readable = true ∧ prov.stateVersionUnknown = false ∧
        ∃ js, prov.state.journal.find? r = some js ∧
          js.macHex ≠ journalMac P prov.macKey js.entry := by
  unfold loadJournalEx
  cases hread : prov.readable with
  | false => simp
  | true =>
    cases hversion : prov.stateVersionUnknown with
    | true => simp
    | false =>
      cases hfind : prov.state.journal.find? r with
      | none => simp
      | some js =>
        by_cases hmac : js.macHex = journalMac P prov.macKey js.entry
        · by_cases hrid : js.entry.requestIdDigest = r
          · simp [hmac, hrid]
          · simp [hmac, hrid]
        · simp [hmac]

/-- A lookup that finds a record shows the one that is stored. -/
theorem exists_of_found (h : (loadJournalEx P prov r).status = .found) :
    ∃ js, prov.state.journal.find? r = some js ∧
      loadJournalEx P prov r = { status := .found, entry := some js.entry } := by
  revert h
  unfold loadJournalEx
  split
  · exact fun h => (by cases h)
  split
  · exact fun h => (by cases h)
  split
  · exact fun h => (by cases h)
  rename_i js hjs
  split
  · exact fun h => (by cases h)
  split
  · exact fun h => (by cases h)
  · exact fun _ => ⟨js, hjs, rfl⟩

/-- A lookup that found a record has it. -/
private theorem entry_of_found (h : (loadJournalEx P prov r).status = .found) :
    ∃ e, (loadJournalEx P prov r).entry = some e := by
  obtain ⟨js, -, hload⟩ := exists_of_found h
  exact ⟨js.entry, by rw [hload]⟩

/-- **What the wrapper shows** of each outcome. -/
theorem loadJournal_eq :
    loadJournal P prov r =
      match (loadJournalEx P prov r).status with
      | .found => (loadJournalEx P prov r).entry
      | .authFailed => some { requestIdDigest := r, phase := .unknown }
      | _ => none := by
  unfold loadJournal
  cases hstatus : (loadJournalEx P prov r).status with
  | found =>
    obtain ⟨e, he⟩ := entry_of_found hstatus
    simp [hstatus, he]
  | _ => simp [hstatus]

end Lookup

/-! ### Failing closed -/

/-- The lookup neither shows a record nor says that there is none. -/
def JournalLoadStatus.Undetermined (s : JournalLoadStatus) : Prop := s ≠ .found ∧ s ≠ .notFound

/-- The call fails closed: it starts a new operation only if the lookup says that there is no
record, and touches nothing if the lookup cannot tell. -/
structure FailsClosed (D : Deployment) (w : World) (requestId : String) (l : Label) : Prop where
  start : ∀ a, l.decision D w = some (.start a) →
    (loadJournalEx D.platform w.prov (textDigest D.platform.crypto requestId)).status = .notFound
  unmoved :
    (loadJournalEx D.platform w.prov
      (textDigest D.platform.crypto requestId)).status.Undetermined →
    Unmoved w (callStep D w l)

/-- A request that is answered at once fails closed. -/
private theorem failsClosed_of_reply {rc : ErrorCode} {out : ImportResult}
    (h : l.decision D w = some (.reply rc out)) : FailsClosed D w requestId l where
  start := fun a ha => (by rw [h] at ha; cases ha)
  unmoved := fun _ => (unmoved_of_reply h).1

/-- A record that is found never leads to a new operation. -/
private theorem existingDecision_ne_start {a a' : Admitted} {e : BusinessKeyJournalEntry} :
    existingDecision a e ≠ .start a' := by
  intro h
  by_cases hconflict : Conflicts a e
  · rw [existingDecision_of_conflict hconflict] at h
    cases h
  · rcases existingDecision_cases hconflict with ⟨-, hd⟩ | ⟨-, hd⟩ | ⟨-, hd⟩
    all_goals
      rw [hd] at h
      cases h

/-- **The KL1 import fails closed**, always. -/
theorem failsClosed_importKl1 :
    FailsClosed D w requestId ⟨.importKl1 requestId domain items context, ω⟩ := by
  have hreads : Reads (importKl1Decide D ω requestId domain items context) { w with asked := {} }
      (fun r => (∀ a, r.1 = .start a → (loadJournalEx D.platform w.prov
          (textDigest D.platform.crypto requestId)).status = .notFound) ∧
        ((loadJournalEx D.platform w.prov
          (textDigest D.platform.crypto requestId)).status.Undetermined →
            ∃ rc out, r.1 = .reply rc out)) := by
    refine reads_importKl1Gates.bind fun r k hr => ?_
    cases r with
    | error r => exact .pure ⟨fun a ha => (by cases ha), fun _ => ⟨_, _, rfl⟩⟩
    | ok a =>
      have hrid : a.ridDigest = textDigest D.platform.crypto requestId := by
        rw [hr.1.rid, hr.1.requestId]
      refine Reads.gets_bind ?_
      simp only [id, hrid]
      split
      · rename_i e hstatus hentry
        exact .pure ⟨fun a' ha' => absurd ha' existingDecision_ne_start,
          fun hu => absurd hstatus hu.1⟩
      · rename_i hstatus
        split
        · exact .pure ⟨fun a' ha' => (by cases ha'), fun _ => ⟨_, _, rfl⟩⟩
        refine reads_kl1Admission.bind fun rc k' _ => ?_
        split
        · exact .pure ⟨fun a' ha' => (by cases ha'), fun _ => ⟨_, _, rfl⟩⟩
        · exact .pure ⟨fun _ _ => hstatus, fun hu => absurd hstatus hu.2⟩
      · exact .pure ⟨fun a' ha' => (by cases ha'), fun _ => ⟨_, _, rfl⟩⟩
      · exact .pure ⟨fun a' ha' => (by cases ha'), fun _ => ⟨_, _, rfl⟩⟩
  obtain ⟨⟨d, identity⟩, k, hrun, hstart, hreply⟩ := hreads
  have hdecision : (Label.mk (.importKl1 requestId domain items context) ω).decision D w =
      some d := by
    simp only [Label.decision, hrun]
  refine ⟨fun a ha => ?_, fun hu => ?_⟩
  · rw [hdecision] at ha
    exact hstart a (Option.some.inj ha)
  · obtain ⟨rc, out, hd⟩ := hreply hu
    exact (unmoved_of_reply (hdecision.trans (congrArg some hd))).1

/-- The recovery of a record that failed its MAC check leaves an authenticated one. -/
private theorem not_unmoved_of_recover {a : Admitted} {e : BusinessKeyJournalEntry}
    (hfailed : (loadJournalEx D.platform w.prov e.requestIdDigest).status = .authFailed)
    (hready : w.svc.importReady = true)
    (hdecision : (Label.mk (.importBatch requestId domain items) ω).decision D w =
      some (.recover a e)) :
    ¬ Unmoved w (callStep D w ⟨.importBatch requestId domain items, ω⟩) := by
  obtain ⟨hread, -, js, hjs, hmac⟩ := authFailed_iff.mp hfailed
  have hprov : w.prov.ready = true := by
    unfold Provider.readable at hread
    exact (Bool.and_eq_true_iff.mp hread).1
  have hreads : Reads (importDecide D ω requestId domain items) { w with asked := {} }
      (Decided D { w with asked := {} } requestId domain items) := reads_importDecide
  obtain ⟨d, k, hrun, -⟩ := hreads
  simp only [Label.decision, hrun, Option.some.injEq] at hdecision
  subst hdecision
  have hwp : Prog.wp (importBatch D ω requestId domain items)
      (fun _ w' => Settled D.platform w'.prov e.requestIdDigest ∧
        w'.prov.macKey = w.prov.macKey)
      (fun _ => True) { w with asked := {} } := by
    refine Prog.wp_bind.mpr ?_
    unfold Prog.wp
    rw [hrun]
    refine Prog.wp_bind.mpr (Prog.wp_bind.mpr ?_)
    refine Prog.wp_mono (wp_recoverEntry_settled (by exact hprov) e) ?_ fun _ _ => trivial
    rintro e' w' ⟨hrewrites, hsettled, -⟩
    exact ⟨hsettled, hrewrites.macKey⟩
  rintro ⟨k', -, hsame⟩
  have hend : ((callStep D w ⟨.importBatch requestId domain items, ω⟩).1.svc.importReady = true) →
      Settled D.platform (callStep D w ⟨.importBatch requestId domain items, ω⟩).1.prov
          e.requestIdDigest ∧
        (callStep D w ⟨.importBatch requestId domain items, ω⟩).1.prov.macKey = w.prov.macKey := by
    simp only [callStep]
    unfold Prog.wp at hwp
    cases hm : importBatch D ω requestId domain items { w with asked := {} } with
    | done r w' =>
      rw [hm] at hwp
      exact fun _ => hwp
    | crashed d => exact fun h => (by cases h)
  rw [hsame] at hend
  obtain ⟨⟨e', -, hfind⟩, -⟩ := hend hready
  -- the same record would both fail and pass its check
  rw [hjs] at hfind
  obtain rfl := Option.some.inj hfind
  exact hmac rfl

/-- A request is admitted only by a service that is ready. -/
theorem importReady_of_admittedRequest {a : Admitted}
    (h : admittedRequest D ω w requestId domain items = some a) : w.svc.importReady = true := by
  unfold admittedRequest at h
  split at h
  · cases h
  · rename_i hgate
    simp only [Bool.or_eq_true, not_or] at hgate
    simpa using hgate.2

/-- **The legacy import fails closed** unless it folds the outcome of the lookup the wrong way:
a request that gets through the gates finds a record that fails its MAC check, or passes the
version and time check while the lookup cannot tell whether there is a record. The KL1 import
always does. -/
theorem fails_closed_iff (D : Deployment) (w : World) (ω : Oracle) (requestId domain : String)
    (items : List WrappedKeyItem) (context : KeyprovImportContext) :
    (FailsClosed D w requestId ⟨.importBatch requestId domain items, ω⟩ ↔
      ¬ ((admittedRequest D ω w requestId domain items).isSome = true ∧
        ((loadJournalEx D.platform w.prov
            (textDigest D.platform.crypto requestId)).status = .authFailed ∨
          (loadJournalEx D.platform w.prov
            (textDigest D.platform.crypto requestId)).status.Undetermined ∧
            Timely D ω w domain items))) ∧
    FailsClosed D w requestId ⟨.importKl1 requestId domain items context, ω⟩ := by
  refine ⟨?_, failsClosed_importKl1⟩
  obtain ⟨d, hdecision, hd⟩ := decision_importBatch (D := D) (ω := ω) (w := w)
  cases hgate : admittedRequest D ω w requestId domain items with
  | none =>
    rw [hgate] at hd
    obtain ⟨rc, out, rfl⟩ := hd
    exact iff_of_true (failsClosed_of_reply hdecision) (by simp)
  | some a =>
    rw [hgate] at hd
    simp only [ridDigest_of_admittedRequest hgate, loadJournal_eq] at hd
    simp only [Option.isSome_some, true_and]
    -- the wrapper shows a record, none, or a made-up one, by the status of the lookup
    cases hstatus : (loadJournalEx D.platform w.prov
        (textDigest D.platform.crypto requestId)).status with
    | found =>
      obtain ⟨e, he⟩ := entry_of_found hstatus
      simp only [hstatus, he] at hd
      refine iff_of_true ⟨fun a' ha' => ?_, fun hu => absurd hstatus hu.1⟩ ?_
      · rw [hdecision, hd] at ha'
        exact absurd (Option.some.inj ha') existingDecision_ne_start
      · rintro (h | ⟨h, -⟩)
        · cases h
        · exact h.1 rfl
    | notFound =>
      refine iff_of_true ⟨fun _ _ => hstatus, fun hu => absurd hstatus hu.2⟩ ?_
      rintro (h | ⟨h, -⟩)
      · cases h
      · exact h.2 rfl
    | authFailed =>
      simp only [hstatus] at hd
      refine iff_of_false (fun hclosed => ?_) (fun h => h (.inl rfl))
      have hrecover : d = .recover a
          { requestIdDigest := textDigest D.platform.crypto requestId, phase := .unknown } := by
        rw [hd, existingDecision, if_neg (fun h => h.1 rfl)]
      refine not_unmoved_of_recover hstatus (importReady_of_admittedRequest hgate)
        (hdecision.trans (congrArg some hrecover)) (hclosed.unmoved ?_)
      rw [hstatus]
      exact ⟨by decide, by decide⟩
    | _ =>
      simp only [hstatus] at hd
      by_cases htimely : Timely D ω w domain items
      · -- the lookup cannot tell, and a new operation starts
        rw [if_pos htimely] at hd
        refine iff_of_false (fun hclosed => ?_)
          (fun h => h (.inr ⟨⟨by decide, by decide⟩, htimely⟩))
        have hnotFound := hclosed.start a (hdecision.trans (congrArg some hd))
        rw [hstatus] at hnotFound
        cases hnotFound
      · rw [if_neg htimely] at hd
        obtain ⟨rc, out, rfl⟩ := hd
        refine iff_of_true (failsClosed_of_reply hdecision) ?_
        rintro (h | ⟨-, h⟩)
        · cases h
        · exact htimely h

/-- A disk whose state document is of a later format. -/
def Bench.laterDisk : Disk := { state := [⟨2, {}⟩] }

open Bench in
set_option maxRecDepth 10000 in
/-- **The legacy import starts on a document it cannot read**, and its first save replaces it. -/
theorem fails_open_later_document :
    ¬ FailsClosed daemonD ((daemon daemonD).run { disk := laterDisk } startUp) "A"
      ⟨importOf "A" 1, calm⟩ := by
  intro h
  have hstart : (Label.mk (importOf "A" 1) calm).decision daemonD
      ((daemon daemonD).run { disk := laterDisk } startUp) =
      (admittedRequest daemonD calm ((daemon daemonD).run { disk := laterDisk } startUp) "A"
        businessDomainV2c (requestItems "A" businessDomainV2c 1 0xaa)).map .start := by
    decide +kernel
  have hadmitted : (admittedRequest daemonD calm
      ((daemon daemonD).run { disk := laterDisk } startUp) "A" businessDomainV2c
      (requestItems "A" businessDomainV2c 1 0xaa)).isSome = true := by
    decide +kernel
  obtain ⟨a, ha⟩ := Option.isSome_iff_exists.mp hadmitted
  have hnotFound := h.start a (by rw [hstart, ha]; rfl)
  have hstatus : (loadJournalEx daemonD.platform
      ((daemon daemonD).run { disk := laterDisk } startUp).prov
      (textDigest daemonD.platform.crypto "A")).status = .unsupportedVersion := by
    decide +kernel
  rw [hstatus] at hnotFound
  cases hnotFound

end TboxSec.Keyprov
