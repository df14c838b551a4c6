import TboxSec.Keyprov.Verdicts

/-!
# Readiness

`initialize` evaluates `compute_capability` once, at its end, and keeps the outcome. What
`capability`, `isReady` and `contractSnapshot` report, and whether the two imports are turned
away as not ready, is the **verdict of the last `initialize`** of the process, and stays so
whatever the clock, the device binding and the store answer later: no other call writes the
fields of the service.

* The lemmas `keeps_…` say that one function leaves the service's own record alone. They follow
  the call graph from the store and the journal up to the pipeline, and each is read off the
  lemmas of its calls by `Keeps.bind`.
* `wp_finishInitialize_probed` says what the end of `initialize` writes.
* The run lemma joins the two: every state reached stands under the last verdict.
-/

namespace TboxSec.Keyprov

open Canonical Crash

variable {D : Deployment} {ω : Oracle} {w w' : World} {l : Label}

/-! ### No call but `initialize` changes the service's own fields -/

section Frame

open Prog

/-- Saving the state file changes the disk and never the service. -/
private theorem keeps_saveState : Keeps (·.svc) (saveState ω) := by
  intro w
  unfold Prog.wp saveState
  split
  · rfl
  split <;> first | rfl | trivial

/-- Replacing the state in memory does not reach the service either. -/
private theorem keeps_setState {g : World → State} :
    Keeps (·.svc) (Prog.modify (fun w => w.setState (g w)) : SecM Unit) :=
  keeps_modify fun _ => rfl

/-- Saving a journal entry leaves the service alone. -/
private theorem keeps_saveJournal (e : BusinessKeyJournalEntry) :
    Keeps (·.svc) (saveJournal D.platform ω e) := by
  refine (keeps_gets _).bind fun prov => ?_
  split
  · exact keeps_pure _
  · exact Keeps.bind keeps_setState fun _ => keeps_saveState

/-- Dropping a staged generation leaves the service alone. -/
private theorem keeps_rollbackStaging (generation : ℕ) :
    Keeps (·.svc) (rollbackStaging ω generation) := by
  refine (keeps_gets _).bind fun prov => ?_
  split
  · exact keeps_pure _
  split
  · exact keeps_pure _
  · exact Keeps.bind keeps_setState fun _ => keeps_saveState

/-- Committing a staged generation leaves the service alone. -/
private theorem keeps_commitBatch (generation : ℕ) :
    Keeps (·.svc) (commitBatch D.platform ω generation) := by
  refine (keeps_gets _).bind fun prov => ?_
  simp only
  split
  · exact keeps_pure _
  split
  · exact keeps_pure _
  split
  · exact keeps_pure _
  refine Keeps.bind keeps_setState fun _ => keeps_saveState.bind fun rc => ?_
  split
  · exact Keeps.bind keeps_setState fun _ => keeps_pure _
  · exact Keeps.bind (keeps_modify fun w => by rfl) fun _ => keeps_pure _

/-- Opening one envelope leaves the service alone. -/
private theorem keeps_unwrapKey (item : WrappedKeyItem) (params : EnvelopeParameters)
    (canonicalAad hkdfInfo : Bytes) (b : BusinessKeyDeviceBinding) :
    Keeps (·.svc) (unwrapKey D.platform ω item params canonicalAad hkdfInfo b) := by
  have hunwrap : ∀ req, Keeps (·.svc) (hsmUnwrap D.platform ω req) := fun _ _ => rfl
  refine (hunwrap _).bind fun r => ?_
  simp only
  split
  · exact keeps_pure _
  split
  · exact keeps_pure _
  split
  · exact keeps_pure _
  · exact keeps_pure _

/-- Sealing a key for its slot leaves the service alone. -/
private theorem keeps_encryptSlotKey (domain purpose : String) (slot : Slot) (plain : Bytes) :
    Keeps (·.svc) (encryptSlotKey D.platform ω domain purpose slot plain) := by
  intro w
  unfold Prog.wp encryptSlotKey
  split <;> rfl

/-- Opening an envelope into a slot leaves the service alone. -/
private theorem keeps_unwrapToStaging (domain : String) (item : WrappedKeyItem)
    (params : EnvelopeParameters) (canonicalAad hkdfInfo : Bytes) (b : BusinessKeyDeviceBinding)
    (generation : ℕ) :
    Keeps (·.svc) (unwrapToStaging D.platform D.provider ω domain item params canonicalAad
      hkdfInfo b generation) := by
  refine (keeps_gets _).bind fun prov => ?_
  split
  · exact keeps_pure _
  refine (keeps_unwrapKey _ _ _ _ _).bind fun r => ?_
  split
  · exact keeps_pure _
  refine (keeps_encryptSlotKey _ _ _ _).bind fun r => ?_
  split
  · exact keeps_pure _
  · exact Keeps.bind keeps_setState fun _ => keeps_saveState.bind fun _ => keeps_pure _

/-- Making the proof of an item leaves the service alone. -/
private theorem keeps_generateProof (domain purpose : String) (version : ℕ)
    (requestId keyId : String)
    (envelopeDigest keyCheckValue : Bytes) :
    Keeps (·.svc) (generateProof D.platform ω domain purpose version requestId keyId
      envelopeDigest keyCheckValue) := by
  have hbinding : Keeps (·.svc) (probeBinding ω) := fun _ => rfl
  have hsign : ∀ key digest, Keeps (·.svc) (hsmSign D.platform ω key digest) := fun _ _ _ => rfl
  refine (keeps_gets _).bind fun prov => ?_
  split
  · exact keeps_pure _
  split
  · exact keeps_pure _
  split
  · exact keeps_pure _
  split
  · exact keeps_pure _
  split
  · exact keeps_pure _
  refine hbinding.bind fun b => ?_
  split
  · exact keeps_pure _
  refine (hsign _ _).bind fun r => ?_
  simp only
  split
  · exact keeps_pure _
  split
  · exact keeps_pure _
  · exact keeps_pure _

/-- Writing the ledger of past versions leaves the service alone. -/
private theorem keeps_ledgerPuts (ms : List BusinessKeyMetadata) :
    Keeps (·.svc) (ledgerPuts ω ms) := by
  have hput : ∀ m, Keeps (·.svc) (ledgerPut ω m) := by
    intro m w
    unfold Prog.wp ledgerPut
    simp only
    split <;> first | rfl | trivial
  induction ms with
  | nil => exact keeps_pure ()
  | cons m ms ih => exact (hput m).bind fun _ => ih

/-- Asking for the time leaves the service alone. -/
private theorem keeps_trustedNowMs : Keeps (·.svc) (trustedNowMs ω) := fun _ => rfl

/-- Recovery of one record leaves the service alone, on each of its paths. -/
theorem keeps_recoverEntry (e : BusinessKeyJournalEntry) :
    Keeps (·.svc) (recoverEntry D ω e) := by
  refine keeps_trustedNowMs.bind fun now => (keeps_gets _).bind fun prov => ?_
  split
  · exact (keeps_saveJournal _).bind fun _ => (keeps_ledgerPuts _).bind fun _ => keeps_pure _
  · exact (keeps_rollbackStaging _).bind fun _ => (keeps_saveJournal _).bind fun _ => keeps_pure _

/-- A pipeline that ends as failed leaves the service alone. -/
private theorem keeps_endFailed (a : Admitted) (e : BusinessKeyJournalEntry) (rc : ErrorCode) :
    Keeps (·.svc) (endFailed D ω a e rc) :=
  (keeps_rollbackStaging _).bind fun _ => (keeps_saveJournal _).bind fun _ => keeps_pure _

/-- A pipeline that ends as unknown leaves the service alone. -/
private theorem keeps_endUnknown (a : Admitted) (e : BusinessKeyJournalEntry) (lastError : String) :
    Keeps (·.svc) (endUnknown D ω a e lastError) :=
  (keeps_saveJournal _).bind fun _ => keeps_pure _

/-- So does the choice between the two endings after a failed commit. -/
private theorem keeps_endAfter (a : Admitted) (e : BusinessKeyJournalEntry) (rc : ErrorCode) :
    Keeps (·.svc) (endAfter D ω a e rc) := by
  unfold endAfter
  split
  · exact keeps_endUnknown _ _ _
  · exact keeps_endFailed _ _ _

/-- By induction on the rows, staging the batch leaves the service alone. -/
private theorem keeps_stageLoop (a : Admitted) (rows : List Row) :
    ∀ e, Keeps (·.svc) (stageLoop D ω a e rows) := by
  induction rows with
  | nil => exact fun e => keeps_pure _
  | cons row rows ih =>
    intro e
    refine (keeps_unwrapToStaging _ _ _ _ _ _ _).bind fun r => ?_
    simp only
    split
    · exact keeps_pure _
    · exact (keeps_saveJournal _).bind fun _ => (ih _).bind fun _ => keeps_pure _

/-- By induction on the rows, making the proofs of the batch leaves the service alone. -/
private theorem keeps_attestLoop (a : Admitted) (rows : List (BusinessKeyStatus × Kcv)) :
    Keeps (·.svc) (attestLoop D ω a rows) := by
  induction rows with
  | nil => exact keeps_pure _
  | cons row rows ih =>
    exact (keeps_generateProof _ _ _ _ _ _ _).bind fun _ => ih.bind fun _ => keeps_pure _

/-- The commit and what follows it leave the service alone. -/
private theorem keeps_finishPipeline (a : Admitted) (e : BusinessKeyJournalEntry) (kcvs : List Kcv)
    (now : ℤ) : Keeps (·.svc) (finishPipeline D ω a e kcvs now) := by
  refine keeps_trustedNowMs.bind fun t => (keeps_attestLoop _ _).bind fun r => ?_
  simp only
  split
  · exact keeps_endUnknown _ _ _
  · exact (keeps_saveJournal _).bind fun _ => (keeps_ledgerPuts _).bind fun _ => keeps_pure _

/-- The whole pipeline leaves the service alone. -/
private theorem keeps_runPipeline (a : Admitted) (generation : ℕ) (now : ℤ) :
    Keeps (·.svc) (runPipeline D ω a generation now) := by
  refine (keeps_saveJournal _).bind fun _ => (keeps_stageLoop a a.rows _).bind fun r => ?_
  split
  · exact keeps_endAfter _ _ _
  refine (keeps_saveJournal _).bind fun _ => (keeps_gets _).bind fun prov => ?_
  simp only
  split
  · exact keeps_endFailed _ _ _
  refine (keeps_saveJournal _).bind fun _ => (keeps_commitBatch _).bind fun rc => ?_
  split
  · exact keeps_endAfter _ _ _
  · exact keeps_finishPipeline _ _ _ _

/-- **An import** leaves the service's own fields alone, whatever it decides. -/
theorem keeps_finishImport (d : Decision) : Keeps (·.svc) (finishImport D ω d) := by
  cases d with
  | reply rc out => exact keeps_pure _
  | recover a e => exact (keeps_recoverEntry e).bind fun _ => keeps_pure _
  | start a =>
    exact (keeps_gets _).bind fun prov => keeps_trustedNowMs.bind fun now =>
      (keeps_runPipeline _ _ _).bind fun _ => keeps_pure _

end Frame

/-! ### Along a run -/

/-- The call constructs a process or initialises it. -/
def Call.restarts : Call → Bool
  | .boot .. | .init => true
  | _ => false

/-- The process goes on: it is neither restarted nor initialised, and does not die. -/
structure GoesOn (D : Deployment) (w : World) (l : Label) : Prop where
  call : l.call.restarts = false
  alive : (callStep D w l).2 ≠ .crashed

instance : Decidable (GoesOn D w l) :=
  decidable_of_iff (l.call.restarts = false ∧ (callStep D w l).2 ≠ .crashed)
    ⟨fun h => ⟨h.1, h.2⟩, fun h => ⟨h.call, h.alive⟩⟩

/-- The service's own fields, less the shutdown flag. -/
def Service.standing (svc : Service) : Service := { svc with shuttingDown := false }

/-- The verdict is read from the standing part of the service, so services of one standing give one
verdict. -/
private theorem verdict_of_standing {svc svc' : Service} (h : svc'.standing = svc.standing) :
    svc'.importReady = svc.importReady ∧ svc'.cap = svc.cap := by
  have hready := congrArg Service.importReady h
  have hcap := congrArg Service.cap h
  exact ⟨hready, hcap⟩

/-- A finished call of a program that leaves the service alone. -/
private theorem settle_svc {α : Type} {m : SecM α} {reply : α → Reply} (hm : Prog.Keeps (·.svc) m)
    (halive : (settle reply (m { w with asked := {} })).2 ≠ .crashed) :
    (settle reply (m { w with asked := {} })).1.svc = w.svc := by
  have h := hm { w with asked := {} }
  unfold Prog.wp at h
  cases hrun : m { w with asked := {} } with
  | done a w' =>
    rw [hrun] at h
    exact h
  | crashed d =>
    rw [hrun] at halive
    exact absurd rfl halive

/-- A call that only reads keeps the service. -/
private theorem keeps_of_reads {α : Type} {m : SecM α} (h : ∀ w, Reads m w fun _ => True) :
    Prog.Keeps (·.svc) m := fun w => (h w).wp fun _ _ _ => rfl

/-- The legacy import leaves the service alone. -/
private theorem keeps_importDecide (requestId domain : String) (items : List WrappedKeyItem) :
    Prog.Keeps (·.svc) (importDecide D ω requestId domain items) :=
  keeps_of_reads fun _ => reads_importDecide.mono fun _ _ => trivial

/-- The KL1 import leaves the service alone. -/
private theorem keeps_importKl1Decide (requestId domain : String) (items : List WrappedKeyItem)
    (context : KeyprovImportContext) :
    Prog.Keeps (·.svc) (importKl1Decide D ω requestId domain items context) :=
  keeps_of_reads fun _ => reads_importKl1Decide.mono fun _ _ => trivial

/-- **No other call changes the standing of the service.** -/
theorem GoesOn.standing (h : GoesOn D w l) :
    (callStep D w l).1.svc.standing = w.svc.standing := by
  obtain ⟨call, ω⟩ := l
  obtain ⟨hcall, halive⟩ := h
  cases call with
  | boot hsm bootNonce => cases hcall
  | init => cases hcall
  | beginShutdown => rfl
  | storeReady ready => rfl
  | importBatch rid domain items =>
    -- every part of an import keeps the service's own state
    have hkeeps : Prog.Keeps (·.svc) (importBatch D ω rid domain items) :=
      (keeps_importDecide rid domain items).bind fun d =>
        (keeps_finishImport d).bind fun _ => Prog.keeps_pure _
    exact congrArg Service.standing (settle_svc hkeeps halive)
  | importKl1 rid domain items context =>
    have hkeeps : Prog.Keeps (·.svc) (importKl1 D ω rid domain items context) := by
      refine (Prog.keeps_gets _).bind fun svc =>
        (keeps_importKl1Decide rid domain items context).bind fun d =>
        (keeps_finishImport d.1).bind fun r => ?_
      simp only
      split
      · split
        · exact Prog.keeps_pure _
        · exact Prog.keeps_pure _
      · exact Prog.keeps_pure _
    exact congrArg Service.standing (settle_svc hkeeps halive)
  | getImportResult rid =>
    have hkeeps : Prog.Keeps (·.svc) (getImportResult D rid) := by
      refine (Prog.keeps_gets _).bind fun w => ?_
      split
      · exact Prog.keeps_pure _
      · exact Prog.keeps_pure _
    exact congrArg Service.standing (settle_svc hkeeps halive)
  | getImportResultKl1 rid =>
    have hkeeps : Prog.Keeps (·.svc) (getImportResultKl1 D ω rid) := by
      refine (Prog.keeps_gets _).bind fun w => ?_
      split
      · exact Prog.keeps_pure _
      · exact keeps_trustedNowMs.bind fun now => Prog.keeps_pure _
    exact congrArg Service.standing (settle_svc hkeeps halive)
  | getStatus domain purposes =>
    have hkeeps : Prog.Keeps (·.svc) (getStatus D domain purposes) := by
      refine (Prog.keeps_gets _).bind fun w => ?_
      split
      · exact Prog.keeps_pure _
      split
      · exact Prog.keeps_pure _
      split
      · exact Prog.keeps_pure _
      · exact Prog.keeps_pure _
    exact congrArg Service.standing (settle_svc hkeeps halive)

/-- The standing of the service is the same at the end of a run that goes on. -/
private theorem standing_run {later : List Label} (h : (daemon D).Along (GoesOn D) w later) :
    ((daemon D).run w later).svc.standing = w.svc.standing :=
  (daemon D).run_invariant (I := fun w' => w'.svc.standing = w.svc.standing)
    (fun _ _ hw hgo => hgo.standing.trans hw) rfl h

/-! ### The verdict of `initialize` -/

/-- The evaluation of `compute_capability` that `initialize` made, as `w` records it. -/
structure Probed (ω : Oracle) (w : World) (c : V2cKeyProvisioningCapability) : Prop where
  evaluated : ∃ w₀ w₁, w₀.prov = w.prov ∧ computeCapability ω w₀ = .done c w₁
  cap : w.svc.cap = c
  verdict : w.svc.importReady = (c.all && w.svc.storageReady)

/-- A postcondition that always holds is ensured by every program. -/
private theorem wp_trivial {α : Type} (m : SecM α) {Q : α → World → Prop} (hQ : ∀ a w, Q a w) :
    Prog.wp m Q (fun _ => True) w := by
  unfold Prog.wp
  cases m w with
  | done a w' => exact hQ a w'
  | crashed d => trivial

/-- The end of `initialize` answers success and keeps the capability that it has just computed. -/
private theorem wp_finishInitialize_probed :
    Prog.wp (finishInitialize ω) (fun rc w' => rc = .success ∧ ∃ c, Probed ω w' c)
      (fun _ => True) w := by
  have hevaluates : ∀ w₀, ∃ c k, computeCapability ω w₀ = .done c { w₀ with asked := k } :=
    fun w₀ => ⟨_, _, rfl⟩
  refine Prog.wp_bind.mpr (Prog.wp_modify.mpr (Prog.wp_bind.mpr ?_))
  obtain ⟨c, k, hc⟩ := hevaluates
    { w with
      svc.epochGeneration := w.svc.epochGeneration + 1
      svc.providerReady := w.prov.ready
      svc.storageReady := w.prov.ready && !w.svc.governanceRequired }
  unfold Prog.wp
  rw [hc]
  refine ⟨rfl, c, ⟨_, _, ?_, hc⟩, rfl, ?_⟩
  · rfl
  · -- storage is never ready without the provider
    change (w.prov.ready && c.all && (w.prov.ready && !w.svc.governanceRequired)) =
      (c.all && (w.prov.ready && !w.svc.governanceRequired))
    cases w.prov.ready
    · simp
    · simp

/-- What `initialize` leaves: its own evaluation, or a service that is not ready. -/
private theorem wp_serviceInitialize_probed :
    Prog.wp (serviceInitialize D ω)
      (fun rc w' => (D.service.enabled = true ∧ rc = .success ∧ ∃ c, Probed ω w' c) ∨
        (¬ (D.service.enabled = true ∧ rc = .success) ∧ w'.svc.importReady = false))
      (fun _ => True) w := by
  unfold serviceInitialize
  cases hon : D.service.enabled with
  | false => exact .inr ⟨by simp, rfl⟩
  | true =>
    refine Prog.wp_bind.mpr (wp_trivial _ fun rc w₁ => ?_)
    split
    · exact .inr ⟨by simp, rfl⟩
    refine Prog.wp_bind.mpr (wp_trivial _ fun rc w₂ => ?_)
    split
    · exact .inr ⟨by simp, rfl⟩
    refine Prog.wp_bind.mpr (wp_trivial _ fun _ w₃ => ?_)
    exact Prog.wp_mono wp_finishInitialize_probed
      (fun rc w' h => .inl ⟨rfl, h.1, h.2⟩) fun _ h => h

/-! ### Reported readiness -/

/-- What the imports do behind their readiness gate. -/
def behindGate (D : Deployment) (ω : Oracle) (requestId domain : String)
    (items : List WrappedKeyItem) : SecM (Except (ErrorCode × ImportResult) Admitted) := do
  match ← checkRequest D ω requestId domain items with
  | .error rc => pure (.error (rc, refusal requestId domain .failed))
  | .ok a => pure (.ok a)

/-- Everything that shows readiness shows the verdict `ready`: the queries, and the gate of both
imports as long as the service is enabled and not shutting down. -/
structure Reports (D : Deployment) (w : World) (ready : Bool) : Prop where
  isReady : isReady w = (ready && !w.svc.shuttingDown)
  lease : (contractSnapshot D w).supportsLeaseAdmission = (ready && epoch D w.svc != 0)
  closed : ready = false → (w.svc.shuttingDown || !D.service.enabled) = false →
    ∀ ω requestId domain items context,
      (callStep D w ⟨.importBatch requestId domain items, ω⟩).2 =
        .result .businessKeyNotReady (refusal requestId domain .failed) ∧
      (callStep D w ⟨.importKl1 requestId domain items context, ω⟩).2 =
        .resultKl1 .businessKeyNotReady (refusal requestId domain .failed)
          { snapshot := contractSnapshot D w }
  passed : ready = true → (w.svc.shuttingDown || !D.service.enabled) = false →
    ∀ ω requestId domain items context,
      importGates D ω requestId domain items w = behindGate D ω requestId domain items w ∧
      (epoch D w.svc ≠ 0 → context.capabilityEpoch ≠ 0 →
        context.kl1ProfileVersion = kl1ProfileVersion →
        importKl1Gates D ω requestId domain items context w =
          behindGate D ω requestId domain items w)

/-- The stored verdict is the one reported. -/
private theorem reports_importReady (D : Deployment) (w : World) :
    Reports D w w.svc.importReady where
  isReady := rfl
  lease := rfl
  closed := by
    intro hready hup ω requestId domain items context
    have hlegacy : importDecide D ω requestId domain items { w with asked := {} } =
        .done (.reply .businessKeyNotReady (refusal requestId domain .failed))
          { w with asked := {} } := by
      simp [importDecide, importGates, Bind.bind, Prog.bind, Prog.gets, Pure.pure, Prog.pure,
        hready, hup]
    have hkl1 : importKl1Decide D ω requestId domain items context { w with asked := {} } =
        .done (.reply .businessKeyNotReady (refusal requestId domain .failed), "")
          { w with asked := {} } := by
      simp [importKl1Decide, importKl1Gates, Bind.bind, Prog.bind, Prog.gets, Pure.pure, Prog.pure,
        hready, hup]
    constructor
    · simp only [callStep, importBatch, Bind.bind, Prog.bind, hlegacy]
      rfl
    · simp only [callStep, importKl1, Bind.bind, Prog.bind, Prog.gets, hkl1]
      rfl
  passed := by
    intro hready hup ω requestId domain items context
    constructor
    · simp only [importGates, Bind.bind, Prog.bind, Prog.gets, hready, hup]
      rfl
    · intro hepoch hcontext hprofile
      have hlease : (computeSnapshot D w.svc).supportsLeaseAdmission = true := by
        simp [computeSnapshot, hready, hepoch]
      simp only [importKl1Gates, Bind.bind, Prog.bind, Prog.gets, hready, hup, hlease, hprofile]
      simp [hcontext]
      rfl

/-- **Readiness is the verdict of the last `initialize`**: as long as the process goes on, what
it reports and the gate of its imports follow the evaluation that `initialize` made, or stay
closed if it made none, whatever the clock, the binding and the store answer. -/
theorem readiness_as_probed (D : Deployment) (past : List Label) (l : Label) (later : List Label)
    (hrestart : l.call.restarts = true)
    (hlater : (daemon D).Along (GoesOn D) (lastCall D past l).1 later) :
    (l.call = .init ∧ D.service.enabled = true ∧ (lastCall D past l).2 = .code .success →
      ∃ c, Probed l.oracle (lastCall D past l).1 c ∧
        capability ((daemon D).run (lastCall D past l).1 later) = c ∧
        Reports D ((daemon D).run (lastCall D past l).1 later)
          (c.all && (lastCall D past l).1.svc.storageReady)) ∧
    (¬ (l.call = .init ∧ D.service.enabled = true ∧ (lastCall D past l).2 = .code .success) →
      Reports D ((daemon D).run (lastCall D past l).1 later) false) := by
  obtain ⟨hready, hcap⟩ := verdict_of_standing (standing_run hlater)
  have hreports := reports_importReady D ((daemon D).run (lastCall D past l).1 later)
  rw [hready] at hreports
  obtain ⟨call, ω⟩ := l
  cases call with
  | boot hsm bootNonce => exact ⟨fun h => (by cases h.1), fun _ => hreports⟩
  | init =>
    -- `initialize` either evaluated the capability or left the gate closed
    have hinit : (D.service.enabled = true ∧ (lastCall D past ⟨.init, ω⟩).2 = .code .success ∧
          ∃ c, Probed ω (lastCall D past ⟨.init, ω⟩).1 c) ∨
        (¬ (D.service.enabled = true ∧ (lastCall D past ⟨.init, ω⟩).2 = .code .success) ∧
          (lastCall D past ⟨.init, ω⟩).1.svc.importReady = false) :=
      settle_of_wp (P := fun r => (D.service.enabled = true ∧ r.2 = .code .success ∧
          ∃ c, Probed ω r.1 c) ∨
        (¬ (D.service.enabled = true ∧ r.2 = .code .success) ∧ r.1.svc.importReady = false))
        wp_serviceInitialize_probed (fun rc w' h => by simpa using h)
        fun d _ => .inr ⟨by simp, rfl⟩
    rcases hinit with ⟨hon, hreply, c, hc⟩ | ⟨hrefused, hoff⟩
    · refine ⟨fun _ => ⟨c, hc, hcap.trans hc.cap, ?_⟩, fun hno => absurd ⟨rfl, hon, hreply⟩ hno⟩
      rw [← hc.verdict]
      exact hreports
    · refine ⟨fun h => absurd h.2 hrefused, fun _ => ?_⟩
      rw [hoff] at hreports
      exact hreports
  | _ => cases hrestart

/-! ### Readiness does not follow the inputs -/

/-- What `compute_capability` would give now. -/
def capabilityNow (w : World) (ω : Oracle) : V2cKeyProvisioningCapability :=
  capabilityOf w.prov (ω.binding 0) (decide ((ω.now 0).trustState = .trusted))

/-- Readiness follows what the environment `ω` answers now. -/
structure FollowsInputs (D : Deployment) (w : World) (ω : Oracle) : Prop where
  passed : (capabilityNow w ω).all = true → w.svc.storageReady = true →
    (w.svc.shuttingDown || !D.service.enabled) = false → ∀ requestId domain items,
      importGates D ω requestId domain items w = behindGate D ω requestId domain items w
  reported : (capabilityNow w ω).all = true → w.svc.storageReady = true →
    w.svc.shuttingDown = false → isReady w = true ∧ (capability w).all = true
  lost : (capabilityNow w ω).all = false →
    isReady w = false ∧ (contractSnapshot D w).supportsLeaseAdmission = false

section Runs

open Bench

/-- An environment whose clock is not trusted yet. -/
def untrustedClock : Oracle := { calm with now := fun _ => { clock with trustState := .unknown } }

/-- An environment whose device identity is gone. -/
def lostBinding : Oracle := { calm with binding := fun _ => {} }

/-- The process is initialised before its clock is trusted. -/
def earlyRun : List Label := [⟨.boot true 9, calm⟩, ⟨.init, untrustedClock⟩]

set_option maxRecDepth 10000 in
/-- **A clock that becomes trusted after `initialize` does not make the service ready**, and an
identity that is lost after it does not make it unready. -/
theorem readiness_not_followed :
    ¬ FollowsInputs daemonD ((daemon daemonD).run {} earlyRun) calm ∧
      ¬ FollowsInputs daemonD ((daemon daemonD).run {} startUp) lostBinding := by
  have hearly : (capabilityNow ((daemon daemonD).run {} earlyRun) calm).all = true ∧
      ((daemon daemonD).run {} earlyRun).svc.storageReady = true ∧
      ((daemon daemonD).run {} earlyRun).svc.shuttingDown = false ∧
      isReady ((daemon daemonD).run {} earlyRun) = false := by decide +kernel
  have hlate : (capabilityNow ((daemon daemonD).run {} startUp) lostBinding).all = false ∧
      isReady ((daemon daemonD).run {} startUp) = true := by decide +kernel
  constructor
  · intro h
    obtain ⟨hall, hstorage, hup, hunready⟩ := hearly
    have hready := (h.reported hall hstorage hup).1
    rw [hunready] at hready
    cases hready
  · intro h
    have hunready := (h.lost hlate.1).1
    rw [hlate.2] at hunready
    cases hunready

set_option maxRecDepth 10000 in
/-- A process whose store stops answering after `initialize`: it still reports what it found. -/
theorem readiness_as_probed_store_lost :
    ∃ c, capability ((daemon daemonD).run {} (startUp ++ [⟨.storeReady false, lostBinding⟩])) = c ∧
      Reports daemonD ((daemon daemonD).run {} (startUp ++ [⟨.storeReady false, lostBinding⟩]))
        c.all := by
  have hreply : (lastCall daemonD [⟨.boot true 9, calm⟩] ⟨.init, calm⟩).2 = .code .success ∧
      (lastCall daemonD [⟨.boot true 9, calm⟩] ⟨.init, calm⟩).1.svc.storageReady = true := by
    decide +kernel
  obtain ⟨c, -, hcap, hreports⟩ := (readiness_as_probed daemonD [⟨.boot true 9, calm⟩]
    ⟨.init, calm⟩ [⟨.storeReady false, lostBinding⟩] rfl ⟨⟨rfl, by decide⟩, trivial⟩).1
    ⟨rfl, rfl, hreply.1⟩
  rw [hreply.2, Bool.and_true] at hreports
  exact ⟨c, hcap, hreports⟩

end Runs

end TboxSec.Keyprov
