import TboxSec.Certificates.Readable
import TboxSec.Keyprov.Bench
import TboxSec.Sec.Installed

/-!
# The service in shutdown

`beginShutdown` raises two flags, one of the service and one of its business-key service, and
every operation is to refuse from then on. `Daemon` puts together what an operation can still
reach: the service with its stored status and its certificate store, the business-key service,
and a count of the uses of the device private key.

* **Guarded operations** look at a flag first. They answer at once and leave everything alone.
* **Three operations have no guard**: `get_csr`, `reset_provision_status` and
  `store_certificate`. They refuse only for reasons of their own, and `Spared` says when.
* **Nothing comes of an operation** (`Rejected`) when it answers an error and leaves the stored
  status, the served certificates, the business keys and the device private key as they were.

For each operation there is a lemma on its answer in shutdown: `…_down` for the guarded ones, an
equivalence for the three others. `rejected_perform_iff` puts them together, and `quiesce_iff` is
about every sequence of operations after the shutdown, from every state.
-/

namespace TboxSec.Sec

open Certificates (OpenSsl Surroundings admitChain)
open Tls (Component)

/-! ### The daemon -/

/-- What the operations of the service can reach. -/
structure Daemon where
  component : Component
  /-- `business_key_service_`, if it is set. -/
  businessKeys : Option Keyprov.World := none
  /-- How often the device private key has been used. -/
  keyUses : ℕ := 0

/-- A call of the business-key service. -/
inductive BusinessCall where
  | importBatch (requestId domain : String) (items : List Keyprov.WrappedKeyItem)
  | importKl1 (requestId domain : String) (items : List Keyprov.WrappedKeyItem)
      (context : Keyprov.KeyprovImportContext)
  | getImportResult (requestId : String)
  | getImportResultKl1 (requestId : String)
  | getStatus (domain : String) (purposes : List String)

/-- The call as the business-key service knows it. -/
def BusinessCall.toCall : BusinessCall → Keyprov.Call
  | .importBatch rid domain items => .importBatch rid domain items
  | .importKl1 rid domain items context => .importKl1 rid domain items context
  | .getImportResult rid => .getImportResult rid
  | .getImportResultKl1 rid => .getImportResultKl1 rid
  | .getStatus domain purposes => .getStatus domain purposes

/-- An operation of the service. -/
inductive SecOperation where
  | generateKeyPair | getCsr | submitCsr
  | injectCertificate (payload : Bytes)
  | applyCertificate
  | getSeed (level : UInt8)
  | verifyKey (level : UInt8) (key : Bytes)
  | resetProvisionStatus
  | storeCertificate (payload : Bytes)
  | business (call : BusinessCall)

/-- An operation with the answers it gets. -/
structure SecCall where
  operation : SecOperation
  env : Surroundings
  provisioning : Keyprov.Oracle
  /-- `build_csr` gets as far as its signature, should it fail. -/
  csrSigns : Bool := false

/-- `build_csr` uses the device private key. -/
def SecCall.signs (c : SecCall) : Bool := c.csrSigns || c.env.oracle.buildCsr.1 == .success

/-- The code in an answer of the business-key service. -/
def replyCode : Keyprov.Reply → ErrorCode
  | .code rc | .result rc _ | .resultKl1 rc _ _ | .statuses rc _ => rc
  | .none => .success
  | .crashed => .internalError

/-! ### When a signing request is built -/

section Building

variable (ω : Oracle) (w : World)

/-- `get_csr` builds the request: it is not in memory, or its building is what comes next. -/
def csrBuilds : Bool :=
  let (provResult, w') := ensureVehicleInfo ω w
  let status := w'.statusRead (ω.read w'.asked.reads)
  w.svc.initialized && provResult == .success && status.state != .none &&
    (status.state == .keyGenerated || w'.svc.csrDer == [])

/-- `apply_certificate` gets to a `get_csr` that builds the request. -/
def applyBuilds : Bool :=
  let (status, w') := w.getProvisionStatus ω
  let (state, w') :=
    if status.state = .failed then
      (ProvisionState.none, w'.saveProvisionStatus ω
        { status with state := .none, retryCount := 0, lastError := "" })
    else (status.state, w')
  w.svc.initialized && !w.svc.shuttingDown && status.state != .certInstalled &&
    !w'.svc.diagService &&
    match state with
    | .none => (generateKeyPair ω w').1 == .success && csrBuilds ω (generateKeyPair ω w').2
    | .keyGenerated => csrBuilds ω w'
    | _ => false

end Building

/-! ### One operation -/

namespace Daemon

variable (s : Daemon)

/-- `beginShutdown`. -/
def beginShutdown : Daemon :=
  { s with
    component.service.svc.shuttingDown := true
    businessKeys := s.businessKeys.map fun w => { w with svc.shuttingDown := true } }

/-- The device private key is used, or not. -/
def used (b : Bool) : Daemon := { s with keyUses := s.keyUses + b.toNat }

/-- The component at the beginning of an operation, which takes its answers afresh. -/
def freshComponent : Component := { s.component with service := s.component.service.fresh }

/-- An operation on the component. -/
def onComponent (f : Component → ErrorCode × Component) : ErrorCode × Daemon :=
  let (rc, component) := f s.freshComponent
  (rc, { s with component })

/-- An operation on the service and its stored status. -/
def onService (f : World → ErrorCode × World) : ErrorCode × Daemon :=
  s.onComponent fun c => Certificates.onService c f

/-- A call of the business-key service; without one the dispatcher answers. A key that is
unwrapped and a proof that is signed use the device private key. -/
def onBusinessKeys (D : Keyprov.Deployment) (call : BusinessCall) (ω : Keyprov.Oracle) :
    ErrorCode × Daemon :=
  match s.businessKeys with
  | none => (.notImplemented, s)
  | some w =>
    let (w, reply) := Keyprov.callStep D w ⟨call.toCall, ω⟩
    (replyCode reply,
      { s with
        businessKeys := some w
        keyUses := s.keyUses + w.asked.unwraps + w.asked.signs })

variable {X509 : Type} (aes : BlockCipher) (D : Keyprov.Deployment) (O : OpenSsl X509)
  (L : Tls.Library)

/-- One operation. -/
def perform (c : SecCall) : ErrorCode × Daemon :=
  let ω := c.env.oracle
  let w := s.component.service.fresh
  match c.operation with
  | .generateKeyPair => s.onService (generateKeyPair ω)
  | .getCsr => (s.used (csrBuilds ω w && c.signs)).onService (getCsr ω)
  | .submitCsr => s.onService (submitCsr ω)
  | .injectCertificate payload =>
    s.onComponent (Certificates.injectCertificate O L c.env · payload)
  | .applyCertificate => (s.used (applyBuilds ω w && c.signs)).onService (applyCertificate ω)
  | .getSeed level => s.onService fun w => ((getSeed level ω w).2.code, (getSeed level ω w).1)
  | .verifyKey level key =>
    s.onService fun w => ((verifyKey aes level key ω w).2.code, (verifyKey aes level key ω w).1)
  | .resetProvisionStatus => s.onService (resetProvisionStatus ω)
  | .storeCertificate payload =>
    s.onComponent (Certificates.storeCertificate O L c.env · payload)
  | .business call => s.onBusinessKeys D call c.provisioning

/-- The daemon under a sequence of operations. -/
def operations : Machine Daemon SecCall ErrorCode where
  step s c := ((s.perform aes D O L c).2, (s.perform aes D O L c).1)

end Daemon

/-! ### What a refusal is -/

/-- What the business-key service has committed, and what it could commit from. -/
def committed (w : Keyprov.World) : Keyprov.Disk × Keyprov.Provider × Keyprov.Ledger :=
  (w.disk, w.prov, w.ledger)

/-- The operation is refused, and nothing came of it.

The certificate store is the snapshot that this process serves. A commit that fails in its last
sync leaves that snapshot as it was, but it has switched `CURRENT` on disk, so that the next process
may open the new generation (`CertStore.Platform.failed_commit_iff`); this is not looked at here. -/
structure Rejected (s : Daemon) (r : ErrorCode × Daemon) : Prop where
  refused : r.1 ≠ .success
  persisted : r.2.component.service.persisted = s.component.service.persisted
  certStore : r.2.component.certStore = s.component.certStore
  businessKeys : r.2.businessKeys.map committed = s.businessKeys.map committed
  keyUses : r.2.keyUses = s.keyUses

/-- Both flags are up. -/
structure Daemon.Down (s : Daemon) : Prop where
  service : s.component.service.svc.shuttingDown = true
  businessKeys : ∀ w ∈ s.businessKeys, w.svc.shuttingDown = true

/-- `beginShutdown` raises both flags. -/
private theorem Daemon.down_beginShutdown (s : Daemon) : s.beginShutdown.Down where
  service := rfl
  businessKeys w hw := by
    obtain ⟨w₀, -, rfl⟩ := Option.map_eq_some_iff.mp hw
    rfl

/-! ### Guarded operations -/

section Guarded

variable {ω : Oracle} {w : World} {s : Daemon}

/-- The head of the guarded operations. -/
private theorem whileServing_down (h : w.svc.shuttingDown = true)
    (body : World → ErrorCode × World) :
    whileServing w body = (.notInitialized, w) := by
  unfold whileServing
  split_ifs
  · rfl
  · rfl

/-- A seed is refused in shutdown, and nothing changes. -/
private theorem getSeed_down (h : w.svc.shuttingDown = true) (level : UInt8) :
    getSeed level ω w = (w, { code := .notInitialized }) := by
  unfold getSeed
  split_ifs
  · rfl
  · rfl

/-- A key is refused in shutdown before it is compared, so no attempt is counted. -/
private theorem verifyKey_down (aes : BlockCipher) (h : w.svc.shuttingDown = true) (level : UInt8)
    (key : Bytes) : verifyKey aes level key ω w = (w, { code := .notInitialized }) := by
  unfold verifyKey
  split_ifs
  · rfl
  · rfl

/-- An injected certificate is refused in shutdown before its chain is looked at. -/
private theorem injectCertificate_down {X509 : Type} (O : OpenSsl X509) (L : Tls.Library)
    (env : Surroundings) {c : Component} (h : c.service.svc.shuttingDown = true)
    (payload : Bytes) :
    Certificates.injectCertificate O L env c payload = (.notInitialized, c) := by
  unfold Certificates.injectCertificate
  split_ifs
  · rfl
  · rfl

/-- An operation that answers at once is refused. -/
private theorem rejected_onComponent {f : Component → ErrorCode × Component}
    (h : f s.freshComponent = (.notInitialized, s.freshComponent)) :
    Rejected s (s.onComponent f) := by
  unfold Daemon.onComponent
  rw [h]
  exact ⟨ErrorCode.noConfusion, rfl, rfl, rfl, rfl⟩

/-- An operation of the service that answers `NOT_INITIALIZED` and leaves the world alone comes to
nothing. -/
private theorem rejected_onService {f : World → ErrorCode × World}
    (h : f s.component.service.fresh = (.notInitialized, s.component.service.fresh)) :
    Rejected s (s.onService f) := by
  refine rejected_onComponent ?_
  unfold Certificates.onService
  dsimp only [Daemon.freshComponent]
  rw [h]

/-- An operation that does not use the device private key leaves the count of its uses alone. -/
private theorem used_false : s.used false = s := rfl

/-- `apply_certificate` builds no request in shutdown. -/
private theorem applyBuilds_down (h : w.svc.shuttingDown = true) : applyBuilds ω w = false := by
  unfold applyBuilds
  simp [h]

end Guarded

/-! ### The business-key service in shutdown -/

section BusinessKeys

open Crash

variable (D : Keyprov.Deployment) {w : Keyprov.World} (ω : Keyprov.Oracle)
  (requestId domain : String) (items : List Keyprov.WrappedKeyItem)
  (context : Keyprov.KeyprovImportContext)

/-- The answer of both imports. -/
def closed : ErrorCode × Keyprov.ImportResult :=
  (.businessKeyNotReady, Keyprov.refusal requestId domain .unknown)

/-- The legacy import is closed in shutdown, with the answer of a service that is not ready. -/
private theorem importBatch_down (h : w.svc.shuttingDown = true) :
    Keyprov.importBatch D ω requestId domain items w = .done (closed requestId domain) w := by
  have hgates : Keyprov.importGates D ω requestId domain items w =
      .done (.error (closed requestId domain)) w := by
    change (if (w.svc.shuttingDown || !D.service.enabled) = true then
      (Pure.pure _ : Keyprov.SecM (Except (ErrorCode × Keyprov.ImportResult) Keyprov.Admitted))
      else _) w = _
    rw [if_pos (by rw [h]; rfl)]
    rfl
  have hdecide : Keyprov.importDecide D ω requestId domain items w =
      .done (.reply .businessKeyNotReady (Keyprov.refusal requestId domain .unknown)) w := by
    change Prog.bind _ _ w = _
    unfold Prog.bind
    rw [hgates]
    rfl
  change Prog.bind _ _ w = _
  unfold Prog.bind
  rw [hdecide]
  rfl

/-- The KL1 import is closed in shutdown, with a refusal and some attachment beside it. -/
private theorem importKl1_down (h : w.svc.shuttingDown = true) :
    ∃ attach, Keyprov.importKl1 D ω requestId domain items context w =
      .done (.businessKeyNotReady, Keyprov.refusal requestId domain .unknown, attach) w := by
  have hgates : Keyprov.importKl1Gates D ω requestId domain items context w =
      .done (.error (closed requestId domain)) w := by
    change (if (w.svc.shuttingDown || !D.service.enabled) = true then
      (Pure.pure _ : Keyprov.SecM (Except (ErrorCode × Keyprov.ImportResult) Keyprov.Admitted))
      else _) w = _
    rw [if_pos (by rw [h]; rfl)]
    rfl
  have hdecide : Keyprov.importKl1Decide D ω requestId domain items context w =
      .done (.reply .businessKeyNotReady (Keyprov.refusal requestId domain .unknown), "") w := by
    change Prog.bind _ _ w = _
    unfold Prog.bind
    rw [hgates]
    rfl
  refine ⟨{ snapshot := Keyprov.computeSnapshot D w.svc, requestIdentityDigest := "" }, ?_⟩
  change Prog.bind _ _ w = _
  unfold Prog.bind
  rw [hdecide]
  rfl

/-- The first check that fails in a query of a past import is the readiness. -/
private theorem queryChecks_down (h : w.svc.shuttingDown = true) :
    firstReject (Keyprov.queryChecks D w.svc requestId) = some .businessKeyNotReady := by
  change firstReject ((w.svc.shuttingDown, _) :: _) = _
  rw [h]
  rfl

/-- So a legacy query is refused without a look at the journal. -/
private theorem getImportResult_down (h : w.svc.shuttingDown = true) :
    Keyprov.getImportResult D requestId w = .done (.businessKeyNotReady, { requestId }) w := by
  unfold Keyprov.getImportResult
  change Prog.bind _ _ w = _
  unfold Prog.bind
  dsimp only [Prog.gets, id_eq]
  rw [queryChecks_down D requestId h]
  rfl

/-- So is a KL1 query. -/
private theorem getImportResultKl1_down (h : w.svc.shuttingDown = true) :
    Keyprov.getImportResultKl1 D ω requestId w =
      .done (.businessKeyNotReady, { requestId }, {}) w := by
  unfold Keyprov.getImportResultKl1
  change Prog.bind _ _ w = _
  unfold Prog.bind
  dsimp only [Prog.gets, id_eq]
  rw [queryChecks_down D requestId h]
  rfl

/-- The status of the keys is refused in shutdown for every list of purposes. -/
private theorem getStatus_down (h : w.svc.shuttingDown = true) (purposes : List String) :
    Keyprov.getStatus D domain purposes w = .done (.businessKeyNotReady, []) w := by
  change (if (w.svc.shuttingDown || !D.service.enabled || !w.svc.providerReady) = true then
    (Pure.pure _ : Keyprov.SecM (ErrorCode × List Keyprov.BusinessKeyStatus)) else _) w = _
  rw [if_pos (by rw [h]; rfl)]
  rfl

/-- **Every call** is answered at once. -/
theorem callStep_down (h : w.svc.shuttingDown = true) (call : BusinessCall) :
    (Keyprov.callStep D w ⟨call.toCall, ω⟩).1 = { w with asked := {} } ∧
      replyCode (Keyprov.callStep D w ⟨call.toCall, ω⟩).2 = .businessKeyNotReady := by
  let w₀ : Keyprov.World := { w with asked := {} }
  have h₀ : w₀.svc.shuttingDown = true := h
  cases call with
  | importBatch rid domain items =>
    change (Keyprov.settle _ (Keyprov.importBatch D ω rid domain items w₀)).1 = w₀ ∧
      replyCode (Keyprov.settle _ (Keyprov.importBatch D ω rid domain items w₀)).2 = _
    rw [importBatch_down D ω rid domain items h₀]
    exact ⟨rfl, rfl⟩
  | importKl1 rid domain items context =>
    obtain ⟨attach, hrun⟩ := importKl1_down D ω rid domain items context h₀
    change (Keyprov.settle _ (Keyprov.importKl1 D ω rid domain items context w₀)).1 = w₀ ∧
      replyCode (Keyprov.settle _ (Keyprov.importKl1 D ω rid domain items context w₀)).2 = _
    rw [hrun]
    exact ⟨rfl, rfl⟩
  | getImportResult rid =>
    change (Keyprov.settle _ (Keyprov.getImportResult D rid w₀)).1 = w₀ ∧
      replyCode (Keyprov.settle _ (Keyprov.getImportResult D rid w₀)).2 = _
    rw [getImportResult_down D rid h₀]
    exact ⟨rfl, rfl⟩
  | getImportResultKl1 rid =>
    change (Keyprov.settle _ (Keyprov.getImportResultKl1 D ω rid w₀)).1 = w₀ ∧
      replyCode (Keyprov.settle _ (Keyprov.getImportResultKl1 D ω rid w₀)).2 = _
    rw [getImportResultKl1_down D ω rid h₀]
    exact ⟨rfl, rfl⟩
  | getStatus domain purposes =>
    change (Keyprov.settle _ (Keyprov.getStatus D domain purposes w₀)).1 = w₀ ∧
      replyCode (Keyprov.settle _ (Keyprov.getStatus D domain purposes w₀)).2 = _
    rw [getStatus_down D domain h₀ purposes]
    exact ⟨rfl, rfl⟩

end BusinessKeys

/-- A call of the business-key service is refused. -/
private theorem rejected_onBusinessKeys {s : Daemon} (h : s.Down) (D : Keyprov.Deployment)
    (call : BusinessCall) (ω : Keyprov.Oracle) : Rejected s (s.onBusinessKeys D call ω) := by
  unfold Daemon.onBusinessKeys
  cases hkeys : s.businessKeys with
  | none => exact ⟨ErrorCode.noConfusion, rfl, rfl, rfl, rfl⟩
  | some w =>
    obtain ⟨hworld, hcode⟩ := callStep_down D ω (h.businessKeys w hkeys) call
    refine ⟨?_, rfl, rfl, ?_, ?_⟩
    · change replyCode (Keyprov.callStep D w ⟨call.toCall, ω⟩).2 ≠ .success
      rw [hcode]
      exact ErrorCode.noConfusion
    · change some (committed (Keyprov.callStep D w ⟨call.toCall, ω⟩).1) = _
      rw [hworld, hkeys]
      rfl
    · change s.keyUses + (Keyprov.callStep D w ⟨call.toCall, ω⟩).1.asked.unwraps +
        (Keyprov.callStep D w ⟨call.toCall, ω⟩).1.asked.signs = s.keyUses
      rw [hworld]
      rfl

/-! ### The signing request -/

section Csr

variable (ω : Oracle) (w : World)

/-- The status of an error is not stored, or it stands there already. -/
def FailureStays (error : ErrorCode) (context : String) : Prop :=
  let status := w.statusRead (ω.read w.asked.reads)
  (ω.save w.asked.saves).stores = false ∨
    w.persisted = .doc (ProvisionStatus.toJson
      { status with
        state := .failed
        lastError := context ++ ": " ++ error.toText
        retryCount := status.retryCount + 1 })

/-- The world in which `get_csr` decides: vehicle information and status have been read. -/
def csrWorld : World := ((ensureVehicleInfo ω w).2.getProvisionStatus ω).2

/-- The state that `get_csr` reads. -/
def csrState : ProvisionState :=
  ((ensureVehicleInfo ω w).2.getProvisionStatus ω).1.state

/-- `get_csr` refuses and does nothing, although no guard says so: the service is not
initialised, the vehicle is unknown, there is no key yet; or the request cannot be built, the
key is not reached, and the failure is not stored. -/
def CsrRefused (signs : Bool) : Prop :=
  w.svc.initialized = false ∨ (ensureVehicleInfo ω w).1 ≠ .success ∨ csrState ω w = .none ∨
    (csrBuilds ω w = true ∧ ω.buildCsr.1 ≠ .success ∧ signs = false ∧
      FailureStays ω (csrWorld ω w) ω.buildCsr.1 "CSR building failed")

variable {ω w}

/-- `handle_error` writes the failure down in the stored status. That status is as before only where
the save fails or nothing new was to be written. -/
private theorem persisted_handleError_iff (error : ErrorCode) (context : String) :
    (w.handleError ω error context).persisted = w.persisted ↔ FailureStays ω w error context := by
  unfold World.handleError World.updateProvisionState World.saveProvisionStatus FailureStays
  dsimp only [World.getProvisionStatus]
  by_cases hstores : (ω.save w.asked.saves).stores = true
  · rw [if_pos hstores, if_pos rfl]
    constructor
    · intro h
      exact .inr h.symm
    · rintro (hno | h)
      · exact absurd (hstores.symm.trans hno) (by decide)
      · exact h.symm
  · rw [if_neg hstores]
    exact iff_of_true rfl (.inl (Bool.not_eq_true _ ▸ hstores))

/-- Preparing a signing request saves nothing. -/
private theorem persisted_csrWorld : (csrWorld ω w).persisted = w.persisted :=
  (untouched_ensureVehicleInfo (ω := ω) (w := w)).persisted

/-- **How `get_csr` can end.** -/
theorem getCsr_cases :
    (w.svc.initialized = false ∧ getCsr ω w = (.notInitialized, w)) ∨
    (w.svc.initialized = true ∧ (ensureVehicleInfo ω w).1 ≠ .success ∧
      getCsr ω w = ensureVehicleInfo ω w) ∨
    (w.svc.initialized = true ∧ (ensureVehicleInfo ω w).1 = .success ∧ csrState ω w = .none ∧
      getCsr ω w = (.keyNotFound, csrWorld ω w)) ∨
    (w.svc.initialized = true ∧ (ensureVehicleInfo ω w).1 = .success ∧ csrState ω w ≠ .none ∧
      csrBuilds ω w = true ∧
      getCsr ω w = conclude ω ((csrWorld ω w).setCsr ω.buildCsr.2) ω.buildCsr.1 .csrBuilt
        "CSR building failed") ∨
    (w.svc.initialized = true ∧ (ensureVehicleInfo ω w).1 = .success ∧ csrState ω w ≠ .none ∧
      csrBuilds ω w = false ∧ getCsr ω w = (.success, csrWorld ω w)) := by
  have hdef : getCsr ω w = if !w.svc.initialized then (.notInitialized, w)
      else if (ensureVehicleInfo ω w).1 ≠ .success then ensureVehicleInfo ω w
      else if csrState ω w = .none then (.keyNotFound, csrWorld ω w)
      else if csrState ω w = .keyGenerated ∨ (csrWorld ω w).svc.csrDer = [] then
        conclude ω ((csrWorld ω w).setCsr ω.buildCsr.2) ω.buildCsr.1 .csrBuilt
          "CSR building failed"
      else (.success, csrWorld ω w) := rfl
  have hbuilds : csrBuilds ω w = (w.svc.initialized && (ensureVehicleInfo ω w).1 == .success &&
      csrState ω w != .none &&
      (csrState ω w == .keyGenerated || (csrWorld ω w).svc.csrDer == [])) := rfl
  rw [hdef, hbuilds]
  cases hinit : w.svc.initialized with
  | false => exact .inl ⟨rfl, rfl⟩
  | true =>
    refine .inr ?_
    rw [if_neg (by decide)]
    by_cases hprov : (ensureVehicleInfo ω w).1 = .success
    · rw [if_neg (not_not.mpr hprov), hprov]
      refine .inr ?_
      by_cases hnone : csrState ω w = .none
      · rw [if_pos hnone]
        exact .inl ⟨rfl, rfl, hnone, rfl⟩
      · rw [if_neg hnone]
        refine .inr ?_
        by_cases hbuild : csrState ω w = .keyGenerated ∨ (csrWorld ω w).svc.csrDer = []
        · rw [if_pos hbuild]
          exact .inl ⟨rfl, rfl, hnone, by simpa [hnone] using hbuild, rfl⟩
        · rw [if_neg hbuild]
          exact .inr ⟨rfl, rfl, hnone, by simpa [hnone] using hbuild, rfl⟩
    · rw [if_pos hprov]
      exact .inl ⟨rfl, hprov, rfl⟩

/-- A request is built only where `get_csr` gets that far. -/
private theorem csrBuilds_eq_true_iff :
    csrBuilds ω w = true ↔
      w.svc.initialized = true ∧ (ensureVehicleInfo ω w).1 = .success ∧ csrState ω w ≠ .none ∧
        (csrState ω w = .keyGenerated ∨ (csrWorld ω w).svc.csrDer = []) := by
  change (w.svc.initialized && (ensureVehicleInfo ω w).1 == .success &&
    csrState ω w != .none &&
    (csrState ω w == .keyGenerated || (csrWorld ω w).svc.csrDer == [])) = true ↔ _
  simp [and_assoc]

/-- What a refusal of `get_csr` comes to. -/
private theorem rejected_getCsr {s : Daemon} {signs : Bool} :
    Rejected s ((s.used (csrBuilds ω s.component.service.fresh && signs)).onService (getCsr ω)) ↔
      (getCsr ω s.component.service.fresh).1 ≠ .success ∧
        (getCsr ω s.component.service.fresh).2.persisted = s.component.service.persisted ∧
        (csrBuilds ω s.component.service.fresh && signs) = false := by
  constructor
  · intro h
    refine ⟨h.refused, h.persisted, ?_⟩
    have huses : s.keyUses + (csrBuilds ω s.component.service.fresh && signs).toNat = s.keyUses :=
      h.keyUses
    cases hbool : csrBuilds ω s.component.service.fresh && signs with
    | false => rfl
    | true =>
      rw [hbool, Bool.toNat_true] at huses
      omega
  · rintro ⟨hcode, hpersisted, huses⟩
    refine ⟨hcode, hpersisted, rfl, rfl, ?_⟩
    change s.keyUses + (csrBuilds ω s.component.service.fresh && signs).toNat = s.keyUses
    rw [huses]
    rfl

/-- **The signing request in shutdown.** -/
theorem getCsr_refused_iff {signs : Bool} :
    ((getCsr ω w).1 ≠ .success ∧ (getCsr ω w).2.persisted = w.persisted ∧
      (csrBuilds ω w && signs) = false) ↔ CsrRefused ω w signs := by
  have hno : ∀ {p : Prop}, p → ¬ (csrBuilds ω w = true) → p ∧ (csrBuilds ω w && signs) = false := by
    intro p hp hbuilds
    rw [Bool.not_eq_true] at hbuilds
    exact ⟨hp, by rw [hbuilds, Bool.false_and]⟩
  obtain ⟨hinit, hrun⟩ | ⟨hinit, hprov, hrun⟩ | ⟨hinit, hprov, hnone, hrun⟩ |
    ⟨hinit, hprov, hnone, hbuilds, hrun⟩ | ⟨hinit, hprov, hnone, hbuilds, hrun⟩ :=
      getCsr_cases (ω := ω) (w := w)
  · have hbuilds : ¬ csrBuilds ω w = true := fun h =>
      absurd (csrBuilds_eq_true_iff.mp h).1 (by rw [hinit]; decide)
    rw [hrun]
    refine iff_of_true ⟨ErrorCode.noConfusion, hno rfl hbuilds⟩ (.inl hinit)
  · have hbuilds : ¬ csrBuilds ω w = true := fun h =>
      absurd (csrBuilds_eq_true_iff.mp h).2.1 hprov
    rw [hrun]
    exact iff_of_true ⟨hprov, hno untouched_ensureVehicleInfo.persisted hbuilds⟩ (.inr (.inl hprov))
  · have hbuilds : ¬ csrBuilds ω w = true := fun h =>
      absurd hnone (csrBuilds_eq_true_iff.mp h).2.2.1
    rw [hrun]
    exact iff_of_true ⟨ErrorCode.noConfusion, hno persisted_csrWorld hbuilds⟩
      (.inr (.inr (.inl hnone)))
  · -- the request is built
    have hrefused : CsrRefused ω w signs ↔ ω.buildCsr.1 ≠ .success ∧ signs = false ∧
        FailureStays ω (csrWorld ω w) ω.buildCsr.1 "CSR building failed" := by
      unfold CsrRefused
      rw [hinit, hbuilds]
      simp [hprov, hnone]
    rw [hrefused, hrun, hbuilds, Bool.true_and]
    unfold conclude
    by_cases hresult : ω.buildCsr.1 = .success
    · rw [if_neg (not_not.mpr hresult)]
      exact iff_of_false (fun h => h.1 rfl) (fun h => h.1 hresult)
    · rw [if_pos hresult, ← persisted_handleError_iff, persisted_csrWorld]
      constructor
      · rintro ⟨hcode, hpersisted, hsigns⟩
        exact ⟨hcode, hsigns, hpersisted⟩
      · rintro ⟨hcode, hsigns, hpersisted⟩
        exact ⟨hcode, hpersisted, hsigns⟩
  · -- the request in memory is given out
    rw [hrun]
    refine iff_of_false (fun h => h.1 rfl) ?_
    rintro (h | h | h | ⟨h, -⟩)
    · exact absurd (hinit.symm.trans h) (by decide)
    · exact h hprov
    · exact hnone h
    · exact absurd (hbuilds.symm.trans h) (by decide)

/-- Fetching the vehicle information leaves the flag of the shutdown alone. -/
private theorem shuttingDown_ensureVehicleInfo :
    (ensureVehicleInfo ω w).2.svc.shuttingDown = w.svc.shuttingDown := by
  unfold ensureVehicleInfo
  split_ifs
  · rfl
  · rfl
  · dsimp only
    split
    · rfl
    · split_ifs <;> rfl

/-- So does the whole of `get_csr`, which has no guard of its own. -/
private theorem shuttingDown_getCsr : (getCsr ω w).2.svc.shuttingDown = w.svc.shuttingDown := by
  have hworld : (csrWorld ω w).svc.shuttingDown = w.svc.shuttingDown :=
    shuttingDown_ensureVehicleInfo
  obtain ⟨-, hrun⟩ | ⟨-, -, hrun⟩ | ⟨-, -, -, hrun⟩ | ⟨-, -, -, -, hrun⟩ | ⟨-, -, -, -, hrun⟩ :=
    getCsr_cases (ω := ω) (w := w)
  · rw [hrun]
  · rw [hrun]
    exact shuttingDown_ensureVehicleInfo
  · rw [hrun]
    exact hworld
  · rw [hrun]
    unfold conclude
    split_ifs
    · exact hworld
    · exact hworld
  · rw [hrun]
    exact hworld

end Csr

/-! ### The storing of a certificate -/

section Storing

variable {X509 : Type} (O : OpenSsl X509) (L : Tls.Library) (env : Surroundings) (c : Component)

/-- `store_certificate` goes through: the chain is read, has no root in it and can be written,
there is a store, and it has the chain already or commits it. Where the commit fails, the running
snapshot stays; what then stands on disk is the matter of the store. -/
def Storable (payload : Bytes) : Prop :=
  ∃ chain pem current, admitChain O L env payload .certInstallFailed = .ok chain ∧
    O.toPem chain = some pem ∧ c.certStore = some current ∧
    (current.map (fun g => L.crypto.sha256 g.deviceCertChainPem) = some (L.crypto.sha256 pem) ∨
      env.commit = .success)

variable {O L env c} {payload : Bytes}

/-- A chain that is not admitted is refused with an error. -/
private theorem admitChain_ne_success {unreadable rc : ErrorCode}
    (hunreadable : unreadable ≠ .success)
    (h : admitChain O L env payload unreadable = .error rc) : rc ≠ .success := by
  unfold admitChain at h
  split at h
  · exact Except.error.inj h ▸ hunreadable
  · dsimp only at h
    split_ifs at h with hroot
    exact Except.error.inj h ▸ hroot

/-- A payload that meets `Storable` is stored with success, in shutdown as before. -/
private theorem storeCertificate_of_storable (h : Storable O L env c payload) :
    (Certificates.storeCertificate O L env c payload).1 = .success := by
  obtain ⟨chain, pem, current, hadmitted, hpem, hstore, hcommit⟩ := h
  unfold Certificates.storeCertificate
  rw [hadmitted]
  dsimp only
  rw [Certificates.publishChain, hpem]
  dsimp only
  unfold Component.publishDeviceCertChain
  rw [hstore]
  dsimp only
  split_ifs with hsame hfail
  · rfl
  · exact absurd (hcommit.resolve_left hsame) hfail
  · cases (c.committed pem).provider <;> rfl

/-- A refusal leaves the component alone. -/
private theorem storeCertificate_of_not_storable (h : ¬ Storable O L env c payload) :
    (Certificates.storeCertificate O L env c payload).1 ≠ .success ∧
      (Certificates.storeCertificate O L env c payload).2 = c := by
  unfold Certificates.storeCertificate
  cases hadmitted : admitChain O L env payload .certInstallFailed with
  | error rc => exact ⟨admitChain_ne_success ErrorCode.noConfusion hadmitted, rfl⟩
  | ok chain =>
    dsimp only
    unfold Certificates.publishChain
    cases hpem : O.toPem chain with
    | none => exact ⟨ErrorCode.noConfusion, rfl⟩
    | some pem =>
      dsimp only
      unfold Component.publishDeviceCertChain
      cases hstore : c.certStore with
      | none => exact ⟨ErrorCode.noConfusion, rfl⟩
      | some current =>
        dsimp only
        split_ifs with hsame hfail
        · exact absurd ⟨chain, pem, current, hadmitted, hpem, hstore, .inl hsame⟩ h
        · exact ⟨hfail, rfl⟩
        · exact absurd ⟨chain, pem, current, hadmitted, hpem, hstore, .inr (not_not.mp hfail)⟩ h

/-- Storing leaves the service alone. -/
private theorem service_storeCertificate :
    (Certificates.storeCertificate O L env c payload).2.service = c.service := by
  unfold Certificates.storeCertificate
  cases admitChain O L env payload .certInstallFailed with
  | error rc => rfl
  | ok chain =>
    dsimp only
    unfold Certificates.publishChain
    cases O.toPem chain with
    | none => rfl
    | some pem => exact Certificates.service_publish

end Storing

/-! ### One operation in shutdown -/

section Step

variable {X509 : Type} (aes : BlockCipher) (D : Keyprov.Deployment) (O : OpenSsl X509)
  (L : Tls.Library)

/-- The condition on one operation. -/
def Spared (s : Daemon) (c : SecCall) : Prop :=
  match c.operation with
  | .getCsr => CsrRefused c.env.oracle s.component.service.fresh c.signs
  | .resetProvisionStatus => s.component.service.svc.initialized = false
  | .storeCertificate payload => ¬ Storable O L c.env s.component payload
  | _ => True

variable {aes D O L} {s : Daemon} {c : SecCall}

/-- `reset_provision_status` comes to nothing exactly before the service was initialised. -/
private theorem rejected_resetProvisionStatus {ω : Oracle} :
    Rejected s (s.onService (resetProvisionStatus ω)) ↔
      s.component.service.svc.initialized = false := by
  constructor
  · intro h
    by_contra hinit
    rw [Bool.not_eq_false] at hinit
    refine h.refused ?_
    change (resetProvisionStatus ω s.component.service.fresh).1 = .success
    unfold resetProvisionStatus
    rw [World.svc_fresh, hinit, if_neg (by decide)]
  · intro hinit
    refine rejected_onService ?_
    unfold resetProvisionStatus
    rw [World.svc_fresh, hinit, if_pos (by decide)]

/-- `store_certificate` comes to nothing exactly where the payload is not storable. -/
private theorem rejected_storeCertificate {env : Surroundings} {payload : Bytes} :
    Rejected s (s.onComponent (Certificates.storeCertificate O L env · payload)) ↔
      ¬ Storable O L env s.component payload := by
  constructor
  · intro h hstorable
    exact h.refused (storeCertificate_of_storable
      (c := s.freshComponent) hstorable)
  · intro hno
    obtain ⟨hcode, hsame⟩ := storeCertificate_of_not_storable
      (c := s.freshComponent) hno
    refine ⟨hcode, ?_, ?_, rfl, rfl⟩
    · exact congrArg (·.service.persisted) hsame
    · exact congrArg (·.certStore) hsame

/-- **The step.** In shutdown an operation is refused exactly under its condition. -/
theorem rejected_perform_iff (h : s.Down) :
    Rejected s (s.perform aes D O L c) ↔ Spared O L s c := by
  obtain ⟨operation, env, provisioning, csrSigns⟩ := c
  have hdown : s.component.service.fresh.svc.shuttingDown = true := h.service
  cases operation with
  | generateKeyPair => exact iff_of_true (rejected_onService (whileServing_down hdown _)) trivial
  | getCsr => exact rejected_getCsr.trans getCsr_refused_iff
  | submitCsr => exact iff_of_true (rejected_onService (whileServing_down hdown _)) trivial
  | injectCertificate payload =>
    have hrejected : Rejected s
        (s.onComponent fun c => Certificates.injectCertificate O L env c payload) :=
      rejected_onComponent (injectCertificate_down O L env (c := s.freshComponent) hdown payload)
    exact iff_of_true hrejected trivial
  | applyCertificate =>
    have hrun : s.perform aes D O L ⟨.applyCertificate, env, provisioning, csrSigns⟩ =
        s.onService (applyCertificate env.oracle) := by
      unfold Daemon.perform
      dsimp only
      rw [applyBuilds_down hdown, Bool.false_and, used_false]
    rw [hrun]
    exact iff_of_true (rejected_onService (whileServing_down hdown _)) trivial
  | getSeed level =>
    refine iff_of_true (rejected_onService ?_) trivial
    rw [getSeed_down hdown]
  | verifyKey level key =>
    refine iff_of_true (rejected_onService ?_) trivial
    rw [verifyKey_down aes hdown]
  | resetProvisionStatus => exact rejected_resetProvisionStatus
  | storeCertificate payload => exact rejected_storeCertificate
  | business call => exact iff_of_true (rejected_onBusinessKeys h D call provisioning) trivial

/-- **The flags stay up**, whatever is asked. -/
theorem down_perform (h : s.Down) : (s.perform aes D O L c).2.Down := by
  obtain ⟨operation, env, provisioning, csrSigns⟩ := c
  have hdown : s.component.service.fresh.svc.shuttingDown = true := h.service
  have hservice : ∀ {f : World → ErrorCode × World} {t : Daemon}, t.businessKeys = s.businessKeys →
      (f t.component.service.fresh).2.svc.shuttingDown = true → (t.onService f).2.Down := by
    intro f t ht hf
    exact ⟨hf, fun w hw => h.businessKeys w (ht ▸ hw)⟩
  cases operation with
  | generateKeyPair =>
    refine hservice rfl ?_
    rw [generateKeyPair, whileServing_down hdown]
    exact hdown
  | getCsr => exact hservice rfl (shuttingDown_getCsr.trans hdown)
  | submitCsr =>
    refine hservice rfl ?_
    rw [submitCsr, whileServing_down hdown]
    exact hdown
  | injectCertificate payload =>
    refine ⟨?_, h.businessKeys⟩
    change
      (Certificates.injectCertificate O L env s.freshComponent payload).2.service.svc.shuttingDown =
      true
    rw [injectCertificate_down O L env (c := s.freshComponent) hdown payload]
    exact hdown
  | applyCertificate =>
    refine hservice rfl ?_
    change (applyCertificate env.oracle s.component.service.fresh).2.svc.shuttingDown = true
    rw [applyCertificate, whileServing_down hdown]
    exact hdown
  | getSeed level =>
    refine hservice rfl ?_
    rw [getSeed_down hdown]
    exact hdown
  | verifyKey level key =>
    refine hservice rfl ?_
    rw [verifyKey_down aes hdown]
    exact hdown
  | resetProvisionStatus =>
    refine hservice rfl ?_
    unfold resetProvisionStatus
    split_ifs <;> exact hdown
  | storeCertificate payload =>
    refine ⟨?_, h.businessKeys⟩
    have hservice : (Certificates.storeCertificate O L env s.freshComponent payload).2.service =
        s.freshComponent.service := service_storeCertificate
    exact (congrArg (·.svc.shuttingDown) hservice).trans hdown
  | business call =>
    change (s.onBusinessKeys D call provisioning).2.Down
    unfold Daemon.onBusinessKeys
    cases hkeys : s.businessKeys with
    | none => exact ⟨h.service, fun w hw => h.businessKeys w hw⟩
    | some w =>
      obtain ⟨hworld, -⟩ := callStep_down D provisioning (h.businessKeys w hkeys) call
      refine ⟨h.service, fun w' hw' => ?_⟩
      obtain rfl := Option.some.inj hw'
      rw [hworld]
      exact h.businessKeys w hkeys

end Step

/-! ### Runs -/

/-- **Quiesce.** After `beginShutdown`, from any state, every operation of a run is refused and
nothing comes of any of them in the running process, exactly when each meets its condition: a
signing request that cannot be given out or built, a reset of a service that is not initialised, a
chain that cannot be stored. The other operations have none.

A chain cannot be stored also when its commit fails. That leaves the running snapshot alone, which
is what `Rejected` asks; the disk may be switched to the new chain if it was the last sync that
failed. -/
theorem quiesce_iff {X509 : Type} (aes : BlockCipher) (D : Keyprov.Deployment)
    (O : OpenSsl X509) (L : Tls.Library) (s : Daemon) (calls : List SecCall) :
    (Daemon.operations aes D O L).Along (fun s c => Rejected s (s.perform aes D O L c))
        s.beginShutdown calls ↔
      (Daemon.operations aes D O L).Along (Spared O L) s.beginShutdown calls :=
  (Daemon.operations aes D O L).along_congr (I := Daemon.Down) s.down_beginShutdown
    (fun _ _ _ hdown => rejected_perform_iff hdown) fun _ _ _ hdown _ => down_perform hdown

/-! ### A signing request after the shutdown has begun -/

/-- A service that has generated its key. -/
def keyedDaemon : Daemon :=
  { component :=
      { service :=
          { persisted := .doc (ProvisionStatus.toJson { state := .keyGenerated })
            svc := installedSvc } } }

/-- The signing request is asked for, and building it succeeds. -/
def csrCall : SecCall :=
  { operation := .getCsr
    env := { clock := .at 100, oracle := { buildCsr := (.success, [0x30]) } }
    provisioning := Keyprov.Bench.calm }

/-- **A signing request is built in shutdown.** The device private key signs it, and the stored
state goes from `KEY_GENERATED` to `CSR_BUILT`. -/
theorem csr_built_in_shutdown :
    ¬ (Daemon.operations exampleAes Keyprov.Bench.daemonD Certificates.bench
        Tls.exampleLibrary).Along
      (fun s c => Rejected s (s.perform exampleAes Keyprov.Bench.daemonD Certificates.bench
        Tls.exampleLibrary c)) keyedDaemon.beginShutdown [csrCall] ∧
    ((Daemon.operations exampleAes Keyprov.Bench.daemonD Certificates.bench
        Tls.exampleLibrary).run keyedDaemon.beginShutdown
          [csrCall]).component.service.persistedState = .csrBuilt ∧
    ((Daemon.operations exampleAes Keyprov.Bench.daemonD Certificates.bench
        Tls.exampleLibrary).run keyedDaemon.beginShutdown [csrCall]).keyUses = 1 := by
  refine ⟨fun hrejected => hrejected.1.refused ?_, ?_, ?_⟩
  · decide +kernel
  · decide +kernel
  · decide +kernel

end TboxSec.Sec
