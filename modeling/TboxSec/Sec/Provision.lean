import TboxSec.Sec.SeedKey

/-!
# Certificate provisioning

The operations of `SecService` that drive the stored provision state: key generation, the
signing request, its submission, the installation of the certificate, the combined
`apply_certificate`, the reset, and a restart of the process. Every operation reads the stored
status first and ends in at most one update of it, except `apply_certificate`, which calls
others. The signing request itself is kept in memory only, so a restart loses it.

* `whileServing` is the guard of the operations that have one. `viaDiag` is an operation that the
  diagnostic service carries out, `conclude` the end of one that the service carries out itself.
* `applySubmit`, `applyCsr` and `applyKey` are the tails of `applyCertificate`, from the last stage
  to the first, so that each starts from the status that the one before it has left.
* `service` is the machine of all operations, with a restart among them.
-/

namespace TboxSec.Sec

variable (ω : Oracle) (w : World)

/-- `ensure_vehicle_info`. -/
def ensureVehicleInfo : ErrorCode × World :=
  if w.svc.vin ≠ "" ∧ w.svc.ecuUid ≠ "" then (.success, w)
  else if !w.svc.provService then (.provNotConfigured, w)
  else
    let w' := { w with asked.vehicles := w.asked.vehicles + 1 }
    match ω.vehicle w.asked.vehicles with
    | .throws => (.provNotConfigured, w')
    | .returns result vin ecuUid =>
      if result ≠ .success then (result, w')
      else if vin = "" ∨ ecuUid = "" then (.provNotConfigured, w')
      else (.success, { w' with svc.vin := vin, svc.ecuUid := ecuUid })

/-- `handle_diag_request`: the result of the request and the code in the response. -/
def handleDiagRequest : (ErrorCode × ErrorCode) × World :=
  if !w.svc.diagService then ((.notInitialized, .success), w)
  else
    let a := ω.diag w.asked.diags
    let w' := { w with asked.diags := w.asked.diags + 1 }
    if !a.connected then ((.connectionFailed, .success), w')
    else ((a.result, a.response), w')

/-- The head of most operations: the service is initialised and not shutting down. -/
def whileServing (body : World → ErrorCode × World) : ErrorCode × World :=
  if !w.svc.initialized then (.notInitialized, w)
  else if w.svc.shuttingDown then (.notInitialized, w)
  else body w

/-- The head of the operations that need the vehicle information. -/
def withVehicleInfo (body : World → ErrorCode × World) : ErrorCode × World :=
  let (provResult, w) := ensureVehicleInfo ω w
  if provResult ≠ .success then (provResult, w) else body w

/-- A request that DIAG carries out: a transport failure is an error of the operation, a
response of success moves the provision state. -/
def viaDiag (done : ProvisionState) (context : String) : ErrorCode × World :=
  let ((result, response), w) := handleDiagRequest ω w
  if result ≠ .success then (result, w.handleError ω result context)
  else if response = .success then (response, w.updateProvisionState ω done)
  else (response, w)

/-- The end of an operation that the service carries out itself. -/
def conclude (result : ErrorCode) (done : ProvisionState) (context : String) :
    ErrorCode × World :=
  if result ≠ .success then (result, w.handleError ω result context)
  else (.success, w.updateProvisionState ω done)

/-- The request in memory is replaced. -/
def World.setCsr (csrDer : Bytes) : World := { w with svc.csrDer := csrDer }

/-- `generate_key_pair`. -/
def generateKeyPair : ErrorCode × World :=
  whileServing w fun w => withVehicleInfo ω w fun w =>
    let (status, w) := w.getProvisionStatus ω
    if status.state ≠ .none ∧ status.state ≠ .failed ∧ ω.deviceKeyExists then (.success, w)
    else if w.svc.diagService then
      viaDiag ω w .keyGenerated "Key pair generation via DIAG failed"
    else conclude ω w ω.generateDeviceKey .keyGenerated "Key pair generation failed"

/-- `get_csr`. It does not look at the shutdown flag. -/
def getCsr : ErrorCode × World :=
  if !w.svc.initialized then (.notInitialized, w)
  else withVehicleInfo ω w fun w =>
    let (status, w) := w.getProvisionStatus ω
    if status.state = .none then (.keyNotFound, w)
    else if status.state = .keyGenerated ∨ w.svc.csrDer = [] then
      conclude ω (w.setCsr ω.buildCsr.2) ω.buildCsr.1 .csrBuilt "CSR building failed"
    else (.success, w)

/-- `submit_csr`. Without DIAG there is no way to submit. -/
def submitCsr : ErrorCode × World :=
  whileServing w fun w => withVehicleInfo ω w fun w =>
    let (status, w) := w.getProvisionStatus ω
    if status.state ≠ .csrBuilt then (.invalidParameter, w)
    else if w.svc.diagService then
      viaDiag ω w .csrSubmitted "CSR submission via DIAG failed"
    else (.notImplemented, w)

/-- `inject_certificate`. A failed installation may be retried while the device key exists. -/
def injectCertificate (certDer : Bytes) : ErrorCode × World :=
  whileServing w fun w => withVehicleInfo ω w fun w =>
    let (status, w) := w.getProvisionStatus ω
    let retryAfterFailure := status.state = .failed ∧ ω.deviceKeyExists
    if status.state ≠ .csrBuilt ∧ status.state ≠ .csrSubmitted ∧ ¬ retryAfterFailure then
      (.invalidParameter, w)
    else if w.svc.diagService then
      viaDiag ω w .certInstalled "Certificate injection via DIAG failed"
    else conclude ω w (ω.validateAndStore certDer) .certInstalled "Certificate injection failed"

/-- The last step of `apply_certificate`, from the local state it has reached. -/
def applySubmit (state : ProvisionState) (w : World) : ErrorCode × World :=
  if state = .csrBuilt then submitCsr ω w else (.success, w)

/-- The second step: the signing request. -/
def applyCsr (state : ProvisionState) (w : World) : ErrorCode × World :=
  if state = .keyGenerated then
    let (result, w) := getCsr ω w
    if result ≠ .success then (result, w) else applySubmit ω .csrBuilt w
  else applySubmit ω state w

/-- The first step: the key pair. -/
def applyKey (state : ProvisionState) (w : World) : ErrorCode × World :=
  if state = .none then
    let (result, w) := generateKeyPair ω w
    if result ≠ .success then (result, w) else applyCsr ω .keyGenerated w
  else applyCsr ω state w

/-- `apply_certificate`. After a failure it starts again from nothing. -/
def applyCertificate : ErrorCode × World :=
  whileServing w fun w =>
    let (status, w) := w.getProvisionStatus ω
    if status.state = .certInstalled then (.success, w)
    else
      let (state, w) :=
        if status.state = .failed then
          (ProvisionState.none, w.saveProvisionStatus ω
            { status with state := .none, retryCount := 0, lastError := "" })
        else (status.state, w)
      if w.svc.diagService then
        let ((result, response), w) := handleDiagRequest ω w
        if result ≠ .success then
          (result, w.handleError ω result "Certificate application via DIAG failed")
        else (response, w)
      else applyKey ω state w

/-- `reset_provision_status`. -/
def resetProvisionStatus : ErrorCode × World :=
  if !w.svc.initialized then (.notInitialized, w)
  else
    (.success,
      { w with
        persisted := if ω.remove.stores then .absent else w.persisted
        svc.csrDer := [] })

/-- A new process: the configuration and the vehicle information are read again, `initialize`
succeeds or not, and everything else starts from its default. -/
def restart (svc : SecService) : World :=
  { persisted := w.persisted
    svc :=
      { initialized := svc.initialized, diagService := svc.diagService
        provService := svc.provService, sharedSecret := svc.sharedSecret, vin := svc.vin
        ecuUid := svc.ecuUid } }

/-! ### The operations as one machine -/

/-- A call of the service, or a restart. -/
inductive Operation where
  | generateKeyPair | getCsr | submitCsr
  | injectCertificate (certDer : Bytes)
  | applyCertificate
  | getSeed (level : UInt8)
  | verifyKey (level : UInt8) (key : Bytes)
  | resetProvisionStatus
  | restart (svc : SecService)
  deriving DecidableEq

/-- An operation with the answers it gets. -/
structure ServiceCall where
  operation : Operation
  oracle : Oracle

variable (aes : BlockCipher)

/-- One operation; it takes its answers afresh. -/
def World.perform (c : ServiceCall) : World :=
  match c.operation with
  | .generateKeyPair => (Sec.generateKeyPair c.oracle w.fresh).2
  | .getCsr => (Sec.getCsr c.oracle w.fresh).2
  | .submitCsr => (Sec.submitCsr c.oracle w.fresh).2
  | .injectCertificate certDer => (Sec.injectCertificate c.oracle w.fresh certDer).2
  | .applyCertificate => (Sec.applyCertificate c.oracle w.fresh).2
  | .getSeed level => (Sec.getSeed level c.oracle w.fresh).1
  | .verifyKey level key => (Sec.verifyKey aes level key c.oracle w.fresh).1
  | .resetProvisionStatus => (Sec.resetProvisionStatus c.oracle w.fresh).2
  | .restart svc => Sec.restart w svc

/-- The service and its stored status under a sequence of operations. -/
def service : Machine World ServiceCall Unit where
  step w c := (w.perform aes c, ())

end TboxSec.Sec
