import TboxSec.Ipc.Messages
import TboxSec.Sec.Quiesce
import TboxSec.Time.Fake
import TboxSec.Time.Monitor
import TboxSec.Tls.PeerCredential

/-!
# The dispatcher of the daemon

`SecIpcDispatcher` turns a request into a call of one of the objects behind it and the outcome
into a response. `Server` is what its handlers can reach: the daemon, the source of the trusted
time and the subscriptions of the clients. A request comes with everything its environment
answers, so `dispatch` is one step of the machine `server`, and its runs are all sequences of
requests, from any clients.

Three groups of methods ask who is calling: those of the TLS credentials, those of the business
keys and those of the trusted time. The methods of the provisioning and of the security access
do not.

`INITIALIZE` makes the objects of the daemon anew while the dispatcher keeps its pointers to the
old ones. What it leaves behind is the environment's choice.

Log output is left out, and the exceptions of the handlers that are not thrown by the JSON
library. A payload is not printed and parsed again before the status is added.
-/

namespace TboxSec

/-! ### Operations of the service that only the dispatcher calls -/

namespace Sec

variable (ω : Oracle) (w : World)

/-- `export_private_key`; `engine` is what `export_device_private_key` answers. -/
def exportPrivateKey (engine : ErrorCode × Bytes) : (ErrorCode × Bytes) × World :=
  if !w.svc.initialized then ((.notInitialized, []), w)
  else
    let (provResult, w) := ensureVehicleInfo ω w
    if provResult ≠ .success then ((provResult, []), w)
    else if !ω.deviceKeyExists then ((.keyNotFound, []), w)
    else (engine, w)

/-- A line of `get_device_info` for a service that may be missing. -/
def connectionText (present connected : Bool) : String :=
  if present then (if connected then "Connected" else "Disconnected") else "Not available"

/-- `get_device_info`, with the configured HSM type, the two connections and the binding
state. -/
def getDeviceInfo (hsmType : String) (diagConnected provConnected : Bool) (bindingState : String) :
    String :=
  let status := w.statusRead (ω.read w.asked.reads)
  "VIN: " ++ (if w.svc.vin = "" then "(not configured)" else w.svc.vin) ++ "\n" ++
    "ECU UID: " ++ (if w.svc.ecuUid = "" then "(not configured)" else w.svc.ecuUid) ++ "\n" ++
    "HSM Type: " ++ hsmType ++ "\n" ++
    "Initialized: " ++ (if w.svc.initialized then "Yes" else "No") ++ "\n" ++
    "DIAG Service: " ++ connectionText w.svc.diagService diagConnected ++ "\n" ++
    "PROV Service: " ++ connectionText w.svc.provService provConnected ++ "\n" ++
    if w.svc.initialized then
      "Binding State (PROV): " ++ bindingState ++ "\n" ++
        "Cert Provision State: " ++ status.state.toText ++ "\n" ++
        "Retry Count: " ++ toString status.retryCount ++ "\n"
    else ""

end Sec

namespace Ipc

open Sec (BlockCipher Daemon SecOperation BusinessCall)
open Tls (PeerIdentity businessKeyPeerAllowed)
open Keyprov (businessDomainV2c purposeUplink purposeDownlink
  WrappedKeyItem ImportResult)

/-! ### Methods -/

namespace MethodId

/-- The value of the enumerator. -/
def value : MethodId → ℕ
  | .initializeSec => 1
  | .generateKeyPair => 2
  | .getCsr => 3
  | .submitCsr => 4
  | .injectCertificate => 5
  | .applyCertificate => 6
  | .setCaCertificate => 7
  | .getSeed => 8
  | .verifyKey => 9
  | .getStatus => 10
  | .getDeviceInfo => 11
  | .resetStatus => 12
  | .exportPrivateKey => 13
  | .getTlsCredential => 14
  | .getTlsCredentialState => 15
  | .signTls => 16
  | .subscribeTlsCredentialChanged => 17
  | .getBusinessKeyStatus => 18
  | .importWrappedBusinessKeys => 19
  | .getBusinessKeyImportResult => 20
  | .getV2cKeyProvisioningCapability => 21
  | .importWrappedBusinessKeysKl1 => 22
  | .getKeyprovContractSnapshot => 23
  | .getTrustedTime => 24
  | .subscribeTrustedTimeChanged => 25

/-- The methods, in the order of their values. -/
def all : List MethodId :=
  [.initializeSec, .generateKeyPair, .getCsr, .submitCsr, .injectCertificate, .applyCertificate,
   .setCaCertificate, .getSeed, .verifyKey, .getStatus, .getDeviceInfo, .resetStatus,
   .exportPrivateKey, .getTlsCredential, .getTlsCredentialState, .signTls,
   .subscribeTlsCredentialChanged, .getBusinessKeyStatus, .importWrappedBusinessKeys,
   .getBusinessKeyImportResult, .getV2cKeyProvisioningCapability, .importWrappedBusinessKeysKl1,
   .getKeyprovContractSnapshot, .getTrustedTime, .subscribeTrustedTimeChanged]

/-- The method that a number is cast to; `none` is no enumerator. -/
def ofValue (n : ℕ) : Option MethodId := all.find? fun m => m.value = n

@[simp]
theorem ofValue_value (m : MethodId) : ofValue m.value = some m := by
  cases m <;> decide

end MethodId

/-- `EventId`. -/
inductive EventId where
  | tlsCredentialChanged | trustedTimeChanged
  deriving DecidableEq

/-- The value of the enumerator. -/
def EventId.value : EventId → ℕ
  | .tlsCredentialChanged => 1
  | .trustedTimeChanged => 2

/-! ### The server -/

/-- `TrustedTimeSnapshotSource`: the monitor, or the source of a development build. -/
inductive TimeSnapshotSource where
  | monitor (m : Time.Monitor)
  | fake (s : Time.FakeSource)

/-- What the handlers can reach. -/
structure Server where
  daemon : Daemon
  /-- `time_source_`, if it is set. -/
  time : Option TimeSnapshotSource := none
  /-- What `add_subscription_fn_` has registered, newest first. -/
  subscriptions : List (ℕ × EventId) := []

/-- What does not change while the daemon runs: the libraries, the configuration and the wiring
of the dispatcher. -/
structure Site (X509 : Type) where
  aes : BlockCipher
  keyprov : Keyprov.Deployment
  openSsl : Certificates.OpenSsl X509
  tls : Tls.Library
  base64 : Base64Functions
  /-- The conversion to `int` of a number that no `int` is near to. -/
  castReal : ℚ → ℤ := fun _ => 0
  time : Time.Setup
  /-- The lease of the development source. -/
  leaseMax : ℤ := 1000
  hsmType : String := ""
  /-- `peer_resolver_` is set. -/
  resolver : Bool := true
  /-- `add_subscription_fn_` is set. -/
  addSubscription : Bool := true
  businessKeyPeerService : String := "tbox-tsp.service"
  trustedTimePeerServices : List String := ["tbox-mqtt.service"]

/-- What the environment answers during one request. -/
structure Answers where
  /-- `SO_PEERCRED` of the connection can be read. -/
  peercred : Bool := true
  /-- `/proc/<pid>/cgroup` of the caller, if it opens. -/
  cgroup : Option Bytes := none
  surroundings : Certificates.Surroundings
  provisioning : Keyprov.Oracle
  /-- `build_csr` gets as far as its signature, should it fail. -/
  csrSigns : Bool := false
  /-- `SecService::initialize`. -/
  reinitialize : Daemon → ErrorCode × Daemon
  /-- `export_device_private_key`. -/
  exportDevicePrivateKey : ErrorCode × Bytes := (.keyNotFound, [])
  /-- `get_device_binding_state`. -/
  bindingState : DeviceProvisionState := .unknown
  diagConnected : Bool := false
  provConnected : Bool := false
  /-- What the monitor meets when it is asked. -/
  time : Time.Env := {}
  /-- What the provider of the development source answers. -/
  sample : Option Time.TrustedTimeSample := none
  /-- `add_subscription_fn_`. -/
  subscribes : Bool := true

/-- A request with the answers it gets. -/
structure Request where
  methodId : ℕ
  params : Bytes
  clientFd : ℕ
  answers : Answers

/-- A status with the payload it is added to. -/
abbrev Response := ℤ × Json String

variable {X509 : Type} (P : Site X509)

/-- `TrustedTimeSnapshotSource::get`. -/
def TimeSnapshotSource.get (a : Answers) (token : ℕ) :
    TimeSnapshotSource → TimeSnapshotSource × Time.TrustedTimeResult
  | .monitor m => let (m, r) := m.get P.time token a.time; (.monitor m, r)
  | .fake s => let (s, r) := s.get P.leaseMax token a.sample; (.fake s, r)

/-- `resolvePeer`. -/
def Request.resolvePeer (req : Request) : PeerIdentity :=
  if P.resolver then Tls.resolve req.answers.peercred req.answers.cgroup else {}

/-! ### Responses -/

/-- FW-0305. -/
def fwSerializationFailed : ℤ := 305

/-- FW-0306. -/
def fwHandlerFailed : ℤ := 306

/-- The payload that says how it went. -/
def successJson (b : Bool) : Json String := Json.null.assign "success" (.bool b)

/-- A code of the service and a payload. -/
def respond (rc : ErrorCode) (payload : Json String) : Response := (errorCodeValue rc, payload)

/-- A refusal. -/
def refused (rc : ErrorCode) : Response := respond rc (successJson false)

/-- A refusal with a text. -/
def refusedWith (rc : ErrorCode) (error : String) : Response :=
  respond rc ((successJson false).assign "error" (.str error))

/-- The response of the handlers that report a code and nothing else. -/
def statusResponse (rc : ErrorCode) : Response := respond rc (successJson (rc == .success))

/-- The response to parameters that the JSON library does not read. -/
def invalidJson : Response :=
  (fwSerializationFailed, (successJson false).assign "error" (.str "Invalid JSON"))

/-- A code and, when it is success, one field of bytes. -/
def bytesResponse (key : String) (rc : ErrorCode) (data : Bytes) : Response :=
  respond rc
    (if rc = .success then Json.null.assign key (.str (P.base64.encode data))
      else successJson false)

/-- The response with an envelope. -/
def envelopeResponse (rc : ErrorCode) (envelope : Json String) : Response :=
  respond rc (Json.null.assign "envelope" envelope)

/-- The envelope that says why there is none. -/
def failedEnvelope (errorClass : String) : Json String :=
  (trustedTimeEnvelopeToJson emptyEnvelope).assign "error_class" (.str errorClass)

namespace Server

variable (s : Server) (req : Request)

/-! ### Provisioning and security access -/

/-- An operation of the daemon. -/
def operate (operation : SecOperation) : ErrorCode × Server :=
  let (rc, daemon) := s.daemon.perform P.aes P.keyprov P.openSsl P.tls
    ⟨operation, req.answers.surroundings, req.answers.provisioning, req.answers.csrSigns⟩
  (rc, { s with daemon })

/-- A handler that reports the code of an operation. -/
def reportStatus (operation : SecOperation) : Server × Response :=
  let (rc, s) := s.operate P req operation
  (s, statusResponse rc)

/-- `handle_initialize`. -/
def handleInitialize : Server × Response :=
  let (rc, daemon) := req.answers.reinitialize s.daemon
  ({ s with daemon }, statusResponse rc)

/-- `handle_generate_key_pair`. -/
def handleGenerateKeyPair : Server × Response := s.reportStatus P req .generateKeyPair

/-- `handle_export_private_key`. -/
def handleExportPrivateKey : Server × Response :=
  let ((rc, privateKey), service) :=
    Sec.exportPrivateKey req.answers.surroundings.oracle s.daemon.component.service.fresh
      req.answers.exportDevicePrivateKey
  ({ s with daemon.component.service := service },
    bytesResponse P "private_key" rc privateKey)

/-- `handle_get_csr`. -/
def handleGetCsr : Server × Response :=
  let (rc, s) := s.operate P req .getCsr
  (s, bytesResponse P "csr" rc s.daemon.component.service.svc.csrDer)

/-- `handle_submit_csr`. -/
def handleSubmitCsr : Server × Response := s.reportStatus P req .submitCsr

/-- `handle_inject_certificate`. -/
def handleInjectCertificate : Server × Response :=
  match (P.tls.parse req.params).bind (textField "cert") with
  | none => (s, invalidJson)
  | some cert =>
    if cert = "" then (s, refusedWith .invalidParameter "Missing cert parameter")
    else s.reportStatus P req (.injectCertificate (P.base64.decode cert))

/-- `handle_apply_certificate`. -/
def handleApplyCertificate : Server × Response := s.reportStatus P req .applyCertificate

/-- `static_cast<uint8_t>(j.value("level", 0))`. -/
def levelField (j : Json String) : Option UInt8 :=
  (j.value "level" (JsonReader.mk P.tls.parse P.castReal).toInt 0).map fun n =>
    UInt8.ofNat (n % 256).toNat

/-- `handle_get_seed`. -/
def handleGetSeed : Server × Response :=
  match (P.tls.parse req.params).bind (levelField P) with
  | none => (s, invalidJson)
  | some level =>
    let seed := (Sec.getSeed level req.answers.surroundings.oracle
      s.daemon.component.service.fresh).2.seed
    let (rc, s) := s.operate P req (.getSeed level)
    (s, bytesResponse P "seed" rc (seed.getD []))

/-- `handle_verify_key`. -/
def handleVerifyKey : Server × Response :=
  match (P.tls.parse req.params).bind fun j =>
      (levelField P j).bind fun level => (textField "key" j).map fun key => (level, key) with
  | none => (s, invalidJson)
  | some (level, key) =>
    if key = "" then (s, refusedWith .invalidParameter "Missing key parameter")
    else s.reportStatus P req (.verifyKey level (P.base64.decode key))

/-- The status that the service reads. -/
def provisionStatus : Sec.ProvisionStatus :=
  (s.daemon.component.service.fresh.getProvisionStatus req.answers.surroundings.oracle).1

/-- `handle_get_status`. -/
def handleGetStatus : Server × Response :=
  let status := s.provisionStatus req
  (s, (0,
    Json.null
      |>.assign "vin" (.str status.vin)
      |>.assign "ecu_uid" (.str status.ecuUid)
      |>.assign "state" (.str status.state.toText)
      |>.assign "prov_state" (.str req.answers.bindingState.toText)
      |>.assign "last_error" (.str status.lastError)
      |>.assign "retry_count" (.int status.retryCount)))

/-- `handle_get_device_info`. -/
def handleGetDeviceInfo : Server × Response :=
  let a := req.answers
  let info := Sec.getDeviceInfo a.surroundings.oracle s.daemon.component.service.fresh P.hsmType
    a.diagConnected a.provConnected a.bindingState.toText
  (s, (0, Json.null.assign "device_info" (.str info)))

/-- `handle_reset_status`. -/
def handleResetStatus : Server × Response := s.reportStatus P req .resetProvisionStatus

/-! ### TLS credentials -/

/-- The answer of the component as a response. -/
def tlsResponse : Tls.Reply → Response
  | .credential bundle => (0, tlsCredentialToJson P.base64 bundle)
  | .state state => (0, tlsCredentialStateToJson state)
  | .signature signature => bytesResponse P "signature" .success signature
  | .serializationFailed => invalidJson
  | .refused rc => refused rc
  -- no handler gets the answers of the other calls
  | .published rc => statusResponse rc
  | .provider _ => refused .internalError

/-- `handle_get_tls_credential`. -/
def handleGetTlsCredential : Server × Response :=
  if s.daemon.component.provider.isNone then
    (s, refusedWith .notImplemented "TLS provider not configured")
  else
    let (component, reply) := s.daemon.component.handleGetTlsCredential P.tls
      req.answers.surroundings.toSurroundings req.params (req.resolvePeer P)
    ({ s with daemon.component := component }, tlsResponse P reply)

/-- `handle_get_tls_credential_state`. -/
def handleGetTlsCredentialState : Server × Response :=
  let (component, reply) := s.daemon.component.handleGetTlsCredentialState P.tls
    req.answers.surroundings.toSurroundings req.params
  ({ s with daemon.component := component }, tlsResponse P reply)

/-- `handle_sign_tls`. -/
def handleSignTls : Server × Response :=
  (s, tlsResponse P
    (s.daemon.component.handleSignTls P.tls P.base64.decode
      req.answers.surroundings.toSurroundings req.params (req.resolvePeer P)))

/-- The server registers the caller for an event, or does not. -/
def addSubscription (event : EventId) : Option Server :=
  if P.addSubscription && req.answers.subscribes then
    some { s with subscriptions := (req.clientFd, event) :: s.subscriptions }
  else none

/-- `handle_subscribe_tls_credential_changed`. -/
def handleSubscribeTlsCredentialChanged : Server × Response :=
  match s.daemon.component.provider with
  | none => (s, refused .notImplemented)
  | some provider =>
    let profile := Tls.Component.requestProfile P.tls req.params
    if !provider.isAuthorized profile (req.resolvePeer P) then (s, refused .aclDenied)
    else
      match s.addSubscription P req .tlsCredentialChanged with
      | none => (s, refusedWith .internalError "Subscription failed")
      | some s =>
        (s, (0, (successJson true).assign "event_type"
          (.int EventId.tlsCredentialChanged.value)))

/-! ### Business keys -/

/-- The head of the handlers of the business keys. The process may die in a call, and then there
is no response. -/
def withBusinessKeys (body : Keyprov.World → Server × Option Response) :
    Server × Option Response :=
  match s.daemon.businessKeys with
  | none => (s, some (refused .notImplemented))
  | some w =>
    if !businessKeyPeerAllowed P.businessKeyPeerService (req.resolvePeer P) then
      (s, some (refused .aclDenied))
    else body w

/-- A call of the business-key service, with its answer. -/
def callBusinessKeys (w : Keyprov.World) (call : BusinessCall) : Server × Keyprov.Reply :=
  ({ s with daemon := (s.daemon.onBusinessKeys P.keyprov call req.answers.provisioning).2 },
    (Keyprov.callStep P.keyprov w ⟨call.toCall, req.answers.provisioning⟩).2)

/-- The response with the statuses of the keys. -/
def statusesResponse : Keyprov.Reply → Option Response
  | .statuses rc items =>
    some (respond rc
      (if rc = .success then
        Json.null.assign "items" (.arr (items.map (businessKeyStatusToJson P.base64)))
      else successJson false))
  | _ => none

/-- The payload of a result with the mark of a failure. -/
def resultPayload (rc : ErrorCode) (payload : Json String) : Json String :=
  payload.assignIf (rc ≠ .success) "success" (.bool false)

/-- The response with an import result, and the KL1 facts where the method gives them. -/
def resultResponse : Keyprov.Reply → Option Response
  | .result rc out => some (respond rc (resultPayload rc (importResultToJson P.base64 out)))
  | .resultKl1 rc out attach =>
    some (respond rc (resultPayload rc (importResultKl1ToJson P.base64 out attach)))
  | _ => none

/-- The purposes in a request; a request without an array of them has none. -/
def purposesField (j : Json String) : Option (List String) :=
  match j.field? "purposes" with
  | some (.arr l) => l.mapM Json.text
  | _ => some []

/-- `handle_get_business_key_status`. -/
def handleGetBusinessKeyStatus : Server × Option Response :=
  s.withBusinessKeys P req fun w =>
    match (P.tls.parse req.params).bind fun j =>
        (j.value "business_domain" Json.text businessDomainV2c).bind fun domain =>
          (purposesField j).map fun purposes => (domain, purposes) with
    | none => (s, some (fwSerializationFailed, successJson false))
    | some (domain, purposes) =>
      let purposes :=
        if purposes = [] then [purposeUplink, purposeDownlink]
        else purposes
      let (s, reply) := s.callBusinessKeys P req w (.getStatus domain purposes)
      (s, statusesResponse P reply)

/-- `handle_import_wrapped_business_keys`. -/
def handleImportWrappedBusinessKeys : Server × Option Response :=
  s.withBusinessKeys P req fun w =>
    match (P.tls.parse req.params).bind (importRequestFromJson P.base64) with
    | none => (s, some (fwSerializationFailed, successJson false))
    | some (requestId, domain, items) =>
      let (s, reply) := s.callBusinessKeys P req w (.importBatch requestId domain items)
      (s, resultResponse P reply)

/-- In shutdown the query returns before it writes its result. -/
def queryReply (w : Keyprov.World) : Keyprov.Reply → Keyprov.Reply
  | .resultKl1 rc out attach => .resultKl1 rc (if w.svc.shuttingDown then {} else out) attach
  | reply => reply

/-- `handle_get_business_key_import_result`. -/
def handleGetBusinessKeyImportResult : Server × Option Response :=
  s.withBusinessKeys P req fun w =>
    match (P.tls.parse req.params).bind (textField "request_id") with
    | none => (s, some (fwSerializationFailed, successJson false))
    | some requestId =>
      let (s, reply) := s.callBusinessKeys P req w (.getImportResultKl1 requestId)
      (s, resultResponse P (queryReply w reply))

/-- `handle_get_v2c_key_provisioning_capability`. -/
def handleGetV2cKeyProvisioningCapability : Server × Option Response :=
  s.withBusinessKeys P req fun w =>
    (s, some (0, (capabilityToJson (Keyprov.capability w)).assign "success" (.bool true)))

/-- `handle_import_wrapped_business_keys_kl1`. -/
def handleImportWrappedBusinessKeysKl1 : Server × Option Response :=
  s.withBusinessKeys P req fun w =>
    match (P.tls.parse req.params).bind (importRequestKl1FromJson P.base64) with
    | none => (s, some (fwSerializationFailed, successJson false))
    | some (requestId, domain, items, context) =>
      let (s, reply) := s.callBusinessKeys P req w (.importKl1 requestId domain items context)
      (s, resultResponse P reply)

/-- `handle_get_keyprov_contract_snapshot`. -/
def handleGetKeyprovContractSnapshot : Server × Option Response :=
  s.withBusinessKeys P req fun w =>
    (s, some (0,
      (snapshotToJson (Keyprov.contractSnapshot P.keyprov w)).assign "success" (.bool true)))

/-! ### Trusted time -/

/-- The caller is on the list of the trusted time. -/
def trustedTimePeerAllowed (caller : PeerIdentity) : Bool :=
  caller.valid && P.trustedTimePeerServices.contains caller.serviceName

/-- The head of the handlers of the trusted time. -/
def withTrustedTime (body : TimeSnapshotSource → Server × Response) : Server × Response :=
  match s.time with
  | none => (s, refused .notImplemented)
  | some source =>
    if !trustedTimePeerAllowed P (req.resolvePeer P) then
      (s, envelopeResponse .aclDenied ((failedEnvelope "acl_denied").assign "valid" (.bool false)))
    else body source

/-- `handle_get_trusted_time`. -/
def handleGetTrustedTime : Server × Response :=
  s.withTrustedTime P req fun source =>
    match (P.tls.parse req.params).bind (uint64Field "request_token") with
    | none => (s, envelopeResponse .trustedTimeMalformed (failedEnvelope "malformed"))
    | some token =>
      let (source, r) := source.get P req.answers token
      ({ s with time := some source },
        envelopeResponse .success (trustedTimeEnvelopeToJson r.toEnvelope))

/-- `handle_subscribe_trusted_time_changed`. -/
def handleSubscribeTrustedTimeChanged : Server × Response :=
  s.withTrustedTime P req fun source =>
    match s.addSubscription P req .trustedTimeChanged with
    | none => (s, envelopeResponse .trustedTimeUnavailable (failedEnvelope "unavailable"))
    | some s =>
      let (source, r) := source.get P req.answers 0
      ({ s with time := some source },
        (0, Json.null
          |>.assign "envelope" (trustedTimeEnvelopeToJson r.toEnvelope)
          |>.assign "event_type" (.int EventId.trustedTimeChanged.value)))

/-! ### The dispatcher -/

/-- The response to a method that is not routed. -/
def unknownMethod : Response :=
  (fwHandlerFailed, Json.null.assign "error" (.str "Unknown method"))

/-- A handler that always responds. -/
def answered (r : Server × Response) : Server × Option Response := (r.1, some r.2)

/-- The handler of a method. The method that set the CA certificate has none any more. -/
def handle : MethodId → Server × Option Response
  | .initializeSec => answered (s.handleInitialize req)
  | .generateKeyPair => answered (s.handleGenerateKeyPair P req)
  | .exportPrivateKey => answered (s.handleExportPrivateKey P req)
  | .getCsr => answered (s.handleGetCsr P req)
  | .submitCsr => answered (s.handleSubmitCsr P req)
  | .injectCertificate => answered (s.handleInjectCertificate P req)
  | .applyCertificate => answered (s.handleApplyCertificate P req)
  | .getSeed => answered (s.handleGetSeed P req)
  | .verifyKey => answered (s.handleVerifyKey P req)
  | .getStatus => answered (s.handleGetStatus req)
  | .getDeviceInfo => answered (s.handleGetDeviceInfo P req)
  | .resetStatus => answered (s.handleResetStatus P req)
  | .getTlsCredential => answered (s.handleGetTlsCredential P req)
  | .getTlsCredentialState => answered (s.handleGetTlsCredentialState P req)
  | .signTls => answered (s.handleSignTls P req)
  | .subscribeTlsCredentialChanged => answered (s.handleSubscribeTlsCredentialChanged P req)
  | .getBusinessKeyStatus => s.handleGetBusinessKeyStatus P req
  | .importWrappedBusinessKeys => s.handleImportWrappedBusinessKeys P req
  | .getBusinessKeyImportResult => s.handleGetBusinessKeyImportResult P req
  | .getV2cKeyProvisioningCapability => s.handleGetV2cKeyProvisioningCapability P req
  | .importWrappedBusinessKeysKl1 => s.handleImportWrappedBusinessKeysKl1 P req
  | .getKeyprovContractSnapshot => s.handleGetKeyprovContractSnapshot P req
  | .getTrustedTime => answered (s.handleGetTrustedTime P req)
  | .subscribeTrustedTimeChanged => answered (s.handleSubscribeTrustedTimeChanged P req)
  | .setCaCertificate => answered (s, unknownMethod)

/-- `make_json_response`. -/
def makeJsonResponse (r : Response) : Json String := r.2.assign "status" (.int r.1)

/-- `dispatch`. -/
def dispatch : Server × Option (Json String) :=
  let (s, r) := match MethodId.ofValue req.methodId with
    | some method => s.handle P req method
    | none => answered (s, unknownMethod)
  (s, r.map makeJsonResponse)

end Server

/-- The daemon under a sequence of requests. -/
def server : Machine Server Request (Option (Json String)) where
  step s req := s.dispatch P req

/-! ### A bench -/

/-- The libraries of the other benches. -/
def exampleSite : Site Certificates.BenchCert where
  aes := Sec.exampleAes
  keyprov := Keyprov.Bench.daemonD
  openSsl := Certificates.bench
  tls := Tls.exampleLibrary
  base64 := rfcBase64
  time := { cfg := {} }

/-- A daemon with a ready profile, whose peer is `tbox-mqtt.service`. -/
def exampleServer : Server := { daemon := { component := Tls.exampleComponent } }

/-- What a caller gets that is the service of the over-the-air updates. -/
def exampleAnswers : Answers where
  cgroup := some (textBytes "0::/system.slice/tbox-ota.service")
  surroundings := { Tls.exampleEnv 200 with }
  provisioning := Keyprov.Bench.calm
  reinitialize d := (.success, d)

/-- Its request of a method, with empty parameters. -/
def exampleRequest (method : MethodId) : Request where
  methodId := method.value
  params := []
  clientFd := 7
  answers := exampleAnswers

end Ipc

end TboxSec
