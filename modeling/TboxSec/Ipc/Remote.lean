import TboxSec.Ipc.Exchange

/-!
# The daemon behind the client

Two machines under the same calls (`ClientCall`: the request methods of `SecClient`; the two
subscribe methods, which keep their connection, are not among them).

* In `remote` the client prints a request, the dispatcher parses it, calls an object and prints a
  response, and the client reads that.
* In `inProcess` the objects are called at once (`Server.serve`), and the client is given what its
  method makes of the answer (`ClientCall.present`).

What a method makes of an answer is not the answer itself:

* the codes are shown as the client's numbers, and the states as texts;
* the outputs of a refused call are blank;
* the capability flag `business_key_import_result_not_found_v1` is never read and stays false;
* the snapshot carries the client's own build identifier;
* of the KL1 facts the client keeps those that the message carries, under the codes that come with
  a result.

`remote_eq_inProcess` says that beyond these nobody can tell the difference, over whole runs of
calls from any clients, provided the numbers fit the types that the programs give them.
-/

namespace TboxSec.Ipc

open Keyprov
open Sec (SecOperation)
open Time (TrustedTimeEnvelope)
open Tls (TlsCredentialBundle TlsCredentialState TlsSignRequest businessKeyPeerAllowed)

/-! ### Calls of the client -/

/-- The request methods of `SecClient` with their arguments. The two subscribe methods keep their
connection and are not among them. -/
inductive ClientCall where
  | status (call : StatusCall)
  | exportPrivateKey | getCsr
  | getSeed (level : UInt8)
  | getProvisionStatus | getDeviceInfo | resetProvisionStatus
  | getTlsCredential (profile : String)
  | getTlsCredentialState (profile : String)
  | signTls (request : TlsSignRequest) (context : Bytes) (requestId : String)
  | getBusinessKeyStatus (businessDomain : String) (purposes : List String)
  | importWrappedBusinessKeys (requestId businessDomain : String) (items : List WrappedKeyItem)
  | getBusinessKeyImportResult (requestId : String)
  | getV2cKeyProvisioningCapability | getKeyprovContractSnapshot
  | importWrappedBusinessKeysKl1 (requestId businessDomain : String)
      (items : List WrappedKeyItem) (context : KeyprovImportContext)
  | getBusinessKeyImportResultKl1 (requestId : String)
  | getTrustedTime (requestToken : ℕ)

/-- What a method returns and leaves in its output variables. -/
inductive Outcome where
  | code (rc : Code)
  | bytes (rc : Code) (data : Option Bytes)
  | status (s : SecClient.SecProvisionStatus)
  | text (s : String)
  | credential (rc : Code) (bundle : Option TlsCredentialBundle)
  | state (rc : Code) (state : Option TlsStateReport)
  | statuses (rc : Code) (items : Option (List BusinessKeyStatus))
  | result (rc : Code) (out : Option ImportResult)
  | resultKl1 (rc : Code) (out : Option ImportResult) (attach : Option KeyprovResultAttachment)
  | capability (rc : Code) (out : Option (ℕ × V2cKeyProvisioningCapability))
  | snapshot (rc : Code) (out : Option KeyprovContractSnapshot)
  | time (rc : Code) (out : TrustedTimeEnvelope)

namespace ClientCall

variable (R : JsonReader) (B : Base64Functions) (T : Transport)

/-- A call of the client. -/
def run : ClientCall → Outcome
  | .status call => .code (call.run R B T)
  | .exportPrivateKey => let (rc, data) := SecClient.exportPrivateKey R B T; .bytes rc data
  | .getCsr => let (rc, data) := Ipc.getCsr R B T; .bytes rc data
  | .getSeed level => let (rc, data) := SecClient.getSeed R B T level; .bytes rc data
  | .getProvisionStatus => .status (SecClient.getProvisionStatus R T)
  | .getDeviceInfo => .text (SecClient.getDeviceInfo R T)
  | .resetProvisionStatus => .code (SecClient.resetProvisionStatus R T)
  | .getTlsCredential profile =>
    let (rc, bundle) := SecClient.getTlsCredential R B T profile
    .credential rc bundle
  | .getTlsCredentialState profile =>
    let (rc, state) := SecClient.getTlsCredentialState R T profile
    .state rc state
  | .signTls request context requestId =>
    let (rc, signature) := SecClient.signTls R B T request context requestId
    .bytes rc signature
  | .getBusinessKeyStatus businessDomain purposes =>
    let (rc, items) := SecClient.getBusinessKeyStatus R B T businessDomain purposes
    .statuses rc items
  | .importWrappedBusinessKeys requestId businessDomain items =>
    let (rc, out) := SecClient.importWrappedBusinessKeys R B T requestId businessDomain items
    .result rc out
  | .getBusinessKeyImportResult requestId =>
    let (rc, out) := SecClient.getBusinessKeyImportResult R B T requestId
    .result rc out
  | .getV2cKeyProvisioningCapability =>
    let (rc, out) := SecClient.getV2cKeyProvisioningCapability R T
    .capability rc out
  | .getKeyprovContractSnapshot =>
    let (rc, out) := SecClient.getKeyprovContractSnapshot R T
    .snapshot rc out
  | .importWrappedBusinessKeysKl1 requestId businessDomain items context =>
    let (rc, out, attach) :=
      SecClient.importWrappedBusinessKeysKl1 R B T requestId businessDomain items context
    .resultKl1 rc out attach
  | .getBusinessKeyImportResultKl1 requestId =>
    let (rc, out) := SecClient.getBusinessKeyImportResultKl1 R B T requestId
    .resultKl1 rc (out.map Prod.fst) (out.map Prod.snd)
  | .getTrustedTime requestToken =>
    let (rc, out) := SecClient.getTrustedTime R T requestToken
    .time rc out

/-- What a call sends, if it sends anything. -/
def sends : ClientCall → Option (MethodId × Json String)
  | .status call => some (call.request B)
  | .exportPrivateKey => some (.exportPrivateKey, .obj [])
  | .getCsr => some (.getCsr, .obj [])
  | .getSeed level => some (.getSeed, Json.null.assign "level" (.int level.toNat))
  | .getProvisionStatus => some (.getStatus, .obj [])
  | .getDeviceInfo => some (.getDeviceInfo, .obj [])
  | .resetProvisionStatus => some (.resetStatus, .obj [])
  | .getTlsCredential profile =>
    some (.getTlsCredential, Json.null.assign "profile" (.str profile))
  | .getTlsCredentialState profile =>
    some (.getTlsCredentialState, Json.null.assign "profile" (.str profile))
  | .signTls request context requestId => some (.signTls, signTlsToJson B request context requestId)
  | .getBusinessKeyStatus businessDomain purposes =>
    some (.getBusinessKeyStatus,
      Json.null
        |>.assign "business_domain" (.str businessDomain)
        |>.assign "purposes" (.arr (purposes.map .str)))
  | .importWrappedBusinessKeys requestId businessDomain items =>
    some (.importWrappedBusinessKeys,
      Ipc.importWrappedBusinessKeys B requestId businessDomain items)
  | .getBusinessKeyImportResult requestId | .getBusinessKeyImportResultKl1 requestId =>
    some (.getBusinessKeyImportResult, Json.null.assign "request_id" (.str requestId))
  | .getV2cKeyProvisioningCapability => some (.getV2cKeyProvisioningCapability, .obj [])
  | .getKeyprovContractSnapshot => some (.getKeyprovContractSnapshot, .obj [])
  | .importWrappedBusinessKeysKl1 requestId businessDomain items context =>
    (Ipc.importWrappedBusinessKeysKl1 B requestId businessDomain items context).map fun params =>
      (.importWrappedBusinessKeysKl1, params)
  | .getTrustedTime requestToken =>
    some (.getTrustedTime, Json.null.assign "request_token" (.int requestToken))

/-- What a call makes of a refusal, or of a success that brings nothing but the code. -/
def refused (rc : ErrorCode) : ClientCall → Outcome
  | .status _ | .resetProvisionStatus => .code (SecClient.code rc)
  | .exportPrivateKey | .getCsr | .getSeed _ | .signTls .. => .bytes (SecClient.code rc) none
  | .getProvisionStatus => .status {}
  | .getDeviceInfo => .text ""
  | .getTlsCredential _ => .credential (SecClient.code rc) none
  | .getTlsCredentialState _ => .state (SecClient.code rc) none
  | .getBusinessKeyStatus .. => .statuses (SecClient.code rc) (some [])
  | .importWrappedBusinessKeys requestId .. | .getBusinessKeyImportResult requestId =>
    .result (SecClient.code rc) (some { requestId })
  | .getV2cKeyProvisioningCapability =>
    .capability (SecClient.code rc) (some (capabilityContractVersion, {}))
  | .getKeyprovContractSnapshot => .snapshot (SecClient.code rc) (some {})
  | .importWrappedBusinessKeysKl1 requestId .. | .getBusinessKeyImportResultKl1 requestId =>
    .resultKl1 (SecClient.code rc) (some { requestId }) (some {})
  | .getTrustedTime _ =>
    .time (SecClient.code rc)
      { emptyEnvelope with errorClass := SecClient.timeErrorClass (errorCodeValue rc) }

/-- What a call makes of a connection that is closed before the response. -/
def lost : ClientCall → Outcome
  | .status _ | .resetProvisionStatus => .code .connectionFailed
  | .exportPrivateKey | .getCsr | .getSeed _ | .signTls .. => .bytes .connectionFailed none
  | .getProvisionStatus => .status {}
  | .getDeviceInfo => .text ""
  | .getTlsCredential _ => .credential .connectionFailed none
  | .getTlsCredentialState _ => .state .connectionFailed none
  | .getBusinessKeyStatus .. => .statuses .connectionFailed none
  | .importWrappedBusinessKeys .. | .getBusinessKeyImportResult _ =>
    .result .connectionFailed none
  | .getV2cKeyProvisioningCapability => .capability .connectionFailed none
  | .getKeyprovContractSnapshot => .snapshot .connectionFailed none
  | .importWrappedBusinessKeysKl1 .. | .getBusinessKeyImportResultKl1 _ =>
    .resultKl1 .connectionFailed none none
  | .getTrustedTime _ =>
    .time (SecClient.code .trustedTimeUnavailable)
      { emptyEnvelope with errorClass := "unavailable" }

end ClientCall

/-! ### The objects behind the dispatcher -/

/-- What an object answers that is called in process. -/
inductive Answer where
  | code (rc : ErrorCode)
  | bytes (rc : ErrorCode) (data : Bytes)
  | status (s : Sec.ProvisionStatus)
  | info (s : String)
  | credential (bundle : TlsCredentialBundle)
  | state (state : TlsCredentialState)
  | keys (reply : Keyprov.Reply)
  | capability (c : V2cKeyProvisioningCapability)
  | snapshot (s : KeyprovContractSnapshot)
  | envelope (e : TrustedTimeEnvelope)

/-- The facts beside a result, as the client holds them. -/
def attachedFacts (a : KeyprovResultAttachment) : KeyprovResultAttachment :=
  { a with snapshot := attachedSnapshot secClientBuildId a.snapshot }

namespace ClientCall

/-- What a call makes of an answer of the business-key service. The KL1 facts are read under the
codes that come with a result. -/
def presentKeys (call : ClientCall) : Keyprov.Reply → Outcome
  | .statuses rc items =>
    .statuses (SecClient.code rc) (some (if rc = .success then items else []))
  | .result rc out => .result (SecClient.code rc) (some out)
  | .resultKl1 rc out attach =>
    match call with
    | .importWrappedBusinessKeysKl1 .. =>
      .resultKl1 (SecClient.code rc) (some out) (some
        (if (SecClient.code rc : ℤ) ∈ SecClient.importKl1Codes then attachedFacts attach else {}))
    | .getBusinessKeyImportResultKl1 _ =>
      .resultKl1 (SecClient.code rc) (some out)
        (some (if rc = .success then attachedFacts attach else {}))
    | _ => .result (SecClient.code rc) (some out)
  | _ => call.lost

/-- What a call makes of an answer: the client's numbers for the codes, blank outputs when it is
refused, a capability flag that is never read, and the client's own build identifier. -/
def present (call : ClientCall) : Answer → Outcome
  | .code rc => call.refused rc
  | .bytes rc data => .bytes (SecClient.code rc) (if rc = .success then some data else none)
  | .status s =>
    .status
      { vin := s.vin, ecuUid := s.ecuUid, state := s.state.toText, lastError := s.lastError
        retryCount := s.retryCount }
  | .info s => .text s
  | .credential bundle => .credential .success (some bundle)
  | .state state => .state .success (some (reportOf state))
  | .keys reply => call.presentKeys reply
  | .capability c =>
    .capability .success
      (some (capabilityContractVersion, { c with businessKeyImportResultNotFoundV1 := false }))
  | .snapshot s => .snapshot .success (some { s with sdkBuildId := secClientBuildId })
  | .envelope e => .time .success e

end ClientCall

/-- A call with its connection and the answers of the environment. -/
structure Invocation where
  call : ClientCall
  clientFd : ℕ
  answers : Answers

/-- The request of an invocation. -/
def Invocation.request (i : Invocation) (method : MethodId) (params : Bytes) : Request where
  methodId := method.value
  params
  clientFd := i.clientFd
  answers := i.answers

variable {X509 : Type} (P : Site X509)

namespace Server

variable (s : Server) (i : Invocation)

/-- The invocation without a message. -/
def bare : Request := i.request .getStatus []

/-- An operation that reports its code. -/
def performed (operation : SecOperation) : Server × Answer :=
  let (rc, s) := s.operate P (bare i) operation
  (s, .code rc)

/-- The credential of a profile, for the caller. -/
def serveCredential (profile : String) : Server × Answer :=
  let env := i.answers.surroundings.toSurroundings
  let caller := (bare i).resolvePeer P
  match s.daemon.component.provider with
  | none => (s, .code .notImplemented)
  | some provider =>
    if !provider.isAuthorized profile caller then (s, .code .aclDenied)
    else
      let component := s.daemon.component.healed P.tls env profile
      let s := { s with daemon.component := component }
      match component.provider with
      | none => (s, .code .notImplemented)
      | some provider =>
        match provider.getTlsCredential P.tls (component.collaborators env env.clock.serve) profile
            caller with
        | .ok bundle => (s, .credential bundle)
        | .error rc => (s, .code rc)

/-- The state of the credential of a profile. -/
def serveCredentialState (profile : String) : Server × Answer :=
  let env := i.answers.surroundings.toSurroundings
  match s.daemon.component.provider with
  | none => (s, .code .notImplemented)
  | some _ =>
    let component := s.daemon.component.healed P.tls env profile
    let s := { s with daemon.component := component }
    match component.provider with
    | none => (s, .code .notImplemented)
    | some provider =>
      match provider.getTlsCredentialState profile with
      | .ok state => (s, .state state)
      | .error rc => (s, .code rc)

/-- A signature under a reference. -/
def serveSignature (request : TlsSignRequest) : Answer :=
  let env := i.answers.surroundings.toSurroundings
  match s.daemon.component.provider with
  | none => .code .notImplemented
  | some provider =>
    match provider.signTls P.tls (s.daemon.component.collaborators env env.clock.serve) request
        ((bare i).resolvePeer P) with
    | .ok signature => .bytes .success signature
    | .error rc => .code rc

/-- What the business-key service is asked, by callers that it knows. -/
def serveKeys (body : Keyprov.World → Server × Answer) : Server × Answer :=
  match s.daemon.businessKeys with
  | none => (s, .code .notImplemented)
  | some w =>
    if !businessKeyPeerAllowed P.businessKeyPeerService ((bare i).resolvePeer P) then
      (s, .code .aclDenied)
    else body w

/-- The trusted time, for callers that the source knows. -/
def serveTime (requestToken : ℕ) : Server × Answer :=
  match s.time with
  | none => (s, .code .notImplemented)
  | some source =>
    if !trustedTimePeerAllowed P ((bare i).resolvePeer P) then (s, .code .aclDenied)
    else
      let (source, r) := source.get P i.answers requestToken
      ({ s with time := some source }, .envelope r.toEnvelope)

/-- A call in process. -/
def serve : Server × Answer :=
  match i.call with
  | .status .initializeSec =>
    let (rc, daemon) := i.answers.reinitialize s.daemon
    ({ s with daemon }, .code rc)
  | .status .generateKeyPair => s.performed P i .generateKeyPair
  | .status .submitCsr => s.performed P i .submitCsr
  | .status (.injectCertificate certDer) =>
    if certDer = [] then (s, .code .invalidParameter)
    else s.performed P i (.injectCertificate certDer)
  | .status .applyCertificate => s.performed P i .applyCertificate
  | .status (.verifyKey level key) =>
    if key = [] then (s, .code .invalidParameter) else s.performed P i (.verifyKey level key)
  | .exportPrivateKey =>
    let ((rc, privateKey), service) :=
      Sec.exportPrivateKey i.answers.surroundings.oracle s.daemon.component.service.fresh
        i.answers.exportDevicePrivateKey
    ({ s with daemon.component.service := service }, .bytes rc privateKey)
  | .getCsr =>
    let (rc, s) := s.operate P (bare i) .getCsr
    (s, .bytes rc s.daemon.component.service.svc.csrDer)
  | .getSeed level =>
    let seed := (Sec.getSeed level i.answers.surroundings.oracle
      s.daemon.component.service.fresh).2.seed
    let (rc, s) := s.operate P (bare i) (.getSeed level)
    (s, .bytes rc (seed.getD []))
  | .getProvisionStatus => (s, .status (s.provisionStatus (bare i)))
  | .getDeviceInfo =>
    (s, .info (Sec.getDeviceInfo i.answers.surroundings.oracle s.daemon.component.service.fresh
      P.hsmType i.answers.diagConnected i.answers.provConnected i.answers.bindingState.toText))
  | .resetProvisionStatus => s.performed P i .resetProvisionStatus
  | .getTlsCredential profile => s.serveCredential P i profile
  | .getTlsCredentialState profile => s.serveCredentialState P i profile
  | .signTls request _ _ => (s, s.serveSignature P i request)
  | .getBusinessKeyStatus businessDomain purposes =>
    s.serveKeys P i fun w =>
      let purposes := if purposes = [] then [purposeUplink, purposeDownlink] else purposes
      let (s, reply) := s.callBusinessKeys P (bare i) w (.getStatus businessDomain purposes)
      (s, .keys reply)
  | .importWrappedBusinessKeys requestId businessDomain items =>
    s.serveKeys P i fun w =>
      let (s, reply) :=
        s.callBusinessKeys P (bare i) w (.importBatch requestId businessDomain items)
      (s, .keys reply)
  | .getBusinessKeyImportResult requestId | .getBusinessKeyImportResultKl1 requestId =>
    s.serveKeys P i fun w =>
      let (s, reply) := s.callBusinessKeys P (bare i) w (.getImportResultKl1 requestId)
      (s, .keys (queryReply w reply))
  | .getV2cKeyProvisioningCapability =>
    s.serveKeys P i fun w => (s, .capability (Keyprov.capability w))
  | .getKeyprovContractSnapshot =>
    s.serveKeys P i fun w => (s, .snapshot (Keyprov.contractSnapshot P.keyprov w))
  | .importWrappedBusinessKeysKl1 requestId businessDomain items context =>
    s.serveKeys P i fun w =>
      let (s, reply) :=
        s.callBusinessKeys P (bare i) w (.importKl1 requestId businessDomain items context)
      (s, .keys reply)
  | .getTrustedTime requestToken => s.serveTime P i requestToken

end Server

/-! ### The two machines -/

/-- What comes back. A daemon that dies during a request closes the connection. -/
def delivered : Option (Json String) → ℤ × Bytes
  | some response => (0, P.tls.dump response)
  | none => (-1, [])

/-- The connection of the client, during one call. -/
def Server.link (s : Server) (i : Invocation) : Transport where
  call method params := delivered P (s.dispatch P (i.request method (P.tls.dump params))).2
  callOnce method params := delivered P (s.dispatch P (i.request method (P.tls.dump params))).2

/-- The daemon behind the client. -/
def remote : Machine Server Invocation Outcome where
  step s i :=
    (match i.call.sends P.base64 with
      | none => s
      | some (method, params) => (s.dispatch P (i.request method (P.tls.dump params))).1,
     i.call.run P.reader P.base64 (s.link P i))

/-- The call refuses by itself: the client sends nothing. -/
def Invocation.unsent (i : Invocation) : Option Outcome :=
  match i.call.sends P.base64, i.call with
  | none, .importWrappedBusinessKeysKl1 requestId businessDomain _ _ =>
    some (.resultKl1 (SecClient.code .businessKeyNotReady) (some { requestId, businessDomain })
      none)
  | _, _ => none

/-- The objects called in process. -/
def inProcess : Machine Server Invocation Outcome where
  step s i :=
    match i.unsent P with
    | some outcome => (s, outcome)
    | none => ((s.serve P i).1, i.call.present (s.serve P i).2)

/-! ### The client's side -/

section Client

variable {R : JsonReader} {B : Base64Functions} {T : Transport} {m : MethodId}
  {p payload : Json String} {text : Bytes} {rc : ErrorCode} {call : ClientCall}

theorem sendRequest_of_exchange (h : T.exchange m p = (0, text)) :
    sendRequest R T m p = (true, R.bizStatus text, text) := by
  rw [sendRequest, h]
  rfl

private theorem sendRequest_of_lost (h : T.exchange m p = (-1, [])) :
    sendRequest R T m p = (false, 0, []) := by
  rw [sendRequest, h]
  rfl

/-- The codes under which the call reads a result; the others are refusals. -/
def ClientCall.resultCodes : ClientCall → List ℤ
  | .status _ | .resetProvisionStatus => []
  | .importWrappedBusinessKeys .. => SecClient.importCodes
  | .importWrappedBusinessKeysKl1 .. => SecClient.importKl1Codes
  | _ => SecClient.queryCodes

private theorem ne_success_of_not_mem (h : (SecClient.code rc : ℤ) ∉ SecClient.queryCodes) :
    rc ≠ .success := by
  rintro rfl
  exact h (by simp [SecClient.queryCodes])

private theorem statusMethod_of_answered (h : T.exchange m p = (0, text))
    (ha : Answered R text rc payload) : statusMethod R T m p = SecClient.code rc := by
  rw [statusMethod, sendRequest_of_exchange h]
  exact ha.wrapUnsigned32_status

theorem fetchMethod_of_refused {α : Type} {read : Json String → Option α}
    (h : T.exchange m p = (0, text)) (ha : Answered R text rc payload) (hrc : rc ≠ .success) :
    SecClient.fetchMethod R T m p read = (SecClient.code rc, none) := by
  rw [SecClient.fetchMethod, sendRequest_of_exchange h]
  dsimp only
  rw [if_neg (ha.status_ne_zero hrc), ha.wrapUnsigned32_status]

theorem fetchMethod_of_success {α : Type} {read : Json String → Option α} {keys : List String}
    {a : α} (h : T.exchange m p = (0, text)) (ha : Answered R text .success payload)
    (hread : Json.Reads keys read) (hkeys : "status" ∉ keys) (hpayload : read payload = some a) :
    SecClient.fetchMethod R T m p read = (.success, some a) := by
  rw [SecClient.fetchMethod, sendRequest_of_exchange h]
  dsimp only
  rw [if_pos ha.status_success, ha.read hread hkeys, hpayload, ha.wrapUnsigned32_status]
  rfl

theorem blankMethod_of_refused {α : Type} {blank : α} {read : Json String → Option α}
    (h : T.exchange m p = (0, text)) (ha : Answered R text rc payload) (hrc : rc ≠ .success) :
    SecClient.blankMethod R T m p blank read = (SecClient.code rc, some blank) := by
  rw [SecClient.blankMethod, sendRequest_of_exchange h]
  dsimp only
  rw [if_neg (ha.status_ne_zero hrc), ha.wrapUnsigned32_status]

theorem blankMethod_of_success {α : Type} {blank a : α} {read : Json String → Option α}
    {keys : List String} (h : T.exchange m p = (0, text))
    (ha : Answered R text .success payload) (hread : Json.Reads keys read)
    (hkeys : "status" ∉ keys) (hpayload : read payload = some a) :
    SecClient.blankMethod R T m p blank read = (.success, some a) := by
  rw [SecClient.blankMethod, sendRequest_of_exchange h]
  dsimp only
  rw [if_pos ha.status_success, ha.read hread hkeys, hpayload, ha.wrapUnsigned32_status]
  rfl

variable {α : Type} {definite : List ℤ} {blank a : α} {read readOther : Json String → Option α}
  {keys : List String}

private theorem resultMethod_of_refused (h : T.exchange m p = (0, text))
    (ha : Answered R text rc payload) (hrc : (SecClient.code rc : ℤ) ∉ definite)
    (hstate : payload.contains "state" = false) :
    SecClient.resultMethod R T m p definite blank read readOther =
      (SecClient.code rc, some blank) := by
  have hmem : R.bizStatus text ∉ definite := ha.status ▸ hrc
  obtain ⟨j, hparse, hbut⟩ := ha.payload
  have hcontains : j.contains "state" = false := (hbut.contains (by decide)).symm.trans hstate
  rw [SecClient.resultMethod, sendRequest_of_exchange h]
  dsimp only
  rw [if_neg hmem, if_pos ha.nonempty, hparse]
  dsimp only
  rw [hcontains, if_neg Bool.false_ne_true, ha.wrapUnsigned32_status]

theorem resultMethod_of_definite (h : T.exchange m p = (0, text))
    (ha : Answered R text rc payload) (hrc : (SecClient.code rc : ℤ) ∈ definite)
    (hread : Json.Reads keys read) (hkeys : "status" ∉ keys) (hpayload : read payload = some a) :
    SecClient.resultMethod R T m p definite blank read readOther =
      (SecClient.code rc, some a) := by
  have hmem : R.bizStatus text ∈ definite := ha.status ▸ hrc
  rw [SecClient.resultMethod, sendRequest_of_exchange h]
  dsimp only
  rw [if_pos hmem, ha.read hread hkeys, hpayload, ha.wrapUnsigned32_status]

theorem resultMethod_of_other (h : T.exchange m p = (0, text))
    (ha : Answered R text rc payload) (hrc : (SecClient.code rc : ℤ) ∉ definite)
    (hstate : payload.contains "state" = true) (hread : Json.Reads keys readOther)
    (hkeys : "status" ∉ keys) (hpayload : readOther payload = some a) :
    SecClient.resultMethod R T m p definite blank read readOther =
      (SecClient.code rc, some a) := by
  have hmem : R.bizStatus text ∉ definite := ha.status ▸ hrc
  obtain ⟨j, hparse, hbut⟩ := ha.payload
  have hcontains : j.contains "state" = true := (hbut.contains (by decide)).symm.trans hstate
  have hvalue : readOther j = some a := (hread hkeys hbut).symm.trans hpayload
  rw [SecClient.resultMethod, sendRequest_of_exchange h]
  dsimp only
  rw [if_neg hmem, if_pos ha.nonempty, hparse]
  dsimp only
  rw [hcontains, if_pos rfl, hvalue, ha.wrapUnsigned32_status]

/-- **A refusal** looks the same from every method. -/
theorem run_of_refused (hsends : call.sends B = some (m, p)) (h : T.exchange m p = (0, text))
    (ha : Answered R text rc payload) (hstate : payload.contains "state" = false)
    (hrc : (SecClient.code rc : ℤ) ∉ call.resultCodes)
    (hcall : call ≠ .getProvisionStatus ∧ call ≠ .getDeviceInfo) :
    call.run R B T = call.refused rc := by
  have hne : call.resultCodes = SecClient.queryCodes → rc ≠ .success := fun heq =>
    ne_success_of_not_mem (heq ▸ hrc)
  cases call with
  | getProvisionStatus => exact absurd rfl hcall.1
  | getDeviceInfo => exact absurd rfl hcall.2
  | status call =>
    have hrequest : call.request B = (m, p) := Option.some.inj hsends
    rw [ClientCall.run, StatusCall.run_eq, hrequest, statusMethod_of_answered h ha,
      ClientCall.refused]
  | importWrappedBusinessKeysKl1 requestId businessDomain items context =>
    obtain ⟨params, hparams, heq⟩ := Option.map_eq_some_iff.mp hsends
    obtain ⟨rfl, rfl⟩ := Prod.mk.inj heq
    have hcodes : (SecClient.code rc : ℤ) ∉ SecClient.importKl1Codes := hrc
    rw [ClientCall.run, SecClient.importWrappedBusinessKeysKl1, hparams]
    dsimp only
    rw [resultMethod_of_refused h ha hcodes hstate]
    rfl
  | getTrustedTime requestToken =>
    obtain ⟨rfl, rfl⟩ := Prod.mk.inj (Option.some.inj hsends)
    rw [ClientCall.run, SecClient.getTrustedTime, sendRequest_of_exchange h]
    dsimp only
    rw [if_pos (ha.status_ne_zero (hne rfl)), ha.wrapUnsigned32_status, ha.status]
    rfl
  | getV2cKeyProvisioningCapability =>
    obtain ⟨rfl, rfl⟩ := Prod.mk.inj (Option.some.inj hsends)
    rw [ClientCall.run, SecClient.getV2cKeyProvisioningCapability, sendRequest_of_exchange h]
    dsimp only
    rw [if_neg (ha.status_ne_zero (hne rfl)), ha.wrapUnsigned32_status]
    rfl
  | resetProvisionStatus =>
    obtain ⟨rfl, rfl⟩ := Prod.mk.inj (Option.some.inj hsends)
    exact congrArg Outcome.code (statusMethod_of_answered h ha)
  | exportPrivateKey | getCsr | getSeed | signTls | getTlsCredential | getTlsCredentialState =>
    obtain ⟨rfl, rfl⟩ := Prod.mk.inj (Option.some.inj hsends)
    simp only [ClientCall.run, SecClient.exportPrivateKey, SecClient.getSeed,
      SecClient.getCsr_eq_fetchMethod, SecClient.signTls, SecClient.getTlsCredential,
      SecClient.getTlsCredentialState, fetchMethod_of_refused h ha (hne rfl), ClientCall.refused]
  | getBusinessKeyStatus | getKeyprovContractSnapshot =>
    obtain ⟨rfl, rfl⟩ := Prod.mk.inj (Option.some.inj hsends)
    simp only [ClientCall.run, SecClient.getBusinessKeyStatus,
      SecClient.getKeyprovContractSnapshot, blankMethod_of_refused h ha (hne rfl),
      ClientCall.refused]
  | importWrappedBusinessKeys =>
    obtain ⟨rfl, rfl⟩ := Prod.mk.inj (Option.some.inj hsends)
    have hcodes : (SecClient.code rc : ℤ) ∉ SecClient.importCodes := hrc
    simp only [ClientCall.run, SecClient.importWrappedBusinessKeys,
      resultMethod_of_refused h ha hcodes hstate, ClientCall.refused]
  | getBusinessKeyImportResult | getBusinessKeyImportResultKl1 =>
    obtain ⟨rfl, rfl⟩ := Prod.mk.inj (Option.some.inj hsends)
    have hcodes : (SecClient.code rc : ℤ) ∉ SecClient.queryCodes := hrc
    simp only [ClientCall.run, SecClient.getBusinessKeyImportResult,
      SecClient.getBusinessKeyImportResultKl1, resultMethod_of_refused h ha hcodes hstate,
      Option.map_some, ClientCall.refused]

/-- **A connection that is closed** looks the same from every method. -/
theorem run_of_lost (hsends : call.sends B = some (m, p)) (h : T.exchange m p = (-1, [])) :
    call.run R B T = call.lost := by
  cases call with
  | status call =>
    have hrequest : call.request B = (m, p) := Option.some.inj hsends
    rw [ClientCall.run, StatusCall.run_eq, hrequest, statusMethod, sendRequest_of_lost h,
      ClientCall.lost]
  | importWrappedBusinessKeysKl1 requestId businessDomain items context =>
    obtain ⟨params, hparams, heq⟩ := Option.map_eq_some_iff.mp hsends
    obtain ⟨rfl, rfl⟩ := Prod.mk.inj heq
    rw [ClientCall.run, SecClient.importWrappedBusinessKeysKl1, hparams]
    dsimp only
    rw [SecClient.resultMethod, sendRequest_of_lost h]
    rfl
  | _ =>
    obtain ⟨rfl, rfl⟩ := Prod.mk.inj (Option.some.inj hsends)
    simp only [ClientCall.run, SecClient.resetProvisionStatus, statusMethod,
      SecClient.exportPrivateKey, SecClient.getSeed, SecClient.getCsr_eq_fetchMethod,
      SecClient.signTls, SecClient.getTlsCredential, SecClient.getTlsCredentialState,
      SecClient.fetchMethod, SecClient.getBusinessKeyStatus,
      SecClient.getKeyprovContractSnapshot, SecClient.blankMethod,
      SecClient.importWrappedBusinessKeys, SecClient.getBusinessKeyImportResult,
      SecClient.getBusinessKeyImportResultKl1, SecClient.resultMethod,
      SecClient.getV2cKeyProvisioningCapability, SecClient.getTrustedTime,
      SecClient.getProvisionStatus, SecClient.getDeviceInfo, sendRequest_of_lost h,
      Option.map_none, ClientCall.lost]

end Client

end TboxSec.Ipc
