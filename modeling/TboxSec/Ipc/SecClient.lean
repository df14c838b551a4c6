import TboxSec.Ipc.Messages

/-!
# The methods of the client

`SecClient` is what the other programs link. Each method sends one request, takes the status out
of the response and, where there is more to take, reads the response a second time.

An output variable is written field by field, and an exception in the middle leaves the fields
that were written. `none` stands for outputs that are not touched, or not written to their end;
`get_provision_status` returns its variable in any case and keeps what was written
(`writeUntil`).

* `statusMethod`, `fetchMethod`, `blankMethod` and `resultMethod` are the shapes of the methods, and
  each method is one of them at its own message.
* `importCodes`, `importKl1Codes` and `queryCodes` are the codes with which a result comes along.
-/

namespace TboxSec.Ipc.SecClient

open Keyprov
open Tls (TlsCredentialBundle TlsSignRequest)
open Time (TrustedTimeEnvelope)

variable (R : JsonReader) (B : Base64Functions) (T : Transport)

/-- The code as the client returns it. -/
def code (rc : ErrorCode) : Code := errorCodeValue rc

/-! ### Methods that read a response of success -/

/-- A method that returns a status other than success as it is, and reads the response for the
rest. -/
def fetchMethod {α : Type} (method : MethodId) (params : Json String)
    (read : Json String → Option α) : Code × Option α :=
  match sendRequest R T method params with
  | (false, _, _) => (.connectionFailed, none)
  | (true, status, response) =>
    if status = 0 then
      match (R.parse response).bind read with
      | none => (.internalError, none)
      | some a => (wrapUnsigned32 status, some a)
    else (wrapUnsigned32 status, none)

/-- The bytes behind a key. -/
def decodeField (key : String) (j : Json String) : Option Bytes := (textField key j).map B.decode

/-- `export_private_key`. -/
def exportPrivateKey : Code × Option Bytes :=
  fetchMethod R T .exportPrivateKey (.obj []) (decodeField B "private_key")

/-- `get_seed`. -/
def getSeed (level : UInt8) : Code × Option Bytes :=
  fetchMethod R T .getSeed (Json.null.assign "level" (.int level.toNat)) (decodeField B "seed")

/-- `get_tls_credential`. -/
def getTlsCredential (profile : String) : Code × Option TlsCredentialBundle :=
  fetchMethod R T .getTlsCredential (Json.null.assign "profile" (.str profile))
    (tlsCredentialFromJson B)

/-- `get_tls_credential_state`. -/
def getTlsCredentialState (profile : String) : Code × Option TlsStateReport :=
  fetchMethod R T .getTlsCredentialState (Json.null.assign "profile" (.str profile))
    (tlsCredentialStateFromJson R)

/-- `sign_tls`. -/
def signTls (request : TlsSignRequest) (context : Bytes) (requestId : String) :
    Code × Option Bytes :=
  fetchMethod R T .signTls (signTlsToJson B request context requestId)
    (decodeField B "signature")

/-- `get_csr` is such a method too. -/
theorem getCsr_eq_fetchMethod :
    getCsr R B T = fetchMethod R T .getCsr (.obj []) (decodeField B "csr") := by
  unfold getCsr fetchMethod decodeField
  rcases sendRequest R T .getCsr (.obj []) with ⟨ok, status, response⟩
  cases ok with
  | false => rfl
  | true =>
    have hmap : ((R.parse response).bind fun j => (textField "csr" j).map B.decode) =
        ((R.parse response).bind (textField "csr")).map B.decode := Option.map_bind.symm
    dsimp only
    rw [hmap]
    cases (R.parse response).bind (textField "csr") <;> rfl

/-! ### Status and device information -/

/-- Assignments one after another; the first one that throws is the last. -/
def writeUntil {σ : Type} : List (σ → Option σ) → σ → σ
  | [], s => s
  | write :: rest, s =>
    match write s with
    | none => s
    | some s => writeUntil rest s

/-- `SecProvisionStatus`. -/
structure SecProvisionStatus where
  vin : String := ""
  ecuUid : String := ""
  state : String := ""
  lastError : String := ""
  retryCount : ℤ := 0
  deriving DecidableEq

/-- The assignments of `get_provision_status`. -/
def provisionStatusWrites (j : Json String) :
    List (SecProvisionStatus → Option SecProvisionStatus) :=
  [fun s => (textField "vin" j).map fun vin => { s with vin },
   fun s => (textField "ecu_uid" j).map fun ecuUid => { s with ecuUid },
   fun s => (j.value "state" Json.text "NONE").map fun state => { s with state },
   fun s => (textField "last_error" j).map fun lastError => { s with lastError },
   fun s => (j.value "retry_count" R.toInt 0).map fun retryCount => { s with retryCount }]

/-- `get_provision_status`, which does not look at the status of the response. -/
def getProvisionStatus : SecProvisionStatus :=
  match sendRequest R T .getStatus (.obj []) with
  | (false, _, _) => {}
  | (true, _, response) =>
    match R.parse response with
    | none => {}
    | some j => writeUntil (provisionStatusWrites R j) {}

/-- `get_device_info`. -/
def getDeviceInfo : String :=
  match sendRequest R T .getDeviceInfo (.obj []) with
  | (false, _, _) => ""
  | (true, _, response) => ((R.parse response).bind (textField "device_info")).getD ""

/-- `reset_provision_status`. -/
def resetProvisionStatus : Code := statusMethod R T .resetStatus (.obj [])

/-! ### Business keys -/

/-- A method that blanks its variable before it reads the response. -/
def blankMethod {α : Type} (method : MethodId) (params : Json String) (blank : α)
    (read : Json String → Option α) : Code × Option α :=
  match sendRequest R T method params with
  | (false, _, _) => (.connectionFailed, none)
  | (true, status, response) =>
    if status = 0 then
      match (R.parse response).bind read with
      | none => (.internalError, none)
      | some a => (wrapUnsigned32 status, some a)
    else (wrapUnsigned32 status, some blank)

/-- The statuses in a response; a response without an array of them has none. -/
def statusesFromJson (j : Json String) : Option (List BusinessKeyStatus) :=
  match j.field? "items" with
  | some (.arr l) => l.mapM (businessKeyStatusFromJson B)
  | _ => some []

/-- `get_business_key_status`. -/
def getBusinessKeyStatus (businessDomain : String) (purposes : List String) :
    Code × Option (List BusinessKeyStatus) :=
  blankMethod R T .getBusinessKeyStatus
    (Json.null
      |>.assign "business_domain" (.str businessDomain)
      |>.assign "purposes" (.arr (purposes.map .str)))
    [] (statusesFromJson B)

/-- A method that asks for an import result. The codes in `definite` come with a result; under
every other code there may be one, and what cannot be read of it is not reported. -/
def resultMethod {α : Type} (method : MethodId) (params : Json String) (definite : List ℤ)
    (blank : α) (read readOther : Json String → Option α) : Code × Option α :=
  match sendRequest R T method params with
  | (false, _, _) => (.connectionFailed, none)
  | (true, status, response) =>
    if status ∈ definite then
      match (R.parse response).bind read with
      | none => (.internalError, none)
      | some a => (wrapUnsigned32 status, some a)
    else if response ≠ [] then
      match R.parse response with
      | none => (wrapUnsigned32 status, some blank)
      | some j =>
        if j.contains "state" then (wrapUnsigned32 status, readOther j)
        else (wrapUnsigned32 status, some blank)
    else (wrapUnsigned32 status, some blank)

/-- The codes of an import that come with a result. -/
def importCodes : List ℤ :=
  [code .success, code .businessKeyImportUnknown, code .businessKeyOutcomeUnknown]

/-- The codes of a KL1 import that come with a result. -/
def importKl1Codes : List ℤ :=
  [code .success, code .businessKeyImportUnknown, code .businessKeyOutcomeUnknown,
   code .kl1AdmissionRejected, code .kl1CapabilityEpochMismatch]

/-- The codes of a query that come with a result. -/
def queryCodes : List ℤ := [code .success]

/-- A result and the KL1 facts beside it. -/
def resultKl1FromJson (j : Json String) (out : ImportResult) :
    Option (ImportResult × KeyprovResultAttachment) := do
  let result ← importResultFromJson B j out
  let attach ← keyprovAttachmentFromJson secClientBuildId j
  some (result, attach)

/-- `import_wrapped_business_keys`. -/
def importWrappedBusinessKeys (requestId businessDomain : String) (items : List WrappedKeyItem) :
    Code × Option ImportResult :=
  resultMethod R T .importWrappedBusinessKeys
    (Ipc.importWrappedBusinessKeys B requestId businessDomain items) importCodes { requestId }
    (importResultFromJson B · { requestId }) (importResultFromJson B · { requestId })

/-- `get_business_key_import_result`. -/
def getBusinessKeyImportResult (requestId : String) : Code × Option ImportResult :=
  resultMethod R T .getBusinessKeyImportResult
    (Json.null.assign "request_id" (.str requestId)) queryCodes { requestId }
    (importResultFromJson B · { requestId }) (importResultFromJson B · { requestId })

/-- `get_v2c_key_provisioning_capability`, with the version that was received. -/
def getV2cKeyProvisioningCapability : Code × Option (ℕ × V2cKeyProvisioningCapability) :=
  match sendRequest R T .getV2cKeyProvisioningCapability (.obj []) with
  | (false, _, _) => (.connectionFailed, none)
  | (true, status, response) =>
    if status = 0 then
      match (R.parse response).bind fun j =>
          (uint32Field "capability_contract_version" j).map fun version => (j, version) with
      | none => (.internalError, none)
      | some (j, version) =>
        -- a version that is not known leaves every flag down
        if version ≠ capabilityContractVersion then
          (code .businessKeyNotReady, some (version, {}))
        else
          match capabilityFromJson j with
          | none => (.internalError, none)
          | some capability => (wrapUnsigned32 status, some (version, capability))
    else (wrapUnsigned32 status, some (capabilityContractVersion, {}))

/-- `get_keyprov_contract_snapshot`. -/
def getKeyprovContractSnapshot : Code × Option KeyprovContractSnapshot :=
  blankMethod R T .getKeyprovContractSnapshot (.obj []) {}
    (keyprovSnapshotFromJson secClientBuildId)

/-- `import_wrapped_business_keys_kl1`. Without a known profile, an epoch or an end of the lease
it refuses before it asks, and does not touch the facts. -/
def importWrappedBusinessKeysKl1 (requestId businessDomain : String) (items : List WrappedKeyItem)
    (context : KeyprovImportContext) :
    Code × Option ImportResult × Option KeyprovResultAttachment :=
  match Ipc.importWrappedBusinessKeysKl1 B requestId businessDomain items context with
  | none => (code .businessKeyNotReady, some { requestId, businessDomain }, none)
  | some params =>
    let (rc, out) := resultMethod R T .importWrappedBusinessKeysKl1 params importKl1Codes
      ({ requestId }, {}) (resultKl1FromJson B · { requestId })
      fun j => (importResultFromJson B j { requestId }).map fun result => (result, {})
    (rc, out.map Prod.fst, out.map Prod.snd)

/-- `get_business_key_import_result_kl1`. -/
def getBusinessKeyImportResultKl1 (requestId : String) :
    Code × Option (ImportResult × KeyprovResultAttachment) :=
  resultMethod R T .getBusinessKeyImportResult
    (Json.null.assign "request_id" (.str requestId)) queryCodes ({ requestId }, {})
    (resultKl1FromJson B · { requestId })
    fun j => (importResultFromJson B j { requestId }).map fun result => (result, {})

/-! ### Trusted time -/

/-- The class of a business error. -/
def timeErrorClass (status : ℤ) : String :=
  if status = code .aclDenied then "acl_denied" else "internal"

/-- `get_trusted_time`. What it cannot get it says in the envelope. -/
def getTrustedTime (requestToken : ℕ) : Code × TrustedTimeEnvelope :=
  match sendRequest R T .getTrustedTime
      (Json.null.assign "request_token" (.int requestToken)) with
  | (false, _, _) =>
    (code .trustedTimeUnavailable, { emptyEnvelope with errorClass := "unavailable" })
  | (true, status, response) =>
    if status ≠ 0 then
      (wrapUnsigned32 status, { emptyEnvelope with errorClass := timeErrorClass status })
    else
      match ((R.parse response).bind (·.field? "envelope")).bind trustedTimeEnvelopeFromJson with
      | none => (code .trustedTimeMalformed, { emptyEnvelope with errorClass := "malformed" })
      | some envelope => (.success, envelope)

end TboxSec.Ipc.SecClient
