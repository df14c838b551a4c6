import TboxSec.Keyprov.Pipeline

/-!
# The entry points of the provisioning service

`initialize`, the two imports and the queries of `BusinessKeyProvisioningService`.

Each import is written in two parts. The deciding part (`importDecide`, `importKl1Decide`)
makes the checks and looks the request up in the journal; it changes nothing. Its `Decision`
says which of three things the call then does: answer at once, recover an unfinished record,
or **start a new operation**, that is, enter `run_pipeline`.

* `serviceInitialize` and `finishInitialize` bring the service up; `notReady` is what they leave
  when they fail.
* `checkRequest` are the checks that both imports make, `existingDecision` what follows from a
  record that was found, and `kl1Admission` what the KL1 import asks beyond that.
* `startOperation`, `recoveredReply` and `finishImport` are the three ways on.
* `queryJournal` and `queryChecks` are the two halves of a query of a past import, and
  `getStatus` compares slots and ledger.
-/

namespace TboxSec.Keyprov

open Canonical Crash

variable (D : Deployment) (ω : Oracle)

/-! ### Initialisation -/

/-- `initialize` refuses: nothing can be queried or imported. -/
def notReady (rc : ErrorCode) : SecM ErrorCode := do
  Prog.modify fun w => { w with svc.providerReady := false, svc.importReady := false }
  pure rc

/-- The end of `initialize`, after recovery. `storageReplaced` is false for this provider. -/
def finishInitialize : SecM ErrorCode := do
  Prog.modify fun w =>
    { w with
      svc.epochGeneration := w.svc.epochGeneration + 1
      svc.providerReady := w.prov.ready
      svc.storageReady := w.prov.ready && !w.svc.governanceRequired }
  let cap ← computeCapability ω
  Prog.modify fun w =>
    { w with
      svc.cap := cap
      svc.importReady := w.svc.providerReady && cap.all && w.svc.storageReady }
  pure .success

/-- `BusinessKeyProvisioningService::initialize`. -/
def serviceInitialize : SecM ErrorCode := do
  if !D.service.enabled then notReady .success
  else
    let rc ← providerInitialize D.platform ω
    if rc ≠ .success then notReady .businessKeyNotReady
    else
      let rc ← ledgerLoad ω
      if rc ≠ .success then notReady .businessKeyNotReady
      else
        recoverOnStartup D ω
        finishInitialize ω

/-! ### What the service reports of itself -/

/-- `isReady`. -/
def isReady (w : World) : Bool := w.svc.importReady && !w.svc.shuttingDown

/-- `capability`. -/
def capability (w : World) : V2cKeyProvisioningCapability := w.svc.cap

/-- `contractSnapshot`. -/
def contractSnapshot (w : World) : KeyprovContractSnapshot := computeSnapshot D w.svc

/-! ### Checks before the journal lookup -/

/-- The envelope context of one item. -/
def envelopeContext (requestId domain : String) (b : BusinessKeyDeviceBinding)
    (item : WrappedKeyItem) : EnvelopeContext :=
  { requestId
    businessDomain := domain
    purpose := item.purpose
    activeCertDigest := b.activeCertDigest
    activeCertP256 := b.activeCertP256
    activeCertKeyAgreement := b.activeCertKeyAgreement
    activeCertDigitalSignature := b.activeCertDigitalSignature
    privateKeyCanDerive := b.privateKeyCanDerive
    privateKeyCanSign := b.privateKeyCanSign
    activeCertCaFalse := b.activeCertCaFalse
    activeCertEkuClientAuthOnly := b.activeCertEkuClientAuthOnly
    activeCertCriticalExtensionsAllowed := b.activeCertCriticalExtensionsAllowed
    activeCertLeafDigestBound := b.activeCertLeafDigestBound
    activeCertChainKeyMatch := b.activeCertChainKeyMatch
    identityTemplateSignDerive := b.identityTemplateSignDerive }

/-- The envelope loop: the rejection, or every item with its validated envelope. -/
def checkRows (requestId domain : String) (b : BusinessKeyDeviceBinding) :
    List WrappedKeyItem → Except ErrorCode (List Row)
  | [] => .ok []
  | item :: rest =>
    match validateEnvelope D.platform.crypto D.platform.envelope item
        (envelopeContext requestId domain b item)
        { maxParameters := D.service.maxParametersBytes.toNat
          maxWrappedKey := D.service.maxWrappedKeyBytes.toNat } with
    | .error rc => .error rc
    | .ok v =>
      match checkRows requestId domain b rest with
      | .error rc => .error rc
      | .ok rows => .ok ((item, v) :: rows)

/-- The checks both imports make on the request: structure, device binding, envelopes. -/
def checkRequest (requestId domain : String) (items : List WrappedKeyItem) :
    SecM (Except ErrorCode Admitted) := do
  let rc := validateStructure D.service requestId domain items
  if rc ≠ .success then pure (.error rc)
  else
    let binding ← probeBinding ω
    if !bindingAgreementOk binding then pure (.error .businessKeyNotReady)
    else
      match checkRows D requestId domain binding items with
      | .error rc => pure (.error rc)
      | .ok rows =>
        pure (.ok
          { requestId
            businessDomain := domain
            rows
            binding
            ridDigest := textDigest D.platform.crypto requestId
            digest := buildRequestDigest D requestId domain rows })

/-- The answer to a request that is turned away. -/
def refusal (requestId domain : String) (state : BusinessKeyImportState) : ImportResult :=
  { requestId, businessDomain := domain, state }

/-- What an import call does after its checks. -/
inductive Decision where
  /-- Answer at once. -/
  | reply (rc : ErrorCode) (out : ImportResult)
  /-- Settle an unfinished record. -/
  | recover (a : Admitted) (e : BusinessKeyJournalEntry)
  /-- Enter `run_pipeline` as a new operation. -/
  | start (a : Admitted)
  deriving DecidableEq

/-- What both imports do with a record of the same request id. -/
def existingDecision (a : Admitted) (e : BusinessKeyJournalEntry) : Decision :=
  if e.requestDigest ≠ "" ∧ e.requestDigest ≠ a.digest then
    .reply .businessKeyConflict (refusal a.requestId a.businessDomain .failed)
  else
    match e.phase with
    | .succeeded => .reply .success (buildCommittedResult a.requestId e)
    | .failed =>
      .reply .businessKeyImportUnknown
        { refusal a.requestId a.businessDomain .failed with items := e.items }
    | _ => .recover a e

/-! ### The legacy import -/

/-- The checks of `import` before its journal lookup. -/
def importGates (requestId domain : String) (items : List WrappedKeyItem) :
    SecM (Except (ErrorCode × ImportResult) Admitted) := do
  let svc ← Prog.gets (·.svc)
  if svc.shuttingDown || !D.service.enabled then
    pure (.error (.businessKeyNotReady, refusal requestId domain .unknown))
  else if !svc.importReady then
    pure (.error (.businessKeyNotReady, refusal requestId domain .failed))
  else
    match ← checkRequest D ω requestId domain items with
    | .error rc => pure (.error (rc, refusal requestId domain .failed))
    | .ok a => pure (.ok a)

/-- The deciding part of `import`. -/
def importDecide (requestId domain : String) (items : List WrappedKeyItem) : SecM Decision := do
  match ← importGates D ω requestId domain items with
  | .error (rc, out) => pure (.reply rc out)
  | .ok a =>
    let prov ← Prog.gets (·.prov)
    match loadJournal D.platform prov a.ridDigest with
    | some e => pure (existingDecision a e)
    | none =>
      let rc ← validateVersionAndTime D ω domain items
      if rc ≠ .success then pure (.reply rc (refusal requestId domain .failed))
      else pure (.start a)

/-- The answer after a recovery. -/
def recoveredReply (a : Admitted) (e : BusinessKeyJournalEntry) : ErrorCode × ImportResult :=
  if e.phase = .succeeded then (.success, buildCommittedResult a.requestId e)
  else
    (.businessKeyPartialRollback,
      { refusal a.requestId a.businessDomain .failed with items := e.items })

/-- A new operation: its generation, its start time and the pipeline. -/
def startOperation (a : Admitted) : SecM (ErrorCode × ImportResult × ℤ) := do
  let prov ← Prog.gets (·.prov)
  let now ← trustedNowMs ω
  let (rc, out) ← runPipeline D ω a (nextGeneration D prov) (now.getD 0)
  pure (rc, out, now.getD 0)

/-- The finishing part of both imports, with the start time of a new operation. -/
def finishImport : Decision → SecM (ErrorCode × ImportResult × ℤ)
  | .reply rc out => pure (rc, out, 0)
  | .recover a e => do
    let e' ← recoverEntry D ω e
    let (rc, out) := recoveredReply a e'
    pure (rc, out, 0)
  | .start a => startOperation D ω a

/-- `BusinessKeyProvisioningService::import`. -/
def importBatch (requestId domain : String) (items : List WrappedKeyItem) :
    SecM (ErrorCode × ImportResult) := do
  let d ← importDecide D ω requestId domain items
  let (rc, out, _) ← finishImport D ω d
  pure (rc, out)

/-! ### The KL1 import -/

/-- The checks of `importKl1` before its journal lookup. -/
def importKl1Gates (requestId domain : String) (items : List WrappedKeyItem)
    (context : KeyprovImportContext) : SecM (Except (ErrorCode × ImportResult) Admitted) := do
  let svc ← Prog.gets (·.svc)
  if svc.shuttingDown || !D.service.enabled then
    pure (.error (.businessKeyNotReady, refusal requestId domain .unknown))
  else if !svc.importReady || !(computeSnapshot D svc).supportsLeaseAdmission ||
      context.kl1ProfileVersion != kl1ProfileVersion || context.capabilityEpoch == 0 then
    pure (.error (.businessKeyNotReady, refusal requestId domain .failed))
  else
    match ← checkRequest D ω requestId domain items with
    | .error rc => pure (.error (rc, refusal requestId domain .failed))
    | .ok a => pure (.ok a)

/-- `has_transaction_residue`. -/
def transactionResidue (w : World) (ridDigest : String) : Bool :=
  hasTransactionResidue w.prov ||
    D.service.requiredPurposes.any fun p =>
      match ledgerGet w.ledger businessDomainV2c p with
      | none => false
      | some m => m.present && m.requestIdDigest != "" && m.requestIdDigest == ridDigest

/-- The epoch and lease checks of `importKl1` at the upper bound `u` of the current time. -/
def leaseCheck (svc : Service) (context : KeyprovImportContext) (u : Option ℤ) : ErrorCode :=
  match u with
  | none => .businessKeyNotReady
  | some u =>
    if context.capabilityEpoch ≠ epoch D svc then .kl1CapabilityEpochMismatch
    else if u ≥ context.admissionExpireAtMs then .kl1AdmissionRejected
    else .success

/-- The items and the certificate are valid from now to the end of the lease. -/
def coversLease (a : Admitted) (context : KeyprovImportContext) (u : ℤ) : Bool :=
  (a.rows.all fun r =>
    decide (r.1.validFromMs ≤ u) && decide (context.admissionExpireAtMs ≤ r.1.validToMs)) &&
  decide (a.binding.activeCertValidFromMs ≤ u) &&
  decide (context.admissionExpireAtMs ≤ a.binding.activeCertValidToMs)

/-- The admission of a new operation by `importKl1`: time, epoch, lease and validity, the
version check of the legacy import, then time, epoch and lease once more. -/
def kl1Admission (a : Admitted) (context : KeyprovImportContext) : SecM ErrorCode := do
  let svc ← Prog.gets (·.svc)
  let u ← kl1TrustedUpperNow ω
  let rc := leaseCheck D svc context u
  if rc ≠ .success then pure rc
  else if !coversLease a context (u.getD 0) then pure .wrappedKeyInvalid
  else
    let rc ← validateVersionAndTime D ω a.businessDomain (a.rows.map Prod.fst)
    if rc ≠ .success then pure rc
    else
      let u ← kl1TrustedUpperNow ω
      pure (leaseCheck D svc context u)

/-- The deciding part of `importKl1`, with the digest of the record it found. -/
def importKl1Decide (requestId domain : String) (items : List WrappedKeyItem)
    (context : KeyprovImportContext) : SecM (Decision × String) := do
  match ← importKl1Gates D ω requestId domain items context with
  | .error (rc, out) => pure (.reply rc out, "")
  | .ok a =>
    let w ← Prog.gets id
    let lr := loadJournalEx D.platform w.prov a.ridDigest
    let unknown rc : Decision := .reply rc (refusal requestId domain .unknown)
    match lr.status, lr.entry with
    | .found, some e => pure (existingDecision a e, e.requestDigest)
    | .notFound, _ =>
      if transactionResidue D w a.ridDigest then pure (unknown .businessKeyImportUnknown, "")
      else
        let rc ← kl1Admission D ω a context
        if rc ≠ .success then pure (.reply rc (refusal requestId domain .failed), "")
        else pure (.start a, "")
    | .ioError, _ => pure (unknown .businessKeyNotReady, "")
    | _, _ => pure (unknown .businessKeyImportUnknown, "")

/-- `BusinessKeyProvisioningService::importKl1`. -/
def importKl1 (requestId domain : String) (items : List WrappedKeyItem)
    (context : KeyprovImportContext) :
    SecM (ErrorCode × ImportResult × KeyprovResultAttachment) := do
  let svc ← Prog.gets (·.svc)
  let (d, identity) ← importKl1Decide D ω requestId domain items context
  let attach : KeyprovResultAttachment :=
    { snapshot := computeSnapshot D svc, requestIdentityDigest := identity }
  let (rc, out, now) ← finishImport D ω d
  match d with
  | .start a =>
    if rc = .success then
      pure (rc, out, { attach with requestIdentityDigest := a.digest, queriedAtMs := now })
    else pure (rc, out, attach)
  | _ => pure (rc, out, attach)

/-! ### Queries -/

/-- The journal part of `query_result`: the error code, the result and the identity digest of
the record found. -/
def queryJournal (w : World) (requestId : String) : ErrorCode × ImportResult × String :=
  let out := refusal requestId businessDomainV2c .unknown
  let ridDigest := textDigest D.platform.crypto requestId
  let lr := loadJournalEx D.platform w.prov ridDigest
  match lr.status, lr.entry with
  | .found, some e =>
    if e.phase = .succeeded then
      (.success, buildCommittedResult requestId e, e.requestDigest)
    else
      (.success,
        { out with
          state := importStateFromPhase e.phase
          items := e.items
          providerVersionDigest := e.providerVersionDigest },
        e.requestDigest)
  | .notFound, _ =>
    if w.svc.governanceRequired || transactionResidue D w ridDigest then (.success, out, "")
    else (.success, { out with state := .notFound }, "")
  | .ioError, _ =>
    (if lr.providerError ≠ .success then lr.providerError else .storageReadFailed, out, "")
  | _, _ => (.success, out, "")

/-- The refusals of `query_result`. -/
def queryChecks (svc : Service) (requestId : String) : List (Bool × ErrorCode) :=
  [(svc.shuttingDown, .businessKeyNotReady),
   (!D.service.enabled || !svc.providerReady, .businessKeyNotReady),
   (requestId == "", .invalidParameter),
   (decide ((textBytes requestId).length > 128), .invalidParameter)]

/-- `getImportResult`. A refused call gives no result; it is shown as an empty one. -/
def getImportResult (requestId : String) : SecM (ErrorCode × ImportResult) := do
  let w ← Prog.gets id
  match firstReject (queryChecks D w.svc requestId) with
  | some rc => pure (rc, { requestId })
  | none =>
    let (rc, out, _) := queryJournal D w requestId
    pure (rc, out)

/-- `getImportResultKl1`. -/
def getImportResultKl1 (requestId : String) :
    SecM (ErrorCode × ImportResult × KeyprovResultAttachment) := do
  let w ← Prog.gets id
  match firstReject (queryChecks D w.svc requestId) with
  | some rc => pure (rc, { requestId }, {})
  | none =>
    let now ← trustedNowMs ω
    let (rc, out, identity) := queryJournal D w requestId
    pure (rc, out,
      { snapshot := computeSnapshot D w.svc
        requestIdentityDigest := identity
        queriedAtMs := now.getD 0 })

/-- The record of the journal that `enrich_ack_fields` reads for a purpose and version. -/
def ackItem (prov : Provider) (purpose : String) (version : ℕ) : Option BusinessKeyStatus :=
  ((listJournal D.platform prov).filter (·.phase = .succeeded)).findSome? fun e =>
    e.items.find? fun it => it.purpose == purpose && it.businessKeyVersion == version

/-- `enrich_ack_fields`. -/
def enrichAckFields (prov : Provider) (purpose : String) (out : BusinessKeyStatus) :
    BusinessKeyStatus :=
  match ackItem D prov purpose out.businessKeyVersion with
  | none => out
  | some it =>
    { out with
      envelopeFormat := it.envelopeFormat
      envelopeDigest := it.envelopeDigest
      keyCheckValue := it.keyCheckValue
      keyCheckValuePresent := it.keyCheckValuePresent }

/-- The ledger record agrees with the slot. -/
def ledgerAgrees (m : BusinessKeyMetadata) (slot : BusinessKeySlotInfo) : Bool :=
  m.businessKeyVersion == slot.businessKeyVersion && m.keyIdDigest == slot.keyIdDigest &&
    m.algorithm == slot.algorithm

/-- `fill_status`. -/
def fillStatus (w : World) (domain purpose : String) : ErrorCode × BusinessKeyStatus :=
  let q := querySlot D.platform w.prov domain purpose
  let slot := q.2
  let out : BusinessKeyStatus := { businessDomain := domain, purpose }
  let invalid : BusinessKeyStatus :=
    { out with
      state := .invalid
      businessKeyVersion := if slot.present then slot.businessKeyVersion else 0
      keyIdDigest := slot.keyIdDigest
      algorithm := slot.algorithm }
  if q.1 ≠ .success then (q.1, out)
  else
    match ledgerGet w.ledger domain purpose with
    | none => (.success, if slot.present then invalid else { out with state := .missing })
    | some m =>
      if slot.present && slot.state == .active && ledgerAgrees m slot then
        (.success,
          enrichAckFields D w.prov purpose
            { out with
              state := .active
              businessKeyVersion := slot.businessKeyVersion
              keyIdDigest := slot.keyIdDigest
              algorithm := slot.algorithm
              validFromMs := slot.validFromMs
              validToMs := slot.validToMs })
      else (.success, invalid)

/-- The loop of `getStatus`: the statuses so far are kept when a later purpose is refused. -/
def statusLoop (w : World) (domain : String) :
    List String → ErrorCode × List BusinessKeyStatus
  | [] => (.success, [])
  | p :: rest =>
    if !D.service.requiredPurposes.contains p then (.businessKeyUnsupported, [])
    else
      let (rc, st) := fillStatus D w domain p
      if rc ≠ .success then (rc, [])
      else
        let (rc, sts) := statusLoop w domain rest
        (rc, st :: sts)

/-- `getStatus`. -/
def getStatus (domain : String) (purposes : List String) :
    SecM (ErrorCode × List BusinessKeyStatus) := do
  let w ← Prog.gets id
  if w.svc.shuttingDown || !D.service.enabled || !w.svc.providerReady then
    pure (.businessKeyNotReady, [])
  else if !D.service.allowedDomains.contains domain then pure (.businessKeyUnsupported, [])
  else if purposes.isEmpty then pure (.invalidParameter, [])
  else pure (statusLoop D w domain purposes)

end TboxSec.Keyprov
