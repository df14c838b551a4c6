import TboxSec.Keyprov.Admission
import TboxSec.Keyprov.Ledger

/-!
# The import pipeline and recovery

`run_pipeline` takes an admitted request through the journal: PROCESSING, staging of each key,
verification, COMMITTING, the commit of both slots in one save, the attestation of each key,
SUCCEEDED and the ledger. It **ignores the result of every journal save and every ledger
put**; only a failing unwrap, verification, commit or signature changes its course.

`recover_entry` settles an unfinished record later, from a retry of the request or at
start-up. It decides by the **generation number** in the record alone.
-/

namespace TboxSec.Keyprov

open Canonical Crash

variable (D : Deployment) (ω : Oracle)

/-! ### Results and the ledger -/

/-- `build_committed_result`, for the request id the caller gave. -/
def buildCommittedResult (requestId : String) (e : BusinessKeyJournalEntry) : ImportResult :=
  { requestId
    businessDomain := businessDomainV2c
    state := .committed
    items := e.items
    committedAtMs := e.committedAtMs
    providerVersionDigest := e.providerVersionDigest
    importProof := e.importProof
    proofAlgorithm := e.proofAlgorithm
    bindingCertificateDigest := e.bindingCertificateDigest }

/-- The ledger record `update_ledger` makes of one item of a journal record. -/
def ledgerRecord (domain : String) (e : BusinessKeyJournalEntry) (generation : ℕ)
    (it : BusinessKeyStatus) : BusinessKeyMetadata :=
  { present := true
    businessDomain := domain
    purpose := it.purpose
    keyIdDigest := it.keyIdDigest
    businessKeyVersion := it.businessKeyVersion
    algorithm := it.algorithm
    validFromMs := it.validFromMs
    validToMs := it.validToMs
    activeGeneration := generation
    requestIdDigest := e.requestIdDigest
    createdAtMs := e.createdAtMs
    committedAtMs := e.committedAtMs }

/-- A loop of ledger puts whose results are ignored. -/
def ledgerPuts : List BusinessKeyMetadata → SecM Unit
  | [] => pure ()
  | m :: rest => do
    let _ ← ledgerPut ω m
    ledgerPuts rest

/-- `update_ledger`. -/
def updateLedger (domain : String) (e : BusinessKeyJournalEntry) (generation : ℕ) : SecM Unit :=
  ledgerPuts ω (e.items.map (ledgerRecord domain e generation))

/-! ### Recovery -/

/-- The test of `recover_entry`: every required purpose is ACTIVE under `generation`. -/
def bothActive (prov : Provider) (generation : ℕ) : Bool :=
  D.service.requiredPurposes.all fun p =>
    let slot := (querySlot D.platform prov businessDomainV2c p).2
    slot.present && slot.state == .active && slot.activeGeneration == generation

/-- The record of a request that recovery finds committed. -/
def recoveredEntry (e : BusinessKeyJournalEntry) (now : ℤ) : BusinessKeyJournalEntry :=
  { e with
    phase := .succeeded
    committedAtMs := now
    providerVersionDigest := D.provider.providerVersion
    items := e.items.map fun it => { it with state := .active } }

/-- The record of a request that recovery gives up. -/
def abandonedEntry (e : BusinessKeyJournalEntry) : BusinessKeyJournalEntry :=
  { e with phase := .failed, lastError := "BUSINESS_KEY_PARTIAL_ROLLBACK" }

/-- `recover_entry`: the record as it is left. -/
def recoverEntry (e : BusinessKeyJournalEntry) : SecM BusinessKeyJournalEntry := do
  let now ← trustedNowMs ω
  let prov ← Prog.gets (·.prov)
  if bothActive D prov e.generation then
    let e' := recoveredEntry D e (now.getD 0)
    let _ ← saveJournal D.platform ω e'
    updateLedger ω businessDomainV2c e' e'.generation
    pure e'
  else
    let _ ← rollbackStaging ω e.generation
    let e' := abandonedEntry e
    let _ ← saveJournal D.platform ω e'
    pure e'

/-- The loop of `recover_on_startup`. -/
def recoverEntries : List BusinessKeyJournalEntry → SecM Unit
  | [] => pure ()
  | e :: rest => do
    if e.phase.terminal then recoverEntries rest
    else
      let _ ← recoverEntry D ω e
      recoverEntries rest

/-- `recover_on_startup`. -/
def recoverOnStartup : SecM Unit := do
  let prov ← Prog.gets (·.prov)
  recoverEntries D ω (listJournal D.platform prov)

/-! ### The pipeline -/

/-- What `run_pipeline` is given: a request that passed every check. -/
structure Admitted where
  requestId : String
  businessDomain : String
  rows : List Row
  binding : BusinessKeyDeviceBinding
  ridDigest : String
  digest : String
  deriving DecidableEq

/-- `is_outcome_unknown`. -/
def isOutcomeUnknown (rc : ErrorCode) : Bool :=
  rc == .internalError || rc == .storageWriteFailed || rc == .notInitialized

/-- The status of one item in a new journal record. -/
def stagedItem (domain : String) (r : Row) : BusinessKeyStatus :=
  { businessDomain := domain
    purpose := r.1.purpose
    businessKeyVersion := r.1.businessKeyVersion
    state := .staged
    keyId := r.1.keyId
    keyIdDigest := textDigest D.platform.crypto r.1.keyId
    algorithm := r.1.algorithm
    validFromMs := r.1.validFromMs
    validToMs := r.1.validToMs
    envelopeFormat := r.1.envelopeFormat
    envelopeDigest := r.2.envelopeDigest
    keyCheckValue := r.1.keyCheckValue
    keyCheckValuePresent := r.1.keyCheckValuePresent }

/-- The journal record a new operation starts with. -/
def initialEntry (a : Admitted) (generation : ℕ) (now : ℤ) : BusinessKeyJournalEntry :=
  { requestIdDigest := a.ridDigest
    requestDigest := a.digest
    phase := .processing
    generation
    items := a.rows.map (stagedItem D a.businessDomain)
    createdAtMs := now
    providerVersionDigest := D.provider.providerVersion }

/-- The failed end of the pipeline: staging is rolled back and the record marked FAILED. -/
def endFailed (a : Admitted) (e : BusinessKeyJournalEntry) (rc : ErrorCode) :
    SecM (ErrorCode × ImportResult) := do
  let _ ← rollbackStaging ω e.generation
  let _ ← saveJournal D.platform ω { e with phase := .failed, lastError := rc.toText }
  pure (rc, { requestId := a.requestId, businessDomain := a.businessDomain, state := .failed })

/-- The undecided end of the pipeline: the record is marked OUTCOME_UNKNOWN. -/
def endUnknown (a : Admitted) (e : BusinessKeyJournalEntry) (lastError : String) :
    SecM (ErrorCode × ImportResult) := do
  let _ ← saveJournal D.platform ω { e with phase := .outcomeUnknown, lastError }
  pure (.businessKeyOutcomeUnknown,
    { requestId := a.requestId, businessDomain := a.businessDomain, state := .unknown })

/-- How the pipeline ends after a failing unwrap or commit. -/
def endAfter (a : Admitted) (e : BusinessKeyJournalEntry) (rc : ErrorCode) :
    SecM (ErrorCode × ImportResult) :=
  if isOutcomeUnknown rc then endUnknown D ω a e rc.toText else endFailed D ω a e rc

/-- The HKDF info of one item. -/
def hkdfInfoOf (a : Admitted) (item : WrappedKeyItem) : Bytes :=
  textBytes (buildHkdfInfoV1 a.requestId a.businessDomain item.purpose item.keyId
    item.businessKeyVersion (toHex a.binding.activeCertDigest))

/-- The record after one item is staged. -/
def uplinkMark (e : BusinessKeyJournalEntry) (item : WrappedKeyItem) : BusinessKeyJournalEntry :=
  if item.purpose = purposeUplink then { e with phase := .uplinkStaged } else e

/-- The staging loop: the record as it is left, with the error of the first failing unwrap or
the check values of all keys. -/
def stageLoop (a : Admitted) :
    BusinessKeyJournalEntry → List Row →
      SecM (BusinessKeyJournalEntry × Except ErrorCode (List Kcv))
  | e, [] => pure (e, .ok [])
  | e, (item, v) :: rest => do
    let (rc, kcv) ← unwrapToStaging D.platform D.provider ω a.businessDomain item v.params
      v.canonicalAad (hkdfInfoOf a item) a.binding e.generation
    if rc ≠ .success then pure (e, .error rc)
    else
      let e' := uplinkMark e item
      let _ ← saveJournal D.platform ω e'
      let (e'', r) ← stageLoop a e' rest
      pure (e'', r.map (kcv :: ·))

/-- The verification loop: the first failing code. -/
def verifyLoop (prov : Provider) (domain : String) : List WrappedKeyItem → ErrorCode
  | [] => .success
  | item :: rest =>
    let rc := verifyStaging D.platform prov domain item.purpose
    if rc ≠ .success then rc else verifyLoop prov domain rest

/-- One item of the record with its actual check value and certificate digest, before the
signature. -/
def activeItem (certDigest : Bytes) (st : BusinessKeyStatus) (kcv : Kcv) : BusinessKeyStatus :=
  { st with
    state := .active
    keyCheckValue := kcv
    keyCheckValuePresent := true
    recipientCertificateDigest := certDigest }

/-- The attestation loop: the items with their proofs, and whether a signature failed. -/
def attestLoop (a : Admitted) :
    List (BusinessKeyStatus × Kcv) → SecM (List BusinessKeyStatus × Bool)
  | [] => pure ([], false)
  | (st₀, kcv) :: rest => do
    let st := activeItem a.binding.activeCertDigest st₀ kcv
    let (rc, proof) ← generateProof D.platform ω a.businessDomain st.purpose
      st.businessKeyVersion a.requestId st.keyId st.envelopeDigest st.keyCheckValue.toBytes
    let good := rc == .success && proof.length == importProofSizeP1363
    let st' :=
      if good then { st with importProof := proof, proofAlgorithm := importProofAlgorithmP1363 }
      else st
    let (sts, failed) ← attestLoop a rest
    pure (st' :: sts, !good || failed)

/-- The record after the commit, before the attestation decides its phase. -/
def attestedEntry (a : Admitted) (e : BusinessKeyJournalEntry) (committedAt : ℤ)
    (items : List BusinessKeyStatus) : BusinessKeyJournalEntry :=
  { e with
    phase := .succeeded
    committedAtMs := committedAt
    providerVersionDigest := D.provider.providerVersion
    bindingCertificateDigest := a.binding.activeCertDigest
    proofAlgorithm := importProofAlgorithmP1363
    items }

/-- The pipeline after the commit took effect. -/
def finishPipeline (a : Admitted) (e : BusinessKeyJournalEntry) (kcvs : List Kcv) (now : ℤ) :
    SecM (ErrorCode × ImportResult) := do
  let t ← trustedNowMs ω
  let (items, proofFailed) ← attestLoop D ω a (e.items.zip kcvs)
  let e' := attestedEntry D a e (t.getD now) items
  if proofFailed then endUnknown D ω a e' "IMPORT_ATTESTATION_FAILED"
  else
    let _ ← saveJournal D.platform ω e'
    updateLedger ω a.businessDomain e' e'.generation
    pure (.success, buildCommittedResult a.requestId e')

/-- The pipeline from the verified staging area to the commit. -/
def commitPipeline (a : Admitted) (e : BusinessKeyJournalEntry) (kcvs : List Kcv) (now : ℤ) :
    SecM (ErrorCode × ImportResult) := do
  let e := { e with phase := .committing }
  let _ ← saveJournal D.platform ω e
  let rc ← commitBatch D.platform ω e.generation
  if rc ≠ .success then endAfter D ω a e rc
  else finishPipeline D ω a e kcvs now

/-- `run_pipeline`. -/
def runPipeline (a : Admitted) (generation : ℕ) (now : ℤ) : SecM (ErrorCode × ImportResult) := do
  let e := initialEntry D a generation now
  let _ ← saveJournal D.platform ω e
  match ← stageLoop D ω a e a.rows with
  | (e, .error rc) => endAfter D ω a e rc
  | (e, .ok kcvs) =>
    let e := { e with phase := .bothStaged }
    let _ ← saveJournal D.platform ω e
    let prov ← Prog.gets (·.prov)
    let rc := verifyLoop D prov a.businessDomain (a.rows.map Prod.fst)
    if rc ≠ .success then endFailed D ω a e rc
    else commitPipeline D ω a e kcvs now

end TboxSec.Keyprov
