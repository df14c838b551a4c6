import TboxSec.Keyprov.World

/-!
# The SoftFile business-key provider

`SoftFileBusinessKeyProvider`: two key slots, a staging area and a journal of import requests,
kept in memory and rewritten as one state document at every change. Each journal record
carries a MAC over its JSON text, the ACTIVE slots a commit marker; both are keyed by the
key-encryption key file.

Every change of the fields is made **before** its save, and a failed save does not undo it,
with one exception: `commitBatch` puts the old ACTIVE slots back, though not the staging
area it has cleared.

* `saveState`, `loadState`, `loadOrGenerateKek` and `checkCommitMarker` are the parts of
  `providerInitialize`.
* `unwrapToStaging`, `verifyStaging`, `commitBatch`, `rollbackStaging` and `generateProof` are the
  operations of a pipeline, `saveJournal`, `loadJournalEx` and `listJournal` those of the journal.
* `hasTransactionResidue` is what the KL1 import asks before it takes a request for new.
-/

namespace TboxSec.Keyprov

open Canonical Crash

/-- `BusinessKeyProviderConfig`, less its paths. -/
structure ProviderConfig where
  allowedAlgorithms : List String
  allowedWrappingSuites : List String
  maxWrappedKeyBytes : ℤ := 4096
  providerVersion : String := "softfile-bk-v1"

/-- `kSupportedStateVersion`. -/
def supportedStateVersion : ℕ := 1

/-- `kKekSize`. -/
def kekSize : ℕ := 32

/-- `algorithm_key_size`. -/
def algorithmKeySize (alg : String) : ℕ :=
  if alg = defaultKeyAlgorithm then 32
  else if alg = "AES-256-GCM" then 32
  else if alg = "AES-128-GCM" then 16
  else 0

/-- `Impl::required_purposes`. -/
def providerPurposes : List String := [purposeUplink, purposeDownlink]

section Keys

variable (P : Platform)

/-- `slot_aad`. -/
def slotAad (domain purpose : String) (s : Slot) : String :=
  "openiov|slot|" ++ domain ++ "|" ++ purpose ++ "|" ++ toString s.version ++ "|" ++
    toString s.generation

/-- The text under the commit marker: the generation and the slots in purpose order. -/
def commitMarkerText (generation : ℕ) (active : OrdMap String Slot) : String :=
  active.toList.foldl
    (fun canon b => canon ++ "|" ++ b.1 ++ ":" ++ toString b.2.version ++ ":" ++
      b.2.keyIdDigest ++ ":" ++ b.2.algorithm ++ ":" ++ toString b.2.generation)
    ("commit|" ++ toString generation)

/-- `compute_commit_marker`. -/
def computeCommitMarker (macKey : Bytes) (generation : ℕ) (active : OrdMap String Slot) :
    String :=
  toHex (P.crypto.hmacSha256 macKey (textBytes (commitMarkerText generation active)))

/-- The item part of `journal_entry_json`. -/
def journalItemJson (it : BusinessKeyStatus) : Json :=
  .obj
    [("business_domain", .str it.businessDomain), ("purpose", .str it.purpose),
     ("business_key_version", .num it.businessKeyVersion), ("state", .str it.state.toText),
     ("key_id", .str it.keyId), ("key_id_digest", .str it.keyIdDigest),
     ("algorithm", .str it.algorithm), ("valid_from_ms", .num it.validFromMs),
     ("valid_to_ms", .num it.validToMs), ("envelope_format", .str it.envelopeFormat.toText),
     ("envelope_digest", .str (toHex it.envelopeDigest)),
     ("key_check_value", .str (toHex it.keyCheckValue.toBytes)),
     ("key_check_value_present", .bool it.keyCheckValuePresent),
     ("import_proof", .str (toHex it.importProof)), ("proof_algorithm", .str it.proofAlgorithm),
     ("recipient_certificate_digest", .str (toHex it.recipientCertificateDigest))]

/-- `journal_entry_json`. -/
def journalEntryJson (e : BusinessKeyJournalEntry) : Json :=
  .obj
    [("request_id_digest", .str e.requestIdDigest), ("request_digest", .str e.requestDigest),
     ("phase", .str e.phase.toText), ("generation", .num e.generation),
     ("created_at_ms", .num e.createdAtMs), ("committed_at_ms", .num e.committedAtMs),
     ("provider_version_digest", .str e.providerVersionDigest),
     ("last_error", .str e.lastError), ("proof_algorithm", .str e.proofAlgorithm),
     ("import_proof", .str (toHex e.importProof)),
     ("binding_certificate_digest", .str (toHex e.bindingCertificateDigest)),
     ("items", .arr (e.items.map journalItemJson))]

/-- `journal_mac`. -/
def journalMac (macKey : Bytes) (e : BusinessKeyJournalEntry) : String :=
  toHex (P.crypto.hmacSha256 macKey (P.dump (journalEntryJson e)))

/-- `derive_mac_key`. -/
def deriveMacKey (kek : Bytes) : Bytes :=
  P.crypto.hkdfSha256 kek [] (textBytes "openiov|keyprov|mac|v1") 32

/-- `decrypt_slot_key`. -/
def decryptSlotKey (kek : Bytes) (domain purpose : String) (s : Slot) :
    Except ErrorCode Bytes :=
  match hexToBytes s.keyEncHex with
  | none => .error .storageCorruption
  | some enc =>
    match P.crypto.gcmOpen kek (textBytes (slotAad domain purpose s)) enc with
    | none => .error .wrappedKeyInvalid
    | some plain => .ok plain

end Keys

/-! ### The stores -/

section Stores

variable (ω : Oracle)

/-- `Impl::save_state`. -/
def saveState : SecM ErrorCode := fun w =>
  if w.prov.store ≠ some true then .done .businessKeyNotReady w
  else
    match ω.save w.asked.saves with
    | .ok => .done .success w.saved
    | .failed => .done .storageWriteFailed w.askedSave
    | .notReady => .done .businessKeyNotReady w.askedSave
    | .crash => .crashed w.disk

/-- `Impl::load_state`: without a stored document the fields stay as they are. -/
def loadState : SecM ErrorCode := fun w =>
  if w.prov.store ≠ some true then .done .businessKeyNotReady w
  else
    let w₁ : World :=
      { w with prov.stateVersion := supportedStateVersion, prov.stateVersionUnknown := false }
    match w.disk.state with
    | [] => .done .success w₁
    | doc :: _ =>
      if !ω.stateLoads then .done .storageCorruption w₁
      else
        .done .success
          { w₁ with
            prov.stateVersion := doc.v
            prov.stateVersionUnknown := decide (doc.v > supportedStateVersion)
            prov.state := doc.state }

/-- `Impl::generate_kek`: the write to the file is not checked. -/
def generateKek : SecM ErrorCode := fun w =>
  match ω.kek.random with
  | none =>
    .done .internalError
      { w with prov.kek := (w.prov.kek ++ List.replicate kekSize 0).take kekSize }
  | some kek =>
    if !ω.kek.opens then .done .storageWriteFailed { w with prov.kek := kek.val }
    else
      let disk : Disk := { w.disk with kek := some (kek.val.take ω.kek.written) }
      if ω.kek.crash then .crashed disk
      else .done .success { w with prov.kek := kek.val, disk }

/-- `Impl::load_kek` on the content of the file. -/
def loadKek (file : Bytes) : SecM ErrorCode := fun w =>
  if !ω.kek.opens then .done .storageReadFailed w
  else if file.length < kekSize then .done .storageCorruption { w with prov.kek := [] }
  else .done .success { w with prov.kek := file.take kekSize }

/-- The key-encryption key is loaded if its file exists and generated otherwise. -/
def loadOrGenerateKek : Option Bytes → SecM ErrorCode
  | some file => loadKek ω file
  | none => generateKek ω

end Stores

/-! ### Life cycle -/

section Lifecycle

variable (P : Platform) (ω : Oracle)

/-- The end of `initialize`, once the state document is loaded: ACTIVE slots whose commit
marker does not match are dropped. -/
def checkCommitMarker : SecM Unit := fun w =>
  let st := w.prov.state
  let st' : State :=
    if !st.active.isEmpty &&
        st.commitMarker != computeCommitMarker P w.prov.macKey st.generation st.active then
      { st with active := .empty }
    else st
  .done () { w with prov.state := st', prov.ready := w.prov.hsm }

/-- `SoftFileBusinessKeyProvider::initialize`. -/
def providerInitialize : SecM ErrorCode :=
  match ω.storeOpen with
  | none => pure .businessKeyNotReady
  | some ready => do
    Prog.modify fun w => { w with prov.store := some ready }
    if !ready then pure .businessKeyNotReady
    else
      let file ← Prog.gets (·.disk.kek)
      let rc ← loadOrGenerateKek ω file
      if rc ≠ .success then pure rc
      else
        Prog.modify fun w => { w with prov.macKey := deriveMacKey P w.prov.kek }
        let rc ← loadState ω
        if rc ≠ .success then pure rc
        else
          checkCommitMarker P
          pure .success

end Lifecycle

/-! ### Staging, commit and rollback -/

section Batch

variable (P : Platform) (pc : ProviderConfig) (ω : Oracle)

/-- The refusals of `unwrapToStaging` before the HSM is called. -/
def unwrapChecks (prov : Provider) (item : WrappedKeyItem) (binding : BusinessKeyDeviceBinding) :
    List (Bool × ErrorCode) :=
  [(!prov.ready || !prov.hsm, .businessKeyNotReady),
   (!binding.ready || binding.deviceKeyId == "", .businessKeyNotReady),
   (item.wrappedKey.isEmpty, .wrappedKeyInvalid),
   (decide ((item.wrappedKey.length : ℤ) > pc.maxWrappedKeyBytes), .wrappedKeyInvalid),
   (!pc.allowedAlgorithms.contains item.algorithm, .businessKeyUnsupported),
   (!pc.allowedWrappingSuites.contains item.wrappingSuite, .businessKeyUnsupported),
   (item.wrappingSuite != wrappingSuiteEcdhEsP256, .businessKeyUnsupported),
   (algorithmKeySize item.algorithm == 0, .businessKeyUnsupported)]

/-- `hsm->unwrap_ecdh_es_v1`. -/
def hsmUnwrap (req : UnwrapRequest) : SecM (ErrorCode × Bytes) := fun w =>
  .done (P.unwrap req (ω.unwrapSeed w.asked.unwraps))
    { w with asked.unwraps := w.asked.unwraps + 1 }

/-- `encrypt_slot_key`, with a fresh IV. -/
def encryptSlotKey (domain purpose : String) (s : Slot) (plain : Bytes) :
    SecM (Except ErrorCode String) := fun w =>
  let w' : World := { w with asked.ivs := w.asked.ivs + 1 }
  match ω.iv w.asked.ivs with
  | none => .done (.error .internalError) w'
  | some iv =>
    .done
      (.ok (toHex
        (P.crypto.gcmSeal w.prov.kek (textBytes (slotAad domain purpose s)) iv plain)))
      w'

/-- The slot of an unwrapped item, before its key is encrypted. -/
def stagedSlot (item : WrappedKeyItem) (generation : ℕ) : Slot :=
  { present := true
    version := item.businessKeyVersion
    keyIdDigest := textDigest P.crypto item.keyId
    algorithm := item.algorithm
    validFromMs := item.validFromMs
    validToMs := item.validToMs
    generation }

/-- The HSM call made for an item: its wrapped key, with the parameters of its envelope. -/
def unwrapRequest (item : WrappedKeyItem) (params : EnvelopeParameters)
    (canonicalAad hkdfInfo : Bytes) (binding : BusinessKeyDeviceBinding) : UnwrapRequest where
  deviceKeyId := binding.deviceKeyId
  ephemeralPublicKey := params.serverEphemeralPublicKey
  salt := params.hkdfSalt
  hkdfInfo := hkdfInfo
  nonce := params.nonce
  ciphertext := item.wrappedKey
  tag := params.authenticationTag
  aad := canonicalAad

/-- The HSM call of `unwrapToStaging` and the checks of its answer: the plain key and its
check value. -/
def unwrapKey (item : WrappedKeyItem) (params : EnvelopeParameters) (canonicalAad : Bytes)
    (hkdfInfo : Bytes) (binding : BusinessKeyDeviceBinding) :
    SecM (Except ErrorCode (Bytes × Kcv)) := do
  let (rc, plain) ← hsmUnwrap P ω (unwrapRequest item params canonicalAad hkdfInfo binding)
  let kcv := computeKcv P.crypto plain
  if rc ≠ .success then
    pure (.error (if rc = .notImplemented then .businessKeyNotReady else .wrappedKeyInvalid))
  else if plain.length ≠ algorithmKeySize item.algorithm then pure (.error .wrappedKeyInvalid)
  else if item.keyCheckValuePresent ∧ kcv ≠ item.keyCheckValue then
    pure (.error .wrappedKeyInvalid)
  else pure (.ok (plain, kcv))

/-- `unwrapToStaging`: the error code and the actual check value. -/
def unwrapToStaging (domain : String) (item : WrappedKeyItem) (params : EnvelopeParameters)
    (canonicalAad hkdfInfo : Bytes) (binding : BusinessKeyDeviceBinding) (generation : ℕ) :
    SecM (ErrorCode × Kcv) := do
  let prov ← Prog.gets (·.prov)
  match firstReject (unwrapChecks pc prov item binding) with
  | some rc => pure (rc, {})
  | none =>
    match ← unwrapKey P ω item params canonicalAad hkdfInfo binding with
    | .error rc => pure (rc, {})
    | .ok (plain, kcv) =>
      let s := stagedSlot P item generation
      match ← encryptSlotKey P ω domain item.purpose s plain with
      | .error rc => pure (rc, kcv)
      | .ok keyEncHex =>
        Prog.modify fun w => w.setState
          { w.prov.state with
            staging := w.prov.state.staging.insert item.purpose { s with keyEncHex }
            stagingGeneration := generation }
        let rc ← saveState ω
        pure (rc, kcv)

/-- `verifyStaging`. -/
def verifyStaging (prov : Provider) (domain purpose : String) : ErrorCode :=
  if !prov.ready then .businessKeyNotReady
  else
    match prov.state.staging.find? purpose with
    | none => .wrappedKeyInvalid
    | some s =>
      if !s.present then .wrappedKeyInvalid
      else if algorithmKeySize s.algorithm = 0 then .businessKeyUnsupported
      else
        match decryptSlotKey P prov.kek domain purpose s with
        | .error rc => rc
        | .ok plain =>
          if plain.length = algorithmKeySize s.algorithm then .success else .wrappedKeyInvalid

/-- The staging area holds both purposes under `generation`. -/
def stagedBoth (st : State) (generation : ℕ) : Bool :=
  providerPurposes.all fun p =>
    match st.staging.find? p with
    | none => false
    | some s => s.present && s.generation == generation

/-- The fields after a commit of `generation`, before the save. -/
def committedState (macKey : Bytes) (st : State) (generation : ℕ) : State :=
  let active := providerPurposes.foldl
    (fun active p =>
      match st.staging.find? p with
      | none => active
      | some s => active.insert p { s with generation })
    st.active
  { st with
    active
    generation
    commitMarker := computeCommitMarker P macKey generation active
    staging := .empty
    stagingGeneration := 0 }

/-- `commitBatch`. The domain takes no part. -/
def commitBatch (generation : ℕ) : SecM ErrorCode := do
  let prov ← Prog.gets (·.prov)
  let old := prov.state
  if !prov.ready then pure .businessKeyNotReady
  else if !stagedBoth old generation then pure .businessKeyPartialRollback
  else if old.stagingGeneration ≠ generation then pure .businessKeyConflict
  else
    Prog.modify fun w => w.setState (committedState P w.prov.macKey old generation)
    let rc ← saveState ω
    if rc ≠ .success then
      Prog.modify fun w => w.setState
        { w.prov.state with
          active := old.active, generation := old.generation, commitMarker := old.commitMarker }
      pure rc
    else
      -- ghost: the commit took effect
      Prog.modify fun w => { w with disk.commits := (old, w.prov.state) :: w.disk.commits }
      pure .success

/-- `rollbackStaging`. -/
def rollbackStaging (generation : ℕ) : SecM ErrorCode := do
  let prov ← Prog.gets (·.prov)
  if !prov.ready then pure .businessKeyNotReady
  else if prov.state.stagingGeneration ≠ 0 ∧ prov.state.stagingGeneration ≠ generation then
    pure .businessKeyConflict
  else
    Prog.modify fun w => w.setState
      { w.prov.state with staging := .empty, stagingGeneration := 0 }
    saveState ω

end Batch

/-! ### Queries and the import proof -/

section Query

variable (P : Platform) (pc : ProviderConfig) (ω : Oracle)

/-- `querySlot`. -/
def querySlot (prov : Provider) (domain purpose : String) : ErrorCode × BusinessKeySlotInfo :=
  if !prov.ready then (.businessKeyNotReady, {})
  else
    match prov.state.active.find? purpose with
    | none => (.success, { state := .missing })
    | some s =>
      if !s.present then (.success, { state := .missing })
      else
        (.success,
          { present := true
            businessKeyVersion := s.version
            keyIdDigest := s.keyIdDigest
            algorithm := s.algorithm
            validFromMs := s.validFromMs
            validToMs := s.validToMs
            activeGeneration := s.generation
            state :=
              match decryptSlotKey P prov.kek domain purpose s with
              | .ok _ => .active
              | .error _ => .invalid })

/-- `hsm->sign_digest_p1363`. -/
def hsmSign (deviceKeyId : String) (digest : Bytes) : SecM (ErrorCode × Bytes) := fun w =>
  .done (P.sign deviceKeyId digest (ω.signSeed w.asked.signs))
    { w with asked.signs := w.asked.signs + 1 }

/-- `generateProof`: the error code and the proof; the algorithm is the P1363 constant
whenever the code is success. -/
def generateProof (domain purpose : String) (businessKeyVersion : ℕ) (requestId keyId : String)
    (envelopeDigest keyCheckValue : Bytes) : SecM (ErrorCode × Bytes) := do
  let prov ← Prog.gets (·.prov)
  if !prov.ready || !prov.hsm then pure (.businessKeyNotReady, [])
  else
    match prov.state.active.find? purpose with
    | none => pure (.businessKeyNotReady, [])
    | some s =>
      if !s.present then pure (.businessKeyNotReady, [])
      else if s.version ≠ businessKeyVersion then pure (.businessKeyConflict, [])
      else
        match purposeEnumValue purpose with
        | none => pure (.businessKeyUnsupported, [])
        | some purposeVal =>
          let binding ← probeBinding ω
          if !binding.ready || binding.deviceKeyId == "" then pure (.businessKeyNotReady, [])
          else
            let input := buildProofInput P.crypto
              { requestId, businessDomain := domain, purpose := purposeVal, keyId
                businessKeyVersion, envelopeDigest, keyCheckValue }
            let (rc, proof) ← hsmSign P ω binding.deviceKeyId (P.crypto.sha256 input)
            if rc ≠ .success then
              pure (if rc = .notImplemented then .businessKeyNotReady else rc, [])
            else if proof.length ≠ importProofSizeP1363 then pure (.businessKeyNotReady, [])
            else pure (.success, proof)

end Query

/-! ### The journal -/

section Journal

variable (P : Platform) (ω : Oracle)

/-- `JournalLoadResult`. -/
structure JournalLoadResult where
  status : JournalLoadStatus
  entry : Option BusinessKeyJournalEntry := none
  providerError : ErrorCode := .success
  deriving DecidableEq

/-- The provider can read its store. -/
def Provider.readable (prov : Provider) : Bool := prov.ready && prov.store == some true

/-- `loadJournalEx`. -/
def loadJournalEx (prov : Provider) (requestIdDigest : String) : JournalLoadResult :=
  if !prov.readable then { status := .ioError, providerError := .businessKeyNotReady }
  else if prov.stateVersionUnknown then
    { status := .unsupportedVersion, providerError := .storageCorruption }
  else
    match prov.state.journal.find? requestIdDigest with
    | none => { status := .notFound }
    | some js =>
      if js.macHex ≠ journalMac P prov.macKey js.entry then
        { status := .authFailed, providerError := .storageCorruption }
      else if js.entry.requestIdDigest ≠ requestIdDigest then
        { status := .corrupt, providerError := .storageCorruption }
      else { status := .found, entry := some js.entry }

/-- `BusinessKeyProvider::loadJournal`, the wrapper that folds the statuses into one bit. -/
def loadJournal (prov : Provider) (requestIdDigest : String) : Option BusinessKeyJournalEntry :=
  let r := loadJournalEx P prov requestIdDigest
  match r.status, r.entry with
  | .found, some e => some e
  | .authFailed, _ => some { requestIdDigest, phase := .unknown }
  | _, _ => none

/-- `hasTransactionResidue`. The request takes no part. -/
def hasTransactionResidue (prov : Provider) : Bool :=
  !prov.readable || !prov.state.staging.isEmpty || prov.state.commitMarker != ""

/-- `saveJournal`. -/
def saveJournal (entry : BusinessKeyJournalEntry) : SecM ErrorCode := do
  let prov ← Prog.gets (·.prov)
  if !prov.ready then pure .businessKeyNotReady
  else
    Prog.modify fun w => w.setState
      { w.prov.state with
        journal := w.prov.state.journal.insert entry.requestIdDigest
          ⟨entry, journalMac P w.prov.macKey entry⟩ }
    saveState ω

/-- One record as `listJournal` presents it: a record that fails its MAC is replaced by an
empty one in phase UNKNOWN. -/
def listedEntry (macKey : Bytes) (rid : String) (js : JournalStored) :
    BusinessKeyJournalEntry :=
  if js.macHex = journalMac P macKey js.entry then js.entry
  else { requestIdDigest := rid, phase := .unknown }

/-- `listJournal`. -/
def listJournal (prov : Provider) : List BusinessKeyJournalEntry :=
  if prov.stateVersionUnknown then []
  else prov.state.journal.toList.map fun b => listedEntry P prov.macKey b.1 b.2

end Journal

end TboxSec.Keyprov
