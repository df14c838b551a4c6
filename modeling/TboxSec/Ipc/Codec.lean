import TboxSec.Keyprov.Texts
import TboxSec.Lib.Base64
import TboxSec.Lib.Json

/-!
# The messages of the business-key methods

The daemon and the client library write and read the same documents with functions of their own.

* **Results.** The daemon writes an import result field by field, and leaves out what is empty;
  the client reads it with a default for each field. The state of the import travels twice, as
  text and as a number, and the client believes it only where the two agree.
* **Requests.** The client writes a batch of wrapped keys, for the legacy method and for the KL1
  method; the daemon reads it.
* **The KL1 facts.** The snapshot of the contract has a method of its own. A result that answers a
  KL1 call carries some fields of the snapshot beside the fields of the result.

Every number that is read is converted to the type of its variable. A message is its document:
both programs print and parse with one library.
-/

namespace TboxSec.Ipc

open Canonical Keyprov

/-- The base64 functions of the framework. -/
structure Base64Functions where
  encode : Bytes → String
  decode : String → Bytes

/-- What is encoded reads back, and nothing is written for nothing. -/
structure Base64Functions.Lawful (B : Base64Functions) : Prop where
  decode_encode : ∀ data, B.decode (B.encode data) = data
  encode_nil : B.encode [] = ""

/-- The base64 of the printable encodings, as a function on texts. -/
def rfcBase64 : Base64Functions where
  encode data := String.ofList ((Base64.encode data).map fun x => Char.ofNat x.toNat)
  decode text := Base64.decode (text.toList.map fun c => UInt8.ofNat c.toNat)

/-- A byte is the number of its character. -/
private theorem ofNat_charOfNat (x : UInt8) : UInt8.ofNat (Char.ofNat x.toNat).toNat = x := by
  have hall : ∀ n : Fin 256, (Char.ofNat n).toNat = n := by decide +kernel
  have hx : (Char.ofNat x.toNat).toNat = x.toNat := hall ⟨x.toNat, x.toNat_lt⟩
  rw [hx, UInt8.ofNat_toNat]

theorem rfcBase64_lawful : rfcBase64.Lawful where
  decode_encode data := by
    have hid : (fun x : UInt8 => UInt8.ofNat (Char.ofNat x.toNat).toNat) = id := by
      funext x
      exact ofNat_charOfNat x
    change Base64.decode ((String.ofList _).toList.map fun c => UInt8.ofNat c.toNat) = data
    rw [String.toList_ofList, List.map_map]
    change Base64.decode ((Base64.encode data).map
      fun x : UInt8 => UInt8.ofNat (Char.ofNat x.toNat).toNat) = data
    rw [hid, List.map_id, Base64.decode_encode]
  encode_nil := rfl

variable (B : Base64Functions)

/-- The check value that three bytes are. -/
def kcv? : Bytes → Option Kcv
  | [b0, b1, b2] => some ⟨b0, b1, b2⟩
  | _ => none

@[simp]
theorem kcv?_toBytes (k : Kcv) : kcv? k.toBytes = some k := rfl

/-! ### Reading fields -/

/-- `j.value(key, "")`. -/
def textField (key : String) (j : Json String) : Option String := j.value key Json.text ""

/-- `j.value(key, 0ULL)`. -/
def uint64Field (key : String) (j : Json String) : Option ℕ :=
  (j.value key Json.arithmetic 0).map wrapUnsigned

/-- `j.value(key, 0u)`. -/
def uint32Field (key : String) (j : Json String) : Option ℕ :=
  (j.value key Json.arithmetic 0).map wrapUnsigned32

/-- `j.value(key, 0LL)`. -/
def int64Field (key : String) (j : Json String) : Option ℤ :=
  (j.value key Json.arithmetic 0).map wrapSigned

/-- `j.value(key, false)`. -/
def boolField (key : String) (j : Json String) : Option Bool := j.value key Json.truth false

/-- A byte string that is decoded when the field is there. -/
def bytesField (key : String) (default : Bytes) (j : Json String) : Option Bytes :=
  if j.contains key then (textField key j).map B.decode else some default

/-! ### The daemon writes -/

/-- `business_key_status_to_json`. -/
def businessKeyStatusToJson (s : BusinessKeyStatus) : Json String :=
  Json.null
    |>.assign "business_domain" (.str s.businessDomain)
    |>.assign "purpose" (.str s.purpose)
    |>.assign "business_key_version" (.int s.businessKeyVersion)
    |>.assign "state" (.str s.state.toText)
    |>.assign "key_id" (.str s.keyId)
    |>.assign "key_id_digest" (.str s.keyIdDigest)
    |>.assign "algorithm" (.str s.algorithm)
    |>.assign "valid_from_ms" (.int s.validFromMs)
    |>.assign "valid_to_ms" (.int s.validToMs)
    |>.assign "envelope_format" (.str s.envelopeFormat.toText)
    |>.assignIf (s.envelopeDigest ≠ []) "envelope_digest" (.str (B.encode s.envelopeDigest))
    |>.assignIf s.keyCheckValuePresent "key_check_value" (.str (B.encode s.keyCheckValue.toBytes))
    |>.assignIf (s.importProof ≠ []) "import_proof" (.str (B.encode s.importProof))
    |>.assignIf (s.proofAlgorithm ≠ "") "proof_algorithm" (.str s.proofAlgorithm)
    |>.assignIf (s.recipientCertificateDigest ≠ []) "recipient_certificate_digest"
      (.str (B.encode s.recipientCertificateDigest))

/-- `import_result_to_json`. -/
def importResultToJson (r : ImportResult) : Json String :=
  Json.null
    |>.assign "request_id" (.str r.requestId)
    |>.assign "business_domain" (.str r.businessDomain)
    |>.assign "state" (.str r.state.toText)
    |>.assign "state_code" (.int r.state.toCode)
    |>.assign "items" (.arr (r.items.map (businessKeyStatusToJson B)))
    |>.assign "committed_at_ms" (.int r.committedAtMs)
    |>.assign "provider_version_digest" (.str r.providerVersionDigest)
    |>.assignIf (r.importProof ≠ []) "import_proof" (.str (B.encode r.importProof))
    |>.assign "proof_algorithm" (.str r.proofAlgorithm)
    |>.assignIf (r.bindingCertificateDigest ≠ []) "binding_certificate_digest"
      (.str (B.encode r.bindingCertificateDigest))

/-- `snapshot_to_json`. -/
def snapshotToJson (s : KeyprovContractSnapshot) : Json String :=
  Json.null
    |>.assign "result_contract_version" (.int s.resultContractVersion)
    |>.assign "query_semantics_version" (.int s.querySemanticsVersion)
    |>.assign "capability_epoch" (.int s.capabilityEpoch)
    |>.assign "storage_ready" (.bool s.storageReady)
    |>.assign "supports_atomic_dual_commit" (.bool s.supportsAtomicDualCommit)
    |>.assign "supports_lease_admission" (.bool s.supportsLeaseAdmission)
    |>.assign "kl1_profile_version" (.int s.kl1ProfileVersion)
    |>.assign "daemon_build_id" (.str s.daemonBuildId)
    |>.assign "sdk_build_id" (.str s.sdkBuildId)

/-- `import_result_kl1_to_json`. -/
def importResultKl1ToJson (r : ImportResult) (a : KeyprovResultAttachment) : Json String :=
  importResultToJson B r
    |>.assign "capability_epoch" (.int a.snapshot.capabilityEpoch)
    |>.assign "result_contract_version" (.int a.snapshot.resultContractVersion)
    |>.assign "query_semantics_version" (.int a.snapshot.querySemanticsVersion)
    |>.assign "storage_ready" (.bool a.snapshot.storageReady)
    |>.assign "queried_at_ms" (.int a.queriedAtMs)
    |>.assignIf (a.requestIdentityDigest ≠ "") "request_identity_digest"
      (.str a.requestIdentityDigest)

/-! ### The client reads -/

/-- `business_key_status_from_json`; `none` is an exception. -/
def businessKeyStatusFromJson (j : Json String) : Option BusinessKeyStatus := do
  let businessDomain ← textField "business_domain" j
  let purpose ← textField "purpose" j
  let businessKeyVersion ← uint64Field "business_key_version" j
  let state ← j.value "state" Json.text "UNKNOWN"
  let keyId ← textField "key_id" j
  let keyIdDigest ← textField "key_id_digest" j
  let algorithm ← textField "algorithm" j
  let validFromMs ← int64Field "valid_from_ms" j
  let validToMs ← int64Field "valid_to_ms" j
  let envelopeFormat ← j.value "envelope_format" Json.text "UNSPECIFIED"
  let envelopeDigest ← bytesField B "envelope_digest" [] j
  let kcv ← bytesField B "key_check_value" [] j
  let importProof ← bytesField B "import_proof" [] j
  let proofAlgorithm ← textField "proof_algorithm" j
  let recipientCertificateDigest ← bytesField B "recipient_certificate_digest" [] j
  some
    { businessDomain, purpose, businessKeyVersion, keyId, keyIdDigest, algorithm, validFromMs
      validToMs, envelopeDigest, importProof, proofAlgorithm, recipientCertificateDigest
      state := .ofText state
      envelopeFormat := .ofText envelopeFormat
      -- a check value of another length than three is not taken
      keyCheckValue := (kcv? kcv).getD {}
      keyCheckValuePresent := (kcv? kcv).isSome }

/-- The state of an import as `import_result_from_json` takes it from its text and its number. -/
def importStateFrom (text : Option String) (code : Option ℤ) : BusinessKeyImportState :=
  match code, text with
  | none, none => .unknown
  | none, some s => .ofText s
  | some _, none => .unknown
  | some n, some s =>
    let codeState := importStateFromCode (wrapUnsigned32 n)
    if codeState = .ofText s then codeState else .unknown

/-- `import_result_from_json` into `out`; `none` is an exception. -/
def importResultFromJson (j : Json String) (out : ImportResult) : Option ImportResult := do
  let requestId ← textField "request_id" j
  let businessDomain ← textField "business_domain" j
  let items ← match j.field? "items" with
    | some (.arr l) => l.mapM (businessKeyStatusFromJson B)
    | _ => some []
  let committedAtMs ← int64Field "committed_at_ms" j
  let providerVersionDigest ← textField "provider_version_digest" j
  let importProof ← bytesField B "import_proof" out.importProof j
  let proofAlgorithm ← textField "proof_algorithm" j
  let bindingCertificateDigest ←
    bytesField B "binding_certificate_digest" out.bindingCertificateDigest j
  some
    { requestId, businessDomain, items, committedAtMs, providerVersionDigest, importProof
      proofAlgorithm, bindingCertificateDigest
      state := importStateFrom ((j.field? "state").bind Json.text)
        ((j.field? "state_code").bind Json.unsigned) }

/-- `keyprov_snapshot_from_json`; `none` is an exception. -/
def keyprovSnapshotFromJson (clientBuildId : String) (j : Json String) :
    Option KeyprovContractSnapshot := do
  let resultContractVersion ← uint32Field "result_contract_version" j
  let querySemanticsVersion ← uint32Field "query_semantics_version" j
  let capabilityEpoch ← uint64Field "capability_epoch" j
  let storageReady ← boolField "storage_ready" j
  let supportsAtomicDualCommit ← boolField "supports_atomic_dual_commit" j
  let supportsLeaseAdmission ← boolField "supports_lease_admission" j
  let kl1ProfileVersion ← uint32Field "kl1_profile_version" j
  let daemonBuildId ← textField "daemon_build_id" j
  some
    { resultContractVersion, querySemanticsVersion, capabilityEpoch, storageReady
      supportsAtomicDualCommit, supportsLeaseAdmission, kl1ProfileVersion, daemonBuildId
      sdkBuildId := clientBuildId }

/-- `keyprov_attachment_from_json`; `none` is an exception. -/
def keyprovAttachmentFromJson (clientBuildId : String) (j : Json String) :
    Option KeyprovResultAttachment := do
  let snapshot ← keyprovSnapshotFromJson clientBuildId j
  let requestIdentityDigest ← textField "request_identity_digest" j
  let queriedAtMs ← int64Field "queried_at_ms" j
  some { snapshot, requestIdentityDigest, queriedAtMs }

/-- `kSecClientBuildId`. -/
def secClientBuildId : String := "sec-client-kl1-v1"

/-! ### The client writes -/

/-- One key of a batch, as both import methods of the client write it. -/
def wrappedKeyItemToJson (item : WrappedKeyItem) : Json String :=
  Json.null
    |>.assign "purpose" (.str item.purpose)
    |>.assign "key_id" (.str item.keyId)
    |>.assign "business_key_version" (.int item.businessKeyVersion)
    |>.assign "algorithm" (.str item.algorithm)
    |>.assign "wrapped_key" (.str (B.encode item.wrappedKey))
    |>.assign "parameters" (.str (B.encode item.parameters))
    |>.assign "valid_from_ms" (.int item.validFromMs)
    |>.assign "valid_to_ms" (.int item.validToMs)
    |>.assign "wrapping_suite" (.str item.wrappingSuite)
    |>.assign "envelope_format" (.str item.envelopeFormat.toText)
    |>.assignIf (item.envelopeDigest ≠ []) "envelope_digest" (.str (B.encode item.envelopeDigest))
    |>.assignIf item.keyCheckValuePresent "key_check_value"
      (.str (B.encode item.keyCheckValue.toBytes))

/-- The request of `SecClient::import_wrapped_business_keys`. -/
def importWrappedBusinessKeys (requestId businessDomain : String) (items : List WrappedKeyItem) :
    Json String :=
  Json.null
    |>.assign "request_id" (.str requestId)
    |>.assign "business_domain" (.str businessDomain)
    |>.assign "items" (.arr (items.map (wrappedKeyItemToJson B)))

/-- The request of `SecClient::import_wrapped_business_keys_kl1`; `none` when the client refuses
without asking. -/
def importWrappedBusinessKeysKl1 (requestId businessDomain : String)
    (items : List WrappedKeyItem) (context : KeyprovImportContext) : Option (Json String) :=
  if context.kl1ProfileVersion ≠ kl1ProfileVersion ∨ context.capabilityEpoch = 0 ∨
      context.admissionExpireAtMs = 0 then none
  else some <|
    Json.null
      |>.assign "request_id" (.str requestId)
      |>.assign "business_domain" (.str businessDomain)
      |>.assign "admission_expire_at_ms" (.int context.admissionExpireAtMs)
      |>.assign "capability_epoch" (.int context.capabilityEpoch)
      |>.assign "kl1_profile_version" (.int context.kl1ProfileVersion)
      |>.assign "items" (.arr (items.map (wrappedKeyItemToJson B)))

/-! ### The daemon reads -/

/-- One key of a batch, as both import methods of the daemon read it; `none` is an exception. -/
def wrappedKeyItemFromJson (j : Json String) : Option WrappedKeyItem := do
  let purpose ← textField "purpose" j
  let keyId ← textField "key_id" j
  let businessKeyVersion ← uint64Field "business_key_version" j
  let algorithm ← textField "algorithm" j
  let wrappedKey ← textField "wrapped_key" j
  let parameters ← textField "parameters" j
  let validFromMs ← int64Field "valid_from_ms" j
  let validToMs ← int64Field "valid_to_ms" j
  let wrappingSuite ← textField "wrapping_suite" j
  let envelopeFormat ← j.value "envelope_format" Json.text "UNSPECIFIED"
  let envelopeDigest ← textField "envelope_digest" j
  let kcv ← textField "key_check_value" j
  some
    { purpose, keyId, businessKeyVersion, algorithm, validFromMs, validToMs, wrappingSuite
      wrappedKey := B.decode wrappedKey
      parameters := B.decode parameters
      envelopeFormat := .ofText envelopeFormat
      envelopeDigest := B.decode envelopeDigest
      keyCheckValue := (kcv? (B.decode kcv)).getD {}
      keyCheckValuePresent := (kcv? (B.decode kcv)).isSome }

/-- The items of a request; a request without an array of them has none. -/
def itemsFromJson (j : Json String) : Option (List WrappedKeyItem) :=
  match j.field? "items" with
  | some (.arr l) => l.mapM (wrappedKeyItemFromJson B)
  | _ => some []

/-- What `handle_import_wrapped_business_keys` takes from its parameters: the request, the domain
and the items. -/
def importRequestFromJson (j : Json String) :
    Option (String × String × List WrappedKeyItem) := do
  let requestId ← textField "request_id" j
  let domain ← j.value "business_domain" Json.text businessDomainV2c
  let items ← itemsFromJson B j
  some (requestId, domain, items)

/-- What `handle_import_wrapped_business_keys_kl1` takes from its parameters. -/
def importRequestKl1FromJson (j : Json String) :
    Option (String × String × List WrappedKeyItem × KeyprovImportContext) := do
  let requestId ← textField "request_id" j
  let domain ← j.value "business_domain" Json.text businessDomainV2c
  let admissionExpireAtMs ← int64Field "admission_expire_at_ms" j
  let capabilityEpoch ← uint64Field "capability_epoch" j
  let kl1ProfileVersion ← uint32Field "kl1_profile_version" j
  let items ← itemsFromJson B j
  some (requestId, domain, items, { admissionExpireAtMs, capabilityEpoch, kl1ProfileVersion })

end TboxSec.Ipc
