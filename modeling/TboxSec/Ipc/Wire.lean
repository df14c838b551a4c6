import TboxSec.Ipc.Dispatcher
import TboxSec.Ipc.RoundTrip
import TboxSec.Ipc.SecClient
import TboxSec.Lib.JsonText

/-!
# Messages as texts

What travels is a text, the order of the fields is the library's own, and the dispatcher adds the
field `status` to every response. None of this reaches the readers: each of them looks at fields
it knows by name (`Json.Reads`), and `status` is none of them.

* **Fields** (`…Field_congr`): reading one field gives the same in two documents that differ in
  another field and in the order of the fields only.
* **Readers** (`reads_…`): for each reader of the two programs the list of the keys it looks at.
  Where a reader of one message calls that of another for the elements of an array, it is enough
  that the inner reader is blind to the order.

So what is left to show of a message is that it is printable, and that its reader inverts its
writer on documents.
-/

namespace TboxSec.Ipc

open Json (SameBut Reads OrderBlind)
open Keyprov

/-! ### The fields -/

section Fields

variable {j j' : Json String} {k l : String}

/-- A required text. -/
theorem textField_congr (h : SameBut k j j') (hl : ¬k = l) : textField l j = textField l j' :=
  h.value (Ne.symm hl) OrderBlind.text ""

/-- A required 64-bit number. -/
theorem uint64Field_congr (h : SameBut k j j') (hl : ¬k = l) :
    uint64Field l j = uint64Field l j' :=
  congrArg (Option.map wrapUnsigned) (h.value (Ne.symm hl) OrderBlind.arithmetic 0)

/-- A required 32-bit number. -/
theorem uint32Field_congr (h : SameBut k j j') (hl : ¬k = l) :
    uint32Field l j = uint32Field l j' :=
  congrArg (Option.map wrapUnsigned32) (h.value (Ne.symm hl) OrderBlind.arithmetic 0)

/-- A required signed number. -/
private theorem int64Field_congr (h : SameBut k j j') (hl : ¬k = l) :
    int64Field l j = int64Field l j' :=
  congrArg (Option.map wrapSigned) (h.value (Ne.symm hl) OrderBlind.arithmetic 0)

/-- A required flag. -/
private theorem boolField_congr (h : SameBut k j j') (hl : ¬k = l) :
    boolField l j = boolField l j' :=
  h.value (Ne.symm hl) OrderBlind.truth false

/-- Bytes in base64, with a default. -/
private theorem bytesField_congr (h : SameBut k j j') (hl : ¬k = l) (B : Base64Functions)
    (default : Bytes) : bytesField B l default j = bytesField B l default j' := by
  rw [bytesField, bytesField, h.contains (Ne.symm hl), textField_congr h hl]

/-- A text with a default, which a missing field is read as. -/
theorem defaultText_congr (h : SameBut k j j') (hl : ¬k = l) (default : String) :
    j.value l Json.text default = j'.value l Json.text default :=
  h.value (Ne.symm hl) OrderBlind.text default

/-- `get<int>()` takes the same from all documents of one kind. -/
private theorem JsonReader.orderBlind_toInt (R : JsonReader) : OrderBlind R.toInt :=
  OrderBlind.of_kind (fun _ _ => rfl) fun _ _ => rfl

/-- A number with a default, as the JSON library converts it. -/
theorem defaultInt_congr (R : JsonReader) (h : SameBut k j j') (hl : ¬k = l) (default : ℤ) :
    j.value l R.toInt default = j'.value l R.toInt default :=
  h.value (Ne.symm hl) R.orderBlind_toInt default

/-- What a loop over an array takes, and nothing from anything else. -/
def arrayField {α : Type} (key : String) (read : Json String → Option α) (j : Json String) :
    Option (List α) :=
  match j.field? key with
  | some (.arr l) => l.mapM read
  | _ => some []

/-- An array whose elements are read blindly. -/
theorem arrayField_congr {α : Type} {read : Json String → Option α} (hread : OrderBlind read)
    (h : SameBut k j j') (hl : ¬k = l) : arrayField l read j = arrayField l read j' := by
  unfold arrayField
  have hrel := h.fields l (Ne.symm hl)
  revert hrel
  generalize j.field? l = a
  generalize j'.field? l = b
  intro hrel
  cases hrel with
  | none => rfl
  | some hsame =>
    cases hsame with
    | refl => rfl
    | arr helements => exact hread.mapM_eq helements
    | obj => rfl

end Fields

/-! ### The readers -/

section Readers

variable (B : Base64Functions)

/-- A reader of one text looks at its key. -/
theorem reads_textField (key : String) : Reads [key] (textField key) := by
  intro k j j' hk h
  exact textField_congr h (by simpa using hk)

/-- So does a reader of bytes. -/
theorem reads_decodeField (key : String) : Reads [key] (SecClient.decodeField B key) := by
  intro k j j' hk h
  exact congrArg (Option.map B.decode) (textField_congr h (by simpa using hk))

/-- The fields of a business-key status. -/
def businessKeyStatusKeys : List String :=
  ["business_domain", "purpose", "business_key_version", "state", "key_id", "key_id_digest",
   "algorithm", "valid_from_ms", "valid_to_ms", "envelope_format", "envelope_digest",
   "key_check_value", "import_proof", "proof_algorithm", "recipient_certificate_digest"]

/-- The status of a key looks at its own keys only. -/
theorem reads_businessKeyStatus :
    Reads businessKeyStatusKeys (businessKeyStatusFromJson B) := by
  intro k j j' hk h
  simp only [businessKeyStatusKeys, List.mem_cons, List.not_mem_nil, or_false, not_or] at hk
  simp only [businessKeyStatusFromJson, hk, not_false_eq_true, textField_congr h,
    uint64Field_congr h, int64Field_congr h, bytesField_congr h, defaultText_congr h]

/-- The items of a request are an array of wrapped keys. -/
private theorem itemsFromJson_eq :
    itemsFromJson B = arrayField "items" (wrappedKeyItemFromJson B) := rfl

/-- The purposes of a query are an array of texts. -/
theorem purposesField_eq : Server.purposesField = arrayField "purposes" Json.text := rfl

/-- A reader of one array looks at its key. -/
theorem reads_arrayField {α : Type} {read : Json String → Option α} (hread : OrderBlind read)
    (key : String) : Reads [key] (arrayField key read) := by
  intro k j j' hk h
  exact arrayField_congr hread h (by simpa using hk)

/-- `import_result_from_json`, with its loop named. -/
private theorem importResultFromJson_eq (j : Json String) (out : ImportResult) :
    importResultFromJson B j out = (do
      let requestId ← textField "request_id" j
      let businessDomain ← textField "business_domain" j
      let items ← arrayField "items" (businessKeyStatusFromJson B) j
      let committedAtMs ← int64Field "committed_at_ms" j
      let providerVersionDigest ← textField "provider_version_digest" j
      let importProof ← bytesField B "import_proof" out.importProof j
      let proofAlgorithm ← textField "proof_algorithm" j
      let bindingCertificateDigest ←
        bytesField B "binding_certificate_digest" out.bindingCertificateDigest j
      some
        { requestId, businessDomain, items, committedAtMs, providerVersionDigest, importProof
          proofAlgorithm, bindingCertificateDigest
          state := importStateFrom ((j.field? "state").bind Json.text)
            ((j.field? "state_code").bind Json.unsigned) }) := by
  unfold importResultFromJson arrayField
  generalize j.field? "items" = items
  cases items with
  | none => rfl
  | some v => cases v <;> rfl

/-- The fields of an import result. -/
def importResultKeys : List String :=
  ["request_id", "business_domain", "items", "committed_at_ms", "provider_version_digest",
   "import_proof", "proof_algorithm", "binding_certificate_digest", "state", "state_code"]

/-- An import result, whatever the client held before. -/
theorem reads_importResult (out : ImportResult) :
    Reads importResultKeys (importResultFromJson B · out) := by
  intro k j j' hk h
  simp only [importResultKeys, List.mem_cons, List.not_mem_nil, or_false, not_or] at hk
  have hstate : (j.field? "state").bind Json.text = (j'.field? "state").bind Json.text :=
    h.field?_bind (Ne.symm hk.2.2.2.2.2.2.2.2.1) OrderBlind.text
  have hcode : (j.field? "state_code").bind Json.unsigned =
      (j'.field? "state_code").bind Json.unsigned :=
    h.field?_bind (Ne.symm hk.2.2.2.2.2.2.2.2.2) OrderBlind.unsigned
  simp only [importResultFromJson_eq, hk, not_false_eq_true, textField_congr h,
    int64Field_congr h, bytesField_congr h, hstate, hcode,
    arrayField_congr (reads_businessKeyStatus B).orderBlind h]

/-- The fields of a contract snapshot. -/
def snapshotKeys : List String :=
  ["result_contract_version", "query_semantics_version", "capability_epoch", "storage_ready",
   "supports_atomic_dual_commit", "supports_lease_admission", "kl1_profile_version",
   "daemon_build_id"]

/-- The snapshot of the contract. -/
theorem reads_snapshot (clientBuildId : String) :
    Reads snapshotKeys (keyprovSnapshotFromJson clientBuildId) := by
  intro k j j' hk h
  simp only [snapshotKeys, List.mem_cons, List.not_mem_nil, or_false, not_or] at hk
  simp only [keyprovSnapshotFromJson, hk, not_false_eq_true, textField_congr h,
    uint32Field_congr h, uint64Field_congr h, boolField_congr h]

/-- The fields of the KL1 facts beside a result. -/
def attachmentKeys : List String := snapshotKeys ++ ["request_identity_digest", "queried_at_ms"]

/-- The part of the snapshot that travels with a result. -/
private theorem reads_attachment (clientBuildId : String) :
    Reads attachmentKeys (keyprovAttachmentFromJson clientBuildId) := by
  intro k j j' hk h
  rw [attachmentKeys, List.mem_append, not_or] at hk
  obtain ⟨hsnapshot, hrest⟩ := hk
  simp only [List.mem_cons, List.not_mem_nil, or_false, not_or] at hrest
  have hread := reads_snapshot clientBuildId hsnapshot h
  simp only [keyprovAttachmentFromJson, hread, hrest, not_false_eq_true, textField_congr h,
    int64Field_congr h]

/-- A result with the facts attached to it. It is two readers over one document, so their keys add
up. -/
theorem reads_resultKl1 (out : ImportResult) :
    Reads (importResultKeys ++ attachmentKeys) (SecClient.resultKl1FromJson B · out) := by
  intro k j j' hk h
  rw [List.mem_append, not_or] at hk
  have hresult := reads_importResult B out hk.1 h
  have hattach := reads_attachment secClientBuildId hk.2 h
  simp only [SecClient.resultKl1FromJson, hresult, hattach]

/-- The fields of a credential. -/
def tlsCredentialKeys : List String :=
  ["credential_id", "version", "root_ca_bundle", "client_cert_chain", "private_key_ref",
   "key_algorithm", "not_before", "not_after", "credential_status"]

/-- The bundle of a credential. -/
theorem reads_tlsCredential : Reads tlsCredentialKeys (tlsCredentialFromJson B) := by
  intro k j j' hk h
  simp only [tlsCredentialKeys, List.mem_cons, List.not_mem_nil, or_false, not_or] at hk
  simp only [tlsCredentialFromJson, hk, not_false_eq_true, textField_congr h,
    uint64Field_congr h, int64Field_congr h, defaultText_congr h]

/-- The fields of the state of a credential. -/
def tlsCredentialStateKeys : List String :=
  ["credential_id", "version", "credential_status", "reason_code"]

/-- The state of a credential. -/
theorem reads_tlsCredentialState (R : JsonReader) :
    Reads tlsCredentialStateKeys (tlsCredentialStateFromJson R) := by
  intro k j j' hk h
  simp only [tlsCredentialStateKeys, List.mem_cons, List.not_mem_nil, or_false, not_or] at hk
  simp only [tlsCredentialStateFromJson, hk, not_false_eq_true, textField_congr h,
    uint64Field_congr h, defaultText_congr h, defaultInt_congr R h]

/-- The fields of a capability that the client reads. -/
def capabilityKeys : List String :=
  ["envelope_v1_import_ready", "atomic_dual_purpose_commit_ready",
   "import_proof_sign_ecdsa_p256_v1_ready", "secure_journal_replay_ready",
   "identity_key_template_sign_derive", "csr_key_usage_request_matched",
   "certificate_profile_matched", "certificate_chain_and_key_match",
   "certificate_critical_extensions_allowed", "leaf_certificate_digest_bound",
   "proto_release_matched", "envelope_format_v1", "p256_ecdh", "hkdf_sha256",
   "aes256_gcm_decrypt_to_slot", "atomic_dual_slot_commit", "active_certificate_key_agreement",
   "active_certificate_digital_signature", "active_private_key_can_derive",
   "active_private_key_can_sign", "ecdsa_p256_sha256_p1363", "secure_journal_ready",
   "trusted_time_ready"]

/-- The capability with its twenty-three flags. -/
theorem reads_capability : Reads capabilityKeys capabilityFromJson := by
  intro k j j' hk h
  simp only [capabilityKeys, List.mem_cons, List.not_mem_nil, or_false, not_or] at hk
  simp only [capabilityFromJson, hk, not_false_eq_true, boolField_congr h]

/-- The fields of an envelope. -/
def envelopeKeys : List String :=
  ["contract_version", "capabilities", "contract_complete", "sec_daemon_epoch",
   "sec_time_event_sequence", "time_daemon_epoch", "time_event_sequence", "source_id",
   "source_kind", "source_epoch", "policy_version", "trust_state", "source", "reason",
   "utc_valid", "utc_epoch_ms", "freshness_age_ms", "uncertainty_valid", "uncertainty_ms",
   "remaining_validity_ms", "drift_bound_ppm", "system_clock_aligned", "alignment_error_ms",
   "auth_status", "evidence_ref", "valid", "error_class"]

/-- The envelope of trusted time. -/
theorem reads_envelope : Reads envelopeKeys trustedTimeEnvelopeFromJson := by
  intro k j j' hk h
  simp only [envelopeKeys, List.mem_cons, List.not_mem_nil, or_false, not_or] at hk
  have hcontains : (requiredEnvelopeKeys.all fun key => j.contains key) =
      requiredEnvelopeKeys.all fun key => j'.contains key := by
    simp only [requiredEnvelopeKeys, List.all_cons, List.all_nil,
      h.contains (Ne.symm hk.1), h.contains (Ne.symm hk.2.2.2.1),
      h.contains (Ne.symm hk.2.2.2.2.2.2.2.2.2.2.2.1),
      h.contains (Ne.symm hk.2.2.2.2.2.2.2.2.2.2.2.2.2.2.2.2.2.2.2.2.2.2.2.2.2.1)]
  simp only [trustedTimeEnvelopeFromJson, h.isObject, hcontains, hk, not_false_eq_true,
    textField_congr h, uint32Field_congr h, uint64Field_congr h, int64Field_congr h,
    boolField_congr h]

/-- The fields of a wrapped key. -/
def wrappedKeyItemKeys : List String :=
  ["purpose", "key_id", "business_key_version", "algorithm", "wrapped_key", "parameters",
   "valid_from_ms", "valid_to_ms", "wrapping_suite", "envelope_format", "envelope_digest",
   "key_check_value"]

/-- A wrapped key. -/
private theorem reads_wrappedKeyItem : Reads wrappedKeyItemKeys (wrappedKeyItemFromJson B) := by
  intro k j j' hk h
  simp only [wrappedKeyItemKeys, List.mem_cons, List.not_mem_nil, or_false, not_or] at hk
  simp only [wrappedKeyItemFromJson, hk, not_false_eq_true, textField_congr h,
    uint64Field_congr h, int64Field_congr h, defaultText_congr h]

/-- A legacy import, with an array of wrapped keys. -/
theorem reads_importRequest :
    Reads ["request_id", "business_domain", "items"] (importRequestFromJson B) := by
  intro k j j' hk h
  simp only [List.mem_cons, List.not_mem_nil, or_false, not_or] at hk
  rw [importRequestFromJson, importRequestFromJson, itemsFromJson_eq]
  simp only [hk, not_false_eq_true, textField_congr h,
    defaultText_congr h, arrayField_congr (reads_wrappedKeyItem B).orderBlind h]

/-- A KL1 import, with the context of its admission. -/
theorem reads_importRequestKl1 :
    Reads ["request_id", "business_domain", "admission_expire_at_ms", "capability_epoch",
      "kl1_profile_version", "items"] (importRequestKl1FromJson B) := by
  intro k j j' hk h
  simp only [List.mem_cons, List.not_mem_nil, or_false, not_or] at hk
  rw [importRequestKl1FromJson, importRequestKl1FromJson, itemsFromJson_eq]
  simp only [hk, not_false_eq_true,
    textField_congr h, uint32Field_congr h, uint64Field_congr h, int64Field_congr h,
    defaultText_congr h, arrayField_congr (reads_wrappedKeyItem B).orderBlind h]

end Readers

end TboxSec.Ipc
