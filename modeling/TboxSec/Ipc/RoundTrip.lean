import TboxSec.Ipc.Codec

/-!
# What reaches the other program

**Results and requests arrive as they were sent** (`import_codec_round_trip`). An encoder is a
list of assignments, so that a reader finds behind a key what was last assigned to it; each reader
has one lemma for a field that is always written and one for a field that is left out when it is
empty, where the default of the reader is the empty value.

**The KL1 facts arrive in part** (`kl1_attachment_round_trip`). A result carries the epoch, the
two versions of the contract and the health of the storage; what it does not carry is read as
absent. The method that reports the snapshot carries all of it.
-/

namespace TboxSec.Ipc

open Canonical Keyprov

/-! ### What the types of the programs hold -/

/-- A status as the programs hold it: its numbers fit their types, and there are no bytes of a
check value that is absent. -/
structure StatusWellTyped (s : BusinessKeyStatus) : Prop where
  version : s.businessKeyVersion < 2 ^ 64
  validFrom : IsInt64 s.validFromMs
  validTo : IsInt64 s.validToMs
  kcv : s.keyCheckValuePresent = false → s.keyCheckValue = {}

/-- A result as the programs hold it. -/
structure ResultWellTyped (r : ImportResult) : Prop where
  committedAt : IsInt64 r.committedAtMs
  items : ∀ s ∈ r.items, StatusWellTyped s

/-- A wrapped key as the programs hold it. -/
structure ItemWellTyped (item : WrappedKeyItem) : Prop where
  version : item.businessKeyVersion < 2 ^ 64
  validFrom : IsInt64 item.validFromMs
  validTo : IsInt64 item.validToMs
  kcv : item.keyCheckValuePresent = false → item.keyCheckValue = {}

/-- An admission context as the programs hold it. -/
structure ContextWellTyped (c : KeyprovImportContext) : Prop where
  expireAt : IsInt64 c.admissionExpireAtMs
  epoch : c.capabilityEpoch < 2 ^ 64
  profile : c.kl1ProfileVersion < 2 ^ 32

/-- An attachment as the programs hold it. -/
structure AttachmentWellTyped (a : KeyprovResultAttachment) : Prop where
  resultContract : a.snapshot.resultContractVersion < 2 ^ 32
  querySemantics : a.snapshot.querySemanticsVersion < 2 ^ 32
  epoch : a.snapshot.capabilityEpoch < 2 ^ 64
  profile : a.snapshot.kl1ProfileVersion < 2 ^ 32
  queriedAt : IsInt64 a.queriedAtMs

/-! ### Readers -/

section Readers

variable {B : Base64Functions} {j : Json String} {key : String}

theorem textField_of_field {s : String} (h : j.field? key = some (.str s)) :
    textField key j = some s :=
  Json.value_of_field h rfl

/-- A text that is left out when it is empty. -/
private theorem textField_of_nonempty {s : String} (hj : j.isObject = true)
    (h : j.field? key = if s ≠ "" then some (.str s) else none) : textField key j = some s := by
  rw [textField, Json.value_of_isObject hj, h]
  by_cases hs : s = ""
  · rw [if_neg (not_not.mpr hs), hs]
    rfl
  · rw [if_pos hs]
    rfl

private theorem textField_of_missing (hj : j.isObject = true) (h : j.field? key = none) :
    textField key j = some "" := by
  rw [textField, Json.value_of_isObject hj, h]
  rfl

theorem uint64Field_of_field {n : ℕ} (hn : n < 2 ^ 64) (h : j.field? key = some (.int n)) :
    uint64Field key j = some n := by
  have hvalue : j.value key Json.arithmetic 0 = some (n : ℤ) := Json.value_of_field h rfl
  rw [uint64Field, hvalue, Option.map_some, wrapUnsigned_of_lt hn]

theorem uint32Field_of_field {n : ℕ} (hn : n < 2 ^ 32) (h : j.field? key = some (.int n)) :
    uint32Field key j = some n := by
  have hvalue : j.value key Json.arithmetic 0 = some (n : ℤ) := Json.value_of_field h rfl
  rw [uint32Field, hvalue, Option.map_some, wrapUnsigned32_of_lt hn]

private theorem uint32Field_of_missing (hj : j.isObject = true) (h : j.field? key = none) :
    uint32Field key j = some 0 := by
  rw [uint32Field, Json.value_of_isObject hj, h]
  rfl

theorem int64Field_of_field {n : ℤ} (hn : IsInt64 n) (h : j.field? key = some (.int n)) :
    int64Field key j = some n := by
  have hvalue : j.value key Json.arithmetic 0 = some n := Json.value_of_field h rfl
  rw [int64Field, hvalue, Option.map_some, wrapSigned_of_isInt64 hn]

theorem boolField_of_field {b : Bool} (h : j.field? key = some (.bool b)) :
    boolField key j = some b :=
  Json.value_of_field h rfl

private theorem boolField_of_missing (hj : j.isObject = true) (h : j.field? key = none) :
    boolField key j = some false := by
  rw [boolField, Json.value_of_isObject hj, h]
  rfl

private theorem bytesField_of_field {default data : Bytes} (hB : B.Lawful)
    (h : j.field? key = some (.str (B.encode data))) :
    bytesField B key default j = some data := by
  have hcontains : j.contains key = true := by rw [Json.contains, h, Option.isSome_some]
  rw [bytesField, if_pos hcontains, textField_of_field h, Option.map_some, hB.decode_encode]

/-- Bytes that are written under a condition. -/
private theorem bytesField_of_ite {data : Bytes} {c : Prop} [Decidable c] (hB : B.Lawful)
    (h : j.field? key = if c then some (.str (B.encode data)) else none) :
    bytesField B key [] j = some (if c then data else []) := by
  by_cases hc : c
  · rw [if_pos hc] at h ⊢
    exact bytesField_of_field hB h
  · rw [if_neg hc] at h ⊢
    have hcontains : ¬j.contains key = true := by simp [Json.contains, h]
    rw [bytesField, if_neg hcontains]

/-- Bytes that are left out when there are none. -/
private theorem bytesField_of_nonempty {data : Bytes} (hB : B.Lawful)
    (h : j.field? key = if data ≠ [] then some (.str (B.encode data)) else none) :
    bytesField B key [] j = some data := by
  rw [bytesField_of_ite hB h]
  split_ifs with hdata
  · rfl
  · rw [not_not.mp hdata]

/-- Base64 text that is left out under a condition. -/
theorem decode_textField_of_ite {data : Bytes} {c : Prop} [Decidable c] (hB : B.Lawful)
    (hj : j.isObject = true)
    (h : j.field? key = if c then some (.str (B.encode data)) else none) :
    ∃ text, textField key j = some text ∧ B.decode text = if c then data else [] := by
  by_cases hc : c
  · rw [if_pos hc] at h ⊢
    exact ⟨_, textField_of_field h, hB.decode_encode data⟩
  · rw [if_neg hc] at h ⊢
    have hnil : B.decode "" = [] := by rw [← hB.encode_nil, hB.decode_encode]
    exact ⟨"", textField_of_missing hj h, hnil⟩

/-- The check value that is read is the one that was there. -/
private theorem kcv?_ite {present : Bool} {k : Kcv} (hk : present = false → k = {}) :
    (kcv? (if present = true then k.toBytes else [])).getD {} = k ∧
      (kcv? (if present = true then k.toBytes else [])).isSome = present := by
  cases present with
  | false => exact ⟨(hk rfl).symm, rfl⟩
  | true => exact ⟨rfl, rfl⟩

theorem mapM_map_eq {α β : Type} {f : α → Json String} {g : Json String → Option β}
    {h : α → β} {l : List α} (hl : ∀ a ∈ l, g (f a) = some (h a)) :
    (l.map f).mapM g = some (l.map h) := by
  induction l with
  | nil => rfl
  | cons a l ih =>
    have hrest := ih fun b hb => hl b (List.mem_cons_of_mem a hb)
    rw [List.map_cons, List.mapM_cons, hl a List.mem_cons_self, hrest]
    rfl

end Readers

variable {B : Base64Functions}

/-! ### Results -/

/-- **A status reads back.** -/
theorem businessKeyStatusFromJson_toJson (hB : B.Lawful) {s : BusinessKeyStatus}
    (hs : StatusWellTyped s) :
    businessKeyStatusFromJson B (businessKeyStatusToJson B s) = some s := by
  generalize hdoc : businessKeyStatusToJson B s = j
  have hj : j.isObject = true := by simp [← hdoc, businessKeyStatusToJson]
  have hdomain : textField "business_domain" j = some s.businessDomain :=
    textField_of_field (by simp [← hdoc, businessKeyStatusToJson])
  have hpurpose : textField "purpose" j = some s.purpose :=
    textField_of_field (by simp [← hdoc, businessKeyStatusToJson])
  have hversion : uint64Field "business_key_version" j = some s.businessKeyVersion :=
    uint64Field_of_field hs.version (by simp [← hdoc, businessKeyStatusToJson])
  have hstate : j.value "state" Json.text "UNKNOWN" = some s.state.toText :=
    Json.value_of_field (v := .str s.state.toText)
      (by simp [← hdoc, businessKeyStatusToJson]) rfl
  have hkeyId : textField "key_id" j = some s.keyId :=
    textField_of_field (by simp [← hdoc, businessKeyStatusToJson])
  have hdigest : textField "key_id_digest" j = some s.keyIdDigest :=
    textField_of_field (by simp [← hdoc, businessKeyStatusToJson])
  have halgorithm : textField "algorithm" j = some s.algorithm :=
    textField_of_field (by simp [← hdoc, businessKeyStatusToJson])
  have hfrom : int64Field "valid_from_ms" j = some s.validFromMs :=
    int64Field_of_field hs.validFrom (by simp [← hdoc, businessKeyStatusToJson])
  have hto : int64Field "valid_to_ms" j = some s.validToMs :=
    int64Field_of_field hs.validTo (by simp [← hdoc, businessKeyStatusToJson])
  have hformat : j.value "envelope_format" Json.text "UNSPECIFIED" =
      some s.envelopeFormat.toText :=
    Json.value_of_field (v := .str s.envelopeFormat.toText)
      (by simp [← hdoc, businessKeyStatusToJson]) rfl
  have henvelope : bytesField B "envelope_digest" [] j = some s.envelopeDigest :=
    bytesField_of_nonempty hB (by simp [← hdoc, businessKeyStatusToJson])
  have hkcv : bytesField B "key_check_value" [] j =
      some (if s.keyCheckValuePresent = true then s.keyCheckValue.toBytes else []) :=
    bytesField_of_ite hB (by simp [← hdoc, businessKeyStatusToJson])
  have hproof : bytesField B "import_proof" [] j = some s.importProof :=
    bytesField_of_nonempty hB (by simp [← hdoc, businessKeyStatusToJson])
  have hproofAlgorithm : textField "proof_algorithm" j = some s.proofAlgorithm :=
    textField_of_nonempty hj (by simp [← hdoc, businessKeyStatusToJson])
  have hrecipient : bytesField B "recipient_certificate_digest" [] j =
      some s.recipientCertificateDigest :=
    bytesField_of_nonempty hB (by simp [← hdoc, businessKeyStatusToJson])
  obtain ⟨hvalue, hpresent⟩ := kcv?_ite hs.kcv
  simp only [businessKeyStatusFromJson, hdomain, hpurpose, hversion, hstate, hkeyId, hdigest,
    halgorithm, hfrom, hto, hformat, henvelope, hkcv, hproof, hproofAlgorithm, hrecipient,
    hvalue, hpresent, Option.bind_eq_bind, Option.bind_some, BusinessKeyState.ofText_toText,
    KeyEnvelopeFormat.ofText_toText]

/-- The text and the number of a state agree. -/
private theorem importStateFrom_toText_toCode (s : BusinessKeyImportState) :
    importStateFrom (some s.toText) (some s.toCode) = s := by
  simp only [importStateFrom, wrapUnsigned32_of_lt s.toCode_lt, importStateFromCode_toCode,
    BusinessKeyImportState.ofText_toText, if_true]

/-- **A result reads back**, whatever request the caller had put into its variable. -/
theorem importResultFromJson_toJson (hB : B.Lawful) {r : ImportResult} (hr : ResultWellTyped r)
    (requestId : String) :
    importResultFromJson B (importResultToJson B r) { requestId } = some r := by
  generalize hdoc : importResultToJson B r = j
  have hrequest : textField "request_id" j = some r.requestId :=
    textField_of_field (by simp [← hdoc, importResultToJson])
  have hdomain : textField "business_domain" j = some r.businessDomain :=
    textField_of_field (by simp [← hdoc, importResultToJson])
  have hitems : j.field? "items" = some (.arr (r.items.map (businessKeyStatusToJson B))) := by
    simp [← hdoc, importResultToJson]
  have hmap : (r.items.map (businessKeyStatusToJson B)).mapM (businessKeyStatusFromJson B) =
      some (r.items.map id) :=
    mapM_map_eq fun s hs => businessKeyStatusFromJson_toJson hB (hr.items s hs)
  have hcommitted : int64Field "committed_at_ms" j = some r.committedAtMs :=
    int64Field_of_field hr.committedAt (by simp [← hdoc, importResultToJson])
  have hprovider : textField "provider_version_digest" j = some r.providerVersionDigest :=
    textField_of_field (by simp [← hdoc, importResultToJson])
  have hproof : bytesField B "import_proof" [] j = some r.importProof :=
    bytesField_of_nonempty hB (by simp [← hdoc, importResultToJson])
  have hproofAlgorithm : textField "proof_algorithm" j = some r.proofAlgorithm :=
    textField_of_field (by simp [← hdoc, importResultToJson])
  have hbinding : bytesField B "binding_certificate_digest" [] j =
      some r.bindingCertificateDigest :=
    bytesField_of_nonempty hB (by simp [← hdoc, importResultToJson])
  have htext : (j.field? "state").bind Json.text = some r.state.toText := by
    have hfield : j.field? "state" = some (.str r.state.toText) := by
      simp [← hdoc, importResultToJson]
    rw [hfield]
    rfl
  have hcode : (j.field? "state_code").bind Json.unsigned = some (r.state.toCode : ℤ) := by
    have hfield : j.field? "state_code" = some (.int r.state.toCode) := by
      simp [← hdoc, importResultToJson]
    rw [hfield, Option.bind_some, Json.unsigned, if_pos (Int.natCast_nonneg _)]
  simp only [importResultFromJson, hrequest, hdomain, hitems, hmap, hcommitted, hprovider, hproof,
    hproofAlgorithm, hbinding, htext, hcode, importStateFrom_toText_toCode, List.map_id,
    Option.bind_eq_bind, Option.bind_some]

/-! ### Requests -/

/-- **A wrapped key reads back.** -/
theorem wrappedKeyItemFromJson_toJson (hB : B.Lawful) {item : WrappedKeyItem}
    (hi : ItemWellTyped item) :
    wrappedKeyItemFromJson B (wrappedKeyItemToJson B item) = some item := by
  generalize hdoc : wrappedKeyItemToJson B item = j
  have hj : j.isObject = true := by simp [← hdoc, wrappedKeyItemToJson]
  have hpurpose : textField "purpose" j = some item.purpose :=
    textField_of_field (by simp [← hdoc, wrappedKeyItemToJson])
  have hkeyId : textField "key_id" j = some item.keyId :=
    textField_of_field (by simp [← hdoc, wrappedKeyItemToJson])
  have hversion : uint64Field "business_key_version" j = some item.businessKeyVersion :=
    uint64Field_of_field hi.version (by simp [← hdoc, wrappedKeyItemToJson])
  have halgorithm : textField "algorithm" j = some item.algorithm :=
    textField_of_field (by simp [← hdoc, wrappedKeyItemToJson])
  have hwrapped : textField "wrapped_key" j = some (B.encode item.wrappedKey) :=
    textField_of_field (by simp [← hdoc, wrappedKeyItemToJson])
  have hparameters : textField "parameters" j = some (B.encode item.parameters) :=
    textField_of_field (by simp [← hdoc, wrappedKeyItemToJson])
  have hfrom : int64Field "valid_from_ms" j = some item.validFromMs :=
    int64Field_of_field hi.validFrom (by simp [← hdoc, wrappedKeyItemToJson])
  have hto : int64Field "valid_to_ms" j = some item.validToMs :=
    int64Field_of_field hi.validTo (by simp [← hdoc, wrappedKeyItemToJson])
  have hsuite : textField "wrapping_suite" j = some item.wrappingSuite :=
    textField_of_field (by simp [← hdoc, wrappedKeyItemToJson])
  have hformat : j.value "envelope_format" Json.text "UNSPECIFIED" =
      some item.envelopeFormat.toText :=
    Json.value_of_field (v := .str item.envelopeFormat.toText)
      (by simp [← hdoc, wrappedKeyItemToJson]) rfl
  obtain ⟨envelope, henvelope, henvelopeDecode⟩ :
      ∃ text, textField "envelope_digest" j = some text ∧
        B.decode text = if item.envelopeDigest ≠ [] then item.envelopeDigest else [] :=
    decode_textField_of_ite hB hj (by simp [← hdoc, wrappedKeyItemToJson])
  obtain ⟨kcv, hkcv, hkcvDecode⟩ :
      ∃ text, textField "key_check_value" j = some text ∧
        B.decode text =
          if item.keyCheckValuePresent = true then item.keyCheckValue.toBytes else [] :=
    decode_textField_of_ite hB hj (by simp [← hdoc, wrappedKeyItemToJson])
  have hdigest : (if item.envelopeDigest ≠ [] then item.envelopeDigest else []) =
      item.envelopeDigest := by
    split_ifs with h
    · rfl
    · exact (not_not.mp h).symm
  obtain ⟨hvalue, hpresent⟩ := kcv?_ite hi.kcv
  simp only [wrappedKeyItemFromJson, hpurpose, hkeyId, hversion, halgorithm, hwrapped,
    hparameters, hfrom, hto, hsuite, hformat, henvelope, hkcv, henvelopeDecode, hdigest,
    hkcvDecode, hvalue, hpresent, hB.decode_encode, Option.bind_eq_bind, Option.bind_some,
    KeyEnvelopeFormat.ofText_toText]

/-- The items of a request arrive in their order. -/
private theorem itemsFromJson_of_field (hB : B.Lawful) {j : Json String}
    {items : List WrappedKeyItem}
    (hitems : ∀ item ∈ items, ItemWellTyped item)
    (h : j.field? "items" = some (.arr (items.map (wrappedKeyItemToJson B)))) :
    itemsFromJson B j = some items := by
  have hmap : (items.map (wrappedKeyItemToJson B)).mapM (wrappedKeyItemFromJson B) =
      some (items.map id) :=
    mapM_map_eq fun item hi => wrappedKeyItemFromJson_toJson hB (hitems item hi)
  rw [itemsFromJson, h]
  dsimp only
  rw [hmap, List.map_id]

/-- **A legacy request reads back.** -/
theorem importRequestFromJson_importWrappedBusinessKeys (hB : B.Lawful)
    (requestId domain : String) {items : List WrappedKeyItem}
    (hitems : ∀ item ∈ items, ItemWellTyped item) :
    importRequestFromJson B (importWrappedBusinessKeys B requestId domain items) =
      some (requestId, domain, items) := by
  generalize hdoc : importWrappedBusinessKeys B requestId domain items = j
  have hrequest : textField "request_id" j = some requestId :=
    textField_of_field (by simp [← hdoc, importWrappedBusinessKeys])
  have hdomain : j.value "business_domain" Json.text businessDomainV2c = some domain :=
    Json.value_of_field (v := .str domain) (by simp [← hdoc, importWrappedBusinessKeys]) rfl
  have hread : itemsFromJson B j = some items :=
    itemsFromJson_of_field hB hitems (by simp [← hdoc, importWrappedBusinessKeys])
  simp only [importRequestFromJson, hrequest, hdomain, hread, Option.bind_eq_bind,
    Option.bind_some]

/-- **A KL1 request reads back**, if the client sends it at all. -/
theorem importRequestKl1FromJson_importWrappedBusinessKeysKl1 (hB : B.Lawful)
    (requestId domain : String) {items : List WrappedKeyItem} {context : KeyprovImportContext}
    (hitems : ∀ item ∈ items, ItemWellTyped item) (hcontext : ContextWellTyped context)
    {j : Json String}
    (hsent : importWrappedBusinessKeysKl1 B requestId domain items context = some j) :
    importRequestKl1FromJson B j = some (requestId, domain, items, context) := by
  rw [importWrappedBusinessKeysKl1] at hsent
  split_ifs at hsent
  have hdoc := Option.some.inj hsent
  have hrequest : textField "request_id" j = some requestId :=
    textField_of_field (by simp [← hdoc])
  have hdomain : j.value "business_domain" Json.text businessDomainV2c = some domain :=
    Json.value_of_field (v := .str domain) (by simp [← hdoc]) rfl
  have hexpire : int64Field "admission_expire_at_ms" j = some context.admissionExpireAtMs :=
    int64Field_of_field hcontext.expireAt (by simp [← hdoc])
  have hepoch : uint64Field "capability_epoch" j = some context.capabilityEpoch :=
    uint64Field_of_field hcontext.epoch (by simp [← hdoc])
  have hprofile : uint32Field "kl1_profile_version" j = some context.kl1ProfileVersion :=
    uint32Field_of_field hcontext.profile (by simp [← hdoc])
  have hread : itemsFromJson B j = some items :=
    itemsFromJson_of_field hB hitems (by simp [← hdoc])
  simp only [importRequestKl1FromJson, hrequest, hdomain, hexpire, hepoch, hprofile, hread,
    Option.bind_eq_bind, Option.bind_some]

/-- **Results and requests arrive as they were sent.** The result of an import, a legacy request and
a KL1 request with its context are each read back whole from the document that carries them, for any
number of keys and items. Only the laws of the base64 functions are used, and that the numbers fit
the types of their fields. -/
theorem import_codec_round_trip (B : Base64Functions) (hB : B.Lawful) :
    (∀ (r : ImportResult) (requestId : String), ResultWellTyped r →
      importResultFromJson B (importResultToJson B r) { requestId } = some r) ∧
    (∀ (requestId domain : String) (items : List WrappedKeyItem),
      (∀ item ∈ items, ItemWellTyped item) →
        importRequestFromJson B (importWrappedBusinessKeys B requestId domain items) =
          some (requestId, domain, items) ∧
        ∀ (context : KeyprovImportContext) (j : Json String), ContextWellTyped context →
          importWrappedBusinessKeysKl1 B requestId domain items context = some j →
            importRequestKl1FromJson B j = some (requestId, domain, items, context)) := by
  refine ⟨fun r requestId hr => importResultFromJson_toJson hB hr requestId,
    fun requestId domain items hitems => ⟨?_, fun context j hcontext hsent => ?_⟩⟩
  · exact importRequestFromJson_importWrappedBusinessKeys hB requestId domain hitems
  · exact importRequestKl1FromJson_importWrappedBusinessKeysKl1 hB requestId domain hitems
      hcontext hsent

/-- A key of a batch with every optional field. -/
def fullItem : WrappedKeyItem where
  purpose := purposeUplink
  keyId := "key-1"
  businessKeyVersion := 7
  algorithm := defaultKeyAlgorithm
  wrappedKey := [1, 2, 3, 4]
  parameters := []
  validFromMs := -1
  validToMs := 1000
  wrappingSuite := wrappingSuiteEcdhEsP256
  envelopeFormat := .ecdhEsP256V1
  envelopeDigest := [255, 0]
  keyCheckValue := ⟨1, 2, 3⟩
  keyCheckValuePresent := true

/-- Another key of the batch, with none of them. -/
def plainItem : WrappedKeyItem :=
  { fullItem with
    purpose := purposeDownlink
    keyId := "key-2"
    businessKeyVersion := 8
    wrappedKey := [5]
    validFromMs := 0
    validToMs := 0
    envelopeDigest := []
    keyCheckValue := {}
    keyCheckValuePresent := false }

/-- A result with two keys, of which the second is not written to the end. -/
def twoKeysResult : ImportResult where
  requestId := "r-1"
  businessDomain := businessDomainV2c
  state := .notFound
  items := [{ businessKeyVersion := 7, keyCheckValue := ⟨1, 2, 3⟩, keyCheckValuePresent := true
              importProof := [9] },
    { businessKeyVersion := 8 }]
  committedAtMs := -5

theorem import_codec_round_trip_twoKeys :
    importResultFromJson rfcBase64 (importResultToJson rfcBase64 twoKeysResult) {} =
        some twoKeysResult ∧
      importRequestFromJson rfcBase64
          (importWrappedBusinessKeys rfcBase64 "r-1" businessDomainV2c [fullItem, plainItem]) =
        some ("r-1", businessDomainV2c, [fullItem, plainItem]) ∧
      ∃ j, importWrappedBusinessKeysKl1 rfcBase64 "r-1" businessDomainV2c [fullItem, plainItem]
          ⟨1000, 42, 1⟩ = some j ∧
        importRequestKl1FromJson rfcBase64 j =
          some ("r-1", businessDomainV2c, [fullItem, plainItem], ⟨1000, 42, 1⟩) := by
  have hresult : ResultWellTyped twoKeysResult := by
    refine ⟨by decide, fun s hs => ?_⟩
    rcases List.mem_pair.mp hs with rfl | rfl
    · exact ⟨by decide, by decide, by decide, by decide⟩
    · exact ⟨by decide, by decide, by decide, by decide⟩
  have hitems : ∀ item ∈ [fullItem, plainItem], ItemWellTyped item := by
    intro item hi
    rcases List.mem_pair.mp hi with rfl | rfl
    · exact ⟨by decide, by decide, by decide, by decide⟩
    · exact ⟨by decide, by decide, by decide, by decide⟩
  obtain ⟨hresults, hrequests⟩ := import_codec_round_trip rfcBase64 rfcBase64_lawful
  obtain ⟨hlegacy, hkl1⟩ := hrequests "r-1" businessDomainV2c [fullItem, plainItem] hitems
  exact ⟨hresults twoKeysResult "" hresult, hlegacy, _, rfl,
    hkl1 ⟨1000, 42, 1⟩ _ ⟨by decide, by decide, by decide⟩ rfl⟩

/-! ### The KL1 facts -/

/-- What a client that looks at an attached snapshot sees of it: the epoch, the versions of the
contract and the health of the storage. -/
def attachedSnapshot (clientBuildId : String) (s : KeyprovContractSnapshot) :
    KeyprovContractSnapshot :=
  { resultContractVersion := s.resultContractVersion
    querySemanticsVersion := s.querySemanticsVersion
    capabilityEpoch := s.capabilityEpoch
    storageReady := s.storageReady
    sdkBuildId := clientBuildId }

/-- **A reported snapshot reads back** under the build of the client. -/
theorem keyprovSnapshotFromJson_toJson (clientBuildId : String) {s : KeyprovContractSnapshot}
    (hresult : s.resultContractVersion < 2 ^ 32) (hquery : s.querySemanticsVersion < 2 ^ 32)
    (hepoch : s.capabilityEpoch < 2 ^ 64) (hprofile : s.kl1ProfileVersion < 2 ^ 32) :
    keyprovSnapshotFromJson clientBuildId (snapshotToJson s) =
      some { s with sdkBuildId := clientBuildId } := by
  generalize hdoc : snapshotToJson s = j
  have hresult' : uint32Field "result_contract_version" j = some s.resultContractVersion :=
    uint32Field_of_field hresult (by simp [← hdoc, snapshotToJson])
  have hquery' : uint32Field "query_semantics_version" j = some s.querySemanticsVersion :=
    uint32Field_of_field hquery (by simp [← hdoc, snapshotToJson])
  have hepoch' : uint64Field "capability_epoch" j = some s.capabilityEpoch :=
    uint64Field_of_field hepoch (by simp [← hdoc, snapshotToJson])
  have hstorage : boolField "storage_ready" j = some s.storageReady :=
    boolField_of_field (by simp [← hdoc, snapshotToJson])
  have hdual : boolField "supports_atomic_dual_commit" j = some s.supportsAtomicDualCommit :=
    boolField_of_field (by simp [← hdoc, snapshotToJson])
  have hlease : boolField "supports_lease_admission" j = some s.supportsLeaseAdmission :=
    boolField_of_field (by simp [← hdoc, snapshotToJson])
  have hprofile' : uint32Field "kl1_profile_version" j = some s.kl1ProfileVersion :=
    uint32Field_of_field hprofile (by simp [← hdoc, snapshotToJson])
  have hbuild : textField "daemon_build_id" j = some s.daemonBuildId :=
    textField_of_field (by simp [← hdoc, snapshotToJson])
  simp only [keyprovSnapshotFromJson, hresult', hquery', hepoch', hstorage, hdual, hlease,
    hprofile', hbuild, Option.bind_eq_bind, Option.bind_some]

/-- What the client reads of the facts beside a result. -/
theorem keyprovAttachmentFromJson_importResultKl1ToJson (B : Base64Functions)
    (clientBuildId : String) (r : ImportResult) {a : KeyprovResultAttachment}
    (ha : AttachmentWellTyped a) :
    keyprovAttachmentFromJson clientBuildId (importResultKl1ToJson B r a) =
      some { a with snapshot := attachedSnapshot clientBuildId a.snapshot } := by
  generalize hdoc : importResultKl1ToJson B r a = j
  have hj : j.isObject = true := by simp [← hdoc, importResultKl1ToJson]
  have hresult : uint32Field "result_contract_version" j =
      some a.snapshot.resultContractVersion :=
    uint32Field_of_field ha.resultContract (by simp [← hdoc, importResultKl1ToJson])
  have hquery : uint32Field "query_semantics_version" j =
      some a.snapshot.querySemanticsVersion :=
    uint32Field_of_field ha.querySemantics (by simp [← hdoc, importResultKl1ToJson])
  have hepoch : uint64Field "capability_epoch" j = some a.snapshot.capabilityEpoch :=
    uint64Field_of_field ha.epoch (by simp [← hdoc, importResultKl1ToJson])
  have hstorage : boolField "storage_ready" j = some a.snapshot.storageReady :=
    boolField_of_field (by simp [← hdoc, importResultKl1ToJson])
  -- neither function of the daemon writes these four fields
  have hdual : boolField "supports_atomic_dual_commit" j = some false :=
    boolField_of_missing hj (by simp [← hdoc, importResultKl1ToJson, importResultToJson])
  have hlease : boolField "supports_lease_admission" j = some false :=
    boolField_of_missing hj (by simp [← hdoc, importResultKl1ToJson, importResultToJson])
  have hprofile : uint32Field "kl1_profile_version" j = some 0 :=
    uint32Field_of_missing hj (by simp [← hdoc, importResultKl1ToJson, importResultToJson])
  have hbuild : textField "daemon_build_id" j = some "" :=
    textField_of_missing hj (by simp [← hdoc, importResultKl1ToJson, importResultToJson])
  have hidentity : textField "request_identity_digest" j = some a.requestIdentityDigest :=
    textField_of_nonempty hj
      (by simp [← hdoc, importResultKl1ToJson, importResultToJson])
  have hqueried : int64Field "queried_at_ms" j = some a.queriedAtMs :=
    int64Field_of_field ha.queriedAt (by simp [← hdoc, importResultKl1ToJson])
  simp only [keyprovAttachmentFromJson, keyprovSnapshotFromJson, hresult, hquery, hepoch,
    hstorage, hdual, hlease, hprofile, hbuild, hidentity, hqueried, Option.bind_eq_bind,
    Option.bind_some, attachedSnapshot]

/-- **The KL1 facts arrive in part.** Beside a result the client sees the snapshot cut to the
epoch, the versions and the storage, which is the whole of it exactly when the rest has the values
that mean absence; from the method of its own it sees all of the snapshot. -/
theorem kl1_attachment_round_trip (B : Base64Functions) (clientBuildId : String)
    (r : ImportResult) (a : KeyprovResultAttachment) (ha : AttachmentWellTyped a) :
    keyprovAttachmentFromJson clientBuildId (importResultKl1ToJson B r a) =
        some { a with snapshot := attachedSnapshot clientBuildId a.snapshot } ∧
      keyprovSnapshotFromJson clientBuildId (snapshotToJson a.snapshot) =
        some { a.snapshot with sdkBuildId := clientBuildId } ∧
      (attachedSnapshot clientBuildId a.snapshot = { a.snapshot with sdkBuildId := clientBuildId } ↔
        a.snapshot.supportsAtomicDualCommit = false ∧
          a.snapshot.supportsLeaseAdmission = false ∧
          a.snapshot.kl1ProfileVersion = 0 ∧ a.snapshot.daemonBuildId = "") := by
  refine ⟨keyprovAttachmentFromJson_importResultKl1ToJson B clientBuildId r ha,
    keyprovSnapshotFromJson_toJson clientBuildId ha.resultContract ha.querySemantics ha.epoch
      ha.profile, ?_⟩
  rw [attachedSnapshot, KeyprovContractSnapshot.mk.injEq]
  constructor
  · rintro ⟨-, -, -, -, hdual, hlease, hprofile, hbuild, -⟩
    exact ⟨hdual.symm, hlease.symm, hprofile.symm, hbuild.symm⟩
  · rintro ⟨hdual, hlease, hprofile, hbuild⟩
    exact ⟨rfl, rfl, rfl, rfl, hdual.symm, hlease.symm, hprofile.symm, hbuild.symm, rfl⟩

/-- The facts a daemon that is ready attaches to a result. -/
def readyAttachment : KeyprovResultAttachment where
  snapshot :=
    { resultContractVersion := 3, querySemanticsVersion := 1, capabilityEpoch := 42
      storageReady := true, supportsAtomicDualCommit := true, supportsLeaseAdmission := true
      kl1ProfileVersion := kl1ProfileVersion, daemonBuildId := "sec-1" }
  requestIdentityDigest := "ab"
  queriedAtMs := 1000

theorem kl1_attachment_round_trip_ready :
    keyprovAttachmentFromJson secClientBuildId
        (importResultKl1ToJson rfcBase64 {} readyAttachment) =
      some { readyAttachment with
        snapshot := attachedSnapshot secClientBuildId readyAttachment.snapshot } :=
  (kl1_attachment_round_trip rfcBase64 secClientBuildId {} readyAttachment
    ⟨by decide, by decide, by decide, by decide, by decide⟩).1

/-- What a ready daemon attaches is not what the client sees: it sees a daemon without leases. -/
theorem ready_attachment_cut :
    keyprovAttachmentFromJson secClientBuildId
        (importResultKl1ToJson rfcBase64 {} readyAttachment) ≠
      some { readyAttachment with
        snapshot := { readyAttachment.snapshot with sdkBuildId := secClientBuildId } } := by
  rw [keyprovAttachmentFromJson_importResultKl1ToJson rfcBase64 secClientBuildId {}
    (a := readyAttachment) ⟨by decide, by decide, by decide, by decide, by decide⟩]
  decide

end TboxSec.Ipc
