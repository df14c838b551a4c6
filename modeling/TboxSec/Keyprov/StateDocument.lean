import TboxSec.Ipc.RoundTrip
import TboxSec.Keyprov.Provider

/-!
# The state document

What `save_state` writes and `load_state` reads. The document is written field by field, with
byte strings as hex and enumerations as text; it is read with a default for each field, and
nothing but a value of the wrong type makes the reader fail.

The reader is a partial function of whatever the parser gives (`Json String`); the writer makes a
`Json` of the model, which is a document by `Json.toDocument`.

* The functions `…Json` write: a slot, a stored record, a map of either, the document.
* The functions `…FromJson` read the same, and have the defaults of the source.
* `fromHex` reads byte strings for callers that ignore whether the text was hexadecimal.
-/

namespace TboxSec.Keyprov

open Canonical Ipc

/-! ### Written documents -/

mutual

/-- A written value as a document. -/
def Json.toDocument : Json → TboxSec.Json String
  | .str s => .str s
  | .num n => .int n
  | .bool b => .bool b
  | .arr l => .arr (toDocuments l)
  | .obj fields => .obj (toDocumentFields fields)

/-- The elements of a written array. -/
def Json.toDocuments : List Json → List (TboxSec.Json String)
  | [] => []
  | j :: rest => j.toDocument :: toDocuments rest

/-- The fields of a written object. -/
def Json.toDocumentFields : List (String × Json) → List (String × TboxSec.Json String)
  | [] => []
  | (k, j) :: rest => (k, j.toDocument) :: toDocumentFields rest

end

attribute [simp] Json.toDocument Json.toDocumentFields

@[simp]
theorem Json.toDocuments_eq_map (l : List Json) : toDocuments l = l.map toDocument := by
  induction l with
  | nil => rfl
  | cons j l ih => rw [toDocuments, ih, List.map_cons]

theorem Json.toDocumentFields_eq_map (fields : List (String × Json)) :
    toDocumentFields fields = fields.map fun b => (b.1, b.2.toDocument) := by
  induction fields with
  | nil => rfl
  | cons b fields ih => rw [toDocumentFields, ih, List.map_cons]

/-! ### The writer -/

/-- `slot_to_json`. -/
def slotJson (s : Slot) : Json :=
  .obj
    [("present", .bool s.present), ("version", .num s.version),
     ("key_id_digest", .str s.keyIdDigest), ("algorithm", .str s.algorithm),
     ("valid_from_ms", .num s.validFromMs), ("valid_to_ms", .num s.validToMs),
     ("generation", .num s.generation), ("key_enc", .str s.keyEncHex)]

/-- One record of the journal, with its MAC. -/
def journalStoredJson (js : JournalStored) : Json :=
  .obj [("entry", journalEntryJson js.entry), ("mac", .str js.macHex)]

/-- A map as an object, one field for each binding. -/
def mapJson {α : Type} (encode : α → Json) (m : OrdMap String α) : Json :=
  .obj (m.toList.map fun b => (b.1, encode b.2))

/-- The document of `save_state`. -/
def stateJson (st : State) : Json :=
  .obj
    [("v", .num 1), ("generation", .num st.generation),
     ("commit_marker", .str st.commitMarker),
     ("staging_generation", .num st.stagingGeneration),
     ("active", mapJson slotJson st.active), ("staging", mapJson slotJson st.staging),
     ("journal", mapJson journalStoredJson st.journal)]

/-! ### The reader -/

/-- The bytes before the first pair of characters that is not a pair of digits. -/
def hexPrefix : Bytes → Bytes
  | hi :: lo :: rest =>
    match nib hi, nib lo with
    | some h, some l => UInt8.ofNat (h * 16 + l) :: hexPrefix rest
    | _, _ => []
  | _ => []

/-- What `from_hex` leaves in an empty vector, for a caller that does not look at its result. -/
def fromHex (hex : String) : Bytes :=
  (hexToBytes hex).getD (if hex.utf8ByteSize % 2 = 0 then hexPrefix (textBytes hex) else [])

/-- `slot_from_json`; `none` is an exception. -/
def slotFromJson (j : TboxSec.Json String) : Option Slot := do
  let present ← boolField "present" j
  let version ← uint64Field "version" j
  let keyIdDigest ← textField "key_id_digest" j
  let algorithm ← textField "algorithm" j
  let validFromMs ← int64Field "valid_from_ms" j
  let validToMs ← int64Field "valid_to_ms" j
  let generation ← uint64Field "generation" j
  let keyEncHex ← textField "key_enc" j
  some
    { present, version, keyIdDigest, algorithm, validFromMs, validToMs, generation, keyEncHex }

/-- The item part of `journal_entry_from_json`; `none` is an exception. -/
def journalItemFromJson (j : TboxSec.Json String) : Option BusinessKeyStatus := do
  let businessDomain ← textField "business_domain" j
  let purpose ← textField "purpose" j
  let businessKeyVersion ← uint64Field "business_key_version" j
  let state ← j.value "state" TboxSec.Json.text "UNKNOWN"
  let keyId ← textField "key_id" j
  let keyIdDigest ← textField "key_id_digest" j
  let algorithm ← textField "algorithm" j
  let validFromMs ← int64Field "valid_from_ms" j
  let validToMs ← int64Field "valid_to_ms" j
  let envelopeFormat ← j.value "envelope_format" TboxSec.Json.text "UNSPECIFIED"
  let envelopeDigest ← textField "envelope_digest" j
  let kcv ← textField "key_check_value" j
  let keyCheckValuePresent ← boolField "key_check_value_present" j
  let importProof ← textField "import_proof" j
  let proofAlgorithm ← textField "proof_algorithm" j
  let recipientCertificateDigest ← textField "recipient_certificate_digest" j
  some
    { businessDomain, purpose, businessKeyVersion, keyId, keyIdDigest, algorithm, validFromMs
      validToMs, keyCheckValuePresent, proofAlgorithm
      state := .ofText state
      envelopeFormat := .ofText envelopeFormat
      envelopeDigest := fromHex envelopeDigest
      -- a check value that is not three bytes of hex stays at its default
      keyCheckValue := ((hexToBytes kcv).bind kcv?).getD {}
      importProof := fromHex importProof
      recipientCertificateDigest := fromHex recipientCertificateDigest }

/-- `journal_entry_from_json`; `none` is an exception. -/
def journalEntryFromJson (j : TboxSec.Json String) : Option BusinessKeyJournalEntry := do
  let requestIdDigest ← textField "request_id_digest" j
  let requestDigest ← textField "request_digest" j
  let phase ← j.value "phase" TboxSec.Json.text "UNKNOWN"
  let generation ← uint64Field "generation" j
  let createdAtMs ← int64Field "created_at_ms" j
  let committedAtMs ← int64Field "committed_at_ms" j
  let providerVersionDigest ← textField "provider_version_digest" j
  let lastError ← textField "last_error" j
  let proofAlgorithm ← textField "proof_algorithm" j
  let importProof ← textField "import_proof" j
  let bindingCertificateDigest ← textField "binding_certificate_digest" j
  let items ← match j.field? "items" with
    | some (.arr l) => l.mapM journalItemFromJson
    | _ => some []
  some
    { requestIdDigest, requestDigest, generation, createdAtMs, committedAtMs
      providerVersionDigest, lastError, proofAlgorithm, items
      phase := .ofText phase
      importProof := fromHex importProof
      bindingCertificateDigest := fromHex bindingCertificateDigest }

/-- One record of the journal, with its MAC; `none` is an exception. -/
def journalStoredFromJson (j : TboxSec.Json String) : Option JournalStored := do
  let entry ← (j.value "entry" some (.obj [])).bind journalEntryFromJson
  let macHex ← textField "mac" j
  some { entry, macHex }

/-- The loop of `load_state` over the bindings of a map. An array is numbered, and a scalar counts
as one binding of the empty key. -/
def mapFromJson {α : Type} (decode : TboxSec.Json String → Option α)
    (j : TboxSec.Json String) : Option (OrdMap String α) :=
  (j.items toString "").foldlM (fun m b => (decode b.2).map (m.insert b.1)) .empty

/-- A map of the document; without its field the map is empty. -/
def mapField {α : Type} (decode : TboxSec.Json String → Option α) (key : String)
    (j : TboxSec.Json String) : Option (OrdMap String α) :=
  match j.field? key with
  | some v => mapFromJson decode v
  | none => some .empty

/-- What `load_state` takes from the document; `none` is an exception. -/
def stateFromJson (j : TboxSec.Json String) : Option StateDoc := do
  let v ← j.value "v" TboxSec.Json.arithmetic supportedStateVersion
  let generation ← uint64Field "generation" j
  let commitMarker ← textField "commit_marker" j
  let stagingGeneration ← uint64Field "staging_generation" j
  let active ← mapField slotFromJson "active" j
  let staging ← mapField slotFromJson "staging" j
  let journal ← mapField journalStoredFromJson "journal" j
  some
    { v := wrapUnsigned32 v
      state := { generation, commitMarker, active, staging, stagingGeneration, journal } }

end TboxSec.Keyprov
