import TboxSec.Ipc.Wire

/-!
# The other messages read back

What `import_codec_round_trip` says of results and requests, for the credentials, the capability
and the trusted time.

* The envelope of the trusted time is read by the one reader that checks what it reads: the
  fields it insists on must be there, and every field that is there must have its type
  (`EnvelopeShape`). `envelope_accepted_iff` says that it accepts nothing else, and
  `envelope_round_trip` that every envelope comes back, whatever a later version adds to it.
* The capability travels with the version of its contract. A client that knows another version
  reports nothing as ready (`capability_fail_closed`).
-/

namespace TboxSec.Ipc

open Json (Reads)
open Keyprov (V2cKeyProvisioningCapability capabilityContractVersion)
open Time (TrustedTimeEnvelope)
open Tls (TlsCredentialBundle TlsCredentialState TlsSignRequest SignatureAlgorithm)

/-! ### What the types of the programs hold -/

/-- A credential as the programs hold it. -/
structure CredentialWellTyped (b : TlsCredentialBundle) : Prop where
  version : b.version < 2 ^ 64
  notBefore : IsInt64 b.notBefore
  notAfter : IsInt64 b.notAfter

/-- An envelope as the programs hold it. -/
structure EnvelopeWellTyped (e : TrustedTimeEnvelope) : Prop where
  contractVersion : e.contractVersion < 2 ^ 32
  secDaemonEpoch : e.secDaemonEpoch < 2 ^ 64
  secTimeEventSequence : e.secTimeEventSequence < 2 ^ 64
  timeDaemonEpoch : e.timeDaemonEpoch < 2 ^ 64
  timeEventSequence : e.timeEventSequence < 2 ^ 64
  sourceEpoch : e.sourceEpoch < 2 ^ 64
  utcEpochMs : IsInt64 e.utcEpochMs
  freshnessAgeMs : IsInt64 e.freshnessAgeMs
  uncertaintyMs : IsInt64 e.uncertaintyMs
  remainingValidityMs : IsInt64 e.remainingValidityMs
  driftBoundPpm : IsInt64 e.driftBoundPpm
  alignmentErrorMs : IsInt64 e.alignmentErrorMs

/-- One reader after another, when the second succeeds or fails whatever the first has read. -/
private theorem isSome_bind_and {α β : Type} {o : Option α} {f : α → Option β} {p q : Prop}
    (ho : o.isSome = true ↔ p) (hf : ∀ a, (f a).isSome = true ↔ q) :
    (o.bind f).isSome = true ↔ p ∧ q := by
  cases o with
  | none => exact iff_of_false Bool.false_ne_true fun h => Bool.false_ne_true (ho.mpr h.1)
  | some a => exact (hf a).trans ⟨fun hq => ⟨ho.mp rfl, hq⟩, And.right⟩

/-! ### TLS credentials -/

section Tls

variable {B : Base64Functions}

/-- **A credential reads back.** -/
theorem tlsCredentialFromJson_toJson (hB : B.Lawful) {b : TlsCredentialBundle}
    (hb : CredentialWellTyped b) :
    tlsCredentialFromJson B (tlsCredentialToJson B b) = some b := by
  generalize hdoc : tlsCredentialToJson B b = j
  have hid : textField "credential_id" j = some b.credentialId :=
    textField_of_field (by simp [← hdoc, tlsCredentialToJson])
  have hversion : uint64Field "version" j = some b.version :=
    uint64Field_of_field hb.version (by simp [← hdoc, tlsCredentialToJson])
  have hroot : textField "root_ca_bundle" j = some (B.encode b.rootCaBundleDer) :=
    textField_of_field (by simp [← hdoc, tlsCredentialToJson])
  have hchain : textField "client_cert_chain" j = some (B.encode b.clientCertChainDer) :=
    textField_of_field (by simp [← hdoc, tlsCredentialToJson])
  have href : textField "private_key_ref" j = some (B.encode b.privateKeyRef) :=
    textField_of_field (by simp [← hdoc, tlsCredentialToJson])
  have halgorithm : textField "key_algorithm" j = some (keyAlgorithmToString b.keyAlgorithm) :=
    textField_of_field (by simp [← hdoc, tlsCredentialToJson])
  have hbefore : int64Field "not_before" j = some b.notBefore :=
    int64Field_of_field hb.notBefore (by simp [← hdoc, tlsCredentialToJson])
  have hafter : int64Field "not_after" j = some b.notAfter :=
    int64Field_of_field hb.notAfter (by simp [← hdoc, tlsCredentialToJson])
  have hstatus : j.value "credential_status" Json.text "NOT_READY" =
      some (tlsCredentialStatusToString b.status) :=
    Json.value_of_field (v := .str (tlsCredentialStatusToString b.status))
      (by simp [← hdoc, tlsCredentialToJson]) rfl
  simp only [tlsCredentialFromJson, hid, hversion, hroot, hchain, href, halgorithm, hbefore,
    hafter, hstatus, hB.decode_encode, Option.bind_eq_bind, Option.bind_some,
    stringToKeyAlgorithm_toString, stringToTlsCredentialStatus_toString]

/-- A code is read as the number that was written. -/
theorem toInt_errorCodeValue (R : JsonReader) (rc : ErrorCode) :
    R.toInt (.int (errorCodeValue rc)) = some (errorCodeValue rc : ℤ) := by
  have hlt := errorCodeValue_lt rc
  rw [toInt_int, Int.bmod_def, if_pos (by omega)]
  exact congrArg some (by omega)

/-- **The state of a credential reads back.** -/
theorem tlsCredentialStateFromJson_toJson (R : JsonReader) {s : TlsCredentialState}
    (hs : s.version < 2 ^ 64) :
    tlsCredentialStateFromJson R (tlsCredentialStateToJson s) = some (reportOf s) := by
  generalize hdoc : tlsCredentialStateToJson s = j
  have hid : textField "credential_id" j = some s.credentialId :=
    textField_of_field (by simp [← hdoc, tlsCredentialStateToJson])
  have hversion : uint64Field "version" j = some s.version :=
    uint64Field_of_field hs (by simp [← hdoc, tlsCredentialStateToJson])
  have hstatus : j.value "credential_status" Json.text "NOT_READY" =
      some (tlsCredentialStatusToString s.status) :=
    Json.value_of_field (v := .str (tlsCredentialStatusToString s.status))
      (by simp [← hdoc, tlsCredentialStateToJson]) rfl
  have hreason : j.value "reason_code" R.toInt 0 = some (errorCodeValue s.reasonCode : ℤ) :=
    Json.value_of_field (v := .int (errorCodeValue s.reasonCode))
      (by simp [← hdoc, tlsCredentialStateToJson]) (toInt_errorCodeValue R s.reasonCode)
  simp only [tlsCredentialStateFromJson, hid, hversion, hstatus, hreason, Option.bind_eq_bind,
    Option.bind_some, stringToTlsCredentialStatus_toString, reportOf]

/-- What the daemon takes from a request for a signature. -/
def signRequestFromJson (B : Base64Functions) (j : Json String) : Option TlsSignRequest := do
  let privateKeyRef ← j.value "private_key_ref" Json.text ""
  let algorithm ← j.value "algorithm" Json.text ""
  let digest ← j.value "digest" Json.text ""
  let _context ← j.value "context" Json.text ""
  let _requestId ← j.value "request_id" Json.text ""
  some
    { privateKeyRef := B.decode privateKeyRef
      algorithm := .ofText algorithm
      digest := B.decode digest }

theorem signRequest_eq (L : Tls.Library) (params : Bytes) :
    Tls.Component.signRequest L B.decode params =
      (L.parse params).bind (signRequestFromJson B) := rfl

theorem reads_signRequest (B : Base64Functions) :
    Reads ["private_key_ref", "algorithm", "digest", "context", "request_id"]
      (signRequestFromJson B) := by
  intro k j j' hk h
  simp only [List.mem_cons, List.not_mem_nil, or_false, not_or] at hk
  simp only [signRequestFromJson, hk, not_false_eq_true, defaultText_congr h]

/-- **A request for a signature reads back**; its context and its name do not count. -/
theorem signRequestFromJson_signTlsToJson (hB : B.Lawful) (request : TlsSignRequest)
    (context : Bytes) (requestId : String) :
    signRequestFromJson B (signTlsToJson B request context requestId) = some request := by
  generalize hdoc : signTlsToJson B request context requestId = j
  have hj : j.isObject = true := by simp [← hdoc, signTlsToJson]
  have href : j.value "private_key_ref" Json.text "" = some (B.encode request.privateKeyRef) :=
    Json.value_of_field (v := .str _) (by simp [← hdoc, signTlsToJson]) rfl
  have halgorithm : j.value "algorithm" Json.text "" =
      some (signatureAlgorithmToString request.algorithm) :=
    Json.value_of_field (v := .str _) (by simp [← hdoc, signTlsToJson]) rfl
  have hdigest : j.value "digest" Json.text "" = some (B.encode request.digest) :=
    Json.value_of_field (v := .str _) (by simp [← hdoc, signTlsToJson]) rfl
  obtain ⟨contextText, hcontext, -⟩ :
      ∃ text, textField "context" j = some text ∧
        B.decode text = if context ≠ [] then context else [] :=
    decode_textField_of_ite hB hj (by simp [← hdoc, signTlsToJson])
  have hid : textField "request_id" j = some requestId :=
    textField_of_field (by simp [← hdoc, signTlsToJson])
  rw [textField] at hcontext hid
  simp only [signRequestFromJson, href, halgorithm, hdigest, hcontext, hid, hB.decode_encode,
    Option.bind_eq_bind, Option.bind_some, signatureAlgorithm_ofText_toString]

end Tls

/-! ### The capability -/

/-- Every flag is written under its key. -/
private theorem boolField_capabilityToJson (c : V2cKeyProvisioningCapability) :
    ∀ flag ∈ capabilityFlags c, boolField flag.1 (capabilityToJson c) = some flag.2 := by
  intro flag hflag
  refine boolField_of_field ?_
  simp only [capabilityFlags, List.mem_cons, List.not_mem_nil, or_false] at hflag
  rcases hflag with rfl | rfl | rfl | rfl | rfl | rfl | rfl | rfl | rfl | rfl | rfl | rfl |
    rfl | rfl | rfl | rfl | rfl | rfl | rfl | rfl | rfl | rfl | rfl | rfl <;>
    simp [capabilityToJson, capabilityFlags]

/-- **The capability reads back**, but for the flag that the client does not read. -/
theorem capabilityFromJson_toJson (c : V2cKeyProvisioningCapability) :
    capabilityFromJson (capabilityToJson c) =
      some { c with businessKeyImportResultNotFoundV1 := false } := by
  have hflags := boolField_capabilityToJson c
  simp only [capabilityFlags, List.forall_mem_cons] at hflags
  simp only [capabilityFromJson, hflags, Option.bind_eq_bind, Option.bind_some]

/-- A flag is up when it is written as true, and in no other way. -/
private theorem boolField_eq_true_iff {key : String} {j : Json String} :
    boolField key j = some true ↔ j.field? key = some (.bool true) := by
  constructor
  · intro h
    rw [boolField, Json.value] at h
    split_ifs at h
    cases hfield : j.field? key with
    | none => simp [hfield] at h
    | some v =>
      rw [hfield] at h
      cases v with
      | bool b => exact congrArg (some ∘ Json.bool) (Option.some.inj h)
      | _ => cases h
  · exact boolField_of_field

/-- The capability is read when each flag is. -/
private theorem isSome_capabilityFromJson {j : Json String} :
    (capabilityFromJson j).isSome = true ↔
      ∀ key ∈ capabilityKeys, (boolField key j).isSome = true := by
  unfold capabilityFromJson
  simp only [capabilityKeys, List.forall_mem_cons, List.not_mem_nil, false_imp_iff, implies_true]
  repeat refine isSome_bind_and Iff.rfl fun _ => ?_
  exact iff_of_true rfl trivial

/-- What is read as ready is written as ready, flag by flag. -/
private theorem capabilityFromJson_all_iff {j : Json String} :
    (∃ c, capabilityFromJson j = some c ∧ c.all = true) ↔
      ∀ key ∈ capabilityKeys, j.field? key = some (.bool true) := by
  simp only [← boolField_eq_true_iff]
  by_cases hsome : ∀ key ∈ capabilityKeys, (boolField key j).isSome = true
  · simp only [capabilityKeys, List.forall_mem_cons, Option.isSome_iff_exists] at hsome
    obtain ⟨⟨_, h1⟩, ⟨_, h2⟩, ⟨_, h3⟩, ⟨_, h4⟩, ⟨_, h5⟩, ⟨_, h6⟩, ⟨_, h7⟩, ⟨_, h8⟩, ⟨_, h9⟩,
      ⟨_, h10⟩, ⟨_, h11⟩, ⟨_, h12⟩, ⟨_, h13⟩, ⟨_, h14⟩, ⟨_, h15⟩, ⟨_, h16⟩, ⟨_, h17⟩, ⟨_, h18⟩,
      ⟨_, h19⟩, ⟨_, h20⟩, ⟨_, h21⟩, ⟨_, h22⟩, ⟨_, h23⟩, -⟩ := hsome
    simp only [capabilityFromJson, capabilityKeys, List.forall_mem_cons, h1, h2, h3, h4, h5, h6,
      h7, h8, h9, h10, h11, h12, h13, h14, h15, h16, h17, h18, h19, h20, h21, h22, h23,
      Option.bind_eq_bind, Option.bind_some, Option.some.injEq, exists_eq_left',
      V2cKeyProvisioningCapability.all, Bool.and_eq_true, and_assoc, List.not_mem_nil,
      false_imp_iff, implies_true, and_true]
  · refine iff_of_false ?_ fun h => hsome fun key hkey => ?_
    · rintro ⟨c, hread, -⟩
      refine hsome (isSome_capabilityFromJson.mp ?_)
      rw [hread, Option.isSome_some]
    · rw [h key hkey, Option.isSome_some]

/-- **The capability fails closed.** Whatever is sent back: the client sees a daemon that is
ready exactly when the exchange succeeds, the status is read as success, the version of the
contract is the one it knows, and each of the twenty-three flags is written as true. -/
theorem capability_fail_closed (R : JsonReader) (T : Transport) :
    (∃ version c, (SecClient.getV2cKeyProvisioningCapability R T).2 = some (version, c) ∧
        c.all = true) ↔
      ∃ response j,
        T.exchange .getV2cKeyProvisioningCapability (.obj []) = (0, response) ∧
        R.bizStatus response = 0 ∧ R.parse response = some j ∧
        uint32Field "capability_contract_version" j = some capabilityContractVersion ∧
        ∀ key ∈ capabilityKeys, j.field? key = some (.bool true) := by
  have hnone : ∀ version : ℕ, ¬∃ version' c,
      some (version, ({} : V2cKeyProvisioningCapability)) = some (version', c) ∧
        c.all = true := by
    rintro version ⟨version', c, heq, hall⟩
    obtain ⟨-, rfl⟩ := Prod.mk.inj (Option.some.inj heq)
    cases hall
  rcases hexchange : T.exchange .getV2cKeyProvisioningCapability (.obj []) with ⟨fw, response⟩
  unfold SecClient.getV2cKeyProvisioningCapability sendRequest
  rw [hexchange]
  dsimp only
  by_cases hfw : fw = 0
  · subst hfw
    rw [if_neg (lt_irrefl 0), if_neg (lt_irrefl 0)]
    dsimp only
    by_cases hstatus : R.bizStatus response = 0
    · rw [if_pos hstatus]
      cases hparse : R.parse response with
      | none =>
        refine iff_of_false (by simp) ?_
        rintro ⟨response', j, hresponse, -, hj, -⟩
        obtain rfl := (Prod.mk.inj hresponse).2
        rw [hparse] at hj
        cases hj
      | some j =>
        rw [Option.bind_some]
        constructor
        · rintro ⟨version, c, hread, hall⟩
          cases hversion : uint32Field "capability_contract_version" j with
          | none => simp [hversion] at hread
          | some n =>
            simp only [hversion, Option.map_some] at hread
            by_cases hn : n = capabilityContractVersion
            · rw [if_neg (not_not.mpr hn)] at hread
              cases hcap : capabilityFromJson j with
              | none => simp [hcap] at hread
              | some c' =>
                simp only [hcap] at hread
                obtain ⟨-, rfl⟩ := Prod.mk.inj (Option.some.inj hread)
                exact ⟨response, j, rfl, hstatus, hparse, hversion.trans (congrArg some hn),
                  capabilityFromJson_all_iff.mp ⟨c', hcap, hall⟩⟩
            · rw [if_pos hn] at hread
              exact absurd ⟨version, c, hread, hall⟩ (hnone n)
        · rintro ⟨response', j', hresponse, -, hj, hversion, hflags⟩
          obtain rfl := (Prod.mk.inj hresponse).2
          obtain rfl := Option.some.inj (hparse.symm.trans hj)
          obtain ⟨c, hcap, hall⟩ := capabilityFromJson_all_iff.mpr hflags
          refine ⟨capabilityContractVersion, c, ?_, hall⟩
          simp only [hversion, Option.map_some, hcap, ne_eq, not_true_eq_false, if_false]
    · rw [if_neg hstatus]
      refine iff_of_false (hnone _) ?_
      rintro ⟨response', j, hresponse, hzero, -⟩
      obtain rfl := (Prod.mk.inj hresponse).2
      exact hstatus hzero
  · refine iff_of_false ?_ ?_
    · rcases lt_or_gt_of_ne hfw with hneg | hpos
      · simp [hneg]
      · simp [not_lt_of_gt hpos, hpos]
    · rintro ⟨response', j, hresponse, -⟩
      exact hfw (Prod.mk.inj hresponse).1

/-! ### Trusted time -/

section Envelope

/-- **An envelope reads back.** -/
theorem trustedTimeEnvelopeFromJson_toJson {e : TrustedTimeEnvelope} (he : EnvelopeWellTyped e) :
    trustedTimeEnvelopeFromJson (trustedTimeEnvelopeToJson e) = some e := by
  generalize hdoc : trustedTimeEnvelopeToJson e = j
  have hj : j.isObject = true := by simp [← hdoc, trustedTimeEnvelopeToJson]
  have hrequired : (requiredEnvelopeKeys.all fun key => j.contains key) = true := by
    simp [← hdoc, trustedTimeEnvelopeToJson, requiredEnvelopeKeys, Json.contains]
  have hcontract : uint32Field "contract_version" j = some e.contractVersion :=
    uint32Field_of_field he.contractVersion (by simp [← hdoc, trustedTimeEnvelopeToJson])
  have hcapabilities : textField "capabilities" j = some e.capabilities :=
    textField_of_field (by simp [← hdoc, trustedTimeEnvelopeToJson])
  have hcomplete : boolField "contract_complete" j = some e.contractComplete :=
    boolField_of_field (by simp [← hdoc, trustedTimeEnvelopeToJson])
  have hsecEpoch : uint64Field "sec_daemon_epoch" j = some e.secDaemonEpoch :=
    uint64Field_of_field he.secDaemonEpoch (by simp [← hdoc, trustedTimeEnvelopeToJson])
  have hsecSequence : uint64Field "sec_time_event_sequence" j = some e.secTimeEventSequence :=
    uint64Field_of_field he.secTimeEventSequence (by simp [← hdoc, trustedTimeEnvelopeToJson])
  have htimeEpoch : uint64Field "time_daemon_epoch" j = some e.timeDaemonEpoch :=
    uint64Field_of_field he.timeDaemonEpoch (by simp [← hdoc, trustedTimeEnvelopeToJson])
  have htimeSequence : uint64Field "time_event_sequence" j = some e.timeEventSequence :=
    uint64Field_of_field he.timeEventSequence (by simp [← hdoc, trustedTimeEnvelopeToJson])
  have hsourceId : textField "source_id" j = some e.sourceId :=
    textField_of_field (by simp [← hdoc, trustedTimeEnvelopeToJson])
  have hsourceKind : textField "source_kind" j = some e.sourceKind :=
    textField_of_field (by simp [← hdoc, trustedTimeEnvelopeToJson])
  have hsourceEpoch : uint64Field "source_epoch" j = some e.sourceEpoch :=
    uint64Field_of_field he.sourceEpoch (by simp [← hdoc, trustedTimeEnvelopeToJson])
  have hpolicy : textField "policy_version" j = some e.policyVersion :=
    textField_of_field (by simp [← hdoc, trustedTimeEnvelopeToJson])
  have htrust : textField "trust_state" j = some e.trustState :=
    textField_of_field (by simp [← hdoc, trustedTimeEnvelopeToJson])
  have hsource : textField "source" j = some e.source :=
    textField_of_field (by simp [← hdoc, trustedTimeEnvelopeToJson])
  have hreason : textField "reason" j = some e.reason :=
    textField_of_field (by simp [← hdoc, trustedTimeEnvelopeToJson])
  have hutcValid : boolField "utc_valid" j = some e.utcValid :=
    boolField_of_field (by simp [← hdoc, trustedTimeEnvelopeToJson])
  have hutc : int64Field "utc_epoch_ms" j = some e.utcEpochMs :=
    int64Field_of_field he.utcEpochMs (by simp [← hdoc, trustedTimeEnvelopeToJson])
  have hage : int64Field "freshness_age_ms" j = some e.freshnessAgeMs :=
    int64Field_of_field he.freshnessAgeMs (by simp [← hdoc, trustedTimeEnvelopeToJson])
  have huncertain : boolField "uncertainty_valid" j = some e.uncertaintyValid :=
    boolField_of_field (by simp [← hdoc, trustedTimeEnvelopeToJson])
  have huncertainty : int64Field "uncertainty_ms" j = some e.uncertaintyMs :=
    int64Field_of_field he.uncertaintyMs (by simp [← hdoc, trustedTimeEnvelopeToJson])
  have hremaining : int64Field "remaining_validity_ms" j = some e.remainingValidityMs :=
    int64Field_of_field he.remainingValidityMs (by simp [← hdoc, trustedTimeEnvelopeToJson])
  have hdrift : int64Field "drift_bound_ppm" j = some e.driftBoundPpm :=
    int64Field_of_field he.driftBoundPpm (by simp [← hdoc, trustedTimeEnvelopeToJson])
  have haligned : boolField "system_clock_aligned" j = some e.systemClockAligned :=
    boolField_of_field (by simp [← hdoc, trustedTimeEnvelopeToJson])
  have halignment : int64Field "alignment_error_ms" j = some e.alignmentErrorMs :=
    int64Field_of_field he.alignmentErrorMs (by simp [← hdoc, trustedTimeEnvelopeToJson])
  have hauth : textField "auth_status" j = some e.authStatus :=
    textField_of_field (by simp [← hdoc, trustedTimeEnvelopeToJson])
  have hevidence : textField "evidence_ref" j = some e.evidenceRef :=
    textField_of_field (by simp [← hdoc, trustedTimeEnvelopeToJson])
  have hvalid : boolField "valid" j = some e.valid :=
    boolField_of_field (by simp [← hdoc, trustedTimeEnvelopeToJson])
  have herror : textField "error_class" j = some e.errorClass :=
    textField_of_field (by simp [← hdoc, trustedTimeEnvelopeToJson])
  simp only [trustedTimeEnvelopeFromJson, hj, hrequired, Bool.not_true, Bool.false_eq_true,
    if_false, hcontract, hcapabilities, hcomplete, hsecEpoch, hsecSequence, htimeEpoch,
    htimeSequence, hsourceId, hsourceKind, hsourceEpoch, hpolicy, htrust, hsource, hreason,
    hutcValid, hutc, hage, huncertain, huncertainty, hremaining, hdrift, haligned, halignment,
    hauth, hevidence, hvalid, herror, Option.bind_eq_bind, Option.bind_some]

/-- The types of the fields. -/
inductive FieldKind where
  | text | flag | number

/-- A value has the type. A truth value counts as a number. -/
def FieldKind.Fits : FieldKind → Json String → Prop
  | .text, v => v.text.isSome = true
  | .flag, v => v.truth.isSome = true
  | .number, v => v.arithmetic.isSome = true

/-- The fields of an envelope with their types. -/
def envelopeFields : List (String × FieldKind) :=
  [("contract_version", .number), ("capabilities", .text), ("contract_complete", .flag),
   ("sec_daemon_epoch", .number), ("sec_time_event_sequence", .number),
   ("time_daemon_epoch", .number), ("time_event_sequence", .number), ("source_id", .text),
   ("source_kind", .text), ("source_epoch", .number), ("policy_version", .text),
   ("trust_state", .text), ("source", .text), ("reason", .text), ("utc_valid", .flag),
   ("utc_epoch_ms", .number), ("freshness_age_ms", .number), ("uncertainty_valid", .flag),
   ("uncertainty_ms", .number), ("remaining_validity_ms", .number), ("drift_bound_ppm", .number),
   ("system_clock_aligned", .flag), ("alignment_error_ms", .number), ("auth_status", .text),
   ("evidence_ref", .text), ("valid", .flag), ("error_class", .text)]

/-- The documents that are envelopes. -/
structure EnvelopeShape (j : Json String) : Prop where
  isObject : j.isObject = true
  required : ∀ key ∈ requiredEnvelopeKeys, j.contains key = true
  typed : ∀ field ∈ envelopeFields, ∀ v, j.field? field.1 = some v → field.2.Fits v

variable {j : Json String}

/-- A field with a default is read unless it is there and has another type. -/
private theorem isSome_value {α : Type} {key : String} {get : Json String → Option α} {default : α}
    (hj : j.isObject = true) :
    (j.value key get default).isSome = true ↔
      ∀ v, j.field? key = some v → (get v).isSome = true := by
  rw [Json.value_of_isObject hj]
  cases j.field? key with
  | none => simp
  | some v => simp

private theorem isSome_textField (hj : j.isObject = true) {key : String} :
    (textField key j).isSome = true ↔
      ∀ v, j.field? key = some v → FieldKind.text.Fits v :=
  isSome_value hj

private theorem isSome_boolField (hj : j.isObject = true) {key : String} :
    (boolField key j).isSome = true ↔
      ∀ v, j.field? key = some v → FieldKind.flag.Fits v :=
  isSome_value hj

private theorem isSome_uint32Field (hj : j.isObject = true) {key : String} :
    (uint32Field key j).isSome = true ↔
      ∀ v, j.field? key = some v → FieldKind.number.Fits v := by
  rw [uint32Field, Option.isSome_map]
  exact isSome_value hj

private theorem isSome_uint64Field (hj : j.isObject = true) {key : String} :
    (uint64Field key j).isSome = true ↔
      ∀ v, j.field? key = some v → FieldKind.number.Fits v := by
  rw [uint64Field, Option.isSome_map]
  exact isSome_value hj

private theorem isSome_int64Field (hj : j.isObject = true) {key : String} :
    (int64Field key j).isSome = true ↔
      ∀ v, j.field? key = some v → FieldKind.number.Fits v := by
  rw [int64Field, Option.isSome_map]
  exact isSome_value hj

/-- The reader succeeds when each field has its type. -/
private theorem isSome_trustedTimeEnvelopeFromJson (hj : j.isObject = true)
    (hrequired : ∀ key ∈ requiredEnvelopeKeys, j.contains key = true) :
    (trustedTimeEnvelopeFromJson j).isSome = true ↔
      ∀ field ∈ envelopeFields, ∀ v, j.field? field.1 = some v → field.2.Fits v := by
  have hall : (requiredEnvelopeKeys.all fun key => j.contains key) = true :=
    List.all_eq_true.mpr hrequired
  unfold trustedTimeEnvelopeFromJson
  rw [hj, hall, Bool.not_true, if_neg Bool.false_ne_true, if_neg Bool.false_ne_true]
  simp only [envelopeFields, List.forall_mem_cons, List.not_mem_nil, false_imp_iff, implies_true]
  -- one field after another, in the order in which both sides list them
  repeat
    refine isSome_bind_and ?_ fun _ => ?_
    · first
        | exact isSome_textField hj
        | exact isSome_boolField hj
        | exact isSome_uint64Field hj
        | exact isSome_int64Field hj
        | exact isSome_uint32Field hj
  exact iff_of_true rfl trivial

end Envelope

/-- **The envelope as a format.** Every envelope is read as it was written, in whatever order its
fields come and whatever fields of other names stand beside them; and the documents that are read
at all are the objects with the four required fields in which every field of the envelope, if it
is there, has its type. -/
theorem envelope_codec :
    (∀ e, EnvelopeWellTyped e → ∀ extra : List (String × Json String),
      (∀ kv ∈ extra, kv.1 ∉ envelopeKeys) →
        ∀ j, (extra.foldl (fun j kv => j.assign kv.1 kv.2) (trustedTimeEnvelopeToJson e)).Same j →
          trustedTimeEnvelopeFromJson j = some e) ∧
      ∀ j, (trustedTimeEnvelopeFromJson j).isSome = true ↔ EnvelopeShape j := by
  constructor
  · intro e he extra hextra j hj
    rw [← reads_envelope.orderBlind hj]
    have hdoc : (trustedTimeEnvelopeToJson e).isObject = true := by
      simp [trustedTimeEnvelopeToJson]
    have hread := trustedTimeEnvelopeFromJson_toJson he
    clear hj
    revert hdoc hread
    generalize trustedTimeEnvelopeToJson e = doc
    intro hdoc hread
    -- each further field keeps the document an object and is not looked at
    induction extra generalizing doc with
    | nil => exact hread
    | cons kv extra ih =>
      refine ih (fun kv' hkv' => hextra kv' (List.mem_cons_of_mem kv hkv')) (doc.assign kv.1 kv.2)
        Json.isObject_assign ?_
      rw [reads_envelope.assign hdoc (hextra kv List.mem_cons_self)]
      exact hread
  · intro j
    constructor
    · intro h
      by_cases hobj : j.isObject = true
      · by_cases hrequired : ∀ key ∈ requiredEnvelopeKeys, j.contains key = true
        · exact ⟨hobj, hrequired, (isSome_trustedTimeEnvelopeFromJson hobj hrequired).mp h⟩
        · have hall : (requiredEnvelopeKeys.all fun key => j.contains key) = false := by
            rw [← Bool.not_eq_true, List.all_eq_true]
            exact hrequired
          simp [trustedTimeEnvelopeFromJson, hall] at h
      · simp [trustedTimeEnvelopeFromJson, hobj] at h
    · rintro ⟨hobj, hrequired, htyped⟩
      exact (isSome_trustedTimeEnvelopeFromJson hobj hrequired).mpr htyped

/-- An envelope of a verified source, with numbers at both ends of their types. -/
def sampleEnvelope : TrustedTimeEnvelope where
  contractVersion := 1
  capabilities := "snapshot,v1"
  contractComplete := true
  secDaemonEpoch := 2 ^ 64 - 1
  secTimeEventSequence := 7
  timeDaemonEpoch := 3
  timeEventSequence := 12
  sourceId := "ntp-verified-1"
  sourceKind := "ntp"
  sourceEpoch := 2
  policyVersion := "1"
  trustState := "trusted"
  source := "platform_sync"
  reason := "platform_synced"
  utcValid := true
  utcEpochMs := 1700000000000
  freshnessAgeMs := 40
  uncertaintyValid := true
  uncertaintyMs := 55
  remainingValidityMs := 29960
  driftBoundPpm := 100
  systemClockAligned := true
  alignmentErrorMs := -2 ^ 63
  authStatus := "verified"
  evidenceRef := "ev:1"
  valid := true
  errorClass := ""

/-- Two further fields, and every field in the reverse order. -/
theorem envelope_codec_reversed :
    ∃ fields, ((trustedTimeEnvelopeToJson sampleEnvelope).assign "leap_seconds" (.int 27)).assign
        "server" (.str "ntp.example") = .obj fields ∧
      fields.length = 29 ∧
      trustedTimeEnvelopeFromJson (.obj fields.reverse) = some sampleEnvelope := by
  refine ⟨_, rfl, rfl, envelope_codec.1 sampleEnvelope ?_
    [("leap_seconds", .int 27), ("server", .str "ntp.example")] ?_ _
    (.of_perm (List.reverse_perm _).symm ?_)⟩
  · constructor <;> decide
  · intro kv hkv
    rcases List.mem_pair.mp hkv with rfl | rfl
    · decide
    · decide
  · decide

end TboxSec.Ipc
