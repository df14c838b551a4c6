import TboxSec.Ipc.MessageRoundTrip

/-!
# One exchange

The client prints its parameters, the dispatcher parses them, and the response comes back the same
way. `Site.Lawful` is what the libraries are relied on for: a document that is printed is parsed
into the same document up to the order of its fields, an empty text is none, and base64 decodes
what it has encoded.

* A reader of the daemon takes from the text of a request what it takes from the request
  (`read_request`).
* A reader of the client takes from the text of a response what it takes from the payload, and the
  status is the one the dispatcher has added (`Answered`).

* The lemmas `printable_…` say of each message that a library prints it without loss.
* `Answered.read` and `Answered.status_success` are the two ways in which a client looks at a
  response.
-/

namespace TboxSec.Ipc

open Json (Printable Reads OrderBlind)
open Keyprov
open Time (TrustedTimeEnvelope)
open Tls (TlsCredentialBundle TlsCredentialState TlsSignRequest)

/-! ### Printable messages -/

section Printable

variable (B : Base64Functions)

theorem printable_businessKeyStatus {s : BusinessKeyStatus} (hs : StatusWellTyped s) :
    (businessKeyStatusToJson B s).Printable :=
  Printable.null
    |>.assign (.str _)
    |>.assign (.str _)
    |>.assign (.int_of_nat hs.version)
    |>.assign (.str _)
    |>.assign (.str _)
    |>.assign (.str _)
    |>.assign (.str _)
    |>.assign (.int_of_isInt64 hs.validFrom)
    |>.assign (.int_of_isInt64 hs.validTo)
    |>.assign (.str _)
    |>.assignIf (fun _ => .str _)
    |>.assignIf (fun _ => .str _)
    |>.assignIf (fun _ => .str _)
    |>.assignIf (fun _ => .str _)
    |>.assignIf (fun _ => .str _)

theorem printable_importResult {r : ImportResult} (hr : ResultWellTyped r) :
    (importResultToJson B r).Printable :=
  Printable.null
    |>.assign (.str _)
    |>.assign (.str _)
    |>.assign (.str _)
    |>.assign (.int_of_nat (r.state.toCode_lt.trans (by decide)))
    |>.assign (.arr_map fun s hs => printable_businessKeyStatus B (hr.items s hs))
    |>.assign (.int_of_isInt64 hr.committedAt)
    |>.assign (.str _)
    |>.assignIf (fun _ => .str _)
    |>.assign (.str _)
    |>.assignIf (fun _ => .str _)

theorem printable_importResultKl1 {r : ImportResult} {a : KeyprovResultAttachment}
    (hr : ResultWellTyped r) (ha : AttachmentWellTyped a) :
    (importResultKl1ToJson B r a).Printable :=
  printable_importResult B hr
    |>.assign (.int_of_nat ha.epoch)
    |>.assign (.int_of_nat (ha.resultContract.trans (by decide)))
    |>.assign (.int_of_nat (ha.querySemantics.trans (by decide)))
    |>.assign (.bool _)
    |>.assign (.int_of_isInt64 ha.queriedAt)
    |>.assignIf (fun _ => .str _)

/-- A snapshot as the programs hold it. -/
structure SnapshotWellTyped (s : KeyprovContractSnapshot) : Prop where
  resultContract : s.resultContractVersion < 2 ^ 32
  querySemantics : s.querySemanticsVersion < 2 ^ 32
  epoch : s.capabilityEpoch < 2 ^ 64
  profile : s.kl1ProfileVersion < 2 ^ 32

theorem printable_snapshot {s : KeyprovContractSnapshot} (hs : SnapshotWellTyped s) :
    (snapshotToJson s).Printable :=
  Printable.null
    |>.assign (.int_of_nat (hs.resultContract.trans (by decide)))
    |>.assign (.int_of_nat (hs.querySemantics.trans (by decide)))
    |>.assign (.int_of_nat hs.epoch)
    |>.assign (.bool _)
    |>.assign (.bool _)
    |>.assign (.bool _)
    |>.assign (.int_of_nat (hs.profile.trans (by decide)))
    |>.assign (.str _)
    |>.assign (.str _)

private theorem printable_wrappedKeyItem {item : WrappedKeyItem} (hi : ItemWellTyped item) :
    (wrappedKeyItemToJson B item).Printable :=
  Printable.null
    |>.assign (.str _)
    |>.assign (.str _)
    |>.assign (.int_of_nat hi.version)
    |>.assign (.str _)
    |>.assign (.str _)
    |>.assign (.str _)
    |>.assign (.int_of_isInt64 hi.validFrom)
    |>.assign (.int_of_isInt64 hi.validTo)
    |>.assign (.str _)
    |>.assign (.str _)
    |>.assignIf (fun _ => .str _)
    |>.assignIf (fun _ => .str _)

theorem printable_importRequest (requestId domain : String) {items : List WrappedKeyItem}
    (hitems : ∀ item ∈ items, ItemWellTyped item) :
    (importWrappedBusinessKeys B requestId domain items).Printable :=
  Printable.null
    |>.assign (.str _)
    |>.assign (.str _)
    |>.assign (.arr_map fun item hi => printable_wrappedKeyItem B (hitems item hi))

theorem printable_importRequestKl1 {requestId domain : String} {items : List WrappedKeyItem}
    {context : KeyprovImportContext} {j : Json String}
    (hitems : ∀ item ∈ items, ItemWellTyped item) (hcontext : ContextWellTyped context)
    (hsent : importWrappedBusinessKeysKl1 B requestId domain items context = some j) :
    j.Printable := by
  rw [importWrappedBusinessKeysKl1] at hsent
  split_ifs at hsent
  obtain rfl := Option.some.inj hsent
  exact Printable.null
    |>.assign (.str _)
    |>.assign (.str _)
    |>.assign (.int_of_isInt64 hcontext.expireAt)
    |>.assign (.int_of_nat hcontext.epoch)
    |>.assign (.int_of_nat (hcontext.profile.trans (by decide)))
    |>.assign (.arr_map fun item hi => printable_wrappedKeyItem B (hitems item hi))

theorem printable_tlsCredential {b : TlsCredentialBundle} (hb : CredentialWellTyped b) :
    (tlsCredentialToJson B b).Printable :=
  Printable.null
    |>.assign (.str _)
    |>.assign (.int_of_nat hb.version)
    |>.assign (.str _)
    |>.assign (.str _)
    |>.assign (.str _)
    |>.assign (.str _)
    |>.assign (.int_of_isInt64 hb.notBefore)
    |>.assign (.int_of_isInt64 hb.notAfter)
    |>.assign (.str _)

/-- The codes are printable. -/
private theorem printable_errorCode (rc : ErrorCode) :
    (Json.int (errorCodeValue rc) : Json String).Printable :=
  .int_of_nat ((errorCodeValue_lt rc).trans (by decide))

theorem printable_tlsCredentialState {s : TlsCredentialState} (hs : s.version < 2 ^ 64) :
    (tlsCredentialStateToJson s).Printable :=
  Printable.null
    |>.assign (.str _)
    |>.assign (.int_of_nat hs)
    |>.assign (.str _)
    |>.assign (printable_errorCode _)

theorem printable_signTls (request : TlsSignRequest) (context : Bytes) (requestId : String) :
    (signTlsToJson B request context requestId).Printable :=
  Printable.null
    |>.assign (.str _)
    |>.assign (.str _)
    |>.assign (.str _)
    |>.assignIf (fun _ => .str _)
    |>.assign (.str _)

theorem printable_capability (c : V2cKeyProvisioningCapability) :
    (capabilityToJson c).Printable := by
  have hflags : ∀ (flags : List (String × Bool)) (j : Json String), j.Printable →
      (flags.foldl (fun j flag => j.assign flag.1 (.bool flag.2)) j).Printable := by
    intro flags
    induction flags with
    | nil => exact fun j hj => hj
    | cons flag flags ih => exact fun j hj => ih _ (hj.assign (.bool flag.2))
  exact (hflags _ _ (Printable.null.assign (.int_of_nat (by decide)))).assign (.bool _)

theorem printable_envelope {e : TrustedTimeEnvelope} (he : EnvelopeWellTyped e) :
    (trustedTimeEnvelopeToJson e).Printable :=
  Printable.null
    |>.assign (.int_of_nat (he.contractVersion.trans (by decide)))
    |>.assign (.str _)
    |>.assign (.bool _)
    |>.assign (.int_of_nat he.secDaemonEpoch)
    |>.assign (.int_of_nat he.secTimeEventSequence)
    |>.assign (.int_of_nat he.timeDaemonEpoch)
    |>.assign (.int_of_nat he.timeEventSequence)
    |>.assign (.str _)
    |>.assign (.str _)
    |>.assign (.int_of_nat he.sourceEpoch)
    |>.assign (.str _)
    |>.assign (.str _)
    |>.assign (.str _)
    |>.assign (.str _)
    |>.assign (.bool _)
    |>.assign (.int_of_isInt64 he.utcEpochMs)
    |>.assign (.int_of_isInt64 he.freshnessAgeMs)
    |>.assign (.bool _)
    |>.assign (.int_of_isInt64 he.uncertaintyMs)
    |>.assign (.int_of_isInt64 he.remainingValidityMs)
    |>.assign (.int_of_isInt64 he.driftBoundPpm)
    |>.assign (.bool _)
    |>.assign (.int_of_isInt64 he.alignmentErrorMs)
    |>.assign (.str _)
    |>.assign (.str _)
    |>.assign (.bool _)
    |>.assign (.str _)

end Printable

/-! ### The libraries -/

variable {X509 : Type} (P : Site X509)

/-- The JSON library of both programs. -/
def Site.texts : JsonText Bytes := ⟨P.tls.dump, P.tls.parse⟩

/-- The reader of the client. -/
def Site.reader : JsonReader := ⟨P.tls.parse, P.castReal⟩

/-- What the libraries are relied on for. -/
structure Site.Lawful : Prop where
  texts : P.texts.Lawful
  parse_nil : P.tls.parse [] = none
  base64 : P.base64.Lawful

/-- The text of a response. -/
def responseText (r : Response) : Bytes := P.tls.dump (Server.makeJsonResponse r)

variable {P}

/-- **A request arrives.** -/
theorem read_request (hP : P.Lawful) {params : Json String} (hparams : params.Printable)
    {α : Type} {read : Json String → Option α} (hread : OrderBlind read) :
    (P.tls.parse (P.tls.dump params)).bind read = read params := by
  obtain ⟨j, hparse, hsame⟩ := hP.texts params hparams
  have htext : P.tls.parse (P.tls.dump params) = some j := hparse
  rw [htext, Option.bind_some, hread hsame]

/-- The text is the response with this code and payload, as far as readers go. -/
structure Answered (R : JsonReader) (text : Bytes) (rc : ErrorCode) (payload : Json String) :
    Prop where
  nonempty : text ≠ []
  status : R.bizStatus text = errorCodeValue rc
  payload : ∃ j, R.parse text = some j ∧ payload.SameBut "status" j

/-- **A response arrives.** -/
theorem answered_response (hP : P.Lawful) {rc : ErrorCode} {payload : Json String}
    (hprintable : payload.Printable) (hobj : payload.isObject = true) :
    Answered P.reader (responseText P (respond rc payload)) rc payload := by
  obtain ⟨j, hparse, hsame, hbut⟩ :=
    hP.texts.parse_assign (k := "status") hprintable hobj (printable_errorCode rc)
  have htext : P.reader.parse (responseText P (respond rc payload)) = some j := hparse
  have hstatus : j.field? "status" = some (.int (errorCodeValue rc)) := by
    have hrel := hsame.field?_rel "status"
    rw [Json.field?_assign, if_pos rfl] at hrel
    generalize j.field? "status" = field at hrel ⊢
    cases hrel with
    | some hint =>
      cases hint
      rfl
  refine ⟨fun hnil => ?_, ?_, j, htext, hbut⟩
  · rw [hnil] at htext
    have hnone : P.reader.parse [] = none := hP.parse_nil
    rw [hnone] at htext
    cases htext
  · rw [bizStatus_of_field htext hstatus, toInt_errorCodeValue, Option.getD_some]

namespace Answered

variable {R : JsonReader} {text : Bytes} {rc : ErrorCode} {payload : Json String}

/-- What a reader takes that does not look at the status. -/
theorem read (h : Answered R text rc payload) {α : Type} {keys : List String}
    {read : Json String → Option α} (hread : Reads keys read) (hkeys : "status" ∉ keys) :
    (R.parse text).bind read = read payload := by
  obtain ⟨j, hparse, hbut⟩ := h.payload
  rw [hparse, Option.bind_some, hread hkeys hbut]

/-- The payload of success. -/
theorem status_success (h : Answered R text .success payload) : R.bizStatus text = 0 := h.status

/-- Any other code is not zero. -/
theorem status_ne_zero (h : Answered R text rc payload) (hrc : rc ≠ .success) :
    R.bizStatus text ≠ 0 := by
  rw [h.status]
  exact_mod_cast mt errorCodeValue_eq_zero.mp hrc

/-- The code as the client returns it. -/
theorem wrapUnsigned32_status (h : Answered R text rc payload) :
    wrapUnsigned32 (R.bizStatus text) = SecClient.code rc := by
  have hlt := errorCodeValue_lt rc
  rw [h.status]
  exact wrapUnsigned32_of_lt (hlt.trans (by decide))

end Answered

end TboxSec.Ipc
