import TboxSec.Ipc.Codec

/-!
# The status methods of the client

`SecClient` sends a request and takes one number out of the response. All methods share the step
that extracts it (`sendRequest`): it starts from `0`, the code of success, and keeps it if the
response cannot be parsed or its status cannot be read. The methods that read more of the
response parse it a second time and notice (`getCsr`); those that return the number do not.

* `AnswersZero`: the server says that it has succeeded.
* `Misread`: the responses that the client takes for this though they do not say it.
* `status_success_iff`: there are no others.

* `JsonReader.toInt` is the conversion that the client's library makes of a number, a truth value
  or a fraction, and `toInt_int` what it makes of a whole number that does not fit.
* `StatusCall` are the methods, and `run_eq` that they all come to `sendRequest`.
-/

namespace TboxSec.Ipc

/-! ### Requests -/

/-- `MethodId`. -/
inductive MethodId where
  | initializeSec | generateKeyPair | getCsr | submitCsr | injectCertificate | applyCertificate
  | setCaCertificate | getSeed | verifyKey | getStatus | getDeviceInfo | resetStatus
  | exportPrivateKey | getTlsCredential | getTlsCredentialState | signTls
  | subscribeTlsCredentialChanged | getBusinessKeyStatus | importWrappedBusinessKeys
  | getBusinessKeyImportResult | getV2cKeyProvisioningCapability
  | importWrappedBusinessKeysKl1 | getKeyprovContractSnapshot | getTrustedTime
  | subscribeTrustedTimeChanged
  deriving DecidableEq

/-- `SecRetryPolicy::Category`. -/
inductive Category where
  | readOnly | businessIdempotent | oneShot | write
  deriving DecidableEq

/-- `SecRetryPolicy::categorize`. -/
def categorize : MethodId → Category
  | .getStatus | .getDeviceInfo | .getCsr | .exportPrivateKey | .resetStatus => .readOnly
  | .generateKeyPair => .businessIdempotent
  | .getSeed | .verifyKey => .oneShot
  | .injectCertificate | .applyCertificate | .setCaCertificate | .submitCsr => .write
  | .initializeSec => .readOnly
  | .getTlsCredential | .getTlsCredentialState => .readOnly
  | .signTls | .subscribeTlsCredentialChanged => .oneShot
  | .getBusinessKeyStatus | .getBusinessKeyImportResult => .readOnly
  | .importWrappedBusinessKeys => .write
  -- every other method
  | .getV2cKeyProvisioningCapability | .importWrappedBusinessKeysKl1
  | .getKeyprovContractSnapshot | .getTrustedTime | .subscribeTrustedTimeChanged => .oneShot

/-- `SecRetryPolicy::should_retry`. -/
def shouldRetry (method : MethodId) : Bool :=
  categorize method = .readOnly || categorize method = .businessIdempotent

/-- The client of the framework: its status and the response of the server. -/
structure Transport where
  /-- With a second attempt. -/
  call : MethodId → Json String → ℤ × Bytes
  /-- Without. -/
  callOnce : MethodId → Json String → ℤ × Bytes

/-- The exchange that the retry policy chooses. -/
def Transport.exchange (T : Transport) (method : MethodId) (params : Json String) : ℤ × Bytes :=
  if shouldRetry method then T.call method params else T.callOnce method params

/-! ### Responses -/

/-- The reader of documents. -/
structure JsonReader where
  /-- `parse`; `none` when it throws. -/
  parse : Bytes → Option (Json String)
  /-- The conversion to `int` of a number that no `int` is near to, which the language leaves
  open. -/
  castReal : ℚ → ℤ

/-- The numbers of `int`. -/
def IsInt32 (n : ℤ) : Prop := -2 ^ 31 ≤ n ∧ n < 2 ^ 31

instance (n : ℤ) : Decidable (IsInt32 n) := inferInstanceAs (Decidable (_ ∧ _))

variable (R : JsonReader) (B : Base64Functions) (T : Transport)

/-- `get<int>()`: truth values count as numbers, fractions are cut off, the rest is taken to
32 bits; `none` when it throws. -/
def JsonReader.toInt (j : Json String) : Option ℤ :=
  j.arithmetic.map fun n =>
    match j with
    | .real q => if IsInt32 n then n else (R.castReal q).bmod (2 ^ 32)
    | _ => n.bmod (2 ^ 32)

/-- The status in a response: `0` unless it can be read. -/
def JsonReader.bizStatus (response : Bytes) : ℤ :=
  ((R.parse response).bind fun j => j.value "status" R.toInt 0).getD 0

/-- `send_request`: success of the transport, the status and the response. -/
def sendRequest (method : MethodId) (params : Json String) : Bool × ℤ × Bytes :=
  let (fwStatus, response) := T.exchange method params
  if fwStatus < 0 then (false, 0, [])
  else if 0 < fwStatus then (false, 0, [])
  else (true, R.bizStatus response, response)

/-- A value of `ErrorCode`; by a cast it can have any 32 bits. -/
abbrev Code := ℕ

namespace Code

/-- `SUCCESS`. -/
def success : Code := 0

/-- `CONNECTION_FAILED`. -/
def connectionFailed : Code := 8005

/-- `INTERNAL_ERROR`. -/
def internalError : Code := 9999

end Code

/-- A method that returns the status of its response. -/
def statusMethod (method : MethodId) (params : Json String) : Code :=
  match sendRequest R T method params with
  | (false, _, _) => .connectionFailed
  | (true, status, _) => wrapUnsigned32 status

/-- `initialize` of the client. -/
def clientInitialize : Code := statusMethod R T .initializeSec (.obj [])

/-- `generate_key_pair`. -/
def generateKeyPair : Code := statusMethod R T .generateKeyPair (.obj [])

/-- `submit_csr`. -/
def submitCsr : Code := statusMethod R T .submitCsr (.obj [])

/-- `inject_certificate`. -/
def injectCertificate (certDer : Bytes) : Code :=
  statusMethod R T .injectCertificate (.obj [("cert", .str (B.encode certDer))])

/-- `apply_certificate`. -/
def applyCertificate : Code := statusMethod R T .applyCertificate (.obj [])

/-- `verify_key`. -/
def verifyKey (level : UInt8) (key : Bytes) : Code :=
  statusMethod R T .verifyKey
    (Json.null |>.assign "level" (.int level.toNat) |>.assign "key" (.str (B.encode key)))

/-- `get_csr`, which reads more than the status. -/
def getCsr : Code × Option Bytes :=
  match sendRequest R T .getCsr (.obj []) with
  | (false, _, _) => (.connectionFailed, none)
  | (true, status, response) =>
    if status = 0 then
      match (R.parse response).bind (textField "csr") with
      | none => (.internalError, none)
      | some csr => (wrapUnsigned32 status, some (B.decode csr))
    else (wrapUnsigned32 status, none)

/-- The calls of the methods that return the status. -/
inductive StatusCall where
  | initializeSec | generateKeyPair | submitCsr | injectCertificate (certDer : Bytes)
  | applyCertificate | verifyKey (level : UInt8) (key : Bytes)

namespace StatusCall

/-- What a call sends. -/
def request : StatusCall → MethodId × Json String
  | .initializeSec => (.initializeSec, .obj [])
  | .generateKeyPair => (.generateKeyPair, .obj [])
  | .submitCsr => (.submitCsr, .obj [])
  | .injectCertificate certDer => (.injectCertificate, .obj [("cert", .str (B.encode certDer))])
  | .applyCertificate => (.applyCertificate, .obj [])
  | .verifyKey level key =>
    (.verifyKey,
      Json.null |>.assign "level" (.int level.toNat) |>.assign "key" (.str (B.encode key)))

/-- What a call returns. -/
def run : StatusCall → Code
  | .initializeSec => clientInitialize R T
  | .generateKeyPair => Ipc.generateKeyPair R T
  | .submitCsr => Ipc.submitCsr R T
  | .injectCertificate certDer => Ipc.injectCertificate R B T certDer
  | .applyCertificate => Ipc.applyCertificate R T
  | .verifyKey level key => Ipc.verifyKey R B T level key

theorem run_eq (c : StatusCall) :
    c.run R B T = statusMethod R T (c.request B).1 (c.request B).2 := by
  cases c <;> rfl

end StatusCall

/-! ### What the status says -/

variable {R B T} {response : Bytes} {j v : Json String}

variable (R) in
/-- The response is an object with the integer `0` as its status. -/
def AnswersZero (response : Bytes) : Prop :=
  ∃ j, R.parse response = some j ∧ j.isObject = true ∧ j.field? "status" = some (.int 0)

variable (R) in
/-- The responses that the client takes for a success though they are none. -/
inductive Misread (response : Bytes) : Prop
  | malformed (hparse : R.parse response = none)
  | notObject {j : Json String} (hparse : R.parse response = some j) (hj : j.isObject = false)
  | statusless {j : Json String} (hparse : R.parse response = some j) (hj : j.isObject = true)
      (hfield : j.field? "status" = none)
  /-- A status that is no number: null, a text, an array or an object. -/
  | notNumber {j v : Json String} (hparse : R.parse response = some j)
      (hfield : j.field? "status" = some v) (hv : v.arithmetic = none)
  | falsity {j : Json String} (hparse : R.parse response = some j)
      (hfield : j.field? "status" = some (.bool false))
  /-- A number with a fraction or an exponent that is cut down to zero. -/
  | fraction {j : Json String} {q : ℚ} (hparse : R.parse response = some j)
      (hfield : j.field? "status" = some (.real q)) (hq : R.toInt (.real q) = some 0)
  /-- A number of which the lower 32 bits are zero. -/
  | wraps {j : Json String} {n : ℤ} (hparse : R.parse response = some j)
      (hfield : j.field? "status" = some (.int n)) (hne : n ≠ 0) (hn : 2 ^ 32 ∣ n)

/-- The value of a status. -/
theorem bizStatus_of_field (hparse : R.parse response = some j)
    (hfield : j.field? "status" = some v) :
    R.bizStatus response = (R.toInt v).getD 0 := by
  have hobj : j.isObject = true := by
    cases j <;> first | rfl | exact nomatch hfield
  rw [JsonReader.bizStatus, hparse, Option.bind_some, Json.value_of_isObject hobj, hfield]
  rfl

theorem toInt_int (n : ℤ) : R.toInt (.int n) = some (n.bmod (2 ^ 32)) := rfl

private theorem isInt32_bmod (n : ℤ) : IsInt32 (n.bmod (2 ^ 32)) := by
  have hlow := @Int.le_bmod n (2 ^ 32) (by decide)
  have hhigh := @Int.bmod_lt n (2 ^ 32) (by decide)
  constructor <;> omega

private theorem isInt32_bizStatus (response : Bytes) : IsInt32 (R.bizStatus response) := by
  have hzero : IsInt32 0 := by decide
  have hint : ∀ {v : Json String} {n : ℤ}, R.toInt v = some n → IsInt32 n := by
    intro v n hv
    obtain ⟨m, -, rfl⟩ := Option.map_eq_some_iff.mp hv
    cases v with
    | real q =>
      dsimp only
      split_ifs with hm
      · exact hm
      · exact isInt32_bmod _
    | _ => exact isInt32_bmod _
  rw [JsonReader.bizStatus]
  cases hread : (R.parse response).bind fun j => j.value "status" R.toInt 0 with
  | none => exact hzero
  | some n =>
    obtain ⟨j, -, hvalue⟩ := Option.bind_eq_some_iff.mp hread
    rw [Json.value] at hvalue
    split_ifs at hvalue
    split at hvalue
    · exact hint hvalue
    · obtain rfl := Option.some.inj hvalue
      exact hzero

/-- **A status of zero** is what a successful server sends, or a response that is misread. -/
theorem bizStatus_eq_zero_iff :
    R.bizStatus response = 0 ↔ AnswersZero R response ∨ Misread R response := by
  constructor
  · intro h
    cases hparse : R.parse response with
    | none => exact .inr (.malformed hparse)
    | some j =>
      cases hobj : j.isObject with
      | false => exact .inr (.notObject hparse hobj)
      | true =>
        cases hfield : j.field? "status" with
        | none => exact .inr (.statusless hparse hobj hfield)
        | some v =>
          rw [bizStatus_of_field hparse hfield] at h
          cases v with
          | int n =>
            rw [toInt_int, Option.getD_some, ← Int.dvd_iff_bmod_eq_zero] at h
            by_cases hn : n = 0
            · exact .inl ⟨j, hparse, hobj, hn ▸ hfield⟩
            · exact .inr (.wraps hparse hfield hn (by exact_mod_cast h))
          | bool b =>
            cases b with
            | false => exact .inr (.falsity hparse hfield)
            | true =>
              have hone : (R.toInt (.bool true)).getD 0 = 1 := rfl
              exact absurd (hone.symm.trans h) (by decide)
          | real q =>
            refine .inr (.fraction hparse hfield ?_)
            rw [JsonReader.toInt] at h ⊢
            exact congrArg some h
          | null | str _ | arr _ | obj _ => exact .inr (.notNumber hparse hfield rfl)
  · rintro (⟨j, hparse, -, hfield⟩ | h)
    · exact bizStatus_of_field hparse hfield
    · cases h with
      | malformed hparse => rw [JsonReader.bizStatus, hparse]; rfl
      | notObject hparse hj =>
        rw [JsonReader.bizStatus, hparse, Option.bind_some, Json.value, hj]
        rfl
      | statusless hparse hj hfield =>
        rw [JsonReader.bizStatus, hparse, Option.bind_some, Json.value_of_isObject hj, hfield]
        rfl
      | notNumber hparse hfield hv =>
        rw [bizStatus_of_field hparse hfield, JsonReader.toInt, hv]
        rfl
      | falsity hparse hfield => exact bizStatus_of_field hparse hfield
      | fraction hparse hfield hq =>
        rw [bizStatus_of_field hparse hfield, hq]
        rfl
      | wraps hparse hfield _ hn =>
        rw [bizStatus_of_field hparse hfield, toInt_int, Option.getD_some,
          ← Int.dvd_iff_bmod_eq_zero]
        exact_mod_cast hn

/-- What is misread does not say success. -/
private theorem Misread.not_answersZero (h : Misread R response) : ¬ AnswersZero R response := by
  rintro ⟨j, hparse, hobj, hfield⟩
  cases h with
  | malformed hno => rw [hno] at hparse; exact nomatch hparse
  | notObject hj hno =>
    obtain rfl := Option.some.inj (hparse.symm.trans hj)
    rw [hno] at hobj
    exact nomatch hobj
  | statusless hj _ hno =>
    obtain rfl := Option.some.inj (hparse.symm.trans hj)
    rw [hno] at hfield
    exact nomatch hfield
  | notNumber hj hv hno =>
    obtain rfl := Option.some.inj (hparse.symm.trans hj)
    obtain rfl := Option.some.inj (hfield.symm.trans hv)
    exact nomatch hno
  | falsity hj hv =>
    obtain rfl := Option.some.inj (hparse.symm.trans hj)
    exact nomatch Option.some.inj (hfield.symm.trans hv)
  | fraction hj hv _ =>
    obtain rfl := Option.some.inj (hparse.symm.trans hj)
    exact nomatch Option.some.inj (hfield.symm.trans hv)
  | wraps hj hv hne _ =>
    obtain rfl := Option.some.inj (hparse.symm.trans hj)
    exact hne (Json.int.inj (Option.some.inj (hfield.symm.trans hv))).symm

/-- The client returns success when it has read zero. -/
private theorem run_eq_success_iff {c : StatusCall}
    (h : T.exchange (c.request B).1 (c.request B).2 = (0, response)) :
    c.run R B T = .success ↔ R.bizStatus response = 0 := by
  obtain ⟨hlow, hhigh⟩ : IsInt32 (R.bizStatus response) := isInt32_bizStatus response
  rw [StatusCall.run_eq, statusMethod, sendRequest, h]
  change wrapUnsigned32 (R.bizStatus response) = 0 ↔ _
  unfold wrapUnsigned32
  omega

/-- **Success of the client is success of the server** exactly when the response is not misread,
whichever of the methods has sent the request. The client reads the status as an `int` and compares
it with zero; `Misread` lists the responses in which that gives zero for something else than the
number zero. -/
theorem status_success_iff (R : JsonReader) (B : Base64Functions) (T : Transport) (c : StatusCall)
    (response : Bytes) (h : T.exchange (c.request B).1 (c.request B).2 = (0, response)) :
    (c.run R B T = .success → AnswersZero R response) ↔ ¬ Misread R response := by
  rw [run_eq_success_iff h, bizStatus_eq_zero_iff]
  constructor
  · intro hlaw hmis
    exact hmis.not_answersZero (hlaw (.inr hmis))
  · rintro hno (hzero | hmis)
    · exact hzero
    · exact absurd hmis hno

/-! ### Two responses -/

/-- The response of a server that refuses a key. -/
def refusalText : Bytes := textBytes "\x7b\"status\":7008\x7d"

/-- A reader that knows this response. -/
def refusalReader : JsonReader where
  parse text := if text = refusalText then some (.obj [("status", .int 7008)]) else none
  castReal _ := 0

/-- A transport that delivers a response. -/
def delivering (response : Bytes) : Transport where
  call _ _ := (0, response)
  callOnce _ _ := (0, response)

/-- A refused key is reported as refused. -/
theorem status_success_iff_refusal :
    ((StatusCall.verifyKey 1 [2]).run refusalReader rfcBase64 (delivering refusalText) =
        .success →
      AnswersZero refusalReader refusalText) ∧
      (StatusCall.verifyKey 1 [2]).run refusalReader rfcBase64 (delivering refusalText) =
        7008 := by
  have hparse : refusalReader.parse refusalText = some (.obj [("status", .int 7008)]) := by
    simp [refusalReader]
  have hstatus : refusalReader.bizStatus refusalText = 7008 := bizStatus_of_field hparse rfl
  refine ⟨(status_success_iff refusalReader rfcBase64 (delivering refusalText) (.verifyKey 1 [2])
    refusalText rfl).mpr fun hmis => ?_, ?_⟩
  · rw [bizStatus_eq_zero_iff.mpr (.inr hmis)] at hstatus
    exact absurd hstatus (by decide)
  · change wrapUnsigned32 (refusalReader.bizStatus refusalText) = 7008
    rw [hstatus]
    rfl

/-- **A response that is cut off before its first byte** is a successful verification. -/
theorem empty_response_verified :
    (StatusCall.verifyKey 1 [2]).run refusalReader rfcBase64 (delivering []) = .success ∧
      ¬ AnswersZero refusalReader [] := by
  have hparse : refusalReader.parse [] = none := by decide +kernel
  have hmis : Misread refusalReader [] := .malformed hparse
  exact ⟨(run_eq_success_iff rfl).mpr (bizStatus_eq_zero_iff.mpr (.inr hmis)),
    hmis.not_answersZero⟩

end TboxSec.Ipc
