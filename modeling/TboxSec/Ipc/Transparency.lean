import TboxSec.Ipc.Remote
import TboxSec.Lib.JsonPrint

/-!
# Nobody can tell the difference

Each method is an exchange: the handler reads the parameters it was sent, calls the object that
`Server.serve` calls, and writes a response from which the client reads what `present` says.

* `agrees_of_answered`, `agrees_of_lost` and `agrees_of_refused` are the three shapes of an
  exchange: a response that is read, a daemon that dies, and a code with nothing beside it.
* One lemma `agrees_…` for each method brings its handler into one of these shapes; the sections
  follow the dispatcher (status calls, TLS credentials, business keys, trusted time).
* `agrees` puts them together for one call, and `remote_eq_inProcess` is the run.

The hypotheses on the numbers (`WellTyped`) are what the C++ types say: an `int32_t` holds no
larger number, and no call or answer of the programs can break them.
-/

namespace TboxSec.Ipc

open Json (Printable Reads OrderBlind)
open Keyprov
open Sec (SecOperation)
open Tls (businessKeyPeerAllowed)

/-! ### Numbers that fit -/

/-- The numbers of an answer of the business-key service fit their types. -/
def ReplyWellTyped : Keyprov.Reply → Prop
  | .statuses _ items => ∀ s ∈ items, StatusWellTyped s
  | .result _ out => ResultWellTyped out
  | .resultKl1 _ out attach => ResultWellTyped out ∧ AttachmentWellTyped attach
  | _ => True

/-- The numbers of an answer fit their types. -/
def Answer.WellTyped : Answer → Prop
  | .status s => IsInt32 s.retryCount
  | .credential b => CredentialWellTyped b
  | .state st => st.version < 2 ^ 64
  | .keys reply => ReplyWellTyped reply
  | .snapshot s => SnapshotWellTyped s
  | .envelope e => EnvelopeWellTyped e
  | _ => True

/-- The numbers of a call fit their types. -/
def ClientCall.WellTyped : ClientCall → Prop
  | .importWrappedBusinessKeys _ _ items => ∀ item ∈ items, ItemWellTyped item
  | .importWrappedBusinessKeysKl1 _ _ items context =>
    (∀ item ∈ items, ItemWellTyped item) ∧ ContextWellTyped context
  | .getTrustedTime requestToken => requestToken < 2 ^ 64
  | _ => True

variable {X509 : Type} {P : Site X509} {s s' : Server} {i : Invocation}

variable (P) in
/-- The numbers of a call and of its answer fit their types. -/
def WellTyped (s : Server) (i : Invocation) : Prop :=
  i.call.WellTyped ∧ (s.serve P i).2.WellTyped

/-! ### One exchange -/

variable (P) in
/-- The two machines take the same step. -/
def Agrees (s : Server) (i : Invocation) : Prop := (remote P).step s i = (inProcess P).step s i

/-- An exchange over the socket delivers what the dispatcher answers to the request of the method
and its parameters. -/
private theorem exchange_link {method : MethodId} {params : Json String} :
    (s.link P i).exchange method params =
      delivered P (s.dispatch P (i.request method (P.tls.dump params))).2 := by
  rw [Transport.exchange]
  split_ifs <;> rfl

/-- The dispatcher hands a well-formed request to the handler of its method and writes the answer as
a response. -/
private theorem dispatch_request {method : MethodId} {text : Bytes} :
    s.dispatch P (i.request method text) =
      ((s.handle P (i.request method text) method).1,
        (s.handle P (i.request method text) method).2.map Server.makeJsonResponse) := by
  rw [Server.dispatch, show (i.request method text).methodId = method.value from rfl,
    MethodId.ofValue_value]

/-- A call that sends a request is not answered by the client on its own. -/
private theorem unsent_of_sends {r : MethodId × Json String} (h : i.call.sends P.base64 = some r) :
    i.unsent P = none := by
  rw [Invocation.unsent, h]

section Agreement

variable {m : MethodId} {p payload : Json String} {rc : ErrorCode} {ans : Answer}

/-- A response that is read as what the call makes of the answer. -/
private theorem agrees_of_answered (hP : P.Lawful) (hsends : i.call.sends P.base64 = some (m, p))
    (hhandle : s.handle P (i.request m (P.tls.dump p)) m = (s', some (respond rc payload)))
    (hserve : s.serve P i = (s', ans)) (hprintable : payload.Printable)
    (hobj : payload.isObject = true)
    (hrun : ∀ T text, T.exchange m p = (0, text) → Answered P.reader text rc payload →
      i.call.run P.reader P.base64 T = i.call.present ans) : Agrees P s i := by
  have hdispatch : s.dispatch P (i.request m (P.tls.dump p)) =
      (s', some (Server.makeJsonResponse (respond rc payload))) := by
    rw [dispatch_request, hhandle]
    rfl
  have hexchange : (s.link P i).exchange m p = (0, responseText P (respond rc payload)) := by
    rw [exchange_link, hdispatch]
    rfl
  simp only [Agrees, remote, inProcess, hsends, unsent_of_sends hsends, hdispatch, hserve]
  rw [hrun _ _ hexchange (answered_response hP hprintable hobj)]

/-- A daemon that dies. -/
private theorem agrees_of_lost (hsends : i.call.sends P.base64 = some (m, p))
    (hhandle : s.handle P (i.request m (P.tls.dump p)) m = (s', none))
    (hserve : s.serve P i = (s', ans)) (hpresent : i.call.present ans = i.call.lost) :
    Agrees P s i := by
  have hdispatch : s.dispatch P (i.request m (P.tls.dump p)) = (s', none) := by
    rw [dispatch_request, hhandle]
    rfl
  have hexchange : (s.link P i).exchange m p = (-1, []) := by
    rw [exchange_link, hdispatch]
    rfl
  simp only [Agrees, remote, inProcess, hsends, unsent_of_sends hsends, hdispatch, hserve]
  rw [run_of_lost hsends hexchange, hpresent]

/-- A refusal, or a success that brings nothing but the code. -/
private theorem agrees_of_refused (hP : P.Lawful) (hsends : i.call.sends P.base64 = some (m, p))
    (hhandle : s.handle P (i.request m (P.tls.dump p)) m = (s', some (respond rc payload)))
    (hserve : s.serve P i = (s', .code rc)) (hprintable : payload.Printable)
    (hobj : payload.isObject = true) (hstate : payload.contains "state" = false)
    (hrc : (SecClient.code rc : ℤ) ∉ i.call.resultCodes)
    (hcall : i.call ≠ .getProvisionStatus ∧ i.call ≠ .getDeviceInfo) : Agrees P s i :=
  agrees_of_answered hP hsends hhandle hserve hprintable hobj fun _ _ hexchange hanswered =>
    run_of_refused hsends hexchange hanswered hstate hrc hcall

section Fetch

variable {α : Type} {read : Json String → Option α} {keys : List String} {a : α}

/-- What a method fetches. -/
private theorem agrees_of_fetch (outcome : Code → Option α → Outcome) (hP : P.Lawful)
    (hsends : i.call.sends P.base64 = some (m, p))
    (hhandle : s.handle P (i.request m (P.tls.dump p)) m = (s', some (respond .success payload)))
    (hserve : s.serve P i = (s', ans)) (hprintable : payload.Printable)
    (hobj : payload.isObject = true) (hread : Reads keys read) (hkeys : "status" ∉ keys)
    (hpayload : read payload = some a)
    (hrun : ∀ T, i.call.run P.reader P.base64 T =
      outcome (SecClient.fetchMethod P.reader T m p read).1
        (SecClient.fetchMethod P.reader T m p read).2)
    (hpresent : i.call.present ans = outcome .success (some a)) : Agrees P s i := by
  refine agrees_of_answered hP hsends hhandle hserve hprintable hobj
    fun T text hexchange hanswered => ?_
  rw [hrun, fetchMethod_of_success hexchange hanswered hread hkeys hpayload, hpresent]

/-- What a method reads that blanks its variable first. -/
private theorem agrees_of_blank {blank : α} (outcome : Code → Option α → Outcome) (hP : P.Lawful)
    (hsends : i.call.sends P.base64 = some (m, p))
    (hhandle : s.handle P (i.request m (P.tls.dump p)) m = (s', some (respond .success payload)))
    (hserve : s.serve P i = (s', ans)) (hprintable : payload.Printable)
    (hobj : payload.isObject = true) (hread : Reads keys read) (hkeys : "status" ∉ keys)
    (hpayload : read payload = some a)
    (hrun : ∀ T, i.call.run P.reader P.base64 T =
      outcome (SecClient.blankMethod P.reader T m p blank read).1
        (SecClient.blankMethod P.reader T m p blank read).2)
    (hpresent : i.call.present ans = outcome .success (some a)) : Agrees P s i := by
  refine agrees_of_answered hP hsends hhandle hserve hprintable hobj
    fun T text hexchange hanswered => ?_
  rw [hrun, blankMethod_of_success hexchange hanswered hread hkeys hpayload, hpresent]

end Fetch

/-! ### Provisioning and security access -/

/-- The payload that carries one Boolean holds valid text only. -/
private theorem printable_successJson (b : Bool) : (successJson b).Printable :=
  Printable.null.assign (.bool b)

/-- A refusal with nothing but the mark of a failure. -/
private theorem agrees_of_refusal (hP : P.Lawful) (hsends : i.call.sends P.base64 = some (m, p))
    (hhandle : s.handle P (i.request m (P.tls.dump p)) m = (s', some (refused rc)))
    (hserve : s.serve P i = (s', .code rc))
    (hrc : (SecClient.code rc : ℤ) ∉ i.call.resultCodes)
    (hcall : i.call ≠ .getProvisionStatus ∧ i.call ≠ .getDeviceInfo) : Agrees P s i :=
  agrees_of_refused hP hsends hhandle hserve (printable_successJson false) rfl rfl hrc hcall

/-- A refusal with a text. -/
private theorem agrees_of_refusalWith {error : String} (hP : P.Lawful)
    (hsends : i.call.sends P.base64 = some (m, p))
    (hhandle : s.handle P (i.request m (P.tls.dump p)) m = (s', some (refusedWith rc error)))
    (hserve : s.serve P i = (s', .code rc))
    (hrc : (SecClient.code rc : ℤ) ∉ i.call.resultCodes)
    (hcall : i.call ≠ .getProvisionStatus ∧ i.call ≠ .getDeviceInfo) : Agrees P s i :=
  agrees_of_refused hP hsends hhandle hserve ((printable_successJson false).assign (.str error))
    rfl rfl hrc hcall

/-- An operation that reports its code. -/
private theorem agrees_of_performed (operation : SecOperation) (hP : P.Lawful)
    (hsends : i.call.sends P.base64 = some (m, p))
    (hhandle : s.handle P (i.request m (P.tls.dump p)) m =
      Server.answered (s.reportStatus P (Server.bare i) operation))
    (hserve : s.serve P i = s.performed P i operation) (hcodes : i.call.resultCodes = [])
    (hcall : i.call ≠ .getProvisionStatus ∧ i.call ≠ .getDeviceInfo) : Agrees P s i :=
  agrees_of_refused hP hsends hhandle hserve (printable_successJson _) rfl rfl
    (hcodes ▸ List.not_mem_nil) hcall

/-- A text of no bytes, and no other, is what no bytes are encoded to. -/
private theorem encode_eq_empty_iff {B : Base64Functions} (hB : B.Lawful) {data : Bytes} :
    B.encode data = "" ↔ data = [] := by
  constructor
  · intro h
    rw [← hB.decode_encode data, h, ← hB.encode_nil, hB.decode_encode]
  · rintro rfl
    exact hB.encode_nil

/-- The level arrives. -/
private theorem levelField_of_field {j : Json String} {level : UInt8}
    (h : j.field? "level" = some (.int level.toNat)) : Server.levelField P j = some level := by
  have hlt := level.toNat_lt
  have hint : (JsonReader.mk P.tls.parse P.castReal).toInt (.int level.toNat) =
      some (level.toNat : ℤ) := by
    rw [toInt_int, Int.bmod_def, if_pos (by omega)]
    exact congrArg some (by omega)
  have hbyte : ((level.toNat : ℤ) % 256).toNat = level.toNat := by omega
  rw [Server.levelField, Json.value_of_field h hint, Option.map_some, hbyte]
  exact congrArg some (UInt8.ofNat_toNat)

/-- The security level is read from the field `level` alone. -/
private theorem reads_levelField : Reads ["level"] (Server.levelField P) := by
  intro k j j' hk h
  exact congrArg (Option.map _) (defaultInt_congr _ h (by simpa using hk) 0)

/-- The level and the key of a request. -/
def levelAndKey (P : Site X509) (j : Json String) : Option (UInt8 × String) :=
  (Server.levelField P j).bind fun level => (textField "key" j).map fun key => (level, key)

/-- The key of a security access is read from `level` and `key` alone. -/
private theorem reads_levelAndKey : Reads ["level", "key"] (levelAndKey P) := by
  intro k j j' hk h
  simp only [List.mem_cons, List.not_mem_nil, or_false, not_or] at hk
  have hlevel : Server.levelField P j = Server.levelField P j' :=
    reads_levelField (by simpa using hk.1) h
  simp only [levelAndKey, textField_congr h hk.2, hlevel]

/-- An installation. The daemon does not take a certificate of no bytes. -/
private theorem agrees_injectCertificate (hP : P.Lawful) {certDer : Bytes}
    (hcall : i.call = .status (.injectCertificate certDer)) : Agrees P s i := by
  let params : Json String := .obj [("cert", .str (P.base64.encode certDer))]
  have hsends : i.call.sends P.base64 = some (.injectCertificate, params) := hcall ▸ rfl
  have hne : i.call ≠ .getProvisionStatus ∧ i.call ≠ .getDeviceInfo := by simp [hcall]
  have hcodes : i.call.resultCodes = [] := hcall ▸ rfl
  have hparams : params.Printable := Printable.null.assign (.str _)
  have hread : (P.tls.parse (P.tls.dump params)).bind (textField "cert") =
      some (P.base64.encode certDer) := by
    rw [read_request hP hparams (reads_textField "cert").orderBlind]
    exact textField_of_field (by simp [params])
  by_cases hempty : certDer = []
  · have hhandle : s.handle P (i.request .injectCertificate (P.tls.dump params))
        .injectCertificate =
          (s, some (refusedWith .invalidParameter "Missing cert parameter")) := by
      simp only [Server.handle, Server.answered, Server.handleInjectCertificate,
        Invocation.request, hread, (encode_eq_empty_iff hP.base64).mpr hempty, if_true]
    have hserve : s.serve P i = (s, .code .invalidParameter) := by
      simp only [Server.serve, hcall, hempty, if_true]
    exact agrees_of_refusalWith hP hsends hhandle hserve (hcodes ▸ List.not_mem_nil) hne
  · refine agrees_of_performed (.injectCertificate certDer) hP hsends ?_ ?_ hcodes hne
    · simp only [Server.handle, Server.handleInjectCertificate, Invocation.request, hread,
        mt (encode_eq_empty_iff hP.base64).mp hempty, if_false, hP.base64.decode_encode]
      rfl
    · simp only [Server.serve, hcall, hempty, if_false]

/-- A key for a seed. The daemon does not take a key of no bytes. -/
private theorem agrees_verifyKey (hP : P.Lawful) {level : UInt8} {key : Bytes}
    (hcall : i.call = .status (.verifyKey level key)) : Agrees P s i := by
  let params : Json String :=
    Json.null |>.assign "level" (.int level.toNat) |>.assign "key" (.str (P.base64.encode key))
  have hsends : i.call.sends P.base64 = some (.verifyKey, params) := hcall ▸ rfl
  have hne : i.call ≠ .getProvisionStatus ∧ i.call ≠ .getDeviceInfo := by simp [hcall]
  have hcodes : i.call.resultCodes = [] := hcall ▸ rfl
  have hparams : params.Printable :=
    (Printable.null.assign (.int_of_nat (level.toNat_lt.trans (by decide)))).assign (.str _)
  have hread : (P.tls.parse (P.tls.dump params)).bind (levelAndKey P) =
      some (level, P.base64.encode key) := by
    have hlevel : Server.levelField P params = some level :=
      levelField_of_field (by simp [params])
    have hkey : textField "key" params = some (P.base64.encode key) :=
      textField_of_field (by simp [params])
    rw [read_request hP hparams reads_levelAndKey.orderBlind, levelAndKey, hlevel,
      Option.bind_some, hkey, Option.map_some]
  unfold levelAndKey at hread
  by_cases hempty : key = []
  · have hhandle : s.handle P (i.request .verifyKey (P.tls.dump params)) .verifyKey =
        (s, some (refusedWith .invalidParameter "Missing key parameter")) := by
      simp only [Server.handle, Server.answered, Server.handleVerifyKey, Invocation.request, hread,
        (encode_eq_empty_iff hP.base64).mpr hempty, if_true]
    have hserve : s.serve P i = (s, .code .invalidParameter) := by
      simp only [Server.serve, hcall, hempty, if_true]
    exact agrees_of_refusalWith hP hsends hhandle hserve (hcodes ▸ List.not_mem_nil) hne
  · refine agrees_of_performed (.verifyKey level key) hP hsends ?_ ?_ hcodes hne
    · simp only [Server.handle, Server.handleVerifyKey, Invocation.request, hread,
        mt (encode_eq_empty_iff hP.base64).mp hempty, if_false, hP.base64.decode_encode]
      rfl
    · simp only [Server.serve, hcall, hempty, if_false]

/-- **The methods that return the status.** -/
theorem agrees_status (hP : P.Lawful) {call : StatusCall} (hcall : i.call = .status call) :
    Agrees P s i := by
  have hne : i.call ≠ .getProvisionStatus ∧ i.call ≠ .getDeviceInfo := by simp [hcall]
  have hcodes : i.call.resultCodes = [] := hcall ▸ rfl
  have hsends : i.call.sends P.base64 = some (call.request P.base64) := hcall ▸ rfl
  cases call with
  | initializeSec =>
    have hserve : s.serve P i =
        ({ s with daemon := (i.answers.reinitialize s.daemon).2 },
          .code (i.answers.reinitialize s.daemon).1) := by
      simp only [Server.serve, hcall]
    exact agrees_of_refused hP hsends rfl hserve (printable_successJson _) rfl rfl
      (hcodes ▸ List.not_mem_nil) hne
  | generateKeyPair =>
    exact agrees_of_performed .generateKeyPair hP hsends rfl (by simp only [Server.serve, hcall])
      hcodes hne
  | submitCsr =>
    exact agrees_of_performed .submitCsr hP hsends rfl (by simp only [Server.serve, hcall])
      hcodes hne
  | applyCertificate =>
    exact agrees_of_performed .applyCertificate hP hsends rfl
      (by simp only [Server.serve, hcall]) hcodes hne
  | injectCertificate certDer => exact agrees_injectCertificate hP hcall
  | verifyKey level key => exact agrees_verifyKey hP hcall

/-- `reset_provision_status` has no parameter and answers with a code. -/
private theorem agrees_resetProvisionStatus (hP : P.Lawful)
    (hcall : i.call = .resetProvisionStatus) :
    Agrees P s i := by
  have hsends : i.call.sends P.base64 = some (.resetStatus, .obj []) := hcall ▸ rfl
  exact agrees_of_performed .resetProvisionStatus hP hsends rfl
    (by simp only [Server.serve, hcall]) (hcall ▸ rfl) (by simp [hcall])

/-- **The methods that bring bytes**, if they succeed. -/
theorem agrees_of_bytes {key : String} {data : Bytes} (hP : P.Lawful)
    (hsends : i.call.sends P.base64 = some (m, p))
    (hhandle : s.handle P (i.request m (P.tls.dump p)) m = (s', some (bytesResponse P key rc data)))
    (hserve : s.serve P i = (s', .bytes rc data)) (hkey : "status" ≠ key)
    (hrun : ∀ T, i.call.run P.reader P.base64 T =
      .bytes (SecClient.fetchMethod P.reader T m p (SecClient.decodeField P.base64 key)).1
        (SecClient.fetchMethod P.reader T m p (SecClient.decodeField P.base64 key)).2) :
    Agrees P s i := by
  by_cases hrc : rc = .success
  · subst hrc
    rw [bytesResponse, if_pos rfl] at hhandle
    have htext : textField key (Json.null.assign key (.str (P.base64.encode data))) =
        some (P.base64.encode data) := textField_of_field (by simp)
    have hfield : SecClient.decodeField P.base64 key
        (Json.null.assign key (.str (P.base64.encode data))) = some data := by
      rw [SecClient.decodeField, htext, Option.map_some, hP.base64.decode_encode]
    exact agrees_of_fetch .bytes hP hsends hhandle hserve (Printable.null.assign (.str _))
      Json.isObject_assign (reads_decodeField P.base64 key) (List.mem_singleton.not.mpr hkey)
      hfield hrun rfl
  · have hhandle' : s.handle P (i.request m (P.tls.dump p)) m = (s', some (refused rc)) := by
      rw [hhandle, bytesResponse, if_neg hrc]
      rfl
    refine agrees_of_answered hP hsends hhandle' hserve (printable_successJson false) rfl
      fun T text hexchange hanswered => ?_
    rw [hrun, fetchMethod_of_refused hexchange hanswered hrc, ClientCall.present, if_neg hrc]

/-- `export_private_key` has no parameter, and brings back bytes or a code. -/
private theorem agrees_exportPrivateKey (hP : P.Lawful) (hcall : i.call = .exportPrivateKey) :
    Agrees P s i := by
  have hsends : i.call.sends P.base64 = some (.exportPrivateKey, .obj []) := hcall ▸ rfl
  refine agrees_of_bytes hP hsends rfl ?_ (by decide) fun T => ?_
  · simp only [Server.serve, hcall]
    rfl
  · rw [hcall]
    rfl

/-- `get_csr` has no parameter either, and brings back the signing request or a code. -/
private theorem agrees_getCsr (hP : P.Lawful) (hcall : i.call = .getCsr) : Agrees P s i := by
  have hsends : i.call.sends P.base64 = some (.getCsr, .obj []) := hcall ▸ rfl
  refine agrees_of_bytes hP hsends rfl ?_ (by decide) fun T => ?_
  · simp only [Server.serve, hcall]
    rfl
  · rw [hcall, ClientCall.run, SecClient.getCsr_eq_fetchMethod]

/-- `get_seed` sends the level and brings back the seed in base64. -/
private theorem agrees_getSeed (hP : P.Lawful) {level : UInt8} (hcall : i.call = .getSeed level) :
    Agrees P s i := by
  let params : Json String := Json.null.assign "level" (.int level.toNat)
  have hsends : i.call.sends P.base64 = some (.getSeed, params) := hcall ▸ rfl
  have hparams : params.Printable :=
    Printable.null.assign (.int_of_nat (level.toNat_lt.trans (by decide)))
  have hread : (P.tls.parse (P.tls.dump params)).bind (Server.levelField P) = some level := by
    rw [read_request hP hparams reads_levelField.orderBlind]
    exact levelField_of_field (by simp [params])
  have hhandle : s.handle P (i.request .getSeed (P.tls.dump params)) .getSeed =
      ((s.operate P (Server.bare i) (.getSeed level)).2,
        some (bytesResponse P "seed" (s.operate P (Server.bare i) (.getSeed level)).1
          ((Sec.getSeed level i.answers.surroundings.oracle
            s.daemon.component.service.fresh).2.seed.getD []))) := by
    simp only [Server.handle, Server.answered, Server.handleGetSeed, Invocation.request, hread]
    rfl
  refine agrees_of_bytes hP hsends hhandle ?_ (by decide) fun T => ?_
  · simp only [Server.serve, hcall]
  · rw [hcall]
    rfl

/-- **The provisioning status.** -/
theorem agrees_getProvisionStatus (hP : P.Lawful) (hcall : i.call = .getProvisionStatus)
    (htyped : IsInt32 (s.provisionStatus (Server.bare i)).retryCount) : Agrees P s i := by
  have hsends : i.call.sends P.base64 = some (.getStatus, .obj []) := hcall ▸ rfl
  have hserve : s.serve P i = (s, .status (s.provisionStatus (Server.bare i))) := by
    simp only [Server.serve, hcall]
  obtain ⟨hlow, hhigh⟩ := htyped
  have hprintable : (s.handleGetStatus (Server.bare i)).2.2.Printable :=
    Printable.null
      |>.assign (.str _)
      |>.assign (.str _)
      |>.assign (.str _)
      |>.assign (.str _)
      |>.assign (.str _)
      |>.assign (.int (by omega) (by omega))
  have hhandle : s.handle P (i.request .getStatus (P.tls.dump (.obj []))) .getStatus =
      (s, some (respond .success (s.handleGetStatus (Server.bare i)).2.2)) := rfl
  refine agrees_of_answered hP hsends hhandle hserve hprintable
    (by simp [Server.handleGetStatus]) fun T text hexchange hanswered => ?_
  obtain ⟨j, hparse, hbut⟩ := hanswered.payload
  generalize hdoc : (s.handleGetStatus (Server.bare i)).2.2 = payload at hbut
  generalize hstatus : s.provisionStatus (Server.bare i) = status at hdoc hserve hlow hhigh ⊢
  have hvin : textField "vin" j = some status.vin :=
    (textField_congr hbut (by decide)).symm.trans
      (textField_of_field (by simp [← hdoc, ← hstatus, Server.handleGetStatus]))
  have hecuUid : textField "ecu_uid" j = some status.ecuUid :=
    (textField_congr hbut (by decide)).symm.trans
      (textField_of_field (by simp [← hdoc, ← hstatus, Server.handleGetStatus]))
  have hstate : j.value "state" Json.text "NONE" = some status.state.toText :=
    (defaultText_congr hbut (by decide) "NONE").symm.trans
      (Json.value_of_field (v := .str status.state.toText)
        (by simp [← hdoc, ← hstatus, Server.handleGetStatus]) rfl)
  have herror : textField "last_error" j = some status.lastError :=
    (textField_congr hbut (by decide)).symm.trans
      (textField_of_field (by simp [← hdoc, ← hstatus, Server.handleGetStatus]))
  have hint : P.reader.toInt (.int status.retryCount) = some status.retryCount := by
    rw [toInt_int, Int.bmod_def]
    refine congrArg some ?_
    split_ifs <;> omega
  have hretry : j.value "retry_count" P.reader.toInt 0 = some status.retryCount :=
    (defaultInt_congr P.reader hbut (by decide) 0).symm.trans
      (Json.value_of_field (v := .int status.retryCount)
        (by simp [← hdoc, ← hstatus, Server.handleGetStatus]) hint)
  simp only [hcall, ClientCall.run, SecClient.getProvisionStatus,
    sendRequest_of_exchange hexchange, hparse, SecClient.provisionStatusWrites,
    SecClient.writeUntil, hvin, hecuUid, hstate, herror, hretry, Option.map_some,
    ClientCall.present]

/-- `get_device_info` answers with the device record. -/
private theorem agrees_getDeviceInfo (hP : P.Lawful) (hcall : i.call = .getDeviceInfo) :
    Agrees P s i := by
  have hsends : i.call.sends P.base64 = some (.getDeviceInfo, .obj []) := hcall ▸ rfl
  let info := Sec.getDeviceInfo i.answers.surroundings.oracle s.daemon.component.service.fresh
    P.hsmType i.answers.diagConnected i.answers.provConnected i.answers.bindingState.toText
  have hserve : s.serve P i = (s, .info info) := by simp only [Server.serve, hcall, info]
  have hhandle : s.handle P (i.request .getDeviceInfo (P.tls.dump (.obj []))) .getDeviceInfo =
      (s, some (respond .success (Json.null.assign "device_info" (.str info)))) := rfl
  refine agrees_of_answered hP hsends hhandle hserve (Printable.null.assign (.str _))
    Json.isObject_assign fun T text hexchange hanswered => ?_
  have hfield : textField "device_info" (Json.null.assign "device_info" (.str info)) =
      some info := textField_of_field (by simp)
  simp only [hcall, ClientCall.run, SecClient.getDeviceInfo, sendRequest_of_exchange hexchange,
    hanswered.read (reads_textField "device_info") (by decide), hfield, Option.getD_some,
    ClientCall.present]

/-! ### TLS credentials -/

/-- The TLS profile is read from the field `profile` alone, with the default of the server. -/
private theorem reads_profileField :
    Reads ["profile"] fun j => j.value "profile" Json.text "mqtt" := by
  intro k j j' hk h
  exact defaultText_congr h (by simpa using hk) "mqtt"

/-- The name of the profile arrives. -/
private theorem requestProfile_dump (hP : P.Lawful) (profile : String) :
    Tls.Component.requestProfile P.tls
      (P.tls.dump (Json.null.assign "profile" (.str profile))) = profile := by
  have hprintable : (Json.null.assign "profile" (.str profile)).Printable :=
    Printable.null.assign (.str _)
  have hread := read_request hP hprintable reads_profileField.orderBlind
  have hvalue : (Json.null.assign "profile" (.str profile)).value "profile" Json.text "mqtt" =
      some profile := Json.value_of_field (v := .str profile) (by simp) rfl
  rw [hvalue] at hread
  rw [Tls.Component.requestProfile]
  cases hparse : P.tls.parse (P.tls.dump (Json.null.assign "profile" (.str profile))) with
  | none =>
    rw [hparse] at hread
    cases hread
  | some j =>
    rw [hparse, Option.bind_some] at hread
    exact congrArg (Option.getD · "mqtt") hread

/-- No state of a profile refuses with the code of success. -/
private theorem refusal_ne_success (ps : Tls.ProfileState) : ps.refusal ≠ .success := by
  rw [Tls.ProfileState.refusal]
  split_ifs with h
  · exact h
  · decide

/-- A code of refusal is not one of success. -/
private theorem getTlsCredential_error {L : Tls.Library} {provider : Tls.TlsCredentialProvider}
    {E : Tls.Collaborators} {profile : String} {caller : Tls.PeerIdentity}
    (h : provider.getTlsCredential L E profile caller = .error rc) : rc ≠ .success := by
  rw [Tls.TlsCredentialProvider.getTlsCredential] at h
  cases hps : provider.profiles.find? profile with
  | none =>
    rw [hps] at h
    cases h
    decide
  | some ps =>
    rw [hps] at h
    dsimp only at h
    split_ifs at h
    · cases h
      exact refusal_ne_success ps
    · cases h
      decide

/-- An error of the credential state is never the code of success. -/
private theorem getTlsCredentialState_error {provider : Tls.TlsCredentialProvider}
    {profile : String}
    (h : provider.getTlsCredentialState profile = .error rc) : rc ≠ .success := by
  rw [Tls.TlsCredentialProvider.getTlsCredentialState] at h
  cases hps : provider.profiles.find? profile with
  | none =>
    rw [hps] at h
    cases h
    decide
  | some ps =>
    rw [hps] at h
    cases h

/-- An error of a signature is never the code of success. -/
private theorem signTls_error {L : Tls.Library} {provider : Tls.TlsCredentialProvider}
    {E : Tls.Collaborators} {request : Tls.TlsSignRequest} {caller : Tls.PeerIdentity}
    (h : provider.signTls L E request caller = .error rc) : rc ≠ .success := by
  unfold Tls.TlsCredentialProvider.signTls at h
  cases hrp : Tls.decodeRef L provider request.privateKeyRef with
  | none =>
    rw [hrp] at h
    cases h
    decide
  | some rp =>
    rw [hrp] at h
    dsimp only at h
    by_cases hcaller : (!caller.valid || rp.callerService != caller.serviceName) = true
    · rw [if_pos hcaller] at h
      cases h
      decide
    · rw [if_neg hcaller] at h
      cases hps : provider.profiles.find? rp.profile with
      | none =>
        rw [hps] at h
        cases h
        decide
      | some ps =>
        rw [hps] at h
        dsimp only at h
        cases hcheck : firstReject (Tls.signChecks provider E rp ps request) with
        | none =>
          rw [hcheck] at h
          dsimp only at h
          split_ifs at h
          cases h
          decide
        | some e =>
          rw [hcheck] at h
          cases h
          have hmem := exists_of_firstReject_eq_some hcheck
          simp only [Tls.signChecks, List.mem_cons, List.not_mem_nil, or_false,
            Prod.mk.injEq] at hmem
          rcases hmem with ⟨-, rfl⟩ | ⟨-, rfl⟩ | ⟨-, rfl⟩ | ⟨-, rfl⟩ | ⟨-, rfl⟩ | ⟨-, rfl⟩
          · decide
          · decide
          · decide
          · exact refusal_ne_success ps
          · decide
          · decide

/-- No code but that of success is among the codes of a query. -/
private theorem not_mem_queryCodes (hrc : rc ≠ .success) :
    (SecClient.code rc : ℤ) ∉ SecClient.queryCodes := by
  have hzero : errorCodeValue rc ≠ 0 := mt errorCodeValue_eq_zero.mp hrc
  simp only [SecClient.queryCodes, SecClient.code, List.mem_singleton]
  exact_mod_cast hzero

/-- **A credential.** -/
theorem agrees_getTlsCredential (hP : P.Lawful) {profile : String}
    (hcall : i.call = .getTlsCredential profile)
    (htyped : (s.serve P i).2.WellTyped) : Agrees P s i := by
  let params : Json String := Json.null.assign "profile" (.str profile)
  let env := i.answers.surroundings.toSurroundings
  let caller := (Server.bare i).resolvePeer P
  have hsends : i.call.sends P.base64 = some (.getTlsCredential, params) := hcall ▸ rfl
  have hne : i.call ≠ .getProvisionStatus ∧ i.call ≠ .getDeviceInfo := by simp [hcall]
  have hcodes : i.call.resultCodes = SecClient.queryCodes := hcall ▸ rfl
  have hprofile : Tls.Component.requestProfile P.tls (P.tls.dump params) = profile :=
    requestProfile_dump hP profile
  have hserve : s.serve P i = s.serveCredential P i profile := by
    simp only [Server.serve, hcall]
  rw [Server.serveCredential] at hserve
  cases hprovider : s.daemon.component.provider with
  | none =>
    have hhandle : s.handle P (i.request .getTlsCredential (P.tls.dump params)) .getTlsCredential =
        (s, some (refusedWith .notImplemented "TLS provider not configured")) := by
      simp only [Server.handle, Server.answered, Server.handleGetTlsCredential, hprovider,
        Option.isNone_none, if_true]
    exact agrees_of_refusalWith hP hsends hhandle (by rw [hserve, hprovider])
      (hcodes ▸ not_mem_queryCodes (by decide)) hne
  | some provider =>
    -- with a provider, the component answers
    have hhandle : ∀ component reply,
        s.daemon.component.handleGetTlsCredential P.tls env (P.tls.dump params) caller =
          (component, reply) →
        s.handle P (i.request .getTlsCredential (P.tls.dump params)) .getTlsCredential =
          ({ s with daemon.component := component }, some (Server.tlsResponse P reply)) := by
      intro component reply hreply
      have hsome : s.daemon.component.provider.isNone = false := by
        rw [hprovider, Option.isNone_some]
      rw [Server.handle, Server.answered, Server.handleGetTlsCredential, hsome,
        if_neg Bool.false_ne_true]
      change ({ s with daemon.component := (s.daemon.component.handleGetTlsCredential P.tls env
        (P.tls.dump params) caller).1 }, some (Server.tlsResponse P
          (s.daemon.component.handleGetTlsCredential P.tls env (P.tls.dump params) caller).2)) = _
      rw [hreply]
    rw [hprovider] at hserve
    dsimp only at hserve
    by_cases hauth : provider.isAuthorized profile caller = true
    · rw [hauth, Bool.not_true, if_neg Bool.false_ne_true] at hserve
      let component := s.daemon.component.healed P.tls env profile
      cases hhealed : component.provider with
      | none =>
        have hreply : s.daemon.component.handleGetTlsCredential P.tls env (P.tls.dump params)
            caller = (component, .refused .notImplemented) := by
          simp only [Tls.Component.handleGetTlsCredential, hprovider, hprofile, hauth,
            Bool.not_true, Bool.false_eq_true, if_false]
          rw [hhealed]
        rw [hhealed] at hserve
        exact agrees_of_refusal hP hsends (hhandle _ _ hreply) hserve
          (hcodes ▸ not_mem_queryCodes (by decide)) hne
      | some provider' =>
        rw [hhealed] at hserve
        dsimp only at hserve
        cases hget : provider'.getTlsCredential P.tls
            (component.collaborators env env.clock.serve) profile caller with
        | error rc =>
          have hreply : s.daemon.component.handleGetTlsCredential P.tls env (P.tls.dump params)
              caller = (component, .refused rc) := by
            simp only [Tls.Component.handleGetTlsCredential, hprovider, hprofile, hauth,
              Bool.not_true, Bool.false_eq_true, if_false]
            rw [hhealed]
            dsimp only
            rw [hget]
          rw [hget] at hserve
          exact agrees_of_refusal hP hsends (hhandle _ _ hreply) hserve
            (hcodes ▸ not_mem_queryCodes (getTlsCredential_error hget)) hne
        | ok bundle =>
          have hreply : s.daemon.component.handleGetTlsCredential P.tls env (P.tls.dump params)
              caller = (component, .credential bundle) := by
            simp only [Tls.Component.handleGetTlsCredential, hprovider, hprofile, hauth,
              Bool.not_true, Bool.false_eq_true, if_false]
            rw [hhealed]
            dsimp only
            rw [hget]
          rw [hget] at hserve
          have hbundle : CredentialWellTyped bundle := by
            rw [hserve] at htyped
            exact htyped
          have hsuccess := hhandle _ _ hreply
          change _ = (_, some (respond .success (tlsCredentialToJson P.base64 bundle))) at hsuccess
          exact agrees_of_fetch .credential hP hsends hsuccess hserve
            (printable_tlsCredential P.base64 hbundle) Json.isObject_assign
            (reads_tlsCredential P.base64) (by decide)
            (tlsCredentialFromJson_toJson hP.base64 hbundle) (fun T => by rw [hcall]; rfl) rfl
    · rw [Bool.not_eq_true] at hauth
      have hreply : s.daemon.component.handleGetTlsCredential P.tls env (P.tls.dump params)
          caller = (s.daemon.component, .refused .aclDenied) := by
        simp only [Tls.Component.handleGetTlsCredential, hprovider, hprofile, hauth,
          Bool.not_false, if_true]
      rw [hauth, Bool.not_false, if_pos rfl] at hserve
      exact agrees_of_refusal hP hsends (hhandle _ _ hreply) hserve
        (hcodes ▸ not_mem_queryCodes (by decide)) hne

/-- **The state of a credential.** -/
theorem agrees_getTlsCredentialState (hP : P.Lawful) {profile : String}
    (hcall : i.call = .getTlsCredentialState profile)
    (htyped : (s.serve P i).2.WellTyped) : Agrees P s i := by
  let params : Json String := Json.null.assign "profile" (.str profile)
  let env := i.answers.surroundings.toSurroundings
  have hsends : i.call.sends P.base64 = some (.getTlsCredentialState, params) := hcall ▸ rfl
  have hne : i.call ≠ .getProvisionStatus ∧ i.call ≠ .getDeviceInfo := by simp [hcall]
  have hcodes : i.call.resultCodes = SecClient.queryCodes := hcall ▸ rfl
  have hprofile : Tls.Component.requestProfile P.tls (P.tls.dump params) = profile :=
    requestProfile_dump hP profile
  have hserve : s.serve P i = s.serveCredentialState P i profile := by
    simp only [Server.serve, hcall]
  rw [Server.serveCredentialState] at hserve
  have hhandle : ∀ component reply,
      s.daemon.component.handleGetTlsCredentialState P.tls env (P.tls.dump params) =
        (component, reply) →
      s.handle P (i.request .getTlsCredentialState (P.tls.dump params)) .getTlsCredentialState =
        ({ s with daemon.component := component }, some (Server.tlsResponse P reply)) := by
    intro component reply hreply
    change ({ s with daemon.component := (s.daemon.component.handleGetTlsCredentialState P.tls env
      (P.tls.dump params)).1 }, some (Server.tlsResponse P
        (s.daemon.component.handleGetTlsCredentialState P.tls env (P.tls.dump params)).2)) = _
    rw [hreply]
  cases hprovider : s.daemon.component.provider with
  | none =>
    have hreply : s.daemon.component.handleGetTlsCredentialState P.tls env (P.tls.dump params) =
        (s.daemon.component, .refused .notImplemented) := by
      simp only [Tls.Component.handleGetTlsCredentialState, hprovider]
    exact agrees_of_refusal hP hsends (hhandle _ _ hreply) (by rw [hserve, hprovider])
      (hcodes ▸ not_mem_queryCodes (by decide)) hne
  | some provider =>
    rw [hprovider] at hserve
    dsimp only at hserve
    let component := s.daemon.component.healed P.tls env profile
    cases hhealed : component.provider with
    | none =>
      have hreply : s.daemon.component.handleGetTlsCredentialState P.tls env
          (P.tls.dump params) = (component, .refused .notImplemented) := by
        simp only [Tls.Component.handleGetTlsCredentialState, hprovider, hprofile]
        rw [hhealed]
      rw [hhealed] at hserve
      exact agrees_of_refusal hP hsends (hhandle _ _ hreply) hserve
        (hcodes ▸ not_mem_queryCodes (by decide)) hne
    | some provider' =>
      rw [hhealed] at hserve
      dsimp only at hserve
      cases hget : provider'.getTlsCredentialState profile with
      | error rc =>
        have hreply : s.daemon.component.handleGetTlsCredentialState P.tls env
            (P.tls.dump params) = (component, .refused rc) := by
          simp only [Tls.Component.handleGetTlsCredentialState, hprovider, hprofile]
          rw [hhealed]
          dsimp only
          rw [hget]
        rw [hget] at hserve
        exact agrees_of_refusal hP hsends (hhandle _ _ hreply) hserve
          (hcodes ▸ not_mem_queryCodes (getTlsCredentialState_error hget)) hne
      | ok state =>
        have hreply : s.daemon.component.handleGetTlsCredentialState P.tls env
            (P.tls.dump params) = (component, .state state) := by
          simp only [Tls.Component.handleGetTlsCredentialState, hprovider, hprofile]
          rw [hhealed]
          dsimp only
          rw [hget]
        rw [hget] at hserve
        have hversion : state.version < 2 ^ 64 := by
          rw [hserve] at htyped
          exact htyped
        have hsuccess := hhandle _ _ hreply
        change _ = (_, some (respond .success (tlsCredentialStateToJson state))) at hsuccess
        exact agrees_of_fetch .state hP hsends hsuccess hserve
          (printable_tlsCredentialState hversion) Json.isObject_assign
          (reads_tlsCredentialState P.reader) (by decide)
          (tlsCredentialStateFromJson_toJson P.reader hversion) (fun T => by rw [hcall]; rfl) rfl

/-- **A signature.** -/
theorem agrees_signTls (hP : P.Lawful) {request : Tls.TlsSignRequest} {context : Bytes}
    {requestId : String} (hcall : i.call = .signTls request context requestId) :
    Agrees P s i := by
  let params : Json String := signTlsToJson P.base64 request context requestId
  let env := i.answers.surroundings.toSurroundings
  let caller := (Server.bare i).resolvePeer P
  have hsends : i.call.sends P.base64 = some (.signTls, params) := hcall ▸ rfl
  have hne : i.call ≠ .getProvisionStatus ∧ i.call ≠ .getDeviceInfo := by simp [hcall]
  have hcodes : i.call.resultCodes = SecClient.queryCodes := hcall ▸ rfl
  have hrequest : Tls.Component.signRequest P.tls P.base64.decode (P.tls.dump params) =
      some request := by
    rw [signRequest_eq, read_request hP (printable_signTls P.base64 request context requestId)
      (reads_signRequest P.base64).orderBlind]
    exact signRequestFromJson_signTlsToJson hP.base64 request context requestId
  have hserve : s.serve P i = (s, s.serveSignature P i request) := by
    simp only [Server.serve, hcall]
  rw [Server.serveSignature] at hserve
  have hhandle : ∀ reply,
      s.daemon.component.handleSignTls P.tls P.base64.decode env (P.tls.dump params) caller =
        reply →
      s.handle P (i.request .signTls (P.tls.dump params)) .signTls =
        (s, some (Server.tlsResponse P reply)) := by
    rintro reply rfl
    rfl
  cases hprovider : s.daemon.component.provider with
  | none =>
    have hreply : s.daemon.component.handleSignTls P.tls P.base64.decode env
        (P.tls.dump params) caller = .refused .notImplemented := by
      simp only [Tls.Component.handleSignTls, hprovider]
    exact agrees_of_refusal hP hsends (hhandle _ hreply) (by rw [hserve, hprovider])
      (hcodes ▸ not_mem_queryCodes (by decide)) hne
  | some provider =>
    rw [hprovider] at hserve
    dsimp only at hserve
    cases hsign : provider.signTls P.tls (s.daemon.component.collaborators env env.clock.serve)
        request caller with
    | error rc =>
      have hreply : s.daemon.component.handleSignTls P.tls P.base64.decode env
          (P.tls.dump params) caller = .refused rc := by
        simp only [Tls.Component.handleSignTls, hprovider, hrequest, hsign]
      rw [hsign] at hserve
      exact agrees_of_refusal hP hsends (hhandle _ hreply) hserve
        (hcodes ▸ not_mem_queryCodes (signTls_error hsign)) hne
    | ok signature =>
      have hreply : s.daemon.component.handleSignTls P.tls P.base64.decode env
          (P.tls.dump params) caller = .signature signature := by
        simp only [Tls.Component.handleSignTls, hprovider, hrequest, hsign]
      rw [hsign] at hserve
      exact agrees_of_bytes hP hsends (hhandle _ hreply) hserve (by decide)
        fun T => by rw [hcall]; rfl

/-! ### Business keys -/

/-- The refusals of the heads of the handlers come with no result. -/
private theorem head_refusals_not_mem (call : ClientCall) :
    (SecClient.code .notImplemented : ℤ) ∉ call.resultCodes ∧
      (SecClient.code .aclDenied : ℤ) ∉ call.resultCodes := by
  have hcodes : call.resultCodes = [] ∨ call.resultCodes = SecClient.importCodes ∨
      call.resultCodes = SecClient.importKl1Codes ∨
      call.resultCodes = SecClient.queryCodes := by
    cases call <;> simp [ClientCall.resultCodes]
  rcases hcodes with h | h | h | h <;> rw [h] <;> decide

/-- The head of the handlers, which `serveKeys` shares. -/
private theorem agrees_of_keys {body : Keyprov.World → Server × Option Response}
    {serveBody : Keyprov.World → Server × Answer} (hP : P.Lawful)
    (hsends : i.call.sends P.base64 = some (m, p))
    (hhandle : s.handle P (i.request m (P.tls.dump p)) m =
      s.withBusinessKeys P (Server.bare i) body)
    (hserve : s.serve P i = s.serveKeys P i serveBody)
    (hne : i.call ≠ .getProvisionStatus ∧ i.call ≠ .getDeviceInfo)
    (hbody : ∀ w, s.handle P (i.request m (P.tls.dump p)) m = body w →
      s.serve P i = serveBody w → Agrees P s i) : Agrees P s i := by
  obtain ⟨hmissing, hdenied⟩ := head_refusals_not_mem i.call
  unfold Server.withBusinessKeys at hhandle
  unfold Server.serveKeys at hserve
  cases hkeys : s.daemon.businessKeys with
  | none =>
    rw [hkeys] at hhandle hserve
    exact agrees_of_refusal hP hsends hhandle hserve hmissing hne
  | some w =>
    rw [hkeys] at hhandle hserve
    dsimp only at hhandle hserve
    by_cases hpeer : (!businessKeyPeerAllowed P.businessKeyPeerService
        ((Server.bare i).resolvePeer P)) = true
    · rw [if_pos hpeer] at hhandle hserve
      exact agrees_of_refusal hP hsends hhandle hserve hdenied hne
    · rw [if_neg hpeer] at hhandle hserve
      exact hbody w hhandle hserve

/-- A call for statuses is answered with statuses, if at all. -/
private theorem reply_getStatus (D : Deployment) (w : Keyprov.World) (domain : String)
    (purposes : List String) (ω : Keyprov.Oracle) :
    (∃ rc items, (callStep D w ⟨.getStatus domain purposes, ω⟩).2 = .statuses rc items) ∨
      (callStep D w ⟨.getStatus domain purposes, ω⟩).2 = .crashed := by
  simp only [callStep]
  cases getStatus D domain purposes { w with asked := {} } with
  | done a w' => exact .inl ⟨_, _, rfl⟩
  | crashed d => exact .inr rfl

/-- An import is answered with a result, if at all. -/
private theorem reply_importBatch (D : Deployment) (w : Keyprov.World) (requestId domain : String)
    (items : List WrappedKeyItem) (ω : Keyprov.Oracle) :
    (∃ rc out, (callStep D w ⟨.importBatch requestId domain items, ω⟩).2 = .result rc out) ∨
      (callStep D w ⟨.importBatch requestId domain items, ω⟩).2 = .crashed := by
  simp only [callStep]
  cases importBatch D ω requestId domain items { w with asked := {} } with
  | done a w' => exact .inl ⟨_, _, rfl⟩
  | crashed d => exact .inr rfl

/-- A KL1 import is answered with a result and the facts, if at all. -/
private theorem reply_importKl1 (D : Deployment) (w : Keyprov.World) (requestId domain : String)
    (items : List WrappedKeyItem) (context : KeyprovImportContext) (ω : Keyprov.Oracle) :
    (∃ rc out attach, (callStep D w ⟨.importKl1 requestId domain items context, ω⟩).2 =
        .resultKl1 rc out attach) ∨
      (callStep D w ⟨.importKl1 requestId domain items context, ω⟩).2 = .crashed := by
  simp only [callStep]
  cases importKl1 D ω requestId domain items context { w with asked := {} } with
  | done a w' => exact .inl ⟨_, _, _, rfl⟩
  | crashed d => exact .inr rfl

/-- So is a query. -/
private theorem reply_getImportResultKl1 (D : Deployment) (w : Keyprov.World) (requestId : String)
    (ω : Keyprov.Oracle) :
    (∃ rc out attach, (callStep D w ⟨.getImportResultKl1 requestId, ω⟩).2 =
        .resultKl1 rc out attach) ∨
      (callStep D w ⟨.getImportResultKl1 requestId, ω⟩).2 = .crashed := by
  simp only [callStep]
  cases getImportResultKl1 D ω requestId { w with asked := {} } with
  | done a w' => exact .inl ⟨_, _, _, rfl⟩
  | crashed d => exact .inr rfl

/-- The domain and the purposes of a request. -/
def domainAndPurposes (j : Json String) : Option (String × List String) :=
  (j.value "business_domain" Json.text businessDomainV2c).bind fun domain =>
    (Server.purposesField j).map fun purposes => (domain, purposes)

/-- The status query reads its domain and its purposes and no other field. -/
private theorem reads_domainAndPurposes :
    Reads ["business_domain", "purposes"] domainAndPurposes := by
  intro k j j' hk h
  simp only [List.mem_cons, List.not_mem_nil, or_false, not_or] at hk
  have hpurposes : Server.purposesField j = Server.purposesField j' := by
    rw [purposesField_eq]
    exact arrayField_congr OrderBlind.text h hk.2
  simp only [domainAndPurposes, defaultText_congr h hk.1, hpurposes]

/-- Statuses arrive, or the daemon has died. -/
private theorem agrees_of_statuses {reply : Keyprov.Reply} (hP : P.Lawful)
    (hsends : i.call.sends P.base64 = some (m, p))
    (hhandle : s.handle P (i.request m (P.tls.dump p)) m =
      (s', Server.statusesResponse P reply))
    (hserve : s.serve P i = (s', .keys reply)) (htyped : ReplyWellTyped reply)
    (hreply : (∃ rc items, reply = .statuses rc items) ∨ reply = .crashed)
    (hrun : ∀ T, i.call.run P.reader P.base64 T =
      .statuses (SecClient.blankMethod P.reader T m p [] (SecClient.statusesFromJson P.base64)).1
        (SecClient.blankMethod P.reader T m p [] (SecClient.statusesFromJson P.base64)).2) :
    Agrees P s i := by
  rcases hreply with ⟨rc, items, rfl⟩ | rfl
  · by_cases hrc : rc = .success
    · subst hrc
      rw [Server.statusesResponse, if_pos rfl] at hhandle
      have hmap : (items.map (businessKeyStatusToJson P.base64)).mapM
          (businessKeyStatusFromJson P.base64) = some (items.map id) :=
        mapM_map_eq fun item hi => businessKeyStatusFromJson_toJson hP.base64 (htyped item hi)
      have hpayload : SecClient.statusesFromJson P.base64 (Json.null.assign "items"
          (.arr (items.map (businessKeyStatusToJson P.base64)))) = some items := by
        rw [SecClient.statusesFromJson, Json.field?_assign, if_pos rfl]
        dsimp only
        rw [hmap, List.map_id]
      exact agrees_of_blank .statuses hP hsends hhandle hserve
        (Printable.null.assign (.arr_map fun item hi =>
          printable_businessKeyStatus P.base64 (htyped item hi)))
        Json.isObject_assign
        (reads_arrayField (reads_businessKeyStatus P.base64).orderBlind "items")
        (by decide) hpayload hrun rfl
    · have hrefused : s.handle P (i.request m (P.tls.dump p)) m = (s', some (refused rc)) := by
        rw [hhandle, Server.statusesResponse, if_neg hrc]
        rfl
      refine agrees_of_answered hP hsends hrefused hserve (printable_successJson false) rfl
        fun T text hexchange hanswered => ?_
      rw [hrun, blankMethod_of_refused hexchange hanswered hrc, ClientCall.present,
        ClientCall.presentKeys, if_neg hrc]
  · exact agrees_of_lost hsends hhandle hserve rfl

/-- **The statuses of the keys.** -/
theorem agrees_getBusinessKeyStatus (hP : P.Lawful) {domain : String} {purposes : List String}
    (hcall : i.call = .getBusinessKeyStatus domain purposes)
    (htyped : (s.serve P i).2.WellTyped) : Agrees P s i := by
  let params : Json String :=
    Json.null
      |>.assign "business_domain" (.str domain)
      |>.assign "purposes" (.arr (purposes.map .str))
  have hsends : i.call.sends P.base64 = some (.getBusinessKeyStatus, params) := hcall ▸ rfl
  have hne : i.call ≠ .getProvisionStatus ∧ i.call ≠ .getDeviceInfo := by simp [hcall]
  have hparams : params.Printable :=
    (Printable.null.assign (.str _)).assign (.arr_map fun _ _ => .str _)
  have hmap : (purposes.map Json.str).mapM Json.text = some (purposes.map id) :=
    mapM_map_eq fun _ _ => rfl
  have hread : (P.tls.parse (P.tls.dump params)).bind domainAndPurposes =
      some (domain, purposes) := by
    have hdomain : params.value "business_domain" Json.text businessDomainV2c = some domain :=
      Json.value_of_field (v := .str domain) (by simp [params]) rfl
    have hpurposes : params.field? "purposes" = some (.arr (purposes.map .str)) := by
      simp [params]
    rw [read_request hP hparams reads_domainAndPurposes.orderBlind, domainAndPurposes, hdomain,
      Option.bind_some, purposesField_eq, arrayField, hpurposes]
    dsimp only
    rw [hmap, List.map_id, Option.map_some]
  unfold domainAndPurposes at hread
  refine agrees_of_keys hP hsends rfl (by simp only [Server.serve, hcall]; rfl) hne
    fun w hhandle hserve => ?_
  simp only [Invocation.request, hread] at hhandle
  rw [hserve] at htyped
  exact agrees_of_statuses hP hsends hhandle hserve htyped (reply_getStatus ..)
    fun T => by rw [hcall]; rfl

section Results

variable {α : Type} {a : α} {keys : List String} {T : Transport} {text : Bytes}

/-- A result is read in the same way under every code. -/
private theorem resultMethod_of_read (definite : List ℤ) (blank : α) {read : Json String → Option α}
    (hexchange : T.exchange m p = (0, text))
    (ha : Answered P.reader text rc payload) (hstate : payload.contains "state" = true)
    (hread : Reads keys read) (hkeys : "status" ∉ keys) (hpayload : read payload = some a) :
    SecClient.resultMethod P.reader T m p definite blank read read =
      (SecClient.code rc, some a) := by
  by_cases hrc : (SecClient.code rc : ℤ) ∈ definite
  · exact resultMethod_of_definite hexchange ha hrc hread hkeys hpayload
  · exact resultMethod_of_other hexchange ha hrc hstate hread hkeys hpayload

end Results

/-- Adding a result code to a payload keeps its texts valid. -/
private theorem printable_resultPayload (hpayload : payload.Printable) :
    (Server.resultPayload rc payload).Printable :=
  hpayload.assignIf fun _ => .bool _

/-- A payload with a result code is still an object. -/
private theorem isObject_resultPayload (hobj : payload.isObject = true) :
    (Server.resultPayload rc payload).isObject = true := by
  rw [Server.resultPayload, Json.isObject_assignIf, hobj, Bool.or_true]

/-- The field `state` of a payload survives the addition of a result code. -/
private theorem contains_resultPayload (hstate : payload.contains "state" = true) :
    (Server.resultPayload rc payload).contains "state" = true := by
  rw [Json.contains] at hstate ⊢
  rw [Server.resultPayload, Json.field?_assignIf, if_neg fun h => absurd h.1 (by decide)]
  exact hstate

/-- The mark of a failure is not read. -/
private theorem read_resultPayload {α : Type} {keys : List String} {read : Json String → Option α}
    (hread : Reads keys read) (hkeys : "success" ∉ keys) (hobj : payload.isObject = true) :
    read (Server.resultPayload rc payload) = read payload :=
  hread.assignIf hobj hkeys

/-- The document of an import result has the field `state`, by which the client tells a result from
a bare refusal. -/
private theorem contains_importResultToJson (B : Base64Functions) (r : ImportResult) :
    (importResultToJson B r).contains "state" = true := by
  simp [importResultToJson, Json.contains]

/-- The facts beside a result do not disturb it. -/
private theorem importResultFromJson_importResultKl1ToJson (B : Base64Functions)
    (r out : ImportResult)
    (a : KeyprovResultAttachment) :
    importResultFromJson B (importResultKl1ToJson B r a) out =
      importResultFromJson B (importResultToJson B r) out := by
  have hobj : (importResultToJson B r).isObject = true := by simp [importResultToJson]
  have hreads := reads_importResult B out
  calc importResultFromJson B (importResultKl1ToJson B r a) out
      = _ := hreads.assignIf Json.isObject_assign (by decide)
    _ = _ := hreads.assign Json.isObject_assign (by decide)
    _ = _ := hreads.assign Json.isObject_assign (by decide)
    _ = _ := hreads.assign Json.isObject_assign (by decide)
    _ = _ := hreads.assign Json.isObject_assign (by decide)
    _ = importResultFromJson B (importResultToJson B r) out := hreads.assign hobj (by decide)

/-- **A legacy import.** -/
theorem agrees_importWrappedBusinessKeys (hP : P.Lawful) {requestId domain : String}
    {items : List WrappedKeyItem}
    (hcall : i.call = .importWrappedBusinessKeys requestId domain items)
    (hitems : ∀ item ∈ items, ItemWellTyped item)
    (htyped : (s.serve P i).2.WellTyped) : Agrees P s i := by
  let params := importWrappedBusinessKeys P.base64 requestId domain items
  have hsends : i.call.sends P.base64 = some (.importWrappedBusinessKeys, params) := hcall ▸ rfl
  have hne : i.call ≠ .getProvisionStatus ∧ i.call ≠ .getDeviceInfo := by simp [hcall]
  have hread : (P.tls.parse (P.tls.dump params)).bind (importRequestFromJson P.base64) =
      some (requestId, domain, items) := by
    rw [read_request hP (printable_importRequest P.base64 requestId domain hitems)
      (reads_importRequest P.base64).orderBlind]
    exact importRequestFromJson_importWrappedBusinessKeys hP.base64 requestId domain hitems
  refine agrees_of_keys hP hsends rfl (by simp only [Server.serve, hcall]; rfl) hne
    fun w hhandle hserve => ?_
  simp only [Invocation.request, hread] at hhandle
  rw [hserve] at htyped
  rcases reply_importBatch P.keyprov w requestId domain items i.answers.provisioning with
    ⟨rc, out, hreply⟩ | hreply
  · have hout : (s.callBusinessKeys P (Server.bare i) w (.importBatch requestId domain items)).2 =
        .result rc out := hreply
    rw [hout] at hserve htyped
    have hresult : ResultWellTyped out := htyped
    have hobj : (importResultToJson P.base64 out).isObject = true := by simp [importResultToJson]
    have hpayload : importResultFromJson P.base64
        (Server.resultPayload rc (importResultToJson P.base64 out)) { requestId } = some out :=
      (read_resultPayload (reads_importResult P.base64 { requestId }) (by decide) hobj).trans
        (importResultFromJson_toJson hP.base64 hresult requestId)
    have hhandle' : s.handle P (i.request .importWrappedBusinessKeys (P.tls.dump params))
        .importWrappedBusinessKeys =
          ((s.callBusinessKeys P (Server.bare i) w (.importBatch requestId domain items)).1,
            some (respond rc (Server.resultPayload rc (importResultToJson P.base64 out)))) := by
      refine hhandle.trans (Prod.ext rfl ?_)
      exact congrArg (Server.resultResponse P) hout
    refine agrees_of_answered hP hsends hhandle' hserve
      (printable_resultPayload (printable_importResult P.base64 hresult))
      (isObject_resultPayload hobj) fun T text hexchange hanswered => ?_
    have hmethod := resultMethod_of_read SecClient.importCodes { requestId } hexchange hanswered
      (contains_resultPayload (contains_importResultToJson P.base64 out))
      (reads_importResult P.base64 { requestId }) (by decide) hpayload
    rw [hcall, ClientCall.run, SecClient.importWrappedBusinessKeys, hmethod]
    rfl
  · have hout : (s.callBusinessKeys P (Server.bare i) w (.importBatch requestId domain items)).2 =
        .crashed := hreply
    rw [hout] at hserve
    refine agrees_of_lost hsends (hhandle.trans (Prod.ext rfl ?_)) hserve (by rw [hcall]; rfl)
    exact congrArg (Server.resultResponse P) hout

/-- A result with its facts, as the client reads both. -/
private theorem resultMethod_kl1 {T : Transport} {text : Bytes} (definite : List ℤ)
    (requestId : String)
    {out : ImportResult} {attach : KeyprovResultAttachment} (hB : P.base64.Lawful)
    (hexchange : T.exchange m p = (0, text))
    (ha : Answered P.reader text rc
      (Server.resultPayload rc (importResultKl1ToJson P.base64 out attach)))
    (hout : ResultWellTyped out) (hattach : AttachmentWellTyped attach) :
    SecClient.resultMethod P.reader T m p definite ({ requestId }, {})
        (SecClient.resultKl1FromJson P.base64 · { requestId })
        (fun j => (importResultFromJson P.base64 j { requestId }).map fun result => (result, {})) =
      (SecClient.code rc,
        some (out, if (SecClient.code rc : ℤ) ∈ definite then attachedFacts attach else {})) := by
  let payload := importResultKl1ToJson P.base64 out attach
  have hobj : payload.isObject = true := by simp [payload, importResultKl1ToJson]
  have hstate : payload.contains "state" = true := by
    simp [payload, importResultKl1ToJson, importResultToJson, Json.contains]
  have hresult : importResultFromJson P.base64 payload { requestId } = some out :=
    (importResultFromJson_importResultKl1ToJson ..).trans
      (importResultFromJson_toJson hB hout requestId)
  have hfacts : keyprovAttachmentFromJson secClientBuildId payload =
      some (attachedFacts attach) :=
    keyprovAttachmentFromJson_importResultKl1ToJson P.base64 secClientBuildId out hattach
  by_cases hrc : (SecClient.code rc : ℤ) ∈ definite
  · have hreads := reads_resultKl1 P.base64 { requestId }
    have hread : SecClient.resultKl1FromJson P.base64 (Server.resultPayload rc payload)
        { requestId } = some (out, attachedFacts attach) := by
      refine (read_resultPayload hreads (by decide) hobj).trans ?_
      simp only [SecClient.resultKl1FromJson, hresult, hfacts, Option.bind_eq_bind,
        Option.bind_some]
    rw [resultMethod_of_definite hexchange ha hrc hreads (by decide) hread, if_pos hrc]
  · have hreads : Reads importResultKeys fun j =>
        (importResultFromJson P.base64 j { requestId }).map fun result =>
          (result, ({} : KeyprovResultAttachment)) := by
      intro k j j' hk h
      exact congrArg (Option.map _) (reads_importResult P.base64 { requestId } hk h)
    have hread : ((importResultFromJson P.base64 (Server.resultPayload rc payload)
        { requestId }).map fun result => (result, ({} : KeyprovResultAttachment))) =
          some (out, {}) := by
      refine (read_resultPayload hreads (by decide) hobj).trans ?_
      rw [hresult, Option.map_some]
    rw [resultMethod_of_other hexchange ha hrc (contains_resultPayload hstate) hreads (by decide)
      hread, if_neg hrc]

/-- **A KL1 import** that is sent. -/
theorem agrees_importWrappedBusinessKeysKl1 (hP : P.Lawful) {requestId domain : String}
    {items : List WrappedKeyItem} {context : KeyprovImportContext}
    (hcall : i.call = .importWrappedBusinessKeysKl1 requestId domain items context)
    {params : Json String}
    (hsent : importWrappedBusinessKeysKl1 P.base64 requestId domain items context = some params)
    (hitems : ∀ item ∈ items, ItemWellTyped item) (hcontext : ContextWellTyped context)
    (htyped : (s.serve P i).2.WellTyped) : Agrees P s i := by
  have hsends : i.call.sends P.base64 = some (.importWrappedBusinessKeysKl1, params) := by
    rw [hcall, ClientCall.sends, hsent, Option.map_some]
  have hne : i.call ≠ .getProvisionStatus ∧ i.call ≠ .getDeviceInfo := by simp [hcall]
  have hread : (P.tls.parse (P.tls.dump params)).bind (importRequestKl1FromJson P.base64) =
      some (requestId, domain, items, context) := by
    rw [read_request hP (printable_importRequestKl1 P.base64 hitems hcontext hsent)
      (reads_importRequestKl1 P.base64).orderBlind]
    exact importRequestKl1FromJson_importWrappedBusinessKeysKl1 hP.base64 requestId domain hitems
      hcontext hsent
  refine agrees_of_keys hP hsends rfl (by simp only [Server.serve, hcall]; rfl) hne
    fun w hhandle hserve => ?_
  simp only [Invocation.request, hread] at hhandle
  rw [hserve] at htyped
  rcases reply_importKl1 P.keyprov w requestId domain items context i.answers.provisioning with
    ⟨rc, out, attach, hreply⟩ | hreply
  · have hout : (s.callBusinessKeys P (Server.bare i) w
        (.importKl1 requestId domain items context)).2 = .resultKl1 rc out attach := hreply
    rw [hout] at hserve htyped
    obtain ⟨hresult, hattach⟩ : ResultWellTyped out ∧ AttachmentWellTyped attach := htyped
    have hhandle' : s.handle P (i.request .importWrappedBusinessKeysKl1 (P.tls.dump params))
        .importWrappedBusinessKeysKl1 =
          ((s.callBusinessKeys P (Server.bare i) w (.importKl1 requestId domain items context)).1,
            some (respond rc
              (Server.resultPayload rc (importResultKl1ToJson P.base64 out attach)))) := by
      refine hhandle.trans (Prod.ext rfl ?_)
      exact congrArg (Server.resultResponse P) hout
    refine agrees_of_answered hP hsends hhandle' hserve
      (printable_resultPayload (printable_importResultKl1 P.base64 hresult hattach))
      (isObject_resultPayload (by simp [importResultKl1ToJson]))
      fun T text hexchange hanswered => ?_
    have hmethod := resultMethod_kl1 SecClient.importKl1Codes requestId hP.base64 hexchange
      hanswered hresult hattach
    rw [hcall, ClientCall.run, SecClient.importWrappedBusinessKeysKl1, hsent]
    dsimp only
    rw [hmethod]
    rfl
  · have hout : (s.callBusinessKeys P (Server.bare i) w
        (.importKl1 requestId domain items context)).2 = .crashed := hreply
    rw [hout] at hserve
    refine agrees_of_lost hsends (hhandle.trans (Prod.ext rfl ?_)) hserve (by rw [hcall]; rfl)
    exact congrArg (Server.resultResponse P) hout

/-- **The two queries for a result**, which send the same request. -/
theorem agrees_of_query (hP : P.Lawful) {requestId : String}
    (hcall : i.call = .getBusinessKeyImportResult requestId ∨
      i.call = .getBusinessKeyImportResultKl1 requestId)
    (htyped : (s.serve P i).2.WellTyped) : Agrees P s i := by
  let params : Json String := Json.null.assign "request_id" (.str requestId)
  have hsends : i.call.sends P.base64 = some (.getBusinessKeyImportResult, params) := by
    rcases hcall with h | h <;> rw [h] <;> rfl
  have hne : i.call ≠ .getProvisionStatus ∧ i.call ≠ .getDeviceInfo := by
    rcases hcall with h | h <;> simp [h]
  have hread : (P.tls.parse (P.tls.dump params)).bind (textField "request_id") =
      some requestId := by
    rw [read_request hP (Printable.null.assign (.str _)) (reads_textField "request_id").orderBlind]
    exact textField_of_field (by simp)
  let served : Keyprov.World → Server × Answer := fun w =>
    ((s.callBusinessKeys P (Server.bare i) w (.getImportResultKl1 requestId)).1,
      .keys (Server.queryReply w
        (s.callBusinessKeys P (Server.bare i) w (.getImportResultKl1 requestId)).2))
  have hserved : s.serve P i = s.serveKeys P i served := by
    rcases hcall with h | h <;> simp only [Server.serve, h] <;> rfl
  refine agrees_of_keys hP hsends rfl hserved hne fun w hhandle hserve => ?_
  simp only [Invocation.request, hread] at hhandle
  rw [hserve] at htyped
  rcases reply_getImportResultKl1 P.keyprov w requestId i.answers.provisioning with
    ⟨rc, out, attach, hreply⟩ | hreply
  · let shown : ImportResult := if w.svc.shuttingDown then {} else out
    have hquery : Server.queryReply w
        (s.callBusinessKeys P (Server.bare i) w (.getImportResultKl1 requestId)).2 =
          .resultKl1 rc shown attach := congrArg (Server.queryReply w) hreply
    simp only [served, hquery] at hserve htyped
    obtain ⟨hresult, hattach⟩ : ResultWellTyped shown ∧ AttachmentWellTyped attach := htyped
    have hhandle' : s.handle P (i.request .getBusinessKeyImportResult (P.tls.dump params))
        .getBusinessKeyImportResult =
          ((s.callBusinessKeys P (Server.bare i) w (.getImportResultKl1 requestId)).1,
            some (respond rc
              (Server.resultPayload rc (importResultKl1ToJson P.base64 shown attach)))) := by
      refine hhandle.trans (Prod.ext rfl ?_)
      exact congrArg (Server.resultResponse P) hquery
    refine agrees_of_answered hP hsends hhandle' hserve
      (printable_resultPayload (printable_importResultKl1 P.base64 hresult hattach))
      (isObject_resultPayload (by simp [importResultKl1ToJson]))
      fun T text hexchange hanswered => ?_
    rcases hcall with hcall | hcall
    · have hobj : (importResultKl1ToJson P.base64 shown attach).isObject = true := by
        simp [importResultKl1ToJson]
      have hstate : (importResultKl1ToJson P.base64 shown attach).contains "state" = true := by
        simp [importResultKl1ToJson, importResultToJson, Json.contains]
      have hpayload : importResultFromJson P.base64
          (Server.resultPayload rc (importResultKl1ToJson P.base64 shown attach)) { requestId } =
            some shown := by
        refine (read_resultPayload (reads_importResult P.base64 { requestId }) (by decide)
          hobj).trans ?_
        exact (importResultFromJson_importResultKl1ToJson ..).trans
          (importResultFromJson_toJson hP.base64 hresult requestId)
      have hmethod := resultMethod_of_read SecClient.queryCodes { requestId } hexchange hanswered
        (contains_resultPayload hstate) (reads_importResult P.base64 { requestId }) (by decide)
        hpayload
      rw [hcall, ClientCall.run, SecClient.getBusinessKeyImportResult, hmethod]
      rfl
    · have hmethod := resultMethod_kl1 SecClient.queryCodes requestId hP.base64 hexchange
        hanswered hresult hattach
      have hcode : ((SecClient.code rc : ℤ) ∈ SecClient.queryCodes) ↔ rc = .success := by
        constructor
        · intro hmem
          by_contra hrc
          exact not_mem_queryCodes hrc hmem
        · rintro rfl
          simp [SecClient.queryCodes]
      rw [hcall, ClientCall.run, SecClient.getBusinessKeyImportResultKl1, hmethod]
      simp only [hcode, Option.map_some, ClientCall.present, ClientCall.presentKeys]
  · have hquery : Server.queryReply w
        (s.callBusinessKeys P (Server.bare i) w (.getImportResultKl1 requestId)).2 =
          .crashed := congrArg (Server.queryReply w) hreply
    simp only [served, hquery] at hserve
    refine agrees_of_lost hsends (hhandle.trans (Prod.ext rfl ?_)) hserve
      (by rcases hcall with h | h <;> rw [h] <;> rfl)
    exact congrArg (Server.resultResponse P) hquery

/-- **The capability.** -/
theorem agrees_getV2cKeyProvisioningCapability (hP : P.Lawful)
    (hcall : i.call = .getV2cKeyProvisioningCapability) : Agrees P s i := by
  have hsends : i.call.sends P.base64 = some (.getV2cKeyProvisioningCapability, .obj []) :=
    hcall ▸ rfl
  have hne : i.call ≠ .getProvisionStatus ∧ i.call ≠ .getDeviceInfo := by simp [hcall]
  refine agrees_of_keys hP hsends rfl (by simp only [Server.serve, hcall]; rfl) hne
    fun w hhandle hserve => ?_
  let c := Keyprov.capability w
  have hobj : (capabilityToJson c).isObject = true := by simp [capabilityToJson]
  have hhandle' : s.handle P (i.request .getV2cKeyProvisioningCapability (P.tls.dump (.obj [])))
      .getV2cKeyProvisioningCapability =
        (s, some (respond .success ((capabilityToJson c).assign "success" (.bool true)))) := hhandle
  refine agrees_of_answered hP hsends hhandle' hserve
    ((printable_capability c).assign (.bool true)) Json.isObject_assign
    fun T text hexchange hanswered => ?_
  obtain ⟨j, hparse, hbut⟩ := hanswered.payload
  have hversion : uint32Field "capability_contract_version" j = some capabilityContractVersion := by
    rw [← uint32Field_congr hbut (by decide)]
    refine uint32Field_of_field (by decide) ?_
    simp [capabilityToJson, capabilityFlags]
  have hread : capabilityFromJson j =
      some { c with businessKeyImportResultNotFoundV1 := false } := by
    rw [← reads_capability (by decide) hbut]
    exact (reads_capability.assign hobj (by decide)).trans (capabilityFromJson_toJson c)
  simp only [hcall, ClientCall.run, SecClient.getV2cKeyProvisioningCapability,
    sendRequest_of_exchange hexchange, hanswered.status_success, if_true, hparse,
    Option.bind_some, hversion, Option.map_some, ne_eq, not_true_eq_false, if_false, hread,
    ClientCall.present]
  rfl

/-- **The contract snapshot.** -/
theorem agrees_getKeyprovContractSnapshot (hP : P.Lawful)
    (hcall : i.call = .getKeyprovContractSnapshot) (htyped : (s.serve P i).2.WellTyped) :
    Agrees P s i := by
  have hsends : i.call.sends P.base64 = some (.getKeyprovContractSnapshot, .obj []) :=
    hcall ▸ rfl
  have hne : i.call ≠ .getProvisionStatus ∧ i.call ≠ .getDeviceInfo := by simp [hcall]
  refine agrees_of_keys hP hsends rfl (by simp only [Server.serve, hcall]; rfl) hne
    fun w hhandle hserve => ?_
  rw [hserve] at htyped
  have hsnapshot : SnapshotWellTyped (Keyprov.contractSnapshot P.keyprov w) := htyped
  have hobj : (snapshotToJson (Keyprov.contractSnapshot P.keyprov w)).isObject = true := by
    simp [snapshotToJson]
  have hpayload := ((reads_snapshot secClientBuildId).assign (k := "success") (v := .bool true)
    hobj (by decide)).trans (keyprovSnapshotFromJson_toJson secClientBuildId
      hsnapshot.resultContract hsnapshot.querySemantics hsnapshot.epoch hsnapshot.profile)
  exact agrees_of_blank .snapshot hP hsends hhandle hserve
    ((printable_snapshot hsnapshot).assign (.bool true)) Json.isObject_assign
    (reads_snapshot secClientBuildId) (by decide) hpayload (fun T => by rw [hcall]; rfl) rfl

/-! ### Trusted time -/

/-- The envelope in a response of the trusted time. -/
def envelopeField (j : Json String) : Option Time.TrustedTimeEnvelope :=
  (j.field? "envelope").bind trustedTimeEnvelopeFromJson

/-- The freshness probe reads the field `envelope` alone. -/
private theorem reads_envelopeField : Reads ["envelope"] envelopeField := by
  intro k j j' hk h
  exact h.field?_bind (Ne.symm (by simpa using hk)) reads_envelope.orderBlind

/-- An unsigned number is read from its own field alone. -/
private theorem reads_uint64Field (key : String) : Reads [key] (uint64Field key) := by
  intro k j j' hk h
  exact uint64Field_congr h (by simpa using hk)

/-- **The trusted time.** -/
theorem agrees_getTrustedTime (hP : P.Lawful) {requestToken : ℕ}
    (hcall : i.call = .getTrustedTime requestToken) (htoken : requestToken < 2 ^ 64)
    (htyped : (s.serve P i).2.WellTyped) : Agrees P s i := by
  let params : Json String := Json.null.assign "request_token" (.int requestToken)
  have hsends : i.call.sends P.base64 = some (.getTrustedTime, params) := hcall ▸ rfl
  have hne : i.call ≠ .getProvisionStatus ∧ i.call ≠ .getDeviceInfo := by simp [hcall]
  obtain ⟨hmissing, hdenied⟩ := head_refusals_not_mem i.call
  have hread : (P.tls.parse (P.tls.dump params)).bind (uint64Field "request_token") =
      some requestToken := by
    rw [read_request hP (Printable.null.assign (.int_of_nat htoken))
      (reads_uint64Field "request_token").orderBlind]
    exact uint64Field_of_field htoken (by simp)
  have hhandle : s.handle P (i.request .getTrustedTime (P.tls.dump params)) .getTrustedTime =
      Server.answered (s.handleGetTrustedTime P
        (i.request .getTrustedTime (P.tls.dump params))) := rfl
  unfold Server.handleGetTrustedTime Server.withTrustedTime at hhandle
  have hserve : s.serve P i = s.serveTime P i requestToken := by simp only [Server.serve, hcall]
  unfold Server.serveTime at hserve
  cases htime : s.time with
  | none =>
    rw [htime] at hhandle hserve
    exact agrees_of_refusal hP hsends hhandle hserve hmissing hne
  | some source =>
    rw [htime] at hhandle hserve
    dsimp only at hhandle hserve
    have hcaller : (i.request .getTrustedTime (P.tls.dump params)).resolvePeer P =
        (Server.bare i).resolvePeer P := rfl
    rw [hcaller] at hhandle
    by_cases hpeer : (!Server.trustedTimePeerAllowed P ((Server.bare i).resolvePeer P)) = true
    · rw [if_pos hpeer] at hhandle hserve
      have henvelope : (failedEnvelope "acl_denied").Printable :=
        (printable_envelope (by constructor <;> decide)).assign (.str _)
      exact agrees_of_refused hP hsends hhandle hserve
        (Printable.null.assign (henvelope.assign (.bool false))) Json.isObject_assign rfl hdenied
        hne
    · rw [if_neg hpeer] at hhandle hserve
      have hparams : (i.request .getTrustedTime (P.tls.dump params)).params =
          P.tls.dump params := rfl
      rw [hparams, hread] at hhandle
      dsimp only at hhandle
      rw [hserve] at htyped
      let e := (source.get P i.answers requestToken).2.toEnvelope
      have he : EnvelopeWellTyped e := htyped
      have hpayload : envelopeField (Json.null.assign "envelope" (trustedTimeEnvelopeToJson e)) =
          some e := by
        rw [envelopeField, Json.field?_assign, if_pos rfl, Option.bind_some]
        exact trustedTimeEnvelopeFromJson_toJson he
      have hhandle' : s.handle P (i.request .getTrustedTime (P.tls.dump params)) .getTrustedTime =
          ({ s with time := some (source.get P i.answers requestToken).1 },
            some (respond .success
              (Json.null.assign "envelope" (trustedTimeEnvelopeToJson e)))) := hhandle
      refine agrees_of_answered hP hsends hhandle' hserve
        (Printable.null.assign (printable_envelope he)) Json.isObject_assign
        fun T text hexchange hanswered => ?_
      have hfield : ((P.reader.parse text).bind (·.field? "envelope")).bind
          trustedTimeEnvelopeFromJson = some e := by
        rw [Option.bind_assoc]
        exact (hanswered.read reads_envelopeField (by decide)).trans hpayload
      rw [hcall, ClientCall.run, SecClient.getTrustedTime, sendRequest_of_exchange hexchange]
      dsimp only
      rw [if_neg (not_not.mpr hanswered.status_success), hfield]
      rfl

end Agreement

/-! ### Any call, any run -/

/-- A call that the client refuses by itself. -/
private theorem agrees_of_unsent {requestId domain : String} {items : List WrappedKeyItem}
    {context : KeyprovImportContext}
    (hcall : i.call = .importWrappedBusinessKeysKl1 requestId domain items context)
    (hsent : importWrappedBusinessKeysKl1 P.base64 requestId domain items context = none) :
    Agrees P s i := by
  have hsends : i.call.sends P.base64 = none := by
    rw [hcall, ClientCall.sends, hsent, Option.map_none]
  have hunsent : i.unsent P = some (.resultKl1 (SecClient.code .businessKeyNotReady)
      (some { requestId, businessDomain := domain }) none) := by
    rw [Invocation.unsent, hsends, hcall]
  simp only [Agrees, remote, inProcess, hsends, hunsent]
  rw [hcall, ClientCall.run, SecClient.importWrappedBusinessKeysKl1, hsent]

/-- **One call.** -/
theorem agrees (hP : P.Lawful) (h : WellTyped P s i) : Agrees P s i := by
  obtain ⟨hcallTyped, htyped⟩ := h
  cases hcall : i.call with
  | status call => exact agrees_status hP hcall
  | exportPrivateKey => exact agrees_exportPrivateKey hP hcall
  | getCsr => exact agrees_getCsr hP hcall
  | getSeed level => exact agrees_getSeed hP hcall
  | getProvisionStatus =>
    have hserve : (s.serve P i).2 = .status (s.provisionStatus (Server.bare i)) := by
      simp only [Server.serve, hcall]
    rw [hserve] at htyped
    exact agrees_getProvisionStatus hP hcall htyped
  | getDeviceInfo => exact agrees_getDeviceInfo hP hcall
  | resetProvisionStatus => exact agrees_resetProvisionStatus hP hcall
  | getTlsCredential profile => exact agrees_getTlsCredential hP hcall htyped
  | getTlsCredentialState profile => exact agrees_getTlsCredentialState hP hcall htyped
  | signTls request context requestId => exact agrees_signTls hP hcall
  | getBusinessKeyStatus domain purposes => exact agrees_getBusinessKeyStatus hP hcall htyped
  | importWrappedBusinessKeys requestId domain items =>
    rw [hcall] at hcallTyped
    exact agrees_importWrappedBusinessKeys hP hcall hcallTyped htyped
  | getBusinessKeyImportResult requestId => exact agrees_of_query hP (.inl hcall) htyped
  | getV2cKeyProvisioningCapability => exact agrees_getV2cKeyProvisioningCapability hP hcall
  | getKeyprovContractSnapshot => exact agrees_getKeyprovContractSnapshot hP hcall htyped
  | importWrappedBusinessKeysKl1 requestId domain items context =>
    rw [hcall] at hcallTyped
    cases hsent : importWrappedBusinessKeysKl1 P.base64 requestId domain items context with
    | none => exact agrees_of_unsent hcall hsent
    | some params =>
      exact agrees_importWrappedBusinessKeysKl1 hP hcall hsent hcallTyped.1 hcallTyped.2 htyped
  | getBusinessKeyImportResultKl1 requestId => exact agrees_of_query hP (.inr hcall) htyped
  | getTrustedTime requestToken =>
    rw [hcall] at hcallTyped
    exact agrees_getTrustedTime hP hcall hcallTyped htyped

end TboxSec.Ipc
