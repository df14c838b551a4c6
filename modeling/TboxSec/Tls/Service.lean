import TboxSec.Sec.Provision
import TboxSec.Tls.Runs

/-!
# The TLS credentials behind the dispatcher

`Component` is the provider in its surroundings: the service that owns it, the current
certificate generation, and the dispatcher that answers the clients.

* **Self-healing** (`ensureTlsMaterialReady`): a request for a credential or for a state loads
  the material first, unless the profile is ready or the vehicle is unknown.
* **Publication** (`publishDeviceCertChain`): a new chain is committed to the certificate store
  and the profile `mqtt` is rotated. How the commit ends is the environment's choice.
* A call is one request, one publication or one direct operation of the provider. It reads the
  clock at most twice: when material is loaded, and when the request is served.

`ProfileState.after` is what a call does to one profile, and `profile_step` that this is all.

The two parts of a request do not exclude the other threads of the daemon. A run here is a
sequence of whole calls.
-/

namespace TboxSec.Tls

open TboxSec.Sec (ensureVehicleInfo)

/-! ### The state -/

/-- The current generation of the certificate store, as far as it is read here. -/
structure CertificateSnapshot where
  deviceCertChainPem : Bytes
  version : ℕ
  deriving DecidableEq

/-- The TLS credential component. -/
structure Component where
  service : Sec.World := {}
  /-- `cert_store_`, if it is set, with its current generation. -/
  certStore : Option (Option CertificateSnapshot) := none
  /-- `tls_provider_`, which the dispatcher is given. -/
  provider : Option TlsCredentialProvider := none
  /-- `service_` of the dispatcher is set. -/
  dispatcherService : Bool := true

/-- The readings of the wall clock during one call. -/
structure Clock where
  load : ℤ
  serve : ℤ
  load_le : load ≤ serve

/-- The clock stands still during the call. -/
def Clock.at (t : ℤ) : Clock := ⟨t, t, le_refl t⟩

/-- What the environment of a call answers. -/
structure Surroundings where
  /-- PROV. -/
  oracle : Sec.Oracle := {}
  /-- `root_ca` in the framework store; empty when it cannot be read. -/
  rootCa : Bytes := []
  /-- The HSM, OpenSSL and the random source. -/
  platform : Collaborators := {}
  clock : Clock
  /-- How `cert_store_->commit` ends. -/
  commit : ErrorCode := .success

/-- What is asked of the component. -/
inductive Op where
  | getTlsCredential (params : Bytes) (caller : PeerIdentity)
  | getTlsCredentialState (params : Bytes)
  | signTls (params : Bytes) (caller : PeerIdentity)
  | publishDeviceCertChain (canonicalPem : Bytes)
  | provider (op : ProviderOp)

/-- A call with its environment. -/
structure Call where
  op : Op
  env : Surroundings

/-- What a call returns. -/
inductive Reply where
  | credential (bundle : TlsCredentialBundle)
  | state (state : TlsCredentialState)
  | signature (signature : Bytes)
  | refused (rc : ErrorCode)
  /-- FW-0305. -/
  | serializationFailed
  | published (rc : ErrorCode)
  | provider (r : ProviderReply)

variable (L : Library) (base64Decode : String → Bytes)

namespace Component

variable (c : Component) (env : Surroundings)

/-- `cert_store_->currentDeviceCertChain()`; empty without a store or a generation. -/
def currentDeviceCertChain : Bytes :=
  match c.certStore with
  | some (some g) => g.deviceCertChainPem
  | _ => []

/-- The material resolver that the service hands to the provider. -/
def resolveMaterial (key : String) : Bytes :=
  if key = "device_cert_chain" then c.currentDeviceCertChain
  else if key ≠ "root_ca" then []
  else env.rootCa

/-- What an operation of the provider at the time `now` is answered. -/
def collaborators (now : ℤ) : Collaborators :=
  { env.platform with
    materialResolver := some (c.resolveMaterial env)
    keyId := c.service.svc.ecuUid ++ "+" ++ c.service.svc.ecuUid
    now }

/-- The vehicle information is asked for if it is not there. -/
def informed : Component :=
  if c.service.svc.vin = "" ∨ c.service.svc.ecuUid = "" then
    { c with service := (ensureVehicleInfo env.oracle c.service.fresh).2 }
  else c

/-- VIN and ECU UID are there. -/
def VehicleKnown : Prop := ¬ (c.service.svc.vin = "" ∨ c.service.svc.ecuUid = "")

instance : Decidable c.VehicleKnown := inferInstanceAs (Decidable (¬ _))

/-- `ensure_tls_material_ready`. -/
def ensureTlsMaterialReady (profile : String) : ErrorCode × Component :=
  match c.provider with
  | none => (.notInitialized, c)
  | some P =>
    if (P.getTlsCredentialState profile).toOption.map (·.status) = some .ready then (.success, c)
    else
      let c := c.informed env
      if c.VehicleKnown then
        let (rc, P) := P.loadMaterials L (c.collaborators env env.clock.load) profile
        (rc, { c with provider := some P })
      else (.tlsCredentialNotReady, c)

/-- The publication of `canonicalPem` commits it: the store is there, its current chain has
another digest, and the commit succeeds. -/
def commits (canonicalPem : Bytes) : Bool :=
  match c.certStore with
  | none => false
  | some current =>
    current.map (fun g => L.crypto.sha256 g.deviceCertChainPem) !=
      some (L.crypto.sha256 canonicalPem) && env.commit == .success

/-- The store with a committed chain, one version on. -/
def committed (canonicalPem : Bytes) : Component :=
  let version := match c.certStore with
    | some (some g) => g.version + 1
    | _ => 1
  { c with certStore := some (some { deviceCertChainPem := canonicalPem, version }) }

/-- `publishDeviceCertChain`. -/
def publishDeviceCertChain (canonicalPem : Bytes) : ErrorCode × Component :=
  match c.certStore with
  | none => (.storageWriteFailed, c)
  | some current =>
    if current.map (fun g => L.crypto.sha256 g.deviceCertChainPem) =
        some (L.crypto.sha256 canonicalPem) then (.success, c)
    else if env.commit ≠ .success then (env.commit, c)
    else
      let c := c.committed canonicalPem
      match c.provider with
      | none => (.success, c)
      | some P =>
        let (_, P) := P.rotateCredential L (c.collaborators env env.clock.load) "mqtt"
        (.success, { c with provider := some P })

/-! ### The handlers -/

/-- The profile a request names; `mqtt` if it names none. -/
def requestProfile (params : Bytes) : String :=
  match L.parse params with
  | none => "mqtt"
  | some j => (j.value "profile" Json.text "mqtt").getD "mqtt"

/-- The self-healing of the handlers. -/
def healed (profile : String) : Component :=
  if c.dispatcherService then (c.ensureTlsMaterialReady L env profile).2 else c

/-- `handle_get_tls_credential`. -/
def handleGetTlsCredential (params : Bytes) (caller : PeerIdentity) : Component × Reply :=
  match c.provider with
  | none => (c, .refused .notImplemented)
  | some P =>
    let profile := requestProfile L params
    if !P.isAuthorized profile caller then (c, .refused .aclDenied)
    else
      let c := c.healed L env profile
      match c.provider with
      | none => (c, .refused .notImplemented)
      | some P =>
        match P.getTlsCredential L (c.collaborators env env.clock.serve) profile caller with
        | .ok bundle => (c, .credential bundle)
        | .error rc => (c, .refused rc)

/-- `handle_get_tls_credential_state`. -/
def handleGetTlsCredentialState (params : Bytes) : Component × Reply :=
  match c.provider with
  | none => (c, .refused .notImplemented)
  | some _ =>
    let profile := requestProfile L params
    let c := c.healed L env profile
    match c.provider with
    | none => (c, .refused .notImplemented)
    | some P =>
      match P.getTlsCredentialState profile with
      | .ok state => (c, .state state)
      | .error rc => (c, .refused rc)

/-- The request of `handle_sign_tls`; `none` is an exception of the JSON library. -/
def signRequest (params : Bytes) : Option TlsSignRequest := do
  let j ← L.parse params
  let privateKeyRef ← j.value "private_key_ref" Json.text ""
  let algorithm ← j.value "algorithm" Json.text ""
  let digest ← j.value "digest" Json.text ""
  let _context ← j.value "context" Json.text ""
  let _requestId ← j.value "request_id" Json.text ""
  some
    { privateKeyRef := base64Decode privateKeyRef
      algorithm := .ofText algorithm
      digest := base64Decode digest }

/-- `handle_sign_tls`. -/
def handleSignTls (params : Bytes) (caller : PeerIdentity) : Reply :=
  match c.provider with
  | none => .refused .notImplemented
  | some P =>
    match signRequest L base64Decode params with
    | none => .serializationFailed
    | some request =>
      match P.signTls L (c.collaborators env env.clock.serve) request caller with
      | .ok signature => .signature signature
      | .error rc => .refused rc

/-- One call. -/
def step (call : Call) : Component × Reply :=
  match call.op with
  | .getTlsCredential params caller => c.handleGetTlsCredential L call.env params caller
  | .getTlsCredentialState params => c.handleGetTlsCredentialState L call.env params
  | .signTls params caller => (c, c.handleSignTls L base64Decode call.env params caller)
  | .publishDeviceCertChain pem =>
    let (rc, c) := c.publishDeviceCertChain L call.env pem
    (c, .published rc)
  | .provider op =>
    match c.provider with
    | none => (c, .refused .notInitialized)
    | some P =>
      let (P, r) := P.perform L (c.collaborators call.env call.env.clock.serve) op
      ({ c with provider := some P }, .provider r)

end Component

/-- The component as a machine. -/
def component : Machine Component Call Reply where
  step c call := c.step L base64Decode call

/-! ### The start of the process -/

/-- `SecServiceConfig::TlsProfileConf`. -/
structure TlsProfileConf where
  enabled : Bool := false
  credentialId : String
  allowedSignatureAlgorithms : List String
  peerService : String
  notifyOnChange : Bool
  refTtlSec : ℤ

/-- The configuration of a profile: the material keys keep their defaults. -/
def TlsProfileConf.toConfig (pc : TlsProfileConf) (name : String) : TlsProfileConfig :=
  { profileName := name
    credentialId := pc.credentialId
    allowedSignatureAlgorithms := pc.allowedSignatureAlgorithms.map .ofText
    peerService := pc.peerService
    notifyOnChange := pc.notifyOnChange
    refTtlSec := pc.refTtlSec }

/-- The loop of `initializeTlsCredentialProvider` over the configured profiles. -/
def loadProfiles (E : Collaborators) (P : TlsCredentialProvider) :
    List (String × TlsProfileConf) → TlsCredentialProvider
  | [] => P
  | (name, pc) :: rest =>
    if !pc.enabled then loadProfiles E P rest
    else
      let P := P.configureProfile (pc.toConfig name)
      loadProfiles E (P.loadMaterials L E name).2 rest

/-- `initializeTlsCredentialProvider`, with the process key and the boot epoch that the
constructor draws; `hsm` tells whether the HSM is there. -/
def Component.initializeTlsCredentialProvider (c : Component) (env : Surroundings) (hsm : Bool)
    (profiles : OrdMap String TlsProfileConf) (processKey : Bytes) (bootEpoch : UInt64) :
    Component :=
  if profiles.isEmpty then c
  else if !hsm then c
  else
    let c := c.informed env
    let P := loadProfiles L (c.collaborators env env.clock.load) { processKey, bootEpoch }
      profiles.toList
    { c with provider := some P }

/-! ### A vehicle -/

/-- A root that signs everything. -/
def exampleRoot : Certificate :=
  { der := [1], notBefore := 0, notAfter := 1000, isCa := true }

/-- A client certificate of the device key `[4]`. -/
def exampleLeaf : Certificate :=
  { der := [2], ekuOids := ["1.3.6.1.5.5.7.3.2"], notBefore := 0, notAfter := 1000
    publicKey := [4] }

/-- Its successor. -/
def exampleNewLeaf : Certificate := { exampleLeaf with der := [3], notAfter := 2000 }

/-- The JSON text of a reference of `mqtt` minted at the time 100. -/
def exampleRefText : Bytes :=
  textBytes
    ("\x7b\"allowed_algs\":[1],\"boot_epoch\":7,\"caller\":\"tbox-mqtt.service\"," ++
      "\"credential_id\":\"mqtt-primary\",\"expiry\":3700,\"key_id\":\"ECU-1+ECU-1\"," ++
      "\"profile\":\"mqtt\",\"version\":1\x7d")

/-- What that text says. -/
def exampleRef : RefPayload :=
  { callerService := "tbox-mqtt.service", profile := "mqtt", credentialId := "mqtt-primary"
    version := 1, keyId := "ECU-1+ECU-1", allowedAlgorithms := [.ecdsaSecp256r1Sha256]
    bootEpoch := 7, expiry := 3700 }

/-- A cipher that hides nothing, and readers that know the data above. -/
def exampleLibrary : Library where
  crypto :=
    { sha256 := fun b => (b ++ List.replicate 32 0).take 32
      sha256_length := fun b => by simp
      hmacSha256 := fun _ _ => List.replicate 32 0
      hmacSha256_length := fun _ _ => by simp
      gcmSeal := fun _ _ iv plain => iv ++ plain ++ List.replicate 16 0
      gcmOpen := fun _ _ data =>
        if data.drop (data.length - 16) = List.replicate 16 0 then
          some ((data.drop 12).take (data.length - 28))
        else none }
  x509 :=
    { readPem := fun _ => []
      d2i := fun content =>
        if content = [1] then some exampleRoot
        else if content = [2] then some exampleLeaf
        else if content = [3] then some exampleNewLeaf
        else none }
  dump := fun _ => exampleRefText
  parse := fun text => if text = exampleRefText then some exampleRef.toJson else none

/-- The device key `[4]` in an HSM that signs. -/
def examplePlatform : Collaborators :=
  { keyExists := fun _ => true
    exportPublicKey := fun _ => (.success, [4])
    signDigest := fun _ digest => (.success, digest)
    verifyCert := fun _ _ _ => true
    nonce := some ⟨List.replicate 12 7, rfl⟩ }

/-- Surroundings in which everything works, at the time `t`. -/
def exampleEnv (t : ℤ) : Surroundings :=
  { rootCa := [1], platform := examplePlatform, clock := .at t }

/-- The profile `mqtt` as the configuration has it. -/
def exampleProfiles : OrdMap String TlsProfileConf :=
  OrdMap.empty.insert "mqtt"
    { enabled := true, credentialId := "mqtt-primary", allowedSignatureAlgorithms := []
      peerService := "tbox-mqtt.service", notifyOnChange := true, refTtlSec := 3600 }

/-- A vehicle with a certificate. -/
def exampleVehicle : Component :=
  { service := { svc := { vin := "LSVTEST0000000001", ecuUid := "ECU-1" } }
    certStore := some (some { deviceCertChainPem := [2], version := 1 }) }

/-- The vehicle, started at the time 100. -/
def exampleComponent : Component :=
  exampleVehicle.initializeTlsCredentialProvider exampleLibrary (exampleEnv 100) true
    exampleProfiles [] 7

example : (exampleComponent.provider.map fun P => P.getStatus "mqtt") = some .ready := by
  decide

end TboxSec.Tls
