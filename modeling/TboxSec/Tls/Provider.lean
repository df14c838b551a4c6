import TboxSec.Lib.Checks
import TboxSec.Lib.Machine
import TboxSec.Tls.Types

/-!
# The TLS credential provider

`TlsCredentialProvider` keeps one state for each profile. Loading and rotating validate the
material and store it; revoking only marks the profile; a credential and a state are read from
what is stored; a signature is made for a reference that an earlier credential carried.

Every operation changes one profile at most. `ProfileState.perform` is that change, and
`find?_perform` says that it is all that happens, so what is to be known of a run is known from
the history of a single profile. `validateAndStoreMaterials_cases` is the only place where the
validation is taken apart: either every check passed and the material is stored, or none of it
is and the status is one of the three that a rejection leaves.
-/

namespace TboxSec.Tls

/-! ### Loading material -/

/-- A rejected validation: the status and the code it leaves in the profile. -/
def ProfileState.reject (ps : ProfileState) (r : TlsCredentialStatus × ErrorCode) :
    ErrorCode × ProfileState :=
  (r.2, { ps with status := r.1, reasonCode := r.2 })

/-- The checks after the leaf was found to be a client certificate, in order. -/
def materialChecks (E : Collaborators) (roots : List Certificate) (leaf : Certificate)
    (untrusted : List Certificate) : List (Bool × TlsCredentialStatus × ErrorCode) :=
  [(!decide (leaf.ValidAt E.now), .expired, .tlsCertExpired),
   (E.keyId == "" || !E.keyExists E.keyId, .notReady, .tlsCredentialNotReady),
   ((E.exportPublicKey E.keyId).1 != .success, .error, .tlsHsmSignFailed),
   (leaf.publicKey == [] || leaf.publicKey != (E.exportPublicKey E.keyId).2,
     .error, .tlsKeyMismatch),
   (!roots.any Certificate.isCa, .error, .tlsCaInvalid),
   (!E.storeNew, .error, .internalError),
   (!E.verifyCert roots leaf untrusted, .error, .tlsChainInvalid)]

/-- The validity of the leaf is stored before it is checked. -/
def ProfileState.setValidity (ps : ProfileState) (leaf : Certificate) : ProfileState :=
  { ps with notBefore := leaf.notBefore, notAfter := leaf.notAfter }

/-- Material that passed every check is stored. -/
def ProfileState.accept (ps : ProfileState) (roots : List Certificate) (leaf : Certificate)
    (untrusted : List Certificate) : ProfileState :=
  { ps.setValidity leaf with
    rootCaBundleDer := derBundle roots
    clientCertChainDer := derBundle (leaf :: untrusted)
    keyAlgorithm := .ecdsaP256
    status := .ready
    reasonCode := .success }

/-- The validation of parsed material. -/
def validateMaterial (E : Collaborators) (ps : ProfileState) (roots : List Certificate)
    (leaf : Certificate) (untrusted : List Certificate) : ErrorCode × ProfileState :=
  if !leaf.ekuOids.contains "1.3.6.1.5.5.7.3.2" then ps.reject (.error, .tlsMaterialFormatInvalid)
  else
    match firstReject (materialChecks E roots leaf untrusted) with
    | some r => (ps.setValidity leaf).reject r
    | none => (.success, ps.accept roots leaf untrusted)

/-- `validateAndStoreMaterials`. -/
def validateAndStoreMaterials (X : X509Lib) (E : Collaborators) (ps : ProfileState) :
    ErrorCode × ProfileState :=
  match E.materialResolver with
  | none => ps.reject (.notReady, .tlsMaterialKeyMissing)
  | some resolve =>
    if ps.config.rootCaKey = "" ∨ ps.config.clientCertChainKey = "" then
      ps.reject (.notReady, .tlsMaterialKeyMissing)
    else
      let rootPem := resolve ps.config.rootCaKey
      let chainPem := resolve ps.config.clientCertChainKey
      if rootPem = [] ∨ chainPem = [] then ps.reject (.notReady, .tlsMaterialKeyMissing)
      else
        match X.loadCerts rootPem, X.loadCerts chainPem with
        | root :: roots, leaf :: untrusted =>
          validateMaterial E ps (root :: roots) leaf untrusted
        | _, _ => ps.reject (.error, .tlsMaterialFormatInvalid)

/-- The material that `resolve` returns for a profile, parsed and checked. -/
structure Acceptable (X : X509Lib) (E : Collaborators) (config : TlsProfileConfig)
    (roots : List Certificate) (leaf : Certificate) (untrusted : List Certificate) : Prop where
  resolved : ∃ resolve, E.materialResolver = some resolve ∧
    X.loadCerts (resolve config.rootCaKey) = roots ∧
    X.loadCerts (resolve config.clientCertChainKey) = leaf :: untrusted
  clientAuth : "1.3.6.1.5.5.7.3.2" ∈ leaf.ekuOids
  checked : ∀ c ∈ materialChecks E roots leaf untrusted, c.1 = false

theorem Acceptable.validAt {X : X509Lib} {E : Collaborators} {config : TlsProfileConfig}
    {roots untrusted : List Certificate} {leaf : Certificate}
    (h : Acceptable X E config roots leaf untrusted) : leaf.ValidAt E.now := by
  have hfirst := h.checked _ (List.mem_cons_self ..)
  simpa using hfirst

/-- What a rejected validation leaves: another status, and at most the validity of the leaf. -/
structure Rejected (ps : ProfileState) (rc : ErrorCode) (ps' : ProfileState) : Prop where
  code : rc ≠ .success
  ready : ps'.status ≠ .ready
  revoked : ps'.status ≠ .revoked
  reason : ps'.reasonCode = rc
  config : ps'.config = ps.config
  version : ps'.version = ps.version

private theorem rejected_reject {ps : ProfileState} {r : TlsCredentialStatus × ErrorCode}
    (hcode : r.2 ≠ .success) (hready : r.1 ≠ .ready) (hrevoked : r.1 ≠ .revoked) :
    Rejected ps (ps.reject r).1 (ps.reject r).2 :=
  ⟨hcode, hready, hrevoked, rfl, rfl, rfl⟩

private theorem Rejected.of_setValidity {ps ps' : ProfileState} {leaf : Certificate}
    {rc : ErrorCode}
    (h : Rejected (ps.setValidity leaf) rc ps') : Rejected ps rc ps' :=
  ⟨h.code, h.ready, h.revoked, h.reason, h.config, h.version⟩

/-- No check of the material leaves a profile ready or revoked. -/
private theorem materialChecks_codes {E : Collaborators} {roots untrusted : List Certificate}
    {leaf : Certificate} {b : Bool} {r : TlsCredentialStatus × ErrorCode}
    (h : (b, r) ∈ materialChecks E roots leaf untrusted) :
    r.2 ≠ .success ∧ r.1 ≠ .ready ∧ r.1 ≠ .revoked := by
  simp only [materialChecks, List.mem_cons, Prod.mk.injEq, List.not_mem_nil, or_false] at h
  obtain h | h | h | h | h | h | h := h <;> · obtain ⟨-, rfl⟩ := h; decide

/-- **Validation either stores the material or rejects it.** -/
theorem validateAndStoreMaterials_cases (X : X509Lib) (E : Collaborators) (ps : ProfileState) :
    (∃ roots leaf untrusted, Acceptable X E ps.config roots leaf untrusted ∧
      validateAndStoreMaterials X E ps = (.success, ps.accept roots leaf untrusted)) ∨
    Rejected ps (validateAndStoreMaterials X E ps).1 (validateAndStoreMaterials X E ps).2 := by
  have hreject : ∀ r : TlsCredentialStatus × ErrorCode,
      validateAndStoreMaterials X E ps = ps.reject r →
      r.2 ≠ .success → r.1 ≠ .ready → r.1 ≠ .revoked →
      Rejected ps (validateAndStoreMaterials X E ps).1
        (validateAndStoreMaterials X E ps).2 := by
    intro r heq hcode hready hrevoked
    rw [heq]
    exact rejected_reject hcode hready hrevoked
  cases hres : E.materialResolver with
  | none =>
    refine .inr (hreject (.notReady, .tlsMaterialKeyMissing) ?_ (by decide) (by decide)
      (by decide))
    simp [validateAndStoreMaterials, hres]
  | some resolve =>
    by_cases hkeys : ps.config.rootCaKey = "" ∨ ps.config.clientCertChainKey = ""
    · refine .inr (hreject (.notReady, .tlsMaterialKeyMissing) ?_ (by decide) (by decide)
        (by decide))
      simp [validateAndStoreMaterials, hres, hkeys]
    by_cases hpem : resolve ps.config.rootCaKey = [] ∨ resolve ps.config.clientCertChainKey = []
    · refine .inr (hreject (.notReady, .tlsMaterialKeyMissing) ?_ (by decide) (by decide)
        (by decide))
      simp [validateAndStoreMaterials, hres, hkeys, hpem]
    cases hroots : X.loadCerts (resolve ps.config.rootCaKey) with
    | nil =>
      refine .inr (hreject (.error, .tlsMaterialFormatInvalid) ?_ (by decide) (by decide)
        (by decide))
      simp [validateAndStoreMaterials, hres, hkeys, hpem, hroots]
    | cons root roots =>
      cases hchain : X.loadCerts (resolve ps.config.clientCertChainKey) with
      | nil =>
        refine .inr (hreject (.error, .tlsMaterialFormatInvalid) ?_ (by decide) (by decide)
          (by decide))
        simp [validateAndStoreMaterials, hres, hkeys, hpem, hroots, hchain]
      | cons leaf untrusted =>
        have hval : validateAndStoreMaterials X E ps =
            validateMaterial E ps (root :: roots) leaf untrusted := by
          simp [validateAndStoreMaterials, hres, hkeys, hpem, hroots, hchain]
        by_cases heku : leaf.ekuOids.contains "1.3.6.1.5.5.7.3.2" = true
        · cases hfirst : firstReject (materialChecks E (root :: roots) leaf untrusted) with
          | some r =>
            have hmem := exists_of_firstReject_eq_some hfirst
            obtain ⟨hcode, hready, hrevoked⟩ := materialChecks_codes hmem
            refine .inr ?_
            rw [hval, validateMaterial, heku, hfirst]
            exact (rejected_reject hcode hready hrevoked).of_setValidity
          | none =>
            refine .inl ⟨root :: roots, leaf, untrusted,
              ⟨⟨resolve, hres, hroots, hchain⟩, by simpa using heku,
                firstReject_eq_none_iff.mp hfirst⟩, ?_⟩
            rw [hval, validateMaterial, heku, hfirst]
            rfl
        · refine .inr (hreject (.error, .tlsMaterialFormatInvalid) ?_ (by decide) (by decide)
            (by decide))
          rw [hval, validateMaterial, if_pos (by simpa using heku)]

/-- Validation changes neither the version nor the configuration. -/
theorem validateAndStoreMaterials_frame (X : X509Lib) (E : Collaborators) (ps : ProfileState) :
    (validateAndStoreMaterials X E ps).2.version = ps.version ∧
      (validateAndStoreMaterials X E ps).2.config = ps.config := by
  obtain ⟨roots, leaf, untrusted, -, heq⟩ | hrej := validateAndStoreMaterials_cases X E ps
  · rw [heq]
    exact ⟨rfl, rfl⟩
  · exact ⟨hrej.version, hrej.config⟩

/-- Validation does not leave a profile revoked. -/
theorem validateAndStoreMaterials_status_ne (X : X509Lib) (E : Collaborators)
    (ps : ProfileState) : (validateAndStoreMaterials X E ps).2.status ≠ .revoked := by
  obtain ⟨roots, leaf, untrusted, -, heq⟩ | hrej := validateAndStoreMaterials_cases X E ps
  · simp [heq, ProfileState.accept]
  · exact hrej.revoked

/-! ### References to the private key -/

/-- The JSON object of a reference, its fields in the order of the map. -/
def RefPayload.toJson (p : RefPayload) : Json String :=
  .obj
    [("allowed_algs", .arr (p.allowedAlgorithms.map fun a => .int a.toInt)),
     ("boot_epoch", .int p.bootEpoch),
     ("caller", .str p.callerService),
     ("credential_id", .str p.credentialId),
     ("expiry", .int p.expiry),
     ("key_id", .str p.keyId),
     ("profile", .str p.profile),
     ("version", .int p.version)]

/-- The reading of a reference's JSON in `decodeRef`; `none` is an exception. -/
def RefPayload.ofJson (j : Json String) : Option RefPayload := do
  let callerService ← j.value "caller" Json.text ""
  let profile ← j.value "profile" Json.text ""
  let credentialId ← j.value "credential_id" Json.text ""
  let version ← j.value "version" Json.arithmetic 0
  let keyId ← j.value "key_id" Json.text ""
  let algorithms ← ((j.field? "allowed_algs").getD .null).elements.mapM Json.arithmetic
  let bootEpoch ← j.value "boot_epoch" Json.arithmetic 0
  let expiry ← j.value "expiry" Json.arithmetic 0
  some
    { callerService, profile, credentialId, keyId
      version := wrapUnsigned version
      allowedAlgorithms := algorithms.filterMap SignatureAlgorithm.ofInt
      bootEpoch := wrapUnsigned bootEpoch
      expiry := wrapSigned expiry }

/-- **A reference reads back**, with its numbers cut to 64 bits. -/
theorem RefPayload.ofJson_toJson (p : RefPayload) :
    ofJson p.toJson = some { p with
      version := p.version % 2 ^ 64
      bootEpoch := p.bootEpoch % 2 ^ 64
      expiry := wrapSigned p.expiry } := by
  have halgs : ∀ l : List SignatureAlgorithm,
      (l.map fun a => (Json.int a.toInt : Json String)).mapM Json.arithmetic =
        some (l.map SignatureAlgorithm.toInt) := by
    intro l
    induction l with
    | nil => rfl
    | cons a l ih => simp [Json.arithmetic, Json.number, ih]
  have hback : ∀ l : List SignatureAlgorithm,
      (l.map SignatureAlgorithm.toInt).filterMap SignatureAlgorithm.ofInt = l := by
    intro l
    induction l with
    | nil => rfl
    | cons a l ih => simp [ih]
  simp [ofJson, toJson, Json.value, Json.isObject, Json.field?, Json.text, Json.arithmetic,
    Json.number, Json.elements, List.lookup, halgs, hback, wrapUnsigned_natCast]

variable (L : Library) (P : TlsCredentialProvider) (E : Collaborators)

/-- `encodeRef`; empty when it fails. -/
def encodeRef (p : RefPayload) : Bytes :=
  match E.nonce with
  | none => []
  | some nonce => L.crypto.gcmSeal P.processKey [] nonce.val (L.dump p.toJson)

/-- `decodeRef`; `none` is a return of false. -/
def decodeRef (ref : Bytes) : Option RefPayload :=
  if ref.length < 12 + 16 then none
  else
    match L.crypto.gcmOpen P.processKey [] ref with
    | none => none
    | some plaintext => (L.parse plaintext).bind RefPayload.ofJson

/-! ### The operations -/

/-- The state of a profile is replaced. -/
def TlsCredentialProvider.store (profile : String) (ps : ProfileState) :
    TlsCredentialProvider :=
  { P with profiles := P.profiles.insert profile ps }

/-- A configuration is stored; a profile that was never loaded stays so. -/
def ProfileState.configured (ps : ProfileState) (config : TlsProfileConfig) : ProfileState :=
  let ps := { ps with config := config }
  if ps.version = 0 then { ps with status := .notReady } else ps

/-- `configureProfile`. -/
def TlsCredentialProvider.configureProfile (config : TlsProfileConfig) :
    TlsCredentialProvider :=
  P.store config.profileName (((P.profiles.find? config.profileName).getD {}).configured config)

/-- `isAuthorized`. -/
def TlsCredentialProvider.isAuthorized (profile : String) (peer : PeerIdentity) : Bool :=
  match P.profiles.find? profile with
  | none => false
  | some ps =>
    if !peer.valid then false
    else if ps.config.peerService = "" then false
    else peer.serviceName = ps.config.peerService

/-- `getStatus`. -/
def TlsCredentialProvider.getStatus (profile : String) : TlsCredentialStatus :=
  match P.profiles.find? profile with
  | none => .notReady
  | some ps => ps.status

/-- `algorithmAllowed`. -/
def ProfileState.algorithmAllowed (ps : ProfileState) (alg : SignatureAlgorithm) : Bool :=
  if ps.config.allowedSignatureAlgorithms = [] then alg = .ecdsaSecp256r1Sha256
  else ps.config.allowedSignatureAlgorithms.contains alg

/-- `publishChanged`: the event that is sent, if any. -/
def ProfileState.publishChanged (ps : ProfileState) (profile : String)
    (status : TlsCredentialStatus) (reasonCode : ErrorCode) : Option TlsCredentialChangedEvent :=
  if !ps.config.notifyOnChange || !E.notify then none
  else
    some { profile, credentialId := ps.config.credentialId, version := ps.version, status
           reasonCode }

/-- A first load gives a profile the version 1. -/
def ProfileState.started (ps : ProfileState) : ProfileState :=
  if ps.version = 0 then { ps with version := 1 } else ps

/-- The next version. -/
def ProfileState.bumped (ps : ProfileState) : ProfileState :=
  { ps with version := ps.version + 1 }

/-- A revoked profile. -/
def ProfileState.revoke (ps : ProfileState) : ProfileState :=
  { ps with status := .revoked, reasonCode := .tlsCredentialInvalid, version := ps.version + 1 }

/-- `loadMaterials`. -/
def TlsCredentialProvider.loadMaterials (profile : String) : ErrorCode × TlsCredentialProvider :=
  match P.profiles.find? profile with
  | none => (.invalidParameter, P)
  | some ps =>
    let (rc, ps) := validateAndStoreMaterials L.x509 E ps.started
    (rc, P.store profile ps)

/-- `rotateCredential`, with the event it publishes. -/
def TlsCredentialProvider.rotateCredential (profile : String) :
    (ErrorCode × Option TlsCredentialChangedEvent) × TlsCredentialProvider :=
  match P.profiles.find? profile with
  | none => ((.invalidParameter, none), P)
  | some ps =>
    let (rc, ps) := validateAndStoreMaterials L.x509 E ps.bumped
    ((rc, ps.publishChanged E profile ps.status rc), P.store profile ps)

/-- `revokeCredential`, with the event it publishes. -/
def TlsCredentialProvider.revokeCredential (profile : String) :
    (ErrorCode × Option TlsCredentialChangedEvent) × TlsCredentialProvider :=
  match P.profiles.find? profile with
  | none => ((.invalidParameter, none), P)
  | some ps =>
    ((.success, ps.revoke.publishChanged E profile .revoked .tlsCredentialInvalid),
      P.store profile ps.revoke)

/-- The code a profile that is not ready is refused with. -/
def ProfileState.refusal (ps : ProfileState) : ErrorCode :=
  if ps.reasonCode ≠ .success then ps.reasonCode else .tlsCredentialNotReady

/-- The content of the reference that `getTlsCredential` mints. -/
def TlsCredentialProvider.refPayload (profile : String) (caller : PeerIdentity)
    (ps : ProfileState) : RefPayload :=
  { callerService := caller.serviceName
    profile
    credentialId := ps.config.credentialId
    version := ps.version
    keyId := E.keyId
    allowedAlgorithms :=
      if ps.config.allowedSignatureAlgorithms = [] then [.ecdsaSecp256r1Sha256]
      else ps.config.allowedSignatureAlgorithms
    bootEpoch := P.bootEpoch.toNat
    expiry := wrapSigned (E.now + ps.config.refTtlSec) }

/-- The bundle of a profile with a reference. -/
def ProfileState.bundle (ps : ProfileState) (privateKeyRef : Bytes) : TlsCredentialBundle :=
  { credentialId := ps.config.credentialId
    version := ps.version
    rootCaBundleDer := ps.rootCaBundleDer
    clientCertChainDer := ps.clientCertChainDer
    privateKeyRef
    keyAlgorithm := ps.keyAlgorithm
    notBefore := ps.notBefore
    notAfter := ps.notAfter
    status := ps.status }

/-- `getTlsCredential`. -/
def TlsCredentialProvider.getTlsCredential (profile : String) (caller : PeerIdentity) :
    Except ErrorCode TlsCredentialBundle :=
  match P.profiles.find? profile with
  | none => .error .invalidParameter
  | some ps =>
    if ps.status ≠ .ready then .error ps.refusal
    else
      let ref := encodeRef L P E (P.refPayload E profile caller ps)
      if ref = [] then .error .internalError else .ok (ps.bundle ref)

/-- The state summary of a profile. -/
def ProfileState.summary (ps : ProfileState) : TlsCredentialState :=
  { credentialId := ps.config.credentialId, version := ps.version, status := ps.status
    reasonCode := ps.reasonCode }

/-- `getTlsCredentialState`. -/
def TlsCredentialProvider.getTlsCredentialState (profile : String) :
    Except ErrorCode TlsCredentialState :=
  match P.profiles.find? profile with
  | none => .error .invalidParameter
  | some ps => .ok ps.summary

/-- The checks of `signTls` on the profile of a reference, in order. -/
def signChecks (rp : RefPayload) (ps : ProfileState) (request : TlsSignRequest) :
    List (Bool × ErrorCode) :=
  [(rp.version != ps.version, .tlsKeyRefInvalid),
   (rp.bootEpoch != P.bootEpoch.toNat, .tlsKeyRefInvalid),
   (decide (rp.expiry ≤ E.now), .tlsKeyRefInvalid),
   (ps.status != .ready, ps.refusal),
   (!rp.allowedAlgorithms.contains request.algorithm || !ps.algorithmAllowed request.algorithm,
     .tlsSignAlgorithmNotAllowed),
   (request.algorithm == .ecdsaSecp256r1Sha256 && request.digest.length != 32,
     .tlsSignAlgorithmNotAllowed)]

/-- `signTls`. -/
def TlsCredentialProvider.signTls (request : TlsSignRequest) (caller : PeerIdentity) :
    Except ErrorCode Bytes :=
  match decodeRef L P request.privateKeyRef with
  | none => .error .tlsKeyRefInvalid
  | some rp =>
    if !caller.valid || rp.callerService != caller.serviceName then .error .aclDenied
    else
      match P.profiles.find? rp.profile with
      | none => .error .tlsKeyRefInvalid
      | some ps =>
        match firstReject (signChecks P E rp ps request) with
        | some rc => .error rc
        | none =>
          let (rc, signature) := E.signDigest rp.keyId request.digest
          if rc ≠ .success then .error .tlsHsmSignFailed else .ok signature

/-! ### When the operations succeed -/

variable {L P E}

/-- A credential is returned for a ready profile, with a reference that could be sealed. -/
theorem getTlsCredential_eq_ok_iff {profile : String} {caller : PeerIdentity}
    {b : TlsCredentialBundle} :
    P.getTlsCredential L E profile caller = .ok b ↔
      ∃ ps, P.profiles.find? profile = some ps ∧ ps.status = .ready ∧
        encodeRef L P E (P.refPayload E profile caller ps) ≠ [] ∧
        b = ps.bundle (encodeRef L P E (P.refPayload E profile caller ps)) := by
  unfold TlsCredentialProvider.getTlsCredential
  cases hps : P.profiles.find? profile with
  | none => simp
  | some ps =>
    dsimp only
    split_ifs with hready href
    · simp [hready]
    · simp [href]
    · constructor
      · intro h
        exact ⟨ps, rfl, not_not.mp hready, href, (Except.ok.inj h).symm⟩
      · rintro ⟨ps', hps', -, -, rfl⟩
        rw [Option.some.inj hps']

theorem getTlsCredentialState_eq_ok_iff {profile : String} {st : TlsCredentialState} :
    P.getTlsCredentialState profile = .ok st ↔
      ∃ ps, P.profiles.find? profile = some ps ∧ st = ps.summary := by
  unfold TlsCredentialProvider.getTlsCredentialState
  cases P.profiles.find? profile with
  | none => simp
  | some ps =>
    constructor
    · intro h
      exact ⟨ps, rfl, (Except.ok.inj h).symm⟩
    · rintro ⟨ps', hps', rfl⟩
      rw [Option.some.inj hps']

/-- A sign request is in order: the reference decodes, belongs to the caller and passes every
check against its profile, and the HSM signs. -/
structure InOrder (L : Library) (P : TlsCredentialProvider) (E : Collaborators)
    (request : TlsSignRequest) (caller : PeerIdentity) (rp : RefPayload) (ps : ProfileState) :
    Prop where
  decodes : decodeRef L P request.privateKeyRef = some rp
  valid : caller.valid = true
  caller_eq : rp.callerService = caller.serviceName
  known : P.profiles.find? rp.profile = some ps
  version : rp.version = ps.version
  bootEpoch : rp.bootEpoch = P.bootEpoch.toNat
  unexpired : E.now < rp.expiry
  ready : ps.status = .ready
  allowedThen : request.algorithm ∈ rp.allowedAlgorithms
  allowedNow : ps.algorithmAllowed request.algorithm = true
  digest : request.algorithm = .ecdsaSecp256r1Sha256 → request.digest.length = 32
  signs : (E.signDigest rp.keyId request.digest).1 = .success

private theorem firstReject_signChecks {rp : RefPayload} {ps : ProfileState}
    {request : TlsSignRequest} :
    firstReject (signChecks P E rp ps request) = none ↔
      rp.version = ps.version ∧ rp.bootEpoch = P.bootEpoch.toNat ∧ E.now < rp.expiry ∧
        ps.status = .ready ∧ (request.algorithm ∈ rp.allowedAlgorithms ∧
          ps.algorithmAllowed request.algorithm = true) ∧
        (request.algorithm = .ecdsaSecp256r1Sha256 → request.digest.length = 32) := by
  rw [firstReject_eq_none_iff]
  simp [signChecks]

/-- **A signature is returned exactly for a request that is in order.** -/
theorem signTls_eq_ok_iff {request : TlsSignRequest} {caller : PeerIdentity} {sig : Bytes} :
    P.signTls L E request caller = .ok sig ↔
      ∃ rp ps, InOrder L P E request caller rp ps ∧
        sig = (E.signDigest rp.keyId request.digest).2 := by
  unfold TlsCredentialProvider.signTls
  constructor
  · intro h
    cases hdec : decodeRef L P request.privateKeyRef with
    | none => simp [hdec] at h
    | some rp =>
      simp only [hdec] at h
      by_cases hcaller : (!caller.valid || rp.callerService != caller.serviceName) = true
      · simp [hcaller] at h
      rw [if_neg hcaller] at h
      cases hps : P.profiles.find? rp.profile with
      | none => simp [hps] at h
      | some ps =>
        simp only [hps] at h
        cases hfirst : firstReject (signChecks P E rp ps request) with
        | some rc => simp [hfirst] at h
        | none =>
          simp only [hfirst] at h
          by_cases hsign : (E.signDigest rp.keyId request.digest).1 = .success
          swap
          · simp [hsign] at h
          rw [if_neg (not_not.mpr hsign)] at h
          obtain ⟨hversion, hepoch, hexpiry, hready, ⟨hthen, hnow⟩, hdigest⟩ :=
            firstReject_signChecks.mp hfirst
          simp only [Bool.or_eq_true, Bool.not_eq_true', bne_iff_ne, ne_eq, not_or,
            Bool.not_eq_false, not_not] at hcaller
          exact ⟨rp, ps, ⟨hdec, hcaller.1, hcaller.2, hps, hversion, hepoch, hexpiry, hready,
            hthen, hnow, hdigest, hsign⟩, (Except.ok.inj h).symm⟩
  · rintro ⟨rp, ps, h, rfl⟩
    have hfirst : firstReject (signChecks P E rp ps request) = none :=
      firstReject_signChecks.mpr ⟨h.version, h.bootEpoch, h.unexpired, h.ready,
        ⟨h.allowedThen, h.allowedNow⟩, h.digest⟩
    simp [h.decodes, h.valid, h.caller_eq, h.known, hfirst, h.signs]

end TboxSec.Tls
