import TboxSec.Certificates.Rereading
import TboxSec.Time.Types
import TboxSec.Tls.Service

/-!
# Installing a certificate chain

The two ways a chain gets into the certificate store, over the component that owns it
(`Tls.Component`), and what is read back from there.

* **`injectCertificate`** is the provisioning operation: the leaf must have the profile of the
  device, be valid at a trusted time and carry the device key. Through DIAG it installs nothing
  itself.
* **`storeCertificate`** only stores: it skips the checks of the leaf.
* **`probe`** reads the current chain with the same parser and the same limits.

Both installations refuse a chain with a trusted root in it, and store the canonical text of
the certificates.
-/

namespace TboxSec.Certificates

open Keyprov (TimeTrustState)
open Sec (World ensureVehicleInfo viaDiag conclude)
open Tls (Component)

variable {X509 : Type}

namespace OpenSsl

variable (O : OpenSsl X509)

/-! ### The profile of the leaf -/

/-- The object identifier of `clientAuth`. -/
def clientAuth : String := "1.3.6.1.5.5.7.3.2"

/-- A bit of the first byte of the key usage. -/
def hasKeyUsage (bit : UInt8) (cert : X509) : Bool :=
  match O.keyUsage cert with
  | some (b :: _) => b &&& bit != 0
  | _ => false

/-- `hasKeyUsageDigitalSignature`. -/
def hasKeyUsageDigitalSignature (cert : X509) : Bool := O.hasKeyUsage 0x80 cert

/-- `hasKeyUsageKeyAgreement`. -/
def hasKeyUsageKeyAgreement (cert : X509) : Bool := O.hasKeyUsage 0x08 cert

/-- `hasClientAuthEku`. -/
def hasClientAuthEku (cert : X509) : Bool := (O.extKeyUsage cert).any (clientAuth ∈ ·)

/-- `hasOnlyClientAuthEku`. -/
def hasOnlyClientAuthEku (cert : X509) : Bool :=
  (O.extKeyUsage cert).any fun eku => eku ≠ [] ∧ ∀ oid ∈ eku, oid = clientAuth

/-- `criticalExtensionsAllowed`. -/
def criticalExtensionsAllowed (cert : X509) : Bool :=
  (O.extensions cert).all fun e => !e.critical || e.nid != .other

/-- The profile checks of `validate_certificate`. -/
def hasProfile (ecuUid : String) (cert : X509) : Bool :=
  O.subjectCommonName cert == some (textBytes ecuUid) && O.hasKeyUsageDigitalSignature cert &&
    O.hasClientAuthEku cert && !O.isCaCert cert && O.criticalExtensionsAllowed cert &&
    !O.isVerifiableSelfSigned cert

/-- A time in seconds as a count of ticks; `timegm` fails with -1. -/
def ticksOf (seconds : Option ℤ) : Option ℤ :=
  seconds.bind fun t => if t = -1 then none else some (t * 1000 * Time.ticksPerMs)

/-- `check_certificate_validity`: the code, and whether the sample is within the validity with
all its uncertainty. -/
def checkCertificateValidity (sample : Time.TrustedTimeSample) (cert : X509) : ErrorCode × Bool :=
  if sample.trustState ≠ .trusted then (.certExpired, false)
  else
    match ticksOf (O.notBefore cert), ticksOf (O.notAfter cert) with
    | some notBefore, some notAfter =>
      let uncertainty := sample.uncertainty * Time.ticksPerMs
      if sample.utcNow - uncertainty < notBefore ∨ notAfter < sample.utcNow + uncertainty then
        (.certExpired, false)
      else (.success, true)
    | _, _ => (.certExpired, false)

/-- `match_certificate_key` against the answer of the key engine. -/
def matchCertificateKey (deviceKey : ErrorCode × Bytes) (cert : X509) : ErrorCode × Bool :=
  if O.ecPoint cert = [] then (.certValidationFailed, false)
  else if deviceKey.1 ≠ .success then (deviceKey.1, false)
  else (.success, O.ecPoint cert == deviceKey.2)

/-- `validate_certificate`. -/
def validateCertificate (sample : Time.TrustedTimeSample) (deviceKey : ErrorCode × Bytes)
    (ecuUid : String) (cert : X509) : ErrorCode × Bool :=
  if ¬ O.hasProfile ecuUid cert then (.certValidationFailed, false)
  else
    let (result, notExpired) := O.checkCertificateValidity sample cert
    if result ≠ .success then (result, false)
    else if !notExpired then (.certExpired, false)
    else
      let (result, keyMatch) := O.matchCertificateKey deviceKey cert
      if result ≠ .success then (result, false)
      else (if keyMatch then .success else .certKeyMismatch, keyMatch)

/-- `rejectRootInjectedIntoChain`, given the stored trust roots; no text stands for roots that
cannot be read. -/
def rejectRootInjectedIntoChain (X : Crypto) (rootCa : Bytes)
    (chain : ParsedCertificateChain X509) : ErrorCode :=
  let roots := ((O.readPem rootCa).filter fun c => O.i2d c != []).map fun c => X.sha256 (O.i2d c)
  if rootCa ≠ [] ∧ ∃ d ∈ chain.certDerSha256, d ∈ roots then .certValidationFailed else .success

end OpenSsl

/-! ### Installation -/

/-- What the environment of an installation answers. -/
structure Surroundings extends Tls.Surroundings where
  /-- The sample of the trusted time provider. -/
  sample : Time.TrustedTimeSample := {}
  /-- `get_device_key`: the code and the public key. -/
  deviceKey : ErrorCode × Bytes := (.keyNotFound, [])

variable (O : OpenSsl X509) (L : Tls.Library) (env : Surroundings) (c : Component)

/-- Parsing and the search for roots, before the chain is looked at more closely. -/
def admitChain (payload : Bytes) (unreadable : ErrorCode) :
    Except ErrorCode (ParsedCertificateChain X509) :=
  match O.parse L.crypto payload {} with
  | .error _ => .error unreadable
  | .ok chain =>
    let rootRc := O.rejectRootInjectedIntoChain L.crypto env.rootCa chain
    if rootRc ≠ .success then .error rootRc else .ok chain

/-- The chain is serialised and published. -/
def publishChain (chain : ParsedCertificateChain X509) : ErrorCode × Component :=
  match O.toPem chain with
  | none => (.certInstallFailed, c)
  | some pem => c.publishDeviceCertChain L env.toSurroundings pem

/-- `validate_and_store_certificate`. -/
def validateAndStoreCertificate (payload : Bytes) : ErrorCode × Component :=
  match admitChain O L env payload .certValidationFailed with
  | .error rc => (rc, c)
  | .ok chain =>
    let (result, valid) :=
      O.validateCertificate env.sample env.deviceKey c.service.svc.ecuUid chain.leaf
    if result ≠ .success then (result, c)
    else if !valid then (.certKeyMismatch, c)
    else publishChain O L env c chain

/-- `store_certificate`. -/
def storeCertificate (payload : Bytes) : ErrorCode × Component :=
  match admitChain O L env payload .certInstallFailed with
  | .error rc => (rc, c)
  | .ok chain => publishChain O L env c chain

/-- An operation on the service alone. -/
def onService (f : World → ErrorCode × World) : ErrorCode × Component :=
  let (result, service) := f c.service
  (result, { c with service })

/-- `inject_certificate`. -/
def injectCertificate (payload : Bytes) : ErrorCode × Component :=
  if !c.service.svc.initialized then (.notInitialized, c)
  else if c.service.svc.shuttingDown then (.notInitialized, c)
  else
    let (provResult, c) := onService c (ensureVehicleInfo env.oracle)
    if provResult ≠ .success then (provResult, c)
    else
      let (status, service) := c.service.getProvisionStatus env.oracle
      let c := { c with service }
      let retryAfterFailure := status.state = .failed ∧ env.oracle.deviceKeyExists
      if status.state ≠ .csrBuilt ∧ status.state ≠ .csrSubmitted ∧ ¬ retryAfterFailure then
        (.invalidParameter, c)
      else if service.svc.diagService then
        onService c (viaDiag env.oracle · .certInstalled "Certificate injection via DIAG failed")
      else
        let (result, c) := validateAndStoreCertificate O L env c payload
        onService c (conclude env.oracle · result .certInstalled "Certificate injection failed")

/-! ### Publication -/

section Publication

variable {L : Tls.Library} {env : Tls.Surroundings} {c : Component} {pem : Bytes}

/-- A publication leaves the service alone. -/
theorem service_publish : (c.publishDeviceCertChain L env pem).2.service = c.service := by
  unfold Component.publishDeviceCertChain
  cases c.certStore with
  | none => rfl
  | some current =>
    dsimp only
    split_ifs with hsame hcommit
    · rfl
    · rfl
    · cases (c.committed pem).provider <;> rfl

/-- **A successful publication** puts a text with the digest of the published one in force. -/
theorem sha256_current_of_publish
    (h : (c.publishDeviceCertChain L env pem).1 = .success) :
    L.crypto.sha256 (c.publishDeviceCertChain L env pem).2.currentDeviceCertChain =
      L.crypto.sha256 pem := by
  unfold Component.publishDeviceCertChain at h ⊢
  cases hstore : c.certStore with
  | none =>
    rw [hstore] at h
    exact nomatch h
  | some current =>
    rw [hstore] at h
    dsimp only at h ⊢
    split_ifs at h ⊢ with hsame hcommit
    · -- the same digest: nothing is committed
      obtain ⟨g, hg, hdigest⟩ := Option.map_eq_some_iff.mp hsame
      rw [Component.currentDeviceCertChain, hstore, hg]
      exact hdigest
    · exact absurd h hcommit
    · cases (c.committed pem).provider <;> rfl

/-- What is in force after a commit is what was committed. -/
theorem current_of_commits (h : c.commits L env pem = true) :
    (c.publishDeviceCertChain L env pem).1 = .success ∧
      (c.publishDeviceCertChain L env pem).2.currentDeviceCertChain = pem := by
  unfold Component.commits at h
  unfold Component.publishDeviceCertChain
  cases hstore : c.certStore with
  | none =>
    rw [hstore] at h
    exact nomatch h
  | some current =>
    rw [hstore] at h
    rw [Bool.and_eq_true, bne_iff_ne, beq_iff_eq] at h
    dsimp only
    rw [if_neg h.1, if_neg (not_not.mpr h.2)]
    cases (c.committed pem).provider <;> exact ⟨rfl, rfl⟩

end Publication

/-! ### The operation of the service -/

section Service

variable {O L env c}

private theorem service_validateAndStore (payload : Bytes) :
    (validateAndStoreCertificate O L env c payload).2.service = c.service := by
  unfold validateAndStoreCertificate
  cases admitChain O L env payload .certValidationFailed with
  | error rc => rfl
  | ok chain =>
    dsimp only
    split_ifs
    · rfl
    · rfl
    · unfold publishChain
      cases O.toPem chain with
      | none => rfl
      | some pem => exact service_publish

/-- The answers of a call in which the installation ends with `rc`. -/
def answering (ω : Sec.Oracle) (rc : ErrorCode) : Sec.Oracle :=
  { ω with validateAndStore := fun _ => rc }

/-- **The service sees an installation as one answer.** What `inject_certificate` does to the
service is what the provisioning machine says, for the code that the installation returns. -/
theorem service_injectCertificate (payload : Bytes) :
    ∃ rc, Sec.injectCertificate (answering env.oracle rc) c.service payload =
      ((injectCertificate O L env c payload).1,
        (injectCertificate O L env c payload).2.service) := by
  -- the installation starts when the vehicle information and the status have been read
  let w := (ensureVehicleInfo env.oracle c.service).2
  let c' : Component := { c with service := (w.getProvisionStatus env.oracle).2 }
  have hservice : (validateAndStoreCertificate O L env c' payload).2.service = c'.service :=
    service_validateAndStore payload
  -- nothing before it looks at its code
  have hensure : ∀ rc, ensureVehicleInfo (answering env.oracle rc) c.service =
      ensureVehicleInfo env.oracle c.service := fun _ => rfl
  have hread : ∀ rc (v : World), v.getProvisionStatus (answering env.oracle rc) =
      v.getProvisionStatus env.oracle := fun _ _ => rfl
  have hkey : ∀ rc, (answering env.oracle rc).deviceKeyExists = env.oracle.deviceKeyExists :=
    fun _ => rfl
  refine ⟨(validateAndStoreCertificate O L env c' payload).1, ?_⟩
  unfold Sec.injectCertificate injectCertificate Sec.whileServing Sec.withVehicleInfo onService
  by_cases hinit : c.service.svc.initialized = true
  · by_cases hdown : c.service.svc.shuttingDown = true
    · simp only [hinit, hdown, Bool.not_true, Bool.false_eq_true, if_true, if_false]
    · simp only [hinit, hdown, Bool.not_true, Bool.false_eq_true, if_false, hensure, hread, hkey]
      split_ifs with hprov hstate hdiag
      · rfl
      · rfl
      · rfl
      · change conclude _ c'.service _ _ _ = ((conclude _ _ _ _ _).1, (conclude _ _ _ _ _).2)
        rw [hservice]
        rfl
  · simp only [hinit, Bool.not_false, if_true]

end Service

/-! ### Reading back -/

/-- What the HSM says of the device key. -/
structure HsmAnswers where
  keyExists : Bool := false
  supportsEcdhDerive : Bool := false
  supportsEcdsaSign : Bool := false
  exportPublicKey : ErrorCode × Bytes := (.keyNotFound, [])

/-- `DeviceKeyAgreementCapability`. -/
structure DeviceKeyAgreementCapability where
  activeCertPresent : Bool := false
  p256 : Bool := false
  keyAgreement : Bool := false
  digitalSignature : Bool := false
  privateKeyExists : Bool := false
  privateKeyCanDerive : Bool := false
  privateKeyCanSign : Bool := false
  certificateDigest : Bytes := []
  activeCertValidFromMs : ℤ := 0
  activeCertValidToMs : ℤ := 0
  caFalse : Bool := false
  ekuClientAuthOnly : Bool := false
  criticalExtensionsAllowed : Bool := false
  leafDigestBound : Bool := false
  certChainKeyMatch : Bool := false
  profileMatched : Bool := false
  deriving DecidableEq

/-- `profileOk`. -/
def DeviceKeyAgreementCapability.profileOk (cap : DeviceKeyAgreementCapability) : Bool :=
  cap.caFalse && cap.p256 && cap.keyAgreement && cap.digitalSignature && cap.ekuClientAuthOnly &&
    cap.criticalExtensionsAllowed

/-- What the probe reads of a chain. -/
def leafCapability (chain : ParsedCertificateChain X509) : DeviceKeyAgreementCapability :=
  let leaf := chain.leaf
  let bound := chain.leafDerOriginalSha256.any (· != 0)
  let cap : DeviceKeyAgreementCapability :=
    { activeCertPresent := true, p256 := O.isP256 leaf
      keyAgreement := O.hasKeyUsageKeyAgreement leaf
      digitalSignature := O.hasKeyUsageDigitalSignature leaf
      caFalse := !O.isCaCert leaf, ekuClientAuthOnly := O.hasOnlyClientAuthEku leaf
      criticalExtensionsAllowed := O.criticalExtensionsAllowed leaf
      leafDigestBound := bound
      certificateDigest := if bound then chain.leafDerOriginalSha256 else []
      activeCertValidFromMs := ((O.notBefore leaf).map (· * 1000)).getD 0
      activeCertValidToMs := ((O.notAfter leaf).map (· * 1000)).getD 0 }
  { cap with profileMatched := cap.profileOk }

/-- What the probe reads of the device key. -/
def keyCapability (hsm : HsmAnswers) (leaf : X509) (cap : DeviceKeyAgreementCapability) :
    DeviceKeyAgreementCapability :=
  { cap with
    privateKeyExists := hsm.keyExists
    privateKeyCanDerive := hsm.supportsEcdhDerive
    privateKeyCanSign := hsm.supportsEcdsaSign
    certChainKeyMatch := cap.p256 && hsm.keyExists && hsm.exportPublicKey.1 == .success &&
      O.ecPoint leaf != [] && O.ecPoint leaf == hsm.exportPublicKey.2 }

/-- `DeviceKeyAgreementAdapter::probe`; without an HSM or a key id there are no answers. -/
def probe (X : Crypto) (hsm : Option HsmAnswers) : DeviceKeyAgreementCapability :=
  if c.currentDeviceCertChain = [] then {}
  else
    match O.parse X c.currentDeviceCertChain {} with
    | .error _ => {}
    | .ok chain =>
      let cap := leafCapability O chain
      match hsm with
      | none => cap
      | some hsm => keyCapability O hsm chain.leaf cap

end TboxSec.Certificates
