import TboxSec.Certificates.Bench

/-!
# Installed chains and their readers

A chain that is installed is written once and read many times, and the reader applies the
limits of the installation to another text: the canonical one. What it accepts is settled by
three things that the installation does not look at.

* **Length**: Base64 makes a text of `n` bytes about a third longer, so a DER certificate below
  the limit can have a canonical text above it. A chain in longer lines can outgrow the limit
  too.
* **Role**: a single DER certificate may be a CA where the checks of the leaf are skipped, and
  a chain of PEM blocks may not begin with one.
* **Digest**: the reader takes an all-zero digest of the leaf for a missing one.
-/

namespace TboxSec.Certificates

open Sec (ensureVehicleInfo conclude)
open Tls (Component)

variable {X509 : Type} {O : OpenSsl X509} {L : Tls.Library} {env : Surroundings} {c : Component}

/-- **The canonical text** is the text of the certificates. -/
theorem toPem_eq (hO : O.Lawful) {chain : ParsedCertificateChain X509} {pem : Bytes}
    (h : O.toPem chain = some pem) : pem = O.pemText chain.certs := by
  have hmap : ∀ {certs : List X509} {texts : List Bytes},
      certs.mapM O.writePem = some texts → texts.flatten = O.pemText certs := by
    intro certs
    induction certs with
    | nil =>
      intro texts ht
      obtain rfl : [] = texts := by simpa using ht
      rfl
    | cons cert certs ih =>
      intro texts ht
      rw [List.mapM_cons] at ht
      obtain ⟨text, htext, ht⟩ := Option.bind_eq_some_iff.mp ht
      obtain ⟨rest, hrest, ht⟩ := Option.bind_eq_some_iff.mp ht
      obtain rfl := Option.some.inj ht
      rw [List.flatten_cons, ih hrest, hO.writePem_eq cert text htext]
      rfl
  unfold OpenSsl.toPem at h
  obtain ⟨texts, htexts, hout⟩ := Option.bind_eq_some_iff.mp h
  dsimp only at hout
  split_ifs at hout
  rw [← Option.some.inj hout, hmap htexts]

/-! ### Reading an installed chain -/

/-- The two installations. -/
inductive Installation where
  | inject | store
  deriving DecidableEq

variable (O L env c) in
/-- An installation of `payload`. -/
def Installation.run (i : Installation) (payload : Bytes) : ErrorCode × Component :=
  match i with
  | .inject => injectCertificate O L env c payload
  | .store => storeCertificate O L env c payload

variable (O L env c) in
/-- The installation accepts `payload`, which is the chain `chain`, and publishes it: the
canonical text of the chain is in force afterwards. -/
structure Installs (i : Installation) (payload : Bytes) (chain : ParsedCertificateChain X509) :
    Prop where
  parsed : O.parse L.crypto payload {} = .ok chain
  accepted : (i.run O L env c payload).1 = .success
  published : O.toPem chain = some (i.run O L env c payload).2.currentDeviceCertChain

variable (O) in
/-- The chain in force is accepted again, with the same leaf and the same certificates, and the
probe reports it with its digest. -/
structure Readable (X : Crypto) (hsm : Option HsmAnswers) (c : Component)
    (chain : ParsedCertificateChain X509) : Prop where
  parsed : ∃ chain', O.parse X c.currentDeviceCertChain {} = .ok chain' ∧
    chain'.leaf = chain.leaf ∧ chain'.certs = chain.certs
  present : (probe O c X hsm).activeCertPresent = true
  digest : (probe O c X hsm).certificateDigest ≠ []

/-- What the probe reports of a chain that it can parse. -/
private theorem probe_of_parse {X : Crypto} (hsm : Option HsmAnswers)
    {chain : ParsedCertificateChain X509}
    (hne : c.currentDeviceCertChain ≠ [])
    (h : O.parse X c.currentDeviceCertChain {} = .ok chain) :
    (probe O c X hsm).activeCertPresent = true ∧
      (probe O c X hsm).certificateDigest =
        if chain.leafDerOriginalSha256.any (· != 0) then chain.leafDerOriginalSha256 else [] := by
  unfold probe
  rw [if_neg hne, h]
  cases hsm <;> exact ⟨rfl, rfl⟩

private theorem certificateDigest_of_error {X : Crypto} {hsm : Option HsmAnswers}
    {stage : CertificateParseStage} (h : O.parse X c.currentDeviceCertChain {} = .error stage) :
    (probe O c X hsm).certificateDigest = [] := by
  unfold probe
  rw [h]
  split_ifs <;> rfl

/-- The canonical text of a chain can be read: it keeps the limit, it does not begin with a CA,
and the digest of the leaf counts as one. -/
def OpenSsl.Fits (O : OpenSsl X509) (X : Crypto) (chain : ParsedCertificateChain X509) : Prop :=
  O.canonicalSize chain.certs ≤ 8192 ∧ O.isCaCert chain.leaf = false ∧
    ∃ b ∈ X.sha256 (O.i2d chain.leaf), b ≠ 0

/-- **Reading a canonical text that is in force.** -/
theorem readable_iff (hO : O.Lawful) {X : Crypto} {hsm : Option HsmAnswers}
    {payload : Bytes} {chain : ParsedCertificateChain X509}
    (hparse : O.parse X payload {} = .ok chain)
    (hpem : O.toPem chain = some c.currentDeviceCertChain) :
    Readable O X hsm c chain ↔ O.Fits X chain := by
  have haccepted : Accepted O X {} chain := accepted_of_parse (by decide) hparse
  have hcurrent := toPem_eq hO hpem
  have hne : c.currentDeviceCertChain ≠ [] := by
    unfold OpenSsl.toPem at hpem
    obtain ⟨texts, -, hout⟩ := Option.bind_eq_some_iff.mp hpem
    dsimp only at hout
    split_ifs at hout with hnil
    rwa [Option.some.inj hout] at hnil
  have hreparse := parse_pemText hO haccepted
  rw [← hcurrent] at hreparse
  have hleaf : O.derSha256 X chain.leaf = X.sha256 (O.i2d chain.leaf) :=
    if_neg (hO.i2d_ne_nil chain.leaf)
  by_cases hsize : (8192 : ℕ) < O.canonicalSize chain.certs
  · rw [if_pos hsize] at hreparse
    refine iff_of_false (fun hread => hread.digest ?_) (fun hfits => ?_)
    · exact certificateDigest_of_error hreparse
    · exact absurd hfits.1 (Nat.not_le.mpr hsize)
  · rw [if_neg hsize] at hreparse
    by_cases hca : O.isCaCert chain.leaf = true
    · rw [if_pos hca] at hreparse
      refine iff_of_false (fun hread => hread.digest ?_) (fun hfits => ?_)
      · exact certificateDigest_of_error hreparse
      · exact absurd (hca.symm.trans hfits.2.1) (by decide)
    · rw [if_neg hca] at hreparse
      obtain ⟨hpresent, hdigest⟩ := probe_of_parse hsm hne hreparse
      rw [hleaf] at hdigest
      have hbound : ((X.sha256 (O.i2d chain.leaf)).any (· != 0)) = true ↔
          ∃ b ∈ X.sha256 (O.i2d chain.leaf), b ≠ 0 := by simp
      constructor
      · intro hread
        refine ⟨Nat.not_lt.mp hsize, Bool.not_eq_true _ ▸ hca, hbound.mp ?_⟩
        by_contra hzero
        rw [if_neg hzero] at hdigest
        exact hread.digest hdigest
      · intro hfits
        refine ⟨⟨_, hreparse, rfl, rfl⟩, hpresent, ?_⟩
        rw [hdigest, if_pos (hbound.mpr hfits.2.2)]
        exact List.ne_nil_of_length_pos (by rw [X.sha256_length]; decide)

section Commits

variable {payload pem : Bytes} {chain : ParsedCertificateChain X509}

/-- A chain that is read and has no root in it is admitted. -/
private theorem admitChain_eq (hparse : O.parse L.crypto payload {} = .ok chain)
    (hroot : O.rejectRootInjectedIntoChain L.crypto env.rootCa chain = .success)
    (unreadable : ErrorCode) : admitChain O L env payload unreadable = .ok chain := by
  unfold admitChain
  rw [hparse]
  dsimp only
  rw [if_neg (not_not.mpr hroot)]

/-- A chain whose leaf passes the checks is published. -/
private theorem validateAndStore_eq (hparse : O.parse L.crypto payload {} = .ok chain)
    (hroot : O.rejectRootInjectedIntoChain L.crypto env.rootCa chain = .success)
    (hvalid : O.validateCertificate env.sample env.deviceKey c.service.svc.ecuUid chain.leaf =
      (.success, true))
    (hpem : O.toPem chain = some pem) :
    validateAndStoreCertificate O L env c payload =
      c.publishDeviceCertChain L env.toSurroundings pem := by
  unfold validateAndStoreCertificate
  rw [admitChain_eq hparse hroot]
  dsimp only
  rw [hvalid]
  dsimp only
  rw [if_neg (by decide), if_neg (by decide), publishChain, hpem]

/-- **A commit installs.** A chain that `store_certificate` admits and writes is published,
unless the text in force has its digest or the commit fails. -/
theorem installs_store (hparse : O.parse L.crypto payload {} = .ok chain)
    (hroot : O.rejectRootInjectedIntoChain L.crypto env.rootCa chain = .success)
    (hpem : O.toPem chain = some pem) (hcommit : c.commits L env.toSurroundings pem = true) :
    Installs O L env c .store payload chain := by
  have hrun : Installation.store.run O L env c payload =
      c.publishDeviceCertChain L env.toSurroundings pem := by
    unfold Installation.run storeCertificate
    dsimp only
    rw [admitChain_eq hparse hroot]
    dsimp only
    rw [publishChain, hpem]
  obtain ⟨hsuccess, hcurrent⟩ := current_of_commits hcommit
  exact
    { parsed := hparse
      accepted := by rw [hrun]; exact hsuccess
      published := by rw [hrun, hcurrent]; exact hpem }

/-- So is a chain that `inject_certificate` gets while the service waits for one, if the leaf
passes its checks. -/
private theorem installs_inject (hparse : O.parse L.crypto payload {} = .ok chain)
    (hroot : O.rejectRootInjectedIntoChain L.crypto env.rootCa chain = .success)
    (hvalid : O.validateCertificate env.sample env.deviceKey c.service.svc.ecuUid chain.leaf =
      (.success, true))
    (hpem : O.toPem chain = some pem) (hcommit : c.commits L env.toSurroundings pem = true)
    (hinit : c.service.svc.initialized = true) (hserving : c.service.svc.shuttingDown = false)
    (hknown : c.service.svc.vin ≠ "" ∧ c.service.svc.ecuUid ≠ "")
    (hdiag : c.service.svc.diagService = false)
    (hstate : (c.service.statusRead (env.oracle.read c.service.asked.reads)).state = .csrBuilt) :
    Installs O L env c .inject payload chain := by
  have hensure : ensureVehicleInfo env.oracle c.service = (.success, c.service) := if_pos hknown
  -- only the status has been read when the chain is looked at
  let c' : Component := { c with service := (c.service.getProvisionStatus env.oracle).2 }
  have hcommit' : c'.commits L env.toSurroundings pem = true := hcommit
  obtain ⟨hsuccess, hcurrent⟩ := current_of_commits hcommit'
  have hstore : validateAndStoreCertificate O L env c' payload =
      c'.publishDeviceCertChain L env.toSurroundings pem :=
    validateAndStore_eq hparse hroot hvalid hpem
  have hread : (c.service.getProvisionStatus env.oracle).1.state = .csrBuilt := hstate
  have hrun : Installation.inject.run O L env c payload =
      onService (c'.publishDeviceCertChain L env.toSurroundings pem).2
        (conclude env.oracle · .success .certInstalled "Certificate injection failed") := by
    unfold Installation.run injectCertificate
    dsimp only
    rw [hinit, hserving, if_neg (by decide), if_neg (by decide), onService, hensure]
    dsimp only
    rw [if_neg (by decide), hread, if_neg (fun hno => hno.1 rfl)]
    change (if c.service.svc.diagService = true then _ else
      onService (validateAndStoreCertificate O L env c' payload).2 _) = _
    rw [hdiag, if_neg (by decide), hstore, ← hsuccess]
  exact
    { parsed := hparse
      accepted := by rw [hrun]; rfl
      published := by rw [hrun]; exact hpem.trans (congrArg some hcurrent.symm) }

end Commits

/-! ### A bench -/

/-- A vehicle with a signing request and no certificate. -/
def benchVehicle : Component :=
  { service :=
      { persisted := .doc (Sec.ProvisionStatus.toJson { state := .csrBuilt })
        svc := { initialized := true, vin := "LSVTEST0000000001", ecuUid := "ECU-1" } }
    certStore := some none }

/-- A trusted time within the validity, and the device key of the certificates. -/
def benchEnv : Surroundings :=
  { clock := .at 100
    sample := { utcNow := 100 * 1000 * Time.ticksPerMs, trustState := .trusted }
    deviceKey := (.success, [4]) }

/-- **An installed chain stays readable** exactly when its canonical text fits the reader. What the
store holds after the installation is the chain written out again as PEM, which is longer than the
DER it may have come from; `Fits` collects what the reader asks of that text and the installation
does not. -/
theorem installed_chain_readable (hO : O.Lawful) {i : Installation} {payload : Bytes}
    {chain : ParsedCertificateChain X509} (h : Installs O L env c i payload chain)
    (hsm : Option HsmAnswers) :
    Readable O L.crypto hsm (i.run O L env c payload).2 chain ↔ O.Fits L.crypto chain :=
  readable_iff hO h.parsed h.published

/-- The short certificate is stored and stays readable. -/
theorem installed_chain_readable_short :
    Installs bench Tls.exampleLibrary benchEnv benchVehicle .store shortDer
        (singleChain ⟨shortDer, by decide⟩) ∧
      Readable bench Tls.exampleLibrary.crypto none
        (Installation.store.run bench Tls.exampleLibrary benchEnv benchVehicle shortDer).2
        (singleChain ⟨shortDer, by decide⟩) := by
  have hinstalls : Installs bench Tls.exampleLibrary benchEnv benchVehicle .store shortDer
      (singleChain ⟨shortDer, by decide⟩) :=
    installs_store (by decide +kernel) (by decide +kernel) (by rfl) (by decide +kernel)
  refine ⟨hinstalls, (installed_chain_readable lawful_bench hinstalls none).mpr ?_⟩
  exact ⟨by decide +kernel, rfl, 0x30, by decide +kernel, by decide⟩

/-- A certificate with two bytes of length. -/
def longSequence (hi lo : UInt8) (body : Bytes) : BenchCert :=
  ⟨0x30 :: 0x82 :: hi :: lo :: body, List.cons_ne_nil _ _⟩

private theorem readSequence_long {hi lo : UInt8} {body : Bytes}
    (h : body.length = hi.toNat * 256 + lo.toNat) :
    readSequence (longSequence hi lo body).val = some (longSequence hi lo body, []) := by
  have htake : body.take (hi.toNat * 256 + lo.toNat) = body := List.take_of_length_le h.le
  have hdrop : body.drop (hi.toNat * 256 + lo.toNat) = [] := List.drop_of_length_le h.le
  simp only [longSequence, readSequence, h.ge, if_true, htake, hdrop]

private theorem parse_long {hi lo : UInt8} {body : Bytes}
    (h : body.length = hi.toNat * 256 + lo.toNat)
    (hsize : body.length + 4 ≤ 8192) :
    bench.parse Tls.exampleLibrary.crypto (longSequence hi lo body).val {} =
      .ok (singleChain (longSequence hi lo body)) := by
  have hspace : (longSequence hi lo body).val.dropWhile isAsciiSpace =
      (longSequence hi lo body).val := List.dropWhile_cons_of_neg (by decide)
  have hder : ¬ kBeginCert <+: (longSequence hi lo body).val := by
    rw [kBeginCert_eq]
    intro hp
    exact absurd (List.cons_prefix_cons.mp hp).1 (by decide)
  have hkept : ¬ ({} : CertificateChainLimits).maxPayloadBytes <
      (longSequence hi lo body).val.length := Nat.not_lt.mpr hsize
  unfold OpenSsl.parse
  rw [if_neg hkept, hspace]
  dsimp only
  rw [if_neg (longSequence hi lo body).property, if_neg hder]
  unfold OpenSsl.parseDerSingle
  have hd2i : bench.d2i (longSequence hi lo body).val = some (longSequence hi lo body, []) :=
    readSequence_long h
  rw [hspace]
  dsimp only
  rw [hd2i]
  rfl

/-- A certificate of 6010 bytes. -/
def longCert : BenchCert := longSequence 0x17 0x76 (List.replicate 6006 0x41)

/-- **A certificate that grows beyond the limit.** It is injected with 6010 bytes of the 8192
that are allowed; the text in force has 8196, and the reader refuses it. -/
theorem long_certificate_unreadable :
    Installs bench Tls.exampleLibrary benchEnv benchVehicle .inject longCert.val
        (singleChain longCert) ∧
      ¬ Readable bench Tls.exampleLibrary.crypto none
        (Installation.inject.run bench Tls.exampleLibrary benchEnv benchVehicle longCert.val).2
        (singleChain longCert) := by
  have hlength : (List.replicate 6006 (0x41 : UInt8)).length = 6006 := List.length_replicate ..
  have hparse : bench.parse Tls.exampleLibrary.crypto longCert.val {} =
      .ok (singleChain longCert) :=
    parse_long (by rw [hlength]; decide) (by rw [hlength]; decide)
  have hinstalls : Installs bench Tls.exampleLibrary benchEnv benchVehicle .inject longCert.val
      (singleChain longCert) :=
    installs_inject hparse rfl (by decide +kernel) rfl (by decide +kernel) rfl rfl (by decide) rfl
      (by decide)
  refine ⟨hinstalls, fun hread => ?_⟩
  have hfits := (readable_iff lawful_bench hinstalls.parsed hinstalls.published).mp hread
  have hsize : bench.canonicalSize (singleChain longCert).certs = 8196 := by decide +kernel
  exact absurd hfits.1 (by rw [hsize]; decide)

end TboxSec.Certificates
