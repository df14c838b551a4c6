import Mathlib.Data.ZMod.Basic
import TboxSec.Keyprov.Binding
import TboxSec.Keyprov.EnvelopeBuilder

/-!
# Wrap and unwrap agree

An envelope made by the builder passes the validator of the device it was made for, and the
HSM behind the provider opens it.

* **Same additional data, same info, same digests**: the validator and the pipeline rebuild
  from the request what the builder computed from its input.
* **Same key**: the ephemeral private key with the device's public key and the device's private
  key with the ephemeral public key agree on one shared secret, and what is derived from it
  opens what it sealed.

* `StableUnderReparse` and `GcmLawful` are the laws of the protobuf runtime and of the cipher.
* `validateEnvelope_built` and `unwrapWith_built` are the two halves, on the side of the validator
  and on the side of the HSM.
* The bench instantiates all of them, with an HSM that holds a device key on a small curve.
-/

namespace TboxSec.Keyprov

open Canonical Crash Hsm

variable {X : Crypto} {C : Curve} {L : EnvelopeLib} {i : KeyprovEnvelopeInput}
  {rnd : EnvelopeRandom} {out : KeyprovEnvelopeOutput}

/-! ### What is taken from the libraries -/

/-- AES-256-GCM: a sealed text is the IV, a ciphertext as long as the plain text and a tag of
16 bytes, and opens under the same key and additional data. -/
structure GcmLawful (X : Crypto) : Prop where
  opens : ∀ key aad iv plain : Bytes, iv.length = 12 →
    X.gcmOpen key aad (X.gcmSeal key aad iv plain) = some plain
  parts : ∀ key aad iv plain : Bytes, iv.length = 12 → ∃ ciphertext tag,
    X.gcmSeal key aad iv plain = iv ++ ciphertext ++ tag ∧
      ciphertext.length = plain.length ∧ tag.length = 16

/-- Protobuf: the serialized message is not empty and parses to itself, with no unknown
field. -/
def StableUnderReparse (L : EnvelopeLib) (msg : EnvelopeParameters) : Prop :=
  L.serialize msg ≠ [] ∧ L.parse (L.serialize msg) = some (msg, false)

/-! ### What the builder did -/

/-- The run of the builder behind an output. -/
structure Built (X : Crypto) (C : Curve) (L : EnvelopeLib) (i : KeyprovEnvelopeInput)
    (out : KeyprovEnvelopeOutput) (ephPriv ephPub salt nonce shared ciphertext tag : Bytes) :
    Prop where
  checks : ∀ c ∈ builderChecks L i, c.1 = false
  ephemeral : derivePublicKey C ephPriv = some ephPub
  saltLength : salt.length = 32
  nonceLength : nonce.length = 12
  agreed : ecdhShared C ephPriv i.devicePublicKey = some shared
  encrypted : aesGcmEncrypt X (X.hkdfSha256 shared salt (builderInfo i) 32) nonce (builderAad i)
    i.businessKey = some (ciphertext, tag)
  output : out = builderOutput X L i ephPub salt nonce shared ciphertext tag

private theorem length_of_chosen {n : ℕ} {given b : Bytes}
    {random : Option {b : Bytes // b.length = n}} (h : chosen given random = .ok b) :
    b.length = n := by
  unfold chosen at h
  split at h
  · split at h
    · cases h
    · rename_i c
      cases h
      exact c.property
  · split at h
    · cases h
    · rename_i hlen
      cases h
      exact not_not.mp hlen

private theorem built_of_ok (h : buildEcdhEsP256EnvelopeV1 X C L i rnd = .ok out) :
    ∃ ephPriv ephPub salt nonce shared ciphertext tag,
      Built X C L i out ephPriv ephPub salt nonce shared ciphertext tag := by
  unfold buildEcdhEsP256EnvelopeV1 at h
  split at h
  · cases h
  rename_i hchecks
  rcases hpriv : chosen i.serverEphemeralPrivateKey rnd.ephemeral with rc | ephPriv
  · rw [hpriv] at h
    cases h
  rw [hpriv] at h
  simp only [bind, Except.bind] at h
  split at h
  · cases h
  rename_i ephPub hpub
  rcases hsalt : chosen i.hkdfSalt rnd.salt with rc | salt
  · rw [hsalt] at h
    cases h
  rw [hsalt] at h
  rcases hnonce : chosen i.nonce rnd.nonce with rc | nonce
  · rw [hnonce] at h
    cases h
  rw [hnonce] at h
  simp only at h
  split at h
  · cases h
  rename_i shared hshared
  split at h
  · cases h
  rename_i ciphertext tag hencrypted
  cases h
  exact ⟨ephPriv, ephPub, salt, nonce, shared, ciphertext, tag,
    { checks := firstReject_eq_none_iff.mp hchecks
      ephemeral := hpub
      saltLength := length_of_chosen hsalt
      nonceLength := length_of_chosen hnonce
      agreed := hshared
      encrypted := hencrypted
      output := rfl }⟩

section Built

variable {ephPriv ephPub salt nonce shared ciphertext tag : Bytes}

/-- The ephemeral public key is a finite point. -/
private theorem Built.ephemeral_point (hC : C.Lawful)
    (h : Built X C L i out ephPriv ephPub salt nonce shared ciphertext tag) :
    bin2bn ephPriv • C.base ≠ 0 ∧ ephPub = C.point2oct (bin2bn ephPriv • C.base) := by
  have hpub := h.ephemeral
  unfold derivePublicKey at hpub
  simp only at hpub
  split at hpub
  · rename_i hlen
    refine ⟨fun hzero => ?_, (Option.some.inj hpub).symm⟩
    rw [hzero, hC.point2oct_zero] at hlen
    cases hlen
  · cases hpub

/-- The sealed key is the nonce, the ciphertext and the tag. -/
theorem Built.sealed (hX : GcmLawful X)
    (h : Built X C L i out ephPriv ephPub salt nonce shared ciphertext tag) :
    X.gcmSeal (X.hkdfSha256 shared salt (builderInfo i) 32) (builderAad i) nonce i.businessKey =
        nonce ++ ciphertext ++ tag ∧
      ciphertext.length = i.businessKey.length ∧ tag.length = 16 := by
  have henc := h.encrypted
  unfold aesGcmEncrypt at henc
  split at henc
  · cases henc
  obtain ⟨c, t, hseal, hc, ht⟩ := hX.parts (X.hkdfSha256 shared salt (builderInfo i) 32)
    (builderAad i) nonce i.businessKey h.nonceLength
  simp only [hseal, Option.some.injEq, Prod.mk.injEq, List.append_assoc, List.length_append,
    h.nonceLength, ht] at henc
  obtain ⟨hciphertext, htag⟩ := henc
  have hcut : (nonce ++ (c ++ t)).drop 12 = c ++ t := by
    rw [List.drop_append_of_le_length (by omega), List.drop_of_length_le (by omega),
      List.nil_append]
  have hct : ciphertext = c := by
    rw [← hciphertext, hcut, show 12 + (c.length + 16) - 28 = c.length by omega, List.take_left']
    rfl
  have htt : tag = t := by
    rw [← htag, show 12 + (c.length + 16) - 16 = (nonce ++ c).length by
      rw [List.length_append, h.nonceLength]; omega, ← List.append_assoc, List.drop_left']
    rfl
  rw [hct, htt]
  exact ⟨hseal, hc, ht⟩

/-! ### The validator accepts -/

/-- The additional data rebuilt from the request are the builder's. -/
private theorem rebuildEnvelopeAad_built {from' to' : ℤ} {params : EnvelopeParameters}
    (hroot : params.rootKeyVersion = i.rootKeyVersion)
    (hderivation : params.derivationVersion = i.derivationVersion)
    (hcert : params.recipientCertificateDigest = i.recipientCertificateDigest) :
    rebuildEnvelopeAad i.requestId i.businessDomain (builtItem i out from' to') params =
      builderAad i := by
  simp only [rebuildEnvelopeAad, builtItem, builderAad, hroot, hderivation, hcert]

/-- The device of the binding passes the certificate gate. -/
private theorem gate_of_bindingAgreementOk {b : BusinessKeyDeviceBinding}
    (hb : bindingAgreementOk b = true) :
    (b.deviceKeyId == "") = false ∧ b.ready = true ∧ b.activeCertP256 = true ∧
      b.activeCertKeyAgreement = true ∧ b.activeCertDigitalSignature = true ∧
      b.privateKeyCanDerive = true ∧ b.privateKeyCanSign = true ∧ b.activeCertCaFalse = true ∧
      b.activeCertEkuClientAuthOnly = true ∧ b.activeCertCriticalExtensionsAllowed = true ∧
      b.activeCertLeafDigestBound = true ∧ b.activeCertChainKeyMatch = true ∧
      b.identityTemplateSignDerive = true := by
  simp only [bindingAgreementOk, Bool.and_eq_true, bne, Bool.not_eq_true'] at hb
  tauto

/-- **A built envelope is accepted**, with the builder's message. -/
theorem validateEnvelope_built {b : BusinessKeyDeviceBinding} {limits : EnvelopeLimits}
    (from' to' : ℤ) (hC : C.Lawful) (hX : GcmLawful X) (hcurve : ∀ p, L.onCurve p = C.onCurve p)
    (h : Built X C L i out ephPriv ephPub salt nonce shared ciphertext tag)
    (hstable : StableUnderReparse L (builderMessage X i ephPub salt nonce tag))
    (hcontext : i.hkdfContextVersion = "v1") (hroot : 0 < i.rootKeyVersion)
    (hderivation : i.derivationVersion ≠ "") (hoperation : i.operationId ≠ "")
    (hversion : i.businessKeyVersion < 2 ^ 63)
    (haadSize : out.canonicalAad.length ≤ limits.maxCanonicalAad)
    (hparamsSize : out.parameters.length ≤ limits.maxParameters)
    (hwrappedSize : out.wrappedKey.length ≤ limits.maxWrappedKey)
    (hb : bindingAgreementOk b = true)
    (hcert : b.activeCertDigest = i.recipientCertificateDigest) :
    validateEnvelope X L (builtItem i out from' to')
        (envelopeContext i.requestId i.businessDomain b (builtItem i out from' to')) limits =
      .ok ⟨builderMessage X i ephPub salt nonce tag, builderAad i, out.envelopeDigest,
        out.keyCheckValue⟩ := by
  obtain ⟨hne, hpoint⟩ := h.ephemeral_point hC
  obtain ⟨-, hlength, htag⟩ := h.sealed hX
  have hchecks := h.checks
  simp only [builderChecks, List.forall_mem_cons] at hchecks
  obtain ⟨-, -, hkey, hdigest, hzero, -, halgorithm, hsuite, hpurpose, -⟩ := hchecks
  have hkey : i.businessKey.length = 32 := bne_eq_false_iff_eq.mp hkey
  have hparams : out.parameters = L.serialize (builderMessage X i ephPub salt nonce tag) := by
    rw [h.output]
    rfl
  have hwrapped : out.wrappedKey = ciphertext := by
    rw [h.output]
    rfl
  have haad : out.canonicalAad = builderAad i := by
    rw [h.output]
    rfl
  have hrebuild : rebuildEnvelopeAad i.requestId i.businessDomain (builtItem i out from' to')
      (builderMessage X i ephPub salt nonce tag) = builderAad i :=
    rebuildEnvelopeAad_built rfl rfl rfl
  have hwire : buildWireEnvelopeDigestV1 X (wireDigestInputOf
      (envelopeContext i.requestId i.businessDomain b (builtItem i out from' to'))
      (builtItem i out from' to')) = out.envelopeDigest := by
    rw [h.output]
    rfl
  have hvalid : isValidP256UncompressedPoint L ephPub = true := by
    simp only [isValidP256UncompressedPoint, hpoint, hC.length_point2oct _ hne,
      hC.head_point2oct _ hne, hcurve, Curve.onCurve, hC.oct2point_point2oct _ hne,
      beq_self_eq_true,
      Bool.true_and, ne_eq, hne, not_false_eq_true, decide_true]
  obtain ⟨-, -, hg1, hg2, hg3, hg4, hg5, hg6, hg7, hg8, hg9, hg10, hg11⟩ :=
    gate_of_bindingAgreementOk hb
  have hnonempty : (L.serialize (builderMessage X i ephPub salt nonce tag)).isEmpty = false :=
    List.isEmpty_eq_false_iff.mpr hstable.1
  have hheader : firstReject (envelopeHeaderChecks (builtItem i out from' to') limits) = none := by
    refine firstReject_eq_none_iff.mpr ?_
    simp only [envelopeHeaderChecks, List.forall_mem_cons]
    refine ⟨rfl, hsuite, halgorithm, ?_, ?_, fun _ hc => absurd hc List.not_mem_nil⟩
    · show out.parameters.isEmpty = false
      rw [hparams, hnonempty]
    · exact decide_eq_false (Nat.not_lt.mpr hparamsSize)
  have hparse : parseEcdhEsP256Parameters L (builtItem i out from' to').parameters =
      .ok (builderMessage X i ephPub salt nonce tag) := by
    show parseEcdhEsP256Parameters L out.parameters = _
    rw [hparams]
    simp only [parseEcdhEsP256Parameters, hnonempty, Bool.false_eq_true, if_false, hstable.2,
      ne_eq, not_true_eq_false]
  have hbody : firstReject (envelopeParameterChecks X L (builtItem i out from' to')
      (envelopeContext i.requestId i.businessDomain b (builtItem i out from' to')) limits
      (builderMessage X i ephPub salt nonce tag)) = none := by
    refine firstReject_eq_none_iff.mpr ?_
    simp only [envelopeParameterChecks, List.forall_mem_cons, hwire]
    refine ⟨rfl, bne_eq_false_iff_eq.mpr hcontext, ?_, ?_, bne_eq_false_iff_eq.mpr h.saltLength,
      bne_eq_false_iff_eq.mpr h.nonceLength, bne_eq_false_iff_eq.mpr htag,
      bne_eq_false_iff_eq.mpr (X.sha256_length _), hdigest, ?_, ?_,
      bne_eq_false_iff_eq.mpr hcert, bne_eq_false_iff_eq.mpr hrebuild, ?_, hpurpose,
      bne_self_eq_false _, ?_, ?_, ?_, ?_, fun _ hc => absurd hc List.not_mem_nil⟩
    · -- 32 bytes of ciphertext, within the limit
      refine Bool.or_eq_false_iff.mpr ⟨?_, decide_eq_false (Nat.not_lt.mpr hwrappedSize)⟩
      show out.wrappedKey.isEmpty = false
      refine List.isEmpty_eq_false_iff.mpr fun hnil => ?_
      rw [hwrapped] at hnil
      rw [hnil, hkey] at hlength
      cases hlength
    · rw [haad] at haadSize
      exact decide_eq_false (Nat.not_lt.mpr haadSize)
    · rw [show (builderMessage X i ephPub salt nonce tag).serverEphemeralPublicKey = ephPub
        from rfl, hvalid]
      rfl
    · simp only [envelopeContext, hg1, hg2, hg3, hg4, hg5, hg6, hg7, hg8, hg9, hg10, hg11,
        Bool.not_true, Bool.or_self]
    · refine bne_eq_false_iff_eq.mpr ?_
      show X.sha256 (rebuildEnvelopeAad i.requestId i.businessDomain (builtItem i out from' to')
        (builderMessage X i ephPub salt nonce tag)) = X.sha256 (builderAad i)
      rw [hrebuild]
    · refine Bool.or_eq_false_iff.mpr ⟨hzero, decide_eq_false (Nat.not_lt.mpr ?_)⟩
      show i.businessKeyVersion ≤ maxBusinessKeyVersion
      unfold maxBusinessKeyVersion
      omega
    · exact beq_eq_false_iff_ne.mpr hroot.ne'
    · exact beq_eq_false_iff_ne.mpr hderivation
    · exact beq_eq_false_iff_ne.mpr hoperation
  unfold validateEnvelope
  rw [hheader, hparse]
  simp only [hbody]
  simp only [hwire, Except.ok.injEq, ValidatedEnvelope.mk.injEq, true_and]
  exact ⟨hrebuild, rfl⟩

/-! ### The HSM opens -/

variable {H : Library} {kd : KeyData}

/-- **The agreement**: the device's private key opens what the builder sealed. -/
theorem unwrapWith_built {a : UnwrapArgs} (hC : H.curve.Lawful) (hX : GcmLawful H.crypto)
    (h : Built H.crypto H.curve L i out ephPriv ephPub salt nonce shared ciphertext tag)
    (hdevice : i.devicePublicKey = kd.pub)
    (hmatch : kd.pub = H.curve.point2oct (bin2bn kd.priv • H.curve.base))
    (heph : a.serverEphemeralPublicKey = ephPub) (hsalt : a.hkdfSalt = salt)
    (hinfo : a.hkdfInfo = builderInfo i) (hnonce : a.nonce = nonce)
    (hct : a.ciphertext = ciphertext) (htag : a.authenticationTag = tag)
    (haad : a.aad = builderAad i) :
    unwrapWith H kd a = (.success, i.businessKey) := by
  obtain ⟨hne, hpoint⟩ := h.ephemeral_point hC
  obtain ⟨hseal, -, -⟩ := h.sealed hX
  -- the public key of the device was checked by the builder, so it is a finite point
  have hfinite : bin2bn kd.priv • H.curve.base ≠ 0 := by
    intro hzero
    have hvalid := h.checks (!isValidP256UncompressedPoint L i.devicePublicKey, .invalidParameter)
      (by simp [builderChecks])
    rw [hdevice, hmatch, hzero, hC.point2oct_zero] at hvalid
    simp [isValidP256UncompressedPoint] at hvalid
  have hpub : H.curve.oct2point kd.pub = some (bin2bn kd.priv • H.curve.base) := by
    rw [hmatch, hC.oct2point_point2oct _ hfinite]
  have hephemeral : H.curve.oct2point a.serverEphemeralPublicKey =
      some (bin2bn ephPriv • H.curve.base) := by
    rw [heph, hpoint, hC.oct2point_point2oct _ hne]
  have hshared : H.curve.ecdhComputeKey (bin2bn kd.priv) (bin2bn ephPriv • H.curve.base) =
      some shared := by
    have hagreed := h.agreed
    rw [ecdhShared, hdevice, hpub] at hagreed
    rw [Curve.ecdhComputeKey_comm]
    exact hagreed
  have hopen := hX.opens (H.crypto.hkdfSha256 shared salt (builderInfo i) 32) (builderAad i) nonce
    i.businessKey h.nonceLength
  rw [hseal] at hopen
  simp only [unwrapWith, hpub, hephemeral, hne, if_false, hshared, hsalt, hinfo, haad, hnonce,
    hct, htag, hopen]

end Built

/-- The HSM in the state `w` has the key `kd` under a key id, cached or loaded. -/
structure HoldsKey (H : Library) (ω : Hsm.Oracle) (w : Hsm.World) (keyId : String)
    (kd : KeyData) : Prop where
  valid : isValidKeyId keyId = true
  fetched : ∃ w', fetchKey H ω keyId w = .done (.ok kd) w'

private theorem softFileUnwrap_eq {H : Library} {ω : Hsm.Oracle} {w : Hsm.World} {kd : KeyData}
    {req : UnwrapRequest} (hkey : HoldsKey H ω w req.deviceKeyId kd)
    (heph : req.ephemeralPublicKey.length = 65) (hnonce : req.nonce.length = 12)
    (htag : req.tag.length = 16) (hsalt : req.salt.length = 32) :
    softFileUnwrap H ω w req = unwrapWith H kd (unwrapArgs req) := by
  obtain ⟨w', hfetch⟩ := hkey.fetched
  have hrun : unwrapEcdhEsV1 H ω (unwrapArgs req) w =
      .done (unwrapWith H kd (unwrapArgs req)) w' := by
    unfold unwrapEcdhEsV1
    rw [if_neg (by simp [unwrapArgs, hkey.valid]), if_neg (by
      simp only [unwrapArgs, heph, hnonce, htag, hsalt, ne_eq, not_true_eq_false, or_self,
        not_false_eq_true])]
    show Prog.bind (fetchKey H ω req.deviceKeyId) _ w = _
    unfold Prog.bind
    rw [hfetch]
    rfl
  rw [softFileUnwrap, hrun]

/-- The provider takes a key of the right size with the transmitted check value. -/
private theorem unwrapKey_eq {P : Platform} {pω : Oracle} {item : WrappedKeyItem}
    {params : EnvelopeParameters} {aad info plain : Bytes} {b : BusinessKeyDeviceBinding}
    {pw : World}
    (hanswer : P.unwrap (unwrapRequest item params aad info b)
      (pω.unwrapSeed pw.asked.unwraps) = (.success, plain))
    (hsize : plain.length = algorithmKeySize item.algorithm)
    (hkcv : computeKcv P.crypto plain = item.keyCheckValue) :
    unwrapKey P pω item params aad info b pw =
      .done (.ok (plain, item.keyCheckValue))
        { pw with asked.unwraps := pw.asked.unwraps + 1 } := by
  unfold unwrapKey
  show Prog.bind (hsmUnwrap P pω _) _ pw = _
  unfold Prog.bind hsmUnwrap
  simp only [hanswer, ne_eq, not_true_eq_false, if_false, hsize, hkcv, and_false]
  rfl

/-! ### A sender and an HSM of the bench -/

namespace Bench

theorem gcm_lawful : GcmLawful crypto := by
  have htag : ∀ b : Bytes, ((sha256 b).take 16).length = 16 := fun b => by
    simp [sha256]
  have hseal : ∀ key aad iv plain : Bytes, gcmSeal key aad iv plain =
      iv ++ plain ++ (sha256 (key ++ aad ++ iv ++ plain)).take 16 := fun _ _ _ _ => rfl
  refine ⟨fun key aad iv plain hiv => ?_, fun key aad iv plain _ =>
    ⟨plain, _, hseal key aad iv plain, rfl, htag _⟩⟩
  have htake : (gcmSeal key aad iv plain).take 12 = iv := by
    rw [hseal, List.append_assoc, List.take_left' hiv]
  have hmiddle : ((gcmSeal key aad iv plain).drop 12).take
      ((gcmSeal key aad iv plain).length - 28) = plain := by
    have hlength : (gcmSeal key aad iv plain).length - 28 = plain.length := by
      rw [hseal, List.length_append, List.length_append, htag, hiv]
      omega
    rw [hlength, hseal, List.append_assoc, List.drop_left' hiv, List.take_left']
    rfl
  show gcmOpen key aad (gcmSeal key aad iv plain) = some plain
  unfold gcmOpen
  simp only [htake, hmiddle, if_true]

/-- A segment is read back. -/
private theorem readSegment_segment {c : Bytes} (hc : c ∈ Short) (rest : Bytes) :
    readSegment (segment c ++ rest) = some (c, rest) := by
  have hlt : c.length < 2 ^ 32 := hc
  have hbytes : segment c ++ rest = byteAt c.length 3 :: byteAt c.length 2 ::
      byteAt c.length 1 :: byteAt c.length 0 :: (c ++ rest) := by
    simp only [Canonical.segment, appendLengthPrefixed, appendUint32be, Nat.mod_eq_of_lt hlt,
      List.nil_append, List.cons_append]
  have hvalue : (((byteAt c.length 3).toNat * 256 + (byteAt c.length 2).toNat) * 256 +
      (byteAt c.length 1).toNat) * 256 + (byteAt c.length 0).toNat = c.length := by
    simp only [byteAt_toNat]
    omega
  rw [hbytes]
  simp only [readSegment, hvalue, List.length_append, Nat.le_add_right, if_true, List.take_left',
    List.drop_left']

private theorem bind_readSegment {α : Type} {c rest : Bytes} {f : Bytes × Bytes → Option α}
    (hc : c ∈ Short) : (readSegment (segment c ++ rest) >>= f) = f (c, rest) := by
  rw [readSegment_segment hc]
  rfl

/-- The curve of the bench: a group of thirteen points, in 65 bytes each. -/
def curve : Curve where
  Point := ZMod 13
  base := 1
  oct2point b :=
    if b.length = 65 ∧ b.head? = some 0x04 then
      let n := (b.getLastD 0).toNat
      if n = 0 ∨ 13 ≤ n then none else some n
    else none
  point2oct P := if P = 0 then [0] else 0x04 :: (List.replicate 63 0 ++ [UInt8.ofNat P.val])
  affineX P := List.replicate 31 0 ++ [UInt8.ofNat P.val]

instance : Fintype curve.Point := inferInstanceAs (Fintype (ZMod 13))

theorem curve_lawful : curve.Lawful where
  oct2point_point2oct := by decide
  length_point2oct := by decide
  head_point2oct := by decide
  point2oct_zero := rfl

/-- The code the bench HSM calls. It loads and signs nothing here. -/
def library : Library where
  crypto := crypto
  curve := curve
  json := { dump := fun _ => "", parse := fun _ => none }
  ecdsaSign _ _ _ := none

/-- The device key of the bench HSM. -/
def deviceKey : KeyData := generatedKey curve "ECDSA-P256" 0 5

/-- An HSM with the device key in its cache. -/
def hsmWorld : Hsm.World where
  disk := ⟨fun _ => none, none⟩
  mem := ⟨[], fun _ => some deviceKey, true⟩
  writes := 0

/-- An environment of the bench HSM in which nothing is chosen. -/
def hsmOracle : Hsm.Oracle where
  write _ := .ok
  reads := true
  kek := { random := none, opens := true, written := 32, crash := false }
  iv := none
  scalar := none
  now := 0
  entropy := []

/-- Protobuf and the curve, for the sender and the device. -/
def envelopeLib : EnvelopeLib := { parse, serialize, onCurve := curve.onCurve }

/-- What the bench sender wraps, with every choice made. -/
def builderInput : KeyprovEnvelopeInput where
  devicePublicKey := deviceKey.pub
  requestId := "r1"
  purpose := purposeUplink
  keyId := "k1"
  businessKeyVersion := 1
  businessKey := keyBytes 0x55
  operationId := "op"
  recipientCertificateDigest := certDigest
  serverEphemeralPrivateKey := List.replicate 31 0 ++ [3]
  hkdfSalt := List.replicate 32 0x22
  nonce := List.replicate 12 0x33

private theorem stable_builderMessage {ephPub salt nonce tag : Bytes} (heph : ephPub.length = 65)
    (hsalt : salt.length = 32) (hnonce : nonce.length = 12) (htag : tag.length = 16) :
    StableUnderReparse envelopeLib (builderMessage crypto builderInput ephPub salt nonce tag) := by
  have hshort : ∀ {c : Bytes} {n : ℕ}, c.length = n → n < 2 ^ 32 → c ∈ Short :=
    fun hlen hlt => lt_of_eq_of_lt hlen hlt
  have haad : builderAad builderInput ∈ Short := by
    show (builderAad builderInput).length < 2 ^ 32
    decide
  have hcontext : textBytes "v1" ∈ Short := by
    show (textBytes "v1").length < 2 ^ 32
    decide
  have hoperation : textBytes "op" ∈ Short := by
    show (textBytes "op").length < 2 ^ 32
    decide
  have hcert : certDigest ∈ Short := by
    show certDigest.length < 2 ^ 32
    decide
  have hbytes : serialize (builderMessage crypto builderInput ephPub salt nonce tag) =
      segment (appendEnumVarint [] 1) ++ (segment ephPub ++ (segment salt ++
        (segment (textBytes "v1") ++ (segment nonce ++ (segment tag ++
          (segment (builderAad builderInput) ++ (segment (sha256 (builderAad builderInput)) ++
            (segment (appendUint64be [] 1) ++ (segment (textBytes "v1") ++
              (segment certDigest ++ (segment (textBytes "op") ++ []))))))))))) := by
    simp only [serialize, builderMessage, appendEnumSegment_eq, appendUint64beSegment_eq,
      appendString_eq, appendLengthPrefixed_eq, List.append_assoc, List.nil_append,
      List.append_nil]
    rfl
  have hsha : (sha256 (builderAad builderInput)).length = 32 := crypto.sha256_length _
  constructor
  · show serialize _ ≠ []
    rw [hbytes]
    exact fun hnil => segment_ne_nil _ (List.append_eq_nil_iff.mp hnil).1
  · show parse (serialize _) = _
    rw [hbytes]
    have hv1 : readText (textBytes "v1") = "v1" := by decide
    have hop : readText (textBytes "op") = "op" := by decide
    have hone : readNat (appendEnumVarint [] 1) = 1 := by decide
    have hroot : readNat (appendUint64be [] 1) = 1 := by decide
    -- one segment after the other
    refine (bind_readSegment (short_appendEnumVarint _)).trans ?_
    refine (bind_readSegment (hshort heph (by norm_num))).trans ?_
    refine (bind_readSegment (hshort hsalt (by norm_num))).trans ?_
    refine (bind_readSegment hcontext).trans ?_
    refine (bind_readSegment (hshort hnonce (by norm_num))).trans ?_
    refine (bind_readSegment (hshort htag (by norm_num))).trans ?_
    refine (bind_readSegment haad).trans ?_
    refine (bind_readSegment (hshort hsha (by norm_num))).trans ?_
    refine (bind_readSegment (short_appendUint64be _)).trans ?_
    refine (bind_readSegment hcontext).trans ?_
    refine (bind_readSegment hcert).trans ?_
    refine (bind_readSegment hoperation).trans ?_
    show some (_, false) = _
    simp only [hv1, hop, hone, hroot]
    rfl

end Bench

/-- **Wrap and unwrap agree.** The item made of the builder's outputs is accepted for the
device it was made for; the additional data and the HKDF info of the pipeline are the
builder's; and through the provider the HSM gives the business key back, with the transmitted
check value. -/
theorem wrap_unwrap_agree {H : Library} {L : EnvelopeLib} {i : KeyprovEnvelopeInput}
    {rnd : EnvelopeRandom} {out : KeyprovEnvelopeOutput} {b : BusinessKeyDeviceBinding}
    {limits : EnvelopeLimits} {from' to' : ℤ} {kd : KeyData} {ω : Hsm.Oracle} {w : Hsm.World}
    (hC : H.curve.Lawful) (hX : GcmLawful H.crypto)
    (hcurve : ∀ p, L.onCurve p = H.curve.onCurve p)
    (hproto : ∀ ephPub salt nonce tag : Bytes, ephPub.length = 65 → salt.length = 32 →
      nonce.length = 12 → tag.length = 16 →
        StableUnderReparse L (builderMessage H.crypto i ephPub salt nonce tag))
    (hbuild : buildEcdhEsP256EnvelopeV1 H.crypto H.curve L i rnd = .ok out)
    (hcontext : i.hkdfContextVersion = "v1") (hroot : 0 < i.rootKeyVersion)
    (hderivation : i.derivationVersion ≠ "") (hoperation : i.operationId ≠ "")
    (hversion : i.businessKeyVersion < 2 ^ 63)
    (haadSize : out.canonicalAad.length ≤ limits.maxCanonicalAad)
    (hparamsSize : out.parameters.length ≤ limits.maxParameters)
    (hwrappedSize : out.wrappedKey.length ≤ limits.maxWrappedKey)
    (hb : bindingAgreementOk b = true)
    (hcert : b.activeCertDigest = i.recipientCertificateDigest)
    (hkey : HoldsKey H ω w b.deviceKeyId kd) (hdevice : i.devicePublicKey = kd.pub)
    (hmatch : kd.pub = H.curve.point2oct (bin2bn kd.priv • H.curve.base)) :
    ∃ v, validateEnvelope H.crypto L (builtItem i out from' to')
          (envelopeContext i.requestId i.businessDomain b (builtItem i out from' to')) limits =
        .ok v ∧
      v.canonicalAad = out.canonicalAad ∧
      (∀ a : Admitted, a.requestId = i.requestId → a.businessDomain = i.businessDomain →
        a.binding = b → hkdfInfoOf a (builtItem i out from' to') = out.hkdfInfo) ∧
      computeKcv H.crypto i.businessKey = (builtItem i out from' to').keyCheckValue ∧
      ∀ (P : Platform) (pω : Oracle) (pw : World), P.crypto = H.crypto →
        (∀ req seed, P.unwrap req seed = softFileUnwrap H ω w req) →
        unwrapKey P pω (builtItem i out from' to') v.params v.canonicalAad out.hkdfInfo b pw =
          .done (.ok (i.businessKey, out.keyCheckValue))
            { pw with asked.unwraps := pw.asked.unwraps + 1 } := by
  obtain ⟨ephPriv, ephPub, salt, nonce, shared, ciphertext, tag, h⟩ := built_of_ok hbuild
  obtain ⟨hne, hpoint⟩ := h.ephemeral_point hC
  obtain ⟨-, -, htag⟩ := h.sealed hX
  have heph : ephPub.length = 65 := by
    rw [hpoint, hC.length_point2oct _ hne]
  have haccepted := validateEnvelope_built from' to' hC hX hcurve h
    (hproto ephPub salt nonce tag heph h.saltLength h.nonceLength htag) hcontext hroot
    hderivation hoperation hversion haadSize hparamsSize hwrappedSize hb hcert
  have hkcv : computeKcv H.crypto i.businessKey = out.keyCheckValue := by
    rw [h.output]
    rfl
  refine ⟨_, haccepted, ?_, ?_, hkcv, ?_⟩
  · rw [h.output]
    rfl
  · intro a hrequest hdomain hbinding
    rw [h.output]
    simp only [hkdfInfoOf, hrequest, hdomain, hbinding, hcert, builtItem, builderOutput,
      builderInfo]
  · intro P pω pw hcrypto hunwrap
    have hanswer : softFileUnwrap H ω w
        { deviceKeyId := b.deviceKeyId, ephemeralPublicKey := ephPub, salt
          hkdfInfo := out.hkdfInfo, nonce, ciphertext := out.wrappedKey, tag
          aad := builderAad i } = (.success, i.businessKey) := by
      rw [softFileUnwrap_eq hkey heph h.nonceLength htag h.saltLength]
      refine unwrapWith_built hC hX h hdevice hmatch rfl rfl ?_ rfl ?_ rfl rfl
      · rw [h.output]
        rfl
      · rw [h.output]
        rfl
    have hchecks := h.checks
    simp only [builderChecks, List.forall_mem_cons] at hchecks
    have hkeyLength : i.businessKey.length = 32 := bne_eq_false_iff_eq.mp hchecks.2.2.1
    have halgorithm : i.keyAlgorithm = defaultKeyAlgorithm :=
      bne_eq_false_iff_eq.mp hchecks.2.2.2.2.2.2.1
    have hsize : algorithmKeySize (builtItem i out from' to').algorithm = 32 := by
      show algorithmKeySize i.keyAlgorithm = 32
      rw [halgorithm]
      rfl
    refine unwrapKey_eq ?_ (hkeyLength.trans hsize.symm) ?_
    · rw [hunwrap]
      exact hanswer
    · rw [hcrypto]
      exact hkcv

private theorem exists_of_toOption_any {α : Type} {e : Except ErrorCode α} {p : α → Bool}
    (h : e.toOption.any p = true) : ∃ a, e = .ok a ∧ p a = true := by
  rcases e with rc | a
  · cases h
  · exact ⟨a, rfl, h⟩

/-- The platform of a device that has the bench HSM. -/
def Bench.hsmPlatform : Platform :=
  { Bench.platform with
    unwrap := fun req _ => softFileUnwrap Bench.library Bench.hsmOracle Bench.hsmWorld req }

/-- The key of the bench sender comes out of the bench HSM, through the provider. -/
theorem wrap_unwrap_agree_bench :
    ∃ out v, buildEcdhEsP256EnvelopeV1 Bench.crypto Bench.curve Bench.envelopeLib
          Bench.builderInput ⟨none, none, none⟩ = .ok out ∧
      validateEnvelope Bench.crypto Bench.envelopeLib (builtItem Bench.builderInput out 1 2)
          (envelopeContext "r1" "V2C_COMM" Bench.binding (builtItem Bench.builderInput out 1 2))
          {} = .ok v ∧
      v.canonicalAad = out.canonicalAad ∧
      hkdfInfoOf ⟨"r1", "V2C_COMM", [], Bench.binding, "", ""⟩
        (builtItem Bench.builderInput out 1 2) = out.hkdfInfo ∧
      computeKcv Bench.crypto (Bench.keyBytes 0x55) = out.keyCheckValue ∧
      unwrapKey Bench.hsmPlatform Bench.calm (builtItem Bench.builderInput out 1 2) v.params
          v.canonicalAad out.hkdfInfo Bench.binding {} =
        .done (.ok (Bench.keyBytes 0x55, out.keyCheckValue)) { asked.unwraps := 1 } := by
  obtain ⟨out, hbuild, hsizes⟩ : ∃ out, buildEcdhEsP256EnvelopeV1 Bench.crypto Bench.curve
      Bench.envelopeLib Bench.builderInput ⟨none, none, none⟩ = .ok out ∧
        decide (out.canonicalAad.length ≤ 1024 ∧ out.parameters.length ≤ 2048 ∧
          out.wrappedKey.length ≤ 4096) = true :=
    exists_of_toOption_any (by decide +kernel)
  obtain ⟨haad, hparams, hwrapped⟩ := of_decide_eq_true hsizes
  have haad' : out.canonicalAad.length ≤ ({} : EnvelopeLimits).maxCanonicalAad := haad
  have hparams' : out.parameters.length ≤ ({} : EnvelopeLimits).maxParameters := hparams
  have hwrapped' : out.wrappedKey.length ≤ ({} : EnvelopeLimits).maxWrappedKey := hwrapped
  obtain ⟨v, hv, hcanonical, hinfo, hkcv, hunwrap⟩ := wrap_unwrap_agree (H := Bench.library)
    (L := Bench.envelopeLib) (i := Bench.builderInput) (b := Bench.binding) (w := Bench.hsmWorld)
    (ω := Bench.hsmOracle) Bench.curve_lawful Bench.gcm_lawful (fun _ => rfl)
    (fun _ _ _ _ => Bench.stable_builderMessage) hbuild rfl (by decide) (by decide) (by decide)
    (by decide) haad' hparams' hwrapped' (by decide) rfl
    ⟨by decide +kernel, Bench.hsmWorld, rfl⟩ rfl (by decide +kernel)
  exact ⟨out, v, hbuild, hv, hcanonical, hinfo _ rfl rfl rfl, hkcv,
    hunwrap Bench.hsmPlatform Bench.calm {} rfl fun _ _ => rfl⟩

end TboxSec.Keyprov
