import TboxSec.Canonical.Injective
import TboxSec.Keyprov.Bench

/-!
# What an accepted envelope is bound to

The validator rebuilds the additional data from the request around the envelope and compares it
with the additional data the parameters carry. The rebuilt bytes are a frame of ten segments,
so two requests in which the same parameters are accepted rebuild the same segments.

* **Texts and numbers**: each segment gives its field back, the purpose through its wire value.
* **Device**: the certificate digest of the device is compared with the one in the parameters.

* `EnvelopeAccepted` is what the validator has found when it accepts: the rebuilt data are those
  of the parameters, and the recomputed digest is the one of the item.
* `rebuildEnvelopeAad_inj`: the rebuilt data determine the request around the envelope.
-/

namespace TboxSec.Keyprov

open Canonical

variable {X : Crypto} {L : EnvelopeLib} {item item' : WrappedKeyItem}
  {ctx ctx' : EnvelopeContext} {limits limits' : EnvelopeLimits} {v v' : ValidatedEnvelope}

/-- The facts an accepted envelope leaves. -/
structure EnvelopeAccepted (X : Crypto) (L : EnvelopeLib) (item : WrappedKeyItem)
    (ctx : EnvelopeContext) (limits : EnvelopeLimits) (v : ValidatedEnvelope) : Prop where
  parsed : parseEcdhEsP256Parameters L item.parameters = .ok v.params
  format : item.envelopeFormat = .ecdhEsP256V1
  suite : item.wrappingSuite = wrappingSuiteEcdhEsP256
  algorithm : item.algorithm = defaultKeyAlgorithm
  purpose : item.purpose = purposeUplink ∨ item.purpose = purposeDownlink
  aadLength : v.params.canonicalAad.length ≤ limits.maxCanonicalAad
  certificateLength : v.params.recipientCertificateDigest.length = 32
  certificate : ctx.activeCertDigest = v.params.recipientCertificateDigest
  aad : rebuildEnvelopeAad ctx.requestId ctx.businessDomain item v.params =
    v.params.canonicalAad
  digest : item.envelopeDigest = buildWireEnvelopeDigestV1 X (wireDigestInputOf ctx item)
  validated : v = ⟨v.params, v.params.canonicalAad, item.envelopeDigest, item.keyCheckValue⟩
  version : item.businessKeyVersion ≤ maxBusinessKeyVersion

private theorem wrappingSuiteEnumValue_isNone_eq_false {suite : String}
    (h : (wrappingSuiteEnumValue suite).isNone = false) : suite = wrappingSuiteEcdhEsP256 := by
  unfold wrappingSuiteEnumValue at h
  split_ifs at h with hsuite
  · exact hsuite
  · cases h

/-- The result holds the rebuilt additional data and the recomputed digest. -/
private theorem result_of_validateEnvelope (h : validateEnvelope X L item ctx limits = .ok v) :
    v = ⟨v.params, rebuildEnvelopeAad ctx.requestId ctx.businessDomain item v.params,
      buildWireEnvelopeDigestV1 X (wireDigestInputOf ctx item), item.keyCheckValue⟩ := by
  unfold validateEnvelope at h
  split at h
  · cases h
  · split at h
    · cases h
    · split at h
      · cases h
      · cases h
        rfl

/-- **What the validator checked.** -/
theorem accepted_of_validateEnvelope (h : validateEnvelope X L item ctx limits = .ok v) :
    EnvelopeAccepted X L item ctx limits v := by
  obtain ⟨hparse, hheader, hchecks, -⟩ := validateEnvelope_ok h
  simp only [envelopeHeaderChecks, List.forall_mem_cons] at hheader
  obtain ⟨hformat, hsuite, halgorithm, -, -, -⟩ := hheader
  simp only [envelopeParameterChecks, List.forall_mem_cons] at hchecks
  obtain ⟨-, -, -, haadLength, -, -, -, -, hcertLength, -, -, hcertificate, haad, -, -, hwire,
    hversion, -, -, -, -⟩ := hchecks
  obtain ⟨-, hversion⟩ := Bool.or_eq_false_iff.mp hversion
  have hwire : item.envelopeDigest = buildWireEnvelopeDigestV1 X (wireDigestInputOf ctx item) :=
    bne_eq_false_iff_eq.mp hwire
  have haad : rebuildEnvelopeAad ctx.requestId ctx.businessDomain item v.params =
      v.params.canonicalAad := bne_eq_false_iff_eq.mp haad
  have hresult := result_of_validateEnvelope h
  rw [haad, ← hwire] at hresult
  exact
    { parsed := hparse
      format := bne_eq_false_iff_eq.mp hformat
      suite := wrappingSuiteEnumValue_isNone_eq_false hsuite
      algorithm := bne_eq_false_iff_eq.mp halgorithm
      purpose := purpose_of_validateEnvelope h
      aadLength := Nat.not_lt.mp (of_decide_eq_false haadLength)
      certificateLength := bne_eq_false_iff_eq.mp hcertLength
      certificate := bne_eq_false_iff_eq.mp hcertificate
      aad := haad
      digest := hwire
      validated := hresult
      version := Nat.not_lt.mp (of_decide_eq_false hversion) }

/-- The two purposes have their own wire values. -/
private theorem purposeEnumValue_inj {p q : String} (hp : p = purposeUplink ∨ p = purposeDownlink)
    (hq : q = purposeUplink ∨ q = purposeDownlink)
    (h : (purposeEnumValue p).getD 0 = (purposeEnumValue q).getD 0) : p = q := by
  have hup : (purposeEnumValue purposeUplink).getD 0 = 1 := by decide
  have hdown : (purposeEnumValue purposeDownlink).getD 0 = 2 := by decide
  rcases hp with rfl | rfl <;> rcases hq with rfl | rfl
  · rfl
  · rw [hup, hdown] at h
    omega
  · rw [hup, hdown] at h
    omega
  · rfl

private theorem purposeEnumValue_lt (p : String) : (purposeEnumValue p).getD 0 < 2 ^ 64 := by
  unfold purposeEnumValue
  split_ifs <;> norm_num

/-- **The segments of the rebuilt additional data give the request back.** -/
theorem rebuildEnvelopeAad_inj {requestId domain requestId' domain' : String}
    {params params' : EnvelopeParameters}
    (hlength : (rebuildEnvelopeAad requestId domain item params).length < 2 ^ 32)
    (hpurpose : item.purpose = purposeUplink ∨ item.purpose = purposeDownlink)
    (hpurpose' : item'.purpose = purposeUplink ∨ item'.purpose = purposeDownlink)
    (hversion : item.businessKeyVersion ≤ maxBusinessKeyVersion)
    (hversion' : item'.businessKeyVersion ≤ maxBusinessKeyVersion)
    (heq : rebuildEnvelopeAad requestId domain item params =
      rebuildEnvelopeAad requestId' domain' item' params') :
    requestId = requestId' ∧ domain = domain' ∧ item.purpose = item'.purpose ∧
      item.keyId = item'.keyId ∧ item.businessKeyVersion = item'.businessKeyVersion := by
  unfold maxBusinessKeyVersion at hversion hversion'
  rw [rebuildEnvelopeAad, buildParProtoAadV1_eq_raw, Raw.buildParProtoAadV1_eq] at hlength heq
  rw [rebuildEnvelopeAad, buildParProtoAadV1_eq_raw, Raw.buildParProtoAadV1_eq] at heq
  have hsegments := frame_inj_of_length hlength heq
  simp only [Raw.EnvelopeAadInput.segments, EnvelopeAadInput.raw, List.cons.injEq,
    and_true] at hsegments
  obtain ⟨-, -, hpurposes, hversions, -, -, hrequest, hdomain, hkey, -⟩ := hsegments
  have hvalue := Raw.varint_inj (purposeEnumValue_lt _) (purposeEnumValue_lt _) hpurposes
  exact ⟨textBytes_injective hrequest, textBytes_injective hdomain,
    purposeEnumValue_inj hpurpose hpurpose' hvalue, textBytes_injective hkey,
    Raw.uint64_inj (by omega) (by omega) hversions⟩

private theorem exists_of_toOption_isSome
    (h : (validateEnvelope X L item ctx limits).toOption.isSome = true) :
    ∃ v, validateEnvelope X L item ctx limits = .ok v := by
  rcases hv : validateEnvelope X L item ctx limits with rc | v
  · rw [hv] at h
    cases h
  · exact ⟨v, rfl⟩

/-- **An accepted envelope is bound to its context.** The same parameters are accepted for one
request, domain, purpose, key, version, suite, format and device certificate only, and the
digest of the item is the recomputed one. The callers leave the limit on the additional data
at 1024 bytes. -/
theorem envelope_bound_to_context (hlimit : limits.maxCanonicalAad < 2 ^ 32)
    (h : validateEnvelope X L item ctx limits = .ok v)
    (h' : validateEnvelope X L item' ctx' limits' = .ok v')
    (hparameters : item.parameters = item'.parameters) :
    ctx.requestId = ctx'.requestId ∧ ctx.businessDomain = ctx'.businessDomain ∧
      item.purpose = item'.purpose ∧ item.keyId = item'.keyId ∧
      item.businessKeyVersion = item'.businessKeyVersion ∧
      item.wrappingSuite = item'.wrappingSuite ∧ item.envelopeFormat = item'.envelopeFormat ∧
      ctx.activeCertDigest = ctx'.activeCertDigest ∧
      item.envelopeDigest = buildWireEnvelopeDigestV1 X (wireDigestInputOf ctx item) ∧
      item'.envelopeDigest = buildWireEnvelopeDigestV1 X (wireDigestInputOf ctx' item') := by
  have hacc := accepted_of_validateEnvelope h
  have hacc' := accepted_of_validateEnvelope h'
  -- one parse of the same bytes
  have hparams : v.params = v'.params := by
    have hparsed := hacc.parsed
    rw [hparameters, hacc'.parsed] at hparsed
    exact (Except.ok.inj hparsed).symm
  have haad : rebuildEnvelopeAad ctx.requestId ctx.businessDomain item v.params =
      rebuildEnvelopeAad ctx'.requestId ctx'.businessDomain item' v'.params := by
    rw [hacc.aad, hacc'.aad, hparams]
  have hlength : (rebuildEnvelopeAad ctx.requestId ctx.businessDomain item v.params).length <
      2 ^ 32 := by
    rw [hacc.aad]
    exact lt_of_le_of_lt hacc.aadLength hlimit
  obtain ⟨hrequest, hdomain, hpurpose, hkey, hversion⟩ :=
    rebuildEnvelopeAad_inj hlength hacc.purpose hacc'.purpose hacc.version hacc'.version haad
  refine ⟨hrequest, hdomain, hpurpose, hkey, hversion, ?_, ?_, ?_, hacc.digest, hacc'.digest⟩
  · rw [hacc.suite, hacc'.suite]
  · rw [hacc.format, hacc'.format]
  · rw [hacc.certificate, hacc'.certificate, hparams]

/-- Two items of the bench with the same parameters around different wrapped keys. -/
theorem envelope_bound_to_context_bench :
    ∃ item item' ctx v v',
      validateEnvelope Bench.crypto Bench.platform.envelope item ctx {} = .ok v ∧
        validateEnvelope Bench.crypto Bench.platform.envelope item' ctx {} = .ok v' ∧
        item.wrappedKey ≠ item'.wrappedKey ∧ item.parameters = item'.parameters ∧
        item.keyId = item'.keyId ∧
        item.envelopeDigest =
          buildWireEnvelopeDigestV1 Bench.crypto (wireDigestInputOf ctx item) := by
  let item (key : UInt8) : WrappedKeyItem := Bench.sealItem "r1" businessDomainV2c
    (Bench.bareItem purposeUplink "k1" 1 key)
  let ctx : EnvelopeContext := envelopeContext "r1" businessDomainV2c Bench.binding (item 1)
  obtain ⟨v, hv⟩ : ∃ v,
      validateEnvelope Bench.crypto Bench.platform.envelope (item 1) ctx {} = .ok v :=
    exists_of_toOption_isSome (by decide +kernel)
  obtain ⟨v', hv'⟩ : ∃ v,
      validateEnvelope Bench.crypto Bench.platform.envelope (item 2) ctx {} = .ok v :=
    exists_of_toOption_isSome (by decide +kernel)
  have hparameters : (item 1).parameters = (item 2).parameters := rfl
  have hbound := envelope_bound_to_context (by decide) hv hv' hparameters
  obtain ⟨-, -, -, hkey, -, -, -, -, hdigest, -⟩ := hbound
  exact ⟨item 1, item 2, ctx, v, v', hv, hv', by decide, hparameters, hkey, hdigest⟩

end TboxSec.Keyprov
