import Mathlib.Data.List.TakeWhile
import TboxSec.Keyprov.WrapUnwrap
import TboxSec.Sec.Csr

/-!
# The certification request is well formed

What the builder writes is the encoding of one value, with lengths cut to 16 bits on the way
(`narrowed`). No length is cut as long as the whole value is shorter (`narrowed_eq_encode`), so a
strict reader of certification requests reads back what was asked for.

* **Trees.** Each `marshal…` of the source appends the narrowed encoding of a tree: the name, the
  public key, the three extensions, the info and the whole request (`marshalRdn_eq` and the lemmas
  after it). The octet strings in the extensions hold narrowed encodings of trees themselves.
* **Widths.** The width of a tree bounds the length of its encoding, and the trees are a fixed
  amount wider than the texts and numbers in them (`width_requestTree_le`). With a bound on the
  identifier, the key and the signature everything stays below 16 bits.
* **Reading.** `Pkcs10.decode` reads the tree of a request into its parts (`decode_requestTree`),
  and the general names in the alternative-name extension are the one URI (`generalNames_sanTree`).

The signature is made over the bytes that are embedded as the info, which `buildCsr_eq` shows by
running the builder once.
-/

namespace TboxSec.Sec

open Hsm (Curve KeyPair)

/-! ### The encoder against DER -/

/-- A length below `2 ^ 16` is not cut. -/
private theorem narrow_toNat {n : ℕ} (h : n < 2 ^ 16) : (narrow n).toNat = n := by
  rw [narrow, UInt16.toNat_ofNat']
  omega

/-- **Lengths below 65536 are exact and minimal.** -/
theorem derEncodeLength_narrow {n : ℕ} (h : n < 2 ^ 16) (out : Bytes) :
    derEncodeLength (narrow n) out = out ++ Der.lengthOctets n := by
  have hn := narrow_toNat h
  have hshort : narrow n < 0x80 ↔ n < 128 := by rw [UInt16.lt_iff_toNat_lt, hn]; rfl
  have hbyte : narrow n ≤ 0xFF ↔ n ≤ 255 := by rw [UInt16.le_iff_toNat_le, hn]; rfl
  have hlast : (narrow n).toUInt8 = UInt8.ofNat (n % 256) := by
    apply UInt8.toNat_inj.mp
    rw [UInt16.toNat_toUInt8, hn, UInt8.toNat_ofNat']
    omega
  rw [derEncodeLength, Der.lengthOctets]
  by_cases hs : n < 128
  · rw [if_pos (hshort.mpr hs), if_pos hs, hlast, Nat.mod_eq_of_lt (by omega)]
  · rw [if_neg (mt hshort.mp hs), if_neg hs, Der.octets_of_pos (by omega)]
    by_cases hb : n ≤ 255
    · rw [if_pos (hbyte.mpr hb), Nat.div_eq_of_lt (by omega), Der.octets_zero, hlast]
      rfl
    · have hhigh : (narrow n >>> 8).toUInt8 = UInt8.ofNat (n / 256 % 256) := by
        apply UInt8.toNat_inj.mp
        rw [UInt16.toNat_toUInt8, UInt16.toNat_shiftRight, hn, UInt8.toNat_ofNat']
        simp [Nat.shiftRight_eq_div_pow]
      have hlow : (narrow n &&& 0xFF).toUInt8 = UInt8.ofNat (n % 256) := by
        apply UInt8.toNat_inj.mp
        rw [UInt16.toNat_toUInt8, UInt16.toNat_and, hn, UInt8.toNat_ofNat']
        have hmask : n &&& (0xFF : UInt16).toNat = n % 256 := Nat.and_two_pow_sub_one_eq_mod n 8
        rw [hmask]
      rw [if_neg (mt hbyte.mp hb), Der.octets_of_pos (by omega), Nat.div_eq_of_lt (by omega),
        Der.octets_zero, hhigh, hlow]
      rfl

/-- An object identifier is written with tag 6. -/
private theorem derEncodeOid_eq (oid out : Bytes) :
    derEncodeOid oid out = derWrapTagLength 0x06 oid out :=
  rfl

/-- An octet string is written with tag 4. -/
private theorem derEncodeOctetString_eq (data out : Bytes) :
    derEncodeOctetString data out = derWrapTagLength 0x04 data out := rfl

/-- A bit string is written with tag 3; its first byte is the number of unused bits. -/
private theorem derEncodeBitString_eq (data : Bytes) (unusedBits : UInt8) (out : Bytes) :
    derEncodeBitString data unusedBits out = derWrapTagLength 0x03 (unusedBits :: data) out := by
  rw [derEncodeBitString, derWrapTagLength, List.append_assoc]
  rfl

mutual

/-- A value as the builder writes it, with lengths of 16 bits. -/
def narrowed : Der → Bytes
  | .primitive tag content => derWrapTagLength tag content []
  | .constructed tag children => derWrapTagLength tag (narrowedAll children) []

/-- Values as the builder writes them, one after the other. -/
def narrowedAll : List Der → Bytes
  | [] => []
  | d :: ds => narrowed d ++ narrowedAll ds

end

/-- A tag with a length that is not cut is a well-formed one. -/
private theorem derWrapTagLength_eq {tag : UInt8} {inner : Bytes} (h : inner.length < 2 ^ 16) :
    derWrapTagLength tag inner [] = Der.tlv tag inner := by
  rw [derWrapTagLength, derEncodeLength_narrow h, Der.tlv, List.nil_append, List.append_assoc]
  rfl

mutual

/-- **No length is cut** in a value of less than 65536 bytes. -/
theorem narrowed_eq_encode (d : Der) (h : d.width < 2 ^ 16) : narrowed d = d.encode :=
  match d with
  | .primitive tag content => by
    rw [Der.width] at h
    rw [narrowed, Der.encode, derWrapTagLength_eq (by omega)]
  | .constructed tag children => by
    rw [Der.width] at h
    have hlen := Der.length_encodeAll_le children (by omega)
    rw [narrowed, Der.encode, narrowedAll_eq_encodeAll children (by omega),
      derWrapTagLength_eq (by omega)]

/-- The same for the elements of a sequence, whose widths add up. -/
private theorem narrowedAll_eq_encodeAll (ds : List Der) (h : Der.widthAll ds < 2 ^ 16) :
    narrowedAll ds = Der.encodeAll ds :=
  match ds with
  | [] => rfl
  | d :: ds => by
    rw [Der.widthAll] at h
    rw [narrowedAll, Der.encodeAll, narrowed_eq_encode d (by omega),
      narrowedAll_eq_encodeAll ds (by omega)]

end

/-! ### The value that is written -/

/-- An attribute of the name, in a set of its own. -/
def rdnTree (entry : Bytes × Bytes) : Der :=
  .constructed 0x31 [.constructed 0x30 [.primitive 0x06 entry.1, .primitive 0x0C entry.2]]

/-- The name. -/
def nameTree (hsmUid : Bytes) : Der := .constructed 0x30 ((rdnEntries hsmUid).map rdnTree)

/-- The public key with its algorithm. -/
def keyTree (point : Bytes) : Der :=
  .constructed 0x30
    [.constructed 0x30 [.primitive 0x06 oidEc, .primitive 0x06 oidPrime256v1],
      .primitive 0x03 (0 :: point)]

/-- An extension. -/
def extensionTree (oid value : Bytes) : Der :=
  .constructed 0x30 [.primitive 0x06 oid, .primitive 0x04 value]

/-- The alternative name. -/
def sanTree (hsmUid : Bytes) : Der := .constructed 0x30 [.primitive 0x86 (hsmUidUri hsmUid)]

/-- The key usage. -/
def kuTree : Der := .primitive 0x03 [0, 0x88]

/-- The extended key usage. -/
def ekuTree : Der := .constructed 0x30 [.primitive 0x06 oidClientAuth]

/-- The attribute that asks for the extensions. -/
def extensionsTree (hsmUid : Bytes) : Der :=
  .constructed 0x30
    [.primitive 0x06 oidExtensionRequest,
      .constructed 0x31
        [.constructed 0x30
          [extensionTree oidSan (narrowed (sanTree hsmUid)), extensionTree oidKu (narrowed kuTree),
            extensionTree oidEku (narrowed ekuTree)]]]

/-- What is signed. -/
def infoTree (hsmUid point : Bytes) : Der :=
  .constructed 0x30
    [.primitive 0x02 [0], nameTree hsmUid, keyTree point,
      .constructed 0xA0 [extensionsTree hsmUid]]

/-- The request. -/
def requestTree (hsmUid point signature : Bytes) : Der :=
  .constructed 0x30
    [infoTree hsmUid point, .constructed 0x30 [.primitive 0x06 oidEcdsaSha256],
      .primitive 0x03 (0 :: signature)]

/-- The elements of a sequence that is written by one function. -/
private theorem narrowedAll_map {α : Type} (f : α → Der) (l : List α) :
    narrowedAll (l.map f) = l.flatMap fun a => narrowed (f a) := by
  induction l with
  | nil => rfl
  | cons a l ih => rw [List.map_cons, narrowedAll, ih, List.flatMap_cons]

/-- One part of a name: a set of one attribute with its value. -/
private theorem marshalRdn_eq (entry : Bytes × Bytes) :
    marshalRdn entry = narrowed (rdnTree entry) := by
  have hvalue : derEncodeLength (narrow entry.2.length) [0x0C] ++ entry.2 =
      derWrapTagLength 0x0C entry.2 [] := rfl
  simp only [marshalRdn, hvalue, rdnTree, narrowed, narrowedAll, List.append_nil, derWrapSet,
    derWrapSequence, derEncodeOid_eq]

/-- The name of the subject. -/
private theorem marshalX509Name_eq (hsmUid : Bytes) :
    marshalX509Name hsmUid [] = narrowed (nameTree hsmUid) := by
  rw [nameTree, narrowed, narrowedAll_map, marshalX509Name, derWrapSequence,
    funext marshalRdn_eq]

/-- The public key with its curve. -/
private theorem marshalEcPubkeyInfo_eq (point : Bytes) :
    marshalEcPubkeyInfo point [] = narrowed (keyTree point) := by
  simp only [marshalEcPubkeyInfo, keyTree, narrowed, narrowedAll, List.append_nil,
    derWrapSequence, derEncodeOid_eq, derEncodeBitString_eq]

/-- An extension: its identifier, and its value in an octet string. -/
private theorem marshalExtension_eq (oid value : Bytes) :
    marshalExtension oid value [] = narrowed (extensionTree oid value) := by
  simp only [marshalExtension, extensionTree, narrowed, narrowedAll, List.append_nil,
    derWrapSequence, derEncodeOid_eq, derEncodeOctetString_eq]

/-- The alternative name is the URI of the HSM. -/
private theorem marshalSanExtension_eq (hsmUid : Bytes) :
    marshalSanExtension hsmUid [] =
      narrowed (extensionTree oidSan (narrowed (sanTree hsmUid))) := by
  have hentries : derEncodeLength (narrow (hsmUidUri hsmUid).length) [0x86] ++ hsmUidUri hsmUid =
      derWrapTagLength 0x86 (hsmUidUri hsmUid) [] := rfl
  simp only [marshalSanExtension, hentries, marshalExtension_eq, sanTree, narrowed, narrowedAll,
    List.append_nil, derWrapSequence]

/-- The usage of the key. -/
private theorem marshalKuExtension_eq :
    marshalKuExtension [] = narrowed (extensionTree oidKu (narrowed kuTree)) := by
  rw [marshalKuExtension, marshalExtension_eq, derEncodeBitString_eq, kuTree, narrowed]

/-- The extended usage of the key. -/
private theorem marshalEkuExtension_eq :
    marshalEkuExtension [] = narrowed (extensionTree oidEku (narrowed ekuTree)) := by
  simp only [marshalEkuExtension, marshalExtension_eq, ekuTree, narrowed, narrowedAll,
    List.append_nil, derWrapSequence, derEncodeOid_eq]

/-- **The builder writes a value**, whatever the lengths. -/
theorem marshalCsrInfo_eq (hsmUid point : Bytes) :
    marshalCsrInfo hsmUid point [] = narrowed (infoTree hsmUid point) := by
  have hversion : derEncodeInteger 0 [] = derWrapTagLength 0x02 [0] [] := rfl
  simp only [marshalCsrInfo, hversion, marshalX509Name_eq, marshalEcPubkeyInfo_eq,
    marshalSanExtension_eq, marshalKuExtension_eq, marshalEkuExtension_eq, infoTree,
    extensionsTree, narrowed, narrowedAll, List.append_nil, List.append_assoc, derWrapSequence,
    derWrapSet, derEncodeOid_eq]

/-- The request: the info as it was signed, the algorithm and the signature. -/
private theorem marshalCsr_eq (hsmUid point signature : Bytes) :
    marshalCsr (narrowed (infoTree hsmUid point)) signature [] =
      narrowed (requestTree hsmUid point signature) := by
  simp only [marshalCsr, requestTree, narrowed, narrowedAll, List.append_nil, List.append_assoc,
    derWrapSequence, derEncodeOid_eq, derEncodeBitString_eq]

/-! ### Its size -/

/-- The identifiers whose requests fit into lengths of 16 bits. -/
def maxHsmUid : ℕ := 16384

/-- The URI is the identifier behind a scheme of twelve characters. -/
private theorem length_hsmUidUri (hsmUid : Bytes) :
    (hsmUidUri hsmUid).length = hsmUid.length + 12 := by
  rw [hsmUidUri, List.length_append, Nat.add_comm]
  rfl

/-- The alternative name is twenty bytes wider than the identifier. -/
private theorem width_sanTree (hsmUid : Bytes) : (sanTree hsmUid).width = hsmUid.length + 20 := by
  rw [sanTree, Der.width, Der.widthAll, Der.width, Der.widthAll, length_hsmUidUri]

/-- A C string ends at its first zero, so it is no longer than the text. -/
private theorem length_cString_le (b : Bytes) : (cString b).length ≤ b.length :=
  (List.takeWhile_prefix _).length_le

/-- The alternative name of an identifier of admissible length is not cut. -/
private theorem narrowed_sanTree {hsmUid : Bytes} (h : hsmUid.length ≤ maxHsmUid) :
    narrowed (sanTree hsmUid) = (sanTree hsmUid).encode := by
  apply narrowed_eq_encode
  rw [width_sanTree]
  have hmax : maxHsmUid = 16384 := rfl
  omega

/-- The name is at most ninety-seven bytes wider than the identifier: its texts are fixed but for
the one with the identifier. -/
private theorem width_nameTree_le (hsmUid : Bytes) :
    (nameTree hsmUid).width ≤ hsmUid.length + 97 := by
  have hcn := length_cString_le hsmUid
  have hou : (textBytes "TBOX-TSP").length = 8 := by rfl
  have ho : (textBytes "OpenIOV").length = 7 := by rfl
  have hc : (textBytes "CN").length = 2 := by rfl
  simp only [nameTree, rdnEntries, List.map_cons, List.map_nil, rdnTree, Der.width, Der.widthAll,
    hou, ho, hc, oidCn, oidOu, oidO, oidC, List.length_cons, List.length_nil]
  omega

/-- The public key is thirty-six bytes wider than its point. -/
private theorem width_keyTree (point : Bytes) : (keyTree point).width = point.length + 36 := by
  simp only [keyTree, Der.width, Der.widthAll, oidEc, oidPrime256v1, List.length_cons,
    List.length_nil]
  omega

/-- The extensions are at most a hundred and thirty bytes wider than the identifier. -/
private theorem width_extensionsTree_le {hsmUid : Bytes} (h : hsmUid.length ≤ maxHsmUid) :
    (extensionsTree hsmUid).width ≤ hsmUid.length + 130 := by
  have hsan : (narrowed (sanTree hsmUid)).length ≤ hsmUid.length + 20 := by
    rw [narrowed_sanTree h, ← width_sanTree]
    apply Der.length_encode_le
    rw [width_sanTree]
    have hmax : maxHsmUid = 16384 := rfl
    omega
  have hku : (narrowed kuTree).length = 4 := by rfl
  have heku : (narrowed ekuTree).length = 12 := by rfl
  simp only [extensionsTree, extensionTree, Der.width, Der.widthAll, hku, heku,
    oidExtensionRequest, oidSan, oidKu, oidEku, List.length_cons, List.length_nil]
  omega

/-- The identifier stands in the info twice, in the name and in the alternative name. -/
private theorem width_infoTree_le {hsmUid : Bytes} (point : Bytes) (h : hsmUid.length ≤ maxHsmUid) :
    (infoTree hsmUid point).width ≤ 2 * hsmUid.length + point.length + 300 := by
  have hname := width_nameTree_le hsmUid
  have hkey := width_keyTree point
  have hext := width_extensionsTree_le h
  simp only [infoTree, Der.width, Der.widthAll, List.length_cons, List.length_nil]
  omega

/-- The whole request, with its signature. -/
private theorem width_requestTree_le {hsmUid : Bytes} (point signature : Bytes)
    (h : hsmUid.length ≤ maxHsmUid) :
    (requestTree hsmUid point signature).width ≤
      2 * hsmUid.length + point.length + signature.length + 330 := by
  have hinfo := width_infoTree_le point h
  simp only [requestTree, Der.width, Der.widthAll, oidEcdsaSha256, List.length_cons,
    List.length_nil]
  omega

/-! ### What is read back -/

/-- **A request that is not cut is read back**: the strict reader finds the subject, the key, the
extensions and the signature, and the info as it was signed. -/
private theorem decode_requestTree {hsmUid point signature : Bytes}
    (h : (requestTree hsmUid point signature).width < 2 ^ 16) :
    Pkcs10.decode (requestTree hsmUid point signature).encode =
      some
        { info :=
            { version := [0]
              subject :=
                [[⟨oidCn, 0x0C, cString hsmUid⟩], [⟨oidOu, 0x0C, textBytes "TBOX-TSP"⟩],
                  [⟨oidO, 0x0C, textBytes "OpenIOV"⟩], [⟨oidC, 0x0C, textBytes "CN"⟩]]
              publicKey := ⟨oidEc, oidPrime256v1, point⟩
              extensions :=
                [⟨oidSan, false, narrowed (sanTree hsmUid)⟩, ⟨oidKu, false, narrowed kuTree⟩,
                  ⟨oidEku, false, narrowed ekuTree⟩] }
          infoDer := (infoTree hsmUid point).encode
          algorithm := oidEcdsaSha256
          signature } := by
  have hlen := Der.length_encode_le _ h
  have hmax : 256 ^ 2 ≤ Der.maxLength := Der.pow_le_maxLength (by decide)
  rw [Pkcs10.decode, Der.parse_encode (by rfl) (by omega), Option.bind_some]
  rfl

/-- What the alternative name holds is one URI. -/
private theorem generalNames_sanTree {hsmUid : Bytes} (h : hsmUid.length ≤ maxHsmUid) :
    Pkcs10.generalNames (narrowed (sanTree hsmUid)) = some [(0x86, hsmUidUri hsmUid)] := by
  have hmax : 256 ^ 2 ≤ Der.maxLength := Der.pow_le_maxLength (by decide)
  have huid : maxHsmUid = 16384 := rfl
  have hwidth := width_sanTree hsmUid
  have hlen := Der.length_encode_le (sanTree hsmUid) (by omega)
  rw [Pkcs10.generalNames, narrowed_sanTree h, Der.parse_encode (by rfl) (by omega)]
  rfl

/-- A text without a zero is its own C string. -/
private theorem cString_eq {b : Bytes} (h : 0 ∉ b) : cString b = b :=
  List.takeWhile_eq_self_iff.mpr fun x hx => decide_eq_true (ne_of_mem_of_not_mem hx h)

/-- What a request for an identifier and a key says. -/
structure AsksFor (request : Pkcs10.Request) (hsmUid point : Bytes) : Prop where
  version : request.info.version = [0]
  /-- The common name is the identifier. -/
  subject : request.info.subject =
    [[⟨oidCn, 0x0C, hsmUid⟩], [⟨oidOu, 0x0C, textBytes "TBOX-TSP"⟩],
      [⟨oidO, 0x0C, textBytes "OpenIOV"⟩], [⟨oidC, 0x0C, textBytes "CN"⟩]]
  publicKey : request.info.publicKey = ⟨oidEc, oidPrime256v1, point⟩
  /-- The alternative name is the URI of the identifier; the key signs and agrees on keys, and
  authenticates a client. -/
  extensions : ∃ san ku eku,
    request.info.extensions = [⟨oidSan, false, san⟩, ⟨oidKu, false, ku⟩, ⟨oidEku, false, eku⟩] ∧
    Pkcs10.generalNames san = some [(0x86, textBytes "urn:ecu-uid:" ++ hsmUid)] ∧
    Pkcs10.keyUsage ku = some (0, [0x88]) ∧ Pkcs10.keyPurposes eku = some [oidClientAuth]
  algorithm : request.algorithm = oidEcdsaSha256

/-! ### Whole requests -/

section Build

variable {C : Curve} {engine : KeyEngine} {config : CsrConfig} {keyPair : KeyPair} {P : C.Point}

/-- The info is built from the identifier and the point of the key, if the key is a point of the
curve. -/
private theorem buildCsrInfo_eq (config : CsrConfig) (hC : C.Lawful)
    (hpoint : C.oct2point keyPair.publicKey = some P) (hP : P ≠ 0) :
    buildCsrInfo C config keyPair [] =
      (.success, narrowed (infoTree config.hsmUid (C.point2oct P))) := by
  have hne : C.point2oct P ≠ [] := fun hnil => by
    have hlen := hC.length_point2oct P hP
    rw [hnil] at hlen
    exact nomatch hlen
  simp only [buildCsrInfo, hpoint, if_neg hne, marshalCsrInfo_eq]

/-- The builder reads the key, builds the info, has the HSM sign it and writes the request around
it. -/
private theorem buildCsr_eq {csrInfo signature : Bytes}
    (hkey : engine.getDeviceKey config.hsmUid config.keyId = (.success, keyPair))
    (hinfo : buildCsrInfo C config keyPair [] = (.success, csrInfo))
    (hsign : engine.sign config.hsmUid config.keyId csrInfo = (.success, signature))
    (csrDer : Bytes) :
    buildCsr (some engine) C config csrDer = (.success, marshalCsr csrInfo signature []) := by
  simp only [buildCsr, hkey, hinfo, hsign]

/-- **The request is well formed**: it is one value with exact and minimal lengths, it says what
was asked for, and what the key engine signed is what stands in it. The old contents of the
output do not matter. -/
theorem csr_well_formed {signature : Bytes} (hC : C.Lawful) (hnul : 0 ∉ config.hsmUid)
    (huid : config.hsmUid.length ≤ 16384)
    (hkey : engine.getDeviceKey config.hsmUid config.keyId = (.success, keyPair))
    (hpoint : C.oct2point keyPair.publicKey = some P) (hP : P ≠ 0)
    (hsign : engine.sign config.hsmUid config.keyId (buildCsrInfo C config keyPair []).2 =
      (.success, signature))
    (hsig : signature.length ≤ 1024) :
    ∃ csr request,
      (∀ csrDer, buildCsr (some engine) C config csrDer = (.success, csr)) ∧
      (∃ d : Der, Der.parse csr = some d ∧ d.encode = csr) ∧
      Pkcs10.decode csr = some request ∧
      AsksFor request config.hsmUid (C.point2oct P) ∧
      (∃ rest, csr = Der.tlv 0x30 (request.infoDer ++ rest)) ∧
      request.infoDer = (buildCsrInfo C config keyPair []).2 ∧
      request.signature = signature := by
  have hinfo := buildCsrInfo_eq config hC hpoint hP
  have hmax : maxHsmUid = 16384 := rfl
  have hlen := hC.length_point2oct P hP
  have hfits : (requestTree config.hsmUid (C.point2oct P) signature).width < 2 ^ 16 := by
    have hle := width_requestTree_le (C.point2oct P) signature huid
    omega
  have hinfoFits : (infoTree config.hsmUid (C.point2oct P)).width < 2 ^ 16 := by
    have hle := width_infoTree_le (C.point2oct P) huid
    omega
  rw [hinfo] at hsign ⊢
  have hbuild := buildCsr_eq hkey hinfo hsign
  rw [marshalCsr_eq, narrowed_eq_encode _ hfits] at hbuild
  have hdecode := decode_requestTree hfits
  rw [cString_eq hnul] at hdecode
  obtain ⟨d, hd, -⟩ := Option.bind_eq_some_iff.mp hdecode
  refine ⟨_, _, hbuild, ⟨d, hd, (Der.encode_of_parse hd).1⟩, hdecode, ?_,
    Pkcs10.eq_tlv_of_decode hdecode, (narrowed_eq_encode _ hinfoFits).symm, rfl⟩
  exact
    { version := rfl
      subject := rfl
      publicKey := rfl
      extensions := ⟨_, _, _, rfl, generalNames_sanTree huid, by rfl, by rfl⟩
      algorithm := rfl }

end Build

namespace CsrBench

open Keyprov.Bench (curve curve_lawful)

/-- The public key of the bench. -/
def point : curve.Point := (5 : ZMod 13)

/-- A key engine with one key and one signature. -/
def engine : KeyEngine where
  getDeviceKey _ _ := (.success, { publicKey := curve.point2oct point })
  sign _ _ _ := (.success, List.replicate 71 0x30)

/-- An identifier whose request needs lengths of every form. -/
def config : CsrConfig := ⟨List.replicate 150 0x41, textBytes "device"⟩

end CsrBench

open CsrBench in
theorem csr_well_formed_bench :
    ∃ csr request,
      (∀ csrDer,
        buildCsr (some engine) Keyprov.Bench.curve config csrDer = (.success, csr)) ∧
      (∃ d : Der, Der.parse csr = some d ∧ d.encode = csr) ∧
      Pkcs10.decode csr = some request ∧
      AsksFor request config.hsmUid (Keyprov.Bench.curve.point2oct point) ∧
      (∃ rest, csr = Der.tlv 0x30 (request.infoDer ++ rest)) ∧
      request.infoDer =
        (buildCsrInfo Keyprov.Bench.curve config
          { publicKey := Keyprov.Bench.curve.point2oct point } []).2 ∧
      request.signature = List.replicate 71 0x30 := by
  have hpoint : point ≠ 0 := by decide
  have hlawful := Keyprov.Bench.curve_lawful
  have hnul : (0 : UInt8) ∉ config.hsmUid := fun h =>
    absurd (List.eq_of_mem_replicate h) (by decide)
  have huid : config.hsmUid.length = 150 := List.length_replicate
  have hsig : (List.replicate 71 (0x30 : UInt8)).length = 71 := List.length_replicate
  exact csr_well_formed hlawful hnul (by omega) rfl
    (hlawful.oct2point_point2oct point hpoint) hpoint rfl (by omega)

end TboxSec.Sec
