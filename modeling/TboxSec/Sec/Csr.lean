import TboxSec.ErrorCode
import TboxSec.Hsm.SoftFile
import TboxSec.Lib.Pkcs10

/-!
# The certification request

`CsrBuilder` encodes a certification request by hand: every value is built from the inside, its
length cut to 16 bits, and appended to an output. The key and the signature come from the key
engine, the point is read and written again by the library of the curve.

* `derEncodeLength` and the `derEncode…` functions write one value each; `narrow` is the cut to
  16 bits.
* `marshalX509Name`, `marshalEcPubkeyInfo` and the extensions are the parts of the information
  that is signed, in the order of the source.
* `buildCsr` puts the information, the algorithm and the signature together, and appends them to
  what its caller has passed.

That the result is a certification request and says what was asked for is proved in
`Sec.CsrDer`, against the reader of `Lib.Pkcs10`.
-/

namespace TboxSec.Sec

open Hsm (Curve KeyPair)

/-! ### Values -/

/-- `der_encode_length`. -/
def derEncodeLength (len : UInt16) (out : Bytes) : Bytes :=
  if len < 0x80 then out ++ [len.toUInt8]
  else if len ≤ 0xFF then out ++ [(0x81 : UInt8), len.toUInt8]
  else out ++ [(0x82 : UInt8), (len >>> 8).toUInt8, (len &&& 0xFF).toUInt8]

/-- `static_cast<uint16_t>(size)`. -/
def narrow (size : ℕ) : UInt16 := UInt16.ofNat size

/-- `der_encode_oid`. -/
def derEncodeOid (oid out : Bytes) : Bytes :=
  derEncodeLength (narrow oid.length) (out ++ [0x06]) ++ oid

/-- `der_encode_integer`. -/
def derEncodeInteger (value : UInt8) (out : Bytes) : Bytes := out ++ [0x02, 0x01, value]

/-- `der_encode_bit_string`. -/
def derEncodeBitString (data : Bytes) (unusedBits : UInt8) (out : Bytes) : Bytes :=
  derEncodeLength (narrow (data.length + 1)) (out ++ [0x03]) ++ [unusedBits] ++ data

/-- `der_encode_octet_string`. -/
def derEncodeOctetString (data out : Bytes) : Bytes :=
  derEncodeLength (narrow data.length) (out ++ [0x04]) ++ data

/-- `der_wrap_tag_length`. -/
def derWrapTagLength (tag : UInt8) (inner out : Bytes) : Bytes :=
  derEncodeLength (narrow inner.length) (out ++ [tag]) ++ inner

/-- `der_wrap_sequence`. -/
def derWrapSequence (inner out : Bytes) : Bytes := derWrapTagLength 0x30 inner out

/-- `der_wrap_set`. -/
def derWrapSet (inner out : Bytes) : Bytes := derWrapTagLength 0x31 inner out

/-! ### The parts of a request -/

/-- `OID_EC`. -/
def oidEc : Bytes := [0x2A, 0x86, 0x48, 0xCE, 0x3D, 0x02, 0x01]

/-- `OID_PRIME256V1`. -/
def oidPrime256v1 : Bytes := [0x2A, 0x86, 0x48, 0xCE, 0x3D, 0x03, 0x01, 0x07]

/-- `marshal_ec_pubkey_info`. -/
def marshalEcPubkeyInfo (rawPubkey out : Bytes) : Bytes :=
  let algParams := derEncodeOid oidPrime256v1 []
  let algSeqInner := derEncodeOid oidEc [] ++ algParams
  let algSeq := derWrapSequence algSeqInner []
  let pubkeyBs := derEncodeBitString rawPubkey 0 []
  derWrapSequence (algSeq ++ pubkeyBs) out

/-- `OID_CN`. -/
def oidCn : Bytes := [0x55, 0x04, 0x03]

/-- `OID_OU`. -/
def oidOu : Bytes := [0x55, 0x04, 0x0B]

/-- `OID_O`. -/
def oidO : Bytes := [0x55, 0x04, 0x0A]

/-- `OID_C`. -/
def oidC : Bytes := [0x55, 0x04, 0x06]

/-- The text that a C string is read as. -/
def cString (b : Bytes) : Bytes := b.takeWhile (· ≠ 0)

/-- `rdn_entries`. -/
def rdnEntries (hsmUid : Bytes) : List (Bytes × Bytes) :=
  [(oidCn, cString hsmUid), (oidOu, textBytes "TBOX-TSP"), (oidO, textBytes "OpenIOV"),
    (oidC, textBytes "CN")]

/-- A round of the loop of `marshal_x509_name`. -/
def marshalRdn (entry : Bytes × Bytes) : Bytes :=
  let attrType := derEncodeOid entry.1 []
  let attrValue := derEncodeLength (narrow entry.2.length) [0x0C] ++ entry.2
  derWrapSet (derWrapSequence (attrType ++ attrValue) []) []

/-- `marshal_x509_name`. -/
def marshalX509Name (hsmUid out : Bytes) : Bytes :=
  derWrapSequence ((rdnEntries hsmUid).flatMap marshalRdn) out

/-- The end of the functions that marshal an extension. -/
def marshalExtension (oid value out : Bytes) : Bytes :=
  derWrapSequence (derEncodeOid oid [] ++ derEncodeOctetString value []) out

/-- `OID_SAN`. -/
def oidSan : Bytes := [0x55, 0x1D, 0x11]

/-- `hsm_uid_uri`. -/
def hsmUidUri (hsmUid : Bytes) : Bytes := textBytes "urn:ecu-uid:" ++ hsmUid

/-- `marshal_san_extension`. -/
def marshalSanExtension (hsmUid extDer : Bytes) : Bytes :=
  let uri := hsmUidUri hsmUid
  let sanEntries := derEncodeLength (narrow uri.length) [0x86] ++ uri
  marshalExtension oidSan (derWrapSequence sanEntries []) extDer

/-- `OID_KU`. -/
def oidKu : Bytes := [0x55, 0x1D, 0x0F]

/-- `marshal_ku_extension`: digital signature and key agreement. -/
def marshalKuExtension (extDer : Bytes) : Bytes :=
  marshalExtension oidKu (derEncodeBitString [0x88] 0 []) extDer

/-- `OID_EKU`. -/
def oidEku : Bytes := [0x55, 0x1D, 0x25]

/-- `OID_CLIENT_AUTH`. -/
def oidClientAuth : Bytes := [0x2B, 0x06, 0x01, 0x05, 0x05, 0x07, 0x03, 0x02]

/-- `marshal_eku_extension`. -/
def marshalEkuExtension (extDer : Bytes) : Bytes :=
  marshalExtension oidEku (derWrapSequence (derEncodeOid oidClientAuth []) []) extDer

/-! ### The builder -/

/-- `CsrConfig`, as far as it is read. -/
structure CsrConfig where
  hsmUid : Bytes
  keyId : Bytes

/-- What the builder asks the key engine. -/
structure KeyEngine where
  getDeviceKey : Bytes → Bytes → ErrorCode × KeyPair
  sign : Bytes → Bytes → Bytes → ErrorCode × Bytes

/-- `OID_EXTENSION_REQUEST`. -/
def oidExtensionRequest : Bytes := [0x2A, 0x86, 0x48, 0x86, 0xF7, 0x0D, 0x01, 0x09, 0x0E]

/-- The end of `build_csr_info`, with the point as bytes. -/
def marshalCsrInfo (hsmUid rawPubkey out : Bytes) : Bytes :=
  let version := derEncodeInteger 0 []
  let subjectDer := marshalX509Name hsmUid []
  let pubkeyInfo := marshalEcPubkeyInfo rawPubkey []
  let extSetContent :=
    marshalSanExtension hsmUid [] ++ marshalKuExtension [] ++ marshalEkuExtension []
  let extSeq := derWrapSequence extSetContent []
  let attrInner := derEncodeOid oidExtensionRequest [] ++ derWrapSet extSeq []
  let attrSeq := derWrapSequence attrInner []
  let attrsImplicit := derWrapTagLength 0xA0 attrSeq []
  derWrapSequence (version ++ subjectDer ++ pubkeyInfo ++ attrsImplicit) out

/-- `build_csr_info`. The point of the key pair is read and written again. -/
def buildCsrInfo (C : Curve) (config : CsrConfig) (keyPair : KeyPair) (csrInfoDer : Bytes) :
    ErrorCode × Bytes :=
  match C.oct2point keyPair.publicKey with
  | none => (.csrBuildFailed, csrInfoDer)
  | some P =>
    -- `marshal_raw_eckey`
    let rawPubkey := C.point2oct P
    if rawPubkey = [] then (.csrBuildFailed, csrInfoDer)
    else (.success, marshalCsrInfo config.hsmUid rawPubkey csrInfoDer)

/-- `OID_ECDSA_SHA256`. -/
def oidEcdsaSha256 : Bytes := [0x2A, 0x86, 0x48, 0xCE, 0x3D, 0x04, 0x03, 0x02]

/-- The end of `build_csr`. -/
def marshalCsr (csrInfo signature out : Bytes) : Bytes :=
  let algSeq := derWrapSequence (derEncodeOid oidEcdsaSha256 []) []
  let sigBs := derEncodeBitString signature 0 []
  derWrapSequence (csrInfo ++ algSeq ++ sigBs) out

/-- `build_csr`, with the code and what it leaves in the output. -/
def buildCsr (keyEngine : Option KeyEngine) (C : Curve) (config : CsrConfig) (csrDer : Bytes) :
    ErrorCode × Bytes :=
  match keyEngine with
  | none => (.invalidParameter, csrDer)
  | some engine =>
    -- the output is cleared
    let csrDer : Bytes := []
    match engine.getDeviceKey config.hsmUid config.keyId with
    | (.success, keyPair) =>
      match buildCsrInfo C config keyPair [] with
      | (.success, csrInfo) =>
        match engine.sign config.hsmUid config.keyId csrInfo with
        | (.success, signature) => (.success, marshalCsr csrInfo signature csrDer)
        | _ => (.csrSignFailed, csrDer)
      | (result, _) => (result, csrDer)
    | (result, _) => (result, csrDer)

end TboxSec.Sec
