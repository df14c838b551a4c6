import Mathlib.Data.Option.Basic
import Mathlib.Tactic.IntervalCases
import TboxSec.Canonical.Crypto

/-!
# CanonicalEncodingV1

The length-prefixed framing of `canonical_encoding.cpp`: every segment is a big-endian
32-bit length followed by its content. Texts are their bytes, enum values unsigned varints,
versions fixed eight-byte big-endian numbers. The byte strings built here are what the
envelope digest, the additional data, the request digest and the import proof commit to.

* `appendUint32be`, `appendUint64be`, `appendEnumVarint` and `appendLengthPrefixed` are the
  writers of the framing; `toHex` and `hexToBytes` convert to and from hexadecimal text.
* `EnvelopeDigestInput`, `EnvelopeAadInput` and `ProofInput` are what is committed to, and beside
  each of them stands the function that encodes it.
* `buildHkdfInfoV1` is no framing: it joins its parts by bars.
-/

namespace TboxSec.Canonical

/-! ### Framing primitives -/

/-- The byte of `v` at bit offset `8 * i`. -/
def byteAt (v i : ℕ) : UInt8 := UInt8.ofNat (v >>> (8 * i))

/-- `appendUint32be`. -/
def appendUint32be (out : Bytes) (v : ℕ) : Bytes :=
  out ++ [byteAt v 3, byteAt v 2, byteAt v 1, byteAt v 0]

/-- `appendUint64be`. -/
def appendUint64be (out : Bytes) (v : ℕ) : Bytes :=
  out ++ [byteAt v 7, byteAt v 6, byteAt v 5, byteAt v 4, byteAt v 3, byteAt v 2, byteAt v 1,
    byteAt v 0]

/-- The loop of `appendEnumVarint`, at most `fuel` rounds of it. -/
def varintLoop : ℕ → ℕ → Bytes
  | 0, _ => []
  | fuel + 1, v =>
    if v / 128 ≠ 0 then UInt8.ofNat (v % 128 + 128) :: varintLoop fuel (v / 128)
    else [UInt8.ofNat (v % 128)]

/-- `appendEnumVarint`. Ten rounds are enough for a 64-bit value. -/
def appendEnumVarint (out : Bytes) (v : ℕ) : Bytes := out ++ varintLoop 10 v

/-- `appendLengthPrefixed` and `appendBytes`: the length is cut to 32 bits. -/
def appendLengthPrefixed (out content : Bytes) : Bytes :=
  appendUint32be out (content.length % 2 ^ 32) ++ content

/-- `appendString`. -/
def appendString (out : Bytes) (s : String) : Bytes := appendLengthPrefixed out (textBytes s)

/-- `appendEnumSegment`. -/
def appendEnumSegment (out : Bytes) (v : ℕ) : Bytes :=
  appendLengthPrefixed out (appendEnumVarint [] v)

/-- `appendUint64beSegment`. -/
def appendUint64beSegment (out : Bytes) (v : ℕ) : Bytes :=
  appendLengthPrefixed out (appendUint64be [] v)

/-! ### Hexadecimal text -/

/-- The lower-case digit of a nibble. -/
def hexDigit (n : ℕ) : Char :=
  "0123456789abcdef".toList.getD n '0'

/-- `toHex`. -/
def toHex (b : Bytes) : String :=
  String.ofList (b.flatMap fun x => [hexDigit (x.toNat / 16), hexDigit (x.toNat % 16)])

/-- The value of a hex digit of either case. -/
def nib (c : UInt8) : Option ℕ :=
  if 0x30 ≤ c ∧ c ≤ 0x39 then some (c.toNat - 0x30)
  else if 0x61 ≤ c ∧ c ≤ 0x66 then some (c.toNat - 0x61 + 10)
  else if 0x41 ≤ c ∧ c ≤ 0x46 then some (c.toNat - 0x41 + 10)
  else none

/-- The digit loop of `hexToBytes`, over the bytes of a text. -/
def hexPairs : Bytes → Option Bytes
  | [] => some []
  | [_] => none
  | hi :: lo :: rest => do
    let h ← nib hi
    let l ← nib lo
    let bs ← hexPairs rest
    return UInt8.ofNat (h * 16 + l) :: bs

/-- `hexToBytes`, also `from_hex` of the provider. -/
def hexToBytes (hex : String) : Option Bytes := hexPairs (textBytes hex)

/-- The byte of a digit. -/
def hexByte (n : ℕ) : UInt8 := (hexDigit n).val.toUInt8

private theorem utf8Size_hexDigit {n : ℕ} (h : n < 16) : (hexDigit n).utf8Size = 1 := by
  interval_cases n <;> decide

/-- A nibble survives its digit. -/
private theorem nib_hexByte {n : ℕ} (h : n < 16) : nib (hexByte n) = some n := by
  interval_cases n <;> decide

private theorem textBytes_ofList (l : List Char) :
    textBytes (String.ofList l) = l.flatMap String.utf8EncodeChar := by
  simp [textBytes, List.utf8Encode]

/-- A text of one-byte characters has a byte for each. -/
theorem textBytes_ofList_ascii {l : List Char} (h : ∀ c ∈ l, c.utf8Size = 1) :
    textBytes (String.ofList l) = l.map fun c => c.val.toUInt8 := by
  rw [textBytes_ofList]
  induction l with
  | nil => rfl
  | cons c l ih =>
    obtain ⟨hc, hl⟩ := List.forall_mem_cons.mp h
    rw [List.flatMap_cons, List.map_cons, String.utf8EncodeChar_eq_singleton hc, ih hl]
    rfl

/-- The bytes of a hex text. -/
theorem textBytes_toHex (b : Bytes) :
    textBytes (toHex b) = b.flatMap fun x => [hexByte (x.toNat / 16), hexByte (x.toNat % 16)] := by
  have hsize : ∀ c ∈ b.flatMap fun x => [hexDigit (x.toNat / 16), hexDigit (x.toNat % 16)],
      c.utf8Size = 1 := by
    intro c hc
    obtain ⟨x, -, hx⟩ := List.mem_flatMap.mp hc
    have hlt := x.toNat_lt
    simp only [List.mem_cons, List.not_mem_nil, or_false] at hx
    rcases hx with rfl | rfl
    · exact utf8Size_hexDigit (by omega)
    · exact utf8Size_hexDigit (by omega)
  rw [toHex, textBytes_ofList_ascii hsize, List.map_flatMap]
  rfl

private theorem hexPairs_flatMap (b : Bytes) :
    hexPairs (b.flatMap fun x => [hexByte (x.toNat / 16), hexByte (x.toNat % 16)]) = some b := by
  induction b with
  | nil => rfl
  | cons x b ih =>
    have hx : x.toNat < 256 := x.toNat_lt
    have hhi : nib (hexByte (x.toNat / 16)) = some (x.toNat / 16) := nib_hexByte (by omega)
    have hlo : nib (hexByte (x.toNat % 16)) = some (x.toNat % 16) := nib_hexByte (by omega)
    have hval : UInt8.ofNat (x.toNat / 16 * 16 + x.toNat % 16) = x := by
      rw [show x.toNat / 16 * 16 + x.toNat % 16 = x.toNat by omega]
      exact UInt8.ofNat_toNat
    simp only [List.flatMap_cons, List.cons_append, List.nil_append, hexPairs, hhi, hlo, ih,
      Option.bind_eq_bind, Option.bind_some, hval]
    rfl

/-- **Hex round trip.** -/
@[simp]
theorem hexToBytes_toHex (b : Bytes) : hexToBytes (toHex b) = some b := by
  rw [hexToBytes, textBytes_toHex]
  exact hexPairs_flatMap b

theorem toHex_injective : Function.Injective toHex := by
  intro a b h
  have ha := hexToBytes_toHex a
  rw [h, hexToBytes_toHex] at ha
  exact (Option.some_injective _ ha).symm

theorem toHex_ne_empty {b : Bytes} (h : b ≠ []) : toHex b ≠ "" := by
  intro he
  exact h (toHex_injective (he.trans (by rfl : "" = toHex [])))

/-! ### The digests -/

/-- `KCV`: three bytes, `std::array<uint8_t, 3>`. -/
structure Kcv where
  b0 : UInt8 := 0
  b1 : UInt8 := 0
  b2 : UInt8 := 0
  deriving DecidableEq

/-- The bytes of a check value. -/
def Kcv.toBytes (k : Kcv) : Bytes := [k.b0, k.b1, k.b2]

/-- `computeKcv`: the first three bytes of the digest of the key. -/
def computeKcv (X : Crypto) (businessKey : Bytes) : Kcv :=
  let d := X.sha256 businessKey
  ⟨d.getD 0 0, d.getD 1 0, d.getD 2 0⟩

/-- `sha256` of a text, in hex: the journal key of a request id and the key-id digest. -/
def textDigest (X : Crypto) (s : String) : String := toHex (X.sha256 (textBytes s))

/-- `EnvelopeDigestInput`. -/
structure EnvelopeDigestInput where
  envelopeFormat : ℕ
  requestId : String
  businessDomain : String
  purpose : ℕ
  keyId : String
  businessKeyVersion : ℕ
  wrappingSuite : ℕ
  wrappedKey : Bytes
  parameters : Bytes

/-- The nine segments under the wire envelope digest. -/
def wireDigestInput (i : EnvelopeDigestInput) : Bytes :=
  let buf := appendEnumSegment [] i.envelopeFormat
  let buf := appendString buf i.requestId
  let buf := appendString buf i.businessDomain
  let buf := appendEnumSegment buf i.purpose
  let buf := appendString buf i.keyId
  let buf := appendUint64beSegment buf i.businessKeyVersion
  let buf := appendEnumSegment buf i.wrappingSuite
  let buf := appendLengthPrefixed buf i.wrappedKey
  appendLengthPrefixed buf i.parameters

/-- `buildWireEnvelopeDigestV1`. -/
def buildWireEnvelopeDigestV1 (X : Crypto) (i : EnvelopeDigestInput) : Bytes :=
  X.sha256 (wireDigestInput i)

/-- `EnvelopeAadInput`. -/
structure EnvelopeAadInput where
  envelopeFormat : ℕ
  wrappingSuite : ℕ
  requestId : String
  businessDomain : String
  purpose : ℕ
  keyId : String
  businessKeyVersion : ℕ
  rootKeyVersion : ℕ
  derivationVersion : String
  recipientCertificateDigest : Bytes

/-- `buildParProtoAadV1`: ten segments, without the nonce. -/
def buildParProtoAadV1 (i : EnvelopeAadInput) : Bytes :=
  let buf := appendEnumSegment [] i.envelopeFormat
  let buf := appendEnumSegment buf i.wrappingSuite
  let buf := appendEnumSegment buf i.purpose
  let buf := appendUint64beSegment buf i.businessKeyVersion
  let buf := appendUint64beSegment buf i.rootKeyVersion
  let buf := appendLengthPrefixed buf i.recipientCertificateDigest
  let buf := appendString buf i.requestId
  let buf := appendString buf i.businessDomain
  let buf := appendString buf i.keyId
  appendString buf i.derivationVersion

/-- `ProofInput`. -/
structure ProofInput where
  requestId : String
  businessDomain : String
  purpose : ℕ
  keyId : String
  businessKeyVersion : ℕ
  envelopeDigest : Bytes
  keyCheckValue : Bytes

/-- `buildProofInput`: what an import attestation signs the digest of. -/
def buildProofInput (X : Crypto) (i : ProofInput) : Bytes :=
  let buf := appendString [] "openiov|keyprov-ack|v1"
  let buf := appendString buf i.requestId
  let buf := appendString buf i.businessDomain
  let buf := appendEnumSegment buf i.purpose
  let buf := appendLengthPrefixed buf (X.sha256 (textBytes i.keyId))
  let buf := appendUint64beSegment buf i.businessKeyVersion
  let buf := appendLengthPrefixed buf i.envelopeDigest
  appendLengthPrefixed buf i.keyCheckValue

/-- `buildHkdfInfoV1`. -/
def buildHkdfInfoV1 (requestId businessDomain purposeName keyId : String)
    (businessKeyVersion : ℕ) (recipientFingerprintHexLower : String) : String :=
  "openiov|keyprov-wrap|v1|" ++ requestId ++ "|" ++ businessDomain ++ "|" ++ purposeName ++
    "|" ++ keyId ++ "|" ++ toString businessKeyVersion ++ "|" ++ recipientFingerprintHexLower

end TboxSec.Canonical
