import TboxSec.Canonical.Primitives

/-!
# The canonical encodings are unambiguous

The inputs of the digests and signatures are sequences of length-prefixed segments. A segment
is self-delimiting as long as its length fits the 32-bit prefix, so a frame of segments is told
from every other frame, whatever the segments hold.

* **Byte level**: a `std::string` holds any bytes. `Raw` has the three inputs with their texts
  as byte strings; the inputs with proper texts are a special case (`raw`), and the builders of the
  model are the byte-level ones on them.
* **Numbers**: the fixed-width numbers and the varints are self-delimiting on 64-bit values, so the
  segment of a number determines the number.
* **One kind**: each builder writes the frame of its segments, so two inputs that fit and have one
  encoding have the same segments, and hence the same fields. A proof input holds only the digest
  of its key identifier, and is determined up to that.
* **Three kinds**: additional data has ten segments, an envelope digest nine, a proof input
  eight. The number of segments alone keeps the kinds apart.

Nothing is asked of the digest, and nothing of the texts but that their lengths fit (`Fits`).
-/

namespace TboxSec.Canonical

/-! ### The primitives are self-delimiting -/

/-- The bytes of a number are its digits to the base 256. -/
theorem byteAt_toNat (v i : ℕ) : (byteAt v i).toNat = v / 256 ^ i % 256 := by
  have hpow : 2 ^ (8 * i) = 256 ^ i := by rw [Nat.pow_mul]
  rw [byteAt, UInt8.toNat_ofNat', Nat.shiftRight_eq_div_pow, hpow]

/-- Equal bytes at one place are equal digits to the base 256. -/
private theorem digit_eq {v w i : ℕ} (h : byteAt v i = byteAt w i) :
    v / 256 ^ i % 256 = w / 256 ^ i % 256 := by
  rw [← byteAt_toNat, ← byteAt_toNat, h]

/-- A 32-bit number in big-endian order is told from what follows: its four bytes are its digits. -/
private theorem appendUint32be_selfDelimiting :
    SelfDelimiting {v : ℕ | v < 2 ^ 32} (appendUint32be []) := by
  refine SelfDelimiting.of_length (n := 4) (fun v _ => rfl) fun v hv w hw heq => ?_
  simp only [appendUint32be, List.nil_append, List.cons.injEq, and_true] at heq
  obtain ⟨h3, h2, h1, h0⟩ := heq
  refine eq_of_digits (b := 256) (k := 4) hv hw fun i hi => ?_
  interval_cases i
  exacts [digit_eq h0, digit_eq h1, digit_eq h2, digit_eq h3]

/-- A 64-bit number in big-endian order is told from what follows. -/
theorem appendUint64be_selfDelimiting :
    SelfDelimiting {v : ℕ | v < 2 ^ 64} (appendUint64be []) := by
  refine SelfDelimiting.of_length (n := 8) (fun v _ => rfl) fun v hv w hw heq => ?_
  simp only [appendUint64be, List.nil_append, List.cons.injEq, and_true] at heq
  obtain ⟨h7, h6, h5, h4, h3, h2, h1, h0⟩ := heq
  refine eq_of_digits (b := 256) (k := 8) hv hw fun i hi => ?_
  interval_cases i
  exacts [digit_eq h0, digit_eq h1, digit_eq h2, digit_eq h3, digit_eq h4, digit_eq h5,
    digit_eq h6, digit_eq h7]

/-- The loop writes at most one byte for each round. -/
private theorem length_varintLoop_le : ∀ fuel v : ℕ, (varintLoop fuel v).length ≤ fuel := by
  intro fuel
  induction fuel with
  | zero => exact fun _ => Nat.le_refl 0
  | succ fuel ih =>
    intro v
    rw [varintLoop]
    split
    · have := ih (v / 128)
      simpa using this
    · simp

/-! ### Segments and frames -/

/-- One length-prefixed segment. -/
def segment (content : Bytes) : Bytes := appendLengthPrefixed [] content

/-- A sequence of segments. -/
def frame (segments : List Bytes) : Bytes := segments.flatMap segment

/-- A length-prefixed field is a segment behind the output. -/
theorem appendLengthPrefixed_eq (out content : Bytes) :
    appendLengthPrefixed out content = out ++ segment content := by
  simp only [segment, appendLengthPrefixed, appendUint32be, List.nil_append, List.append_assoc]

/-- An enumeration is the segment of its varint. -/
theorem appendEnumSegment_eq (out : Bytes) (v : ℕ) :
    appendEnumSegment out v = out ++ segment (appendEnumVarint [] v) :=
  appendLengthPrefixed_eq _ _

/-- A number is the segment of its eight bytes. -/
theorem appendUint64beSegment_eq (out : Bytes) (v : ℕ) :
    appendUint64beSegment out v = out ++ segment (appendUint64be [] v) :=
  appendLengthPrefixed_eq _ _

/-- A text is the segment of its bytes. -/
theorem appendString_eq (out : Bytes) (s : String) :
    appendString out s = out ++ segment (textBytes s) :=
  appendLengthPrefixed_eq _ _

/-- Contents whose length the prefix can hold. -/
def Short : Set Bytes := {c | c.length < 2 ^ 32}

/-- **A segment is told from what follows**, if its length fits the prefix. -/
theorem segment_selfDelimiting : SelfDelimiting Short segment := by
  have hprefixed : SelfDelimiting Short fun c : Bytes => appendUint32be [] c.length ++ c :=
    appendUint32be_selfDelimiting.prefixed
  intro c hc d hd x y heq
  have hcut : ∀ {e : Bytes}, e ∈ Short → segment e = appendUint32be [] e.length ++ e := by
    intro e he
    rw [segment, appendLengthPrefixed, Nat.mod_eq_of_lt he]
  rw [hcut hc, hcut hd] at heq
  exact hprefixed hc hd heq

/-- The prefix alone makes a segment non-empty. -/
theorem segment_ne_nil (c : Bytes) : segment c ≠ [] := by
  intro hnil
  have hlen := congrArg List.length hnil
  simp only [segment, appendLengthPrefixed, appendUint32be, List.nil_append, List.length_append,
    List.length_cons, List.length_nil] at hlen
  omega

/-- **Frames are told apart by their segments.** -/
theorem frame_injOn : Set.InjOn frame {segments | ∀ c ∈ segments, c ∈ Short} :=
  segment_selfDelimiting.flatMap_injOn fun c _ => segment_ne_nil c

/-- The content is no longer than its segment. -/
private theorem length_le_segment (c : Bytes) : c.length ≤ (segment c).length := by
  simp only [segment, appendLengthPrefixed, List.length_append]
  omega

/-- Each content is no longer than the frame it stands in. So a bound on the frame bounds its parts.
-/
theorem length_le_frame {segments : List Bytes} {c : Bytes} (hc : c ∈ segments) :
    c.length ≤ (frame segments).length := by
  induction segments with
  | nil => cases hc
  | cons d segments ih =>
    rw [frame, List.flatMap_cons, List.length_append]
    rcases List.mem_cons.mp hc with rfl | hc
    · have := length_le_segment c
      omega
    · have := ih hc
      rw [frame] at this
      omega

/-- A frame shorter than `2 ^ 32` bytes has only short segments, so it is told from its like. -/
theorem frame_inj_of_length {l m : List Bytes} (hl : (frame l).length < 2 ^ 32)
    (heq : frame l = frame m) : l = m := by
  refine frame_injOn (fun c hc => ?_) (fun c hc => ?_) heq
  · exact lt_of_le_of_lt (length_le_frame hc) hl
  · exact lt_of_le_of_lt (length_le_frame hc) (heq ▸ hl)

/-- A varint of at most ten bytes fits the prefix. -/
theorem short_appendEnumVarint (v : ℕ) : appendEnumVarint [] v ∈ Short := by
  have hlen : (appendEnumVarint [] v).length ≤ 10 := length_varintLoop_le 10 v
  exact lt_of_le_of_lt hlen (by norm_num)

/-- Eight bytes fit the prefix. -/
theorem short_appendUint64be (v : ℕ) : appendUint64be [] v ∈ Short := by
  have hlen : (appendUint64be [] v).length = 8 := rfl
  exact lt_of_eq_of_lt hlen (by norm_num)

/-- A text is told by its bytes. -/
theorem textBytes_injective : Function.Injective textBytes := by
  intro s t h
  exact String.toByteArray_inj.mp (ByteArray.ext (Array.toList_inj.mp h))

/-! ### Printed texts -/

/-- A character that is no digit of hex is not in a hex text. -/
theorem notMem_toHex {c : Char} (hc : ∀ n : Fin 16, hexDigit n ≠ c) (b : Bytes) :
    c ∉ (toHex b).toList := by
  rw [toHex, String.toList_ofList, List.mem_flatMap]
  rintro ⟨x, -, hx⟩
  have hx256 := x.toNat_lt
  simp only [List.mem_cons, List.not_mem_nil, or_false] at hx
  rcases hx with hx | hx
  · exact hc ⟨x.toNat / 16, by omega⟩ hx.symm
  · exact hc ⟨x.toNat % 16, by omega⟩ hx.symm

/-- A character that is no decimal digit is not in a printed number. -/
theorem notMem_toString {c : Char} (hc : c.isDigit = false) (n : ℕ) : c ∉ (toString n).toList := by
  intro h
  rw [Nat.toString_eq_ofList_toDigits, String.toList_ofList] at h
  have hdigit := Nat.isDigit_of_mem_toDigits (by decide) (by decide) h
  rw [hc] at hdigit
  cases hdigit

/-- A number is told by its print. -/
theorem toString_injective {m n : ℕ} (h : toString m = toString n) : m = n := by
  have hdigits := congrArg (fun s : String => Nat.ofDigitChars 10 s.toList 0) h
  simpa [Nat.toString_eq_ofList_toDigits] using hdigits

/-! ### The three inputs, byte by byte -/

namespace Raw

/-- `EnvelopeAadInput`, its texts as byte strings. -/
structure EnvelopeAadInput where
  envelopeFormat : ℕ
  wrappingSuite : ℕ
  requestId : Bytes
  businessDomain : Bytes
  purpose : ℕ
  keyId : Bytes
  businessKeyVersion : ℕ
  rootKeyVersion : ℕ
  derivationVersion : Bytes
  recipientCertificateDigest : Bytes

/-- `EnvelopeDigestInput`, its texts as byte strings. -/
structure EnvelopeDigestInput where
  envelopeFormat : ℕ
  requestId : Bytes
  businessDomain : Bytes
  purpose : ℕ
  keyId : Bytes
  businessKeyVersion : ℕ
  wrappingSuite : ℕ
  wrappedKey : Bytes
  parameters : Bytes

/-- `ProofInput`, its texts as byte strings. -/
structure ProofInput where
  requestId : Bytes
  businessDomain : Bytes
  purpose : ℕ
  keyId : Bytes
  businessKeyVersion : ℕ
  envelopeDigest : Bytes
  keyCheckValue : Bytes

/-- The numbers are 64-bit values, the byte fields shorter than `2 ^ 32`. -/
structure EnvelopeAadInput.Fits (i : EnvelopeAadInput) : Prop where
  envelopeFormat : i.envelopeFormat < 2 ^ 64
  wrappingSuite : i.wrappingSuite < 2 ^ 64
  requestId : i.requestId.length < 2 ^ 32
  businessDomain : i.businessDomain.length < 2 ^ 32
  purpose : i.purpose < 2 ^ 64
  keyId : i.keyId.length < 2 ^ 32
  businessKeyVersion : i.businessKeyVersion < 2 ^ 64
  rootKeyVersion : i.rootKeyVersion < 2 ^ 64
  derivationVersion : i.derivationVersion.length < 2 ^ 32
  recipientCertificateDigest : i.recipientCertificateDigest.length < 2 ^ 32

/-- The numbers are 64-bit values, the byte fields shorter than `2 ^ 32`. -/
structure EnvelopeDigestInput.Fits (i : EnvelopeDigestInput) : Prop where
  envelopeFormat : i.envelopeFormat < 2 ^ 64
  requestId : i.requestId.length < 2 ^ 32
  businessDomain : i.businessDomain.length < 2 ^ 32
  purpose : i.purpose < 2 ^ 64
  keyId : i.keyId.length < 2 ^ 32
  businessKeyVersion : i.businessKeyVersion < 2 ^ 64
  wrappingSuite : i.wrappingSuite < 2 ^ 64
  wrappedKey : i.wrappedKey.length < 2 ^ 32
  parameters : i.parameters.length < 2 ^ 32

/-- The numbers are 64-bit values, the byte fields shorter than `2 ^ 32`. -/
structure ProofInput.Fits (i : ProofInput) : Prop where
  requestId : i.requestId.length < 2 ^ 32
  businessDomain : i.businessDomain.length < 2 ^ 32
  purpose : i.purpose < 2 ^ 64
  keyId : i.keyId.length < 2 ^ 32
  businessKeyVersion : i.businessKeyVersion < 2 ^ 64
  envelopeDigest : i.envelopeDigest.length < 2 ^ 32
  keyCheckValue : i.keyCheckValue.length < 2 ^ 32

/-- `buildParProtoAadV1`. -/
def buildParProtoAadV1 (i : EnvelopeAadInput) : Bytes :=
  let buf := appendEnumSegment [] i.envelopeFormat
  let buf := appendEnumSegment buf i.wrappingSuite
  let buf := appendEnumSegment buf i.purpose
  let buf := appendUint64beSegment buf i.businessKeyVersion
  let buf := appendUint64beSegment buf i.rootKeyVersion
  let buf := appendLengthPrefixed buf i.recipientCertificateDigest
  let buf := appendLengthPrefixed buf i.requestId
  let buf := appendLengthPrefixed buf i.businessDomain
  let buf := appendLengthPrefixed buf i.keyId
  appendLengthPrefixed buf i.derivationVersion

/-- The nine segments hashed by `buildWireEnvelopeDigestV1`. -/
def wireDigestInput (i : EnvelopeDigestInput) : Bytes :=
  let buf := appendEnumSegment [] i.envelopeFormat
  let buf := appendLengthPrefixed buf i.requestId
  let buf := appendLengthPrefixed buf i.businessDomain
  let buf := appendEnumSegment buf i.purpose
  let buf := appendLengthPrefixed buf i.keyId
  let buf := appendUint64beSegment buf i.businessKeyVersion
  let buf := appendEnumSegment buf i.wrappingSuite
  let buf := appendLengthPrefixed buf i.wrappedKey
  appendLengthPrefixed buf i.parameters

/-- `buildProofInput`. -/
def buildProofInput (X : Crypto) (i : ProofInput) : Bytes :=
  let buf := appendString [] "openiov|keyprov-ack|v1"
  let buf := appendLengthPrefixed buf i.requestId
  let buf := appendLengthPrefixed buf i.businessDomain
  let buf := appendEnumSegment buf i.purpose
  let buf := appendLengthPrefixed buf (X.sha256 i.keyId)
  let buf := appendUint64beSegment buf i.businessKeyVersion
  let buf := appendLengthPrefixed buf i.envelopeDigest
  appendLengthPrefixed buf i.keyCheckValue

/-- The segments of the additional data. -/
def EnvelopeAadInput.segments (i : EnvelopeAadInput) : List Bytes :=
  [appendEnumVarint [] i.envelopeFormat, appendEnumVarint [] i.wrappingSuite,
    appendEnumVarint [] i.purpose, appendUint64be [] i.businessKeyVersion,
    appendUint64be [] i.rootKeyVersion, i.recipientCertificateDigest, i.requestId,
    i.businessDomain, i.keyId, i.derivationVersion]

/-- The segments under the envelope digest. -/
def EnvelopeDigestInput.segments (i : EnvelopeDigestInput) : List Bytes :=
  [appendEnumVarint [] i.envelopeFormat, i.requestId, i.businessDomain,
    appendEnumVarint [] i.purpose, i.keyId, appendUint64be [] i.businessKeyVersion,
    appendEnumVarint [] i.wrappingSuite, i.wrappedKey, i.parameters]

/-- The segments of the proof input. -/
def ProofInput.segments (X : Crypto) (i : ProofInput) : List Bytes :=
  [textBytes "openiov|keyprov-ack|v1", i.requestId, i.businessDomain,
    appendEnumVarint [] i.purpose, X.sha256 i.keyId, appendUint64be [] i.businessKeyVersion,
    i.envelopeDigest, i.keyCheckValue]

/-- The additional data is a frame of ten segments. -/
theorem buildParProtoAadV1_eq (i : EnvelopeAadInput) :
    buildParProtoAadV1 i = frame i.segments := by
  simp only [buildParProtoAadV1, appendEnumSegment_eq, appendUint64beSegment_eq,
    appendLengthPrefixed_eq, frame, EnvelopeAadInput.segments, List.flatMap_cons,
    List.flatMap_nil, List.append_assoc, List.nil_append, List.append_nil]

/-- The input of the envelope digest is a frame of nine segments. -/
private theorem wireDigestInput_eq (i : EnvelopeDigestInput) :
    wireDigestInput i = frame i.segments := by
  simp only [wireDigestInput, appendEnumSegment_eq, appendUint64beSegment_eq,
    appendLengthPrefixed_eq, frame, EnvelopeDigestInput.segments, List.flatMap_cons,
    List.flatMap_nil, List.append_assoc, List.nil_append, List.append_nil]

/-- The input of an attestation is a frame of eight segments, the first of which is a constant. -/
private theorem buildProofInput_eq (X : Crypto) (i : ProofInput) :
    buildProofInput X i = frame (i.segments X) := by
  simp only [buildProofInput, appendString_eq, appendEnumSegment_eq, appendUint64beSegment_eq,
    appendLengthPrefixed_eq, frame, ProofInput.segments, List.flatMap_cons,
    List.flatMap_nil, List.append_assoc, List.nil_append, List.append_nil]

/-- The segments of additional data that fits are short. -/
theorem EnvelopeAadInput.Fits.short {i : EnvelopeAadInput} (h : i.Fits) :
    ∀ c ∈ i.segments, c ∈ Short := by
  simp only [EnvelopeAadInput.segments, List.forall_mem_cons]
  exact ⟨short_appendEnumVarint _, short_appendEnumVarint _, short_appendEnumVarint _,
    short_appendUint64be _, short_appendUint64be _, h.recipientCertificateDigest, h.requestId,
    h.businessDomain, h.keyId, h.derivationVersion, fun _ hc => absurd hc List.not_mem_nil⟩

/-- The segments of an envelope that fits are short. -/
theorem EnvelopeDigestInput.Fits.short {i : EnvelopeDigestInput} (h : i.Fits) :
    ∀ c ∈ i.segments, c ∈ Short := by
  simp only [EnvelopeDigestInput.segments, List.forall_mem_cons]
  exact ⟨short_appendEnumVarint _, h.requestId, h.businessDomain, short_appendEnumVarint _,
    h.keyId, short_appendUint64be _, short_appendEnumVarint _, h.wrappedKey, h.parameters,
    fun _ hc => absurd hc List.not_mem_nil⟩

/-- The segments of a proof input that fits are short. A digest has thirty-two bytes. -/
theorem ProofInput.Fits.short {X : Crypto} {i : ProofInput} (h : i.Fits) :
    ∀ c ∈ i.segments X, c ∈ Short := by
  have hcontext : textBytes "openiov|keyprov-ack|v1" ∈ Short := by
    show (textBytes "openiov|keyprov-ack|v1").length < 2 ^ 32
    decide
  have hkey : X.sha256 i.keyId ∈ Short := lt_of_eq_of_lt (X.sha256_length _) (by norm_num)
  simp only [ProofInput.segments, List.forall_mem_cons]
  exact ⟨hcontext, h.requestId, h.businessDomain, short_appendEnumVarint _, hkey,
    short_appendUint64be _, h.envelopeDigest, h.keyCheckValue,
    fun _ hc => absurd hc List.not_mem_nil⟩

/-! ### One kind -/

/-- A varint determines its number. -/
theorem varint_inj {v w : ℕ} (hv : v < 2 ^ 64) (hw : w < 2 ^ 64)
    (h : appendEnumVarint [] v = appendEnumVarint [] w) : v = w :=
  appendEnumVarint_selfDelimiting.injOn hv hw h

/-- Eight bytes determine their number. -/
theorem uint64_inj {v w : ℕ} (hv : v < 2 ^ 64) (hw : w < 2 ^ 64)
    (h : appendUint64be [] v = appendUint64be [] w) : v = w :=
  appendUint64be_selfDelimiting.injOn hv hw h

/-- **Additional data determines its ten fields.** -/
private theorem buildParProtoAadV1_injOn : Set.InjOn buildParProtoAadV1 {i | i.Fits} := by
  intro i hi j hj heq
  rw [buildParProtoAadV1_eq, buildParProtoAadV1_eq] at heq
  have hsegments : i.segments = j.segments := frame_injOn hi.short hj.short heq
  simp only [EnvelopeAadInput.segments, List.cons.injEq, and_true] at hsegments
  obtain ⟨hformat, hsuite, hpurpose, hversion, hroot, hcert, hrequest, hdomain, hkey,
    hderivation⟩ := hsegments
  have hformat := varint_inj hi.envelopeFormat hj.envelopeFormat hformat
  have hsuite := varint_inj hi.wrappingSuite hj.wrappingSuite hsuite
  have hpurpose := varint_inj hi.purpose hj.purpose hpurpose
  have hversion := uint64_inj hi.businessKeyVersion hj.businessKeyVersion hversion
  have hroot := uint64_inj hi.rootKeyVersion hj.rootKeyVersion hroot
  obtain ⟨⟩ := i
  obtain ⟨⟩ := j
  simp only [EnvelopeAadInput.mk.injEq]
  exact ⟨hformat, hsuite, hrequest, hdomain, hpurpose, hkey, hversion, hroot, hderivation, hcert⟩

/-- **The input of the envelope digest determines its nine fields.** -/
private theorem wireDigestInput_injOn : Set.InjOn wireDigestInput {i | i.Fits} := by
  intro i hi j hj heq
  rw [wireDigestInput_eq, wireDigestInput_eq] at heq
  have hsegments : i.segments = j.segments := frame_injOn hi.short hj.short heq
  simp only [EnvelopeDigestInput.segments, List.cons.injEq, and_true] at hsegments
  obtain ⟨hformat, hrequest, hdomain, hpurpose, hkey, hversion, hsuite, hwrapped,
    hparameters⟩ := hsegments
  have hformat := varint_inj hi.envelopeFormat hj.envelopeFormat hformat
  have hpurpose := varint_inj hi.purpose hj.purpose hpurpose
  have hversion := uint64_inj hi.businessKeyVersion hj.businessKeyVersion hversion
  have hsuite := varint_inj hi.wrappingSuite hj.wrappingSuite hsuite
  obtain ⟨⟩ := i
  obtain ⟨⟩ := j
  simp only [EnvelopeDigestInput.mk.injEq]
  exact ⟨hformat, hrequest, hdomain, hpurpose, hkey, hversion, hsuite, hwrapped, hparameters⟩

/-- What a proof input says of a key: every field, the key id by its digest. -/
def ProofInput.upToKeyId (X : Crypto) (i : ProofInput) : ProofInput :=
  { i with keyId := X.sha256 i.keyId }

/-- **A proof input determines its fields**, the key identifier up to its digest. -/
private theorem buildProofInput_inj {X : Crypto} {i j : ProofInput} (hi : i.Fits) (hj : j.Fits)
    (heq : buildProofInput X i = buildProofInput X j) : i.upToKeyId X = j.upToKeyId X := by
  rw [buildProofInput_eq, buildProofInput_eq] at heq
  have hsegments : i.segments X = j.segments X := frame_injOn hi.short hj.short heq
  simp only [ProofInput.segments, List.cons.injEq, and_true, true_and] at hsegments
  obtain ⟨hrequest, hdomain, hpurpose, hkey, hversion, henvelope, hcheck⟩ := hsegments
  have hpurpose := varint_inj hi.purpose hj.purpose hpurpose
  have hversion := uint64_inj hi.businessKeyVersion hj.businessKeyVersion hversion
  simp only [ProofInput.upToKeyId, ProofInput.mk.injEq]
  exact ⟨hrequest, hdomain, hpurpose, hkey, hversion, henvelope, hcheck⟩

/-! ### Three kinds -/

/-- Frames with different numbers of segments differ. -/
private theorem frame_ne_of_length {l m : List Bytes} (hl : ∀ c ∈ l, c ∈ Short)
    (hm : ∀ c ∈ m, c ∈ Short) (hlen : l.length ≠ m.length) : frame l ≠ frame m := by
  intro heq
  exact hlen (congrArg List.length (frame_injOn hl hm heq))

/-- **The canonical encodings are injective, and no two kinds meet.** Additional data and envelope
digests determine every field of their inputs; a proof input determines its fields up to the key id,
of which it holds the digest. Each kind begins with a domain of its own, so the bytes of one kind
are never those of another, and a value made for one purpose cannot be used for another. -/
theorem canonical_encodings_injective (X : Crypto) :
    Set.InjOn buildParProtoAadV1 {i | i.Fits} ∧
      Set.InjOn wireDigestInput {i | i.Fits} ∧
      (∀ i j : ProofInput, i.Fits → j.Fits → buildProofInput X i = buildProofInput X j →
        i.upToKeyId X = j.upToKeyId X) ∧
      (∀ (a : EnvelopeAadInput) (d : EnvelopeDigestInput) (p : ProofInput),
        a.Fits → d.Fits → p.Fits →
          buildParProtoAadV1 a ≠ wireDigestInput d ∧
            buildParProtoAadV1 a ≠ buildProofInput X p ∧
              wireDigestInput d ≠ buildProofInput X p) := by
  refine ⟨buildParProtoAadV1_injOn, wireDigestInput_injOn,
    fun _ _ hi hj heq => buildProofInput_inj hi hj heq, fun a d p ha hd hp => ?_⟩
  rw [buildParProtoAadV1_eq, wireDigestInput_eq, buildProofInput_eq]
  -- ten, nine and eight segments
  refine ⟨frame_ne_of_length ha.short hd.short ?_, frame_ne_of_length ha.short hp.short ?_,
    frame_ne_of_length hd.short hp.short ?_⟩
  · show (10 : ℕ) ≠ 9
    decide
  · show (10 : ℕ) ≠ 8
    decide
  · show (9 : ℕ) ≠ 8
    decide

/-- The fields of one envelope and of its attestation fit. -/
example :
    EnvelopeAadInput.Fits
        { envelopeFormat := 1, wrappingSuite := 1, requestId := textBytes "import-2025-01"
          businessDomain := textBytes "v2c", purpose := 1, keyId := textBytes "v2c-uplink-7"
          businessKeyVersion := 7, rootKeyVersion := 3, derivationVersion := textBytes "v1"
          recipientCertificateDigest := List.replicate 32 0xab } ∧
      EnvelopeDigestInput.Fits
        { envelopeFormat := 1, requestId := textBytes "import-2025-01"
          businessDomain := textBytes "v2c", purpose := 1, keyId := textBytes "v2c-uplink-7"
          businessKeyVersion := 7, wrappingSuite := 1, wrappedKey := List.replicate 113 4
          parameters := [] } ∧
      ProofInput.Fits
        { requestId := textBytes "import-2025-01", businessDomain := textBytes "v2c"
          purpose := 1, keyId := textBytes "v2c-uplink-7", businessKeyVersion := 7
          envelopeDigest := List.replicate 32 0xcd, keyCheckValue := [1, 2, 3] } := by
  refine ⟨?_, ?_, ?_⟩ <;> constructor <;> decide

end Raw

/-! ### The inputs with proper texts -/

/-- The bytes of the texts. -/
def EnvelopeAadInput.raw (i : EnvelopeAadInput) : Raw.EnvelopeAadInput where
  envelopeFormat := i.envelopeFormat
  wrappingSuite := i.wrappingSuite
  requestId := textBytes i.requestId
  businessDomain := textBytes i.businessDomain
  purpose := i.purpose
  keyId := textBytes i.keyId
  businessKeyVersion := i.businessKeyVersion
  rootKeyVersion := i.rootKeyVersion
  derivationVersion := textBytes i.derivationVersion
  recipientCertificateDigest := i.recipientCertificateDigest

/-- The bytes of the texts. -/
def EnvelopeDigestInput.raw (i : EnvelopeDigestInput) : Raw.EnvelopeDigestInput where
  envelopeFormat := i.envelopeFormat
  requestId := textBytes i.requestId
  businessDomain := textBytes i.businessDomain
  purpose := i.purpose
  keyId := textBytes i.keyId
  businessKeyVersion := i.businessKeyVersion
  wrappingSuite := i.wrappingSuite
  wrappedKey := i.wrappedKey
  parameters := i.parameters

/-- The bytes of the texts. -/
def ProofInput.raw (i : ProofInput) : Raw.ProofInput where
  requestId := textBytes i.requestId
  businessDomain := textBytes i.businessDomain
  purpose := i.purpose
  keyId := textBytes i.keyId
  businessKeyVersion := i.businessKeyVersion
  envelopeDigest := i.envelopeDigest
  keyCheckValue := i.keyCheckValue

/-- **The model's builders are the byte-level ones on the bytes of the texts.** -/
theorem buildParProtoAadV1_eq_raw (i : EnvelopeAadInput) :
    buildParProtoAadV1 i = Raw.buildParProtoAadV1 i.raw := rfl

/-- The same for the input of the envelope digest. -/
theorem wireDigestInput_eq_raw (i : EnvelopeDigestInput) :
    wireDigestInput i = Raw.wireDigestInput i.raw := rfl

/-- The same for the input of an attestation. -/
theorem buildProofInput_eq_raw (X : Crypto) (i : ProofInput) :
    buildProofInput X i = Raw.buildProofInput X i.raw := rfl

end TboxSec.Canonical
