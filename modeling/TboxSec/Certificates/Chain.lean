import Mathlib.Data.List.DropRight
import TboxSec.Canonical.Crypto
import TboxSec.Lib.Base64

/-!
# Certificate chains

The strict parser of certificate chains (`certificate_chain_parser.cpp`) and the canonical
text it is stored as (`certificate_chain_canonicalizer.cpp`). Certificates are the values of a
type that OpenSSL reads and writes (`OpenSsl`), a parameter of the model.

* **Two formats**: an input that begins with the PEM header is a chain of blocks, anything else
  a single DER certificate. The two paths apply different rules: the roles of the certificates,
  their number and their repetition are looked at on the PEM path only.
* **PEM text** (`pemBlock`): the header, the Base64 of the DER in lines of sixty-four symbols,
  the footer. `Lawful` says that OpenSSL writes this and reads back what it wrote.
-/

namespace TboxSec.Certificates

/-! ### OpenSSL -/

/-- The extensions that a device certificate may mark critical, and all others. -/
inductive ExtensionId where
  | basicConstraints | keyUsage | extKeyUsage | subjectAltName | subjectKeyIdentifier
  | authorityKeyIdentifier | other
  deriving DecidableEq

/-- `X509_EXTENSION`. -/
structure Extension where
  nid : ExtensionId
  critical : Bool
  deriving DecidableEq

/-- What OpenSSL reads and writes of certificates. -/
structure OpenSsl (X509 : Type) where
  /-- `d2i_X509`: the certificate and the bytes behind it. -/
  d2i : Bytes → Option (X509 × Bytes)
  /-- `i2d_X509`; empty when it fails. -/
  i2d : X509 → Bytes
  /-- `PEM_read_bio_X509` until it fails. -/
  readPem : Bytes → List X509
  /-- What `PEM_write_bio_X509` appends; `none` when it fails. -/
  writePem : X509 → Option Bytes
  /-- The flag `ca` of the basic constraints, if there are any. -/
  basicConstraints : X509 → Option Bool
  /-- `X509_NAME_cmp` finds subject and issuer equal. -/
  sameNames : X509 → Bool
  /-- `X509_get_pubkey` and `X509_verify` with that key succeed. -/
  verifiesItself : X509 → Bool
  /-- The common name of the subject in UTF-8, if there is one. -/
  subjectCommonName : X509 → Option Bytes
  /-- The bit string of the key usage, if there is one. -/
  keyUsage : X509 → Option Bytes
  /-- The object identifiers of the extended key usage, if there is one. -/
  extKeyUsage : X509 → Option (List String)
  extensions : X509 → List Extension
  /-- `notBefore` in seconds since the epoch. -/
  notBefore : X509 → Option ℤ
  /-- `notAfter` in seconds since the epoch. -/
  notAfter : X509 → Option ℤ
  /-- The public key is a point of P-256. -/
  isP256 : X509 → Bool
  /-- The public key as an uncompressed point; empty when it is no point of a curve. -/
  ecPoint : X509 → Bytes

/-! ### PEM text -/

/-- `kBeginCert`. -/
def kBeginCert : Bytes := textBytes "-----BEGIN CERTIFICATE-----"

/-- `kEndCert`. -/
def kEndCert : Bytes := textBytes "-----END CERTIFICATE-----"

/-- The Base64 of a certificate, in lines of sixty-four symbols. -/
def pemBody (der : Bytes) : Bytes := Base64.encodeLines 16 0 der

/-- The text of a certificate. -/
def pemBlock (der : Bytes) : Bytes :=
  kBeginCert ++ (Ascii.newline :: pemBody der) ++ (kEndCert ++ [Ascii.newline])

variable {X509 : Type}

/-- The text of a sequence of certificates. -/
def OpenSsl.pemText (O : OpenSsl X509) (certs : List X509) : Bytes :=
  certs.flatMap fun c => pemBlock (O.i2d c)

/-- What the code relies on. -/
structure OpenSsl.Lawful (O : OpenSsl X509) : Prop where
  /-- A certificate has an encoding. -/
  i2d_ne_nil : ∀ c, O.i2d c ≠ []
  /-- A certificate is written as its text. -/
  writePem_eq : ∀ c text, O.writePem c = some text → text = pemBlock (O.i2d c)
  /-- What was written is read back. -/
  readPem_pemText : ∀ certs, O.readPem (O.pemText certs) = certs

/-! ### Results -/

/-- `CertificateInputFormat`. -/
inductive CertificateInputFormat where
  | derSingle | pemChain
  deriving DecidableEq

/-- `CertificateParseStage` of a failure. -/
inductive CertificateParseStage where
  | inputFormat | chainShape | sizeLimit
  deriving DecidableEq

/-- `ParsedCertificateChain`. -/
structure ParsedCertificateChain (X509 : Type) where
  format : CertificateInputFormat
  leaf : X509
  intermediates : List X509
  certDerSha256 : List Bytes
  leafDerOriginalSha256 : Bytes
  deriving DecidableEq

/-- The certificates of a chain, the leaf first. -/
def ParsedCertificateChain.certs (chain : ParsedCertificateChain X509) : List X509 :=
  chain.leaf :: chain.intermediates

/-- `CertificateChainLimits` with its defaults. -/
structure CertificateChainLimits where
  maxPayloadBytes : ℕ := 8192
  maxCertificates : ℕ := 4
  deriving DecidableEq

/-! ### Reading text -/

/-- `isAsciiSpace`. -/
def isAsciiSpace (c : UInt8) : Bool :=
  c = 0x20 || c = 0x09 || c = 0x0D || c = 0x0A || c = 0x0C || c = 0x0B

/-- `isBase64Char`. -/
def isBase64Char (c : UInt8) : Bool :=
  (0x41 ≤ c && c ≤ 0x5A) || (0x61 ≤ c && c ≤ 0x7A) || (0x30 ≤ c && c ≤ 0x39) || c = 0x2B ||
    c = 0x2F || c = 0x3D

/-- `kDec`. -/
def kDec (c : UInt8) : Option ℕ :=
  if c = 0x2B then some 62
  else if c = 0x2F then some 63
  else if 0x30 ≤ c ∧ c ≤ 0x39 then some (c.toNat - 0x30 + 52)
  else if 0x41 ≤ c ∧ c ≤ 0x5A then some (c.toNat - 0x41)
  else if 0x61 ≤ c ∧ c ≤ 0x7A then some (c.toNat - 0x61 + 26)
  else none

/-- The loop of `base64Decode` with its 32-bit accumulator. -/
def base64Loop (acc bits : ℕ) : Bytes → Bytes
  | [] => []
  | c :: text =>
    -- the padding ends the data
    if c = 0x3D then []
    else match kDec c with
      | none => base64Loop acc bits text
      | some v =>
        let acc := (acc * 64 + v) % 2 ^ 32
        let bits := bits + 6
        if 8 ≤ bits then
          UInt8.ofNat (acc / 2 ^ (bits - 8) % 256) :: base64Loop acc (bits - 8) text
        else base64Loop acc bits text

/-- `base64Decode`; `none` when nothing is decoded. -/
def base64Decode (text : Bytes) : Option Bytes :=
  match base64Loop 0 0 text with
  | [] => none
  | out => some out

/-- `std::string::find`: what stands before the first occurrence of `pat`, and behind it. -/
def breakOn (pat : Bytes) : Bytes → Option (Bytes × Bytes)
  | [] => if pat = [] then some ([], []) else none
  | c :: text =>
    if pat <+: c :: text then some ([], (c :: text).drop pat.length)
    else (breakOn pat text).map fun p => (c :: p.1, p.2)

private theorem breakOn_length {pat text content rest : Bytes}
    (h : breakOn pat text = some (content, rest)) :
    rest.length ≤ text.length := by
  induction text generalizing content rest with
  | nil =>
    unfold breakOn at h
    split_ifs at h
    obtain ⟨rfl, rfl⟩ := Prod.mk.inj (Option.some.inj h)
    exact le_refl _
  | cons c text ih =>
    unfold breakOn at h
    split_ifs at h with hp
    · obtain ⟨rfl, rfl⟩ := Prod.mk.inj (Option.some.inj h)
      rw [List.length_drop]
      exact Nat.sub_le ..
    · obtain ⟨⟨content', rest'⟩, htext, heq⟩ := Option.map_eq_some_iff.mp h
      obtain ⟨rfl, rfl⟩ := Prod.mk.inj heq
      exact le_trans (ih htext) (Nat.le_succ _)

theorem length_kBeginCert : kBeginCert.length = 27 := by decide

private theorem dropWhile_length_le (p : UInt8 → Bool) (data : Bytes) :
    (data.dropWhile p).length ≤ data.length :=
  (List.dropWhile_suffix p).length_le

/-- The structure scan of `parsePemChain`: the contents of the blocks, of which `count` have
been seen. Nothing but blocks and space is allowed. -/
def scanBlocks (maxCertificates count : ℕ) (data : Bytes) :
    Except CertificateParseStage (List Bytes) :=
  if hdata : data.dropWhile isAsciiSpace = [] then .ok []
  else if ¬ kBeginCert <+: data.dropWhile isAsciiSpace then .error .inputFormat
  else
    match hbreak : breakOn kEndCert ((data.dropWhile isAsciiSpace).drop kBeginCert.length) with
    | none => .error .inputFormat
    | some (content, rest) =>
      if ¬ content.all fun c => isBase64Char c || isAsciiSpace c then .error .inputFormat
      else if maxCertificates < count + 1 then .error .sizeLimit
      else (scanBlocks maxCertificates (count + 1) rest).map (content :: ·)
  termination_by data.length
  decreasing_by
    have hrest := breakOn_length hbreak
    have hle := dropWhile_length_le isAsciiSpace data
    have hpos := List.length_pos_iff.mpr hdata
    rw [List.length_drop, length_kBeginCert] at hrest
    omega

/-! ### The parser -/

namespace OpenSsl

variable (O : OpenSsl X509) (X : Crypto)

/-- An all-zero digest stands for none. -/
def noDigest : Bytes := List.replicate 32 0

/-- `sha256OfBytes`. -/
def sha256OfBytes (data : Bytes) : Bytes := if data = [] then noDigest else X.sha256 data

/-- `derSha256`. -/
def derSha256 (cert : X509) : Bytes := sha256OfBytes X (O.i2d cert)

/-- `isCaCert`. -/
def isCaCert (cert : X509) : Bool := (O.basicConstraints cert).getD false

/-- `isVerifiableSelfSigned`. -/
def isVerifiableSelfSigned (cert : X509) : Bool := O.sameNames cert && O.verifiesItself cert

/-- `parseDerSingle`. The trailing space is cut from the bytes that are digested. -/
def parseDerSingle (payload : Bytes) :
    Except CertificateParseStage (ParsedCertificateChain X509) :=
  let data := payload.dropWhile isAsciiSpace
  match O.d2i data with
  | none => .error .inputFormat
  | some (cert, rest) =>
    if ¬ rest.all isAsciiSpace then .error .inputFormat
    else .ok
      { format := .derSingle, leaf := cert, intermediates := []
        certDerSha256 := [O.derSha256 X cert]
        leafDerOriginalSha256 := sha256OfBytes X (data.rdropWhile isAsciiSpace) }

/-- The roles on the PEM path: the leaf is no CA, the certificates behind it are, and none of
them is a root. -/
def shapely (leaf : X509) (intermediates : List X509) : Bool :=
  !O.isCaCert leaf &&
    intermediates.all fun c => O.isCaCert c && !O.isVerifiableSelfSigned c

/-- The checks of `parsePemChain` on the certificates it has read, the first of them from a
block with the content `first`. -/
def pemChain (first : Bytes) :
    List X509 → Except CertificateParseStage (ParsedCertificateChain X509)
  | [] => .error .chainShape
  | leaf :: intermediates =>
    let digests := (leaf :: intermediates).map (O.derSha256 X)
    if ¬ O.shapely leaf intermediates then .error .chainShape
    else if ¬ digests.Nodup then .error .chainShape
    else .ok
      { format := .pemChain, leaf, intermediates, certDerSha256 := digests
        leafDerOriginalSha256 := match base64Decode first with
          | some der => sha256OfBytes X der
          | none => noDigest }

/-- `parsePemChain`. Every block must have given a certificate. -/
def parsePemChain (payload : Bytes) (limits : CertificateChainLimits) :
    Except CertificateParseStage (ParsedCertificateChain X509) := do
  let blocks ← scanBlocks limits.maxCertificates 0 payload
  let certs := O.readPem payload
  if limits.maxCertificates < certs.length then .error .sizeLimit
  else if certs.length ≠ blocks.length then .error .inputFormat
  else O.pemChain X (blocks.headD []) certs

/-- `CertificateChainParser::parse`. -/
def parse (payload : Bytes) (limits : CertificateChainLimits) :
    Except CertificateParseStage (ParsedCertificateChain X509) :=
  if limits.maxPayloadBytes < payload.length then .error .sizeLimit
  else
    let data := payload.dropWhile isAsciiSpace
    if data = [] then .error .inputFormat
    else if kBeginCert <+: data then O.parsePemChain X payload limits
    else O.parseDerSingle X payload

/-- `CertificateChainCanonicalizer::toPem`; `none` when it fails. -/
def toPem (chain : ParsedCertificateChain X509) : Option Bytes := do
  let texts ← chain.certs.mapM O.writePem
  let out := texts.flatten
  if out = [] then none else some out

end OpenSsl

end TboxSec.Certificates
