import Mathlib.Algebra.Order.BigOperators.Group.List
import TboxSec.Certificates.Install

/-!
# Bench certificates

A library whose certificates are DER sequences, for examples: it finds the end of a sequence by
its length, and reads the blocks of a text with the decoder of the chain parser.

It is lawful (`lawful_bench`), so what is proved of every lawful library can be tried on it. Two
inputs are built with it: `shortDer`, a certificate of five bytes, and `singleChain`, the chain of
one certificate that was given as DER.
-/

namespace TboxSec.Certificates

/-- A certificate of the bench is its DER. -/
abbrev BenchCert := {der : Bytes // der ≠ []}

/-- A DER sequence at the beginning of some data: its length is one byte, or two behind `0x82`. -/
def readSequence : Bytes → Option (BenchCert × Bytes)
  | 0x30 :: 0x82 :: hi :: lo :: rest =>
    let n := hi.toNat * 256 + lo.toNat
    if n ≤ rest.length then
      some (⟨0x30 :: 0x82 :: hi :: lo :: rest.take n, List.cons_ne_nil _ _⟩, rest.drop n)
    else none
  | 0x30 :: n :: rest =>
    if n < 0x80 ∧ n.toNat ≤ rest.length then
      some (⟨0x30 :: n :: rest.take n.toNat, List.cons_ne_nil _ _⟩, rest.drop n.toNat)
    else none
  | _ => none

/-- The certificate in the content of a block. -/
def readBlock (content : Bytes) : Option BenchCert :=
  match base64Decode content with
  | some (b :: der) => some ⟨b :: der, List.cons_ne_nil _ _⟩
  | _ => none

/-- Every certificate of the bench is a client certificate of the device `ECU-1` with the
public key `[4]`. -/
def bench : OpenSsl BenchCert where
  d2i := readSequence
  i2d c := c.val
  readPem text :=
    match scanBlocks text.length 0 text with
    | .ok blocks => blocks.filterMap readBlock
    | .error _ => []
  writePem c := some (pemBlock c.val)
  basicConstraints _ := some false
  sameNames _ := false
  verifiesItself _ := false
  subjectCommonName _ := some (textBytes "ECU-1")
  keyUsage _ := some [0x88]
  extKeyUsage _ := some [OpenSsl.clientAuth]
  extensions _ := [⟨.basicConstraints, true⟩, ⟨.keyUsage, true⟩]
  notBefore _ := some 0
  notAfter _ := some 1000
  isP256 _ := true
  ecPoint _ := [4]

/-- The bench reads what it wrote. -/
theorem lawful_bench : bench.Lawful where
  i2d_ne_nil c := c.property
  writePem_eq c text h := (Option.some.inj h).symm
  readPem_pemText certs := by
    have hcount : 0 + certs.length ≤ (bench.pemText certs).length := by
      rw [length_pemText, OpenSsl.canonicalSize, zero_add]
      have hsum := List.card_nsmul_le_sum (certs.map fun c => pemSize (bench.i2d c).length) 1
      rw [List.length_map, nsmul_one, Nat.cast_id] at hsum
      refine hsum fun n hn => ?_
      obtain ⟨c, -, rfl⟩ := List.mem_map.mp hn
      exact le_trans (by decide : 1 ≤ 54) (by rw [pemSize]; omega)
    have hread : ∀ c : BenchCert, readBlock (Ascii.newline :: pemBody c.val) = some c := by
      rintro ⟨der, hder⟩
      rw [readBlock, base64Decode_pemBody hder]
      cases der with
      | nil => exact absurd rfl hder
      | cons b der => rfl
    change (match scanBlocks (bench.pemText certs).length 0 (bench.pemText certs) with
      | .ok blocks => blocks.filterMap readBlock
      | .error _ => []) = certs
    rw [scanBlocks_pemText hcount]
    dsimp only
    rw [List.filterMap_map]
    have hsome : (readBlock ∘ fun c : BenchCert => Ascii.newline :: pemBody (bench.i2d c)) = some :=
      funext hread
    rw [hsome, List.filterMap_some]

/-- A short certificate. -/
def shortDer : Bytes := [0x30, 3, 1, 2, 3]

/-- The chain of one certificate that was given as DER. -/
def singleChain (der : BenchCert) : ParsedCertificateChain BenchCert :=
  { format := .derSingle, leaf := der, intermediates := []
    certDerSha256 := [bench.derSha256 Tls.exampleLibrary.crypto der]
    leafDerOriginalSha256 :=
      OpenSsl.sha256OfBytes Tls.exampleLibrary.crypto (der.val.rdropWhile isAsciiSpace) }

end TboxSec.Certificates
