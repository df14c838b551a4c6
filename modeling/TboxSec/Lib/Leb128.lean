import Mathlib
import TboxSec.Lib.SelfDelimiting

/-!
# Numbers to the base 128

LEB128: a number as bytes, the least significant first. Seven bits of a byte are a digit, the
eighth says that another byte follows. Leading zero digits are not ruled out, so a number has
many encodings and one that is shortest.

* `Encodes`: the encodings of a number, padded or not.
* `decode`: reads one encoding off the front, and says what comes after it.
* `encode`: the shortest encoding (`Encodes.shorter_or_eq`), told from whatever follows
  (`encode_selfDelimiting`).

A reader that takes what `decode` takes therefore accepts padded numbers too, and a format that
wants one encoding for each number has to write the shortest and compare.
-/

namespace TboxSec.Leb128

variable {code : List UInt8} {v : ℕ}

/-- `code` is one complete encoding of a number. -/
inductive Encodes : List UInt8 → ℕ → Prop
  | last {b : UInt8} (h : b.toNat < 128) : Encodes [b] b.toNat
  | more {b : UInt8} {code : List UInt8} {v : ℕ} (h : 128 ≤ b.toNat) (hcode : Encodes code v) :
      Encodes (b :: code) (b.toNat - 128 + 128 * v)

/-- Reads one encoding off the front: the number and what comes after it. -/
def decode : List UInt8 → Option (ℕ × List UInt8)
  | [] => none
  | b :: rest =>
    if b.toNat < 128 then some (b.toNat, rest)
    else (decode rest).map fun p => (b.toNat - 128 + 128 * p.1, p.2)

/-- The shortest encoding. -/
def encode (v : ℕ) : List UInt8 :=
  if v < 128 then [UInt8.ofNat v] else UInt8.ofNat (v % 128 + 128) :: encode (v / 128)
  termination_by v
  decreasing_by omega

theorem encode_of_lt (h : v < 128) : encode v = [UInt8.ofNat v] := by
  rw [encode, if_pos h]

theorem encode_of_le (h : 128 ≤ v) :
    encode v = UInt8.ofNat (v % 128 + 128) :: encode (v / 128) := by
  rw [encode, if_neg (by omega)]

theorem Encodes.ne_nil (h : Encodes code v) : code ≠ [] := by
  cases h with
  | last => exact List.cons_ne_nil _ _
  | more => exact List.cons_ne_nil _ _

/-! ### Reading -/

/-- An encoding is read whole, whatever comes after it. -/
private theorem Encodes.decode_append (h : Encodes code v) (rest : List UInt8) :
    decode (code ++ rest) = some (v, rest) := by
  induction h with
  | last hb => simp only [List.cons_append, List.nil_append, decode, if_pos hb]
  | more hb _ ih =>
    rw [List.cons_append, decode, if_neg (Nat.not_lt.mpr hb), ih]
    rfl

/-! ### The shortest encoding -/

theorem encodes_encode (v : ℕ) : Encodes (encode v) v := by
  induction v using encode.induct with
  | case1 v h =>
    have hv : (UInt8.ofNat v).toNat = v := by
      rw [UInt8.toNat_ofNat']
      omega
    rw [encode_of_lt h]
    simpa only [hv] using Encodes.last (b := UInt8.ofNat v) (by omega)
  | case2 v h ih =>
    have hb : (UInt8.ofNat (v % 128 + 128)).toNat = v % 128 + 128 := by
      rw [UInt8.toNat_ofNat']
      omega
    have hv : (UInt8.ofNat (v % 128 + 128)).toNat - 128 + 128 * (v / 128) = v := by omega
    have hmore := Encodes.more (b := UInt8.ofNat (v % 128 + 128)) (by omega) ih
    rwa [hv, ← encode_of_le (Nat.not_lt.mp h)] at hmore

/-- **The shortest encoding**: any other one is longer. -/
theorem Encodes.shorter_or_eq (h : Encodes code v) :
    (encode v).length < code.length ∨ code = encode v := by
  induction h with
  | @last b hb =>
    rw [encode_of_lt hb, UInt8.ofNat_toNat]
    exact Or.inr rfl
  | @more b code v hb hcode ih =>
    have hlt := b.toNat_lt
    by_cases hv : b.toNat - 128 + 128 * v < 128
    · -- one byte would have been enough, and there are at least two
      have hpos := List.length_pos_iff.mpr hcode.ne_nil
      rw [encode_of_lt hv]
      exact Or.inl (by simpa using hpos)
    · have hlow : (b.toNat - 128 + 128 * v) % 128 + 128 = b.toNat := by omega
      have hhigh : (b.toNat - 128 + 128 * v) / 128 = v := by omega
      rw [encode_of_le (Nat.not_lt.mp hv), hlow, hhigh, UInt8.ofNat_toNat]
      rcases ih with hlen | heq
      · exact Or.inl (by simpa using hlen)
      · exact Or.inr (by rw [← heq])

/-- The number and the rest are recovered. -/
theorem decode_encode_append (v : ℕ) (rest : List UInt8) :
    decode (encode v ++ rest) = some (v, rest) :=
  (encodes_encode v).decode_append rest

theorem encode_selfDelimiting : SelfDelimiting Set.univ encode := by
  intro v _ w _ x y heq
  have hread := decode_encode_append v x
  rw [heq, decode_encode_append] at hread
  obtain ⟨hvw, hxy⟩ := Prod.mk.inj (Option.some.inj hread)
  exact ⟨hvw.symm, hxy.symm⟩

end TboxSec.Leb128
