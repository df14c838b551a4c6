import TboxSec.Canonical.Encoding
import TboxSec.Lib.Ascii
import TboxSec.Lib.Leb128
import TboxSec.Lib.Loop

/-!
# The primitives of the encoding

The two loops that the digests, the additional data and the journal rest on.

* **Varints** (`appendEnumVarint_eq`): the loop ends for every value, and what it appends is the
  shortest encoding to the base 128.
* **Hex digits** (`hexPairs_eq_some_iff`): a text is read exactly when it is, in either case,
  the digits of some bytes.

`varint_and_hex` puts together what the formats above rely on: an encoded value ends where it says
that it ends, whatever stands behind it, and no two values or texts share an encoding.
-/

namespace TboxSec.Canonical

open Ascii (lowerByte)

/-! ### Varints -/

/-- One round of `appendEnumVarint`, over the output and what is left of the value. -/
def varintRound (s : Bytes × ℕ) : Bytes ⊕ Bytes × ℕ :=
  if s.2 / 128 ≠ 0 then .inr (s.1 ++ [UInt8.ofNat (s.2 % 128 + 128)], s.2 / 128)
  else .inl (s.1 ++ [UInt8.ofNat (s.2 % 128)])

/-- The loop ends, with the shortest encoding behind the output. -/
private theorem mem_loop_varintRound (out : Bytes) (v : ℕ) :
    out ++ Leb128.encode v ∈ loop varintRound (out, v) := by
  induction v using Leb128.encode.induct generalizing out with
  | case1 v h =>
    have hdiv : ¬ v / 128 ≠ 0 := by omega
    refine mem_loop_of_stop ?_
    rw [varintRound, if_neg hdiv, Leb128.encode_of_lt h, Nat.mod_eq_of_lt h]
  | case2 v h ih =>
    have hgoes : Goes varintRound (out, v)
        (out ++ [UInt8.ofNat (v % 128 + 128)], v / 128) := if_pos (by omega)
    have hrest := ih (out ++ [UInt8.ofNat (v % 128 + 128)])
    rw [List.append_assoc, List.singleton_append] at hrest
    rwa [loop_eq_of_goes hgoes, Leb128.encode_of_le (Nat.not_lt.mp h)]

/-- As many rounds as the value has digits are enough. -/
private theorem varintLoop_eq_encode {fuel v : ℕ} (h : v < 128 ^ (fuel + 1)) :
    varintLoop (fuel + 1) v = Leb128.encode v := by
  induction fuel generalizing v with
  | zero =>
    rw [zero_add, Nat.pow_one] at h
    have hdiv : ¬ v / 128 ≠ 0 := by omega
    rw [varintLoop, if_neg hdiv, Leb128.encode_of_lt h, Nat.mod_eq_of_lt h]
  | succ fuel ih =>
    rw [varintLoop]
    split_ifs with hdiv
    · have hrest : v / 128 < 128 ^ (fuel + 1) :=
        Nat.div_lt_of_lt_mul (by rwa [Nat.pow_succ'] at h)
      have hle : 128 ≤ v := by omega
      rw [ih hrest, Leb128.encode_of_le hle]
    · have hlt : v < 128 := by omega
      rw [Leb128.encode_of_lt hlt, Nat.mod_eq_of_lt hlt]

/-- **A varint is the shortest encoding of its value.** -/
theorem appendEnumVarint_eq {v : ℕ} (h : v < 2 ^ 64) (out : Bytes) :
    appendEnumVarint out v = out ++ Leb128.encode v := by
  rw [appendEnumVarint, varintLoop_eq_encode (lt_of_lt_of_le h (by norm_num))]

theorem appendEnumVarint_selfDelimiting :
    SelfDelimiting {v : ℕ | v < 2 ^ 64} (appendEnumVarint []) := by
  intro v hv w hw x y heq
  rw [appendEnumVarint_eq hv, appendEnumVarint_eq hw] at heq
  exact Leb128.encode_selfDelimiting (Set.mem_univ v) (Set.mem_univ w) heq

/-! ### Hex digits -/

/-- The bytes of the hex digits, of either case. -/
def hexDigits : Bytes := textBytes "0123456789abcdefABCDEF"

/-- What `nib` makes of every byte. -/
private theorem nib_spec (c : UInt8) :
    match nib c with
    | none => c ∉ hexDigits
    | some n => c ∈ hexDigits ∧ n < 16 ∧ hexByte n = lowerByte c := by
  have hall : ((List.range 256).all fun k =>
      match nib (UInt8.ofNat k) with
      | none => !hexDigits.contains (UInt8.ofNat k)
      | some n => hexDigits.contains (UInt8.ofNat k) && decide (n < 16) &&
          hexByte n == lowerByte (UInt8.ofNat k)) = true := by decide +kernel
  have hc := List.all_eq_true.mp hall c.toNat (List.mem_range.mpr c.toNat_lt)
  rw [UInt8.ofNat_toNat] at hc
  cases hn : nib c with
  | none => simpa [hn] using hc
  | some n => simpa [hn, and_assoc] using hc

private theorem nib_isSome_iff {c : UInt8} : (nib c).isSome ↔ c ∈ hexDigits := by
  have hc := nib_spec c
  cases hn : nib c with
  | none => simpa [hn] using hc
  | some n => simpa [hn] using (show _ ∧ _ by simpa [hn] using hc).1

/-- **What is accepted**: digits in pairs. -/
theorem hexPairs_isSome_iff (hex : Bytes) :
    (hexPairs hex).isSome ↔ Even hex.length ∧ ∀ c ∈ hex, c ∈ hexDigits := by
  induction hex using hexPairs.induct with
  | case1 => simp [hexPairs]
  | case2 c => simp [hexPairs]
  | case3 hi lo rest ih =>
    have hsome : (hexPairs (hi :: lo :: rest)).isSome ↔
        (nib hi).isSome ∧ (nib lo).isSome ∧ (hexPairs rest).isSome := by
      rw [hexPairs]
      cases nib hi <;> cases nib lo <;> cases hexPairs rest <;> simp
    have hlen : Even (hi :: lo :: rest).length ↔ Even rest.length := by
      rw [List.length_cons, List.length_cons, Nat.even_add_one, Nat.even_add_one, not_not]
    rw [hsome, hlen, ih, nib_isSome_iff, nib_isSome_iff, List.forall_mem_cons,
      List.forall_mem_cons]
    tauto

/-- **What is read**: the bytes whose digits the text is, but for the case of its letters. -/
theorem textBytes_toHex_of_hexPairs {hex out : Bytes} (h : hexPairs hex = some out) :
    textBytes (toHex out) = hex.map lowerByte := by
  rw [textBytes_toHex]
  induction hex using hexPairs.induct generalizing out with
  | case1 =>
    obtain rfl := Option.some.inj h
    rfl
  | case2 c => exact nomatch h
  | case3 hi lo rest ih =>
    rw [hexPairs] at h
    obtain ⟨a, ha, h⟩ := Option.bind_eq_some_iff.mp h
    obtain ⟨b, hb, h⟩ := Option.bind_eq_some_iff.mp h
    obtain ⟨bs, hbs, h⟩ := Option.bind_eq_some_iff.mp h
    obtain rfl := Option.some.inj h
    obtain ⟨-, ha16, hhi⟩ : _ ∧ a < 16 ∧ _ := by simpa [ha] using nib_spec hi
    obtain ⟨-, hb16, hlo⟩ : _ ∧ b < 16 ∧ _ := by simpa [hb] using nib_spec lo
    have hbyte : (UInt8.ofNat (a * 16 + b)).toNat = a * 16 + b := by
      rw [UInt8.toNat_ofNat']
      omega
    have hdiv : (a * 16 + b) / 16 = a := by omega
    have hmod : (a * 16 + b) % 16 = b := by omega
    rw [List.flatMap_cons, hbyte, hdiv, hmod, hhi, hlo, ih hbs]
    rfl

/-- **Varints and hex texts.** For every 64-bit value the loop of the varint ends and appends the
encoding of the value to the base 128 of which every other one is longer; from it and anything
behind it the value and the rest are read back, and no other value with any rest gives the same
bytes. Bytes are read back from their hex text, exactly the texts of an even number of hex
digits are read, and what is read has the text, in lower case, as its own. -/
theorem varint_and_hex :
    (∀ (out : Bytes) (v : UInt64),
      appendEnumVarint out v.toNat ∈ loop varintRound (out, v.toNat) ∧
      ∃ code, appendEnumVarint out v.toNat = out ++ code ∧ Leb128.Encodes code v.toNat ∧
        (∀ code', Leb128.Encodes code' v.toNat → code' ≠ code → code.length < code'.length) ∧
        (∀ rest, Leb128.decode (code ++ rest) = some (v.toNat, rest)) ∧
        ∀ (w : UInt64) (rest rest' : Bytes),
          code ++ rest = appendEnumVarint [] w.toNat ++ rest' → v = w ∧ rest = rest') ∧
    (∀ b : Bytes, hexToBytes (toHex b) = some b) ∧
    ∀ hex : Bytes,
      ((hexPairs hex).isSome ↔ Even hex.length ∧ ∀ c ∈ hex, c ∈ hexDigits) ∧
      ∀ out, hexPairs hex = some out → textBytes (toHex out) = hex.map lowerByte := by
  refine ⟨fun out v => ?_, hexToBytes_toHex, fun hex =>
    ⟨hexPairs_isSome_iff hex, fun out hout => textBytes_toHex_of_hexPairs hout⟩⟩
  have hv : v.toNat < 2 ^ 64 := v.toNat_lt
  have happend := appendEnumVarint_eq hv out
  refine ⟨happend ▸ mem_loop_varintRound out v.toNat, Leb128.encode v.toNat, happend,
    Leb128.encodes_encode v.toNat, fun code' hcode' hne => ?_,
    Leb128.decode_encode_append v.toNat, fun w rest rest' heq => ?_⟩
  · exact hcode'.shorter_or_eq.resolve_right hne
  · have hnil : Leb128.encode v.toNat = appendEnumVarint [] v.toNat := by
      rw [appendEnumVarint_eq hv, List.nil_append]
    rw [hnil] at heq
    obtain ⟨hvw, hrest⟩ := appendEnumVarint_selfDelimiting hv w.toNat_lt heq
    exact ⟨UInt64.toNat_inj.mp hvw, hrest⟩

end TboxSec.Canonical
