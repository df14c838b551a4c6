import Mathlib.Data.List.Basic
import Mathlib.Data.List.Induction
import Mathlib.Algebra.Order.Monoid.Defs
import Mathlib.Algebra.Ring.Nat

/-!
# DER

The distinguished encoding rules: a value is a tag, a length and a content, and the content of a
constructed value is the values in it. A length has one encoding only: one octet if it is
below 128, otherwise its digits to the base 256 without leading zeros behind their number.

* `readTlv`: reads one value strictly, and says what comes after it. What it reads was encoded by
  `tlv`, and in no other way (`readTlv_eq_some_iff`).
* `Der`: values with their structure. `Der.parse` reads one value that fills the input, to any
  depth.
* `parse_encode`, `encode_of_parse`: a value is read back, and every length of what was read is
  exact and minimal, because it is the encoding of what was read.

Tags are single octets: the numbers from 31 on are not read.
-/

namespace TboxSec

/-! ### Lengths -/

namespace Der

/-- The digits of a number to the base 256, the first one not zero. -/
def octets (n : ℕ) : List UInt8 :=
  if n = 0 then [] else octets (n / 256) ++ [UInt8.ofNat (n % 256)]
  termination_by n
  decreasing_by omega

/-- The number with these digits. -/
def value (digits : List UInt8) : ℕ := digits.foldl (fun n b => n * 256 + b.toNat) 0

/-- The length octets. -/
def lengthOctets (n : ℕ) : List UInt8 :=
  if n < 128 then [UInt8.ofNat n]
  else UInt8.ofNat (128 + (octets n).length) :: octets n

/-- Reads length octets: the length and what comes after it. A length with leading zeros, a
long form where the short one is enough and a form without an end are refused. -/
def readLength : List UInt8 → Option (ℕ × List UInt8)
  | [] => none
  | b :: rest =>
    if b.toNat < 128 then some (b.toNat, rest)
    else
      let digits := rest.take (b.toNat - 128)
      if digits.length = b.toNat - 128 ∧ digits.length < 127 ∧ digits.head? ≠ some 0 ∧
          128 ≤ value digits then
        some (value digits, rest.drop (b.toNat - 128))
      else none

/-- The digits of a positive number end in its last digit. -/
theorem octets_of_pos {n : ℕ} (h : n ≠ 0) :
    octets n = octets (n / 256) ++ [UInt8.ofNat (n % 256)] := by
  rw [octets, if_neg h]

/-- Zero has no digits. -/
theorem octets_zero : octets 0 = [] := by
  rw [octets, if_pos rfl]

/-- A further digit multiplies the value by the base. -/
private theorem value_concat (digits : List UInt8) (b : UInt8) :
    value (digits ++ [b]) = value digits * 256 + b.toNat := by
  simp [value, List.foldl_append]

/-- The digits of a number have its value. -/
@[simp]
theorem value_octets (n : ℕ) : value (octets n) = n := by
  induction n using octets.induct with
  | case1 => rw [octets_zero]; rfl
  | case2 n hn ih =>
    rw [octets_of_pos hn, value_concat, ih, UInt8.toNat_ofNat']
    omega

/-- They do not begin with a zero. -/
private theorem head_octets (n : ℕ) : (octets n).head? ≠ some 0 := by
  induction n using octets.induct with
  | case1 => rw [octets_zero]; exact nofun
  | case2 n hn ih =>
    rw [octets_of_pos hn]
    by_cases hdiv : n / 256 = 0
    · rw [hdiv, octets_zero, List.nil_append, List.head?_cons]
      intro hzero
      have hnat := congrArg UInt8.toNat (Option.some.inj hzero)
      rw [UInt8.toNat_ofNat'] at hnat
      change n % 256 % 256 = 0 at hnat
      omega
    · have hne : octets (n / 256) ≠ [] := by
        rw [octets_of_pos hdiv]
        exact List.append_ne_nil_of_right_ne_nil _ (List.cons_ne_nil _ _)
      rwa [List.head?_append_of_ne_nil _ hne]

/-- Digits without a leading zero are those of their number. -/
private theorem octets_value {digits : List UInt8} (h : digits.head? ≠ some 0) :
    octets (value digits) = digits := by
  induction digits using List.reverseRecOn with
  | nil => exact octets_zero
  | append_singleton digits b ih =>
    have hb := b.toNat_lt
    rw [value_concat]
    rcases digits with - | ⟨d, digits⟩
    · have hne : b.toNat ≠ 0 := fun hzero => h (by
        rw [List.nil_append, List.head?_cons, ← UInt8.ofNat_toNat (x := b), hzero]
        rfl)
      have hval : value [] * 256 + b.toNat = b.toNat := by rw [value]; simp
      rw [hval, octets_of_pos hne, Nat.div_eq_of_lt hb, Nat.mod_eq_of_lt hb, octets_zero,
        UInt8.ofNat_toNat]
    · have hdigits := ih (by simpa using h)
      have hpos : value (d :: digits) ≠ 0 := by
        intro hzero
        rw [hzero, octets_zero] at hdigits
        exact nomatch hdigits
      have hdiv : (value (d :: digits) * 256 + b.toNat) / 256 = value (d :: digits) := by omega
      have hmod : (value (d :: digits) * 256 + b.toNat) % 256 = b.toNat := by omega
      rw [octets_of_pos (by omega), hdiv, hmod, hdigits, UInt8.ofNat_toNat]

/-- A number below a power of the base has no more digits than its exponent. -/
private theorem length_octets_le {n k : ℕ} (h : n < 256 ^ k) : (octets n).length ≤ k := by
  induction k generalizing n with
  | zero =>
    obtain rfl : n = 0 := by simpa using h
    rw [octets_zero]
    rfl
  | succ k ih =>
    by_cases hn : n = 0
    · rw [hn, octets_zero]
      exact Nat.zero_le _
    · have hdiv : n / 256 < 256 ^ k := Nat.div_lt_of_lt_mul (by rwa [Nat.pow_succ'] at h)
      rw [octets_of_pos hn, List.length_append, List.length_singleton]
      exact Nat.succ_le_succ (ih hdiv)

/-- The lengths that are read: up to 126 digits. -/
def maxLength : ℕ := 256 ^ 126

/-- A length is read back from its encoding, whatever follows. -/
private theorem readLength_lengthOctets {n : ℕ} (h : n < maxLength) (rest : List UInt8) :
    readLength (lengthOctets n ++ rest) = some (n, rest) := by
  rw [lengthOctets]
  split_ifs with hn
  · have hb : (UInt8.ofNat n).toNat = n := by
      rw [UInt8.toNat_ofNat']
      omega
    rw [List.singleton_append, readLength, hb, if_pos hn]
  · have hlen : (octets n).length ≤ 126 := length_octets_le h
    have hb : (UInt8.ofNat (128 + (octets n).length)).toNat = 128 + (octets n).length := by
      rw [UInt8.toNat_ofNat']
      omega
    have hlong : ¬ 128 + (octets n).length < 128 := by omega
    have hsub : 128 + (octets n).length - 128 = (octets n).length := Nat.add_sub_cancel_left ..
    rw [List.cons_append, readLength, hb, if_neg hlong]
    dsimp only
    rw [hsub, List.take_left, List.drop_left, value_octets,
      if_pos ⟨rfl, by omega, head_octets n, Nat.not_lt.mp hn⟩]

/-- Digits have a value below the power of their number. -/
private theorem value_lt (digits : List UInt8) : value digits < 256 ^ digits.length := by
  induction digits using List.reverseRecOn with
  | nil => exact Nat.one_pos
  | append_singleton digits b ih =>
    have hb := b.toNat_lt
    rw [value_concat, List.length_append, List.length_singleton, Nat.pow_succ]
    omega

/-- Every length with up to 126 digits can be encoded. -/
theorem pow_le_maxLength {k : ℕ} (h : k ≤ 126) : 256 ^ k ≤ maxLength :=
  Nat.pow_le_pow_right (by decide) h

/-- **Lengths are read strictly.** -/
theorem eq_of_readLength {n : ℕ} {input rest : List UInt8} (h : readLength input = some (n, rest)) :
    n < maxLength ∧ input = lengthOctets n ++ rest := by
  cases input with
  | nil => exact nomatch h
  | cons b input =>
    rw [readLength] at h
    split_ifs at h with hb
    · obtain ⟨rfl, rfl⟩ := Prod.mk.inj (Option.some.inj h)
      have hsmall : b.toNat < 256 ^ 1 := b.toNat_lt
      refine ⟨lt_of_lt_of_le hsmall (pow_le_maxLength (by decide)), ?_⟩
      rw [lengthOctets, if_pos hb, UInt8.ofNat_toNat]
      rfl
    · dsimp only at h
      split_ifs at h with hdigits
      obtain ⟨hlen, hmax, hhead, hlong⟩ := hdigits
      obtain ⟨rfl, rfl⟩ := Prod.mk.inj (Option.some.inj h)
      refine ⟨lt_of_lt_of_le (value_lt _) (pow_le_maxLength (by omega)), ?_⟩
      have hfirst : UInt8.ofNat (128 + (input.take (b.toNat - 128)).length) = b := by
        rw [hlen, Nat.add_sub_cancel' (Nat.not_lt.mp hb), UInt8.ofNat_toNat]
      rw [lengthOctets, if_neg (Nat.not_lt.mpr hlong), octets_value hhead, hfirst,
        List.cons_append, List.take_append_drop]

/-! ### One value -/

/-- The tag number fits into the octet of the tag. -/
def isLowTag (tag : UInt8) : Bool := tag.toNat % 32 ≠ 31

/-- The content consists of values. -/
def isConstructed (tag : UInt8) : Bool := tag.toNat / 32 % 2 = 1

/-- The encoding of a tag and a content. -/
def tlv (tag : UInt8) (content : List UInt8) : List UInt8 :=
  tag :: (lengthOctets content.length ++ content)

/-- Reads a value off the front: its tag, its content and what comes after it. -/
def readTlv : List UInt8 → Option (UInt8 × List UInt8 × List UInt8)
  | [] => none
  | tag :: rest =>
    if isLowTag tag then
      (readLength rest).bind fun p =>
        if p.1 ≤ p.2.length then some (tag, p.2.take p.1, p.2.drop p.1) else none
    else none

/-- A value is read back from its encoding, whatever follows. -/
private theorem readTlv_tlv {tag : UInt8} {content : List UInt8} (htag : isLowTag tag = true)
    (h : content.length < maxLength) (rest : List UInt8) :
    readTlv (tlv tag content ++ rest) = some (tag, content, rest) := by
  have hfits : content.length ≤ (content ++ rest).length := by simp
  rw [tlv, List.cons_append, List.append_assoc, readTlv, if_pos htag, readLength_lengthOctets h,
    Option.bind_some, if_pos hfits, List.take_left, List.drop_left]

/-- **Values are read strictly.** -/
theorem readTlv_eq_some_iff {tag : UInt8} {content input rest : List UInt8} :
    readTlv input = some (tag, content, rest) ↔
      isLowTag tag = true ∧ content.length < maxLength ∧ input = tlv tag content ++ rest := by
  constructor
  · intro h
    cases input with
    | nil => exact nomatch h
    | cons t input =>
      rw [readTlv] at h
      split_ifs at h with htag
      obtain ⟨⟨n, body⟩, hread, hsplit⟩ := Option.bind_eq_some_iff.mp h
      dsimp only at hsplit
      split_ifs at hsplit with hfits
      cases hsplit
      obtain ⟨hn, rfl⟩ := eq_of_readLength hread
      have hlen : (body.take n).length = n := List.length_take_of_le hfits
      refine ⟨htag, hlen.symm ▸ hn, ?_⟩
      rw [tlv, hlen, List.cons_append, List.append_assoc, List.take_append_drop]
  · rintro ⟨htag, hlen, rfl⟩
    exact readTlv_tlv htag hlen rest

/-- No encoding is empty, so that reading one value after the other ends. -/
private theorem length_tlv_pos (tag : UInt8) (content : List UInt8) :
    0 < (tlv tag content).length :=
  Nat.succ_pos _

/-- Tag and length take up to four octets while the content is below 64 KiB. -/
private theorem length_tlv_le (tag : UInt8) {content : List UInt8} (h : content.length < 2 ^ 16) :
    (tlv tag content).length ≤ content.length + 4 := by
  have hoctets : (octets content.length).length ≤ 2 := length_octets_le h
  have hlen : (lengthOctets content.length).length ≤ 3 := by
    rw [lengthOctets]
    split_ifs
    · exact Nat.succ_le_succ (Nat.zero_le _)
    · exact Nat.succ_le_succ hoctets
  rw [tlv, List.length_cons, List.length_append]
  omega

/-- The content of a value is shorter than its encoding. -/
private theorem length_lt_tlv (tag : UInt8) (content : List UInt8) :
    content.length < (tlv tag content).length := by
  rw [tlv, List.length_cons, List.length_append]
  omega

end Der

/-! ### Values with their structure -/

/-- A value: the octets of a primitive one, the values in a constructed one. -/
inductive Der where
  | primitive (tag : UInt8) (content : List UInt8)
  | constructed (tag : UInt8) (children : List Der)

namespace Der

mutual

/-- The encoding of a value. -/
def encode : Der → List UInt8
  | .primitive tag content => tlv tag content
  | .constructed tag children => tlv tag (encodeAll children)

/-- The encodings of values, one after the other. -/
def encodeAll : List Der → List UInt8
  | [] => []
  | d :: ds => encode d ++ encodeAll ds

end

mutual

/-- Every tag is one octet and says whether its value is constructed. -/
def tagged : Der → Bool
  | .primitive tag _ => isLowTag tag && !isConstructed tag
  | .constructed tag children => isLowTag tag && isConstructed tag && taggedAll children

/-- All the values have such tags. -/
def taggedAll : List Der → Bool
  | [] => true
  | d :: ds => tagged d && taggedAll ds

end

mutual

/-- A bound for the length of the encoding, with four octets for each tag and length. -/
def width : Der → ℕ
  | .primitive _ content => content.length + 4
  | .constructed _ children => widthAll children + 4

/-- The sum of the bounds. -/
def widthAll : List Der → ℕ
  | [] => 0
  | d :: ds => width d + widthAll ds

end

mutual

/-- A value takes no more octets than its width, which adds four for each tag and length. -/
theorem length_encode_le (d : Der) (h : d.width < 2 ^ 16) : d.encode.length ≤ d.width :=
  match d with
  | .primitive tag content => by
    rw [width] at h
    rw [encode, width]
    exact length_tlv_le tag (by omega)
  | .constructed tag children => by
    rw [width] at h
    have hall := length_encodeAll_le children (by omega)
    have htlv := length_tlv_le tag (lt_of_le_of_lt hall (by omega))
    rw [encode, width]
    omega

/-- So do the values of a list together. -/
theorem length_encodeAll_le (ds : List Der) (h : widthAll ds < 2 ^ 16) :
    (encodeAll ds).length ≤ widthAll ds :=
  match ds with
  | [] => le_refl 0
  | d :: ds => by
    rw [widthAll] at h
    have hd := length_encode_le d (by omega)
    have hds := length_encodeAll_le ds (by omega)
    rw [encodeAll, widthAll, List.length_append]
    exact Nat.add_le_add hd hds

end

/-- Reads values to the end of the input. Each is shorter than the input, so `fuel` can be the
length of the input. -/
def readAll : ℕ → List UInt8 → Option (List Der)
  | _, [] => some []
  | 0, _ :: _ => none
  | fuel + 1, b :: input =>
    (readTlv (b :: input)).bind fun t =>
      (if isConstructed t.1 then (readAll fuel t.2.1).map (Der.constructed t.1)
        else some (.primitive t.1 t.2.1)).bind fun d => (readAll fuel t.2.2).map (d :: ·)

/-- Reads one value that fills the input. -/
def parse (input : List UInt8) : Option Der :=
  match readAll input.length input with
  | some [d] => some d
  | _ => none

/-- Reading a list of values reads the first, to any depth, and then the others. -/
private theorem readAll_cons {fuel : ℕ} {tag : UInt8} {content rest : List UInt8}
    (htag : isLowTag tag = true) (hlen : content.length < maxLength) :
    readAll (fuel + 1) (tlv tag content ++ rest) =
      (if isConstructed tag then (readAll fuel content).map (Der.constructed tag)
        else some (.primitive tag content)).bind fun d => (readAll fuel rest).map (d :: ·) := by
  have hread := readTlv_tlv htag hlen rest
  rw [tlv, List.cons_append] at hread ⊢
  rw [readAll, hread, Option.bind_some]

/-- **Values are read back**, to any depth. -/
theorem readAll_encodeAll {fuel : ℕ} {ds : List Der} (htags : taggedAll ds = true)
    (hfuel : (encodeAll ds).length ≤ fuel) (hmax : (encodeAll ds).length < maxLength) :
    readAll fuel (encodeAll ds) = some ds := by
  induction fuel generalizing ds with
  | zero =>
    cases ds with
    | nil => rfl
    | cons d ds =>
      exfalso
      cases d with
      | primitive tag content =>
        have hpos := length_tlv_pos tag content
        rw [encodeAll, encode, List.length_append] at hfuel
        omega
      | constructed tag children =>
        have hpos := length_tlv_pos tag (encodeAll children)
        rw [encodeAll, encode, List.length_append] at hfuel
        omega
  | succ fuel ih =>
    cases ds with
    | nil => cases fuel <;> rfl
    | cons d ds =>
      rw [taggedAll, Bool.and_eq_true] at htags
      obtain ⟨htag, hrest⟩ := htags
      rw [encodeAll, List.length_append] at hfuel hmax
      cases d with
      | primitive tag content =>
        rw [tagged, Bool.and_eq_true, Bool.not_eq_true'] at htag
        rw [encode] at hfuel hmax
        have hlt := length_lt_tlv tag content
        rw [encodeAll, encode, readAll_cons htag.1 (by omega), htag.2, if_neg Bool.false_ne_true,
          Option.bind_some, ih hrest (by omega) (by omega)]
        rfl
      | constructed tag children =>
        rw [tagged, Bool.and_eq_true, Bool.and_eq_true] at htag
        rw [encode] at hfuel hmax
        have hlt := length_lt_tlv tag (encodeAll children)
        rw [encodeAll, encode, readAll_cons htag.1.1 (by omega), if_pos htag.1.2,
          ih htag.2 (by omega) (by omega), ih hrest (by omega) (by omega)]
        rfl

/-- **What is read was encoded so**, at every depth. -/
theorem encodeAll_of_readAll {fuel : ℕ} {input : List UInt8} {ds : List Der}
    (h : readAll fuel input = some ds) : encodeAll ds = input ∧ taggedAll ds = true := by
  induction fuel generalizing input ds with
  | zero =>
    cases input with
    | nil =>
      obtain rfl := Option.some.inj h
      exact ⟨rfl, rfl⟩
    | cons => exact nomatch h
  | succ fuel ih =>
    cases input with
    | nil =>
      obtain rfl := Option.some.inj h
      exact ⟨rfl, rfl⟩
    | cons b input =>
      rw [readAll] at h
      obtain ⟨⟨tag, content, rest⟩, hread, h⟩ := Option.bind_eq_some_iff.mp h
      obtain ⟨d, hd, h⟩ := Option.bind_eq_some_iff.mp h
      obtain ⟨ds, hds, rfl⟩ := Option.map_eq_some_iff.mp h
      obtain ⟨hlow, -, hinput⟩ := readTlv_eq_some_iff.mp hread
      obtain ⟨hrest, htags⟩ := ih hds
      dsimp only at hd hrest
      split_ifs at hd with hcons
      · obtain ⟨children, hchildren, rfl⟩ := Option.map_eq_some_iff.mp hd
        obtain ⟨hcontent, hall⟩ := ih hchildren
        exact ⟨by rw [encodeAll, encode, hcontent, hrest, hinput],
          by rw [taggedAll, tagged, hlow, hcons, hall, htags]; rfl⟩
      · obtain rfl := Option.some.inj hd
        rw [Bool.not_eq_true] at hcons
        exact ⟨by rw [encodeAll, encode, hrest, hinput],
          by rw [taggedAll, tagged, hlow, hcons, htags]; rfl⟩

/-- A single value is a list with one value. -/
private theorem encodeAll_singleton (d : Der) : encodeAll [d] = d.encode := by
  rw [encodeAll, encodeAll, List.append_nil]

/-- **A value is read back.** -/
theorem parse_encode {d : Der} (htags : d.tagged = true) (hmax : d.encode.length < maxLength) :
    parse d.encode = some d := by
  have hall : taggedAll [d] = true := by rw [taggedAll, htags]; rfl
  have hread : readAll d.encode.length d.encode = some [d] := by
    rw [← encodeAll_singleton] at hmax ⊢
    exact readAll_encodeAll hall (le_refl _) hmax
  rw [parse, hread]

/-- **Every length is exact and minimal** in what is read. -/
theorem encode_of_parse {input : List UInt8} {d : Der} (h : parse input = some d) :
    d.encode = input ∧ d.tagged = true := by
  rw [parse] at h
  split at h
  · rename_i d' hread
    obtain rfl := Option.some.inj h
    obtain ⟨hinput, htags⟩ := encodeAll_of_readAll hread
    rw [encodeAll_singleton] at hinput
    rw [taggedAll, Bool.and_eq_true] at htags
    exact ⟨hinput, htags.1⟩
  · exact nomatch h

end Der

end TboxSec
