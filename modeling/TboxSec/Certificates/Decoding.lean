import TboxSec.Certificates.Chain

/-!
# The Base64 of a block

The decoder of the chain parser keeps its bits in a 32-bit accumulator that is never masked:
sextets are shifted in from below, and what is shifted out above is lost.

* **One sextet** (`base64Loop_digit`): a byte leaves the accumulator once eight bits are there.
* **One group** (`base64Loop_group`): four sextets give three bytes and leave no bits behind, so
  what the accumulator held before does not matter.
* **Space** (`base64Loop_strip`): space is passed over wherever it stands.
* **Padded text** (`base64Loop_padded`): so the decoder gives what the groups hold, and undoes the
  encoder however its text is broken into lines.
-/

namespace TboxSec.Certificates

/-! ### Sextets -/

private theorem kDec_digit {v : ℕ} (h : v < 64) : kDec (Base64.digit v) = some v := by
  have hall : ∀ v : Fin 64, kDec (Base64.digit v) = some v.val := by decide
  exact hall ⟨v, h⟩

private theorem digit_ne_pad {v : ℕ} (h : v < 64) : Base64.digit v ≠ 0x3D := by
  have hall : ∀ v : Fin 64, Base64.digit v ≠ 0x3D := by decide
  exact hall ⟨v, h⟩

/-- A sextet goes to the accumulator, and a byte leaves it once eight bits are there. -/
private theorem base64Loop_digit {acc bits v : ℕ} {text : Bytes} (h : v < 64) :
    base64Loop acc bits (Base64.digit v :: text) =
      if 2 ≤ bits then
        UInt8.ofNat ((acc * 64 + v) % 2 ^ 32 / 2 ^ (bits - 2) % 256) ::
          base64Loop ((acc * 64 + v) % 2 ^ 32) (bits - 2) text
      else base64Loop ((acc * 64 + v) % 2 ^ 32) (bits + 6) text := by
  rw [base64Loop, if_neg (digit_ne_pad h), kDec_digit h]
  have hiff : 8 ≤ bits + 6 ↔ 2 ≤ bits := by omega
  have hsub : bits + 6 - 8 = bits - 2 := by omega
  simp only [hiff, hsub]

private theorem base64Loop_pad (acc bits : ℕ) (text : Bytes) :
    base64Loop acc bits (Base64.pad :: text) =
    [] :=
  if_pos rfl

/-- The first byte of a group, after any accumulator. -/
private theorem byte₁ (acc : ℕ) {s t : ℕ} (hs : s < 64) (ht : t < 64) :
    UInt8.ofNat (((acc * 64 + s) % 2 ^ 32 * 64 + t) % 2 ^ 32 / 2 ^ 4 % 256) =
      Base64.byteOf₁ s t := by
  have hvalue : ((acc * 64 + s) % 2 ^ 32 * 64 + t) % 2 ^ 32 / 2 ^ 4 % 256 = s * 4 + t / 16 := by
    omega
  rw [hvalue, Base64.byteOf₁]

/-- The second byte. -/
private theorem byte₂ (acc : ℕ) {t u : ℕ} (ht : t < 64) (hu : u < 64) :
    UInt8.ofNat (((acc * 64 + t) % 2 ^ 32 * 64 + u) % 2 ^ 32 / 2 ^ 2 % 256) =
      Base64.byteOf₂ t u := by
  have hvalue : ((acc * 64 + t) % 2 ^ 32 * 64 + u) % 2 ^ 32 / 2 ^ 2 % 256 =
      t % 16 * 16 + u / 4 := by
    omega
  rw [hvalue, Base64.byteOf₂]

/-- The third byte. -/
private theorem byte₃ (acc : ℕ) {u v : ℕ} (hu : u < 64) (hv : v < 64) :
    UInt8.ofNat (((acc * 64 + u) % 2 ^ 32 * 64 + v) % 2 ^ 32 / 2 ^ 0 % 256) =
      Base64.byteOf₃ u v := by
  have hvalue : ((acc * 64 + u) % 2 ^ 32 * 64 + v) % 2 ^ 32 / 2 ^ 0 % 256 = u % 4 * 64 + v := by
    omega
  rw [hvalue, Base64.byteOf₃]

/-- A full group gives its three bytes and leaves no bits behind. -/
private theorem base64Loop_group (acc : ℕ) {s t u v : ℕ} (hs : s < 64) (ht : t < 64) (hu : u < 64)
    (hv : v < 64) (text : Bytes) :
    ∃ acc', base64Loop acc 0
        (Base64.digit s :: Base64.digit t :: Base64.digit u :: Base64.digit v :: text) =
      Base64.byteOf₁ s t :: Base64.byteOf₂ t u :: Base64.byteOf₃ u v ::
        base64Loop acc' 0 text := by
  simp only [base64Loop_digit hs, base64Loop_digit ht, base64Loop_digit hu, base64Loop_digit hv,
    Nat.reduceLeDiff, Nat.reduceAdd, Nat.reduceSub, if_true, if_false, byte₁ _ hs ht,
    byte₂ _ ht hu, byte₃ _ hu hv]
  exact ⟨_, rfl⟩

/-! ### Space -/

/-- A text without its space. -/
def strip (text : Bytes) : Bytes := text.filter fun c => !isAsciiSpace c

theorem strip_cons_of_space {c : UInt8} (h : isAsciiSpace c = true) (text : Bytes) :
    strip (c :: text) = strip text :=
  List.filter_cons_of_neg (by rw [h]; decide)

theorem strip_cons_of_ne {c : UInt8} (h : isAsciiSpace c = false) (text : Bytes) :
    strip (c :: text) = c :: strip text :=
  List.filter_cons_of_pos (by rw [h]; rfl)

theorem strip_append (text text' : Bytes) : strip (text ++ text') = strip text ++ strip text' :=
  List.filter_append ..

/-- Space is no symbol. -/
private theorem kDec_of_space {c : UInt8} (h : isAsciiSpace c = true) :
    c ≠ 0x3D ∧ kDec c = none := by
  simp only [isAsciiSpace, Bool.or_eq_true, decide_eq_true_eq] at h
  rcases h with ((((rfl | rfl) | rfl) | rfl) | rfl) | rfl
  all_goals exact ⟨by decide, by decide⟩

/-- **Space is passed over.** -/
theorem base64Loop_strip (acc bits : ℕ) (text : Bytes) :
    base64Loop acc bits (strip text) = base64Loop acc bits text := by
  induction text generalizing acc bits with
  | nil => rfl
  | cons c text ih =>
    cases hc : isAsciiSpace c with
    | true =>
      obtain ⟨hpad, hnone⟩ := kDec_of_space hc
      rw [strip_cons_of_space hc, ih, base64Loop, if_neg hpad, hnone]
    | false =>
      rw [strip_cons_of_ne hc, base64Loop, base64Loop]
      simp only [ih]

/-! ### Texts -/

/-- **The decoder decodes**: on a padded text it gives what the groups hold, whatever is left
in the accumulator. -/
theorem base64Loop_padded (acc : ℕ) {text : Bytes} (h : Base64.Padded text) :
    base64Loop acc 0 text = Base64.decode text := by
  induction h generalizing acc with
  | nil => rfl
  | one hs ht =>
    rw [Base64.decode_one hs ht]
    simp only [base64Loop_digit hs, base64Loop_digit ht, base64Loop_pad, Nat.reduceLeDiff,
      Nat.reduceAdd, Nat.reduceSub, if_true, if_false, byte₁ _ hs ht]
  | two hs ht hu =>
    rw [Base64.decode_two hs ht hu]
    simp only [base64Loop_digit hs, base64Loop_digit ht, base64Loop_digit hu, base64Loop_pad,
      Nat.reduceLeDiff, Nat.reduceAdd, Nat.reduceSub, if_true, if_false, byte₁ _ hs ht,
      byte₂ _ ht hu]
  | @group s t u v rest hs ht hu hv _ ih =>
    obtain ⟨acc', hgroup⟩ := base64Loop_group acc hs ht hu hv rest
    rw [hgroup, ih, Base64.decode_group hs ht hu hv]

theorem base64Decode_of_loop {text data : Bytes} (hdata : data ≠ [])
    (h : base64Loop 0 0 text = data) : base64Decode text = some data := by
  rw [base64Decode, h]
  cases data with
  | nil => exact absurd rfl hdata
  | cons => rfl

/-- A text whose symbols are the padded encoding of some bytes. -/
theorem base64Loop_of_strip {text data : Bytes} (acc : ℕ) (h : strip text = Base64.encode data) :
    base64Loop acc 0 text = data := by
  rw [← base64Loop_strip, h, base64Loop_padded acc (Base64.padded_encode data),
    Base64.decode_encode]

/-- **The encoder is inverted.** However space is spread over the padded encoding of some bytes,
decoding succeeds and gives the bytes. The accumulator of the loop is a word that is never masked,
and wraps; but four sextets leave no bits behind, so what it held before does not matter. -/
theorem base64Decode_inverts_encode (b text : Bytes) (hb : b ≠ [])
    (htext : text.filter (fun c => !isAsciiSpace c) = Base64.encode b) :
    base64Decode text = some b :=
  base64Decode_of_loop hb (base64Loop_of_strip 0 htext)

/-- Space before, inside and behind the encoding of eight bytes, whose 64 bits do not fit into
the accumulator. -/
theorem base64Decode_inverts_encode_spaced :
    base64Decode (textBytes " /wAR\r\nIjNEV\tWY=\n") =
      some [0xFF, 0x00, 0x11, 0x22, 0x33, 0x44, 0x55, 0x66] :=
  base64Decode_inverts_encode _ _ (List.cons_ne_nil _ _) (by decide +kernel)

end TboxSec.Certificates
