import Mathlib.Data.List.Basic
import Mathlib.Tactic.IntervalCases
import TboxSec.Lib.Ascii

/-!
# Base64 in lines

The encoder of the printable encodings: three bytes become four symbols of an alphabet of
sixty-four, the last group is padded, and a line ends after a fixed number of groups.

* **Groups** (`encodeLines`): the recursion is on the groups, with the number of groups that
  already stand on the current line. An unfinished last line is ended too.
* **Length** (`length_encodeLines`): four symbols for each group and one for each line, so the
  length of the text is a function of the length of the data.
* **Alphabet** (`Symbol`): what a text consists of, for readers that check it symbol by symbol.
* **Without lines** (`encode`, `decode`): the same groups with nothing between them, and the
  reader that takes four symbols at a time.
-/

namespace TboxSec.Base64

open Ascii (newline)

/-! ### The alphabet -/

/-- The symbol of a sextet. -/
def digit (v : ℕ) : UInt8 :=
  if v < 26 then UInt8.ofNat (0x41 + v)
  else if v < 52 then UInt8.ofNat (0x61 + (v - 26))
  else if v < 62 then UInt8.ofNat (0x30 + (v - 52))
  else if v = 62 then 0x2B
  else 0x2F

/-- The padding, `=`. -/
def pad : UInt8 := 0x3D

/-- The symbols of a text in lines. -/
inductive Symbol : UInt8 → Prop
  | digit {v : ℕ} (h : v < 64) : Symbol (digit v)
  | pad : Symbol pad
  | newline : Symbol newline

/-- A property of every symbol can be checked on the alphabet. -/
theorem Symbol.of_alphabet {p : UInt8 → Bool} (h : ∀ v : Fin 64, p (Base64.digit v) = true)
    (hpad : p Base64.pad = true) (hnewline : p Ascii.newline = true) {x : UInt8}
    (hx : Symbol x) : p x = true := by
  cases hx with
  | digit hv => exact h ⟨_, hv⟩
  | pad => exact hpad
  | newline => exact hnewline

/-! ### Encoding -/

/-- The first sextet of a group. -/
def sextet₁ (a : UInt8) : ℕ := a.toNat / 4

/-- The second sextet of a group. -/
def sextet₂ (a b : UInt8) : ℕ := a.toNat % 4 * 16 + b.toNat / 16

/-- The third sextet of a group. -/
def sextet₃ (b c : UInt8) : ℕ := b.toNat % 16 * 4 + c.toNat / 64

/-- The fourth sextet of a group. -/
def sextet₄ (c : UInt8) : ℕ := c.toNat % 64

/-- A full group. -/
def group (a b c : UInt8) : List UInt8 :=
  [digit (sextet₁ a), digit (sextet₂ a b), digit (sextet₃ b c), digit (sextet₄ c)]

/-- The data in lines of `perLine` groups, with `k` groups on the current line. -/
def encodeLines (perLine : ℕ) : ℕ → List UInt8 → List UInt8
  | k, a :: b :: c :: rest =>
    group a b c ++
      if k + 1 = perLine then newline :: encodeLines perLine 0 rest
      else encodeLines perLine (k + 1) rest
  | _, [a, b] => [digit (sextet₁ a), digit (sextet₂ a b), digit (sextet₃ b 0), pad, newline]
  | _, [a] => [digit (sextet₁ a), digit (sextet₂ a 0), pad, pad, newline]
  | 0, [] => []
  | _ + 1, [] => [newline]

/-- The first six bits of a group are an index of the alphabet. -/
theorem sextet₁_lt (a : UInt8) : sextet₁ a < 64 := by
  have ha := a.toNat_lt
  unfold sextet₁
  omega

/-- So are the second six. -/
theorem sextet₂_lt (a b : UInt8) : sextet₂ a b < 64 := by
  have hb := b.toNat_lt
  unfold sextet₂
  omega

/-- So are the third six. -/
theorem sextet₃_lt (b c : UInt8) : sextet₃ b c < 64 := by
  have hc := c.toNat_lt
  unfold sextet₃
  omega

/-- So are the last six. -/
theorem sextet₄_lt (c : UInt8) : sextet₄ c < 64 := by
  unfold sextet₄
  omega

/-- A whole group is written in symbols of the alphabet. -/
private theorem symbol_of_mem_group {a b c x : UInt8} (h : x ∈ group a b c) : Symbol x := by
  simp only [group, List.mem_cons, List.not_mem_nil, or_false] at h
  obtain rfl | rfl | rfl | rfl := h
  · exact .digit (sextet₁_lt a)
  · exact .digit (sextet₂_lt a b)
  · exact .digit (sextet₃_lt b c)
  · exact .digit (sextet₄_lt c)

variable {perLine k : ℕ} {data : List UInt8}

/-- **A text consists of symbols.** -/
theorem symbol_of_mem {x : UInt8} (h : x ∈ encodeLines perLine k data) : Symbol x := by
  induction k, data using encodeLines.induct with
  | case1 k a b c rest ihLine ih =>
    rw [encodeLines, List.mem_append] at h
    obtain h | h := h
    · exact symbol_of_mem_group h
    · split_ifs at h with hlast
      · obtain rfl | h := List.mem_cons.mp h
        · exact .newline
        · exact ihLine h
      · exact ih h
  | case2 k a b =>
    simp only [encodeLines, List.mem_cons, List.not_mem_nil, or_false] at h
    obtain rfl | rfl | rfl | rfl | rfl := h
    · exact .digit (sextet₁_lt a)
    · exact .digit (sextet₂_lt a b)
    · exact .digit (sextet₃_lt b 0)
    · exact .pad
    · exact .newline
  | case3 k a =>
    simp only [encodeLines, List.mem_cons, List.not_mem_nil, or_false] at h
    obtain rfl | rfl | rfl | rfl | rfl := h
    · exact .digit (sextet₁_lt a)
    · exact .digit (sextet₂_lt a 0)
    · exact .pad
    · exact .pad
    · exact .newline
  | case4 => exact absurd h List.not_mem_nil
  | case5 k =>
    rw [encodeLines, List.mem_singleton] at h
    exact h ▸ .newline

/-! ### Length -/

/-- The groups that `n` bytes fill. -/
def groups (n : ℕ) : ℕ := (n + 2) / 3

/-- The lines that `g` groups fill. -/
def lines (perLine g : ℕ) : ℕ := (g + (perLine - 1)) / perLine

/-- Groups that fit on one line make one line. -/
private theorem lines_eq_one {k : ℕ} (hk : k < perLine) : lines perLine (k + 1) = 1 := by
  rw [lines]
  exact Nat.div_eq_of_lt_le (by omega) (by omega)

/-- **The length of a text.** The groups on the current line are part of its first line. -/
theorem length_encodeLines (hk : k < perLine) :
    (encodeLines perLine k data).length =
      4 * groups data.length + lines perLine (k + groups data.length) := by
  have hpos : 0 < perLine := by omega
  induction k, data using encodeLines.induct with
  | case1 k a b c rest ihLine ih =>
    have hgroups : groups (a :: b :: c :: rest).length = groups rest.length + 1 := by
      simp only [groups, List.length_cons]
      omega
    rw [encodeLines, List.length_append, hgroups]
    split_ifs with hlast
    · -- the group ends its line
      have hlines : lines perLine (k + (groups rest.length + 1)) =
          lines perLine (0 + groups rest.length) + 1 := by
        rw [lines, lines, ← Nat.add_div_right _ hpos]
        congr 1
        omega
      rw [List.length_cons, ihLine hpos, hlines]
      simp only [group, List.length_cons, List.length_nil]
      omega
    · have hlines : k + (groups rest.length + 1) = k + 1 + groups rest.length := by omega
      rw [ih (by omega), hlines]
      simp only [group, List.length_cons, List.length_nil]
      omega
  | case2 k a b =>
    simp [encodeLines, groups, lines_eq_one hk]
  | case3 k a =>
    simp [encodeLines, groups, lines_eq_one hk]
  | case4 =>
    have hlines : lines perLine 0 = 0 := Nat.div_eq_of_lt (by omega)
    simp [encodeLines, groups, hlines]
  | case5 k =>
    simp [encodeLines, groups, lines_eq_one (Nat.lt_of_succ_lt hk)]

/-! ### Without lines -/

/-- The data in groups of four symbols. -/
def encode : List UInt8 → List UInt8
  | a :: b :: c :: rest => group a b c ++ encode rest
  | [a, b] => [digit (sextet₁ a), digit (sextet₂ a b), digit (sextet₃ b 0), pad]
  | [a] => [digit (sextet₁ a), digit (sextet₂ a 0), pad, pad]
  | [] => []

/-- The sextet of a symbol; other symbols count as zero. -/
def sextet (x : UInt8) : ℕ := ((List.range 64).find? fun v => digit v = x).getD 0

/-- The value of a digit is read back from it. -/
private theorem sextet_digit {v : ℕ} (h : v < 64) : sextet (digit v) = v := by
  have hall : ∀ v : Fin 64, sextet (digit v) = v := by decide
  exact hall ⟨v, h⟩

/-- No digit is the padding. -/
private theorem digit_notPad {v : ℕ} (h : v < 64) : digit v ≠ pad := by
  have hall : ∀ v : Fin 64, digit v ≠ pad := by decide
  exact hall ⟨v, h⟩

/-- The first byte of a group of four sextets. -/
def byteOf₁ (s t : ℕ) : UInt8 := UInt8.ofNat (s * 4 + t / 16)

/-- The second byte of a group of four sextets. -/
def byteOf₂ (t u : ℕ) : UInt8 := UInt8.ofNat (t % 16 * 16 + u / 4)

/-- The third byte of a group of four sextets. -/
def byteOf₃ (u v : ℕ) : UInt8 := UInt8.ofNat (u % 4 * 64 + v)

/-- The data of a text; it ends at the first padded group. -/
def decode : List UInt8 → List UInt8
  | s :: t :: u :: v :: rest =>
    if u = pad then [byteOf₁ (sextet s) (sextet t)]
    else if v = pad then
      [byteOf₁ (sextet s) (sextet t), byteOf₂ (sextet t) (sextet u)]
    else
      byteOf₁ (sextet s) (sextet t) :: byteOf₂ (sextet t) (sextet u) ::
        byteOf₃ (sextet u) (sextet v) :: decode rest
  | _ => []

/-- The first byte of a group is read back from its sextets. -/
private theorem byteOf₁_sextets (a b : UInt8) : byteOf₁ (sextet₁ a) (sextet₂ a b) = a := by
  have ha := a.toNat_lt
  have hb := b.toNat_lt
  have hval : sextet₁ a * 4 + sextet₂ a b / 16 = a.toNat := by
    unfold sextet₁ sextet₂
    omega
  rw [byteOf₁, hval, UInt8.ofNat_toNat]

/-- So is the second byte. -/
private theorem byteOf₂_sextets (a b c : UInt8) : byteOf₂ (sextet₂ a b) (sextet₃ b c) = b := by
  have hb := b.toNat_lt
  have hc := c.toNat_lt
  have hval : sextet₂ a b % 16 * 16 + sextet₃ b c / 4 = b.toNat := by
    unfold sextet₂ sextet₃
    omega
  rw [byteOf₂, hval, UInt8.ofNat_toNat]

/-- So is the third byte. -/
private theorem byteOf₃_sextets (b c : UInt8) : byteOf₃ (sextet₃ b c) (sextet₄ c) = c := by
  have hc := c.toNat_lt
  have hval : sextet₃ b c % 4 * 64 + sextet₄ c = c.toNat := by
    unfold sextet₃ sextet₄
    omega
  rw [byteOf₃, hval, UInt8.ofNat_toNat]

/-- The texts of padded groups: symbols in fours, the last group with up to two paddings. -/
inductive Padded : List UInt8 → Prop
  | nil : Padded []
  | one {s t : ℕ} (hs : s < 64) (ht : t < 64) : Padded [digit s, digit t, pad, pad]
  | two {s t u : ℕ} (hs : s < 64) (ht : t < 64) (hu : u < 64) :
      Padded [digit s, digit t, digit u, pad]
  | group {s t u v : ℕ} {rest : List UInt8} (hs : s < 64) (ht : t < 64) (hu : u < 64)
      (hv : v < 64) (hrest : Padded rest) :
      Padded (digit s :: digit t :: digit u :: digit v :: rest)

/-- An encoded text is made of whole groups, padded at the end only. -/
theorem padded_encode (data : List UInt8) : Padded (encode data) := by
  induction data using encode.induct with
  | case1 a b c rest ih =>
    exact .group (sextet₁_lt a) (sextet₂_lt a b) (sextet₃_lt b c) (sextet₄_lt c) ih
  | case2 a b => exact .two (sextet₁_lt a) (sextet₂_lt a b) (sextet₃_lt b 0)
  | case3 a => exact .one (sextet₁_lt a) (sextet₂_lt a 0)
  | case4 => exact .nil

/-- A group with two symbols of padding gives one byte. -/
theorem decode_one {s t : ℕ} (hs : s < 64) (ht : t < 64) :
    decode [digit s, digit t, pad, pad] = [byteOf₁ s t] := by
  rw [decode, if_pos rfl, sextet_digit hs, sextet_digit ht]

/-- A group with one symbol of padding gives two bytes. -/
theorem decode_two {s t u : ℕ} (hs : s < 64) (ht : t < 64) (hu : u < 64) :
    decode [digit s, digit t, digit u, pad] = [byteOf₁ s t, byteOf₂ t u] := by
  rw [decode, if_neg (digit_notPad hu), if_pos rfl, sextet_digit hs, sextet_digit ht,
    sextet_digit hu]

/-- A full group gives three bytes, and decoding goes on behind it. -/
theorem decode_group {s t u v : ℕ} (hs : s < 64) (ht : t < 64) (hu : u < 64) (hv : v < 64)
    (rest : List UInt8) :
    decode (digit s :: digit t :: digit u :: digit v :: rest) =
      byteOf₁ s t :: byteOf₂ t u :: byteOf₃ u v :: decode rest := by
  rw [decode, if_neg (digit_notPad hu), if_neg (digit_notPad hv), sextet_digit hs,
    sextet_digit ht, sextet_digit hu, sextet_digit hv]

/-- Something is decoded from a text that is not empty. -/
theorem Padded.decode_ne_nil {text : List UInt8} (h : Padded text) (hne : text ≠ []) :
    decode text ≠ [] := by
  cases h with
  | nil => exact absurd rfl hne
  | one hs ht => exact decode_one hs ht ▸ List.cons_ne_nil _ _
  | two hs ht hu => exact decode_two hs ht hu ▸ List.cons_ne_nil _ _
  | group hs ht hu hv hrest => exact decode_group hs ht hu hv _ ▸ List.cons_ne_nil _ _

/-- **A text without lines reads back.** -/
theorem decode_encode (data : List UInt8) : decode (encode data) = data := by
  induction data using encode.induct with
  | case1 a b c rest ih =>
    rw [encode, group, List.cons_append, List.cons_append, List.cons_append, List.cons_append,
      List.nil_append, decode_group (sextet₁_lt a) (sextet₂_lt a b) (sextet₃_lt b c)
      (sextet₄_lt c), byteOf₁_sextets, byteOf₂_sextets, byteOf₃_sextets, ih]
  | case2 a b =>
    rw [encode, decode_two (sextet₁_lt a) (sextet₂_lt a b) (sextet₃_lt b 0), byteOf₁_sextets,
      byteOf₂_sextets]
  | case3 a => rw [encode, decode_one (sextet₁_lt a) (sextet₂_lt a 0), byteOf₁_sextets]
  | case4 => rfl

end TboxSec.Base64
