import TboxSec.Certificates.Decoding

/-!
# Reading a canonical text again

What the parser makes of the text that the canonicalizer writes, which is the PEM text of some
certificates.

* **Decoding** (`base64Decode_pemBody`): the content of a block is the encoding of its data with
  ends of lines in it, and the decoder passes those by.
* **Scanning** (`scanBlocks_pemText`): a block ends where it was ended, because its content has
  no dash in it.
* **Parsing** (`parse_pemText`): of the rules for chains, the length of the text and the role of
  the leaf are all that an accepted chain can still break.

`parse_pemText` is what a store relies on that writes the canonical text and reads it back later:
`OpenSsl.canonicalSize` is the length of the text, so whether it is too long can be said of the
certificates alone.
-/

namespace TboxSec.Certificates

open Ascii (dash newline)
open Base64 (encodeLines Symbol)

/-! ### Decoding -/

/-- No symbol of the alphabet is space. -/
private theorem isAsciiSpace_digit {v : ℕ} (h : v < 64) :
    isAsciiSpace (Base64.digit v) = false := by
  have hall : ∀ v : Fin 64, isAsciiSpace (Base64.digit v) = false := by decide
  exact hall ⟨v, h⟩

private theorem strip_group (a b c : UInt8) : strip (Base64.group a b c) = Base64.group a b c := by
  simp only [Base64.group, strip_cons_of_ne (isAsciiSpace_digit (Base64.sextet₁_lt a)),
    strip_cons_of_ne (isAsciiSpace_digit (Base64.sextet₂_lt a b)),
    strip_cons_of_ne (isAsciiSpace_digit (Base64.sextet₃_lt b c)),
    strip_cons_of_ne (isAsciiSpace_digit (Base64.sextet₄_lt c))]
  rfl

private theorem strip_newline (text : Bytes) : strip (newline :: text) = strip text :=
  strip_cons_of_space (by decide) text

/-- Without the ends of its lines a text is one line. -/
private theorem strip_encodeLines (perLine k : ℕ) (data : Bytes) :
    strip (encodeLines perLine k data) = Base64.encode data := by
  induction k, data using Base64.encodeLines.induct with
  | case1 k a b c rest ihLine ih =>
    rw [encodeLines, strip_append, strip_group, Base64.encode]
    split_ifs with hlast
    · rw [strip_newline, ihLine]
    · rw [ih]
  | case2 k a b =>
    simp only [encodeLines, Base64.encode,
      strip_cons_of_ne (isAsciiSpace_digit (Base64.sextet₁_lt a)),
      strip_cons_of_ne (isAsciiSpace_digit (Base64.sextet₂_lt a b)),
      strip_cons_of_ne (isAsciiSpace_digit (Base64.sextet₃_lt b 0))]
    rfl
  | case3 k a =>
    simp only [encodeLines, Base64.encode,
      strip_cons_of_ne (isAsciiSpace_digit (Base64.sextet₁_lt a)),
      strip_cons_of_ne (isAsciiSpace_digit (Base64.sextet₂_lt a 0))]
    rfl
  | case4 => rfl
  | case5 k =>
    rw [encodeLines, strip_newline]
    rfl

/-- **The content of a block is its certificate.** -/
theorem base64Decode_pemBody {der : Bytes} (h : der ≠ []) :
    base64Decode (newline :: pemBody der) = some der := by
  refine base64Decode_of_loop h (base64Loop_of_strip 0 ?_)
  rw [strip_newline, pemBody, strip_encodeLines]

/-! ### Scanning -/

theorem kBeginCert_eq : kBeginCert = dash :: kBeginCert.tail := by decide

theorem kEndCert_eq : kEndCert = dash :: kEndCert.tail := by decide

/-- A text that a reader searches is found behind bytes that do not begin it. -/
theorem breakOn_append {x : UInt8} {pat content rest : Bytes} (h : x ∉ content) :
    breakOn (x :: pat) (content ++ (x :: pat ++ rest)) = some (content, rest) := by
  induction content with
  | nil =>
    have hp : x :: pat <+: x :: (pat ++ rest) := List.prefix_append (x :: pat) rest
    rw [List.nil_append, List.cons_append, breakOn, if_pos hp]
    simp
  | cons c content ih =>
    obtain ⟨hc, hcontent⟩ : x ≠ c ∧ x ∉ content := by simpa using h
    have hno : ¬ x :: pat <+: c :: (content ++ (x :: pat ++ rest)) := by
      intro hp
      exact hc (List.cons_prefix_cons.mp hp).1
    rw [List.cons_append, breakOn, if_neg hno, ih hcontent]
    rfl

private theorem dash_notMem_pemBody (der : Bytes) : dash ∉ newline :: pemBody der := by
  intro hmem
  obtain heq | hbody := List.mem_cons.mp hmem
  · exact absurd heq (by decide)
  · have hsymbol : (dash != dash) = true :=
      Symbol.of_alphabet (p := (· != dash)) (by decide) (by decide) (by decide)
        (Base64.symbol_of_mem hbody)
    simp at hsymbol

private theorem all_pemBody (der : Bytes) :
    ((newline :: pemBody der).all fun c => isBase64Char c || isAsciiSpace c) = true := by
  rw [List.all_cons, Bool.and_eq_true, List.all_eq_true]
  refine ⟨by decide, fun c hc => ?_⟩
  exact Symbol.of_alphabet (p := fun c => isBase64Char c || isAsciiSpace c) (by decide)
    (by decide) (by decide) (Base64.symbol_of_mem hc)

theorem dropWhile_kBeginCert (rest : Bytes) :
    (kBeginCert ++ rest).dropWhile isAsciiSpace = kBeginCert ++ rest := by
  rw [kBeginCert_eq, List.cons_append, List.dropWhile_cons_of_neg (by decide)]

/-- The scan of a text that is not only space. -/
theorem scanBlocks_of_breakOn {maxCertificates count : ℕ} {data body content rest : Bytes}
    (hdata : data.dropWhile isAsciiSpace = kBeginCert ++ body)
    (hbreak : breakOn kEndCert body = some (content, rest))
    (hcontent : (content.all fun c => isBase64Char c || isAsciiSpace c) = true)
    (hcount : count + 1 ≤ maxCertificates) :
    scanBlocks maxCertificates count data =
      (scanBlocks maxCertificates (count + 1) rest).map (content :: ·) := by
  have hne : data.dropWhile isAsciiSpace ≠ [] := by
    rw [hdata, kBeginCert_eq]
    exact List.cons_ne_nil _ _
  have hprefix : kBeginCert <+: data.dropWhile isAsciiSpace := hdata ▸ List.prefix_append _ _
  have hdrop : (data.dropWhile isAsciiSpace).drop kBeginCert.length = body := by
    rw [hdata, List.drop_left]
  rw [scanBlocks, dif_neg hne, if_neg (not_not.mpr hprefix)]
  split
  · next hnone =>
    rw [hdrop, hbreak] at hnone
    cases hnone
  · next content' rest' hsome =>
    rw [hdrop, hbreak] at hsome
    obtain ⟨rfl, rfl⟩ := Prod.mk.inj (Option.some.inj hsome)
    rw [if_neg (not_not.mpr hcontent), if_neg (Nat.not_lt.mpr hcount)]

/-- The scan does not see leading space. -/
private theorem scanBlocks_congr {data data' : Bytes}
    (h : data.dropWhile isAsciiSpace = data'.dropWhile isAsciiSpace) (maxCertificates count : ℕ) :
    scanBlocks maxCertificates count data = scanBlocks maxCertificates count data' := by
  rw [scanBlocks, scanBlocks, h]

/-- **One block.** -/
theorem scanBlocks_pemBlock {maxCertificates count : ℕ} (der rest : Bytes)
    (h : count + 1 ≤ maxCertificates) :
    scanBlocks maxCertificates count (pemBlock der ++ rest) =
      (scanBlocks maxCertificates (count + 1) rest).map ((newline :: pemBody der) :: ·) := by
  have htext : pemBlock der ++ rest =
      kBeginCert ++ ((newline :: pemBody der) ++ (kEndCert ++ newline :: rest)) := by
    simp [pemBlock]
  have hdata : (pemBlock der ++ rest).dropWhile isAsciiSpace =
      kBeginCert ++ ((newline :: pemBody der) ++ (kEndCert ++ newline :: rest)) := by
    rw [htext, dropWhile_kBeginCert]
  have hbreak : breakOn kEndCert ((newline :: pemBody der) ++ (kEndCert ++ newline :: rest)) =
      some (newline :: pemBody der, newline :: rest) := by
    rw [kEndCert_eq]
    exact breakOn_append (dash_notMem_pemBody der)
  have hspace : (newline :: rest).dropWhile isAsciiSpace = rest.dropWhile isAsciiSpace :=
    List.dropWhile_cons_of_pos (by decide)
  rw [scanBlocks_of_breakOn hdata hbreak (all_pemBody der) h, scanBlocks_congr hspace]

variable {X509 : Type} {O : OpenSsl X509} {X : Crypto}

/-- **The blocks of a canonical text** are those of its certificates. -/
theorem scanBlocks_pemText {maxCertificates count : ℕ} {certs : List X509}
    (h : count + certs.length ≤ maxCertificates) :
    scanBlocks maxCertificates count (O.pemText certs) =
      .ok (certs.map fun c => newline :: pemBody (O.i2d c)) := by
  induction certs generalizing count with
  | nil =>
    rw [scanBlocks]
    rfl
  | cons c certs ih =>
    rw [List.length_cons] at h
    have htext : O.pemText (c :: certs) = pemBlock (O.i2d c) ++ O.pemText certs :=
      List.flatMap_cons
    rw [htext, scanBlocks_pemBlock _ _ (by omega), ih (by omega)]
    rfl

/-! ### Sizes -/

private theorem length_kEndCert : kEndCert.length = 25 := by decide

/-- The length of the text of a certificate with `n` bytes: the header, the footer, four
symbols for three bytes and the ends of the lines. -/
def pemSize (n : ℕ) : ℕ := 54 + 4 * ((n + 2) / 3) + ((n + 2) / 3 + 15) / 16

private theorem length_pemBlock (der : Bytes) : (pemBlock der).length = pemSize der.length := by
  rw [pemBlock, List.length_append, List.length_append, List.length_append, List.length_cons,
    length_kBeginCert, length_kEndCert, pemBody, Base64.length_encodeLines (by decide)]
  simp only [pemSize, Base64.groups, Base64.lines, List.length_cons, List.length_nil, zero_add]
  omega

/-- The length of the canonical text of some certificates. -/
def OpenSsl.canonicalSize (O : OpenSsl X509) (certs : List X509) : ℕ :=
  (certs.map fun c => pemSize (O.i2d c).length).sum

theorem length_pemText (certs : List X509) : (O.pemText certs).length = O.canonicalSize certs := by
  rw [OpenSsl.pemText, List.length_flatMap, OpenSsl.canonicalSize]
  simp only [length_pemBlock]

/-! ### Parsing -/

/-- What the checks of a chain have found. -/
theorem of_pemChain {first : Bytes} {certs : List X509} {chain : ParsedCertificateChain X509}
    (h : O.pemChain X first certs = .ok chain) :
    chain.certs = certs ∧ O.isCaCert chain.leaf = false ∧
      (∀ c ∈ chain.intermediates, O.isCaCert c = true ∧ O.isVerifiableSelfSigned c = false) ∧
      chain.certDerSha256 = chain.certs.map (O.derSha256 X) ∧ chain.certDerSha256.Nodup := by
  cases certs with
  | nil => exact nomatch h
  | cons leaf intermediates =>
    unfold OpenSsl.pemChain at h
    dsimp only at h
    split_ifs at h with hshape hnodup
    obtain rfl := Except.ok.inj h
    rw [OpenSsl.shapely, Bool.and_eq_true, Bool.not_eq_true', List.all_eq_true] at hshape
    obtain ⟨hleaf, hroles⟩ := hshape
    refine ⟨rfl, hleaf, fun c hc => ?_, rfl, hnodup⟩
    simpa using hroles c hc

/-- The parts of a successful `parsePemChain`. -/
theorem of_parsePemChain {limits : CertificateChainLimits} {payload : Bytes}
    {chain : ParsedCertificateChain X509} (h : O.parsePemChain X payload limits = .ok chain) :
    ∃ blocks, scanBlocks limits.maxCertificates 0 payload = .ok blocks ∧
      (O.readPem payload).length ≤ limits.maxCertificates ∧
      (O.readPem payload).length = blocks.length ∧
      O.pemChain X (blocks.headD []) (O.readPem payload) = .ok chain := by
  unfold OpenSsl.parsePemChain at h
  cases hscan : scanBlocks limits.maxCertificates 0 payload with
  | error stage =>
    rw [hscan] at h
    exact nomatch h
  | ok blocks =>
    rw [hscan] at h
    change (if _ then _ else if _ then _ else _) = _ at h
    split_ifs at h with hcount hlength
    exact ⟨blocks, rfl, Nat.not_lt.mp hcount, not_not.mp hlength, h⟩

variable (O X) in
/-- What holds of an accepted chain, in either format. -/
structure Accepted (limits : CertificateChainLimits) (chain : ParsedCertificateChain X509) :
    Prop where
  count : chain.certs.length ≤ limits.maxCertificates
  roles : (chain.intermediates.all fun c => O.isCaCert c && !O.isVerifiableSelfSigned c) = true
  digests : chain.certDerSha256 = chain.certs.map (O.derSha256 X)
  nodup : chain.certDerSha256.Nodup

/-- **What the parser accepts.** -/
theorem accepted_of_parse {limits : CertificateChainLimits} {payload : Bytes}
    {chain : ParsedCertificateChain X509} (hone : 1 ≤ limits.maxCertificates)
    (h : O.parse X payload limits = .ok chain) : Accepted O X limits chain := by
  unfold OpenSsl.parse at h
  dsimp only at h
  split_ifs at h with hsize hspace hpem
  · obtain ⟨blocks, -, hcount, -, hchain⟩ := of_parsePemChain h
    obtain ⟨hcerts, -, hroles, hdigests, hnodup⟩ := of_pemChain hchain
    refine ⟨hcerts ▸ hcount, List.all_eq_true.mpr fun c hc => ?_, hdigests, hnodup⟩
    rw [Bool.and_eq_true, Bool.not_eq_true']
    exact hroles c hc
  · -- a single certificate
    unfold OpenSsl.parseDerSingle at h
    dsimp only at h
    cases hd2i : O.d2i (payload.dropWhile isAsciiSpace) with
    | none =>
      rw [hd2i] at h
      exact nomatch h
    | some read =>
      obtain ⟨cert, rest⟩ := read
      rw [hd2i] at h
      dsimp only at h
      split_ifs at h with hrest
      obtain rfl := Except.ok.inj h
      exact
        { count := hone, roles := rfl, digests := rfl
          nodup := List.nodup_cons.mpr ⟨List.not_mem_nil, List.nodup_nil⟩ }

/-- The chain path reads a canonical text as the certificates it was written from. -/
theorem parsePemChain_pemText (hO : O.Lawful) {limits : CertificateChainLimits}
    {cert : X509} {certs : List X509} (hcount : (cert :: certs).length ≤ limits.maxCertificates) :
    O.parsePemChain X (O.pemText (cert :: certs)) limits =
      O.pemChain X (newline :: pemBody (O.i2d cert)) (cert :: certs) := by
  have hscan : scanBlocks limits.maxCertificates 0 (O.pemText (cert :: certs)) =
      .ok ((cert :: certs).map fun c => newline :: pemBody (O.i2d c)) :=
    scanBlocks_pemText (by rw [zero_add]; exact hcount)
  unfold OpenSsl.parsePemChain
  rw [hscan]
  change (if _ then _ else if _ then _ else _) = _
  rw [hO.readPem_pemText, if_neg (Nat.not_lt.mpr hcount), List.length_map, if_neg (not_not.mpr rfl)]
  rfl

/-- **The canonical text under the same limits.** -/
theorem parse_pemText (hO : O.Lawful) {limits : CertificateChainLimits}
    {chain : ParsedCertificateChain X509} (h : Accepted O X limits chain) :
    O.parse X (O.pemText chain.certs) limits =
      if limits.maxPayloadBytes < O.canonicalSize chain.certs then .error .sizeLimit
      else if O.isCaCert chain.leaf then .error .chainShape
      else .ok
        { format := .pemChain, leaf := chain.leaf, intermediates := chain.intermediates
          certDerSha256 := chain.certDerSha256
          leafDerOriginalSha256 := O.derSha256 X chain.leaf } := by
  have htext : O.pemText chain.certs =
      kBeginCert ++ ((newline :: pemBody (O.i2d chain.leaf)) ++
        (kEndCert ++ newline :: O.pemText chain.intermediates)) := by
    simp [OpenSsl.pemText, ParsedCertificateChain.certs, pemBlock]
  have hspace : (O.pemText chain.certs).dropWhile isAsciiSpace = O.pemText chain.certs := by
    rw [htext, dropWhile_kBeginCert]
  have hne : O.pemText chain.certs ≠ [] := by
    rw [htext, kBeginCert_eq]
    exact List.cons_ne_nil _ _
  have hpem : kBeginCert <+: O.pemText chain.certs := htext ▸ List.prefix_append _ _
  have hshapely : O.shapely chain.leaf chain.intermediates = !O.isCaCert chain.leaf := by
    rw [OpenSsl.shapely, h.roles, Bool.and_true]
  have hnodup : ((chain.leaf :: chain.intermediates).map (O.derSha256 X)).Nodup :=
    h.digests ▸ h.nodup
  have hread : O.parsePemChain X (O.pemText chain.certs) limits =
      O.pemChain X (newline :: pemBody (O.i2d chain.leaf)) chain.certs :=
    parsePemChain_pemText hO h.count
  have hdecode := base64Decode_pemBody (hO.i2d_ne_nil chain.leaf)
  unfold OpenSsl.parse
  rw [length_pemText, hspace, if_neg hne, if_pos hpem, hread]
  split_ifs with hsize hca
  · rfl
  · unfold OpenSsl.pemChain ParsedCertificateChain.certs
    dsimp only
    rw [hshapely, hca, if_pos (by decide)]
  · unfold OpenSsl.pemChain ParsedCertificateChain.certs
    rw [Bool.not_eq_true] at hca
    dsimp only
    rw [hshapely, hca, if_neg (by decide), if_neg (not_not.mpr hnodup), hdecode, h.digests]
    rfl

end TboxSec.Certificates
