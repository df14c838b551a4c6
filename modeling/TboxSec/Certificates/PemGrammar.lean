import TboxSec.Certificates.Bench

/-!
# The texts that the scanner accepts

A chain is space and blocks: the header, symbols of Base64 with space between them, the footer,
and space again.

* `PemText`: a text with the contents of its blocks, in order.
* `scanBlocks_eq_ok_iff`: the scanner accepts the texts of at most so many blocks, and finds
  their contents. What makes the first footer the right one is that no content has a dash.
* `pem_scanner_exact`: so an accepted chain has one certificate for each block, in their order,
  if the library reads the blocks one after the other.
-/

namespace TboxSec.Certificates

open Ascii (dash)

/-! ### The grammar -/

/-- What a content consists of: the symbols of Base64, the padding and space. -/
def ContentByte (c : UInt8) : Prop :=
  ((∃ v < 64, c = Base64.digit v) ∨ c = Base64.pad) ∨ isAsciiSpace c = true

/-- Blocks, each with space behind it. -/
inductive PemBlocks : List Bytes → Bytes → Prop
  | none : PemBlocks [] []
  | block {content space rest : Bytes} {blocks : List Bytes}
      (hcontent : ∀ c ∈ content, ContentByte c) (hspace : ∀ c ∈ space, isAsciiSpace c = true)
      (hrest : PemBlocks blocks rest) :
      PemBlocks (content :: blocks) (kBeginCert ++ content ++ kEndCert ++ space ++ rest)

/-- Space, and blocks behind it. -/
def PemText (blocks : List Bytes) (text : Bytes) : Prop :=
  ∃ space rest, (∀ c ∈ space, isAsciiSpace c = true) ∧ PemBlocks blocks rest ∧
    text = space ++ rest

/-- `isBase64Char` knows the alphabet. -/
private theorem isBase64Char_iff {c : UInt8} :
    isBase64Char c = true ↔ (∃ v < 64, c = Base64.digit v) ∨ c = Base64.pad := by
  have hall : ((List.range 256).all fun k =>
      isBase64Char (UInt8.ofNat k) ==
        ((List.range 64).any (fun v => UInt8.ofNat k == Base64.digit v) ||
          UInt8.ofNat k == Base64.pad)) = true := by decide +kernel
  have hc := List.all_eq_true.mp hall c.toNat (List.mem_range.mpr c.toNat_lt)
  rw [UInt8.ofNat_toNat] at hc
  rw [eq_of_beq hc, Bool.or_eq_true, List.any_eq_true, beq_iff_eq]
  simp only [List.mem_range, beq_iff_eq]

private theorem contentByte_iff {c : UInt8} :
    ContentByte c ↔ (isBase64Char c || isAsciiSpace c) = true := by
  rw [Bool.or_eq_true, isBase64Char_iff]
  rfl

private theorem all_contentByte {content : Bytes} :
    (content.all fun c => isBase64Char c || isAsciiSpace c) = true ↔
      ∀ c ∈ content, ContentByte c := by
  rw [List.all_eq_true]
  exact forall₂_congr fun c _ => contentByte_iff.symm

private theorem not_contentByte_dash : ¬ ContentByte dash := by
  rw [contentByte_iff]
  decide

/-! ### The scanner -/

/-- What is searched for stands between what is before it and what is behind it. -/
private theorem eq_of_breakOn {pat text content rest : Bytes}
    (h : breakOn pat text = some (content, rest)) : text = content ++ pat ++ rest := by
  induction text generalizing content with
  | nil =>
    unfold breakOn at h
    split_ifs at h with hpat
    obtain ⟨rfl, rfl⟩ := Prod.mk.inj (Option.some.inj h)
    rw [hpat]
    rfl
  | cons c text ih =>
    unfold breakOn at h
    split_ifs at h with hp
    · obtain ⟨rfl, rfl⟩ := Prod.mk.inj (Option.some.inj h)
      obtain ⟨rest, hrest⟩ := hp
      rw [← hrest, List.drop_left]
      rfl
    · obtain ⟨⟨content', rest'⟩, htext, heq⟩ := Option.map_eq_some_iff.mp h
      obtain ⟨rfl, rfl⟩ := Prod.mk.inj heq
      rw [ih htext]
      rfl

private theorem dropWhile_space {space rest : Bytes} (h : ∀ c ∈ space, isAsciiSpace c = true) :
    (space ++ rest).dropWhile isAsciiSpace = rest.dropWhile isAsciiSpace := by
  induction space with
  | nil => rfl
  | cons c space ih =>
    obtain ⟨hc, hspace⟩ := List.forall_mem_cons.mp h
    rw [List.cons_append, List.dropWhile_cons_of_pos hc, ih hspace]

/-- **Completeness**: the blocks of a text are found, if there are not too many. -/
theorem scanBlocks_of_pemBlocks {maxCertificates count : ℕ} {blocks : List Bytes}
    {space rest : Bytes} (hspace : ∀ c ∈ space, isAsciiSpace c = true)
    (h : PemBlocks blocks rest) (hcount : count + blocks.length ≤ maxCertificates) :
    scanBlocks maxCertificates count (space ++ rest) = .ok blocks := by
  induction h generalizing count space with
  | none =>
    have hdata : (space ++ []).dropWhile isAsciiSpace = [] := by
      rw [dropWhile_space hspace]
      rfl
    rw [scanBlocks, dif_pos hdata]
  | @block content behind rest blocks hcontent hbehind _ ih =>
    rw [List.length_cons] at hcount
    have hdata : (space ++ (kBeginCert ++ content ++ kEndCert ++ behind ++ rest)).dropWhile
        isAsciiSpace = kBeginCert ++ (content ++ (kEndCert ++ (behind ++ rest))) := by
      rw [dropWhile_space hspace]
      simp only [List.append_assoc, dropWhile_kBeginCert]
    have hbreak : breakOn kEndCert (content ++ (kEndCert ++ (behind ++ rest))) =
        some (content, behind ++ rest) := by
      have hdash : dash ∉ content := fun hmem => not_contentByte_dash (hcontent dash hmem)
      rw [kEndCert_eq]
      exact breakOn_append hdash
    rw [scanBlocks_of_breakOn hdata hbreak (all_contentByte.mpr hcontent) (by omega),
      ih hbehind (by omega)]
    rfl

/-- The text behind its leading space. -/
private theorem exists_space (data : Bytes) :
    ∃ space, (∀ c ∈ space, isAsciiSpace c = true) ∧ data = space ++ data.dropWhile isAsciiSpace :=
  ⟨data.takeWhile isAsciiSpace, fun _ hc => List.mem_takeWhile_imp hc,
    List.takeWhile_append_dropWhile.symm⟩

/-- What one round of the scanner has seen. -/
theorem scanBlocks_cases {maxCertificates count : ℕ} {data : Bytes} {blocks : List Bytes}
    (h : scanBlocks maxCertificates count data = .ok blocks) :
    (data.dropWhile isAsciiSpace = [] ∧ blocks = []) ∨
      ∃ content rest blocks',
        data.dropWhile isAsciiSpace = kBeginCert ++ (content ++ kEndCert ++ rest) ∧
        (∀ c ∈ content, ContentByte c) ∧ count + 1 ≤ maxCertificates ∧
        scanBlocks maxCertificates (count + 1) rest = .ok blocks' ∧
        blocks = content :: blocks' := by
  by_cases hdata : data.dropWhile isAsciiSpace = []
  · rw [scanBlocks, dif_pos hdata] at h
    exact .inl ⟨hdata, (Except.ok.inj h).symm⟩
  by_cases hbegin : kBeginCert <+: data.dropWhile isAsciiSpace
  swap
  · rw [scanBlocks, dif_neg hdata, if_pos hbegin] at h
    cases h
  rw [scanBlocks, dif_neg hdata, if_neg (not_not.mpr hbegin)] at h
  split at h
  · cases h
  · rename_i content rest hbreak
    obtain ⟨body, hbody⟩ := hbegin
    rw [← hbody, List.drop_left] at hbreak
    split_ifs at h with hcontent hcount
    cases hrest : scanBlocks maxCertificates (count + 1) rest with
    | error stage =>
      rw [hrest] at h
      cases h
    | ok blocks' =>
      rw [hrest] at h
      obtain rfl := Except.ok.inj h
      exact .inr ⟨content, rest, blocks', by rw [← hbody, eq_of_breakOn hbreak],
        all_contentByte.mp hcontent, Nat.not_lt.mp hcount, hrest, rfl⟩

/-- **Soundness**: what is accepted is a text of the blocks that are found. -/
theorem pemText_of_scanBlocks {maxCertificates : ℕ} {blocks : List Bytes} :
    ∀ {count : ℕ} {data : Bytes}, scanBlocks maxCertificates count data = .ok blocks →
      PemText blocks data ∧ (blocks ≠ [] → count + blocks.length ≤ maxCertificates) := by
  induction blocks with
  | nil =>
    intro count data h
    obtain ⟨hdata, -⟩ | ⟨_, _, _, -, -, -, -, hno⟩ := scanBlocks_cases h
    · obtain ⟨space, hspace, hsplit⟩ := exists_space data
      exact ⟨⟨space, [], hspace, .none, hdata ▸ hsplit⟩, fun hno => absurd rfl hno⟩
    · exact nomatch hno
  | cons content blocks ih =>
    intro count data h
    obtain ⟨-, hno⟩ | ⟨_, rest, _, hdata, hcontent, hcount, hrest, heq⟩ := scanBlocks_cases h
    · exact nomatch hno
    · obtain ⟨rfl, rfl⟩ := List.cons.inj heq
      obtain ⟨space, hspace, hsplit⟩ := exists_space data
      obtain ⟨⟨behind, tail, hbehind, htail, rfl⟩, hlen⟩ := ih hrest
      refine ⟨⟨space, _, hspace, .block hcontent hbehind htail, ?_⟩, fun _ => ?_⟩
      · rw [hsplit, hdata]
        simp only [List.append_assoc]
      · rw [List.length_cons]
        rcases blocks with - | ⟨b, blocks⟩
        · exact hcount
        · have := hlen (List.cons_ne_nil _ _)
          omega

/-- **The scanner accepts exactly its grammar**, and finds the contents of the blocks. -/
theorem scanBlocks_eq_ok_iff {maxCertificates : ℕ} {data : Bytes} {blocks : List Bytes} :
    scanBlocks maxCertificates 0 data = .ok blocks ↔
      PemText blocks data ∧ blocks.length ≤ maxCertificates := by
  constructor
  · intro h
    obtain ⟨htext, hlen⟩ := pemText_of_scanBlocks h
    refine ⟨htext, ?_⟩
    rcases blocks with - | ⟨b, blocks⟩
    · exact Nat.zero_le _
    · simpa using hlen (List.cons_ne_nil _ _)
  · rintro ⟨⟨space, rest, hspace, hblocks, rfl⟩, hlen⟩
    exact scanBlocks_of_pemBlocks hspace hblocks (by rwa [zero_add])

/-- A text has one reading. -/
theorem PemText.unique {text : Bytes} {blocks blocks' : List Bytes} (h : PemText blocks text)
    (h' : PemText blocks' text) : blocks = blocks' := by
  have hscan := scanBlocks_eq_ok_iff.mpr ⟨h, le_max_left blocks.length blocks'.length⟩
  have hscan' := scanBlocks_eq_ok_iff.mpr ⟨h', le_max_right blocks.length blocks'.length⟩
  exact Except.ok.inj (hscan.symm.trans hscan')

/-! ### Certificates for blocks -/

variable {X509 : Type} {O : OpenSsl X509} {X : Crypto}

/-- The certificates of the blocks, up to the first block that has none. -/
def certsOf (decode : Bytes → Option X509) : List Bytes → List X509
  | [] => []
  | content :: blocks => (decode content).elim [] (· :: certsOf decode blocks)

/-- As many certificates as blocks: one for each. -/
theorem forall₂_certsOf {decode : Bytes → Option X509} {blocks : List Bytes}
    (h : (certsOf decode blocks).length = blocks.length) :
    List.Forall₂ (fun content cert => decode content = some cert) blocks
      (certsOf decode blocks) := by
  induction blocks with
  | nil => exact .nil
  | cons content blocks ih =>
    cases hdecode : decode content with
    | none =>
      rw [certsOf, hdecode] at h
      exact nomatch h
    | some cert =>
      rw [certsOf, hdecode] at h ⊢
      exact .cons hdecode (ih (Nat.succ.inj h))

/-- **The scanner is exact.** A text passes it exactly when it is a text of the grammar with at
most as many blocks as are allowed. An accepted chain has one certificate for each block, in
order, if the library reads the blocks in order up to the first without a certificate; it is
not empty and not too long, its first certificate is no CA, the others are and are not signed
by themselves, and no digest occurs twice. -/
theorem pem_scanner_exact (O : OpenSsl X509) (X : Crypto) (payload : Bytes)
    (limits : CertificateChainLimits) (decode : Bytes → Option X509)
    (hread : ∀ blocks, PemText blocks payload → O.readPem payload = certsOf decode blocks) :
    ((∃ blocks, scanBlocks limits.maxCertificates 0 payload = .ok blocks) ↔
      ∃ blocks, PemText blocks payload ∧ blocks.length ≤ limits.maxCertificates) ∧
    ∀ chain, O.parsePemChain X payload limits = .ok chain →
      ∃ blocks, PemText blocks payload ∧
        List.Forall₂ (fun content cert => decode content = some cert) blocks chain.certs ∧
        1 ≤ chain.certs.length ∧ chain.certs.length ≤ limits.maxCertificates ∧
        O.isCaCert chain.leaf = false ∧
        (∀ c ∈ chain.intermediates, O.isCaCert c = true ∧ O.isVerifiableSelfSigned c = false) ∧
        chain.certDerSha256 = chain.certs.map (O.derSha256 X) ∧ chain.certDerSha256.Nodup := by
  refine ⟨exists_congr fun blocks => scanBlocks_eq_ok_iff, fun chain h => ?_⟩
  obtain ⟨blocks, hscan, hcount, hlength, hchain⟩ := of_parsePemChain h
  obtain ⟨htext, -⟩ := scanBlocks_eq_ok_iff.mp hscan
  obtain ⟨hcerts, hleaf, hroles, hdigests, hnodup⟩ := of_pemChain hchain
  have hone : 1 ≤ chain.certs.length := Nat.succ_pos _
  rw [hread blocks htext] at hcerts hcount hlength
  have hblocks := forall₂_certsOf hlength
  exact ⟨blocks, htext, hcerts ▸ hblocks, hone, hcerts ▸ hcount, hleaf, hroles, hdigests, hnodup⟩

/-- The bench with a CA, the certificate `30 00`. -/
def caBench : OpenSsl BenchCert :=
  { bench with basicConstraints := fun c => some (c.val == [0x30, 0]) }

private theorem lawful_caBench : caBench.Lawful where
  i2d_ne_nil := lawful_bench.i2d_ne_nil
  writePem_eq := lawful_bench.writePem_eq
  readPem_pemText := lawful_bench.readPem_pemText

/-- A leaf and a CA behind it. -/
def benchPair : List BenchCert := [⟨[0x30, 1, 5], by decide⟩, ⟨[0x30, 0], by decide⟩]

/-- The contents of their blocks. -/
def benchBlocks : List Bytes := benchPair.map fun c => Ascii.newline :: pemBody c.val

/-- The text of the two certificates is accepted, and they are those of its two blocks. -/
theorem pem_scanner_exact_pair :
    ∃ blocks, PemText blocks (caBench.pemText benchPair) ∧
      List.Forall₂ (fun content cert => readBlock content = some cert) blocks benchPair := by
  have hscan : scanBlocks (0 + benchPair.length) 0 (caBench.pemText benchPair) = .ok benchBlocks :=
    scanBlocks_pemText (le_refl _)
  have htext : PemText benchBlocks (caBench.pemText benchPair) := (scanBlocks_eq_ok_iff.mp hscan).1
  have hread : ∀ blocks, PemText blocks (caBench.pemText benchPair) →
      caBench.readPem (caBench.pemText benchPair) = certsOf readBlock blocks := by
    intro blocks hblocks
    rw [hblocks.unique htext, lawful_caBench.readPem_pemText]
    decide +kernel
  have hparse : caBench.parsePemChain Tls.exampleLibrary.crypto (caBench.pemText benchPair) {} =
      caBench.pemChain Tls.exampleLibrary.crypto
        (Ascii.newline :: pemBody [0x30, 1, 5]) benchPair :=
    parsePemChain_pemText lawful_caBench (by decide)
  have hok : (caBench.pemChain Tls.exampleLibrary.crypto
      (Ascii.newline :: pemBody [0x30, 1, 5]) benchPair).toOption.isSome = true := by
    decide +kernel
  cases hchain : caBench.pemChain Tls.exampleLibrary.crypto
      (Ascii.newline :: pemBody [0x30, 1, 5]) benchPair with
  | error stage =>
    rw [hchain] at hok
    exact nomatch hok
  | ok chain =>
    obtain ⟨hcerts, -⟩ := of_pemChain hchain
    obtain ⟨blocks, hblocks, hforall, -⟩ :=
      (pem_scanner_exact caBench Tls.exampleLibrary.crypto (caBench.pemText benchPair) {} readBlock
        hread).2 chain (hparse.trans hchain)
    exact ⟨blocks, hblocks, hcerts ▸ hforall⟩

end TboxSec.Certificates
