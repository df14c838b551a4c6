import TboxSec.Certificates.PemGrammar

/-!
# The digest of the received leaf

The parser digests the leaf as it was received. On the chain path this is what the first block
holds. On the DER path the end of the certificate is not taken from `d2i_X509`, which has found
it, but found again by cutting space off the end of the payload; and the last byte of a
certificate is as good as any other byte.

* `ReceivedLeaf`: the bytes of the leaf in an accepted payload.
* `digest_derSingle`, `digest_pemChain`: what is digested on the two paths.
* `leaf_digest_received`: so the digest is that of the received bytes unless they are a single
  DER certificate that ends in a byte with the value of a space.
-/

namespace TboxSec.Certificates

variable {X509 : Type} {O : OpenSsl X509} {X : Crypto} {payload der : Bytes}
  {limits : CertificateChainLimits} {chain : ParsedCertificateChain X509}
  {decode : Bytes → Option X509}

/-- What is relied on when a payload is read. -/
structure OpenSsl.ReadsInput (O : OpenSsl X509) (decode : Bytes → Option X509)
    (payload : Bytes) : Prop where
  /-- `d2i_X509` takes a certificate off the front. -/
  consumes : ∀ data cert rest, O.d2i data = some (cert, rest) →
    ∃ der, der ≠ [] ∧ data = der ++ rest
  /-- `PEM_read_bio_X509` reads block by block. -/
  readPem_eq : ∀ blocks, PemText blocks payload → O.readPem payload = certsOf decode blocks
  /-- A block that gives a certificate holds padded Base64. -/
  padded : ∀ content cert, decode content = some cert →
    strip content ≠ [] ∧ Base64.Padded (strip content)

/-- The bytes of the leaf in a payload. -/
inductive ReceivedLeaf (O : OpenSsl X509) (payload : Bytes) :
    CertificateInputFormat → Bytes → Prop
  /-- The bytes that `d2i_X509` takes. -/
  | derSingle {cert : X509} {der rest : Bytes}
      (hbegin : ¬ kBeginCert <+: payload.dropWhile isAsciiSpace)
      (hread : O.d2i (payload.dropWhile isAsciiSpace) = some (cert, rest))
      (hdata : payload.dropWhile isAsciiSpace = der ++ rest) :
      ReceivedLeaf O payload .derSingle der
  /-- What the first block holds. -/
  | pemChain {content : Bytes} {blocks : List Bytes}
      (hbegin : kBeginCert <+: payload.dropWhile isAsciiSpace)
      (htext : PemText (content :: blocks) payload) :
      ReceivedLeaf O payload .pemChain (Base64.decode (strip content))

/-- The last byte has the value of a space. -/
def EndsInSpace (der : Bytes) : Prop := ∃ b ∈ der.getLast?, isAsciiSpace b = true

instance (der : Bytes) : Decidable (EndsInSpace der) :=
  decidable_of_iff (der.getLast?.any isAsciiSpace = true)
    (by simp [EndsInSpace, Option.any_eq_true])

private theorem rdropWhile_eq_self_iff : der.rdropWhile isAsciiSpace = der ↔ ¬ EndsInSpace der := by
  rw [List.rdropWhile_eq_self_iff]
  rcases List.eq_nil_or_concat der with rfl | ⟨init, b, rfl⟩
  · simp [EndsInSpace]
  · simp [EndsInSpace]

/-- A certificate that is read off the front of a payload is not all space. -/
private theorem not_all_space (hne : der ≠ []) {rest : Bytes}
    (hdata : payload.dropWhile isAsciiSpace = der ++ rest) :
    der.rdropWhile isAsciiSpace ≠ [] := by
  obtain ⟨b, tail, rfl⟩ := List.exists_cons_of_ne_nil hne
  intro hnil
  have hspace : isAsciiSpace b = true := List.rdropWhile_eq_nil_iff.mp hnil b List.mem_cons_self
  have hhead := List.head?_dropWhile_not isAsciiSpace payload
  rw [hdata, List.cons_append, List.head?_cons] at hhead
  simp [hspace] at hhead

/-! ### The two paths -/

/-- The two paths of an accepted payload. -/
private theorem of_parse (h : O.parse X payload limits = .ok chain) :
    (kBeginCert <+: payload.dropWhile isAsciiSpace ∧
      O.parsePemChain X payload limits = .ok chain) ∨
    (¬ kBeginCert <+: payload.dropWhile isAsciiSpace ∧
      O.parseDerSingle X payload = .ok chain) := by
  unfold OpenSsl.parse at h
  dsimp only at h
  split_ifs at h with hsize hspace hbegin
  · exact .inl ⟨hbegin, h⟩
  · exact .inr ⟨hbegin, h⟩

/-- What `parseDerSingle` has read. -/
private theorem of_parseDerSingle (h : O.parseDerSingle X payload = .ok chain) :
    ∃ cert rest, O.d2i (payload.dropWhile isAsciiSpace) = some (cert, rest) ∧
      rest.all isAsciiSpace = true ∧
      chain =
        { format := .derSingle, leaf := cert, intermediates := []
          certDerSha256 := [O.derSha256 X cert]
          leafDerOriginalSha256 := OpenSsl.sha256OfBytes X
            ((payload.dropWhile isAsciiSpace).rdropWhile isAsciiSpace) } := by
  unfold OpenSsl.parseDerSingle at h
  dsimp only at h
  cases hd2i : O.d2i (payload.dropWhile isAsciiSpace) with
  | none =>
    rw [hd2i] at h
    exact nomatch h
  | some read =>
    obtain ⟨cert, rest⟩ := read
    rw [hd2i] at h
    dsimp only at h
    split_ifs at h with hrest
    exact ⟨cert, rest, rfl, hrest, (Except.ok.inj h).symm⟩

/-- Space behind a byte string is cut off with the space that it ends in. -/
private theorem rdropWhile_append_space {rest : Bytes} (h : rest.all isAsciiSpace = true) :
    (der ++ rest).rdropWhile isAsciiSpace = der.rdropWhile isAsciiSpace := by
  induction rest using List.reverseRecOn with
  | nil => rw [List.append_nil]
  | append_singleton rest b ih =>
    rw [List.all_append, Bool.and_eq_true] at h
    obtain ⟨hrest, hb⟩ := h
    rw [← List.append_assoc, List.rdropWhile_concat_pos _ _ _ (by simpa using hb), ih hrest]

/-- **The DER path** digests the certificate without the space that it ends in. -/
theorem digest_derSingle (hO : O.ReadsInput decode payload)
    (h : O.parse X payload limits = .ok chain) (hleaf : ReceivedLeaf O payload .derSingle der) :
    chain.format = .derSingle ∧
      chain.leafDerOriginalSha256 = X.sha256 (der.rdropWhile isAsciiSpace) := by
  rcases hleaf with @⟨cert, _, rest, hbegin, hread, hdata⟩ | -
  obtain ⟨hno, -⟩ | ⟨-, hder⟩ := of_parse h
  · exact absurd hno hbegin
  obtain ⟨cert', rest', hread', hrest, rfl⟩ := of_parseDerSingle hder
  obtain ⟨rfl, rfl⟩ := Prod.mk.inj (Option.some.inj (hread.symm.trans hread'))
  refine ⟨rfl, ?_⟩
  obtain ⟨der', hne, hdata'⟩ := hO.consumes _ _ _ hread
  obtain rfl : der = der' := List.append_cancel_right (hdata.symm.trans hdata')
  dsimp only
  rw [hdata, rdropWhile_append_space hrest, OpenSsl.sha256OfBytes,
    if_neg (not_all_space hne hdata)]

/-- What is digested of a chain. -/
private theorem digest_of_pemChain {first : Bytes} {certs : List X509}
    (h : O.pemChain X first certs = .ok chain) (hfirst : base64Decode first = some der) :
    chain.format = .pemChain ∧ chain.leafDerOriginalSha256 = OpenSsl.sha256OfBytes X der := by
  cases certs with
  | nil => exact nomatch h
  | cons leaf intermediates =>
    unfold OpenSsl.pemChain at h
    dsimp only at h
    split_ifs at h
    obtain rfl := Except.ok.inj h
    rw [hfirst]
    exact ⟨rfl, rfl⟩

/-- A block that holds padded Base64 is decoded. -/
private theorem base64Decode_of_padded {content : Bytes} (hne : strip content ≠ [])
    (h : Base64.Padded (strip content)) :
    base64Decode content = some (Base64.decode (strip content)) := by
  refine base64Decode_of_loop (h.decode_ne_nil hne) ?_
  rw [← base64Loop_strip, base64Loop_padded 0 h]

/-- **The chain path** digests what the first block holds. -/
theorem digest_pemChain (hO : O.ReadsInput decode payload)
    (h : O.parse X payload limits = .ok chain) (hleaf : ReceivedLeaf O payload .pemChain der) :
    chain.format = .pemChain ∧ chain.leafDerOriginalSha256 = X.sha256 der := by
  rcases hleaf with - | @⟨content, blocks, hbegin, htext⟩
  obtain ⟨-, hpem⟩ | ⟨hno, -⟩ := of_parse h
  swap
  · exact absurd hbegin hno
  obtain ⟨blocks', hscan, -, hlength, hchain⟩ := of_parsePemChain hpem
  obtain rfl := htext.unique (scanBlocks_eq_ok_iff.mp hscan).1
  rw [hO.readPem_eq _ htext] at hlength
  -- the first block has given a certificate
  obtain ⟨cert, hcert⟩ : ∃ cert, decode content = some cert := by
    obtain ⟨cert, _, hcert, -, -⟩ := List.forall₂_cons_left_iff.mp (forall₂_certsOf hlength)
    exact ⟨cert, hcert⟩
  obtain ⟨hne, hpadded⟩ := hO.padded content cert hcert
  have hdecode : base64Decode ((content :: blocks).headD []) =
      some (Base64.decode (strip content)) := base64Decode_of_padded hne hpadded
  obtain ⟨hformat, hdigest⟩ := digest_of_pemChain hchain hdecode
  rw [OpenSsl.sha256OfBytes, if_neg (hpadded.decode_ne_nil hne)] at hdigest
  exact ⟨hformat, hdigest⟩

/-- An accepted payload has a leaf. -/
private theorem exists_receivedLeaf (hO : O.ReadsInput decode payload)
    (h : O.parse X payload limits = .ok chain) :
    ∃ format der, ReceivedLeaf O payload format der := by
  obtain ⟨hbegin, hpem⟩ | ⟨hbegin, hder⟩ := of_parse h
  · obtain ⟨blocks, hscan, -, hlength, hchain⟩ := of_parsePemChain hpem
    rcases blocks with - | ⟨content, blocks⟩
    · -- an empty chain is refused
      rw [List.length_nil, List.length_eq_zero_iff] at hlength
      rw [hlength] at hchain
      exact nomatch hchain
    · exact ⟨_, _, .pemChain hbegin (scanBlocks_eq_ok_iff.mp hscan).1⟩
  · obtain ⟨cert, rest, hread, -, -⟩ := of_parseDerSingle hder
    obtain ⟨der, -, hdata⟩ := hO.consumes _ _ _ hread
    exact ⟨_, _, .derSingle hbegin hread hdata⟩

/-- What is digested of a leaf that came in some format. -/
def digested : CertificateInputFormat → Bytes → Bytes
  | .derSingle, der => der.rdropWhile isAsciiSpace
  | .pemChain, der => der

private theorem digest_eq {format : CertificateInputFormat} (hO : O.ReadsInput decode payload)
    (h : O.parse X payload limits = .ok chain) (hleaf : ReceivedLeaf O payload format der) :
    chain.leafDerOriginalSha256 = X.sha256 (digested format der) := by
  cases format with
  | derSingle => exact (digest_derSingle hO h hleaf).2
  | pemChain => exact (digest_pemChain hO h hleaf).2

/-- **The digest is that of the received leaf** exactly when the leaf came in a chain or does not
end in a byte with the value of a space, unless the digest is the same with and without such
bytes; and two payloads with the same leaf have the same digest exactly when they have the
same format or the leaf does not end so. -/
theorem leaf_digest_received (O : OpenSsl X509) (X : Crypto) (decode : Bytes → Option X509)
    (payload : Bytes) (limits : CertificateChainLimits) (chain : ParsedCertificateChain X509)
    (hO : O.ReadsInput decode payload) (hparse : O.parse X payload limits = .ok chain) :
    (∃ format der, ReceivedLeaf O payload format der) ∧
    ∀ format der, ReceivedLeaf O payload format der →
      (X.sha256 (der.rdropWhile isAsciiSpace) = X.sha256 der →
        der.rdropWhile isAsciiSpace = der) →
      (chain.leafDerOriginalSha256 = X.sha256 der ↔ format = .pemChain ∨ ¬ EndsInSpace der) ∧
      ∀ payload' limits' chain' format', O.ReadsInput decode payload' →
        O.parse X payload' limits' = .ok chain' → ReceivedLeaf O payload' format' der →
          (chain.leafDerOriginalSha256 = chain'.leafDerOriginalSha256 ↔
            format = format' ∨ ¬ EndsInSpace der) := by
  refine ⟨exists_receivedLeaf hO hparse, fun format der hleaf hsha => ?_⟩
  -- with the trimmed bytes only bytes that need no trimming have the right digest
  have htrim : X.sha256 (der.rdropWhile isAsciiSpace) = X.sha256 der ↔ ¬ EndsInSpace der := by
    rw [← rdropWhile_eq_self_iff]
    exact ⟨hsha, fun h => by rw [h]⟩
  have hdigest := digest_eq hO hparse hleaf
  refine ⟨?_, fun payload' limits' chain' format' hO' hparse' hleaf' => ?_⟩
  · rw [hdigest]
    cases format with
    | derSingle => simpa [digested] using htrim
    | pemChain => simp [digested]
  · rw [hdigest, digest_eq hO' hparse' hleaf']
    cases format <;> cases format'
    · simp
    · simpa [digested] using htrim
    · simpa [digested] using eq_comm.trans htrim
    · simp

/-! ### Two certificates of the bench -/

private theorem readSequence_consumes {data rest : Bytes} {cert : BenchCert}
    (h : readSequence data = some (cert, rest)) : data = cert.val ++ rest := by
  unfold readSequence at h
  split at h
  · dsimp only at h
    split_ifs at h
    obtain ⟨rfl, rfl⟩ := Prod.mk.inj (Option.some.inj h)
    simp
  · split_ifs at h
    obtain ⟨rfl, rfl⟩ := Prod.mk.inj (Option.some.inj h)
    simp
  · exact nomatch h

/-- The bench reads a DER payload; there are no blocks in it. -/
private theorem readsInput_bench (hne : payload.dropWhile isAsciiSpace ≠ [])
    (hbegin : ¬ kBeginCert <+: payload.dropWhile isAsciiSpace) :
    bench.ReadsInput (fun _ => none) payload where
  consumes data cert rest h := ⟨cert.val, cert.property, readSequence_consumes h⟩
  readPem_eq blocks htext := by
    obtain ⟨hdata, -⟩ | ⟨content, rest, _, hdata, -⟩ :=
      scanBlocks_cases (scanBlocks_eq_ok_iff.mpr ⟨htext, le_refl _⟩)
    · exact absurd hdata hne
    · exact absurd (hdata ▸ List.prefix_append _ _) hbegin
  padded _ _ h := nomatch h

/-- The short certificate. -/
def shortCert : BenchCert := ⟨shortDer, by decide⟩

/-- The short certificate with space around it. -/
def spacedPayload : Bytes := 0x0A :: shortDer ++ [0x20, 0x0A]

/-- The digest of the short certificate does not see the space around it. -/
theorem leaf_digest_received_spaced :
    (singleChain shortCert).leafDerOriginalSha256 =
      Tls.exampleLibrary.crypto.sha256 shortDer := by
  have hbegin : ¬ kBeginCert <+: spacedPayload.dropWhile isAsciiSpace := by decide +kernel
  have hleaf : ReceivedLeaf bench spacedPayload .derSingle shortDer :=
    @ReceivedLeaf.derSingle _ _ _ shortCert _ [0x20, 0x0A] hbegin
      (by decide +kernel) (by decide +kernel)
  exact (((leaf_digest_received bench Tls.exampleLibrary.crypto (fun _ => none) spacedPayload {}
    (singleChain shortCert) (readsInput_bench (by decide) hbegin)
    (by decide +kernel)).2 .derSingle shortDer hleaf fun _ => by decide +kernel).1).mpr
      (.inr (by decide +kernel))

/-- A certificate whose last byte has the value of a space. -/
def spaceDer : BenchCert := ⟨[0x30, 3, 1, 2, 0x20], by decide⟩

/-- **A certificate is digested short.** As DER, the certificate that ends in `20` is digested
without its last byte; as the block of a chain it is digested whole. -/
theorem leaf_digested_short :
    bench.parse Tls.exampleLibrary.crypto spaceDer.val {} = .ok (singleChain spaceDer) ∧
      ReceivedLeaf bench spaceDer.val .derSingle spaceDer.val ∧
      (singleChain spaceDer).leafDerOriginalSha256 ≠
        Tls.exampleLibrary.crypto.sha256 spaceDer.val ∧
      bench.parse Tls.exampleLibrary.crypto (bench.pemText [spaceDer]) {} =
        .ok { singleChain spaceDer with
          format := .pemChain
          leafDerOriginalSha256 := Tls.exampleLibrary.crypto.sha256 spaceDer.val } := by
  have hparse : bench.parse Tls.exampleLibrary.crypto spaceDer.val {} =
      .ok (singleChain spaceDer) := by decide +kernel
  have hbegin : ¬ kBeginCert <+: spaceDer.val.dropWhile isAsciiSpace := by decide +kernel
  refine ⟨hparse, @ReceivedLeaf.derSingle _ _ _ spaceDer _ [] hbegin (by decide +kernel)
    (by decide +kernel), by decide +kernel, ?_⟩
  have hpem := parse_pemText lawful_bench (accepted_of_parse (by decide) hparse)
  have hsize : ¬ ({} : CertificateChainLimits).maxPayloadBytes <
      bench.canonicalSize (singleChain spaceDer).certs := by decide +kernel
  rw [if_neg hsize, if_neg (by decide +kernel)] at hpem
  exact hpem

end TboxSec.Certificates
