import TboxSec.Tls.Service

/-!
# Signing authority

A signature is made for a reference, and the reference is what decides. `Warrant` is all that a
signature is meant to stand on: a reference minted by this process for the same service, a
profile whose version has not moved since, a reference that has not expired, a ready profile, an
algorithm allowed then and now, a digest of the right length, and a caller who is authorised at
the moment of signing.

The cipher is taken to be unforgeable: what opens under the process key was sealed by
`getTlsCredential` before. Then `signTls` checks all of the warrant but its last point, which the
version does not cover: a profile can be handed to another service without a new version, and a
reference is minted for whoever asks. `signing_authority_iff` says that this is the only gap.
-/

namespace TboxSec.Tls

/-- The length of the digest an algorithm signs. -/
def SignatureAlgorithm.digestLength : SignatureAlgorithm → Option ℕ
  | .unknown => none
  | .ecdsaSecp256r1Sha256 => some 32

variable (L : Library) (P : TlsCredentialProvider)

/-! ### What is assumed of the cipher and the JSON library -/

/-- The reference `ref` was sealed for `payload` by a `getTlsCredential` of the run. -/
structure Sealed (calls : List ProviderCall) (ref : Bytes) (payload : RefPayload) where
  past : List ProviderCall
  mint : ProviderCall
  rest : List ProviderCall
  calls_eq : calls = past ++ mint :: rest
  profile : String
  holder : PeerIdentity
  op_eq : mint.op = .getTlsCredential profile holder
  ps : ProfileState
  known : ((provider L).run P past).profiles.find? profile = some ps
  ready : ps.status = .ready
  payload_eq : payload = ((provider L).run P past).refPayload mint.env profile holder ps
  ref_eq : ref = encodeRef L ((provider L).run P past) mint.env payload

/-- What was sealed opens. -/
def Opens : Prop :=
  ∀ (iv : GcmNonce) plain,
    L.crypto.gcmOpen P.processKey [] (L.crypto.gcmSeal P.processKey [] iv.val plain) = some plain

/-- **Unforgeability.** A reference that is presented and opens was sealed before. -/
def Unforgeable (calls : List ProviderCall) : Prop :=
  ∀ before call after request caller, calls = before ++ call :: after →
    call.op = .signTls request caller →
    L.crypto.gcmOpen P.processKey [] request.privateKeyRef ≠ none →
    ∃ payload, Nonempty (Sealed L P before request.privateKeyRef payload)

/-- The JSON of what is sealed in the run reads back. -/
def ReadsBack (calls : List ProviderCall) : Prop :=
  ∀ ref payload, Nonempty (Sealed L P calls ref payload) →
    L.parse (L.dump payload.toJson) = some payload.toJson

/-! ### What a signature stands on -/

/-- The warrant of a signature that `call` makes for `caller` after the calls `before`. -/
structure Warrant (before : List ProviderCall) (call : ProviderCall) (request : TlsSignRequest)
    (caller : PeerIdentity) where
  past : List ProviderCall
  mint : ProviderCall
  rest : List ProviderCall
  before_eq : before = past ++ mint :: rest
  profile : String
  holder : PeerIdentity
  op_eq : mint.op = .getTlsCredential profile holder
  bundle : TlsCredentialBundle
  /-- The reference was minted by this process, -/
  minted : ((provider L).step ((provider L).run P past) mint).2 = .credential (.ok bundle)
  presented : bundle.privateKeyRef = request.privateKeyRef
  /-- for the service that presents it, -/
  sameService : holder.serviceName = caller.serviceName
  valid : caller.valid = true
  psThen : ProfileState
  knownThen : ((provider L).run P past).profiles.find? profile = some psThen
  ps : ProfileState
  known : ((provider L).run P before).profiles.find? profile = some ps
  /-- the version has been the same ever since, -/
  unchanged : ∀ r r' ps', rest = r ++ r' →
    ((provider L).run P (past ++ mint :: r)).profiles.find? profile = some ps' →
    ps'.version = psThen.version
  /-- the reference has not expired, -/
  unexpired : call.env.now < wrapSigned (mint.env.now + psThen.config.refTtlSec)
  ready : ps.status = .ready
  /-- the algorithm was allowed and is allowed, -/
  allowedThen : psThen.algorithmAllowed request.algorithm = true
  allowedNow : ps.algorithmAllowed request.algorithm = true
  digest : ∀ n, request.algorithm.digestLength = some n → request.digest.length = n
  /-- and the caller is authorised. -/
  authorized : ((provider L).run P before).isAuthorized profile caller = true

variable {L P}

/-! ### Reading a sealed reference -/

/-- An algorithm is in a reference if it is allowed when the reference is minted. -/
private theorem mem_refPayload_iff {E : Collaborators} {profile : String} {caller : PeerIdentity}
    {ps : ProfileState} {alg : SignatureAlgorithm} :
    alg ∈ (P.refPayload E profile caller ps).allowedAlgorithms ↔
      ps.algorithmAllowed alg = true := by
  unfold TlsCredentialProvider.refPayload ProfileState.algorithmAllowed
  dsimp only
  split_ifs <;> simp

/-- The process key and the boot epoch are those of the start. -/
private theorem process_run (calls : List ProviderCall) :
    ((provider L).run P calls).processKey = P.processKey ∧
      ((provider L).run P calls).bootEpoch = P.bootEpoch :=
  (provider L).run_invariant
    (I := fun Q => Q.processKey = P.processKey ∧ Q.bootEpoch = P.bootEpoch)
    (fun _ c h _ => ⟨(perform_process c.op).1.trans h.1, (perform_process c.op).2.trans h.2⟩)
    ⟨rfl, rfl⟩ ((provider L).along_true P calls)

/-- A profile stays, and its version does not decrease. -/
private theorem version_run {name : String} {ps : ProfileState}
    (h : P.profiles.find? name = some ps) (calls : List ProviderCall) :
    ∃ ps', ((provider L).run P calls).profiles.find? name = some ps' ∧
      ps.version ≤ ps'.version :=
  (provider L).run_invariant
    (I := fun Q => ∃ ps', Q.profiles.find? name = some ps' ∧ ps.version ≤ ps'.version)
    (fun _ c ⟨ps', hps', hle⟩ _ =>
      ⟨_, find?_perform hps' c.op, le_trans hle (version_le_perform name ps' c.op)⟩)
    ⟨ps, h, le_refl _⟩ ((provider L).along_true P calls)

/-- **A sealed reference decodes** to what was sealed, its version cut to 64 bits. -/
theorem decodeRef_sealed {calls before after : List ProviderCall} {ref : Bytes}
    {payload rp : RefPayload} (hcalls : calls = before ++ after) (hopens : Opens L P)
    (hreads : ReadsBack L P calls) (s : Sealed L P before ref payload)
    (hdec : decodeRef L ((provider L).run P before) ref = some rp) :
    rp = { payload with version := payload.version % 2 ^ 64 } := by
  have hread : L.parse (L.dump payload.toJson) = some payload.toJson := by
    refine hreads ref payload ⟨{ s with rest := s.rest ++ after, calls_eq := ?_ }⟩
    have hbefore := s.calls_eq
    calc calls = before ++ after := hcalls
      _ = (s.past ++ s.mint :: s.rest) ++ after := congrArg (· ++ after) hbefore
      _ = s.past ++ s.mint :: (s.rest ++ after) := by simp
  obtain ⟨past, mint, rest, -, profile, holder, -, ps, -, -, rfl, rfl⟩ := s
  have hkey := (process_run (L := L) (P := P) before).1
  unfold decodeRef at hdec
  rw [hkey] at hdec
  split_ifs at hdec with hshort
  unfold encodeRef at hdec hshort
  cases hnonce : mint.env.nonce with
  | none =>
    rw [hnonce] at hshort
    exact absurd (show ([] : Bytes).length < 12 + 16 by decide) hshort
  | some nonce =>
    rw [hnonce] at hdec
    dsimp only at hdec
    rw [(process_run (L := L) (P := P) past).1, hopens nonce] at hdec
    dsimp only at hdec
    rw [hread, Option.bind_some, RefPayload.ofJson_toJson, Option.some.injEq] at hdec
    rw [← hdec]
    simp [TlsCredentialProvider.refPayload]

/-! ### From a request in order to a warrant -/

/-- **A request in order has a warrant as soon as the caller is authorised.** -/
theorem warrant_of_inOrder {calls before after : List ProviderCall} {call : ProviderCall}
    {request : TlsSignRequest} {caller : PeerIdentity} {rp : RefPayload} {ps : ProfileState}
    (hcalls : calls = before ++ call :: after) (hopens : Opens L P)
    (hunforgeable : Unforgeable L P calls) (hreads : ReadsBack L P calls)
    (hop : call.op = .signTls request caller)
    (horder : InOrder L ((provider L).run P before) call.env request caller rp ps)
    (hauth : ((provider L).run P before).isAuthorized rp.profile caller = true) :
    Nonempty (Warrant L P before call request caller) := by
  have hdec := horder.decodes
  have hopen : L.crypto.gcmOpen P.processKey [] request.privateKeyRef ≠ none := by
    intro hnone
    unfold decodeRef at hdec
    rw [(process_run (L := L) (P := P) before).1, hnone] at hdec
    split_ifs at hdec
  obtain ⟨payload, ⟨s⟩⟩ := hunforgeable before call after request caller hcalls hop hopen
  have hrp := decodeRef_sealed hcalls hopens hreads s hdec
  -- What the reference says was true when it was minted.
  obtain ⟨past, mint, rest, hbefore, profile, holder, hmint, psThen, hthen, hready, rfl, href⟩ := s
  have hprofile : rp.profile = profile := by
    rw [hrp]
    rfl
  have hknown : ((provider L).run P before).profiles.find? profile = some ps :=
    hprofile ▸ horder.known
  -- The version then is at most the version now, which is the version then cut to 64 bits.
  have hversion : psThen.version = ps.version := by
    have hcut : psThen.version % 2 ^ 64 = ps.version := by
      rw [← horder.version, hrp]
      rfl
    obtain ⟨ps', hps', hle⟩ := version_run hthen (mint :: rest)
    rw [← Machine.run_append, ← hbefore] at hps'
    obtain rfl : ps' = ps := Option.some.inj (hps'.symm.trans hknown)
    have hmod := Nat.mod_le psThen.version (2 ^ 64)
    omega
  have hne : request.privateKeyRef ≠ [] := by
    intro hnil
    rw [hnil] at hdec
    exact absurd hdec (by simp [decodeRef])
  refine ⟨
    { past, mint, rest, profile, holder, psThen, ps
      before_eq := hbefore
      op_eq := hmint
      bundle := psThen.bundle request.privateKeyRef
      minted := ?minted
      presented := rfl
      sameService := ?service
      valid := horder.valid
      knownThen := hthen
      known := hknown
      unchanged := ?unchanged
      unexpired := ?unexpired
      ready := horder.ready
      allowedThen := ?allowed
      allowedNow := horder.allowedNow
      digest := ?digest
      authorized := hprofile ▸ hauth }⟩
  case minted =>
    have hget : ((provider L).run P past).getTlsCredential L mint.env profile holder =
        .ok (psThen.bundle request.privateKeyRef) := by
      refine getTlsCredential_eq_ok_iff.mpr ⟨psThen, hthen, hready, ?_, ?_⟩
      · rw [← href]
        exact hne
      · rw [← href]
    change (((provider L).run P past).perform L mint.env mint.op).2 = _
    rw [hmint]
    exact congrArg ProviderReply.credential hget
  case service =>
    rw [← horder.caller_eq, hrp]
    rfl
  case unchanged =>
    intro r r' ps' hrest hps'
    obtain ⟨ps₁, hps₁, hle₁⟩ := version_run hthen (mint :: r)
    rw [← Machine.run_append] at hps₁
    obtain rfl : ps₁ = ps' := Option.some.inj (hps₁.symm.trans hps')
    obtain ⟨ps₂, hps₂, hle₂⟩ := version_run hps₁ r'
    have hsplit : past ++ mint :: r ++ r' = before := by
      rw [hbefore, hrest]
      simp
    rw [← Machine.run_append, hsplit] at hps₂
    obtain rfl : ps₂ = ps := Option.some.inj (hps₂.symm.trans hknown)
    omega
  case unexpired =>
    have hexpiry := horder.unexpired
    rw [hrp] at hexpiry
    exact hexpiry
  case allowed =>
    have hmem : request.algorithm ∈
        (((provider L).run P past).refPayload mint.env profile holder
          psThen).allowedAlgorithms := by
      have hthen' := horder.allowedThen
      rw [hrp] at hthen'
      exact hthen'
    exact mem_refPayload_iff.mp hmem
  case digest =>
    intro n hn
    cases halg : request.algorithm with
    | unknown =>
      rw [halg] at hn
      exact absurd hn (by simp [SignatureAlgorithm.digestLength])
    | ecdsaSecp256r1Sha256 =>
      rw [halg] at hn
      rw [horder.digest halg]
      exact Option.some.inj hn

/-- A warrant speaks of the profile that the reference names. -/
private theorem Warrant.profile_eq {calls before after : List ProviderCall} {call : ProviderCall}
    {request : TlsSignRequest} {caller : PeerIdentity} {rp : RefPayload}
    (hcalls : calls = before ++ after) (hopens : Opens L P) (hreads : ReadsBack L P calls)
    (w : Warrant L P before call request caller)
    (hdec : decodeRef L ((provider L).run P before) request.privateKeyRef = some rp) :
    rp.profile = w.profile := by
  have hminted : ((provider L).run P w.past).getTlsCredential L w.mint.env w.profile w.holder =
      .ok w.bundle := by
    have hreply := w.minted
    change (((provider L).run P w.past).perform L w.mint.env w.mint.op).2 = _ at hreply
    rw [w.op_eq] at hreply
    exact ProviderReply.credential.inj hreply
  obtain ⟨ps, hps, hready, -, hbundle⟩ := getTlsCredential_eq_ok_iff.mp hminted
  have hpresented := w.presented
  rw [hbundle] at hpresented
  have hrp := decodeRef_sealed hcalls hopens hreads
    { past := w.past, mint := w.mint, rest := w.rest, calls_eq := w.before_eq
      profile := w.profile, holder := w.holder, op_eq := w.op_eq, ps := ps, known := hps
      ready := hready, payload_eq := rfl, ref_eq := hpresented.symm } hdec
  rw [hrp]
  rfl

/-! ### Runs -/

/-- Every signature of the run has its warrant. -/
def SignsWithWarrant (L : Library) (P : TlsCredentialProvider) (calls : List ProviderCall) :
    Prop :=
  ∀ before call after request caller sig, calls = before ++ call :: after →
    call.op = .signTls request caller →
    ((provider L).step ((provider L).run P before) call).2 = .signature (.ok sig) →
    Nonempty (Warrant L P before call request caller)

/-- Whoever makes a request in order is the service that the profile is configured for. -/
def CallersAuthorized (L : Library) (P : TlsCredentialProvider) (calls : List ProviderCall) :
    Prop :=
  ∀ before call after request caller rp ps, calls = before ++ call :: after →
    call.op = .signTls request caller →
    InOrder L ((provider L).run P before) call.env request caller rp ps →
    ((provider L).run P before).isAuthorized rp.profile caller = true

/-- **Every signature has its warrant exactly** in the runs in which the requests in order come from
the service that the profile is configured for at that moment. All else that a warrant says is
always checked: the reference was sealed by the provider for the same service, profile and version,
in the same boot, and is neither expired nor superseded. -/
theorem signing_authority_iff (L : Library) (P : TlsCredentialProvider)
    (calls : List ProviderCall) (hopens : Opens L P) (hunforgeable : Unforgeable L P calls)
    (hreads : ReadsBack L P calls) :
    SignsWithWarrant L P calls ↔ CallersAuthorized L P calls := by
  constructor
  · intro hwarrant before call after request caller rp ps hcalls hop horder
    have hsigned : ((provider L).step ((provider L).run P before) call).2 =
        .signature (.ok (call.env.signDigest rp.keyId request.digest).2) := by
      change (((provider L).run P before).perform L call.env call.op).2 = _
      rw [hop]
      exact congrArg ProviderReply.signature (signTls_eq_ok_iff.mpr ⟨rp, ps, horder, rfl⟩)
    obtain ⟨w⟩ := hwarrant before call after request caller _ hcalls hop hsigned
    rw [w.profile_eq hcalls hopens hreads horder.decodes]
    exact w.authorized
  · intro hauth before call after request caller sig hcalls hop hsigned
    change (((provider L).run P before).perform L call.env call.op).2 = _ at hsigned
    rw [hop] at hsigned
    have hok : ((provider L).run P before).signTls L call.env request caller = .ok sig :=
      ProviderReply.signature.inj hsigned
    obtain ⟨rp, ps, horder, -⟩ := signTls_eq_ok_iff.mp hok
    exact warrant_of_inOrder hcalls hopens hunforgeable hreads hop horder
      (hauth before call after request caller rp ps hcalls hop horder)

/-! ### A profile that changes hands -/

/-- The environment of an operation of the provider at the time `t`. -/
def exampleCollaborators (t : ℤ) : Collaborators :=
  { examplePlatform with
    materialResolver := some fun key => if key = "root_ca" then [1] else [2]
    keyId := "ECU-1+ECU-1"
    now := t }

/-- A provider without profiles. -/
def exampleProvider : TlsCredentialProvider := { bootEpoch := 7 }

/-- The service that `mqtt` is configured for. -/
def exampleHolder : PeerIdentity := { valid := true, serviceName := "tbox-mqtt.service" }

/-- The profile `mqtt` is configured and loaded, and its credential is handed out. -/
def exampleMint : List ProviderCall :=
  [⟨.configureProfile {}, exampleCollaborators 100⟩,
    ⟨.loadMaterials "mqtt", exampleCollaborators 100⟩,
    ⟨.getTlsCredential "mqtt" exampleHolder, exampleCollaborators 100⟩]

/-- The reference in that credential. -/
def exampleKeyRef : Bytes := List.replicate 12 7 ++ exampleRefText ++ List.replicate 16 0

/-- The holder asks for a signature under the reference. -/
def exampleSign : ProviderCall :=
  ⟨.signTls ⟨exampleKeyRef, .ecdsaSecp256r1Sha256, List.replicate 32 0⟩ exampleHolder,
    exampleCollaborators 200⟩

/-- The profile is given to another service. -/
def exampleHandover : ProviderCall :=
  ⟨.configureProfile { peerService := "tbox-ota.service" }, exampleCollaborators 150⟩

/-- What `getTlsCredential` seals for the holder. -/
private theorem exampleMint_payload :
    (((provider exampleLibrary).run exampleProvider (exampleMint.take 2)).profiles.find?
      "mqtt").map (fun ps => (ps.status,
        ((provider exampleLibrary).run exampleProvider (exampleMint.take 2)).refPayload
          (exampleCollaborators 100) "mqtt" exampleHolder ps)) = some (.ready, exampleRef) := by
  decide

/-- The reference was sealed in every run that begins so. -/
private theorem exampleMint_sealed (mid : List ProviderCall) :
    Nonempty (Sealed exampleLibrary exampleProvider (exampleMint ++ mid) exampleKeyRef
      exampleRef) := by
  obtain ⟨ps, hps, heq⟩ := Option.map_eq_some_iff.mp exampleMint_payload
  obtain ⟨hready, hpayload⟩ := Prod.mk.inj heq
  exact ⟨
    { past := exampleMint.take 2
      mint := ⟨.getTlsCredential "mqtt" exampleHolder, exampleCollaborators 100⟩
      rest := mid
      calls_eq := rfl
      profile := "mqtt"
      holder := exampleHolder
      op_eq := rfl
      ps := ps
      known := hps
      ready := hready
      payload_eq := hpayload.symm
      ref_eq := rfl }⟩

/-- Where the last call of a run is the only signature, it is the call that signs. -/
private theorem split_of_last {calls before after : List ProviderCall} {call last : ProviderCall}
    {request : TlsSignRequest} {caller : PeerIdentity}
    (hquiet : ∀ c ∈ calls, ∀ request caller, c.op ≠ .signTls request caller)
    (heq : calls ++ [last] = before ++ call :: after) (hop : call.op = .signTls request caller) :
    before = calls ∧ call = last := by
  obtain rfl | ⟨init, x, rfl⟩ := List.eq_nil_or_concat after
  · obtain ⟨hbefore, hcall⟩ := List.append_inj' heq rfl
    exact ⟨hbefore.symm, (List.singleton_inj.mp hcall).symm⟩
  · exfalso
    rw [List.concat_eq_append, ← List.cons_append, ← List.append_assoc] at heq
    obtain ⟨hcalls, -⟩ := List.append_inj' heq rfl
    exact hquiet call (by rw [hcalls]; simp) request caller hop

/-- A run in which only the minted reference is presented, at its end. -/
private theorem unforgeable_mint {mid : List ProviderCall}
    (hquiet : ∀ c ∈ exampleMint ++ mid, ∀ request caller, c.op ≠ .signTls request caller) :
    Unforgeable exampleLibrary exampleProvider (exampleMint ++ mid ++ [exampleSign]) := by
  intro before call after request caller heq hop _
  obtain ⟨rfl, rfl⟩ := split_of_last hquiet heq hop
  obtain ⟨rfl, -⟩ := ProviderOp.signTls.inj hop
  exact ⟨exampleRef, exampleMint_sealed mid⟩

/-- The holder's own signature has its warrant. -/
theorem signing_authority_holder :
    SignsWithWarrant exampleLibrary exampleProvider (exampleMint ++ [] ++ [exampleSign]) ∧
      CallersAuthorized exampleLibrary exampleProvider (exampleMint ++ [] ++ [exampleSign]) := by
  have hquiet : ∀ c ∈ exampleMint ++ [], ∀ request caller, c.op ≠ .signTls request caller := by
    simp [exampleMint]
  have hopens : Opens exampleLibrary exampleProvider := by
    rintro ⟨iv, hiv⟩ plain
    have htag : (iv ++ plain ++ List.replicate 16 (0 : UInt8)).length - 16 =
        (iv ++ plain).length := by
      simp only [List.length_append, List.length_replicate]
      omega
    have hplain : (iv ++ plain ++ List.replicate 16 (0 : UInt8)).length - 28 = plain.length := by
      simp only [List.length_append, List.length_replicate]
      omega
    have hdrop : (iv ++ (plain ++ List.replicate 16 (0 : UInt8))).drop 12 =
        plain ++ List.replicate 16 0 := by
      rw [← hiv, List.drop_left]
    simp only [exampleLibrary]
    rw [htag, List.drop_left, if_pos rfl, hplain, List.append_assoc, hdrop, List.take_left]
  have hreads : ReadsBack exampleLibrary exampleProvider (exampleMint ++ [] ++ [exampleSign]) := by
    -- The only call that seals is the third one.
    rintro ref payload ⟨past, mint, rest, heq, profile, holder, hop, ps, hps, -, hpayload, -⟩
    rcases past with _ | ⟨c₁, _ | ⟨c₂, _ | ⟨c₃, _ | ⟨c₄, past⟩⟩⟩⟩ <;>
      simp only [exampleMint, List.cons_append, List.nil_append, List.cons.injEq] at heq
    · obtain ⟨rfl, -⟩ := heq
      exact absurd hop (by simp)
    · obtain ⟨rfl, rfl, -⟩ := heq
      exact absurd hop (by simp)
    · obtain ⟨rfl, rfl, rfl, -⟩ := heq
      obtain ⟨rfl, rfl⟩ := ProviderOp.getTlsCredential.inj hop
      obtain ⟨ps', hps', hpair⟩ := Option.map_eq_some_iff.mp exampleMint_payload
      obtain rfl : ps' = ps := Option.some.inj (hps'.symm.trans hps)
      have hknown : payload = exampleRef := hpayload.trans (Prod.mk.inj hpair).2
      rw [hknown]
      simp only [exampleLibrary, if_true]
    · obtain ⟨rfl, rfl, rfl, rfl, -⟩ := heq
      exact absurd hop (by simp [exampleSign])
    · exact absurd heq (by simp)
  have hauth : CallersAuthorized exampleLibrary exampleProvider
      (exampleMint ++ [] ++ [exampleSign]) := by
    intro before call after request caller rp ps heq hop horder
    obtain ⟨rfl, rfl⟩ := split_of_last hquiet heq hop
    obtain ⟨rfl, rfl⟩ := ProviderOp.signTls.inj hop
    have hdec : decodeRef exampleLibrary
        ((provider exampleLibrary).run exampleProvider (exampleMint ++ [])) exampleKeyRef =
          some exampleRef := by decide +kernel
    obtain rfl : rp = exampleRef := Option.some.inj (horder.decodes.symm.trans hdec)
    decide +kernel
  have hiff := signing_authority_iff exampleLibrary exampleProvider
    (exampleMint ++ [] ++ [exampleSign]) hopens (unforgeable_mint hquiet) hreads
  exact ⟨hiff.mpr hauth, hauth⟩

/-- **A signature for the former holder.** After the profile was given to another service, the
reference of the former one still signs. No cipher was broken: the only reference that is
presented was minted. -/
theorem not_warranted_handover :
    Unforgeable exampleLibrary exampleProvider (exampleMint ++ [exampleHandover] ++ [exampleSign]) ∧
      ¬ SignsWithWarrant exampleLibrary exampleProvider
        (exampleMint ++ [exampleHandover] ++ [exampleSign]) := by
  have hquiet : ∀ c ∈ exampleMint ++ [exampleHandover], ∀ request caller,
      c.op ≠ .signTls request caller := by
    simp [exampleMint, exampleHandover]
  refine ⟨unforgeable_mint hquiet, fun hwarrant => ?_⟩
  have hsigned : ((provider exampleLibrary).step ((provider exampleLibrary).run exampleProvider
      (exampleMint ++ [exampleHandover])) exampleSign).2 =
        .signature (.ok (List.replicate 32 0)) := by
    have hok : ((provider exampleLibrary).run exampleProvider
        (exampleMint ++ [exampleHandover])).signTls exampleLibrary (exampleCollaborators 200)
          ⟨exampleKeyRef, .ecdsaSecp256r1Sha256, List.replicate 32 0⟩ exampleHolder =
            .ok (List.replicate 32 0) := by decide +kernel
    exact congrArg ProviderReply.signature hok
  obtain ⟨w⟩ := hwarrant (exampleMint ++ [exampleHandover]) exampleSign [] _ exampleHolder _ rfl
    rfl hsigned
  -- The only profile is configured for somebody else.
  have hprofiles : ((provider exampleLibrary).run exampleProvider
      (exampleMint ++ [exampleHandover])).profiles.toList.map
        (fun entry => (entry.1, entry.2.config.peerService)) = [("mqtt", "tbox-ota.service")] := by
    decide +kernel
  have hentry := List.mem_map_of_mem (f := fun entry => (entry.1, entry.2.config.peerService))
    (OrdMap.mem_toList_iff.mpr w.known)
  rw [hprofiles, List.mem_singleton] at hentry
  have hpeer : w.ps.config.peerService = "tbox-ota.service" := (Prod.mk.inj hentry).2
  have hauth := w.authorized
  unfold TlsCredentialProvider.isAuthorized at hauth
  rw [w.known] at hauth
  simp [hpeer, exampleHolder] at hauth

end TboxSec.Tls
