import TboxSec.Ipc.Dispatcher
import TboxSec.Lib.Purge
import TboxSec.Tls.Steps

/-!
# Who gets past the dispatcher

Ten methods ask for the name of the caller. A caller that is turned away gets an answer that
depends on the method alone, and the server stays as it is (`handle_of_denied`). So the denied
requests of a run may be deleted without anybody else noticing
(`denied_requests_purged`): they are no channel to the other clients, nor to the daemon.

A stranger is a caller that none of the lists names. The methods that ask nobody are open to it,
and some of them reload the TLS material or publish a chain. `SameHoldings` is what they cannot
reach: the business keys, the source of the trusted time, the subscriptions and the lists
themselves. By induction, no run of strangers gets there (`strangers_confined`).
-/

namespace TboxSec

/-! ### The peers of the profiles -/

namespace Tls.Component

/-- The service that a profile names as its peer. -/
def peerOf (c : Component) (name : String) : Option String :=
  (c.profile name).map fun ps => ps.config.peerService

/-- The components let in the same callers. -/
structure SamePeers (c c' : Component) : Prop where
  provider : c'.provider.isSome = c.provider.isSome
  peerOf : ∀ name, c'.peerOf name = c.peerOf name

variable {L : Library} {c c' c'' : Component}

/-- A component names the same peers as itself. -/
theorem SamePeers.refl (c : Component) : SamePeers c c := ⟨rfl, fun _ => rfl⟩

/-- Naming the same peers is transitive. -/
theorem SamePeers.trans (h : SamePeers c c') (h' : SamePeers c' c'') : SamePeers c c'' :=
  ⟨h'.provider.trans h.provider, fun name => (h'.peerOf name).trans (h.peerOf name)⟩

/-- Only the provider matters. -/
private theorem SamePeers.of_provider (h : c'.provider = c.provider) : SamePeers c c' := by
  refine ⟨by rw [h], fun name => ?_⟩
  unfold Component.peerOf Component.profile
  rw [h]

/-- The profiles keep their configurations. -/
private theorem SamePeers.of_profile {f : String → ProfileState → ProfileState}
    (hprovider : c'.provider.isSome = c.provider.isSome)
    (hprofile : ∀ name, c'.profile name = (c.profile name).map (f name))
    (hf : ∀ name ps, (f name ps).config = ps.config) : SamePeers c c' := by
  refine ⟨hprovider, fun name => ?_⟩
  unfold Component.peerOf
  rw [hprofile, Option.map_map]
  congr 1
  funext ps
  exact congrArg TlsProfileConfig.peerService (hf name ps)

/-- A caller is authorised by the name of the peer. -/
private theorem isAuthorized_iff {P : TlsCredentialProvider} (hP : c.provider = some P)
    {name : String}
    {caller : PeerIdentity} :
    P.isAuthorized name caller = true ↔
      caller.valid = true ∧ caller.serviceName ≠ "" ∧
        c.peerOf name = some caller.serviceName := by
  have hprofile : c.profile name = P.profiles.find? name := by
    unfold Component.profile
    rw [hP, Option.bind_some]
  unfold TlsCredentialProvider.isAuthorized Component.peerOf
  rw [hprofile]
  cases P.profiles.find? name with
  | none => simp
  | some ps =>
    dsimp only
    rw [Option.map_some]
    cases hvalid : caller.valid with
    | false => simp
    | true =>
      by_cases hpeer : ps.config.peerService = ""
      · simp only [hpeer, Bool.not_true, Bool.false_eq_true, if_false, if_true, true_and,
          Option.some.injEq, false_iff]
        exact fun h => h.1 h.2.symm
      · simp only [hpeer, Bool.not_true, Bool.false_eq_true, if_false, decide_eq_true_eq, true_and,
          Option.some.injEq]
        constructor
        · intro h
          exact ⟨h ▸ hpeer, h.symm⟩
        · exact fun h => h.2.symm

/-- The same callers are authorised. -/
theorem SamePeers.authorized (h : SamePeers c c') {P P' : TlsCredentialProvider}
    (hP : c.provider = some P) (hP' : c'.provider = some P') (name : String)
    (caller : PeerIdentity) : P'.isAuthorized name caller = P.isAuthorized name caller := by
  rw [Bool.eq_iff_iff, isAuthorized_iff hP, isAuthorized_iff hP', h.peerOf]

/-- Reloading the material of a profile does not make or drop the provider. -/
private theorem provider_healed {env : Surroundings} {profile : String} :
    (c.healed L env profile).provider.isSome = c.provider.isSome := by
  unfold healed ensureTlsMaterialReady
  cases hP : c.provider with
  | none => split_ifs <;> simp [hP]
  | some P =>
    dsimp only
    split_ifs <;> simp [hP]

/-- The self-healing keeps the configurations. -/
private theorem samePeers_healed (c : Component) (env : Surroundings) (profile : String) :
    SamePeers c (c.healed L env profile) := by
  refine .of_profile provider_healed (fun name => profile_healed) fun name ps => ?_
  split_ifs
  · exact (validateAndStoreMaterials_frame ..).2.trans
      (by unfold ProfileState.started; split_ifs <;> rfl)
  · rfl

/-- So does a publication. -/
theorem samePeers_publish (c : Component) (env : Surroundings) (pem : Bytes) :
    SamePeers c (c.publishDeviceCertChain L env pem).2 := by
  have hstep := fun name hname =>
    @profile_step_eq L (fun _ => []) c ⟨.publishDeviceCertChain pem, env⟩ name hname
  refine .of_profile ?_ (fun name => hstep name (by simp)) fun name ps => ?_
  · rw [publishDeviceCertChain_snd]
    split_ifs
    · cases c.provider <;> rfl
    · rfl
  · dsimp only [after]
    split_ifs
    · exact (validateAndStoreMaterials_frame ..).2
    · rfl

end Tls.Component

/-! ### The installation of a certificate -/

namespace Certificates

open Tls (Component)

variable {X509 : Type} (O : OpenSsl X509) (L : Tls.Library) (env : Surroundings) (c : Component)

/-- A step of the security service leaves the lists of the provider alone. -/
private theorem samePeers_onService (f : Sec.World → ErrorCode × Sec.World) :
    c.SamePeers (onService c f).2 := .of_provider rfl

/-- Publishing a chain to the provider leaves its lists alone. -/
private theorem samePeers_publishChain (chain : ParsedCertificateChain X509) :
    c.SamePeers (publishChain O L env c chain).2 := by
  unfold publishChain
  cases O.toPem chain with
  | none => exact .refl c
  | some pem => exact Component.samePeers_publish c _ pem

/-- So storing a certificate does, with what it publishes. -/
private theorem samePeers_storeCertificate (payload : Bytes) :
    c.SamePeers (storeCertificate O L env c payload).2 := by
  unfold storeCertificate
  cases admitChain O L env payload .certInstallFailed with
  | error rc => exact .refl c
  | ok chain => exact samePeers_publishChain O L env c chain

/-- So does the variant that validates first. -/
private theorem samePeers_validateAndStore (payload : Bytes) :
    c.SamePeers (validateAndStoreCertificate O L env c payload).2 := by
  unfold validateAndStoreCertificate
  cases admitChain O L env payload .certValidationFailed with
  | error rc => exact .refl c
  | ok chain =>
    dsimp only
    split_ifs
    · exact .refl c
    · exact .refl c
    · exact samePeers_publishChain O L env c chain

/-- An installation keeps the configurations. -/
private theorem samePeers_injectCertificate (payload : Bytes) :
    c.SamePeers (injectCertificate O L env c payload).2 := by
  unfold injectCertificate
  split_ifs with hinit hdown
  · exact .refl c
  · exact .refl c
  · have hinformed := samePeers_onService c (Sec.ensureVehicleInfo env.oracle)
    dsimp only
    split_ifs
    · exact hinformed
    · exact hinformed.trans (.of_provider rfl)
    · exact hinformed.trans (.of_provider rfl)
    · let informed := (onService c (Sec.ensureVehicleInfo env.oracle)).2
      let c' : Component :=
        { informed with service := (informed.service.getProvisionStatus env.oracle).2 }
      have hread : c.SamePeers c' := hinformed.trans (.of_provider rfl)
      have hstored := samePeers_validateAndStore O L env c' payload
      exact (hread.trans hstored).trans (samePeers_onService _ _)

end Certificates

namespace Ipc

open Tls (businessKeyPeerAllowed)

variable {X509 : Type} (P : Site X509)

/-! ### Denied requests -/

/-- The methods that ask for the name of the caller and turn strangers away. -/
def MethodId.guarded : MethodId → Bool
  | .getTlsCredential | .subscribeTlsCredentialChanged | .getBusinessKeyStatus
  | .importWrappedBusinessKeys | .getBusinessKeyImportResult | .getV2cKeyProvisioningCapability
  | .importWrappedBusinessKeysKl1 | .getKeyprovContractSnapshot | .getTrustedTime
  | .subscribeTrustedTimeChanged => true
  | _ => false

/-- What a caller is told that is turned away. -/
def deniedResponse : MethodId → Response
  | .getTrustedTime | .subscribeTrustedTimeChanged =>
    envelopeResponse .aclDenied ((failedEnvelope "acl_denied").assign "valid" (.bool false))
  | _ => refused .aclDenied

namespace Server

variable (s : Server) (req : Request)

/-- The method turns the caller away. -/
def denied : MethodId → Bool
  | .getTlsCredential | .subscribeTlsCredentialChanged =>
    (s.daemon.component.provider.map fun provider =>
      !provider.isAuthorized (Tls.Component.requestProfile P.tls req.params)
        (req.resolvePeer P)).getD false
  | .getBusinessKeyStatus | .importWrappedBusinessKeys | .getBusinessKeyImportResult
  | .getV2cKeyProvisioningCapability | .importWrappedBusinessKeysKl1
  | .getKeyprovContractSnapshot =>
    s.daemon.businessKeys.isSome &&
      !businessKeyPeerAllowed P.businessKeyPeerService (req.resolvePeer P)
  | .getTrustedTime | .subscribeTrustedTimeChanged =>
    s.time.isSome && !trustedTimePeerAllowed P (req.resolvePeer P)
  | _ => false

/-- The request is turned away. -/
def denies : Bool := ((MethodId.ofValue req.methodId).map (s.denied P req)).getD false

end Server

section Denied

variable {P} {s : Server} {req : Request}

open Server

/-- A caller off the list for business keys is denied, and the body of the handler is not run. -/
private theorem withBusinessKeys_of_denied {body : Keyprov.World → Server × Option Response}
    (h : (s.daemon.businessKeys.isSome &&
      !businessKeyPeerAllowed P.businessKeyPeerService (req.resolvePeer P)) = true) :
    s.withBusinessKeys P req body = (s, some (refused .aclDenied)) := by
  obtain ⟨hsome, hpeer⟩ := Bool.and_eq_true_iff.mp h
  obtain ⟨w, hw⟩ := Option.isSome_iff_exists.mp hsome
  unfold withBusinessKeys
  rw [hw]
  exact if_pos hpeer

/-- A caller off the list for the trusted time is denied likewise. -/
private theorem withTrustedTime_of_denied {body : TimeSnapshotSource → Server × Response}
    (h : (s.time.isSome && !trustedTimePeerAllowed P (req.resolvePeer P)) = true) :
    s.withTrustedTime P req body = (s, deniedResponse .getTrustedTime) := by
  obtain ⟨hsome, hpeer⟩ := Bool.and_eq_true_iff.mp h
  obtain ⟨source, hsource⟩ := Option.isSome_iff_exists.mp hsome
  unfold withTrustedTime
  rw [hsource]
  exact if_pos hpeer

/-- **A caller that is turned away** learns the method's refusal, and leaves no trace. -/
theorem handle_of_denied {m : MethodId} (h : s.denied P req m = true) :
    s.handle P req m = (s, some (deniedResponse m)) ∧ m.guarded = true := by
  cases m with
  | getTlsCredential =>
    cases hP : s.daemon.component.provider with
    | none => simp [denied, hP] at h
    | some provider =>
      have hauth : provider.isAuthorized (Tls.Component.requestProfile P.tls req.params)
          (req.resolvePeer P) = false := by simpa [denied, hP] using h
      refine ⟨?_, rfl⟩
      simp only [handle, handleGetTlsCredential, Tls.Component.handleGetTlsCredential, hP, hauth,
        Option.isNone_some, Bool.false_eq_true, if_false, Bool.not_false, if_true, answered]
      rfl
  | subscribeTlsCredentialChanged =>
    cases hP : s.daemon.component.provider with
    | none => simp [denied, hP] at h
    | some provider =>
      have hauth : provider.isAuthorized (Tls.Component.requestProfile P.tls req.params)
          (req.resolvePeer P) = false := by simpa [denied, hP] using h
      refine ⟨?_, rfl⟩
      simp only [handle, handleSubscribeTlsCredentialChanged, hP, hauth, Bool.not_false, if_true,
        answered]
      rfl
  | getBusinessKeyStatus | importWrappedBusinessKeys | getBusinessKeyImportResult
  | getV2cKeyProvisioningCapability | importWrappedBusinessKeysKl1
  | getKeyprovContractSnapshot => exact ⟨withBusinessKeys_of_denied h, rfl⟩
  | getTrustedTime | subscribeTrustedTimeChanged =>
    exact ⟨congrArg answered (withTrustedTime_of_denied h), rfl⟩
  | _ => cases h

/-- A denied request as a step: it names a guarded method, and is answered with its refusal. -/
private theorem step_of_denies (h : s.denies P req = true) :
    ∃ m, MethodId.ofValue req.methodId = some m ∧ m.guarded = true ∧
      (server P).step s req = (s, some (makeJsonResponse (deniedResponse m))) := by
  obtain ⟨m, hm, hdenied⟩ : ∃ m, MethodId.ofValue req.methodId = some m ∧
      s.denied P req m = true := by
    unfold denies at h
    cases hm : MethodId.ofValue req.methodId with
    | none => simp [hm] at h
    | some m => exact ⟨m, rfl, by simpa [hm] using h⟩
  obtain ⟨hhandle, hguarded⟩ := handle_of_denied hdenied
  refine ⟨m, hm, hguarded, ?_⟩
  change s.dispatch P req = _
  simp only [dispatch, hm, hhandle, Option.map_some]

end Denied

/-- **Denied requests are no channel.** In every run of requests, whoever sends them: deleting the
denied ones changes neither the state the server ends in nor any of the other responses, and
leaves a run in which nobody is denied. Each denied request names one of the ten guarded methods
and is answered with the refusal of that method, whatever its parameters and the state. -/
theorem denied_requests_purged (P : Site X509) (s : Server) (reqs : List Request) :
    (server P).run s ((server P).purge (fun s req => s.denies P req) s reqs) =
        (server P).run s reqs ∧
      (server P).replies s ((server P).purge (fun s req => s.denies P req) s reqs) =
        (server P).repliesTo (fun s req => !s.denies P req) s reqs ∧
      (server P).Along (fun s req => s.denies P req = false) s
        ((server P).purge (fun s req => s.denies P req) s reqs) ∧
      ∀ before req after, reqs = before ++ req :: after →
        ((server P).run s before).denies P req = true →
          ∃ m : MethodId, MethodId.ofValue req.methodId = some m ∧ m.guarded = true ∧
            ((server P).step ((server P).run s before) req).2 =
              some (Server.makeJsonResponse (deniedResponse m)) := by
  have hidle : ∀ (s : Server) (req : Request), s.denies P req = true →
      ((server P).step s req).1 = s := by
    intro s req h
    obtain ⟨m, -, -, hstep⟩ := step_of_denies h
    rw [hstep]
  refine ⟨Machine.run_purge hidle s reqs, Machine.replies_purge hidle s reqs,
    Machine.along_purge hidle s reqs, ?_⟩
  rintro before req after - hdenied
  obtain ⟨m, hm, hguarded, hstep⟩ := step_of_denies hdenied
  exact ⟨m, hm, hguarded, by rw [hstep]⟩

/-! ### Strangers -/

namespace Server

/-- What the two servers share: everything that only a caller with a name can change. -/
structure SameHoldings (s s' : Server) : Prop where
  businessKeys : s'.daemon.businessKeys = s.daemon.businessKeys
  time : s'.time = s.time
  subscriptions : s'.subscriptions = s.subscriptions
  peers : s.daemon.component.SamePeers s'.daemon.component

/-- None of the lists of the server names the caller. -/
structure Stranger (s : Server) (req : Request) : Prop where
  businessKeys : businessKeyPeerAllowed P.businessKeyPeerService (req.resolvePeer P) = false
  time : trustedTimePeerAllowed P (req.resolvePeer P) = false
  profiles : ∀ provider ∈ s.daemon.component.provider, ∀ name,
    provider.isAuthorized name (req.resolvePeer P) = false

variable {P} {s s' s'' : Server} {req : Request}

/-- A server holds the same as itself. -/
theorem SameHoldings.refl (s : Server) : SameHoldings s s := ⟨rfl, rfl, rfl, .refl _⟩

/-- Holding the same is transitive. -/
theorem SameHoldings.trans (h : SameHoldings s s') (h' : SameHoldings s' s'') :
    SameHoldings s s'' :=
  ⟨h'.businessKeys.trans h.businessKeys, h'.time.trans h.time,
    h'.subscriptions.trans h.subscriptions, h.peers.trans h'.peers⟩

/-- The lists stay, and so does a stranger. -/
private theorem Stranger.of_sameHoldings (h : Stranger P s req) (hs : SameHoldings s s') :
    Stranger P s' req := by
  refine ⟨h.businessKeys, h.time, fun provider' hprovider' name => ?_⟩
  have hsome : s.daemon.component.provider.isSome = true := by
    rw [← hs.peers.provider, Option.mem_def.mp hprovider', Option.isSome_some]
  obtain ⟨provider, hprovider⟩ := Option.isSome_iff_exists.mp hsome
  rw [hs.peers.authorized hprovider (Option.mem_def.mp hprovider')]
  exact h.profiles provider hprovider name

/-! ### What a stranger's request does -/

/-- The responses to a caller that does not get in, or before there is anything to get. -/
def closedResponses : List Response :=
  [refused .aclDenied, deniedResponse .getTrustedTime, refused .notImplemented,
   refusedWith .notImplemented "TLS provider not configured"]

/-- A stranger gets one of the closed answers, whether or not there is a business-key service to
ask. -/
private theorem withBusinessKeys_of_stranger (h : Stranger P s req)
    (body : Keyprov.World → Server × Option Response) :
    ∃ r ∈ closedResponses, s.withBusinessKeys P req body = (s, some r) := by
  cases hkeys : s.daemon.businessKeys with
  | none =>
    refine ⟨refused .notImplemented, by simp [closedResponses], ?_⟩
    unfold withBusinessKeys
    rw [hkeys]
  | some w =>
    refine ⟨refused .aclDenied, by simp [closedResponses], ?_⟩
    exact withBusinessKeys_of_denied (by simp [hkeys, h.businessKeys])

/-- So does a stranger that asks for the time. -/
private theorem withTrustedTime_of_stranger (h : Stranger P s req)
    (body : TimeSnapshotSource → Server × Response) :
    ∃ r ∈ closedResponses, s.withTrustedTime P req body = (s, r) := by
  cases htime : s.time with
  | none =>
    refine ⟨refused .notImplemented, by simp [closedResponses], ?_⟩
    unfold withTrustedTime
    rw [htime]
  | some source =>
    refine ⟨deniedResponse .getTrustedTime, by simp [closedResponses], ?_⟩
    exact withTrustedTime_of_denied (by simp [htime, h.time])

/-- **A guarded method is closed to strangers.** -/
theorem handle_of_stranger (h : Stranger P s req) {m : MethodId} (hm : m.guarded = true) :
    ∃ r ∈ closedResponses, s.handle P req m = (s, some r) := by
  have htls : s.denied P req m = true →
      ∃ r ∈ closedResponses, s.handle P req m = (s, some r) := by
    intro hdenied
    refine ⟨deniedResponse m, ?_, (handle_of_denied hdenied).1⟩
    cases m <;> simp [closedResponses, deniedResponse]
  cases m with
  | getTlsCredential =>
    cases hP : s.daemon.component.provider with
    | none =>
      refine ⟨refusedWith .notImplemented "TLS provider not configured",
        by simp [closedResponses], ?_⟩
      simp [handle, handleGetTlsCredential, hP, answered]
    | some provider => exact htls (by simp [denied, hP, h.profiles provider hP])
  | subscribeTlsCredentialChanged =>
    cases hP : s.daemon.component.provider with
    | none =>
      refine ⟨refused .notImplemented, by simp [closedResponses], ?_⟩
      simp [handle, handleSubscribeTlsCredentialChanged, hP, answered]
    | some provider => exact htls (by simp [denied, hP, h.profiles provider hP])
  | getBusinessKeyStatus | importWrappedBusinessKeys | getBusinessKeyImportResult
  | getV2cKeyProvisioningCapability | importWrappedBusinessKeysKl1
  | getKeyprovContractSnapshot => exact withBusinessKeys_of_stranger h _
  | getTrustedTime =>
    obtain ⟨r, hr, heq⟩ := withTrustedTime_of_stranger h _
    exact ⟨r, hr, congrArg answered heq⟩
  | subscribeTrustedTimeChanged =>
    obtain ⟨r, hr, heq⟩ := withTrustedTime_of_stranger h _
    exact ⟨r, hr, congrArg answered heq⟩
  | _ => cases hm

/-- The operations of the service, less the calls of the business-key service, stay within it and
the certificates. -/
private theorem sameHoldings_operate (s : Server) (req : Request) {operation : Sec.SecOperation}
    (h : ∀ call, operation ≠ .business call) : SameHoldings s (s.operate P req operation).2 := by
  have hfresh : s.daemon.component.SamePeers s.daemon.freshComponent := .of_provider rfl
  cases operation with
  | business call => exact absurd rfl (h call)
  | injectCertificate payload =>
    have hpeers := Certificates.samePeers_injectCertificate P.openSsl P.tls
      req.answers.surroundings s.daemon.freshComponent payload
    exact ⟨rfl, rfl, rfl, hfresh.trans hpeers⟩
  | storeCertificate payload =>
    have hpeers := Certificates.samePeers_storeCertificate P.openSsl P.tls
      req.answers.surroundings s.daemon.freshComponent payload
    exact ⟨rfl, rfl, rfl, hfresh.trans hpeers⟩
  | _ => exact ⟨rfl, rfl, rfl, .of_provider rfl⟩

/-- A method that asks nobody stays clear of what has an owner. -/
private theorem sameHoldings_handle_of_open (s : Server) (req : Request) {m : MethodId}
    (hm : m.guarded = false) (hinit : m ≠ .initializeSec) :
    SameHoldings s (s.handle P req m).1 := by
  have hreport : ∀ operation : Sec.SecOperation, (∀ call, operation ≠ .business call) →
      SameHoldings s (s.reportStatus P req operation).1 :=
    fun operation h => sameHoldings_operate s req h
  cases m with
  | initializeSec => exact absurd rfl hinit
  | generateKeyPair => exact hreport .generateKeyPair (by simp)
  | submitCsr => exact hreport .submitCsr (by simp)
  | applyCertificate => exact hreport .applyCertificate (by simp)
  | resetStatus => exact hreport .resetProvisionStatus (by simp)
  | getCsr =>
    have hcsr : SameHoldings s (s.operate P req .getCsr).2 := sameHoldings_operate s req (by simp)
    exact hcsr
  | exportPrivateKey => exact ⟨rfl, rfl, rfl, .of_provider rfl⟩
  | injectCertificate =>
    simp only [handle, answered, handleInjectCertificate]
    split
    · exact .refl s
    · split_ifs
      · exact .refl s
      · exact hreport _ (by simp)
  | getSeed =>
    simp only [handle, answered, handleGetSeed]
    split
    · exact .refl s
    · rename_i level _
      have hseed : SameHoldings s (s.operate P req (.getSeed level)).2 :=
        sameHoldings_operate s req (by simp)
      exact hseed
  | verifyKey =>
    simp only [handle, answered, handleVerifyKey]
    split
    · exact .refl s
    · split_ifs
      · exact .refl s
      · exact hreport _ (by simp)
  | getTlsCredentialState =>
    refine ⟨rfl, rfl, rfl, ?_⟩
    change Tls.Component.SamePeers _ (s.daemon.component.handleGetTlsCredentialState P.tls
      req.answers.surroundings.toSurroundings req.params).1
    rw [Tls.Component.handleGetTlsCredentialState_fst]
    split_ifs
    · exact Tls.Component.samePeers_healed _ _ _
    · exact .refl _
  | signTls | getStatus | getDeviceInfo | setCaCertificate => exact .refl s
  | _ => cases hm

/-- **One request of a stranger.** -/
theorem sameHoldings_step (h : Stranger P s req)
    (hinit : MethodId.ofValue req.methodId ≠ some .initializeSec) :
    SameHoldings s ((server P).step s req).1 := by
  change SameHoldings s (s.dispatch P req).1
  unfold dispatch
  cases hm : MethodId.ofValue req.methodId with
  | none => exact .refl s
  | some m =>
    cases hguarded : m.guarded with
    | true =>
      obtain ⟨r, -, heq⟩ := handle_of_stranger h hguarded
      simp only [heq]
      exact .refl s
    | false =>
      exact sameHoldings_handle_of_open s req hguarded fun heq =>
        hinit (hm.trans (congrArg some heq))

/-- A signature is made on a reference that names the caller. -/
private theorem signature_names_caller
    (h : (s.handleSignTls P req).2.2.contains "signature" = true) :
    ∃ provider request rp, s.daemon.component.provider = some provider ∧
      Tls.Component.signRequest P.tls P.base64.decode req.params = some request ∧
      Tls.decodeRef P.tls provider request.privateKeyRef = some rp ∧
      (req.resolvePeer P).valid = true ∧ rp.callerService = (req.resolvePeer P).serviceName := by
  have hrefused : ∀ rc, (refused rc).2.contains "signature" = false := fun rc => rfl
  have hinvalid : invalidJson.2.contains "signature" = false := rfl
  simp only [handleSignTls, Tls.Component.handleSignTls] at h
  cases hP : s.daemon.component.provider with
  | none => simp [hP, tlsResponse, hrefused] at h
  | some provider =>
    cases hrequest : Tls.Component.signRequest P.tls P.base64.decode req.params with
    | none => simp [hP, hrequest, tlsResponse, hinvalid] at h
    | some request =>
      simp only [hP, hrequest] at h
      split at h
      · rename_i signature hsign
        obtain ⟨rp, ps, horder, -⟩ := Tls.signTls_eq_ok_iff.mp hsign
        exact ⟨provider, request, rp, rfl, rfl, horder.decodes, horder.valid, horder.caller_eq⟩
      · simp [tlsResponse, hrefused] at h

/-- The steps of a run of strangers. -/
private theorem sameHoldings_run {s₀ : Server} {reqs : List Request}
    (h : ∀ req ∈ reqs, Stranger P s₀ req ∧
      MethodId.ofValue req.methodId ≠ some .initializeSec) :
    SameHoldings s₀ ((server P).run s₀ reqs) := by
  have hstep : ∀ s req, SameHoldings s₀ s →
      (Stranger P s₀ req ∧ MethodId.ofValue req.methodId ≠ some .initializeSec) →
        SameHoldings s₀ ((server P).step s req).1 := fun s req hs hreq =>
    hs.trans (sameHoldings_step (hreq.1.of_sameHoldings hs) hreq.2)
  refine Machine.run_invariant (server P) hstep (.refl s₀)
    (Machine.along_mono (server P) (fun _ req hreq _ => h req hreq) ((server P).along_true s₀ reqs))

end Server

/-- **Strangers are confined.** In every run of requests of callers that no list of the server
names, and without `INITIALIZE`, which makes the objects anew: the business keys, the source of
the trusted time, the subscriptions and the lists stay as they were; every request of a guarded
method is answered with one of four refusals; and a signature is made only on a reference that
names the caller. -/
theorem strangers_confined (P : Site X509) (s₀ : Server) (reqs : List Request)
    (h : ∀ req ∈ reqs, Server.Stranger P s₀ req ∧
      MethodId.ofValue req.methodId ≠ some .initializeSec) :
    Server.SameHoldings s₀ ((server P).run s₀ reqs) ∧
      ∀ before req after, reqs = before ++ req :: after →
        ∀ m, MethodId.ofValue req.methodId = some m →
          (m.guarded = true → ∃ r ∈ Server.closedResponses,
            ((server P).step ((server P).run s₀ before) req).2 =
              some (Server.makeJsonResponse r)) ∧
          (m = .signTls → ∀ response,
            ((server P).step ((server P).run s₀ before) req).2 = some response →
              response.contains "signature" = true →
                ∃ provider request rp,
                  ((server P).run s₀ before).daemon.component.provider = some provider ∧
                  Tls.Component.signRequest P.tls P.base64.decode req.params = some request ∧
                  Tls.decodeRef P.tls provider request.privateKeyRef = some rp ∧
                  (req.resolvePeer P).valid = true ∧
                  rp.callerService = (req.resolvePeer P).serviceName) := by
  refine ⟨Server.sameHoldings_run h, ?_⟩
  rintro before req after rfl m hm
  have hbefore : Server.SameHoldings s₀ ((server P).run s₀ before) :=
    Server.sameHoldings_run fun r hr => h r (List.mem_append_left _ hr)
  have hreq := (h req (by simp)).1.of_sameHoldings hbefore
  set s := (server P).run s₀ before with hs
  have hstep : (server P).step s req = ((s.handle P req m).1,
      (s.handle P req m).2.map Server.makeJsonResponse) := by
    change s.dispatch P req = _
    simp only [Server.dispatch, hm]
  rw [hstep]
  constructor
  · intro hguarded
    obtain ⟨r, hr, heq⟩ := Server.handle_of_stranger hreq hguarded
    exact ⟨r, hr, by rw [heq, Option.map_some]⟩
  · rintro rfl response hresponse hsignature
    obtain rfl : Server.makeJsonResponse (s.handleSignTls P req).2 = response :=
      Option.some.inj hresponse
    refine Server.signature_names_caller ?_
    simpa [Server.makeJsonResponse, Json.contains] using hsignature

/-- The service of the over-the-air updates is a stranger to the server of the bench. -/
private theorem exampleRequest_stranger (method : MethodId) :
    Server.Stranger exampleSite exampleServer (exampleRequest method) := by
  have hpeer : (exampleRequest method).resolvePeer exampleSite =
      { valid := true, serviceName := "tbox-ota.service" } := by
    change Tls.resolve true exampleAnswers.cgroup = _
    decide +kernel
  refine ⟨?_, ?_, fun provider hprovider name => ?_⟩
  · rw [hpeer]
    decide
  · rw [hpeer]
    decide
  · have hpeers : (exampleServer.daemon.component.provider.map fun provider =>
        provider.profiles.toList.map fun kv => kv.2.config.peerService) =
          some ["tbox-mqtt.service"] := by decide +kernel
    rw [Option.mem_def.mp hprovider, Option.map_some, Option.some.injEq] at hpeers
    rw [hpeer, ← Bool.not_eq_true, Tls.Component.isAuthorized_iff hprovider]
    rintro ⟨-, -, hpeerOf⟩
    obtain ⟨ps, hps, hservice⟩ := Option.map_eq_some_iff.mp hpeerOf
    have hfound : provider.profiles.find? name = some ps := by
      rw [← hps, Tls.Component.profile, Option.mem_def.mp hprovider, Option.bind_some]
    have hmem : "tbox-ota.service" ∈ provider.profiles.toList.map
        fun kv => kv.2.config.peerService :=
      List.mem_map.mpr ⟨(name, ps), OrdMap.mem_toList_iff.mpr hfound, hservice⟩
    rw [hpeers] at hmem
    exact absurd hmem (by decide)

/-- The update service is on no list of the example site: it gets nowhere with a signing request and
a credential. -/
theorem strangers_confined_ota :
    Server.SameHoldings exampleServer ((server exampleSite).run exampleServer
        [exampleRequest .submitCsr, exampleRequest .getTlsCredential]) ∧
      ∃ r ∈ Server.closedResponses,
        ((server exampleSite).step ((server exampleSite).run exampleServer
          [exampleRequest .submitCsr]) (exampleRequest .getTlsCredential)).2 =
            some (Server.makeJsonResponse r) := by
  have hconfined := strangers_confined exampleSite exampleServer
    [exampleRequest .submitCsr, exampleRequest .getTlsCredential] (by
      intro req hreq
      rcases List.mem_pair.mp hreq with rfl | rfl
      · exact ⟨exampleRequest_stranger _, by decide⟩
      · exact ⟨exampleRequest_stranger _, by decide⟩)
  exact ⟨hconfined.1, (hconfined.2 [exampleRequest .submitCsr] (exampleRequest .getTlsCredential) []
    rfl .getTlsCredential (by decide)).1 rfl⟩

end Ipc

end TboxSec
