import TboxSec.Tls.Steps

/-!
# Versions

A version identifies the material it was served with. The reload of the dispatcher does not touch
the version, but it happens only while the profile is not ready, and a ready profile loses its
status together with its version: it is **frozen** until the version grows (`Frozen.step`).

A publication commits the new chain first and rotates `mqtt` afterwards, within one call. Between
calls a ready `mqtt` therefore serves the chain that is current in the store
(`ServesCurrent.step`).

* `Call.LeavesToRequests`: the call does not reconfigure the profile, nor load its material by
  itself.
* `VersionsIdentify` has the three clauses: versions grow, a version has one material, and a
  publication is seen in the bundles that come after it.
-/

namespace TboxSec.Tls

/-- Material loaded from `resolve` is that of the configured key. -/
private theorem chain_validateAndStoreMaterials {X : X509Lib} {E : Collaborators}
    {ps : ProfileState}
    {resolve : String → Bytes} (hresolve : E.materialResolver = some resolve)
    (hready : (validateAndStoreMaterials X E ps).2.status = .ready) :
    (validateAndStoreMaterials X E ps).2.clientCertChainDer =
      derBundle (X.loadCerts (resolve ps.config.clientCertChainKey)) := by
  obtain ⟨roots, leaf, untrusted, hacc, heq⟩ | hrej := validateAndStoreMaterials_cases X E ps
  · obtain ⟨resolve', hresolve', -, hchain⟩ := hacc.resolved
    obtain rfl : resolve = resolve' := Option.some.inj (hresolve.symm.trans hresolve')
    rw [heq, hchain]
    rfl
  · exact absurd hready hrej.ready

/-- Two bundles carry the same material. -/
structure SameMaterial (b b' : TlsCredentialBundle) : Prop where
  rootCaBundleDer : b.rootCaBundleDer = b'.rootCaBundleDer
  clientCertChainDer : b.clientCertChainDer = b'.clientCertChainDer
  notBefore : b.notBefore = b'.notBefore
  notAfter : b.notAfter = b'.notAfter

theorem SameMaterial.symm {b b' : TlsCredentialBundle} (h : SameMaterial b b') :
    SameMaterial b' b :=
  ⟨h.rootCaBundleDer.symm, h.clientCertChainDer.symm, h.notBefore.symm, h.notAfter.symm⟩

/-- The call neither reconfigures the profile nor loads its material directly. -/
def Call.LeavesToRequests (name : String) (call : Call) : Prop :=
  match call.op with
  | .provider (.configureProfile config) => config.profileName ≠ name
  | .provider (.loadMaterials profile) => profile ≠ name
  | _ => True

namespace Component

variable {L : Library} {base64Decode : String → Bytes} {c : Component} {call : Call}
  {name : String}

/-! ### A version and its material -/

/-- The profile is still in the state `ps`, or its version has grown. -/
def Frozen (name : String) (ps : ProfileState) (c : Component) : Prop :=
  ∃ ps', c.profile name = some ps' ∧ (ps' = ps ∨ ps.version < ps'.version)

/-- **A ready profile is frozen** until its version grows. -/
theorem Frozen.step {ps : ProfileState} (hready : ps.status = .ready) (h : Frozen name ps c)
    (hcall : call.LeavesToRequests name) :
    Frozen name ps (c.step L base64Decode call).1 := by
  obtain ⟨ps', hps', hstill | hgrown⟩ := h
  · subst hstill
    have heffect := effect_after L base64Decode c call name ps'
    refine ⟨_, profile_step hps', ?_⟩
    generalize c.after L call name ps' = after at heffect
    cases heffect with
    | kept => exact .inl rfl
    | configured config hop hname =>
      unfold Call.LeavesToRequests at hcall
      rw [hop] at hcall
      exact absurd hname hcall
    | revoked => exact .inr (Nat.lt_succ_self _)
    | reloaded c' now _ _ hwhy =>
      obtain hne | hop := hwhy
      · exact absurd hready hne
      · unfold Call.LeavesToRequests at hcall
        rw [hop] at hcall
        exact absurd rfl hcall
    | rotated c' now =>
      refine .inr ?_
      rw [(validateAndStoreMaterials_frame ..).1]
      exact Nat.lt_succ_self _
  · refine ⟨_, profile_step hps', .inr ?_⟩
    exact lt_of_lt_of_le hgrown (effect_after L base64Decode c call name ps').version_le

/-- The version of the profile is at least `v`. -/
def VersionFrom (name : String) (v : ℕ) (c : Component) : Prop :=
  ∃ ps, c.profile name = some ps ∧ v ≤ ps.version

variable (L base64Decode call) in
theorem VersionFrom.step {v : ℕ} (h : VersionFrom name v c) :
    VersionFrom name v (c.step L base64Decode call).1 := by
  obtain ⟨ps, hps, hle⟩ := h
  exact ⟨_, profile_step hps,
    le_trans hle (effect_after L base64Decode c call name ps).version_le⟩

/-! ### The current chain -/

/-- A ready `mqtt` serves the chain that is current in the store. -/
def ServesCurrent (X : X509Lib) (c : Component) : Prop :=
  ∀ ps, c.profile "mqtt" = some ps →
    ps.config.clientCertChainKey = "device_cert_chain" ∧
      (ps.status = .ready →
        ps.clientCertChainDer = derBundle (X.loadCerts c.currentDeviceCertChain))

private theorem currentDeviceCertChain_congr {c' : Component} (h : c'.certStore = c.certStore) :
    c'.currentDeviceCertChain = c.currentDeviceCertChain := by
  unfold currentDeviceCertChain
  rw [h]

/-- Material loaded from the store is the chain that is current there. -/
private theorem chain_of_store {c' : Component} {env : Surroundings} {now : ℤ} {ps : ProfileState}
    (hkey : ps.config.clientCertChainKey = "device_cert_chain")
    (hstore : c'.certStore = c.certStore)
    (hready : (validateAndStoreMaterials L.x509 (c'.collaborators env now) ps).2.status =
      .ready) :
    (validateAndStoreMaterials L.x509 (c'.collaborators env now) ps).2.clientCertChainDer =
      derBundle (L.x509.loadCerts c.currentDeviceCertChain) := by
  have hchain := chain_validateAndStoreMaterials
    (show (c'.collaborators env now).materialResolver = some (c'.resolveMaterial env) from rfl)
    hready
  rw [hchain, hkey, ← currentDeviceCertChain_congr hstore]
  rfl

/-- **Between calls a ready `mqtt` serves the current chain.** -/
theorem ServesCurrent.step (h : ServesCurrent L.x509 c)
    (hcall : call.LeavesToRequests "mqtt") :
    ServesCurrent L.x509 (c.step L base64Decode call).1 := by
  intro ps' hps'
  cases hps : c.profile "mqtt" with
  | none =>
    obtain ⟨config, hop, hname, -⟩ := profile_step_new hps hps'
    unfold Call.LeavesToRequests at hcall
    rw [hop] at hcall
    exact absurd hname hcall
  | some ps =>
    obtain ⟨hkey, hcurrent⟩ := h ps hps
    have heffect := effect_after L base64Decode c call "mqtt" ps
    obtain rfl : c.after L call "mqtt" ps = ps' :=
      Option.some.inj ((profile_step hps).symm.trans hps')
    generalize c.after L call "mqtt" ps = after at heffect
    cases heffect with
    | kept hstore =>
      refine ⟨hkey, fun hready => ?_⟩
      rw [currentDeviceCertChain_congr (hstore rfl)]
      exact hcurrent hready
    | configured config hop hname =>
      unfold Call.LeavesToRequests at hcall
      rw [hop] at hcall
      exact absurd hname hcall
    | revoked => exact ⟨hkey, fun hready => absurd hready (by simp [ProfileState.revoke])⟩
    | reloaded c' now hstore =>
      have hstarted : ps.started.config = ps.config := by
        unfold ProfileState.started
        split_ifs <;> rfl
      refine ⟨?_, fun hready => chain_of_store (hstarted ▸ hkey) hstore hready⟩
      rw [(validateAndStoreMaterials_frame ..).2, hstarted]
      exact hkey
    | rotated c' now hstore =>
      refine ⟨?_, fun hready => chain_of_store hkey hstore hready⟩
      rw [(validateAndStoreMaterials_frame ..).2]
      exact hkey

/-- After the start a ready `mqtt` serves the current chain. -/
private theorem servesCurrent_started {env : Surroundings} {hsm : Bool}
    {profiles : OrdMap String TlsProfileConf} {processKey : Bytes} {bootEpoch : UInt64}
    (h : c.provider = none) :
    ServesCurrent L.x509
      (c.initializeTlsCredentialProvider L env hsm profiles processKey bootEpoch) := by
  have hnone : ServesCurrent L.x509 c := by
    intro ps hps
    simp [Component.profile, h] at hps
  unfold initializeTlsCredentialProvider
  split_ifs
  · exact hnone
  · exact hnone
  refine loadProfiles_induction
    (I := fun P => ∀ ps, P.profiles.find? "mqtt" = some ps →
      ps.config.clientCertChainKey = "device_cert_chain" ∧ (ps.status = .ready →
        ps.clientCertChainDer =
          derBundle (L.x509.loadCerts (c.informed env).currentDeviceCertChain)))
    ?_ ?_ ?_ profiles.toList
  · intro P pc name hP ps hps
    rw [find?_configureProfile] at hps
    split_ifs at hps
    · obtain rfl := Option.some.inj hps
      cases hold : P.profiles.find? "mqtt" with
      | none => exact ⟨rfl, fun hready => absurd hready (by simp [ProfileState.configured])⟩
      | some ps' =>
        rw [Option.getD_some]
        unfold ProfileState.configured
        dsimp only
        split_ifs
        · exact ⟨rfl, fun hready => absurd hready (by simp)⟩
        · exact ⟨rfl, (hP ps' hold).2⟩
    · exact hP ps hps
  · intro P profile hP ps hps
    rw [loadMaterials_snd, find?_update] at hps
    split_ifs at hps
    · obtain ⟨ps', hps', rfl⟩ := Option.map_eq_some_iff.mp hps
      have hstarted : ps'.started.config = ps'.config := by
        unfold ProfileState.started
        split_ifs <;> rfl
      have hkey := (hP ps' hps').1
      refine ⟨?_, fun hready => chain_of_store (hstarted ▸ hkey) rfl hready⟩
      rw [(validateAndStoreMaterials_frame ..).2, hstarted]
      exact hkey
    · exact hP ps hps
  · intro ps hps
    exact absurd hps (by simp)

/-! ### Runs -/

section Runs

variable {s : Component} {calls : List Call} {ps : ProfileState}

/-- A condition on the calls alone holds along every run of them. -/
private theorem along_calls {p : Call → Prop} (h : ∀ call ∈ calls, p call) :
    (component L base64Decode).Along (fun _ call => p call) s calls :=
  (component L base64Decode).along_mono (fun _ call hcall _ => h call hcall)
    ((component L base64Decode).along_true s calls)

variable (L base64Decode) in
theorem frozen_run (hps : s.profile name = some ps) (hready : ps.status = .ready)
    (hcalls : ∀ call ∈ calls, call.LeavesToRequests name) :
    Frozen name ps ((component L base64Decode).run s calls) :=
  (component L base64Decode).run_invariant (fun _ _ hfrozen hcall => hfrozen.step hready hcall)
    ⟨ps, hps, .inl rfl⟩ (along_calls hcalls)

variable (L base64Decode calls) in
private theorem versionFrom_run {v : ℕ} (h : VersionFrom name v s) :
    VersionFrom name v ((component L base64Decode).run s calls) :=
  (component L base64Decode).run_invariant (fun _ call hfrom _ => hfrom.step L base64Decode call) h
    ((component L base64Decode).along_true s calls)

private theorem servesCurrent_run (h : ServesCurrent L.x509 s)
    (hcalls : ∀ call ∈ calls, call.LeavesToRequests "mqtt") :
    ServesCurrent L.x509 ((component L base64Decode).run s calls) :=
  (component L base64Decode).run_invariant (fun _ _ hserves hcall => hserves.step hcall) h
    (along_calls hcalls)

/-- The call is no publication that commits. -/
def NoCommit (L : Library) (c : Component) (call : Call) : Prop :=
  ∀ pem, call.op = .publishDeviceCertChain pem → c.commits L call.env pem = false

theorem NoCommit.certStore (h : c.NoCommit L call) :
    (c.step L base64Decode call).1.certStore = c.certStore := by
  rw [certStore_step]
  split
  · rename_i pem hop
    rw [h pem hop]
    rfl
  · rfl

private theorem certStore_run (h : (component L base64Decode).Along (NoCommit L) s calls) :
    ((component L base64Decode).run s calls).certStore = s.certStore :=
  (component L base64Decode).run_invariant (I := fun s' => s'.certStore = s.certStore)
    (fun _ _ hsame hcommit => hcommit.certStore.trans hsame) rfl h

/-- The profile behind a bundle. -/
theorem Grants.profile {b : TlsCredentialBundle} (h : c.Grants L base64Decode call name b) :
    ∃ ps ref, (c.step L base64Decode call).1.profile name = some ps ∧ ps.status = .ready ∧
      b = ps.bundle ref := by
  obtain ⟨ps, ref, hgrantable, rfl⟩ := grants_iff.mp h
  have hprofile := hgrantable.profile
  obtain ⟨_, _, -, -, -, -, hready, -⟩ := hgrantable
  exact ⟨ps, ref, hprofile, hready, rfl⟩

/-- A later bundle of the same version carries the same material. -/
private theorem sameMaterial_of_later {ps' : ProfileState} {ref ref' : Bytes}
    (hps : s.profile name = some ps) (hready : ps.status = .ready)
    (hcalls : ∀ call ∈ calls, call.LeavesToRequests name)
    (hps' : ((component L base64Decode).run s calls).profile name = some ps')
    (hversion : ps.version = ps'.version) :
    SameMaterial (ps.bundle ref) (ps'.bundle ref') := by
  obtain ⟨ps'', hps'', hstill | hgrown⟩ :=
    frozen_run L base64Decode hps hready hcalls
  · obtain rfl : ps'' = ps' := Option.some.inj (hps''.symm.trans hps')
    rw [hstill]
    exact ⟨rfl, rfl, rfl, rfl⟩
  · obtain rfl : ps'' = ps' := Option.some.inj (hps''.symm.trans hps')
    omega

end Runs

/-- What is to be known of the versions of a profile along a run from `s`. -/
structure VersionsIdentify (L : Library) (base64Decode : String → Bytes) (s : Component)
    (name : String) (calls : List Call) : Prop where
  /-- The version never decreases. -/
  monotone : ∀ before after ps ps', calls = before ++ after →
    ((component L base64Decode).run s before).profile name = some ps →
    ((component L base64Decode).run s calls).profile name = some ps' → ps.version ≤ ps'.version
  /-- Bundles of one version carry one material. -/
  material : ∀ before call after before' call' after' b b',
    calls = before ++ call :: after → calls = before' ++ call' :: after' →
    ((component L base64Decode).run s before).Grants L base64Decode call name b →
    ((component L base64Decode).run s before').Grants L base64Decode call' name b' →
    b.version = b'.version → SameMaterial b b'
  /-- After a publication that commits, bundles of `mqtt` have a new version, and until another
  one commits they carry the new chain. -/
  publication : name = "mqtt" → ∀ before publish mid call after pem b,
    calls = before ++ publish :: mid ++ call :: after →
    publish.op = .publishDeviceCertChain pem →
    ((component L base64Decode).run s before).commits L publish.env pem = true →
    ((component L base64Decode).run s (before ++ publish :: mid)).Grants L base64Decode call
      "mqtt" b →
    (∀ ps, ((component L base64Decode).run s before).profile "mqtt" = some ps →
      ps.version < b.version) ∧
    ((component L base64Decode).Along (NoCommit L)
        ((component L base64Decode).run s (before ++ [publish])) mid →
      b.clientCertChainDer = derBundle (L.x509.loadCerts pem))

/-- A publication that commits moves the version of `mqtt` on. -/
private theorem versionFrom_publish {pem : Bytes} {ps : ProfileState}
    (hop : call.op = .publishDeviceCertChain pem) (hcommits : c.commits L call.env pem = true)
    (hps : c.profile "mqtt" = some ps) :
    VersionFrom "mqtt" (ps.version + 1) (c.step L base64Decode call).1 := by
  refine ⟨_, profile_step hps, ?_⟩
  unfold after
  rw [hop]
  dsimp only
  rw [if_pos ⟨hcommits, rfl⟩, (validateAndStoreMaterials_frame ..).1]
  exact le_refl _

/-- A publication that commits makes its chain the current one. -/
private theorem currentDeviceCertChain_publish {pem : Bytes}
    (hop : call.op = .publishDeviceCertChain pem)
    (hcommits : c.commits L call.env pem = true) :
    (c.step L base64Decode call).1.currentDeviceCertChain = pem := by
  have hstore : (c.step L base64Decode call).1.certStore = (c.committed pem).certStore := by
    rw [certStore_step, hop]
    exact if_pos hcommits
  rw [currentDeviceCertChain_congr hstore]
  rfl

/-- A call that asks for a credential commits nothing. -/
private theorem Grants.noCommit {b : TlsCredentialBundle}
    (h : c.Grants L base64Decode call name b) :
    c.NoCommit L call := by
  obtain ⟨caller, hasks, -⟩ := h
  intro pem hop
  unfold Call.asks at hasks
  rw [hop] at hasks
  exact absurd hasks (by simp)

/-- **A version identifies its material.** In every run of the process after its start in which the
profile is not reconfigured and its material is loaded by requests only: the version never
decreases, bundles of one version carry one material, and after a publication that commits the
bundles of `mqtt` have a new version, and carry the new chain until another publication commits. -/
theorem version_identifies_material (L : Library) (base64Decode : String → Bytes)
    (c : Component) (env : Surroundings) (hsm : Bool) (profiles : OrdMap String TlsProfileConf)
    (processKey : Bytes) (bootEpoch : UInt64) (hstart : c.provider = none) (name : String)
    (calls : List Call) (hcalls : ∀ call ∈ calls, call.LeavesToRequests name) :
    VersionsIdentify L base64Decode
      (c.initializeTlsCredentialProvider L env hsm profiles processKey bootEpoch) name
      calls := by
  have hserves : ServesCurrent L.x509
      (c.initializeTlsCredentialProvider L env hsm profiles processKey bootEpoch) :=
    servesCurrent_started hstart
  generalize c.initializeTlsCredentialProvider L env hsm profiles processKey bootEpoch = s
    at hserves
  refine ⟨?_, ?_, ?_⟩
  · rintro before after ps ps' rfl hps hps'
    rw [Machine.run_append] at hps'
    obtain ⟨ps'', hps'', hle⟩ :=
      versionFrom_run L base64Decode after ⟨ps, hps, le_refl _⟩
    obtain rfl : ps'' = ps' := Option.some.inj (hps''.symm.trans hps')
    exact hle
  · -- Of two bundles one is the later one.
    have hlater : ∀ before call after before' call' after' b b',
        calls = before ++ call :: after → calls = before' ++ call' :: after' →
        ((component L base64Decode).run s before).Grants L base64Decode call name b →
        ((component L base64Decode).run s before').Grants L base64Decode call' name b' →
        b.version = b'.version → before ++ [call] <+: before' ++ [call'] →
        SameMaterial b b' := by
      intro before call after before' call' after' b b' heq heq' hb hb' hversion hprefix
      obtain ⟨ps, ref, hps, hready, rfl⟩ := hb.profile
      obtain ⟨ps', ref', hps', -, rfl⟩ := hb'.profile
      obtain ⟨mid, hmid⟩ := hprefix
      have hrun : (component L base64Decode).run
          ((component L base64Decode).run s (before ++ [call])) mid =
            (component L base64Decode).run s (before' ++ [call']) := by
        rw [← Machine.run_append, hmid]
      have hmem : ∀ x ∈ mid, x.LeavesToRequests name := by
        intro x hx
        refine hcalls x ?_
        have hsub : x ∈ before' ++ [call'] := hmid ▸ List.mem_append_right _ hx
        rw [heq']
        simp only [List.mem_append, List.mem_cons, List.not_mem_nil, or_false] at hsub ⊢
        obtain hx' | hx' := hsub
        · exact .inl hx'
        · exact .inr (.inl hx')
      have hps₁ : ((component L base64Decode).run s (before ++ [call])).profile name = some ps := by
        rw [Machine.run_append]
        exact hps
      have hps₂ : ((component L base64Decode).run
          ((component L base64Decode).run s (before ++ [call])) mid).profile name = some ps' := by
        rw [hrun, Machine.run_append]
        exact hps'
      exact sameMaterial_of_later hps₁ hready hmem hps₂ hversion
    intro before call after before' call' after' b b' heq heq' hb hb' hversion
    have hprefix : before ++ [call] <+: calls := ⟨after, by rw [heq]; simp⟩
    have hprefix' : before' ++ [call'] <+: calls := ⟨after', by rw [heq']; simp⟩
    obtain hle | hle := List.prefix_or_prefix_of_prefix hprefix hprefix'
    · exact hlater before call after before' call' after' b b' heq heq' hb hb' hversion hle
    · exact (hlater before' call' after' before call after b' b heq' heq hb' hb hversion.symm
        hle).symm
  · rintro rfl before publish mid call after pem b heq hop hcommits hgrants
    obtain ⟨ps', ref, hps', hready, rfl⟩ := hgrants.profile
    have hpublished : (component L base64Decode).run s (before ++ [publish]) =
        (((component L base64Decode).run s before).step L base64Decode publish).1 := by
      rw [Machine.run_append]
      rfl
    have hmid : (component L base64Decode).run s (before ++ publish :: mid) =
        (component L base64Decode).run
          ((component L base64Decode).run s (before ++ [publish])) mid := by
      rw [← Machine.run_append]
      simp
    refine ⟨fun ps hps => ?_, fun hquiet => ?_⟩
    · have hfrom : VersionFrom "mqtt" (ps.version + 1)
          ((component L base64Decode).run s (before ++ publish :: mid)) := by
        rw [hmid, hpublished]
        exact versionFrom_run L base64Decode mid (versionFrom_publish hop hcommits hps)
      obtain ⟨ps'', hps'', hle⟩ := hfrom.step L base64Decode call
      obtain rfl : ps'' = ps' := Option.some.inj (hps''.symm.trans hps')
      exact hle
    · have hbefore : ServesCurrent L.x509
          ((component L base64Decode).run s (before ++ publish :: mid)) := by
        refine servesCurrent_run hserves fun x hx => hcalls x ?_
        rw [heq]
        exact List.mem_append_left _ hx
      have hcall : call.LeavesToRequests "mqtt" := hcalls call (by rw [heq]; simp)
      have hchain := (hbefore.step hcall ps' hps').2 hready
      have hcurrent : (((component L base64Decode).run s (before ++ publish :: mid)).step L
          base64Decode call).1.currentDeviceCertChain = pem := by
        rw [currentDeviceCertChain_congr hgrants.noCommit.certStore, hmid,
          currentDeviceCertChain_congr (certStore_run hquiet), hpublished]
        exact currentDeviceCertChain_publish hop hcommits
      rw [hcurrent] at hchain
      exact hchain

/-! ### A publication between two requests -/

/-- A request of the MQTT service for its credential at the time `t`. -/
def exampleGet (t : ℤ) : Call :=
  { op := .getTlsCredential [] { valid := true, serviceName := "tbox-mqtt.service" }
    env := exampleEnv t }

/-- A request, the publication of a new chain, and another request. -/
def exampleRenewal : List Call :=
  [exampleGet 200, { op := .publishDeviceCertChain [3], env := exampleEnv 300 }, exampleGet 400]

/-- The two bundles of the renewal carry the versions 1 and 2. -/
theorem version_identifies_material_renewal :
    VersionsIdentify exampleLibrary (fun _ => [])
        (exampleVehicle.initializeTlsCredentialProvider exampleLibrary (exampleEnv 100) true
          exampleProfiles [] 7) "mqtt" exampleRenewal ∧
      ((component exampleLibrary fun _ => []).replies
        (exampleVehicle.initializeTlsCredentialProvider exampleLibrary (exampleEnv 100) true
          exampleProfiles [] 7) exampleRenewal).map
        (fun r => r.bundle?.map fun b => (b.version, b.clientCertChainDer)) =
          [some (1, [2]), none, some (2, [3])] := by
  refine ⟨?_, by decide +kernel⟩
  refine version_identifies_material exampleLibrary (fun _ => []) exampleVehicle (exampleEnv 100)
    true exampleProfiles [] 7 rfl "mqtt" exampleRenewal ?_
  intro call hcall
  simp only [exampleRenewal, List.mem_cons, List.not_mem_nil, or_false] at hcall
  obtain rfl | rfl | rfl := hcall <;> trivial

end Component

end TboxSec.Tls
