import TboxSec.Tls.Service

/-!
# What a call does

`Component.after` is the effect of a call on one profile: a request reloads the material of the
profile it names exactly when `Component.Reloads` holds, a publication that commits rotates
`mqtt`, and a direct operation acts as the provider says. `profile_step` is the only place where
the handlers are run.

`Grants`, `Signs` and `Reports` are the three ways in which a call answers from a profile, whether
it came through the dispatcher or not. `grants_iff` and its companions give the state of the
profile behind the answer.

* `Effect` lists what can happen to a profile, and `effect_after` says that `Component.after` is
  one of these; invariants of a profile are proved by cases on it.
* `answering` is the profile that answers a request for a credential, and `GivesBundle` says when a
  call is answered with a bundle, both from the state before the call.
-/

namespace TboxSec.Tls

namespace Component

variable (L : Library) (base64Decode : String → Bytes) (c : Component) (call : Call)

/-- The state of a profile. -/
def profile (name : String) : Option ProfileState :=
  c.provider.bind fun P => P.profiles.find? name

/-- The peer is authorised for the profile. -/
def authorized (name : String) (caller : PeerIdentity) : Bool :=
  (c.provider.map fun P => P.isAuthorized name caller).getD false

/-- The profile whose material the handler of the call sees to, if it gets that far. -/
def heals : Option String :=
  match call.op with
  | .getTlsCredential params caller =>
    if c.authorized (requestProfile L params) caller then some (requestProfile L params) else none
  | .getTlsCredentialState params => some (requestProfile L params)
  | _ => none

/-- The call reloads the material of the profile `name` in the state `ps`. -/
def Reloads (name : String) (ps : ProfileState) : Prop :=
  c.heals L call = some name ∧ c.dispatcherService = true ∧ ps.status ≠ .ready ∧
    (c.informed call.env).VehicleKnown

instance (name : String) (ps : ProfileState) : Decidable (c.Reloads L call name ps) :=
  inferInstanceAs (Decidable (_ ∧ _))

/-- What a call does to the profile `name`. -/
def after (name : String) (ps : ProfileState) : ProfileState :=
  match call.op with
  | .signTls _ _ => ps
  | .publishDeviceCertChain pem =>
    if c.commits L call.env pem = true ∧ name = "mqtt" then
      (validateAndStoreMaterials L.x509
        ((c.committed pem).collaborators call.env call.env.clock.load) ps.bumped).2
    else ps
  | .provider op => ps.perform L (c.collaborators call.env call.env.clock.serve) name op
  | _ =>
    if c.Reloads L call name ps then
      (validateAndStoreMaterials L.x509
        ((c.informed call.env).collaborators call.env call.env.clock.load) ps.started).2
    else ps

variable {L base64Decode c call}

/-! ### Self-healing -/

@[simp]
theorem provider_informed {env : Surroundings} : (c.informed env).provider = c.provider := by
  unfold informed
  split_ifs <;> rfl

@[simp]
theorem certStore_informed {env : Surroundings} : (c.informed env).certStore = c.certStore := by
  unfold informed
  split_ifs <;> rfl

/-- What the self-healing does to the profiles. -/
private theorem profile_ensureTlsMaterialReady {env : Surroundings} {profile name : String} :
    (c.ensureTlsMaterialReady L env profile).2.profile name =
      (c.profile name).map fun ps =>
        if profile = name ∧ ps.status ≠ .ready ∧ (c.informed env).VehicleKnown then
          (validateAndStoreMaterials L.x509
            ((c.informed env).collaborators env env.clock.load) ps.started).2
        else ps := by
  unfold ensureTlsMaterialReady
  cases hP : c.provider with
  | none => simp [Component.profile, hP]
  | some P =>
    have hprofile : ∀ x, c.profile x = P.profiles.find? x := by
      intro x
      simp [Component.profile, hP]
    dsimp only
    by_cases hready : (P.getTlsCredentialState profile).toOption.map (·.status) = some .ready
    · rw [if_pos hready, hprofile]
      cases hps : P.profiles.find? name with
      | none => rfl
      | some ps =>
        -- The profile is ready, so nothing is reloaded.
        have hcond : ¬ (profile = name ∧ ps.status ≠ .ready ∧ (c.informed env).VehicleKnown) := by
          rintro ⟨rfl, hne, -⟩
          have hstate : P.getTlsCredentialState profile = .ok ps.summary :=
            getTlsCredentialState_eq_ok_iff.mpr ⟨ps, hps, rfl⟩
          rw [hstate] at hready
          exact hne (Option.some.inj hready)
        rw [Option.map_some, if_neg hcond]
    rw [if_neg hready]
    by_cases hknown : (c.informed env).VehicleKnown
    · rw [if_pos hknown]
      have hstored : ({ c.informed env with provider := some (P.loadMaterials L
          ((c.informed env).collaborators env env.clock.load) profile).2 } : Component).profile
            name = (P.loadMaterials L ((c.informed env).collaborators env env.clock.load)
              profile).2.profiles.find? name := rfl
      refine hstored.trans ?_
      rw [loadMaterials_snd, find?_update, hprofile]
      by_cases hname : name = profile
      · rw [if_pos hname]
        cases hps : P.profiles.find? name with
        | none => rfl
        | some ps =>
          have hne : ps.status ≠ .ready := by
            intro hps'
            refine hready ?_
            have hstate : P.getTlsCredentialState profile = .ok ps.summary :=
              getTlsCredentialState_eq_ok_iff.mpr ⟨ps, hname ▸ hps, rfl⟩
            rw [hstate]
            exact congrArg some hps'
          rw [Option.map_some, Option.map_some, if_pos ⟨hname.symm, hne, hknown⟩]
      · rw [if_neg hname]
        simp [Ne.symm hname]
    · rw [if_neg hknown, Component.profile, provider_informed, hP, hprofile]
      simp [hknown]

/-- The profiles after the self-healing of a handler. -/
theorem profile_healed {env : Surroundings} {profile name : String} :
    (c.healed L env profile).profile name =
      (c.profile name).map fun ps =>
        if profile = name ∧ c.dispatcherService = true ∧ ps.status ≠ .ready ∧
            (c.informed env).VehicleKnown then
          (validateAndStoreMaterials L.x509
            ((c.informed env).collaborators env env.clock.load) ps.started).2
        else ps := by
  unfold healed
  by_cases hservice : c.dispatcherService = true
  · rw [if_pos hservice, profile_ensureTlsMaterialReady]
    simp only [hservice, true_and]
  · rw [if_neg hservice]
    simp [hservice]

/-! ### The state after a call -/

/-- A request for a credential leaves the healed component if the caller is authorised. -/
private theorem handleGetTlsCredential_fst {env : Surroundings} {params : Bytes}
    {caller : PeerIdentity} :
    (c.handleGetTlsCredential L env params caller).1 =
      if c.authorized (requestProfile L params) caller then
        c.healed L env (requestProfile L params)
      else c := by
  unfold handleGetTlsCredential authorized
  cases hP : c.provider with
  | none => rfl
  | some P =>
    dsimp only [Option.map_some, Option.getD_some]
    by_cases hauth : P.isAuthorized (requestProfile L params) caller = true
    · simp only [hauth, Bool.not_true, Bool.false_eq_true, if_false, if_true]
      cases (c.healed L env (requestProfile L params)).provider with
      | none => rfl
      | some P' =>
        dsimp only
        cases P'.getTlsCredential L _ (requestProfile L params) caller <;> rfl
    · simp [hauth]

/-- A request for a state leaves the healed component. -/
theorem handleGetTlsCredentialState_fst {env : Surroundings} {params : Bytes} :
    (c.handleGetTlsCredentialState L env params).1 =
      if c.provider.isSome then c.healed L env (requestProfile L params) else c := by
  unfold handleGetTlsCredentialState
  cases hP : c.provider with
  | none => rfl
  | some P =>
    dsimp only
    rw [Option.isSome_some, if_pos rfl]
    cases (c.healed L env (requestProfile L params)).provider with
    | none => rfl
    | some P' =>
      dsimp only
      cases P'.getTlsCredentialState (requestProfile L params) <;> rfl

/-- The state after a publication. -/
theorem publishDeviceCertChain_snd {env : Surroundings} {pem : Bytes} :
    (c.publishDeviceCertChain L env pem).2 =
      if c.commits L env pem then
        { c.committed pem with
          provider := c.provider.map fun P =>
            (P.rotateCredential L ((c.committed pem).collaborators env env.clock.load)
              "mqtt").2 }
      else c := by
  unfold publishDeviceCertChain commits
  cases hstore : c.certStore with
  | none => rfl
  | some current =>
    dsimp only
    by_cases hsame : current.map (fun g => L.crypto.sha256 g.deviceCertChainPem) =
        some (L.crypto.sha256 pem)
    · simp [hsame]
    by_cases hcommit : env.commit = .success
    · have hprovider : (c.committed pem).provider = c.provider := rfl
      simp only [hsame, if_false, hcommit, ne_eq, not_true_eq_false, hprovider, bne_iff_ne,
        not_false_eq_true, Bool.and_eq_true, beq_self_eq_true, and_self, if_true]
      cases hP : c.provider with
      | none => simp [committed, hP]
      | some P => rfl
    · simp [hsame, hcommit]

/-- **A call changes a profile as `after` says**, unless it configures it. -/
theorem profile_step_eq (name : String)
    (hconfig : ∀ config, call.op ≠ .provider (.configureProfile config)) :
    (c.step L base64Decode call).1.profile name =
      (c.profile name).map (c.after L call name) := by
  obtain ⟨op, env⟩ := call
  cases op with
  | getTlsCredential params caller =>
    change (c.handleGetTlsCredential L env params caller).1.profile name = _
    rw [handleGetTlsCredential_fst]
    by_cases hauth : c.authorized (requestProfile L params) caller = true
    · rw [if_pos hauth, profile_healed]
      congr 1
      funext ps
      simp only [after, Reloads, heals, hauth, if_true, Option.some.injEq]
    · have hafter : c.after L ⟨.getTlsCredential params caller, env⟩ name = id := by
        funext ps
        simp [after, Reloads, heals, hauth]
      rw [if_neg hauth, hafter, Option.map_id, id]
  | getTlsCredentialState params =>
    change (c.handleGetTlsCredentialState L env params).1.profile name = _
    rw [handleGetTlsCredentialState_fst]
    cases hP : c.provider with
    | none => simp [Component.profile, hP]
    | some P =>
      rw [Option.isSome_some, if_pos rfl, profile_healed]
      congr 1
      funext ps
      simp only [after, Reloads, heals, Option.some.injEq]
  | signTls params caller =>
    have hafter : c.after L ⟨.signTls params caller, env⟩ name = id := rfl
    rw [hafter, Option.map_id]
    rfl
  | publishDeviceCertChain pem =>
    change (c.publishDeviceCertChain L env pem).2.profile name = _
    rw [publishDeviceCertChain_snd]
    by_cases hcommits : c.commits L env pem = true
    · rw [if_pos hcommits]
      cases hP : c.provider with
      | none => simp [Component.profile, hP]
      | some P =>
        simp only [Component.profile, hP, Option.map_some, Option.bind_some]
        rw [rotateCredential_snd, find?_update]
        by_cases hname : name = "mqtt"
        · rw [if_pos hname]
          congr 1
          funext ps
          simp [after, hcommits, hname]
        · have hafter : c.after L ⟨.publishDeviceCertChain pem, env⟩ name = id := by
            funext ps
            simp [after, hname]
          rw [if_neg hname, hafter, Option.map_id, id]
    · have hafter : c.after L ⟨.publishDeviceCertChain pem, env⟩ name = id := by
        funext ps
        simp [after, hcommits]
      rw [if_neg hcommits, hafter, Option.map_id, id]
  | provider op =>
    cases hP : c.provider with
    | none => simp [step, Component.profile, hP]
    | some P =>
      simp only [step, hP, Component.profile, Option.bind_some]
      rw [find?_perform_eq]
      split
      · rename_i config
        exact absurd rfl (hconfig config)
      · rfl

theorem profile_step {name : String} {ps : ProfileState} (h : c.profile name = some ps) :
    (c.step L base64Decode call).1.profile name = some (c.after L call name ps) := by
  by_cases hconfig : ∃ config, call.op = .provider (.configureProfile config)
  · obtain ⟨config, hop⟩ := hconfig
    obtain ⟨P, hP, hps⟩ := Option.bind_eq_some_iff.mp h
    simp only [step, after, hop, hP, Component.profile, Option.bind_some]
    exact find?_perform hps _
  · rw [profile_step_eq name fun config hop => hconfig ⟨config, hop⟩, h, Option.map_some]

/-- A profile comes into being only by being configured, and is not ready then. -/
theorem profile_step_new {name : String} {ps : ProfileState} (h : c.profile name = none)
    (hnew : (c.step L base64Decode call).1.profile name = some ps) :
    ∃ config, call.op = .provider (.configureProfile config) ∧ config.profileName = name ∧
      ps = { config := config } := by
  by_cases hconfig : ∃ config, call.op = .provider (.configureProfile config)
  · obtain ⟨config, hop⟩ := hconfig
    cases hP : c.provider with
    | none => simp [step, hop, hP, Component.profile] at hnew
    | some P =>
      simp only [Component.profile, hP, Option.bind_some] at h
      simp only [step, hop, hP, Component.profile, Option.bind_some] at hnew
      obtain ⟨config', hop', hname, rfl⟩ := find?_perform_new h hnew
      obtain rfl : config = config' := by simpa using hop'
      exact ⟨config, hop, hname, rfl⟩
  · rw [profile_step_eq name fun config hop => hconfig ⟨config, hop⟩, h] at hnew
    exact absurd hnew (by simp)

/-! ### The kinds of effect -/

private theorem certStore_healed {env : Surroundings} {profile : String} :
    (c.healed L env profile).certStore = c.certStore := by
  unfold healed ensureTlsMaterialReady
  cases c.provider with
  | none => split_ifs <;> rfl
  | some P =>
    dsimp only
    split_ifs
    · rfl
    · exact certStore_informed
    · exact certStore_informed
    · rfl

/-- Only a publication that commits changes the certificate store. -/
theorem certStore_step :
    (c.step L base64Decode call).1.certStore =
      match call.op with
      | .publishDeviceCertChain pem =>
        if c.commits L call.env pem then (c.committed pem).certStore else c.certStore
      | _ => c.certStore := by
  obtain ⟨op, env⟩ := call
  cases op with
  | getTlsCredential params caller =>
    change (c.handleGetTlsCredential L env params caller).1.certStore = _
    rw [handleGetTlsCredential_fst]
    split_ifs
    · exact certStore_healed
    · rfl
  | getTlsCredentialState params =>
    change (c.handleGetTlsCredentialState L env params).1.certStore = _
    rw [handleGetTlsCredentialState_fst]
    split_ifs
    · exact certStore_healed
    · rfl
  | signTls params caller => rfl
  | publishDeviceCertChain pem =>
    change (c.publishDeviceCertChain L env pem).2.certStore = _
    rw [publishDeviceCertChain_snd]
    dsimp only
    split_ifs <;> rfl
  | provider op =>
    cases hP : c.provider <;> simp [step, hP]

/-- What a call may do to a profile. Material is loaded from the certificate store as the call
leaves it, and no later than the call is served; a call that does nothing to `mqtt` leaves the
store alone. -/
inductive Effect (L : Library) (base64Decode : String → Bytes) (c : Component) (call : Call)
    (name : String) (ps : ProfileState) : ProfileState → Prop
  | kept (hstore : name = "mqtt" → (c.step L base64Decode call).1.certStore = c.certStore) :
      Effect L base64Decode c call name ps ps
  | configured (config : TlsProfileConfig)
      (hop : call.op = .provider (.configureProfile config))
      (hname : config.profileName = name) :
      Effect L base64Decode c call name ps (ps.configured config)
  | revoked : Effect L base64Decode c call name ps ps.revoke
  | reloaded (c' : Component) (now : ℤ)
      (hstore : c'.certStore = (c.step L base64Decode call).1.certStore)
      (hnow : now ≤ call.env.clock.serve)
      (hwhy : ps.status ≠ .ready ∨ call.op = .provider (.loadMaterials name)) :
      Effect L base64Decode c call name ps
        (validateAndStoreMaterials L.x509 (c'.collaborators call.env now) ps.started).2
  | rotated (c' : Component) (now : ℤ)
      (hstore : c'.certStore = (c.step L base64Decode call).1.certStore)
      (hnow : now ≤ call.env.clock.serve) :
      Effect L base64Decode c call name ps
        (validateAndStoreMaterials L.x509 (c'.collaborators call.env now) ps.bumped).2

variable (L base64Decode c call) in
/-- **Every call has one of the effects.** -/
theorem effect_after (name : String) (ps : ProfileState) :
    Effect L base64Decode c call name ps (c.after L call name ps) := by
  -- The reload of a handler.
  have hhandler : (c.step L base64Decode call).1.certStore = c.certStore →
      Effect L base64Decode c call name ps
        (if c.Reloads L call name ps then
          (validateAndStoreMaterials L.x509
            ((c.informed call.env).collaborators call.env call.env.clock.load) ps.started).2
        else ps) := by
    intro hstore
    split_ifs with hreloads
    · exact .reloaded _ _ (certStore_informed.trans hstore.symm) call.env.clock.load_le
        (.inl hreloads.2.2.1)
    · exact .kept fun _ => hstore
  have hstore := @certStore_step L base64Decode c call
  obtain ⟨op, env⟩ := call
  cases op with
  | getTlsCredential params caller => exact hhandler hstore
  | getTlsCredentialState params => exact hhandler hstore
  | signTls params caller => exact .kept fun _ => hstore
  | publishDeviceCertChain pem =>
    simp only [after]
    split_ifs with hcommits
    · refine .rotated _ _ ?_ env.clock.load_le
      rw [hstore]
      simp only [hcommits.1, if_true]
    · refine .kept fun hname => ?_
      rw [hstore]
      exact if_neg fun hcommits' => hcommits ⟨hcommits', hname⟩
  | provider op =>
    cases op with
    | configureProfile config =>
      simp only [after, ProfileState.perform]
      split_ifs with hname
      · exact .configured config rfl hname
      · exact .kept fun _ => hstore
    | loadMaterials profile =>
      simp only [after, ProfileState.perform]
      split_ifs with hname
      · refine .reloaded _ _ hstore.symm (le_refl _) (.inr ?_)
        rw [hname]
      · exact .kept fun _ => hstore
    | rotateCredential profile =>
      simp only [after, ProfileState.perform]
      split_ifs
      · exact .rotated _ _ hstore.symm (le_refl _)
      · exact .kept fun _ => hstore
    | revokeCredential profile =>
      simp only [after, ProfileState.perform]
      split_ifs
      · exact .revoked
      · exact .kept fun _ => hstore
    | getTlsCredential _ _ => exact .kept fun _ => hstore
    | getTlsCredentialState _ => exact .kept fun _ => hstore
    | signTls _ _ => exact .kept fun _ => hstore

/-- **The version of a profile never decreases.** -/
theorem Effect.version_le {name : String} {ps ps' : ProfileState}
    (h : Effect L base64Decode c call name ps ps') : ps.version ≤ ps'.version := by
  cases h with
  | kept => exact le_refl _
  | configured config =>
    unfold ProfileState.configured
    dsimp only
    split_ifs <;> exact le_refl _
  | revoked => exact Nat.le_succ _
  | reloaded c' now =>
    rw [(validateAndStoreMaterials_frame ..).1]
    unfold ProfileState.started
    split_ifs with hzero
    · exact hzero ▸ Nat.zero_le 1
    · exact le_refl _
  | rotated c' now =>
    rw [(validateAndStoreMaterials_frame ..).1]
    exact Nat.le_succ _

/-! ### The start of the process -/

/-- What holds of a provider and survives configuring and loading holds after the start. -/
theorem loadProfiles_induction {I : TlsCredentialProvider → Prop} {E : Collaborators}
    (hconfigure : ∀ P (pc : TlsProfileConf) name, I P →
      I (P.configureProfile (pc.toConfig name)))
    (hload : ∀ P name, I P → I (P.loadMaterials L E name).2) {P : TlsCredentialProvider}
    (h : I P) (profiles : List (String × TlsProfileConf)) : I (loadProfiles L E P profiles) := by
  induction profiles generalizing P with
  | nil => exact h
  | cons entry rest ih =>
    obtain ⟨name, pc⟩ := entry
    unfold loadProfiles
    split_ifs
    · exact ih h
    · exact ih (hload _ _ (hconfigure _ _ _ h))

end Component

/-! ### What a call asks for -/

section Calls

variable (L : Library) (base64Decode : String → Bytes)

/-- The profile for whose credential the call asks, and the caller. -/
def Call.asks (call : Call) : Option (String × PeerIdentity) :=
  match call.op with
  | .getTlsCredential params caller => some (Component.requestProfile L params, caller)
  | .provider (.getTlsCredential profile caller) => some (profile, caller)
  | _ => none

/-- The profile for whose state the call asks. -/
def Call.queries (call : Call) : Option String :=
  match call.op with
  | .getTlsCredentialState params => some (Component.requestProfile L params)
  | .provider (.getTlsCredentialState profile) => some profile
  | _ => none

/-- The signature for which the call asks, and the caller. -/
def Call.requests (call : Call) : Option (TlsSignRequest × PeerIdentity) :=
  match call.op with
  | .signTls params caller =>
    (Component.signRequest L base64Decode params).map fun request => (request, caller)
  | .provider (.signTls request caller) => some (request, caller)
  | _ => none

end Calls

/-- The bundle in a reply. -/
def Reply.bundle? : Reply → Option TlsCredentialBundle
  | .credential b => some b
  | .provider (.credential (.ok b)) => some b
  | _ => none

/-- The state in a reply. -/
def Reply.state? : Reply → Option TlsCredentialState
  | .state st => some st
  | .provider (.state (.ok st)) => some st
  | _ => none

/-- The signature in a reply. -/
def Reply.signature? : Reply → Option Bytes
  | .signature sig => some sig
  | .provider (.signature (.ok sig)) => some sig
  | _ => none

namespace Component

variable (L : Library) (base64Decode : String → Bytes) (c : Component) (call : Call)

/-- The call returns the bundle `b` of the profile `name`. -/
def Grants (name : String) (b : TlsCredentialBundle) : Prop :=
  ∃ caller, call.asks L = some (name, caller) ∧
    (c.step L base64Decode call).2.bundle? = some b

/-- The call returns the state `st` of the profile `name`. -/
def Reports (name : String) (st : TlsCredentialState) : Prop :=
  call.queries L = some name ∧ (c.step L base64Decode call).2.state? = some st

/-- The call returns a signature under a reference of the profile `name`. -/
def Signs (name : String) : Prop :=
  ∃ P request caller rp, c.provider = some P ∧
    call.requests L base64Decode = some (request, caller) ∧
    decodeRef L P request.privateKeyRef = some rp ∧ rp.profile = name ∧
    (c.step L base64Decode call).2.signature? ≠ none

/-- The dispatcher lets the caller through. A direct operation is not asked. -/
def Admits (name : String) (caller : PeerIdentity) : Prop :=
  match call.op with
  | .getTlsCredential _ _ => c.authorized name caller = true
  | _ => True

/-- The call is answered with a bundle from the state `ps` of the profile `name`. -/
def Grantable (name : String) (ps : ProfileState) (ref : Bytes) : Prop :=
  ∃ caller P, call.asks L = some (name, caller) ∧ c.Admits call name caller ∧
    (c.step L base64Decode call).1.provider = some P ∧ P.profiles.find? name = some ps ∧
    ps.status = .ready ∧ ref ≠ [] ∧
    ref = encodeRef L P ((c.step L base64Decode call).1.collaborators call.env
      call.env.clock.serve)
      (P.refPayload ((c.step L base64Decode call).1.collaborators call.env call.env.clock.serve)
        name caller ps)

/-- The component that answers a request for a credential: where the handler reloads the material,
the vehicle information has been asked for before. -/
def answering (name : String) (ps : ProfileState) : Component :=
  if c.Reloads L call name ps then c.informed call.env else c

/-- The call, which finds the profile `name` in the state `ps`, is going to be answered with a
bundle: the caller is let through, what the call makes of the profile is ready, and a reference to
it can be sealed. -/
def GivesBundle (name : String) (ps : ProfileState) : Prop :=
  ∃ caller P, call.asks L = some (name, caller) ∧ c.Admits call name caller ∧
    c.provider = some P ∧ P.profiles.find? name = some ps ∧
    (c.after L call name ps).status = .ready ∧
    encodeRef L P ((c.answering L call name ps).collaborators call.env call.env.clock.serve)
      (P.refPayload ((c.answering L call name ps).collaborators call.env call.env.clock.serve)
        name caller (c.after L call name ps)) ≠ []

/-- The call is answered with a signature from the state `ps` of the profile `name`. -/
def Signable (name : String) (ps : ProfileState) : Prop :=
  ∃ P request caller rp, c.provider = some P ∧
    call.requests L base64Decode = some (request, caller) ∧ rp.profile = name ∧
    InOrder L P (c.collaborators call.env call.env.clock.serve) request caller rp ps

variable {L base64Decode c call}

/-- The reply to a request for a credential. -/
private theorem bundle?_handleGetTlsCredential {env : Surroundings} {params : Bytes}
    {caller : PeerIdentity} {b : TlsCredentialBundle} :
    (c.handleGetTlsCredential L env params caller).2.bundle? = some b ↔
      c.authorized (requestProfile L params) caller = true ∧
        ∃ P, (c.healed L env (requestProfile L params)).provider = some P ∧
          P.getTlsCredential L ((c.healed L env (requestProfile L params)).collaborators env
            env.clock.serve) (requestProfile L params) caller = .ok b := by
  unfold handleGetTlsCredential authorized
  cases hP : c.provider with
  | none => simp [Reply.bundle?]
  | some P =>
    dsimp only [Option.map_some, Option.getD_some]
    by_cases hauth : P.isAuthorized (requestProfile L params) caller = true
    · simp only [hauth, Bool.not_true, Bool.false_eq_true, if_false, true_and]
      cases (c.healed L env (requestProfile L params)).provider with
      | none => simp [Reply.bundle?]
      | some P' =>
        dsimp only
        cases hget : P'.getTlsCredential L ((c.healed L env (requestProfile L params)).collaborators
            env env.clock.serve) (requestProfile L params) caller with
        | error rc => simp [Reply.bundle?, hget]
        | ok b' => simp [Reply.bundle?, hget]
    · simp [hauth, Reply.bundle?]

/-- A call that asks for a credential is answered by the provider as the call leaves it. -/
private theorem bundle?_step {name : String} {caller : PeerIdentity} {b : TlsCredentialBundle}
    (hasks : call.asks L = some (name, caller)) :
    (c.step L base64Decode call).2.bundle? = some b ↔
      c.Admits call name caller ∧
        ∃ P, (c.step L base64Decode call).1.provider = some P ∧
          P.getTlsCredential L ((c.step L base64Decode call).1.collaborators call.env
            call.env.clock.serve) name caller = .ok b := by
  obtain ⟨op, env⟩ := call
  cases op with
  | getTlsCredential params caller' =>
    obtain ⟨rfl, rfl⟩ : requestProfile L params = name ∧ caller' = caller := by
      simpa [Call.asks] using hasks
    have hstate := @handleGetTlsCredential_fst L c env params caller'
    change (c.handleGetTlsCredential L env params caller').2.bundle? = some b ↔
      c.authorized (requestProfile L params) caller' = true ∧
        ∃ P, (c.handleGetTlsCredential L env params caller').1.provider = some P ∧
          P.getTlsCredential L ((c.handleGetTlsCredential L env params caller').1.collaborators
            env env.clock.serve) (requestProfile L params) caller' = .ok b
    rw [bundle?_handleGetTlsCredential]
    refine and_congr_right fun hauth => ?_
    rw [hstate, if_pos hauth]
  | provider op =>
    cases op with
    | getTlsCredential profile caller' =>
      obtain ⟨rfl, rfl⟩ : profile = name ∧ caller' = caller := by simpa [Call.asks] using hasks
      cases hP : c.provider with
      | none => simp [step, hP, Reply.bundle?]
      | some P =>
        have hself : ({ c with provider := some P } : Component) = c := by rw [← hP]
        simp only [step, hP, TlsCredentialProvider.perform, hself, Admits, true_and,
          Option.some.injEq, exists_eq_left']
        cases P.getTlsCredential L (c.collaborators env env.clock.serve) profile caller' with
        | error rc => simp [Reply.bundle?]
        | ok b' => simp [Reply.bundle?]
    | _ => simp [Call.asks] at hasks
  | _ => simp [Call.asks] at hasks

/-- **A bundle is returned exactly from a ready profile.** -/
theorem grants_iff {name : String} {b : TlsCredentialBundle} :
    c.Grants L base64Decode call name b ↔
      ∃ ps ref, c.Grantable L base64Decode call name ps ref ∧ b = ps.bundle ref := by
  constructor
  · rintro ⟨caller, hasks, hb⟩
    obtain ⟨hadmits, P, hP, hget⟩ := (bundle?_step hasks).mp hb
    obtain ⟨ps, hps, hready, href, rfl⟩ := getTlsCredential_eq_ok_iff.mp hget
    exact ⟨ps, _, ⟨caller, P, hasks, hadmits, hP, hps, hready, href, rfl⟩, rfl⟩
  · rintro ⟨ps, ref, ⟨caller, P, hasks, hadmits, hP, hps, hready, href, rfl⟩, rfl⟩
    refine ⟨caller, hasks, (bundle?_step hasks).mpr ⟨hadmits, P, hP, ?_⟩⟩
    exact getTlsCredential_eq_ok_iff.mpr ⟨ps, hps, hready, href, rfl⟩

/-- The profile behind a bundle. -/
theorem Grantable.profile {name : String} {ps : ProfileState} {ref : Bytes}
    (h : c.Grantable L base64Decode call name ps ref) :
    (c.step L base64Decode call).1.profile name = some ps := by
  obtain ⟨caller, P, -, -, hP, hps, -⟩ := h
  rw [Component.profile, hP]
  exact hps

/-- A ready profile is left alone by the self-healing. -/
private theorem healed_of_ready {env : Surroundings} {name : String} {ps : ProfileState}
    (hps : c.profile name = some ps) (hready : ps.status = .ready) :
    c.healed L env name = c := by
  obtain ⟨P, hP, hfind⟩ := Option.bind_eq_some_iff.mp hps
  have hstate : (P.getTlsCredentialState name).toOption.map (·.status) = some .ready := by
    rw [getTlsCredentialState_eq_ok_iff.mpr ⟨ps, hfind, rfl⟩]
    exact congrArg some hready
  unfold healed ensureTlsMaterialReady
  simp only [hP]
  rw [if_pos hstate, ite_self]

/-- The component after a reload: only the provider is another one than that of the informed
component. -/
private theorem healed_of_reloads {name : String} {P : TlsCredentialProvider} {ps : ProfileState}
    (hP : c.provider = some P) (hps : P.profiles.find? name = some ps)
    (hreloads : c.Reloads L call name ps) :
    c.healed L call.env name =
      { c.informed call.env with
        provider := some (P.loadMaterials L
          ((c.informed call.env).collaborators call.env call.env.clock.load) name).2 } := by
  obtain ⟨-, hservice, hnot, hknown⟩ := hreloads
  have hstate : (P.getTlsCredentialState name).toOption.map (·.status) ≠ some .ready := by
    rw [getTlsCredentialState_eq_ok_iff.mpr ⟨ps, hps, rfl⟩]
    exact fun h => hnot (Option.some.inj h)
  unfold healed ensureTlsMaterialReady
  simp only [hP]
  rw [if_pos hservice, if_neg hstate, if_pos hknown]

variable (base64Decode) in
/-- The provider that answers a request for a credential has the process key, the boot epoch and
the collaborators that it had before, but for the vehicle information. -/
private theorem step_of_asks {name : String} {caller : PeerIdentity} {P : TlsCredentialProvider}
    {ps : ProfileState} (hasks : call.asks L = some (name, caller))
    (hadmits : c.Admits call name caller) (hP : c.provider = some P)
    (hps : P.profiles.find? name = some ps) (hready : (c.after L call name ps).status = .ready) :
    ∃ P', (c.step L base64Decode call).1.provider = some P' ∧ P'.processKey = P.processKey ∧
      P'.bootEpoch = P.bootEpoch ∧ ∀ t, (c.step L base64Decode call).1.collaborators call.env t =
        (c.answering L call name ps).collaborators call.env t := by
  have hprofile : c.profile name = some ps := by
    rw [Component.profile, hP]
    exact hps
  obtain ⟨op, env⟩ := call
  cases op with
  | getTlsCredential params caller' =>
    obtain ⟨rfl, rfl⟩ : requestProfile L params = name ∧ caller' = caller := by
      simpa [Call.asks] using hasks
    have hstep : (c.step L base64Decode ⟨.getTlsCredential params caller', env⟩).1 =
        c.healed L env (requestProfile L params) := by
      have hauth : c.authorized (requestProfile L params) caller' = true := hadmits
      change (c.handleGetTlsCredential L env params caller').1 = _
      rw [handleGetTlsCredential_fst, if_pos hauth]
    rw [hstep, answering]
    by_cases hreloads :
        c.Reloads L ⟨.getTlsCredential params caller', env⟩ (requestProfile L params) ps
    · rw [healed_of_reloads hP hps hreloads, if_pos hreloads]
      obtain ⟨hkey, hepoch⟩ := @perform_process L P
        ((c.informed env).collaborators env env.clock.load)
        (.loadMaterials (requestProfile L params))
      exact ⟨_, rfl, hkey, hepoch, fun _ => rfl⟩
    · simp only [after, if_neg hreloads] at hready
      rw [healed_of_ready hprofile hready, if_neg hreloads]
      exact ⟨P, hP, rfl, rfl, fun _ => rfl⟩
  | provider op =>
    cases op with
    | getTlsCredential profile caller' =>
      have hnot : ¬ c.Reloads L ⟨.provider (.getTlsCredential profile caller'), env⟩ name ps :=
        fun hreloads => nomatch hreloads.1
      have hstep : (c.step L base64Decode ⟨.provider (.getTlsCredential profile caller'), env⟩).1 =
          c := by
        simp only [step, hP, TlsCredentialProvider.perform]
        rw [← hP]
      rw [hstep, answering, if_neg hnot]
      exact ⟨P, hP, rfl, rfl, fun _ => rfl⟩
    | _ => simp [Call.asks] at hasks
  | _ => simp [Call.asks] at hasks

/-- **Whether a bundle is returned is seen before the call**, and so is the profile behind it. -/
theorem grantable_iff {name : String} {ps' : ProfileState} :
    (∃ ref, c.Grantable L base64Decode call name ps' ref) ↔
      ∃ ps, c.GivesBundle L call name ps ∧ ps' = c.after L call name ps := by
  have hsealed : ∀ {P P' : TlsCredentialProvider} {E : Collaborators} {caller ps},
      P'.processKey = P.processKey → P'.bootEpoch = P.bootEpoch →
      encodeRef L P' E (P'.refPayload E name caller ps) =
        encodeRef L P E (P.refPayload E name caller ps) := by
    intro P P' E caller ps hkey hepoch
    simp only [encodeRef, TlsCredentialProvider.refPayload, hkey, hepoch]
  constructor
  · rintro ⟨ref, hgrantable⟩
    have hafter := hgrantable.profile
    obtain ⟨caller, P', hasks, hadmits, hP', -, hready, hne, rfl⟩ := hgrantable
    cases hprofile : c.profile name with
    | none =>
      obtain ⟨config, hop, -⟩ := profile_step_new hprofile hafter
      rw [Call.asks, hop] at hasks
      cases hasks
    | some ps =>
      obtain ⟨P, hP, hps⟩ := Option.bind_eq_some_iff.mp hprofile
      obtain rfl : c.after L call name ps = ps' :=
        Option.some.inj ((profile_step hprofile).symm.trans hafter)
      obtain ⟨P'', hP'', hkey, hepoch, hsame⟩ :=
        step_of_asks base64Decode hasks hadmits hP hps hready
      obtain rfl : P' = P'' := Option.some.inj (hP'.symm.trans hP'')
      rw [hsame, hsealed hkey hepoch] at hne
      exact ⟨ps, ⟨caller, P, hasks, hadmits, hP, hps, hready, hne⟩, rfl⟩
  · rintro ⟨ps, ⟨caller, P, hasks, hadmits, hP, hps, hready, hne⟩, rfl⟩
    obtain ⟨P', hP', hkey, hepoch, hsame⟩ :=
      step_of_asks base64Decode hasks hadmits hP hps hready
    have hafter : (c.step L base64Decode call).1.profile name =
        some (c.after L call name ps) := by
      refine profile_step ?_
      rw [Component.profile, hP]
      exact hps
    rw [Component.profile, hP'] at hafter
    rw [← hsealed hkey hepoch, ← hsame] at hne
    exact ⟨_, caller, P', hasks, hadmits, hP', hafter, hready, hne, rfl⟩

/-- A state is reported from the profile as the call leaves it. -/
theorem reports_iff {name : String} {st : TlsCredentialState} :
    c.Reports L base64Decode call name st ↔
      call.queries L = some name ∧
        ∃ ps, (c.step L base64Decode call).1.profile name = some ps ∧ st = ps.summary := by
  unfold Reports
  refine and_congr_right fun hquery => ?_
  obtain ⟨op, env⟩ := call
  cases op with
  | getTlsCredentialState params =>
    obtain rfl : requestProfile L params = name := by simpa [Call.queries] using hquery
    change (c.handleGetTlsCredentialState L env params).2.state? = some st ↔
      ∃ ps, (c.handleGetTlsCredentialState L env params).1.profile (requestProfile L params) =
        some ps ∧ st = ps.summary
    rw [handleGetTlsCredentialState_fst]
    unfold handleGetTlsCredentialState
    cases hP : c.provider with
    | none => simp [Reply.state?, Component.profile, hP]
    | some P =>
      simp only [Option.isSome_some, if_true, Component.profile]
      cases (c.healed L env (requestProfile L params)).provider with
      | none => simp [Reply.state?]
      | some P' =>
        rw [Option.bind_some, ← getTlsCredentialState_eq_ok_iff]
        cases hst : P'.getTlsCredentialState (requestProfile L params) with
        | error rc => simp [Reply.state?, hst]
        | ok st' => simp [Reply.state?, hst]
  | provider op =>
    cases op with
    | getTlsCredentialState profile =>
      obtain rfl : profile = name := by simpa [Call.queries] using hquery
      cases hP : c.provider with
      | none => simp [step, hP, Reply.state?, Component.profile]
      | some P =>
        simp only [step, hP, TlsCredentialProvider.perform, Component.profile, Option.bind_some]
        rw [← getTlsCredentialState_eq_ok_iff]
        cases P.getTlsCredentialState profile with
        | error rc => simp [Reply.state?]
        | ok st' => simp [Reply.state?]
    | _ => simp [Call.queries] at hquery
  | _ => simp [Call.queries] at hquery

/-- The reply to a call that asks for a signature. -/
private theorem signature?_step {request : TlsSignRequest} {caller : PeerIdentity}
    {P : TlsCredentialProvider} (hP : c.provider = some P)
    (hrequest : call.requests L base64Decode = some (request, caller)) :
    (c.step L base64Decode call).2.signature? =
      (P.signTls L (c.collaborators call.env call.env.clock.serve) request caller).toOption := by
  obtain ⟨op, env⟩ := call
  cases op with
  | signTls params caller' =>
    obtain ⟨request', hread, heq⟩ := Option.map_eq_some_iff.mp hrequest
    obtain ⟨rfl, rfl⟩ : request' = request ∧ caller' = caller := by simpa using heq
    change (c.handleSignTls L base64Decode env params caller').signature? = _
    unfold handleSignTls
    simp only [hP, hread]
    cases P.signTls L (c.collaborators env env.clock.serve) request' caller' <;> rfl
  | provider op =>
    cases op with
    | signTls request' caller' =>
      obtain ⟨rfl, rfl⟩ : request' = request ∧ caller' = caller := by
        simpa [Call.requests] using hrequest
      simp only [step, hP, TlsCredentialProvider.perform]
      cases P.signTls L (c.collaborators env env.clock.serve) request' caller' <;> rfl
    | _ => simp [Call.requests] at hrequest
  | _ => simp [Call.requests] at hrequest

/-- **A signature is returned exactly for a request in order.** -/
theorem signs_iff {name : String} :
    c.Signs L base64Decode call name ↔ ∃ ps, c.Signable L base64Decode call name ps := by
  constructor
  · rintro ⟨P, request, caller, rp, hP, hrequest, hdec, hname, hsig⟩
    rw [signature?_step hP hrequest] at hsig
    cases hsign : P.signTls L (c.collaborators call.env call.env.clock.serve) request caller with
    | error rc => exact absurd (by rw [hsign]; rfl) hsig
    | ok sig =>
      obtain ⟨rp', ps, horder, -⟩ := signTls_eq_ok_iff.mp hsign
      obtain rfl : rp = rp' := Option.some.inj (hdec.symm.trans horder.decodes)
      exact ⟨ps, P, request, caller, rp, hP, hrequest, hname, horder⟩
  · rintro ⟨ps, P, request, caller, rp, hP, hrequest, hname, horder⟩
    refine ⟨P, request, caller, rp, hP, hrequest, horder.decodes, hname, ?_⟩
    rw [signature?_step hP hrequest,
      signTls_eq_ok_iff.mpr ⟨rp, ps, horder, rfl⟩]
    exact Option.some_ne_none _

/-- The profile behind a signature. -/
theorem Signable.profile {name : String} {ps : ProfileState}
    (h : c.Signable L base64Decode call name ps) :
    c.profile name = some ps ∧ ps.status = .ready := by
  obtain ⟨P, request, caller, rp, hP, -, rfl, horder⟩ := h
  rw [Component.profile, hP]
  exact ⟨horder.known, horder.ready⟩

end Component

end TboxSec.Tls
