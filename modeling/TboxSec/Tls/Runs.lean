import TboxSec.Tls.Provider

/-!
# Runs of the provider

The operations of one `TlsCredentialProvider` in any order, each with what its environment
answers. `ProfileState.perform` is what an operation does to one profile; `find?_perform` and
`find?_perform_new` say that an operation does nothing else. The process key and the boot epoch
last as long as the process.

* `TlsCredentialProvider.update` writes one profile, and `find?_update` says which profile is
  found afterwards.
* `perform_process`: no operation changes the process key or the boot epoch, so references that
  were issued in one process can be told from those of another.
* `version_le_perform`: no operation lowers the version of a profile.
-/

namespace TboxSec.Tls

/-- The operations of the provider. -/
inductive ProviderOp where
  | configureProfile (config : TlsProfileConfig)
  | loadMaterials (profile : String)
  | getTlsCredential (profile : String) (caller : PeerIdentity)
  | getTlsCredentialState (profile : String)
  | signTls (request : TlsSignRequest) (caller : PeerIdentity)
  | rotateCredential (profile : String)
  | revokeCredential (profile : String)

/-- What an operation returns. -/
inductive ProviderReply where
  | configured
  | code (rc : ErrorCode) (event : Option TlsCredentialChangedEvent)
  | credential (r : Except ErrorCode TlsCredentialBundle)
  | state (r : Except ErrorCode TlsCredentialState)
  | signature (r : Except ErrorCode Bytes)

variable (L : Library) (P : TlsCredentialProvider) (E : Collaborators)

/-- One operation. -/
def TlsCredentialProvider.perform : ProviderOp → TlsCredentialProvider × ProviderReply
  | .configureProfile config => (P.configureProfile config, .configured)
  | .loadMaterials profile =>
    let (rc, P') := P.loadMaterials L E profile
    (P', .code rc none)
  | .getTlsCredential profile caller => (P, .credential (P.getTlsCredential L E profile caller))
  | .getTlsCredentialState profile => (P, .state (P.getTlsCredentialState profile))
  | .signTls request caller => (P, .signature (P.signTls L E request caller))
  | .rotateCredential profile =>
    let ((rc, event), P') := P.rotateCredential L E profile
    (P', .code rc event)
  | .revokeCredential profile =>
    let ((rc, event), P') := P.revokeCredential E profile
    (P', .code rc event)

/-- An operation together with its environment. -/
structure ProviderCall where
  op : ProviderOp
  env : Collaborators

/-- The provider as a machine. -/
def provider : Machine TlsCredentialProvider ProviderCall ProviderReply where
  step P c := P.perform L c.env c.op

/-! ### One profile -/

/-- What an operation does to the profile `name`. -/
def ProfileState.perform (name : String) (ps : ProfileState) : ProviderOp → ProfileState
  | .configureProfile config => if config.profileName = name then ps.configured config else ps
  | .loadMaterials profile =>
    if profile = name then (validateAndStoreMaterials L.x509 E ps.started).2 else ps
  | .rotateCredential profile =>
    if profile = name then (validateAndStoreMaterials L.x509 E ps.bumped).2 else ps
  | .revokeCredential profile => if profile = name then ps.revoke else ps
  | _ => ps

variable {L P E}

/-- A known profile is changed by `f`. -/
def TlsCredentialProvider.update (P : TlsCredentialProvider) (profile : String)
    (f : ProfileState → ProfileState) : TlsCredentialProvider :=
  match P.profiles.find? profile with
  | none => P
  | some ps => P.store profile (f ps)

theorem find?_update {profile name : String} {f : ProfileState → ProfileState} :
    (P.update profile f).profiles.find? name =
      if name = profile then (P.profiles.find? name).map f else P.profiles.find? name := by
  unfold TlsCredentialProvider.update TlsCredentialProvider.store
  cases hp : P.profiles.find? profile with
  | none =>
    split_ifs with hname
    · rw [hname, hp]
      rfl
    · rfl
  | some ps =>
    rw [OrdMap.find?_insert]
    split_ifs with hname
    · rw [hname, hp]
      rfl
    · rfl

theorem loadMaterials_snd (profile : String) : (P.loadMaterials L E profile).2 =
    P.update profile fun ps => (validateAndStoreMaterials L.x509 E ps.started).2 := by
  unfold TlsCredentialProvider.loadMaterials TlsCredentialProvider.update
  cases P.profiles.find? profile <;> rfl

theorem rotateCredential_snd (profile : String) : (P.rotateCredential L E profile).2 =
    P.update profile fun ps => (validateAndStoreMaterials L.x509 E ps.bumped).2 := by
  unfold TlsCredentialProvider.rotateCredential TlsCredentialProvider.update
  cases P.profiles.find? profile <;> rfl

private theorem revokeCredential_snd (profile : String) :
    (P.revokeCredential E profile).2 = P.update profile ProfileState.revoke := by
  unfold TlsCredentialProvider.revokeCredential TlsCredentialProvider.update
  cases P.profiles.find? profile <;> rfl

theorem find?_configureProfile (config : TlsProfileConfig) (name : String) :
    (P.configureProfile config).profiles.find? name =
      if name = config.profileName then
        some (((P.profiles.find? name).getD {}).configured config)
      else P.profiles.find? name := by
  unfold TlsCredentialProvider.configureProfile TlsCredentialProvider.store
  rw [OrdMap.find?_insert]
  by_cases hname : name = config.profileName
  · rw [if_pos hname, if_pos hname, hname]
  · rw [if_neg hname, if_neg hname]

/-- The profiles after an operation. -/
theorem find?_perform_eq (op : ProviderOp) (name : String) :
    (P.perform L E op).1.profiles.find? name =
      match op with
      | .configureProfile config =>
        if name = config.profileName then
          some (((P.profiles.find? name).getD {}).configured config)
        else P.profiles.find? name
      | _ => (P.profiles.find? name).map fun ps => ps.perform L E name op := by
  have hupdate : ∀ (profile : String) (f : ProfileState → ProfileState),
      (P.update profile f).profiles.find? name =
        (P.profiles.find? name).map fun ps => if profile = name then f ps else ps := by
    intro profile f
    rw [find?_update]
    by_cases hname : name = profile
    · simp [hname]
    · simp [hname, Ne.symm hname]
  have hsame : P.profiles.find? name = (P.profiles.find? name).map fun ps => ps := by simp
  cases op with
  | configureProfile config => exact find?_configureProfile config name
  | loadMaterials profile =>
    have h := hupdate profile fun ps => (validateAndStoreMaterials L.x509 E ps.started).2
    rwa [← loadMaterials_snd (L := L) (E := E)] at h
  | rotateCredential profile =>
    have h := hupdate profile fun ps => (validateAndStoreMaterials L.x509 E ps.bumped).2
    rwa [← rotateCredential_snd (L := L) (E := E)] at h
  | revokeCredential profile =>
    have h := hupdate profile ProfileState.revoke
    rwa [← revokeCredential_snd (E := E)] at h
  | getTlsCredential _ _ => exact hsame
  | getTlsCredentialState _ => exact hsame
  | signTls _ _ => exact hsame

/-- **An operation changes a profile as `ProfileState.perform` says.** -/
theorem find?_perform {name : String} {ps : ProfileState} (h : P.profiles.find? name = some ps)
    (op : ProviderOp) :
    (P.perform L E op).1.profiles.find? name = some (ps.perform L E name op) := by
  rw [find?_perform_eq, h]
  split
  · split_ifs with hname
    · simp [ProfileState.perform, hname]
    · simp [ProfileState.perform, Ne.symm hname]
  · rfl

/-- A profile comes into being only by being configured, and is not ready then. -/
theorem find?_perform_new {name : String} {ps : ProfileState} {op : ProviderOp}
    (h : P.profiles.find? name = none)
    (hnew : (P.perform L E op).1.profiles.find? name = some ps) :
    ∃ config, op = .configureProfile config ∧ config.profileName = name ∧
      ps = { config := config } := by
  rw [find?_perform_eq, h] at hnew
  split at hnew
  · rename_i config
    split_ifs at hnew with hname
    exact ⟨config, rfl, hname.symm, (Option.some.inj hnew).symm⟩
  · simp at hnew

/-- The process key and the boot epoch stay. -/
theorem perform_process (op : ProviderOp) :
    (P.perform L E op).1.processKey = P.processKey ∧
      (P.perform L E op).1.bootEpoch = P.bootEpoch := by
  have hupdate : ∀ (profile : String) (f : ProfileState → ProfileState),
      (P.update profile f).processKey = P.processKey ∧
        (P.update profile f).bootEpoch = P.bootEpoch := by
    intro profile f
    unfold TlsCredentialProvider.update
    cases P.profiles.find? profile <;> exact ⟨rfl, rfl⟩
  cases op with
  | loadMaterials profile =>
    have h := hupdate profile fun ps => (validateAndStoreMaterials L.x509 E ps.started).2
    rwa [← loadMaterials_snd (L := L) (E := E)] at h
  | rotateCredential profile =>
    have h := hupdate profile fun ps => (validateAndStoreMaterials L.x509 E ps.bumped).2
    rwa [← rotateCredential_snd (L := L) (E := E)] at h
  | revokeCredential profile =>
    have h := hupdate profile ProfileState.revoke
    rwa [← revokeCredential_snd (E := E)] at h
  | configureProfile _ => exact ⟨rfl, rfl⟩
  | getTlsCredential _ _ => exact ⟨rfl, rfl⟩
  | getTlsCredentialState _ => exact ⟨rfl, rfl⟩
  | signTls _ _ => exact ⟨rfl, rfl⟩

/-- **The version of a profile never decreases.** -/
theorem version_le_perform (name : String) (ps : ProfileState) (op : ProviderOp) :
    ps.version ≤ (ps.perform L E name op).version := by
  unfold ProfileState.perform
  split
  · split_ifs
    · unfold ProfileState.configured
      dsimp only
      split_ifs <;> exact le_refl _
    · exact le_refl _
  · split_ifs
    · rw [(validateAndStoreMaterials_frame ..).1]
      unfold ProfileState.started
      split_ifs with hzero
      · exact hzero ▸ Nat.zero_le 1
      · exact le_refl _
    · exact le_refl _
  · split_ifs
    · rw [(validateAndStoreMaterials_frame ..).1]
      exact Nat.le_succ _
    · exact le_refl _
  · split_ifs
    · exact Nat.le_succ _
    · exact le_refl _
  · exact le_refl _

end TboxSec.Tls
