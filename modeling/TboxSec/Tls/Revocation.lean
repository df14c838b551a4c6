import TboxSec.Tls.Steps

/-!
# Revocation

A revoked profile is meant to stay revoked until it is rotated. The provider alone keeps this
up: a revoked profile is neither served nor signed for. But the self-healing of the dispatcher
reloads every profile that is not ready, whatever the reason, and a reload never leaves a
profile revoked. `revocation_final_iff` says that this is the only way out, and
`not_final_selfHealing` that one query by anyone takes it.

* `Withholds` is the property of one call, `LeavesAlone` the condition on it: no request loads the
  material of the profile.
* `status_after_iff`: a revoked profile is revoked after a call exactly where the call leaves it
  alone. The result over runs is an induction with this step.
-/

namespace TboxSec.Tls

namespace Component

variable (L : Library) (base64Decode : String → Bytes) (name : String) (c : Component)
  (call : Call)

/-- What a call must not do to a revoked profile, and what it must report of it. -/
structure Withholds : Prop where
  revoked : ∃ ps, (c.step L base64Decode call).1.profile name = some ps ∧ ps.status = .revoked
  noBundle : ∀ b, ¬ c.Grants L base64Decode call name b
  noSignature : ¬ c.Signs L base64Decode call name
  reported : ∀ st, c.Reports L base64Decode call name st → st.status = .revoked

/-- The call does not load the material of the profile: no handler that would see to it has a
service whose vehicle is known or can be asked for, and it is not loaded directly. -/
def LeavesAlone : Prop :=
  ¬ (c.heals L call = some name ∧ c.dispatcherService = true ∧
      (c.informed call.env).VehicleKnown) ∧
    ∀ profile, call.op = .provider (.loadMaterials profile) → profile ≠ name

end Component

/-- The call is no rotation of the profile. A publication may rotate `mqtt`. -/
def Call.NoRotation (name : String) (call : Call) : Prop :=
  match call.op with
  | .provider (.rotateCredential profile) => profile ≠ name
  | .publishDeviceCertChain _ => name ≠ "mqtt"
  | _ => True

namespace Component

variable {L : Library} {base64Decode : String → Bytes} {name : String} {c : Component}
  {call : Call} {ps : ProfileState}

/-! ### One step -/

/-- The profile is revoked, and was loaded or rotated before. -/
def Revoked (name : String) (c : Component) : Prop :=
  ∃ ps, c.profile name = some ps ∧ ps.status = .revoked ∧ 0 < ps.version

/-- **A call keeps a revoked profile revoked exactly when it does not load its material.** -/
theorem status_after_iff (hrevoked : ps.status = .revoked) (hversion : 0 < ps.version)
    (hrot : call.NoRotation name) :
    (c.after L call name ps).status = .revoked ↔ c.LeavesAlone L name call := by
  have hne : ps.status ≠ .ready := by
    rw [hrevoked]
    decide
  have hreload : ∀ {E : Collaborators} {ps' : ProfileState},
      (validateAndStoreMaterials L.x509 E ps').2.status ≠ .revoked :=
    validateAndStoreMaterials_status_ne _ _ _
  -- A handler that sees to the profile reloads it, since it is not ready.
  have hhandler : ∀ ps' : ProfileState,
      ps' = (if c.Reloads L call name ps then
        (validateAndStoreMaterials L.x509
          ((c.informed call.env).collaborators call.env call.env.clock.load) ps.started).2
        else ps) →
      (∀ profile, call.op ≠ .provider (.loadMaterials profile)) →
      (ps'.status = .revoked ↔ c.LeavesAlone L name call) := by
    rintro ps' rfl hop
    have hreloads : c.Reloads L call name ps ↔
        (c.heals L call = some name ∧ c.dispatcherService = true ∧
          (c.informed call.env).VehicleKnown) := by
      constructor
      · rintro ⟨hheals, hservice, -, hknown⟩
        exact ⟨hheals, hservice, hknown⟩
      · rintro ⟨hheals, hservice, hknown⟩
        exact ⟨hheals, hservice, hne, hknown⟩
    have halone : c.LeavesAlone L name call ↔ ¬ c.Reloads L call name ps := by
      rw [hreloads]
      constructor
      · rintro ⟨hquiet, -⟩
        exact hquiet
      · intro hquiet
        exact ⟨hquiet, fun profile hload => absurd hload (hop profile)⟩
    rw [halone]
    split_ifs with hif
    · exact iff_of_false hreload (not_not.mpr hif)
    · exact iff_of_true hrevoked hif
  -- A call that is handled elsewhere leaves the profile alone.
  have hquiet : c.heals L call = none → (c.after L call name ps).status = .revoked →
      (∀ profile, call.op = .provider (.loadMaterials profile) → profile ≠ name) →
      ((c.after L call name ps).status = .revoked ↔ c.LeavesAlone L name call) := by
    intro hheals hstatus hload
    refine iff_of_true hstatus ⟨?_, hload⟩
    rintro ⟨hsome, -⟩
    rw [hheals] at hsome
    exact Option.some_ne_none _ hsome.symm
  obtain ⟨op, env⟩ := call
  cases op with
  | getTlsCredential params caller => exact hhandler _ rfl fun _ => by simp
  | getTlsCredentialState params => exact hhandler _ rfl fun _ => by simp
  | signTls params caller => exact hquiet rfl hrevoked (by simp)
  | publishDeviceCertChain pem =>
    have hmqtt : name ≠ "mqtt" := hrot
    refine hquiet rfl ?_ (by simp)
    simpa [after, hmqtt] using hrevoked
  | provider op =>
    cases op with
    | configureProfile config =>
      refine hquiet rfl ?_ (by simp)
      have hzero : ps.version ≠ 0 := hversion.ne'
      simp only [after, ProfileState.perform]
      split_ifs
      · simpa [ProfileState.configured, hzero] using hrevoked
      · exact hrevoked
    | loadMaterials profile =>
      simp only [after, ProfileState.perform]
      split_ifs with hname
      · refine iff_of_false hreload ?_
        rintro ⟨-, hload⟩
        exact hload profile rfl hname
      · refine iff_of_true hrevoked ⟨by simp [heals], ?_⟩
        intro profile' hload
        obtain rfl : profile = profile' := by simpa using hload
        exact hname
    | rotateCredential profile =>
      have hother : profile ≠ name := hrot
      refine hquiet rfl ?_ (by simp)
      simpa [after, ProfileState.perform, hother] using hrevoked
    | revokeCredential profile =>
      refine hquiet rfl ?_ (by simp)
      simp only [after, ProfileState.perform]
      split_ifs
      · rfl
      · exact hrevoked
    | getTlsCredential _ _ => exact hquiet rfl hrevoked (by simp)
    | getTlsCredentialState _ => exact hquiet rfl hrevoked (by simp)
    | signTls _ _ => exact hquiet rfl hrevoked (by simp)

/-- A call on a revoked profile withholds everything exactly when it leaves the material
alone. -/
private theorem withholds_iff (h : c.Revoked name) (hrot : call.NoRotation name) :
    c.Withholds L base64Decode name call ↔ c.LeavesAlone L name call := by
  obtain ⟨ps, hps, hrevoked, hversion⟩ := h
  have hstep : (c.step L base64Decode call).1.profile name = some (c.after L call name ps) :=
    profile_step hps
  rw [← status_after_iff hrevoked hversion hrot]
  constructor
  · rintro ⟨⟨ps', hps', hrevoked'⟩, -, -, -⟩
    rw [hstep] at hps'
    rwa [Option.some.inj hps']
  · intro hafter
    refine ⟨⟨_, hstep, hafter⟩, ?_, ?_, ?_⟩
    · intro b hgrants
      obtain ⟨ps', ref, hgrantable, -⟩ := grants_iff.mp hgrants
      have hsame : c.after L call name ps = ps' :=
        Option.some.inj (hstep.symm.trans hgrantable.profile)
      obtain ⟨caller, P, -, -, -, -, hready, -⟩ := hgrantable
      rw [hsame, hready] at hafter
      exact absurd hafter (by decide)
    · intro hsigns
      obtain ⟨ps', hsignable⟩ := signs_iff.mp hsigns
      have hsame : ps = ps' := Option.some.inj (hps.symm.trans hsignable.profile.1)
      rw [hsame, hsignable.profile.2] at hrevoked
      exact absurd hrevoked (by decide)
    · intro st hreports
      obtain ⟨-, ps', hps', rfl⟩ := reports_iff.mp hreports
      rw [hstep] at hps'
      rw [← Option.some.inj hps']
      exact hafter

/-- What withholds keeps the profile revoked. -/
private theorem Withholds.keeps (h : c.Revoked name)
    (hwith : c.Withholds L base64Decode name call) :
    (c.step L base64Decode call).1.Revoked name := by
  obtain ⟨ps, hps, -, hversion⟩ := h
  obtain ⟨ps', hps', hrevoked⟩ := hwith.revoked
  have hsame : c.after L call name ps = ps' :=
    Option.some.inj ((profile_step hps).symm.trans hps')
  refine ⟨ps', hps', hrevoked, ?_⟩
  rw [← hsame]
  exact lt_of_lt_of_le hversion (effect_after L base64Decode c call name ps).version_le

/-- A revocation that succeeds leaves the profile revoked. -/
private theorem revoked_of_success {event : Option TlsCredentialChangedEvent}
    (hop : call.op = .provider (.revokeCredential name))
    (hsuccess : (c.step L base64Decode call).2 = .provider (.code .success event)) :
    (c.step L base64Decode call).1.Revoked name := by
  cases hP : c.provider with
  | none => simp [step, hop, hP] at hsuccess
  | some P =>
    cases hps : P.profiles.find? name with
    | none =>
      simp [step, hop, hP, TlsCredentialProvider.perform,
        TlsCredentialProvider.revokeCredential, hps] at hsuccess
    | some ps =>
      have hprofile : c.profile name = some ps := by
        rw [Component.profile, hP]
        exact hps
      refine ⟨_, profile_step hprofile, ?_, ?_⟩
      · simp [after, hop, ProfileState.perform, ProfileState.revoke]
      · simp [after, hop, ProfileState.perform, ProfileState.revoke]

/-! ### Runs -/

/-- **A revoked profile stays revoked and is withheld exactly** in the runs none of whose calls
loads its material. The dispatcher loads the material of every profile that is not READY before it
asks for the credential or its state, and loading makes a revoked profile READY again. -/
theorem revocation_final_iff (L : Library) (base64Decode : String → Bytes) (name : String)
    (c : Component) (call : Call) (event : Option TlsCredentialChangedEvent)
    (hop : call.op = .provider (.revokeCredential name))
    (hsuccess : (c.step L base64Decode call).2 = .provider (.code .success event))
    (calls : List Call) (hcalls : ∀ call ∈ calls, call.NoRotation name) :
    (component L base64Decode).Along (Withholds L base64Decode name)
        (c.step L base64Decode call).1 calls ↔
      (component L base64Decode).Along (LeavesAlone L name)
        (c.step L base64Decode call).1 calls :=
  (component L base64Decode).along_congr (I := Revoked name) (revoked_of_success hop hsuccess)
    (fun _ call hcall hrevoked => withholds_iff hrevoked (hcalls call hcall))
    fun _ _ _ hrevoked hwith => hwith.keeps hrevoked

/-! ### A query after a revocation -/

/-- The revocation of `mqtt` at the time 200. -/
def exampleRevocation : Call :=
  { op := .provider (.revokeCredential "mqtt"), env := exampleEnv 200 }

/-- A query of the state of `mqtt` at the time 300. The request names no profile. -/
def exampleQuery : Call :=
  { op := .getTlsCredentialState [], env := exampleEnv 300 }

/-- A caller that is not on the list of `mqtt` asks for its credential, and then for a signature. -/
def exampleDenied : List Call :=
  let caller := { valid := true, serviceName := "tbox-ota.service" }
  [{ op := .getTlsCredential [] caller, env := exampleEnv 300 },
    { op := .signTls [] caller, env := exampleEnv 301 }]

/-- Requests that are refused reload nothing, and the revocation stands. -/
theorem revocation_final_denied :
    (component exampleLibrary fun _ => []).Along (LeavesAlone exampleLibrary "mqtt")
        (exampleComponent.step exampleLibrary (fun _ => []) exampleRevocation).1
        exampleDenied ∧
      (component exampleLibrary fun _ => []).Along
        (Withholds exampleLibrary (fun _ => []) "mqtt")
        (exampleComponent.step exampleLibrary (fun _ => []) exampleRevocation).1
        exampleDenied := by
  have hcond : (component exampleLibrary fun _ => []).Along (LeavesAlone exampleLibrary "mqtt")
      (exampleComponent.step exampleLibrary (fun _ => []) exampleRevocation).1
      exampleDenied := by
    refine ⟨⟨?_, nofun⟩, ⟨nofun, nofun⟩, trivial⟩
    rintro ⟨hheals, -⟩
    exact absurd hheals (by decide +kernel)
  have hiff := revocation_final_iff exampleLibrary (fun _ => []) "mqtt" exampleComponent
    exampleRevocation
    (some { profile := "mqtt", credentialId := "mqtt-primary", version := 2
            status := .revoked, reasonCode := .tlsCredentialInvalid })
    rfl (by rfl) exampleDenied (by simp [exampleDenied, Call.NoRotation])
  exact ⟨hcond, hiff.mpr hcond⟩

/-- **A query undoes the revocation.** The materials are still valid, so the query of an
arbitrary client finds the profile ready again. -/
theorem not_final_selfHealing :
    ¬ (component exampleLibrary fun _ => []).Along
        (Withholds exampleLibrary (fun _ => []) "mqtt")
        (exampleComponent.step exampleLibrary (fun _ => []) exampleRevocation).1
        [exampleQuery] := by
  rintro ⟨⟨⟨ps, hps, hrevoked⟩, -, -, -⟩, -⟩
  have hready : (((exampleComponent.step exampleLibrary (fun _ => []) exampleRevocation).1.step
      exampleLibrary (fun _ => []) exampleQuery).1.profile "mqtt").map (·.status) =
        some .ready := by decide +kernel
  rw [hps, Option.map_some, hrevoked] at hready
  exact absurd hready (by decide)

end Component

end TboxSec.Tls
