import TboxSec.Tls.Steps

/-!
# Validity over time

The validity of the leaf is compared with the clock when material is loaded, and only then.

* `Valid`: what a ready profile serves was valid at some earlier time. Every call keeps this
  (`Valid.step`), so on a clock that does not run backwards a leaf is never served too early.
* It can be served too late. `FollowsClock` is what following the clock means for the answers to
  one call, and `InTime` is a condition on the state that the call finds and on its environment:
  the profile that answers has not ended by then. `followsClock_iff` is their equivalence for one
  call.
* `validity_follows_iff` is the equivalence over whole runs from the start of the process, on a
  clock that does not run backwards.
-/

namespace TboxSec.Tls

/-- A ready profile serves `leaf`, a certificate that was parsed, and shows its validity. -/
structure ProfileState.Serves (X : X509Lib) (ps : ProfileState) (leaf : Certificate) : Prop where
  ready : ps.status = .ready
  chain : ∃ pem untrusted, X.loadCerts pem = leaf :: untrusted ∧
    ps.clientCertChainDer = derBundle (leaf :: untrusted)
  notBefore : ps.notBefore = leaf.notBefore
  notAfter : ps.notAfter = leaf.notAfter

/-- What is ready after a validation is valid at its time. -/
private theorem serves_validateAndStoreMaterials {X : X509Lib} {E : Collaborators}
    {ps : ProfileState}
    (hready : (validateAndStoreMaterials X E ps).2.status = .ready) :
    ∃ leaf, (validateAndStoreMaterials X E ps).2.Serves X leaf ∧ leaf.ValidAt E.now := by
  obtain ⟨roots, leaf, untrusted, hacc, heq⟩ | hrej := validateAndStoreMaterials_cases X E ps
  · rw [heq]
    obtain ⟨resolve, -, -, hchain⟩ := hacc.resolved
    exact ⟨leaf, ⟨rfl, ⟨_, untrusted, hchain, rfl⟩, rfl, rfl⟩, hacc.validAt⟩
  · exact absurd hready hrej.ready

/-- The configuration is no part of what is served. -/
private theorem serves_configured {X : X509Lib} {ps : ProfileState} {config : TlsProfileConfig}
    (hready : (ps.configured config).status = .ready) :
    ps.status = .ready ∧ ∀ leaf, ps.Serves X leaf → (ps.configured config).Serves X leaf := by
  have heq : ps.configured config = { ps with config := config } := by
    unfold ProfileState.configured at hready ⊢
    dsimp only at hready ⊢
    split_ifs at hready with hzero
    rw [if_neg hzero]
  rw [heq] at hready ⊢
  exact ⟨hready, fun leaf h => ⟨hready, h.chain, h.notBefore, h.notAfter⟩⟩

namespace Component

variable (L : Library) (base64Decode : String → Bytes) (c : Component) (call : Call)

/-! ### What following the clock means -/

/-- The answers to a call follow the clock: bundles and signatures are given within the validity
of the leaf that is served, and a leaf that is served when a query comes after its end is
reported as expired. -/
structure FollowsClock : Prop where
  bundles : ∀ name b, c.Grants L base64Decode call name b →
    ∃ ps leaf, (c.step L base64Decode call).1.profile name = some ps ∧ ps.Serves L.x509 leaf ∧
      b.clientCertChainDer = ps.clientCertChainDer ∧ leaf.ValidAt call.env.clock.serve
  signatures : ∀ name, c.Signs L base64Decode call name →
    ∃ ps leaf, c.profile name = some ps ∧ ps.Serves L.x509 leaf ∧
      leaf.ValidAt call.env.clock.serve
  states : ∀ name st ps leaf, c.Reports L base64Decode call name st →
    c.profile name = some ps → ps.Serves L.x509 leaf →
      leaf.notAfter < call.env.clock.serve → st.status = .expired

/-- The call, which finds the profile `name` in the state `ps`, is answered from a ready profile:
with a bundle, a signature or a state. -/
def AnsweredFrom (name : String) (ps : ProfileState) : Prop :=
  c.GivesBundle L call name ps ∨ c.Signable L base64Decode call name ps ∨
    (call.queries L = some name ∧ c.profile name = some ps ∧ ps.status = .ready)

/-- No ready profile answers after the `not_after` that it has when it answers. A request for a
credential may load the material of the profile first, and `Component.after` is what that makes of
the profile as the call finds it; signatures and states come from the profile as it is. -/
def InTime : Prop :=
  ∀ name ps, c.AnsweredFrom L base64Decode call name ps →
    call.env.clock.serve ≤ (c.after L call name ps).notAfter

variable {L base64Decode c call}

/-! ### One step -/

/-- What is ready was valid at some time up to `t`. -/
def Valid (X : X509Lib) (t : ℤ) (c : Component) : Prop :=
  ∀ name ps, c.profile name = some ps → ps.status = .ready →
    ∃ leaf, ps.Serves X leaf ∧ leaf.notBefore ≤ t

/-- A query of a ready profile reloads nothing. -/
private theorem after_query {name : String} {ps : ProfileState}
    (hquery : call.queries L = some name)
    (hready : ps.status = .ready) : c.after L call name ps = ps := by
  obtain ⟨op, env⟩ := call
  cases op with
  | getTlsCredentialState params =>
    have hnot : ¬ c.Reloads L ⟨.getTlsCredentialState params, env⟩ name ps :=
      fun hreloads => hreloads.2.2.1 hready
    simp only [after]
    rw [if_neg hnot]
  | provider op =>
    cases op with
    | getTlsCredentialState profile => rfl
    | _ => simp [Call.queries] at hquery
  | _ => simp [Call.queries] at hquery

/-- A call that asks for a signature leaves the profiles alone. -/
private theorem Signable.after_eq {name : String} {ps : ProfileState}
    (h : c.Signable L base64Decode call name ps) : c.after L call name ps = ps := by
  obtain ⟨-, request, caller, -, -, hrequest, -⟩ := h
  obtain ⟨op, env⟩ := call
  cases op with
  | signTls params caller' => rfl
  | provider op =>
    cases op with
    | signTls request' caller' => rfl
    | _ => simp [Call.requests] at hrequest
  | _ => simp [Call.requests] at hrequest

/-- **What is ready was valid before**, also after a call. -/
theorem Valid.step {t : ℤ} (h : Valid L.x509 t c) (ht : t ≤ call.env.clock.load) :
    Valid L.x509 call.env.clock.serve (c.step L base64Decode call).1 := by
  have hserve : t ≤ call.env.clock.serve := le_trans ht call.env.clock.load_le
  have hloaded : ∀ {E : Collaborators} {ps : ProfileState}, E.now ≤ call.env.clock.serve →
      (validateAndStoreMaterials L.x509 E ps).2.status = .ready →
      ∃ leaf, (validateAndStoreMaterials L.x509 E ps).2.Serves L.x509 leaf ∧
        leaf.notBefore ≤ call.env.clock.serve := by
    intro E ps hnow hready
    obtain ⟨leaf, hserves, hvalid⟩ := serves_validateAndStoreMaterials hready
    exact ⟨leaf, hserves, le_trans hvalid.1 hnow⟩
  intro name ps' hps' hready
  cases hps : c.profile name with
  | none =>
    obtain ⟨config, -, -, rfl⟩ := profile_step_new hps hps'
    exact absurd hready (by simp)
  | some ps =>
    have heffect := effect_after L base64Decode c call name ps
    have hsame : c.after L call name ps = ps' :=
      Option.some.inj ((profile_step hps).symm.trans hps')
    rw [hsame] at heffect
    cases heffect with
    | kept =>
      obtain ⟨leaf, hserves, hle⟩ := h name _ hps hready
      exact ⟨leaf, hserves, le_trans hle hserve⟩
    | configured config =>
      obtain ⟨hbefore, hserves⟩ := serves_configured hready
      obtain ⟨leaf, hleaf, hle⟩ := h name _ hps hbefore
      exact ⟨leaf, hserves leaf hleaf, le_trans hle hserve⟩
    | revoked => exact absurd hready (by simp [ProfileState.revoke])
    | reloaded c' now _ hnow => exact hloaded hnow hready
    | rotated c' now _ hnow => exact hloaded hnow hready

/-- What is asked of the clock is asked of every answer, so a call that follows it is in time: a
profile that is served too late would be seen in the bundle, in the signature, or in a state that
is not the expired one. -/
private theorem FollowsClock.inTime {t : ℤ} (hfollows : c.FollowsClock L base64Decode call)
    (h : Valid L.x509 t c) : c.InTime L base64Decode call := by
  rintro name ps (hgives | hsignable | ⟨hquery, hps, hready⟩)
  · obtain ⟨ref, hgrantable⟩ := grantable_iff.mpr ⟨ps, hgives, rfl⟩
    obtain ⟨ps', leaf, hps', hserves, -, hvalid⟩ :=
      hfollows.bundles name _ (grants_iff.mpr ⟨_, ref, hgrantable, rfl⟩)
    obtain rfl : c.after L call name ps = ps' :=
      Option.some.inj (hgrantable.profile.symm.trans hps')
    exact hserves.notAfter ▸ hvalid.2
  · rw [hsignable.after_eq]
    obtain ⟨ps', leaf, hps', hserves, hvalid⟩ :=
      hfollows.signatures name (signs_iff.mpr ⟨ps, hsignable⟩)
    obtain rfl : ps = ps' := Option.some.inj (hsignable.profile.1.symm.trans hps')
    exact hserves.notAfter ▸ hvalid.2
  · have hafter : c.after L call name ps = ps := after_query hquery hready
    rw [hafter]
    obtain ⟨leaf, hserves, -⟩ := h name ps hps hready
    by_contra hlate
    have hstep : (c.step L base64Decode call).1.profile name = some ps := by
      rw [profile_step hps, hafter]
    have hexpired := hfollows.states name ps.summary ps leaf
      (reports_iff.mpr ⟨hquery, ps, hstep, rfl⟩) hps hserves
      (by rw [← hserves.notAfter]; exact not_le.mp hlate)
    rw [show ps.summary.status = ps.status from rfl, hready] at hexpired
    exact absurd hexpired (by decide)

/-- Conversely a call that is in time follows the clock, because what is ready was valid before:
only the end of the validity can be missed. -/
private theorem InTime.followsClock {t : ℤ} (htime : c.InTime L base64Decode call)
    (h : Valid L.x509 t c) (ht : t ≤ call.env.clock.load) :
    c.FollowsClock L base64Decode call := by
  have hserve : t ≤ call.env.clock.serve := le_trans ht call.env.clock.load_le
  refine ⟨?_, ?_, ?_⟩
  · intro name b hgrants
    obtain ⟨ps', ref, hgrantable, rfl⟩ := grants_iff.mp hgrants
    obtain ⟨ps, hgives, rfl⟩ := grantable_iff.mp ⟨ref, hgrantable⟩
    have hready : (c.after L call name ps).status = .ready := by
      obtain ⟨_, _, -, -, -, -, hready, -⟩ := hgrantable
      exact hready
    obtain ⟨leaf, hserves, hbefore⟩ := h.step ht name _ hgrantable.profile hready
    have hend : call.env.clock.serve ≤ (c.after L call name ps).notAfter :=
      htime name ps (.inl hgives)
    exact ⟨_, leaf, hgrantable.profile, hserves, rfl, hbefore, hserves.notAfter ▸ hend⟩
  · intro name hsigns
    obtain ⟨ps, hsignable⟩ := signs_iff.mp hsigns
    obtain ⟨leaf, hserves, hbefore⟩ := h name ps hsignable.profile.1 hsignable.profile.2
    have hend := htime name ps (.inr (.inl hsignable))
    rw [hsignable.after_eq] at hend
    exact ⟨ps, leaf, hsignable.profile.1, hserves, le_trans hbefore hserve,
      hserves.notAfter ▸ hend⟩
  · intro name st ps leaf hreports hps hserves hlate
    obtain ⟨hquery, -⟩ := reports_iff.mp hreports
    have hend := htime name ps (.inr (.inr ⟨hquery, hps, hserves.ready⟩))
    rw [after_query hquery hserves.ready, hserves.notAfter] at hend
    exact absurd hlate (not_lt.mpr hend)

/-- **A call follows the clock exactly when it is in time.** -/
theorem followsClock_iff {t : ℤ} (h : Valid L.x509 t c) (ht : t ≤ call.env.clock.load) :
    c.FollowsClock L base64Decode call ↔ c.InTime L base64Decode call :=
  ⟨fun hfollows => hfollows.inTime h, fun htime => htime.followsClock h ht⟩

/-! ### Runs -/

/-- What is ready after the start was valid when its material was loaded. -/
private theorem valid_started {env : Surroundings} {hsm : Bool}
    {profiles : OrdMap String TlsProfileConf}
    {processKey : Bytes} {bootEpoch : UInt64} (h : c.provider = none) :
    Valid L.x509 env.clock.load
      (c.initializeTlsCredentialProvider L env hsm profiles processKey bootEpoch) := by
  have hnone : Valid L.x509 env.clock.load c := by
    intro name ps hps
    simp [Component.profile, h] at hps
  unfold initializeTlsCredentialProvider
  split_ifs
  · exact hnone
  · exact hnone
  refine loadProfiles_induction
    (I := fun P => ∀ name ps, P.profiles.find? name = some ps → ps.status = .ready →
      ∃ leaf, ps.Serves L.x509 leaf ∧ leaf.notBefore ≤ env.clock.load) ?_ ?_ ?_ profiles.toList
  · intro P pc _ hP name ps hps hready
    rw [find?_configureProfile] at hps
    split_ifs at hps
    · obtain rfl := Option.some.inj hps
      cases hold : P.profiles.find? name with
      | none =>
        rw [hold] at hready
        exact absurd (serves_configured (X := L.x509) hready).1 (by simp)
      | some ps' =>
        simp only [hold, Option.getD_some] at hready ⊢
        obtain ⟨hbefore, hserves⟩ := serves_configured hready
        obtain ⟨leaf, hleaf, hle⟩ := hP name ps' hold hbefore
        exact ⟨leaf, hserves leaf hleaf, hle⟩
    · exact hP name ps hps hready
  · intro P profile hP name ps hps hready
    rw [loadMaterials_snd, find?_update] at hps
    split_ifs at hps
    · obtain ⟨ps', -, rfl⟩ := Option.map_eq_some_iff.mp hps
      obtain ⟨leaf, hserves, hvalid⟩ := serves_validateAndStoreMaterials hready
      exact ⟨leaf, hserves, hvalid.1⟩
    · exact hP name ps hps hready
  · intro name ps hps
    exact absurd hps (by simp)

/-- **The credentials follow the clock exactly** in the runs in which nothing is answered from a
ready profile after its `not_after`. The validity of a leaf is compared with the clock when it is
loaded, and only then; on a clock that does not run backwards it is never served too early, and the
condition excludes that it is served too late. -/
theorem validity_follows_iff (L : Library) (base64Decode : String → Bytes) (c : Component)
    (env : Surroundings) (hsm : Bool) (profiles : OrdMap String TlsProfileConf)
    (processKey : Bytes) (bootEpoch : UInt64) (hstart : c.provider = none) (calls : List Call)
    (hclock : Machine.Timed (fun call : Call => call.env.clock.load)
      (fun call => call.env.clock.serve) env.clock.load calls) :
    (component L base64Decode).Along (FollowsClock L base64Decode)
        (c.initializeTlsCredentialProvider L env hsm profiles processKey bootEpoch) calls ↔
      (component L base64Decode).Along (InTime L base64Decode)
        (c.initializeTlsCredentialProvider L env hsm profiles processKey bootEpoch) calls :=
  (component L base64Decode).along_congr_timed (I := Valid L.x509) (valid_started hstart)
    hclock (fun _ _ _ ht hvalid => followsClock_iff hvalid ht)
    fun _ _ _ ht hvalid => hvalid.step ht

/-! ### A credential after its end -/

/-- A query of the state of `mqtt` at the time `t`. -/
def exampleQueryAt (t : ℤ) : Call := { op := .getTlsCredentialState [], env := exampleEnv t }

/-- `mqtt` after the start: ready until the time 1000. -/
private theorem exampleVehicle_profile :
    ((exampleVehicle.initializeTlsCredentialProvider exampleLibrary (exampleEnv 100) true
      exampleProfiles [] 7).profile "mqtt").map (fun ps => (ps.status, ps.notAfter)) =
        some (.ready, 1000) := by
  decide

/-- A query before the end is answered from a valid credential. -/
theorem validity_follows_beforeEnd :
    (component exampleLibrary fun _ => []).Along (FollowsClock exampleLibrary fun _ => [])
        (exampleVehicle.initializeTlsCredentialProvider exampleLibrary (exampleEnv 100) true
          exampleProfiles [] 7) [exampleQueryAt 900] ∧
      (component exampleLibrary fun _ => []).Along (InTime exampleLibrary fun _ => [])
        (exampleVehicle.initializeTlsCredentialProvider exampleLibrary (exampleEnv 100) true
          exampleProfiles [] 7) [exampleQueryAt 900] := by
  have hcond : (component exampleLibrary fun _ => []).Along (InTime exampleLibrary fun _ => [])
      (exampleVehicle.initializeTlsCredentialProvider exampleLibrary (exampleEnv 100) true
        exampleProfiles [] 7) [exampleQueryAt 900] := by
    refine ⟨?_, trivial⟩
    rintro name ps (⟨caller, P, hasks, -⟩ | ⟨P, request, caller, rp, -, hrequest, -⟩ |
      ⟨hquery, hps, hready⟩)
    · simp [Call.asks, exampleQueryAt] at hasks
    · simp [Call.requests, exampleQueryAt] at hrequest
    · have hmqtt : Call.queries exampleLibrary (exampleQueryAt 900) = some "mqtt" := by rfl
      obtain rfl : "mqtt" = name := Option.some.inj (hmqtt.symm.trans hquery)
      have hprofile := exampleVehicle_profile
      rw [hps, Option.map_some, Option.some.injEq, Prod.mk.injEq] at hprofile
      rw [after_query hquery hready, hprofile.2]
      decide
  have hiff := validity_follows_iff exampleLibrary (fun _ => []) exampleVehicle (exampleEnv 100)
    true exampleProfiles [] 7 rfl [exampleQueryAt 900] ⟨by decide, trivial⟩
  exact ⟨hiff.mpr hcond, hcond⟩

/-- **A credential outlives its certificate.** A query at the time 1500 reports a leaf as ready
that ended at the time 1000. -/
theorem not_followsClock_afterEnd :
    ¬ (component exampleLibrary fun _ => []).Along (FollowsClock exampleLibrary fun _ => [])
        (exampleVehicle.initializeTlsCredentialProvider exampleLibrary (exampleEnv 100) true
          exampleProfiles [] 7) [exampleQueryAt 1500] := by
  rintro ⟨hfollows, -⟩
  have hprofile := exampleVehicle_profile
  obtain ⟨ps, hps, heq⟩ := Option.map_eq_some_iff.mp hprofile
  obtain ⟨hready, hend⟩ := Prod.mk.inj heq
  have htime := (followsClock_iff (valid_started rfl) (by decide)).mp hfollows "mqtt" ps
    (.inr (.inr ⟨by rfl, hps, hready⟩))
  rw [after_query (by rfl) hready, hend] at htime
  exact absurd htime (by decide)

end Component

end TboxSec.Tls
