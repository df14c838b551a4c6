import TboxSec.Sec.Provision

/-!
# An installed certificate

`CERT_INSTALLED` is meant to be left by `reset_provision_status` only. Four operations leave it
otherwise: `get_csr` rebuilds a signing request that is no longer in memory and records
`CSR_BUILT`, a seed that cannot be generated and an expected key that cannot be computed record
`FAILED`, and so does key generation when the status cannot be read. `Spares` says for each
operation when it does not come to this, and `installed_stays_iff` that this is exact.

* The lemmas `installed_…` start from an installed certificate and are equivalences: the operation
  leaves it installed if and only if it is spared.
* The lemmas `not_installed_…` start without one: no operation but a successful injection gets
  there.
-/

namespace TboxSec.Sec

variable (aes : BlockCipher) (ω : Oracle) (w : World)

/-- The stored provision state is `CERT_INSTALLED`. -/
def World.Installed : Prop := w.persistedState = .certInstalled

instance : Decidable w.Installed := inferInstanceAs (Decidable (_ = _))

/-! ### When an operation leaves the state alone -/

/-- DIAG carries the request out and answers with an error of its own: nothing is recorded. -/
def DiagRefuses : Prop :=
  (handleDiagRequest ω w).1.1 = .success ∧ (handleDiagRequest ω w).1.2 ≠ .success

/-- `generate_key_pair` on an installed certificate: the status is read, or DIAG refuses, or the
update is not stored. -/
def SparesKey : Prop :=
  w.svc.initialized = true → w.svc.shuttingDown = false → (ensureVehicleInfo ω w).1 = .success →
    (ω.read w.asked.reads).finds = true ∨
      (w.svc.diagService = true ∧ DiagRefuses ω w) ∨ (ω.save w.asked.saves).stores = false

/-- `get_csr` on an installed certificate: the request is still in memory, or the status is not
read, or the update is not stored. -/
def SparesCsr : Prop :=
  w.svc.initialized = true → (ensureVehicleInfo ω w).1 = .success →
    w.svc.csrDer ≠ [] ∨ (ω.read w.asked.reads).finds = false ∨
      (ω.save w.asked.saves).stores = false

/-- `apply_certificate` on an installed certificate: the status is read, or else DIAG is reached
or its error not stored, and without DIAG the two operations it calls spare the state. -/
def SparesApply : Prop :=
  w.svc.initialized = true → w.svc.shuttingDown = false →
    (ω.read w.asked.reads).finds = true ∨
      if w.svc.diagService then
        (handleDiagRequest ω w).1.1 = .success ∨ (ω.save w.asked.saves).stores = false
      else
        let w := (w.getProvisionStatus ω).2
        SparesKey ω w ∧
          ((generateKeyPair ω w).1 = .success → SparesCsr ω (generateKeyPair ω w).2)

/-- `get_seed`: random bytes are to be had, or the error is not stored. -/
def SparesSeed (level : UInt8) : Prop :=
  w.svc.Serving → requestsSeed level = true → w.svc.isInLockout ω.clock.first = false →
    ω.random ≠ none ∨ (ω.save w.asked.saves).stores = false

/-- `verify_key`: the expected key can be computed, or the error is not stored. -/
def SparesVerify (level : UInt8) : Prop :=
  w.svc.Serving → sendsKey level = true → Comparable w.svc level ω →
    (∃ expected, computeExpectedKey aes w.svc ω.evp w.svc.currentSeed.seed = .ok expected) ∨
      (ω.save w.asked.saves).stores = false

/-- The condition on one operation. A reset is the one that is meant to leave the state. -/
def Spares (w : World) (c : ServiceCall) : Prop :=
  match c.operation with
  | .generateKeyPair => SparesKey c.oracle w.fresh
  | .getCsr => SparesCsr c.oracle w.fresh
  | .submitCsr => True
  | .injectCertificate _ => True
  | .applyCertificate => SparesApply c.oracle w.fresh
  | .getSeed level => SparesSeed c.oracle w.fresh level
  | .verifyKey level _ => SparesVerify aes c.oracle w.fresh level
  | .resetProvisionStatus => w.svc.initialized = true → c.oracle.remove.stores = false
  | .restart _ => True

variable {aes ω w}

/-! ### The parts of an operation -/

/-- Asking for the vehicle information touches neither the stored status nor the rest of the
answers. -/
structure Untouched (w w' : World) : Prop where
  persisted : w'.persisted = w.persisted
  csrDer : w'.svc.csrDer = w.svc.csrDer
  diagService : w'.svc.diagService = w.svc.diagService
  reads : w'.asked.reads = w.asked.reads
  saves : w'.asked.saves = w.asked.saves
  diags : w'.asked.diags = w.asked.diags

/-- Fetching the vehicle information touches neither the stored status nor the copy in memory. -/
theorem untouched_ensureVehicleInfo : Untouched w (ensureVehicleInfo ω w).2 := by
  unfold ensureVehicleInfo
  split_ifs
  · exact ⟨rfl, rfl, rfl, rfl, rfl, rfl⟩
  · exact ⟨rfl, rfl, rfl, rfl, rfl, rfl⟩
  · dsimp only
    split
    · exact ⟨rfl, rfl, rfl, rfl, rfl, rfl⟩
    · split_ifs <;> exact ⟨rfl, rfl, rfl, rfl, rfl, rfl⟩

/-- Worlds that agree on the status agree on whether a certificate is installed. -/
private theorem Untouched.installed {w' : World} (h : Untouched w w') :
    w'.Installed ↔ w.Installed := by
  unfold World.Installed World.persistedState
  rw [h.persisted]

/-- The answer of DIAG depends on the number of the request only. -/
private theorem handleDiagRequest_congr {w' : World}
    (hdiag : w'.svc.diagService = w.svc.diagService)
    (hasked : w'.asked.diags = w.asked.diags) :
    (handleDiagRequest ω w').1 = (handleDiagRequest ω w).1 := by
  unfold handleDiagRequest
  rw [hdiag, hasked]
  split_ifs
  · rfl
  · dsimp only
    split_ifs <;> rfl

/-- A diagnostic request leaves the stored state alone. -/
private theorem persistedState_handleDiagRequest :
    (handleDiagRequest ω w).2.persistedState = w.persistedState := by
  unfold handleDiagRequest
  split_ifs
  · rfl
  · dsimp only
    split_ifs <;> rfl

/-- It saves nothing, so that the next save is answered as it would have been before it. -/
private theorem saves_handleDiagRequest :
    (handleDiagRequest ω w).2.asked.saves = w.asked.saves := by
  unfold handleDiagRequest
  split_ifs
  · rfl
  · dsimp only
    split_ifs <;> rfl

/-- An error or another state is recorded unless the update is not stored. -/
private theorem installed_update {state : ProvisionState} {error : String} (h : w.Installed)
    (hstate : state ≠ .certInstalled) :
    (w.updateProvisionState ω state error).Installed ↔
      (ω.save w.asked.saves).stores = false := by
  unfold World.Installed
  rw [World.persistedState_updateProvisionState]
  cases (ω.save w.asked.saves).stores with
  | true => simp [hstate]
  | false => simpa [World.Installed] using h

/-- After an error the certificate is still installed exactly where the record of the failure could
not be stored. -/
private theorem installed_handleError {error : ErrorCode} {context : String} (h : w.Installed) :
    (w.handleError ω error context).Installed ↔ (ω.save w.asked.saves).stores = false :=
  installed_update h (by decide)

/-- A request via DIAG. -/
private theorem installed_viaDiag {done : ProvisionState} {context : String} (h : w.Installed)
    (hdone : done ≠ .certInstalled) :
    (viaDiag ω w done context).2.Installed ↔
      DiagRefuses ω w ∨ (ω.save w.asked.saves).stores = false := by
  have hafter : (handleDiagRequest ω w).2.Installed := persistedState_handleDiagRequest.trans h
  have hsaves := saves_handleDiagRequest (ω := ω) (w := w)
  unfold viaDiag DiagRefuses
  generalize handleDiagRequest ω w = a at *
  obtain ⟨⟨result, response⟩, w'⟩ := a
  dsimp only at *
  split_ifs with hresult hresponse
  · rw [installed_handleError hafter, hsaves]
    simp [hresult]
  · rw [installed_update hafter hdone, hsaves]
    simp [hresponse]
  · have hok : result = .success := not_not.mp hresult
    simp [hafter, hok, hresponse]

/-- An operation carried out by the service itself. -/
private theorem installed_conclude {result : ErrorCode} {done : ProvisionState} {context : String}
    (h : w.Installed) (hdone : done ≠ .certInstalled) :
    (conclude ω w result done context).2.Installed ↔
      (ω.save w.asked.saves).stores = false := by
  unfold conclude
  split_ifs
  · exact installed_handleError h
  · exact installed_update h hdone

/-- A call that is not served leaves the state alone. -/
private theorem installed_whileServing {body : World → ErrorCode × World} (h : w.Installed) :
    (whileServing w body).2.Installed ↔
      (w.svc.initialized = true → w.svc.shuttingDown = false → (body w).2.Installed) := by
  unfold whileServing
  cases w.svc.initialized <;> cases w.svc.shuttingDown <;> simp [h]

/-- A call without vehicle information leaves the state alone. -/
private theorem installed_withVehicleInfo {body : World → ErrorCode × World} (h : w.Installed) :
    (withVehicleInfo ω w body).2.Installed ↔
      ((ensureVehicleInfo ω w).1 = .success →
        (body (ensureVehicleInfo ω w).2).2.Installed) := by
  have hafter := (untouched_ensureVehicleInfo (ω := ω)).installed.mpr h
  unfold withVehicleInfo
  generalize ensureVehicleInfo ω w = a at *
  obtain ⟨result, w'⟩ := a
  dsimp only at *
  split_ifs with hresult
  · simp [hresult, hafter]
  · simp [not_not.mp hresult]

/-- The status as an operation reads it: installed, or not found. -/
private theorem state_read (h : w.Installed) :
    ((w.getProvisionStatus ω).1).state =
      if (ω.read w.asked.reads).finds then .certInstalled else .none := by
  rw [World.getProvisionStatus_fst]
  cases hfinds : (ω.read w.asked.reads).finds with
  | true =>
    have hsome : w.persistedState ≠ .none := by
      rw [show w.persistedState = .certInstalled from h]
      decide
    rw [World.state_statusRead_of_finds hfinds hsome]
    exact h
  | false => exact World.state_statusRead_of_not_finds hfinds

/-- Reading the status leaves the state alone. -/
private theorem installed_getProvisionStatus (h : w.Installed) :
    (w.getProvisionStatus ω).2.Installed := h

/-! ### The operations -/

/-- Key generation spares an installed certificate where the status can be read. -/
private theorem installed_generateKeyPair (h : w.Installed) (hkey : ω.deviceKeyExists = true) :
    (generateKeyPair ω w).2.Installed ↔ SparesKey ω w := by
  unfold generateKeyPair SparesKey
  rw [installed_whileServing h]
  refine forall₂_congr fun _ _ => ?_
  rw [installed_withVehicleInfo h]
  refine forall_congr' fun _ => ?_
  have hu := untouched_ensureVehicleInfo (ω := ω) (w := w)
  have h₁ : (ensureVehicleInfo ω w).2.Installed := hu.installed.mpr h
  generalize (ensureVehicleInfo ω w).2 = w₁ at *
  have hstate := state_read (ω := ω) h₁
  rw [hu.reads] at hstate
  have h₂ := installed_getProvisionStatus (ω := ω) h₁
  have hrefuses : DiagRefuses ω (w₁.getProvisionStatus ω).2 ↔ DiagRefuses ω w := by
    have hcongr : (handleDiagRequest ω (w₁.getProvisionStatus ω).2).1 =
        (handleDiagRequest ω w).1 := handleDiagRequest_congr hu.diagService hu.diags
    unfold DiagRefuses
    rw [hcongr]
  dsimp only
  cases hfinds : (ω.read w.asked.reads).finds with
  | true =>
    rw [hfinds] at hstate
    rw [hstate, hkey]
    simpa using h₂
  | false =>
    rw [hfinds] at hstate
    rw [hstate]
    simp only [ne_eq, not_true_eq_false, false_and, if_false, Bool.false_eq_true, false_or]
    rw [World.svc_getProvisionStatus, hu.diagService]
    cases w.svc.diagService with
    | true =>
      rw [if_pos rfl, installed_viaDiag h₂ (by decide), hrefuses]
      simp [World.getProvisionStatus, hu.saves]
    | false =>
      rw [if_neg Bool.false_ne_true, installed_conclude h₂ (by decide)]
      simp [World.getProvisionStatus, hu.saves]

/-- `get_csr` spares it where the signing request is still in memory, or where nothing new gets
recorded. -/
private theorem installed_getCsr (h : w.Installed) :
    (getCsr ω w).2.Installed ↔ SparesCsr ω w := by
  unfold getCsr SparesCsr
  cases hinit : w.svc.initialized with
  | false => simpa using h
  | true =>
    rw [if_neg (by simp), installed_withVehicleInfo h]
    simp only [true_imp_iff]
    refine forall_congr' fun _ => ?_
    have hu := untouched_ensureVehicleInfo (ω := ω) (w := w)
    have h₁ : (ensureVehicleInfo ω w).2.Installed := hu.installed.mpr h
    generalize (ensureVehicleInfo ω w).2 = w₁ at *
    have hstate := state_read (ω := ω) h₁
    rw [hu.reads] at hstate
    have h₂ := installed_getProvisionStatus (ω := ω) h₁
    cases hfinds : (ω.read w.asked.reads).finds with
    | false =>
      rw [hfinds] at hstate
      rw [hstate]
      simpa using h₂
    | true =>
      rw [hfinds] at hstate
      rw [hstate, World.svc_getProvisionStatus, hu.csrDer]
      by_cases hcsr : w.svc.csrDer = []
      · have h₃ : ((w₁.getProvisionStatus ω).2.setCsr ω.buildCsr.2).Installed := h₂
        rw [if_neg (by decide), if_pos (.inr hcsr), installed_conclude h₃ (by decide)]
        simp [hcsr, World.setCsr, World.getProvisionStatus, hu.saves]
      · rw [if_neg (by decide), if_neg (by simp [hcsr])]
        simpa [hcsr] using h₂

/-- An installed certificate is not a built request: nothing is submitted. -/
private theorem installed_submitCsr (h : w.Installed) : (submitCsr ω w).2.Installed := by
  unfold submitCsr
  refine (installed_whileServing h).mpr fun _ _ => (installed_withVehicleInfo h).mpr fun _ => ?_
  have h₁ : (ensureVehicleInfo ω w).2.Installed := untouched_ensureVehicleInfo.installed.mpr h
  have hstate := state_read (ω := ω) h₁
  dsimp only
  rw [if_pos]
  · exact h₁
  · rw [hstate]
    split_ifs <;> decide

/-- An installed certificate is not replaced. -/
private theorem installed_injectCertificate (h : w.Installed) (certDer : Bytes) :
    (injectCertificate ω w certDer).2.Installed := by
  unfold injectCertificate
  refine (installed_whileServing h).mpr fun _ _ => (installed_withVehicleInfo h).mpr fun _ => ?_
  have h₁ : (ensureVehicleInfo ω w).2.Installed := untouched_ensureVehicleInfo.installed.mpr h
  have hstate := state_read (ω := ω) h₁
  dsimp only
  rw [if_pos]
  · exact h₁
  · rw [hstate]
    split_ifs <;> simp

/-- Nothing but an installation makes a certificate installed. -/
private theorem not_installed_update {state : ProvisionState} {error : String} (h : ¬ w.Installed)
    (hstate : state ≠ .certInstalled) : ¬ (w.updateProvisionState ω state error).Installed := by
  unfold World.Installed at *
  rw [World.persistedState_updateProvisionState]
  split_ifs
  · exact hstate
  · exact h

/-- A step through the diagnostic service does not install a certificate, whether it succeeds or
records a failure. -/
private theorem not_installed_viaDiag {done : ProvisionState} {context : String} (h : ¬ w.Installed)
    (hdone : done ≠ .certInstalled) : ¬ (viaDiag ω w done context).2.Installed := by
  have hafter : ¬ (handleDiagRequest ω w).2.Installed := fun hi =>
    h (persistedState_handleDiagRequest.symm.trans hi)
  unfold viaDiag
  generalize handleDiagRequest ω w = a at *
  obtain ⟨⟨result, response⟩, w'⟩ := a
  dsimp only at *
  split_ifs
  · exact not_installed_update hafter (by decide)
  · exact not_installed_update hafter hdone
  · exact hafter

/-- `get_csr` does not install one. -/
private theorem not_installed_getCsr (h : ¬ w.Installed) : ¬ (getCsr ω w).2.Installed := by
  have h₁ : ¬ (ensureVehicleInfo ω w).2.Installed := fun hi =>
    h (untouched_ensureVehicleInfo.installed.mp hi)
  unfold getCsr withVehicleInfo conclude
  dsimp only
  split_ifs
  · exact h
  · exact h₁
  · exact h₁
  · exact not_installed_update h₁ (by decide)
  · exact not_installed_update h₁ (by decide)
  · exact h₁

/-- `submit_csr` does not install one. -/
private theorem not_installed_submitCsr (h : ¬ w.Installed) : ¬ (submitCsr ω w).2.Installed := by
  have h₁ : ¬ (ensureVehicleInfo ω w).2.Installed := fun hi =>
    h (untouched_ensureVehicleInfo.installed.mp hi)
  unfold submitCsr whileServing withVehicleInfo
  dsimp only
  split_ifs
  · exact h
  · exact h
  · exact h₁
  · exact h₁
  · exact not_installed_viaDiag h₁ (by decide)
  · exact h₁

/-- With a signing request already built, the last stage of an application is `submit_csr`. -/
private theorem applySubmit_csrBuilt : applySubmit ω .csrBuilt w = submitCsr ω w := if_pos rfl

/-- The second and third step of `apply_certificate`. -/
private theorem installed_applyCsr (h : w.Installed) :
    (applyCsr ω .keyGenerated w).2.Installed ↔ SparesCsr ω w := by
  have hcsr := installed_getCsr (ω := ω) h
  unfold applyCsr
  rw [if_pos rfl]
  dsimp only
  rw [applySubmit_csrBuilt]
  split_ifs with hresult
  · exact hcsr
  · rw [← hcsr]
    by_cases hafter : (getCsr ω w).2.Installed
    · exact ⟨fun _ => hafter, fun _ => installed_submitCsr hafter⟩
    · exact ⟨fun hi => absurd hi (not_installed_submitCsr hafter), fun hi => absurd hi hafter⟩

/-- The middle stage of an application does not install a certificate. -/
private theorem not_installed_applyCsr (h : ¬ w.Installed) :
    ¬ (applyCsr ω .keyGenerated w).2.Installed := by
  have hafter := not_installed_getCsr (ω := ω) h
  unfold applyCsr
  rw [if_pos rfl]
  dsimp only
  rw [applySubmit_csrBuilt]
  split_ifs
  · exact hafter
  · exact not_installed_submitCsr hafter

/-- The steps of `apply_certificate` without DIAG. -/
private theorem installed_applyKey (h : w.Installed) (hkey : ω.deviceKeyExists = true) :
    (applyKey ω .none w).2.Installed ↔
      SparesKey ω w ∧
        ((generateKeyPair ω w).1 = .success → SparesCsr ω (generateKeyPair ω w).2) := by
  have hgen := installed_generateKeyPair h hkey
  unfold applyKey
  rw [if_pos rfl]
  dsimp only
  split_ifs with hresult
  · rw [hgen]
    exact ⟨fun hs => ⟨hs, fun hok => absurd hok hresult⟩, fun hs => hs.1⟩
  · rw [← hgen]
    by_cases hafter : (generateKeyPair ω w).2.Installed
    · rw [installed_applyCsr hafter]
      exact ⟨fun hs => ⟨hafter, fun _ => hs⟩, fun hs => hs.2 (not_not.mp hresult)⟩
    · exact ⟨fun hi => absurd hi (not_installed_applyCsr hafter), fun hs => absurd hs.1 hafter⟩

/-- A whole application spares an installed certificate exactly where its stages do. -/
private theorem installed_applyCertificate (h : w.Installed) (hkey : ω.deviceKeyExists = true) :
    (applyCertificate ω w).2.Installed ↔ SparesApply ω w := by
  unfold applyCertificate SparesApply
  rw [installed_whileServing h]
  refine forall₂_congr fun _ _ => ?_
  have hstate := state_read (ω := ω) h
  have h₁ := installed_getProvisionStatus (ω := ω) h
  have hcongr : (handleDiagRequest ω (w.getProvisionStatus ω).2).1 =
      (handleDiagRequest ω w).1 := handleDiagRequest_congr rfl rfl
  dsimp only
  cases hfinds : (ω.read w.asked.reads).finds with
  | true =>
    rw [hfinds] at hstate
    rw [hstate]
    simpa using h₁
  | false =>
    rw [hfinds] at hstate
    rw [hstate]
    simp only [Bool.false_eq_true, if_false, reduceCtorEq, false_or,
      World.svc_getProvisionStatus]
    cases w.svc.diagService with
    | true =>
      simp only [if_true]
      have hafter : (handleDiagRequest ω (w.getProvisionStatus ω).2).2.Installed :=
        persistedState_handleDiagRequest.trans h₁
      have hsaves := saves_handleDiagRequest (ω := ω) (w := (w.getProvisionStatus ω).2)
      rw [← hcongr]
      generalize handleDiagRequest ω (w.getProvisionStatus ω).2 = a at *
      obtain ⟨⟨result, response⟩, w'⟩ := a
      dsimp only at *
      split_ifs with hresult
      · rw [installed_handleError hafter, hsaves]
        simp [hresult, World.getProvisionStatus]
      · simp [hafter, not_not.mp hresult]
    | false =>
      simp only [Bool.false_eq_true, if_false]
      exact installed_applyKey h₁ hkey

/-- A seed spares it where the random source answers, or where the failure is not stored. -/
private theorem installed_getSeed (h : w.Installed) (level : UInt8) :
    (getSeed level ω w).1.Installed ↔ SparesSeed ω w level := by
  unfold SparesSeed
  by_cases hw : w.svc.Serving
  · cases hl : requestsSeed level with
    | false =>
      rw [getSeed_wrongParity hw hl]
      simp [h]
    | true =>
      rcases getSeed_cases ω hw hl with
        ⟨hlock, heq⟩ | ⟨hfree, hrandom, heq⟩ | ⟨hfree, seed, hrandom, heq⟩
      · rw [heq]
        simp [h, hlock]
      · rw [heq, installed_handleError h]
        simp [hw, hfree, hrandom]
      · rw [heq]
        exact ⟨fun _ _ _ _ => .inl (by simp [hrandom]), fun _ => h⟩
  · have hquiet : (getSeed level ω w).1 = w := by
      unfold getSeed SecService.Serving at *
      cases hinit : w.svc.initialized with
      | false => rfl
      | true =>
        cases hdown : w.svc.shuttingDown with
        | true => rfl
        | false => exact absurd ⟨hinit, hdown⟩ hw
    rw [hquiet]
    simp [h, hw]

/-- A key spares it where the expected key can be computed, or where the failure is not stored. -/
private theorem installed_verifyKey (h : w.Installed) (level : UInt8) (key : Bytes) :
    (verifyKey aes level key ω w).1.Installed ↔ SparesVerify aes ω w level := by
  unfold SparesVerify
  by_cases hw : w.svc.Serving
  · cases hl : sendsKey level with
    | false =>
      rw [verifyKey_wrongParity aes key ω hw hl]
      simp [h]
    | true =>
      rcases verifyKey_cases aes key ω hw hl with
        ⟨hlock, heq⟩ | ⟨hfree, hinvalid, heq⟩ | ⟨hfree, hvalid, hlevel, heq⟩ |
          ⟨hcomp, e, herr, heq⟩ | ⟨hcomp, hok, heq⟩ | ⟨hcomp, expected, hok, hne, heq⟩
      · rw [heq]
        refine ⟨fun _ _ _ hcomp => ?_, fun _ => h⟩
        exact absurd (hcomp.free.symm.trans hlock) Bool.false_ne_true
      · rw [heq]
        refine ⟨fun _ _ _ hcomp => ?_, fun _ => h⟩
        exact absurd (hinvalid.symm.trans hcomp.valid) Bool.false_ne_true
      · rw [heq]
        exact ⟨fun _ _ _ hcomp => absurd hcomp.level hlevel, fun _ => h⟩
      · rw [heq, installed_handleError h]
        refine ⟨fun hs _ _ _ => .inr hs, fun hs => (hs hw rfl hcomp).resolve_left ?_⟩
        rintro ⟨expected, hok⟩
        have hclash := herr.symm.trans hok
        cases hclash
      · rw [heq]
        exact ⟨fun _ _ _ _ => .inl ⟨_, hok⟩, fun _ => h⟩
      · rw [heq]
        exact ⟨fun _ _ _ _ => .inl ⟨_, hok⟩, fun _ => h⟩
  · have hquiet : (verifyKey aes level key ω w).1 = w := by
      unfold verifyKey SecService.Serving at *
      cases hinit : w.svc.initialized with
      | false => rfl
      | true =>
        cases hdown : w.svc.shuttingDown with
        | true => rfl
        | false => exact absurd ⟨hinit, hdown⟩ hw
    rw [hquiet]
    exact ⟨fun _ hserving => absurd hserving hw, fun _ => h⟩

/-- A reset leaves it installed only before the service was initialised, or where the removal fails.
-/
private theorem installed_resetProvisionStatus (h : w.Installed) :
    (resetProvisionStatus ω w).2.Installed ↔
      (w.svc.initialized = true → ω.remove.stores = false) := by
  unfold resetProvisionStatus
  cases w.svc.initialized with
  | false => simpa using h
  | true =>
    cases hstores : ω.remove.stores with
    | false =>
      have hsame : World.Installed { w with svc.csrDer := [] } := h
      simpa using hsame
    | true => simp [World.Installed, World.persistedState]

/-- **The step.** An operation leaves an installed certificate installed exactly under its
condition. -/
theorem installed_perform (h : w.Installed) (c : ServiceCall)
    (hkey : c.oracle.deviceKeyExists = true) :
    (w.perform aes c).Installed ↔ Spares aes w c := by
  have hfresh : w.fresh.Installed := h
  obtain ⟨operation, ω⟩ := c
  cases operation with
  | generateKeyPair => exact installed_generateKeyPair hfresh hkey
  | getCsr => exact installed_getCsr hfresh
  | submitCsr => exact ⟨fun _ => trivial, fun _ => installed_submitCsr hfresh⟩
  | injectCertificate certDer =>
    exact ⟨fun _ => trivial, fun _ => installed_injectCertificate hfresh certDer⟩
  | applyCertificate => exact installed_applyCertificate hfresh hkey
  | getSeed level => exact installed_getSeed hfresh level
  | verifyKey level key => exact installed_verifyKey hfresh level key
  | resetProvisionStatus => exact installed_resetProvisionStatus hfresh
  | restart svc => exact ⟨fun _ => trivial, fun _ => h⟩

/-! ### Runs -/

/-- **An installed certificate stays installed exactly** in the runs all of whose operations meet
their condition: a signing request is not rebuilt after a restart, no error of the
security-access part is recorded, and no key is generated because the status could not be
read. -/
theorem installed_stays_iff {calls : List ServiceCall} (h : w.Installed)
    (hkey : ∀ c ∈ calls, c.oracle.deviceKeyExists = true) :
    (service aes).Along (fun w c => (w.perform aes c).Installed) w calls ↔
      (service aes).Along (Spares aes) w calls :=
  (service aes).along_congr (I := World.Installed) h
    (fun _ c hc hI => installed_perform hI c (hkey c hc)) fun _ _ _ _ hafter => hafter

/-! ### A restart before the signing request is read -/

/-- A service whose certificate is installed, as a restart leaves it. -/
def installedSvc : SecService :=
  { initialized := true, vin := "LSVTEST0000000001", ecuUid := "ECU-1" }

/-- Its world. -/
def installedWorld : World :=
  { persisted := .doc (ProvisionStatus.toJson { state := .certInstalled })
    svc := { installedSvc with csrDer := [0x30] } }

/-- The signing request is read while it is in memory. -/
def readCsr : List ServiceCall := [⟨.getCsr, {}⟩]

/-- The condition and the property hold of reading the request that is in memory. -/
theorem installed_stays_readCsr :
    (service exampleAes).Along (Spares exampleAes) installedWorld readCsr ∧
      (service exampleAes).Along (fun w c => (w.perform exampleAes c).Installed) installedWorld
        readCsr := by
  have hcond : (service exampleAes).Along (Spares exampleAes) installedWorld readCsr :=
    ⟨fun _ _ => .inl (by decide), trivial⟩
  exact ⟨hcond, (installed_stays_iff (by decide) (by decide)).mpr hcond⟩

/-- A restart, then the signing request is read; it is built again. -/
def restartThenCsr : List ServiceCall :=
  [⟨.restart installedSvc, {}⟩, ⟨.getCsr, { buildCsr := (.success, [0x30]) }⟩]

/-- **Reading the signing request after a restart.** The device key is there and nothing fails,
but the stored state becomes `CSR_BUILT`. -/
theorem not_installed_after_restart :
    ¬ (service exampleAes).Along (fun w c => (w.perform exampleAes c).Installed) installedWorld
      restartThenCsr ∧
      ((service exampleAes).run installedWorld restartThenCsr).persistedState = .csrBuilt :=
  ⟨fun hstays => absurd hstays.2.1 (by decide), by decide⟩

end TboxSec.Sec
