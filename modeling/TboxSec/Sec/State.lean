import TboxSec.Canonical.Encoding
import TboxSec.ErrorCode

/-!
# The security service: state and environment

The fields of `SecService` that its provisioning and security-access operations read and write,
the status record it keeps in the store, and what its environment answers during one call.

* `World` is the service object together with what outlives it: the text stored under
  `provision_state`.
* `Oracle` holds the answers of one call: the store, the clock, the random generator, the
  cipher library, PROV, the key engine and DIAG. Where a call asks the same thing several
  times, the answers are numbered and `Asked` counts those already taken.
* `World.getProvisionStatus`, `World.updateProvisionState` and `World.handleError` are the only
  accesses to the stored status. Whatever the status read, a failed update leaves the text alone
  and a successful one stores the new state.

Log output is left out, and of the status record the time of the last update, which nothing
reads.
-/

namespace TboxSec.Sec

/-! ### The stored status -/

/-- `ProvisionState`. -/
inductive ProvisionState where
  | none | keyGenerated | csrBuilt | csrSubmitted | certInstalled | failed
  deriving DecidableEq

/-- `provision_state_to_string`. -/
def ProvisionState.toText : ProvisionState → String
  | .none => "NONE"
  | .keyGenerated => "KEY_GENERATED"
  | .csrBuilt => "CSR_BUILT"
  | .csrSubmitted => "CSR_SUBMITTED"
  | .certInstalled => "CERT_INSTALLED"
  | .failed => "FAILED"

/-- `string_to_provision_state`: an unknown text is `NONE`. -/
def ProvisionState.ofText (s : String) : ProvisionState :=
  if s = "NONE" then .none
  else if s = "KEY_GENERATED" then .keyGenerated
  else if s = "CSR_BUILT" then .csrBuilt
  else if s = "CSR_SUBMITTED" then .csrSubmitted
  else if s = "CERT_INSTALLED" then .certInstalled
  else if s = "FAILED" then .failed
  else .none

@[simp]
theorem ProvisionState.ofText_toText (s : ProvisionState) : ofText s.toText = s := by
  cases s <;> decide

/-- `ProvisionStatus`. -/
structure ProvisionStatus where
  vin : String := ""
  ecuUid : String := ""
  state : ProvisionState := .none
  lastError : String := ""
  retryCount : ℤ := 0
  deriving DecidableEq

/-- The fields of the stored JSON object. -/
structure StatusDoc where
  vin : String
  ecuUid : String
  state : String
  lastError : String
  retryCount : ℤ
  deriving DecidableEq

/-- `ProvisionStatus::to_json`. -/
def ProvisionStatus.toJson (s : ProvisionStatus) : StatusDoc :=
  { vin := s.vin, ecuUid := s.ecuUid, state := s.state.toText, lastError := s.lastError
    retryCount := s.retryCount }

/-- `ProvisionStatus::from_json`. -/
def ProvisionStatus.fromJson (d : StatusDoc) : ProvisionStatus :=
  { vin := d.vin, ecuUid := d.ecuUid, state := .ofText d.state, lastError := d.lastError
    retryCount := d.retryCount }

/-- **The stored status reads back.** -/
@[simp]
theorem ProvisionStatus.fromJson_toJson (s : ProvisionStatus) : fromJson s.toJson = s := by
  simp [fromJson, toJson]

/-- What the store holds under the key `provision_state`. -/
inductive Stored where
  | absent
  /-- A text that is not the JSON of a status. -/
  | garbled
  | doc (d : StatusDoc)
  deriving DecidableEq

/-! ### The service object -/

/-- `SeedState`. -/
structure SeedState where
  seed : Bytes := []
  securityLevel : UInt8 := 0
  generated : Bool := false
  consumed : Bool := false
  generatedAt : ℕ := 0
  deriving DecidableEq

/-- The fields of `SecService`. Times are readings of the steady clock in nanoseconds. -/
structure SecService where
  initialized : Bool := false
  shuttingDown : Bool := false
  /-- `diag_service_` is set. -/
  diagService : Bool := false
  /-- `prov_service_` is set. -/
  provService : Bool := false
  /-- `sec.seed_key.shared_secret`. -/
  sharedSecret : String := ""
  vin : String := ""
  ecuUid : String := ""
  csrDer : Bytes := []
  currentSeed : SeedState := {}
  failedAttempts : ℕ := 0
  lockoutUntil : ℕ := 0
  inLockout : Bool := false
  deriving DecidableEq

/-! ### The environment of one call -/

/-- The answers to one read of the status: whether the store is ready, the load succeeds, and
the lookup of the key succeeds. -/
structure ReadAnswer where
  ready : Bool := true
  loads : Bool := true
  looksUp : Bool := true
  deriving DecidableEq

/-- The answers to one save of the status. -/
structure SaveAnswer where
  ready : Bool := true
  saves : Bool := true
  deriving DecidableEq

/-- The status can be read. -/
def ReadAnswer.finds (a : ReadAnswer) : Bool := a.ready && a.loads

/-- The status is stored. -/
def SaveAnswer.stores (a : SaveAnswer) : Bool := a.ready && a.saves

/-- How `prov_service_->get_vehicle_info` ends. -/
inductive VehicleAnswer where
  | returns (result : ErrorCode) (vin ecuUid : String)
  | throws
  deriving DecidableEq

/-- How a synchronous DIAG request ends: the transport result and the code in the response. -/
structure DiagAnswer where
  connected : Bool := true
  result : ErrorCode := .success
  response : ErrorCode := .success
  deriving DecidableEq

/-- The readings of the steady clock during one call: at the lockout check, at the seed check,
and when a seed is stored or a failure counted. -/
structure Readings where
  first : ℕ
  second : ℕ
  third : ℕ
  first_le : first ≤ second
  second_le : second ≤ third
  deriving DecidableEq

/-- The clock stands still during the call. -/
def Readings.at (t : ℕ) : Readings := ⟨t, t, t, le_refl t, le_refl t⟩

/-- The length of a seed, `SEED_KEY_SIZE`. -/
def seedKeySize : ℕ := 16

/-- Random bytes of the length of a seed. -/
abbrev Seed := {b : Bytes // b.length = seedKeySize}

/-- What the environment answers during one call. -/
structure Oracle where
  read : ℕ → ReadAnswer := fun _ => {}
  save : ℕ → SaveAnswer := fun _ => {}
  vehicle : ℕ → VehicleAnswer := fun _ => .throws
  diag : ℕ → DiagAnswer := fun _ => {}
  clock : Readings := .at 0
  /-- `RAND_bytes`; `none` when it fails. -/
  random : Option Seed := none
  /-- The cipher context can be set up and used. -/
  evp : Bool := true
  /-- The key engine finds the device key. -/
  deviceKeyExists : Bool := true
  /-- `generate_device_key`. -/
  generateDeviceKey : ErrorCode := .success
  /-- `build_csr` with the request it leaves in the buffer. -/
  buildCsr : ErrorCode × Bytes := (.success, [])
  /-- `validate_and_store_certificate`, which works on the certificate store. -/
  validateAndStore : Bytes → ErrorCode := fun _ => .success
  /-- `store_->remove`: the store is ready, and the removal does not throw. -/
  remove : SaveAnswer := {}

/-- How many answers of each kind the call has taken so far. -/
structure Asked where
  reads : ℕ := 0
  saves : ℕ := 0
  vehicles : ℕ := 0
  diags : ℕ := 0
  deriving DecidableEq

/-- The service and its stored status. -/
structure World where
  persisted : Stored := .absent
  svc : SecService := {}
  asked : Asked := {}
  deriving DecidableEq

namespace World

variable (ω : Oracle) (w : World)

/-- A new call starts: no answer has been taken yet. -/
def fresh : World := { w with asked := {} }

/-! ### The stored status -/

/-- `load_provision_status_from_store`: anything but a readable status is the default one. -/
def loadProvisionStatus (a : ReadAnswer) : ProvisionStatus :=
  match a.finds, w.persisted with
  | true, .doc d => .fromJson d
  | _, _ => {}

/-- The status that `get_provision_status` returns with the answers `a`. -/
def statusRead (a : ReadAnswer) : ProvisionStatus :=
  if a.ready then
    let status := w.loadProvisionStatus a
    if status.state ≠ .none ∨ status.vin ≠ "" then status
    else if a.looksUp ∧ w.persisted ≠ .absent then status
    else {}
  else {}

/-- `get_provision_status`. -/
def getProvisionStatus : ProvisionStatus × World :=
  (w.statusRead (ω.read w.asked.reads), { w with asked.reads := w.asked.reads + 1 })

/-- `save_provision_status_to_store`; a save that fails leaves the stored text as it was. -/
def saveProvisionStatus (status : ProvisionStatus) : World :=
  let a := ω.save w.asked.saves
  { w with
    persisted := if a.stores then .doc status.toJson else w.persisted
    asked.saves := w.asked.saves + 1 }

/-- `update_provision_state`. -/
def updateProvisionState (state : ProvisionState) (error : String := "") : World :=
  let (status, w) := w.getProvisionStatus ω
  let retryCount := if state = .failed then status.retryCount + 1 else status.retryCount
  w.saveProvisionStatus ω { status with state, lastError := error, retryCount }

/-- `handle_error`. -/
def handleError (error : ErrorCode) (context : String) : World :=
  w.updateProvisionState ω .failed (context ++ ": " ++ error.toText)

/-- The provision state in the store; a missing or unreadable status counts as `NONE`. -/
def persistedState : ProvisionState :=
  match w.persisted with
  | .doc d => .ofText d.state
  | _ => .none

/-! ### What the accesses do -/

variable {w}

/-- A read that finds the status sees the stored state. -/
theorem state_statusRead_of_finds {a : ReadAnswer} (h : a.finds = true)
    (hstate : w.persistedState ≠ .none) : (w.statusRead a).state = w.persistedState := by
  have hready : a.ready = true := by
    rw [ReadAnswer.finds, Bool.and_eq_true] at h
    exact h.1
  have hload : (w.loadProvisionStatus a).state = w.persistedState := by
    unfold loadProvisionStatus persistedState
    rw [h]
    cases w.persisted <;> rfl
  unfold statusRead
  rw [if_pos hready]
  dsimp only
  rw [if_pos (.inl (hload ▸ hstate)), hload]

/-- A read that does not find the status sees `NONE`. -/
theorem state_statusRead_of_not_finds {a : ReadAnswer} (h : a.finds = false) :
    (w.statusRead a).state = .none := by
  have hload : w.loadProvisionStatus a = {} := by
    unfold loadProvisionStatus
    rw [h]
  unfold statusRead
  rw [hload]
  split_ifs <;> rfl

/-- An update that reaches the store changes the stored state, any other leaves it alone. -/
theorem persistedState_updateProvisionState (state : ProvisionState) (error : String) :
    (w.updateProvisionState ω state error).persistedState =
      if (ω.save w.asked.saves).stores then state else w.persistedState := by
  unfold updateProvisionState saveProvisionStatus persistedState
  dsimp only [getProvisionStatus]
  by_cases h : (ω.save w.asked.saves).stores = true
  · rw [if_pos h, if_pos h]
    exact ProvisionState.ofText_toText state
  · rw [if_neg h, if_neg h]

@[simp]
theorem getProvisionStatus_fst :
    (w.getProvisionStatus ω).1 = w.statusRead (ω.read w.asked.reads) := rfl

@[simp]
theorem svc_getProvisionStatus : (w.getProvisionStatus ω).2.svc = w.svc := rfl

@[simp]
theorem persisted_getProvisionStatus : (w.getProvisionStatus ω).2.persisted = w.persisted := rfl

@[simp]
theorem svc_saveProvisionStatus (status : ProvisionStatus) :
    (w.saveProvisionStatus ω status).svc = w.svc := rfl

@[simp]
theorem svc_updateProvisionState (state : ProvisionState) (error : String) :
    (w.updateProvisionState ω state error).svc = w.svc := rfl

@[simp]
theorem svc_handleError (error : ErrorCode) (context : String) :
    (w.handleError ω error context).svc = w.svc := rfl

end World

end TboxSec.Sec
