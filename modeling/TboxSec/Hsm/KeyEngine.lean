import TboxSec.Hsm.SoftFile
import TboxSec.Lib.Machine

/-!
# The key engine and its runs

`KeyEngine` over the SoftFile HSM: the device key of a vehicle is generated once, looked up,
used and deleted by its identity. `system` is the machine whose labels are a call of the
engine, or a restart of the process, with everything the environment answers during it.

A process that dies at a change of the store leaves a fresh memory behind. `log` is ghost: the
key pairs of all generations that succeeded.

* `makeKeyId` makes the id of the key from the identity of the vehicle.
* `generateDeviceKey` gives back the key that exists, if there is one, and otherwise generates it.
* `Sys` is the machine's state: the disk, the memory of the process, and the log.
* `stepCall` is one call, and `Sys.settle` what is left when it ends or the process dies in it.
-/

namespace TboxSec.Hsm

open Canonical Crash

/-- `KEY_ALGORITHM_ECDSA_P256`. -/
def keyAlgorithmEcdsaP256 : String := "ecdsa-p256"

/-- `make_key_id`. -/
def makeKeyId (hsmUid keyId : String) : String := hsmUid ++ "+" ++ keyId

section Engine

variable (L : Library) (ω : Oracle)

/-- `KeyEngine::initialize`. -/
def engineInitialize : HsmM ErrorCode := do
  let rc ← hsmInitialize ω
  if rc = .success then
    Prog.modify fun w => { w with mem.initialized := true }
    pure rc
  else pure rc

/-- The public key of an existing key, as `generate_device_key` and `get_device_key` return
it. -/
def existingPair (keyId : String) (createdAt : ℤ) : HsmM (ErrorCode × KeyPair) := do
  let (rc, publicKey) ← exportPublicKey L ω keyId
  pure (rc,
    { keyId, algorithm := keyAlgorithmEcdsaP256, publicKey, privateKeyExists := true, createdAt })

/-- `generate_device_key`. -/
def generateDeviceKey (vin ecuUid : String) : HsmM (ErrorCode × KeyPair) := do
  let w ← Prog.gets id
  if !w.mem.initialized then pure (.notInitialized, {})
  else
    let keyId := makeKeyId vin ecuUid
    if keyExists ω w keyId then existingPair L ω keyId 0
    else generateKeyPair L ω keyId keyAlgorithmEcdsaP256

/-- `get_device_key`. -/
def getDeviceKey (vin ecuUid : String) : HsmM (ErrorCode × KeyPair) := do
  let w ← Prog.gets id
  if !w.mem.initialized then pure (.notInitialized, {})
  else
    let keyId := makeKeyId vin ecuUid
    if !keyExists ω w keyId then pure (.keyNotFound, {})
    else existingPair L ω keyId ω.now

/-- `device_key_exists`. -/
def deviceKeyExists (vin ecuUid : String) : HsmM Bool := do
  let w ← Prog.gets id
  pure (w.mem.initialized && keyExists ω w (makeKeyId vin ecuUid))

/-- `KeyEngine::sign`. -/
def engineSign (vin ecuUid : String) (data : Bytes) : HsmM (ErrorCode × Bytes) := do
  let w ← Prog.gets id
  if !w.mem.initialized then pure (.notInitialized, [])
  else
    let keyId := makeKeyId vin ecuUid
    if !keyExists ω w keyId then pure (.keyNotFound, [])
    else sign L ω keyId data

/-- `delete_device_key`. -/
def deleteDeviceKey (vin ecuUid : String) : HsmM ErrorCode := do
  let w ← Prog.gets id
  if !w.mem.initialized then pure .notInitialized
  else deleteKey ω (makeKeyId vin ecuUid)

end Engine

/-! ### The machine -/

/-- The calls of the engine, and a restart of the process. -/
inductive Call where
  | start
  | generate (vin ecuUid : String)
  | get (vin ecuUid : String)
  | exists (vin ecuUid : String)
  | sign (vin ecuUid : String) (data : Bytes)
  | delete (vin ecuUid : String)
  | restart
  deriving DecidableEq

/-- A call with what the environment answers during it. -/
structure Label where
  call : Call
  oracle : Oracle

/-- The state between calls. -/
structure Sys where
  disk : Disk
  mem : Memory
  /-- Ghost: the key pairs of the successful generations, newest first. No code reads it. -/
  log : List (String × KeyData)

/-- What a call returns; `died` when the process is cut short in it. -/
inductive Reply where
  | died
  | restarted
  | code (rc : ErrorCode)
  | pair (rc : ErrorCode) (kp : KeyPair)
  | answer (b : Bool)
  | signature (rc : ErrorCode) (bytes : Bytes)
  deriving DecidableEq

/-- A new device: nothing stored, no process initialized. -/
def Sys.new : Sys := ⟨⟨fun _ => none, none⟩, Memory.fresh, []⟩

/-- The machine at the beginning of a call. -/
def Sys.world (s : Sys) : World := ⟨s.disk, s.mem, 0⟩

/-- The state and the reply after a program. -/
def Sys.settle {α : Type} (s : Sys) (o : Outcome World Disk α) (reply : α → Reply) : Sys × Reply :=
  match o with
  | .done a w => (⟨w.disk, w.mem, s.log⟩, reply a)
  | .crashed d => (⟨d, Memory.fresh, s.log⟩, .died)

/-- The key pair a call of `generate_device_key` makes, when it makes one and succeeds. -/
def generatedBy (L : Library) (ω : Oracle) (s : Sys) (keyId : String) (r : Reply) :
    List (String × KeyData) :=
  match ω.scalar, r with
  | some scalar, .pair .success _ =>
    if s.mem.initialized && !keyExists ω s.world keyId then
      [(keyId, generatedKey L.curve keyAlgorithmEcdsaP256 ω.now scalar)]
    else []
  | _, _ => []

/-- One call. -/
def stepCall (L : Library) (ω : Oracle) (s : Sys) : Call → Sys × Reply
  | .start => s.settle (engineInitialize ω s.world) .code
  | .generate vin ecuUid =>
    let r := s.settle (generateDeviceKey L ω vin ecuUid s.world) fun r => .pair r.1 r.2
    ({ r.1 with log := generatedBy L ω s (makeKeyId vin ecuUid) r.2 ++ r.1.log }, r.2)
  | .get vin ecuUid =>
    s.settle (getDeviceKey L ω vin ecuUid s.world) fun r => .pair r.1 r.2
  | .exists vin ecuUid => s.settle (deviceKeyExists ω vin ecuUid s.world) .answer
  | .sign vin ecuUid data =>
    s.settle (engineSign L ω vin ecuUid data s.world) fun r => .signature r.1 r.2
  | .delete vin ecuUid => s.settle (deleteDeviceKey ω vin ecuUid s.world) .code
  | .restart => ({ s with mem := Memory.fresh }, .restarted)

/-- The engine over the SoftFile HSM. -/
def system (L : Library) : Machine Sys Label Reply where
  step s l := stepCall L l.oracle s l.call

end TboxSec.Hsm
