import TboxSec.Keyprov.Envelope
import TboxSec.Lib.Crash
import TboxSec.Lib.OrdMap

/-!
# The world of the provisioning daemon

What the provisioning service reads and writes, split by what outlives the process:

* `Disk` is durable: the provider's state document, the ledger document and the key-encryption
  key file. A store save is all-or-nothing, so each document is kept with its **write
  history**, newest first; the head is what a load returns.
* `Provider`, `Ledger` and `Service` are the fields of the three objects in memory, gone with
  the process.
* `Oracle` is what the environment answers during one call of the service: the result of each
  save, each clock sample, each device binding, each random choice. `Asked` counts the answers
  already taken, so that the order of the questions is the code's.

A `SecM` program runs on a `World` and may be cut short at any write, leaving the disk alone.
-/

namespace TboxSec.Keyprov

open Canonical

/-! ### The provider's stored state -/

/-- `Impl::Slot`. -/
structure Slot where
  present : Bool := false
  version : ℕ := 0
  keyIdDigest : String := ""
  algorithm : String := ""
  validFromMs : ℤ := 0
  validToMs : ℤ := 0
  generation : ℕ := 0
  keyEncHex : String := ""
  deriving DecidableEq

/-- `Impl::JournalStored`. -/
structure JournalStored where
  entry : BusinessKeyJournalEntry
  macHex : String
  deriving DecidableEq

/-- The fields of the provider that its state document holds. -/
structure State where
  generation : ℕ := 0
  commitMarker : String := ""
  active : OrdMap String Slot := .empty
  staging : OrdMap String Slot := .empty
  stagingGeneration : ℕ := 0
  journal : OrdMap String JournalStored := .empty
  deriving DecidableEq

/-- The state document: its format version and its fields. -/
structure StateDoc where
  v : ℕ
  state : State
  deriving DecidableEq

/-- `SecureMetadataLedger::Impl::entries`, also the ledger document. -/
abbrev Ledger := OrdMap String BusinessKeyMetadata

/-- What survives the process. -/
structure Disk where
  /-- Every state document saved so far, newest first. -/
  state : List StateDoc := []
  /-- Every ledger document saved so far, newest first. -/
  ledger : List Ledger := []
  /-- The key-encryption key file. -/
  kek : Option Bytes := none
  /-- Ghost: the fields before and after every commit that took effect, newest first. No code
  reads it. -/
  commits : List (State × State) := []
  deriving DecidableEq

/-! ### The objects in memory -/

/-- The fields of `SoftFileBusinessKeyProvider::Impl`. -/
structure Provider where
  /-- The HSM pointer is set. -/
  hsm : Bool := false
  /-- The opened store, with its readiness. -/
  store : Option Bool := none
  kek : Bytes := []
  macKey : Bytes := []
  stateVersion : ℕ := 1
  stateVersionUnknown : Bool := false
  state : State := {}
  ready : Bool := false
  deriving DecidableEq

/-- `V2cKeyProvisioningCapability`, less its constant contract version. -/
structure V2cKeyProvisioningCapability where
  envelopeV1ImportReady : Bool := false
  atomicDualPurposeCommitReady : Bool := false
  importProofSignEcdsaP256V1Ready : Bool := false
  secureJournalReplayReady : Bool := false
  identityKeyTemplateSignDerive : Bool := false
  csrKeyUsageRequestMatched : Bool := false
  certificateProfileMatched : Bool := false
  certificateChainAndKeyMatch : Bool := false
  certificateCriticalExtensionsAllowed : Bool := false
  leafCertificateDigestBound : Bool := false
  protoReleaseMatched : Bool := false
  envelopeFormatV1 : Bool := false
  p256Ecdh : Bool := false
  hkdfSha256 : Bool := false
  aes256GcmDecryptToSlot : Bool := false
  atomicDualSlotCommit : Bool := false
  activeCertificateKeyAgreement : Bool := false
  activeCertificateDigitalSignature : Bool := false
  activePrivateKeyCanDerive : Bool := false
  activePrivateKeyCanSign : Bool := false
  ecdsaP256Sha256P1363 : Bool := false
  secureJournalReady : Bool := false
  trustedTimeReady : Bool := false
  businessKeyImportResultNotFoundV1 : Bool := false
  deriving DecidableEq

/-- `V2cKeyProvisioningCapability::all`; the result-query flag takes no part in it. -/
def V2cKeyProvisioningCapability.all (c : V2cKeyProvisioningCapability) : Bool :=
  c.envelopeV1ImportReady && c.atomicDualPurposeCommitReady &&
    c.importProofSignEcdsaP256V1Ready && c.secureJournalReplayReady &&
    c.identityKeyTemplateSignDerive && c.csrKeyUsageRequestMatched &&
    c.certificateProfileMatched && c.certificateChainAndKeyMatch &&
    c.certificateCriticalExtensionsAllowed && c.leafCertificateDigestBound &&
    c.protoReleaseMatched && c.envelopeFormatV1 && c.p256Ecdh && c.hkdfSha256 &&
    c.aes256GcmDecryptToSlot && c.atomicDualSlotCommit &&
    c.activeCertificateKeyAgreement && c.activeCertificateDigitalSignature &&
    c.activePrivateKeyCanDerive && c.activePrivateKeyCanSign &&
    c.ecdsaP256Sha256P1363 && c.secureJournalReady && c.trustedTimeReady

/-- The fields of `BusinessKeyProvisioningService::Impl`, of its `KeyprovEpochSource` and the
shutdown flag. -/
structure Service where
  providerReady : Bool := false
  importReady : Bool := false
  cap : V2cKeyProvisioningCapability := {}
  bootNonce : ℕ := 0
  epochGeneration : ℕ := 1
  governance : Bool := false
  storageReady : Bool := false
  governanceRequired : Bool := false
  shuttingDown : Bool := false
  deriving DecidableEq

/-! ### The environment of one call -/

/-- How the store answers one save. A crash comes before the save takes effect: a crash just
after it is a crash at the next write. -/
inductive WriteAnswer where
  | ok | failed | notReady | crash
  deriving DecidableEq

/-- A key of 32 bytes. -/
abbrev Key256 := {b : Bytes // b.length = 32}

/-- What the environment answers while the key-encryption key is loaded or generated. -/
structure KekAnswer where
  /-- `RAND_bytes`; `none` when it fails. -/
  random : Option Key256
  /-- The file opens. -/
  opens : Bool
  /-- How many of the 32 bytes reach the file. -/
  written : ℕ
  /-- The process dies once these bytes are written. -/
  crash : Bool

/-- Everything the environment answers during one call. -/
structure Oracle where
  save : ℕ → WriteAnswer
  put : ℕ → WriteAnswer
  now : ℕ → TrustedTimeSample
  binding : ℕ → BusinessKeyDeviceBinding
  /-- What decides the HSM's answer to an unwrap, besides its arguments. -/
  unwrapSeed : ℕ → Bytes
  /-- What decides the HSM's answer to a signature, besides its arguments. -/
  signSeed : ℕ → Bytes
  /-- The random IV of a slot encryption; `none` when `RAND_bytes` or the cipher fails. -/
  iv : ℕ → Option Bytes
  /-- `Store::open`: `none` when it throws, else whether the store is ready. -/
  storeOpen : Option Bool
  /-- The stored state document can be read and parsed. -/
  stateLoads : Bool
  ledgerReady : Bool
  /-- The stored ledger document can be read and parsed. -/
  ledgerLoads : Bool
  kek : KekAnswer

/-- How many answers of each kind the call has taken so far. -/
structure Asked where
  saves : ℕ := 0
  puts : ℕ := 0
  nows : ℕ := 0
  bindings : ℕ := 0
  unwraps : ℕ := 0
  signs : ℕ := 0
  ivs : ℕ := 0
  deriving DecidableEq

/-- The daemon and its disk. -/
structure World where
  disk : Disk := {}
  prov : Provider := {}
  ledger : Ledger := .empty
  svc : Service := {}
  asked : Asked := {}
  deriving DecidableEq

/-- Programs of the daemon: they run on the world, and a crash leaves the disk. -/
abbrev SecM := Crash.Prog World Disk

/-! ### The platform -/

/-- JSON values; an object lists its assignments in source order. -/
inductive Json where
  | str (s : String)
  | num (n : ℤ)
  | bool (b : Bool)
  | arr (l : List Json)
  | obj (fields : List (String × Json))

/-- The arguments of `unwrap_ecdh_es_v1`. -/
structure UnwrapRequest where
  deviceKeyId : String
  ephemeralPublicKey : Bytes
  salt : Bytes
  hkdfInfo : Bytes
  nonce : Bytes
  ciphertext : Bytes
  tag : Bytes
  aad : Bytes

/-- The code outside the repository that the daemon calls: OpenSSL, protobuf, the JSON
writer and the HSM. The last argument of an HSM call is the environment's choice. -/
structure Platform where
  crypto : Crypto
  envelope : EnvelopeLib
  /-- `json::dump`. -/
  dump : Json → Bytes
  /-- `unwrap_ecdh_es_v1`. -/
  unwrap : UnwrapRequest → Bytes → ErrorCode × Bytes
  /-- `sign_digest_p1363`, with the device key and the digest. -/
  sign : String → Bytes → Bytes → ErrorCode × Bytes

/-! ### Taking an answer -/

namespace World

/-- One more save has been answered. -/
def askedSave (w : World) : World := { w with asked.saves := w.asked.saves + 1 }

/-- One more ledger put has been answered. -/
def askedPut (w : World) : World := { w with asked.puts := w.asked.puts + 1 }

/-- The save took effect: the provider's fields are the newest state document. -/
def saved (w : World) : World :=
  { w.askedSave with disk.state := ⟨1, w.prov.state⟩ :: w.disk.state }

/-- The provider's stored fields are replaced. -/
def setState (w : World) (st : State) : World := { w with prov.state := st }

end World

variable (ω : Oracle)

/-- `TrustedTimeProvider::now`. -/
def trustedTimeNow : SecM TrustedTimeSample := fun w =>
  .done (ω.now w.asked.nows) { w with asked.nows := w.asked.nows + 1 }

/-- `probe_binding`, and the provider's own call of the binding callback. -/
def probeBinding : SecM BusinessKeyDeviceBinding := fun w =>
  .done (ω.binding w.asked.bindings) { w with asked.bindings := w.asked.bindings + 1 }

end TboxSec.Keyprov
