import TboxSec.Journal.Policies
import TboxSec.Keyprov.System
import TboxSec.Lib.Simulation

/-!
# The daemon as a journalled store

How a world of the daemon stands for a state of the journalled batch protocol. The records of
the protocol are the daemon's journal records, a batch maps each purpose to the public data of
its key, and the ledger is where a settled batch is posted.

The protocol's state says more than the daemon stores: the domain under which an active key
was sealed is known to the protocol alone. So the two are tied by a **relation**, over a ghost
key-encryption key `K` and the set `M` of the requests that may be made:

* `StateSim` relates the provider's fields to a document: the records are authentic, the slots
  can be opened and hold the keys of one request, the commit marker is right.
* `DiskSim` relates what is durable to the documents written.
* `Live` relates an initialised daemon, `Sim` any daemon.
-/

namespace TboxSec.Keyprov

open Canonical Crash Journal

/-! ### The scheme -/

/-- The public data of a key, with the domain it was imported for. -/
structure KeyInfo where
  domain : String
  version : ℕ
  keyIdDigest : String
  algorithm : String
  validFromMs : ℤ
  validToMs : ℤ
  deriving DecidableEq

/-- The key of one item of a journal record. -/
def infoOf (it : BusinessKeyStatus) : KeyInfo :=
  { domain := it.businessDomain
    version := it.businessKeyVersion
    keyIdDigest := it.keyIdDigest
    algorithm := it.algorithm
    validFromMs := it.validFromMs
    validToMs := it.validToMs }

/-- The batch of a list of items. -/
def batchOf (items : List BusinessKeyStatus) (p : String) : Option KeyInfo :=
  (items.find? (·.purpose == p)).map infoOf

/-- Whether a phase is settled. -/
def phaseStatus : BusinessKeyImportPhase → Status
  | .succeeded => .succeeded
  | .failed => .failed
  | _ => .pending

theorem phaseStatus_pending {p : BusinessKeyImportPhase} :
    phaseStatus p = .pending ↔ p.terminal = false := by
  cases p <;> simp [phaseStatus, BusinessKeyImportPhase.terminal]

theorem phaseStatus_succeeded {p : BusinessKeyImportPhase} :
    phaseStatus p = .succeeded ↔ p = .succeeded := by
  cases p <;> simp [phaseStatus]

theorem phaseStatus_failed {p : BusinessKeyImportPhase} :
    phaseStatus p = .failed ↔ p = .failed := by
  cases p <;> simp [phaseStatus]

variable (D : Deployment)

/-- What the proof of one item attests: the HSM signed the digest of the item's proof input,
and the check value in it is that of a key the HSM unwrapped for this request and item. -/
structure ItemAttested (requestId : String) (certDigest : Bytes) (it : BusinessKeyStatus) :
    Prop where
  length : it.importProof.length = importProofSizeP1363
  algorithm : it.proofAlgorithm = importProofAlgorithmP1363
  certificate : it.recipientCertificateDigest = certDigest
  signed : ∃ purpose deviceKey seed, purposeEnumValue it.purpose = some purpose ∧
    D.platform.sign deviceKey
      (D.platform.crypto.sha256 (buildProofInput D.platform.crypto
        { requestId, businessDomain := it.businessDomain, purpose, keyId := it.keyId
          businessKeyVersion := it.businessKeyVersion, envelopeDigest := it.envelopeDigest
          keyCheckValue := it.keyCheckValue.toBytes })) seed = (.success, it.importProof)
  checked : ∃ req seed plain, D.platform.unwrap req seed = (.success, plain) ∧
    req.hkdfInfo = textBytes (buildHkdfInfoV1 requestId it.businessDomain it.purpose it.keyId
      it.businessKeyVersion (toHex certDigest)) ∧
    it.keyCheckValue = computeKcv D.platform.crypto plain

/-- A journal record of `requestId` with the proof of every item, the proof algorithm and the
digest of the certificate it is bound to. -/
structure EntryAttested (requestId : String) (e : BusinessKeyJournalEntry) : Prop where
  items_ne : e.items ≠ []
  certificate_ne : e.bindingCertificateDigest ≠ []
  algorithm : e.proofAlgorithm = importProofAlgorithmP1363
  items : ∀ it ∈ e.items, ItemAttested D requestId e.bindingCertificateDigest it

/-- The daemon's journal as a scheme. Recovery looks the slots up in the domain `V2C_COMM`, so
a key of another domain is not found again. -/
def scheme : Scheme BusinessKeyJournalEntry String KeyInfo where
  status e := phaseStatus e.phase
  gen e := e.generation
  batch e := batchOf e.items
  ver i := i.version
  top := 2 ^ 63
  keys p := p ∈ D.service.requiredPurposes
  steady i := i.domain = businessDomainV2c
  kin e e' := e'.requestDigest = e.requestDigest

/-- A document of the daemon. -/
abbrev KDoc := Doc String BusinessKeyJournalEntry String KeyInfo

/-- A state of the protocol for the daemon. -/
abbrev KSys := Sys String BusinessKeyJournalEntry String KeyInfo

/-- A policy of the daemon. -/
abbrev KPolicy := Policy String BusinessKeyJournalEntry String KeyInfo

/-! ### Where the key of a slot comes from -/

/-- The HSM gave `plain` for the item: it unwrapped the wrapped key of the item, and what it
gave has the length and the check value of the item. -/
structure Unwrapped (P : Platform) (item : WrappedKeyItem) (params : EnvelopeParameters)
    (canonicalAad hkdfInfo : Bytes) (binding : BusinessKeyDeviceBinding) (plain : Bytes) :
    Prop where
  hsm : ∃ seed, P.unwrap (unwrapRequest item params canonicalAad hkdfInfo binding) seed =
    (.success, plain)
  length : plain.length = algorithmKeySize item.algorithm
  check : item.keyCheckValuePresent = true → computeKcv P.crypto plain = item.keyCheckValue

/-- `plain` is the key of the item `it` of the request `q`: unwrapped with the parameters that
the envelope of the item parses to, and with the additional data and the HKDF info of the
request and the item. -/
def KeyOf (q : ImportRequest) (it : WrappedKeyItem) (plain : Bytes) : Prop :=
  ∃ params binding, parseEcdhEsP256Parameters D.platform.envelope it.parameters = .ok params ∧
    Unwrapped D.platform it params (rebuildEnvelopeAad q.requestId q.domain it params)
      (textBytes (buildHkdfInfoV1 q.requestId q.domain it.purpose it.keyId it.businessKeyVersion
        (toHex binding.activeCertDigest))) binding plain

/-- The slot holds the key of the item `it` of the request `q`. Its public data are those of the
item, and its ciphertext was sealed, under the key-encryption key `K`, from the key that was
unwrapped for the item. -/
structure SlotOf (K : Bytes) (q : ImportRequest) (it : WrappedKeyItem) (slot : Slot) :
    Prop where
  version : slot.version = it.businessKeyVersion
  keyIdDigest : slot.keyIdDigest = textDigest D.platform.crypto it.keyId
  algorithm : slot.algorithm = it.algorithm
  validFromMs : slot.validFromMs = it.validFromMs
  validToMs : slot.validToMs = it.validToMs
  sealed : ∃ plain iv, KeyOf D q it plain ∧
    slot.keyEncHex = toHex (D.platform.crypto.gcmSeal K
      (textBytes (slotAad q.domain it.purpose slot)) iv plain)

/-- Every slot in use holds the key of an item of the one request `q`. -/
def FromRequest (K : Bytes) (q : ImportRequest) (active : OrdMap String Slot) : Prop :=
  ∀ p slot, active.find? p = some slot → ∃ it ∈ q.items, it.purpose = p ∧ SlotOf D K q it slot

/-! ### The relation -/

variable (M : Set ImportRequest)

/-- The MAC key under the key-encryption key `K`. -/
abbrev macKeyOf (K : Bytes) : Bytes := deriveMacKey D.platform K

/-- A slot holds the key `i`, sealed under `K` in the key's domain. -/
structure SlotSim (K : Bytes) (gen : ℕ) (p : String) (slot : Slot) (i : KeyInfo) : Prop where
  present : slot.present = true
  version : slot.version = i.version
  keyIdDigest : slot.keyIdDigest = i.keyIdDigest
  algorithm : slot.algorithm = i.algorithm
  validFromMs : slot.validFromMs = i.validFromMs
  validToMs : slot.validToMs = i.validToMs
  gen : slot.generation = gen
  opens : ∃ plain, decryptSlotKey D.platform K i.domain p slot = .ok plain

/-- A stored record carries the right MAC, is filed under its own request, lists each purpose
once and is in a phase the service writes. -/
structure Authentic (K : Bytes) (r : String) (js : JournalStored) : Prop where
  mac : js.macHex = journalMac D.platform (macKeyOf D K) js.entry
  rid : js.entry.requestIdDigest = r
  items : (js.entry.items.map (·.purpose)).Nodup
  phase : js.entry.phase ≠ .rollingBack

/-- Some record is pending under the next generation. -/
def HasOpen (m : KDoc) : Prop :=
  ∃ r e, m.entry r = some e ∧ phaseStatus e.phase = .pending ∧ e.generation = m.gen + 1

/-- The provider's fields stand for a document. -/
structure StateSim (K : Bytes) (st : State) (m : KDoc) : Prop where
  gen : st.generation = m.gen
  entry : ∀ r, (st.journal.find? r).map (·.entry) = m.entry r
  stored : ∀ r js, st.journal.find? r = some js → Authentic D K r js
  slot : ∀ p i, m.active p = some i →
    ∃ slot, st.active.find? p = some slot ∧ SlotSim D K m.gen p slot i
  noSlot : ∀ p, m.active p = none → st.active.find? p = none
  unmarked : m.gen = 0 → st.commitMarker = ""
  marked : 0 < m.gen →
    st.commitMarker = computeCommitMarker D.platform (macKeyOf D K) st.generation st.active
  both : 0 < m.gen → ∀ p, p ∈ D.service.requiredPurposes ↔ p ∈ providerPurposes
  staging : ∀ p slot, st.staging.find? p = some slot → p ∈ D.service.requiredPurposes
  opened : ∀ p slot, st.staging.find? p = some slot →
    st.stagingGeneration = m.gen + 1 ∧ HasOpen m
  source : 0 < m.gen → ∃ q ∈ M, FromRequest D K q st.active

/-- The ledger holds the batch `b`, as far as the required purposes go. -/
structure LedgerHolds (l : Ledger) (b : String → Option KeyInfo) : Prop where
  none : ∀ p ∈ D.service.requiredPurposes, b p = none → ledgerGet l businessDomainV2c p = none
  some : ∀ p ∈ D.service.requiredPurposes, ∀ i, b p = some i →
    ∃ m, ledgerGet l businessDomainV2c p = some m ∧ m.businessKeyVersion = i.version ∧
      m.keyIdDigest = i.keyIdDigest ∧ m.algorithm = i.algorithm

/-- A commit that found `old` and left `new`: the generation has grown, and so has the version
under both purposes. -/
structure Grown (old new : State) : Prop where
  generation : old.generation < new.generation
  slots : ∀ p ∈ providerPurposes, ∃ slot, new.active.find? p = some slot ∧
    ∀ slot₀, old.active.find? p = some slot₀ → slot₀.version < slot.version

/-- The disk stands for the documents written and the batch posted. -/
structure DiskSim (K : Bytes) (d : Disk) (s : KSys) : Prop where
  docs : List.Forall₂ (fun doc m => doc.v = supportedStateVersion ∧ StateSim D M K doc.state m)
    d.state s.log
  key : K.length = kekSize
  kek : ∀ file, d.kek = some file → file <+: K
  unkeyed : d.kek = none → d.state = []
  ledger : ∀ b, s.posted = some b → LedgerHolds D (d.ledger.headD .empty) b
  commits : ∀ c ∈ d.commits, Grown c.1 c.2 ∧ ∃ doc ∈ d.state, doc.state = c.2

/-- An initialised daemon stands for a state of the protocol. -/
structure Live (K : Bytes) (w : World) (s : KSys) : Prop where
  disk : DiskSim D M K w.disk s
  mem : StateSim D M K w.prov.state s.mem
  keyed : w.disk.kek ≠ none
  ready : w.prov.ready = true
  loaded : s.loaded = true
  kek : w.prov.kek = K
  macKey : w.prov.macKey = macKeyOf D K
  version : w.prov.stateVersionUnknown = false
  ledger : ∀ b, s.posted = some b → LedgerHolds D w.ledger b

/-- A daemon between two calls stands for a state of the protocol. -/
structure SimAt (K : Bytes) (w : World) (s : KSys) : Prop where
  inv : Inv (scheme D) s
  disk : DiskSim D M K w.disk s
  mem : StateSim D M K w.prov.state s.mem
  unkeyed : w.disk.kek = none → s.loaded = false
  live : w.svc.providerReady = true → Live D M K w s
  ledger : ∀ b, s.posted = some b → w.disk.ledger = [] → LedgerHolds D w.ledger b
  importReady : w.svc.importReady = true → w.svc.providerReady = true
  busy : s.busy = none

/-- A daemon between two calls stands for a state of the protocol, under some key. -/
def Sim (w : World) (s : KSys) : Prop := ∃ K, SimAt D M K w s

/-- The initialised daemon over the protocol with policy `π`. -/
def simulation (π : KPolicy) (K : Bytes) : Simulation World Disk KSys where
  step := Step (scheme D) π
  rel := Live D M K
  crashRel := DiskSim D M K

/-! ### First facts -/

variable {D} {M} {K : Bytes} {w : World} {s : KSys} {st : State} {m : KDoc}

/-- A record of the document is stored, and authentic. -/
theorem StateSim.find_of_entry (h : StateSim D M K st m) {r : String} {e : BusinessKeyJournalEntry}
    (he : m.entry r = some e) :
    ∃ js, st.journal.find? r = some js ∧ js.entry = e ∧ Authentic D K r js := by
  have hr := h.entry r
  rw [he] at hr
  obtain ⟨js, hjs, hje⟩ := Option.map_eq_some_iff.mp hr
  exact ⟨js, hjs, hje, h.stored r js hjs⟩

/-- A stored record is a record of the document. -/
theorem StateSim.entry_of_find (h : StateSim D M K st m) {r : String} {js : JournalStored}
    (hjs : st.journal.find? r = some js) : m.entry r = some js.entry := by
  rw [← h.entry r, hjs]
  rfl

/-- A slot in use holds a key of the active batch. -/
theorem StateSim.slot_of_find (h : StateSim D M K st m) {p : String} {slot : Slot}
    (hslot : st.active.find? p = some slot) :
    ∃ i, m.active p = some i ∧ SlotSim D K m.gen p slot i := by
  cases hi : m.active p with
  | none =>
    rw [h.noSlot p hi] at hslot
    cases hslot
  | some i =>
    obtain ⟨slot', hslot', hsim⟩ := h.slot p i hi
    rw [hslot] at hslot'
    exact ⟨i, rfl, Option.some.inj hslot' ▸ hsim⟩

theorem stateSim_blank : StateSim D M K {} .blank where
  gen := rfl
  entry _ := rfl
  stored r js h := by cases h
  slot p i h := by cases h
  noSlot _ _ := rfl
  unmarked _ := rfl
  marked h := absurd h (lt_irrefl 0)
  both h := absurd h (lt_irrefl 0)
  staging p slot h := by cases h
  opened p slot h := by cases h
  source h := absurd h (lt_irrefl 0)

/-- Fields that stand for the blank document do so under every key. -/
theorem StateSim.rekey (h : StateSim D M K st .blank) (K' : Bytes) : StateSim D M K' st .blank where
  gen := h.gen
  entry := h.entry
  stored r js hjs := by
    have hr := h.entry r
    rw [hjs] at hr
    cases hr
  slot p i hi := by cases hi
  noSlot := h.noSlot
  unmarked := h.unmarked
  marked hpos := absurd hpos (lt_irrefl 0)
  both := h.both
  staging := h.staging
  opened := h.opened
  source hpos := absurd hpos (lt_irrefl 0)

/-- The counters of the environment take no part. -/
theorem Live.asked (h : Live D M K w s) (k : Asked) : Live D M K { w with asked := k } s :=
  ⟨h.disk, h.mem, h.keyed, h.ready, h.loaded, h.kek, h.macKey, h.version, h.ledger⟩

/-- Nor does the service's own state. -/
theorem Live.svc (h : Live D M K w s) (v : Service) : Live D M K { w with svc := v } s :=
  ⟨h.disk, h.mem, h.keyed, h.ready, h.loaded, h.kek, h.macKey, h.version, h.ledger⟩

/-- Only the documents and the posting count. -/
theorem DiskSim.congr {d : Disk} {s' : KSys} (h : DiskSim D M K d s) (hlog : s'.log = s.log)
    (hposted : s'.posted = s.posted) : DiskSim D M K d s' :=
  ⟨hlog ▸ h.docs, h.key, h.kek, h.unkeyed, hposted ▸ h.ledger, h.commits⟩

/-- A change of the provider's fields is a change of the document in memory. -/
theorem Live.setState (h : Live D M K w s) {s' : KSys} (hmem : StateSim D M K st s'.mem)
    (hlog : s'.log = s.log) (hposted : s'.posted = s.posted) (hloaded : s'.loaded = s.loaded) :
    Live D M K (w.setState st) s' where
  disk := h.disk.congr hlog hposted
  mem := hmem
  keyed := h.keyed
  ready := h.ready
  loaded := hloaded.trans h.loaded
  kek := h.kek
  macKey := h.macKey
  version := h.version
  ledger b hb := h.ledger b (hposted ▸ hb)

/-- A save writes the document in memory. -/
theorem Live.saved (h : Live D M K w s) : Live D M K w.saved s.flush where
  disk :=
    { docs := .cons ⟨rfl, h.mem⟩ h.disk.docs
      key := h.disk.key
      kek := h.disk.kek
      unkeyed := fun hk => absurd hk h.keyed
      ledger := h.disk.ledger
      commits := by
        intro c hc
        obtain ⟨hgrown, doc, hdoc, hstate⟩ := h.disk.commits c hc
        exact ⟨hgrown, doc, List.mem_cons_of_mem _ hdoc, hstate⟩ }
  mem := h.mem
  keyed := h.keyed
  ready := h.ready
  loaded := h.loaded
  kek := h.kek
  macKey := h.macKey
  version := h.version
  ledger := h.ledger

end TboxSec.Keyprov
