import TboxSec.Keyprov.RecoverySpec

/-!
# Initialisation over the protocol

`initialize` opens the store, loads or makes the key-encryption key, reads the last state
document, checks the commit marker, loads the ledger and recovers. Any of these can fail, and
a process can be initialised again after that, so the relation of a daemon that is **not** up
(`Idle`) is kept apart from that of a live one.

* `Idle.simAt`, `Live.simAt`: a daemon that is down, and one that is up, as states of the protocol.
* `wp_openProvider`, `wp_providerInitialize` and `wp_serviceInitialize` follow the start from the
  store up to the service, and say at each stage which of the two relations holds when it stops.
* `commitMarker_ok`: the marker check passes on every document that the provider has written.
-/

namespace TboxSec.Keyprov

open Canonical Crash Journal Crash.Simulation

variable {D : Deployment} {M : Set ImportRequest} {π : KPolicy} {K : Bytes} {ω : Oracle}
  {w : World} {s : KSys}

/-! ### Daemons that are not up -/

/-- A daemon that is not up stands for a state of the protocol. -/
structure Idle (D : Deployment) (M : Set ImportRequest) (K : Bytes) (w : World)
    (s : KSys) : Prop where
  inv : Inv (scheme D) s
  disk : DiskSim D M K w.disk s
  mem : StateSim D M K w.prov.state s.mem
  unkeyed : w.disk.kek = none → s.loaded = false
  ledger : ∀ b, s.posted = some b → w.disk.ledger = [] → LedgerHolds D w.ledger b
  busy : s.busy = none

theorem SimAt.idle (h : SimAt D M K w s) : Idle D M K w s :=
  ⟨h.inv, h.disk, h.mem, h.unkeyed, h.ledger, h.busy⟩

theorem Idle.simAt (h : Idle D M K w s) (hp : w.svc.providerReady = false)
    (hi : w.svc.importReady = false) : SimAt D M K w s where
  inv := h.inv
  disk := h.disk
  mem := h.mem
  unkeyed := h.unkeyed
  live hp' := by rw [hp] at hp'; cases hp'
  ledger := h.ledger
  importReady hi' := by rw [hi] at hi'; cases hi'
  busy := h.busy

/-- A live daemon between two calls. -/
theorem Live.simAt (h : Live D M K w s) (hinv : Inv (scheme D) s) (hb : s.busy = none)
    (hi : w.svc.importReady = true → w.svc.providerReady = true) : SimAt D M K w s where
  inv := hinv
  disk := h.disk
  mem := h.mem
  unkeyed hk := absurd hk h.keyed
  live _ := h
  ledger b hposted _ := h.ledger b hposted
  importReady := hi
  busy := hb

/-- A process that has just died, or has just been constructed. -/
theorem DiskSim.idle {d : Disk} (h : DiskSim D M K d s) (hinv : Inv (scheme D) s)
    (hw : w.disk = d) (hstate : w.prov.state = {}) (hledger : w.ledger = .empty) :
    Idle D M K w { s with mem := .blank, loaded := false, busy := none } where
  inv := inv_step (π := .any) .crash hinv
  disk := by rw [hw]; exact h.congr rfl rfl
  mem := by rw [hstate]; exact stateSim_blank
  unkeyed _ := rfl
  ledger b hb hnil := by
    have hholds := h.ledger b hb
    rw [← hw, hnil] at hholds
    rw [hledger]
    exact hholds
  busy := rfl

/-- Before the first key there is nothing, and any key will do. -/
theorem Idle.rekey (h : Idle D M K w s) (hk : w.disk.kek = none) (K' : Bytes)
    (hlen : K'.length = kekSize) : Idle D M K' w s := by
  have hstate := h.disk.unkeyed hk
  have hblank := (h.inv.unloaded (h.unkeyed hk)).1
  have hlog : s.log = [] := by
    have hdocs := h.disk.docs
    rw [hstate] at hdocs
    exact List.forall₂_nil_left_iff.mp hdocs
  refine ⟨h.inv, ⟨?_, hlen, ?_, h.disk.unkeyed, h.disk.ledger, h.disk.commits⟩, ?_, h.unkeyed,
    h.ledger, h.busy⟩
  · rw [hstate, hlog]
    exact .nil
  · intro file hfile
    rw [hk] at hfile
    cases hfile
  · rw [hblank]
    have hmem := h.mem
    rw [hblank] at hmem
    exact hmem.rekey K'

/-! ### The key-encryption key -/

/-- The fields an `initialize` starts from: the last document saved, or what is in memory. -/
def loadedState (w : World) : State := (w.disk.state.map (·.state)).headD w.prov.state

/-- The stored fields, the ledger and the disk are as they were. -/
structure SameStores (w w' : World) : Prop where
  state : w'.prov.state = w.prov.state
  disk : w'.disk = w.disk
  ledger : w'.ledger = w.ledger
  svc : w'.svc = w.svc

theorem SameStores.refl (w : World) : SameStores w w := ⟨rfl, rfl, rfl, rfl⟩

theorem SameStores.trans {w₁ w₂ w₃ : World} (h : SameStores w₁ w₂) (h' : SameStores w₂ w₃) :
    SameStores w₁ w₃ :=
  ⟨h'.state.trans h.state, h'.disk.trans h.disk, h'.ledger.trans h.ledger, h'.svc.trans h.svc⟩

/-- The documents are as they were; only the key file may be new. -/
structure SameDocs (w w' : World) : Prop where
  docs : w'.disk.state = w.disk.state
  ledgers : w'.disk.ledger = w.disk.ledger
  ledger : w'.ledger = w.ledger
  disk : w.disk.kek ≠ none → w'.disk = w.disk
  svc : w'.svc = w.svc

/-- The key is there, in memory and on disk, and nothing but the provider's key changed. -/
structure KeyReady (D : Deployment) (M : Set ImportRequest) (K : Bytes) (w w' : World)
    (s : KSys) : Prop where
  idle : Idle D M K w' s
  keyed : w'.disk.kek ≠ none
  kek : w'.prov.kek = K
  store : w'.prov.store = w.prov.store
  same : SameDocs w w'
  state : w'.prov.state = w.prov.state

/-- **Loading or making the key.** -/
theorem wp_loadOrGenerateKek (h : Idle D M K w s) {Q : ErrorCode → World → Prop} {C : Disk → Prop}
    (hfail : ∀ K' w' rc, rc ≠ .success → Idle D M K' w' s → SameStores w w' → Q rc w')
    (hok : ∀ K' w', KeyReady D M K' w w' s → Q .success w')
    (hcrash : w.disk.kek = none → ∀ K' d, DiskSim D M K' d s → C d) :
    Prog.wp (loadOrGenerateKek ω w.disk.kek) Q C w := by
  -- the fields of the provider that the relation does not look at
  have hkekOnly : ∀ kek, Idle D M K { w with prov.kek := kek } s := fun kek =>
    ⟨h.inv, h.disk, h.mem, h.unkeyed, h.ledger, h.busy⟩
  cases hk : w.disk.kek with
  | some file =>
    unfold Prog.wp loadOrGenerateKek loadKek
    simp only
    split
    · exact hfail K w _ (by decide) h (.refl w)
    split
    · exact hfail K _ _ (by decide) (hkekOnly []) ⟨rfl, rfl, rfl, rfl⟩
    · rename_i hlen
      -- a key file of full length is the whole key, since the file is a prefix of it
      have hprefix := h.disk.kek file hk
      have hfile : file = K := by
        refine hprefix.eq_of_length_le ?_
        rw [h.disk.key]
        omega
      have htake : file.take kekSize = K := by
        rw [hfile, ← h.disk.key, List.take_length]
      refine hok K _ ⟨hkekOnly _, ?_, htake, rfl, ⟨rfl, rfl, rfl, fun _ => rfl, rfl⟩, rfl⟩
      change w.disk.kek ≠ none
      rw [hk]
      simp
  | none =>
    unfold Prog.wp loadOrGenerateKek generateKek
    simp only
    split
    · exact hfail K _ _ (by decide) (hkekOnly _) ⟨rfl, rfl, rfl, rfl⟩
    rename_i kek _
    split
    · exact hfail K _ _ (by decide) (hkekOnly _) ⟨rfl, rfl, rfl, rfl⟩
    -- without a key file there is no document, so any new key will do
    have hre := h.rekey hk kek.val kek.property
    have hdisk : DiskSim D M kek.val
        { w.disk with kek := some (kek.val.take ω.kek.written) } s := by
      refine ⟨hre.disk.docs, hre.disk.key, fun file hfile => ?_, fun hnone => (by cases hnone),
        hre.disk.ledger, hre.disk.commits⟩
      rw [← Option.some.inj hfile]
      exact List.take_prefix ..
    split
    · exact hcrash hk kek.val _ hdisk
    · refine hok kek.val _ ⟨⟨h.inv, hdisk, hre.mem, fun hnone => (by cases hnone), h.ledger,
        h.busy⟩, by simp, rfl, rfl, ⟨rfl, rfl, rfl, fun hne => absurd hk hne, rfl⟩, rfl⟩

/-! ### The provider -/

/-- The store reads its document back. -/
def reloaded (s : KSys) : KSys := { s with mem := s.log.headD s.mem, loaded := true }

/-- An opened provider; whether it is ready depends on the HSM alone. -/
structure Opened (D : Deployment) (M : Set ImportRequest) (K : Bytes) (w : World)
    (s : KSys) : Prop where
  idle : Idle D M K w s
  keyed : w.disk.kek ≠ none
  ready : w.prov.ready = w.prov.hsm
  loaded : s.loaded = true
  kek : w.prov.kek = K
  macKey : w.prov.macKey = macKeyOf D K
  version : w.prov.stateVersionUnknown = false

/-- An opened provider with an HSM, once the ledger is loaded. -/
theorem Opened.live (h : Opened D M K w s) (hhsm : w.prov.ready = true)
    (hledger : ∀ b, s.posted = some b → LedgerHolds D w.ledger b) : Live D M K w s where
  disk := h.idle.disk
  mem := h.idle.mem
  keyed := h.keyed
  ready := hhsm
  loaded := h.loaded
  kek := h.kek
  macKey := h.macKey
  version := h.version
  ledger := hledger

/-- The commit marker of fields that stand for a document is right. -/
private theorem commitMarker_ok {st : State} {m : KDoc} (h : StateSim D M K st m)
    (hm : DocInv (scheme D) m) :
    (!st.active.isEmpty &&
      st.commitMarker != computeCommitMarker D.platform (macKeyOf D K) st.generation st.active) =
      false := by
  rcases Nat.eq_zero_or_pos m.gen with h0 | hpos
  · have hempty : st.active.isEmpty = true := by
      rw [OrdMap.isEmpty_iff_find?]
      intro p
      refine h.noSlot p ?_
      rw [hm.blank h0]
    rw [hempty]
    rfl
  · rw [h.marked hpos]
    simp

/-- **Opening the provider with its key.** -/
theorem wp_openProvider {w₀ : World} (h : KeyReady D M K w₀ w s) (hstore : w.prov.store = some true)
    {Q : ErrorCode → World → Prop} {C : Disk → Prop}
    (hfail : ∀ w' rc, rc ≠ .success → Idle D M K w' s → SameStores w w' → Q rc w')
    (hok : ∀ w', Opened D M K w' (reloaded s) → SameDocs w w' →
      w'.prov.state = loadedState w → w'.prov.store = some true → Q .success w') :
    Prog.wp (do
      Prog.modify fun w => { w with prov.macKey := deriveMacKey D.platform w.prov.kek }
      let rc ← loadState ω
      if rc ≠ .success then pure rc
      else
        checkCommitMarker D.platform
        pure .success) Q C w := by
  have hi := h.idle
  have hload : Inv (scheme D) (reloaded s) :=
    inv_step (π := .any) (.load hi.busy) hi.inv
  have hledger : ∀ b, (reloaded s).posted = some b → w.disk.ledger = [] →
      LedgerHolds D w.ledger b := hi.ledger
  refine Prog.wp_bind.mpr ?_
  rw [Prog.wp_modify]
  refine Prog.wp_bind.mpr ?_
  unfold Prog.wp loadState
  simp only [hstore, ne_eq, not_true_eq_false, if_false]
  cases hdocs : w.disk.state with
  | nil =>
    -- nothing was ever saved, so what is in memory is read back
    have hlog : s.log = [] := by
      have hall := hi.disk.docs
      rw [hdocs] at hall
      exact List.forall₂_nil_left_iff.mp hall
    have hmem : (reloaded s).mem = s.mem := by
      change s.log.headD s.mem = s.mem
      rw [hlog]
      rfl
    have hmark := commitMarker_ok hi.mem hi.inv.mem
    simp only [Outcome.meets_done]
    refine Prog.wp_bind.mpr ?_
    unfold Prog.wp checkCommitMarker
    simp only [h.kek, hmark, Bool.false_eq_true, if_false]
    refine hok _ ⟨⟨hload, hi.disk.congr rfl rfl, ?_, fun hnone => absurd hnone h.keyed, hledger,
      hi.busy⟩, h.keyed, rfl, rfl, rfl, rfl, rfl⟩ ⟨rfl, rfl, rfl, fun _ => rfl, rfl⟩ ?_ rfl
    · rw [hmem]
      exact hi.mem
    · unfold loadedState
      rw [hdocs]
      rfl
  | cons doc docs =>
    have hall := hi.disk.docs
    rw [hdocs] at hall
    obtain ⟨m, log, ⟨hv, hsim⟩, -, hlog⟩ := List.forall₂_cons_left_iff.mp hall
    simp only
    split
    · rename_i hloads
      exact hfail _ _ (by decide) ⟨hi.inv, hi.disk, hi.mem, hi.unkeyed, hi.ledger, hi.busy⟩
        ⟨rfl, rfl, rfl, rfl⟩
    · -- the newest document is read back
      have hmem : (reloaded s).mem = m := by
        change s.log.headD s.mem = m
        rw [hlog]
        rfl
      have hm : DocInv (scheme D) m := hmem ▸ hload.mem
      have hmark := commitMarker_ok hsim hm
      simp only [Outcome.meets_done]
      refine Prog.wp_bind.mpr ?_
      unfold Prog.wp checkCommitMarker
      simp only [h.kek, hmark, Bool.false_eq_true, if_false]
      refine hok _ ⟨⟨hload, hi.disk.congr rfl rfl, ?_, fun hnone => absurd hnone h.keyed, hledger,
        hi.busy⟩, h.keyed, rfl, rfl, rfl, rfl, ?_⟩ ⟨rfl, rfl, rfl, fun _ => rfl, rfl⟩ ?_ rfl
      · rw [hmem]
        exact hsim
      · simp [hv]
      · unfold loadedState
        rw [hdocs]
        rfl

/-- **`SoftFileBusinessKeyProvider::initialize`.** -/
theorem wp_providerInitialize (h : Idle D M K w s) {Q : ErrorCode → World → Prop}
    {C : Disk → Prop}
    (hfail : ∀ K' w' rc, rc ≠ .success → Idle D M K' w' s → SameDocs w w' →
      w'.prov.state = w.prov.state → Q rc w')
    (hok : ∀ K' w', Opened D M K' w' (reloaded s) → SameDocs w w' →
      w'.prov.state = loadedState w → w'.prov.store = some true → Q .success w')
    (hcrash : w.disk.kek = none → ∀ K' d, DiskSim D M K' d s → C d) :
    Prog.wp (providerInitialize D.platform ω) Q C w := by
  unfold providerInitialize
  split
  · exact hfail K w _ (by decide) h ⟨rfl, rfl, rfl, fun _ => rfl, rfl⟩ rfl
  rename_i ready _
  have hstored : Idle D M K { w with prov.store := some ready } s :=
    ⟨h.inv, h.disk, h.mem, h.unkeyed, h.ledger, h.busy⟩
  refine Prog.wp_bind.mpr ?_
  rw [Prog.wp_modify]
  cases ready with
  | false => exact hfail K _ _ (by decide) hstored ⟨rfl, rfl, rfl, fun _ => rfl, rfl⟩ rfl
  | true =>
    refine Prog.wp_bind.mpr (Prog.wp_gets.mpr ?_)
    refine Prog.wp_bind.mpr (wp_loadOrGenerateKek hstored ?_ ?_ hcrash)
    · intro K' w' rc hrc hidle hsame
      rw [if_pos hrc]
      exact hfail K' w' rc hrc hidle ⟨by rw [hsame.disk], by rw [hsame.disk], hsame.ledger,
        fun _ => hsame.disk, hsame.svc⟩ hsame.state
    · intro K' w' hkey
      rw [if_neg (by simp)]
      have hkeyed : w'.disk.kek ≠ none := hkey.keyed
      refine wp_openProvider hkey hkey.store ?_ ?_
      · intro w'' rc hrc hidle hsame
        refine hfail K' w'' rc hrc hidle ⟨?_, ?_, hsame.ledger.trans hkey.same.ledger,
          fun hne => hsame.disk.trans (hkey.same.disk hne), hsame.svc.trans hkey.same.svc⟩
          (hsame.state.trans hkey.state)
        · rw [hsame.disk]
          exact hkey.same.docs
        · rw [hsame.disk]
          exact hkey.same.ledgers
      · intro w'' hopen hsame hstate hstore
        refine hok K' w'' hopen ⟨hsame.docs.trans hkey.same.docs,
          hsame.ledgers.trans hkey.same.ledgers, hsame.ledger.trans hkey.same.ledger,
          fun hne => (hsame.disk hkeyed).trans (hkey.same.disk hne),
          hsame.svc.trans hkey.same.svc⟩ (hstate.trans ?_) hstore
        unfold loadedState
        rw [hkey.same.docs, hkey.state]

/-! ### The service -/

/-- A refused initialisation leaves the daemon down. -/
private theorem wp_notReady (h : Idle D M K w s) (rc : ErrorCode) {Q : ErrorCode → World → Prop}
    {C : Disk → Prop}
    (hQ : ∀ w', SimAt D M K w' s → w'.svc.providerReady = false → Q rc w') :
    Prog.wp (notReady rc) Q C w := by
  unfold notReady
  refine Prog.wp_bind.mpr (Prog.wp_modify.mpr (Prog.wp_pure.mpr (hQ _ ?_ rfl)))
  exact Idle.simAt ⟨h.inv, h.disk, h.mem, h.unkeyed, h.ledger, h.busy⟩ rfl rfl

/-- The ledger as a load leaves it holds the batch last posted. -/
theorem wp_ledgerLoad (h : Opened D M K w s) {Q : ErrorCode → World → Prop} {C : Disk → Prop}
    (hfail : ∀ rc, rc ≠ .success → Q rc w)
    (hok : ∀ w', w' = { w with ledger := w.disk.ledger.headD w.ledger } → Opened D M K w' s →
      (∀ b, s.posted = some b → LedgerHolds D w'.ledger b) → Q .success w') :
    Prog.wp (ledgerLoad ω) Q C w := by
  have hi := h.idle
  unfold Prog.wp ledgerLoad
  split
  · exact hfail _ (by decide)
  cases hdocs : w.disk.ledger with
  | nil =>
    have hheld : ∀ b, s.posted = some b → LedgerHolds D w.ledger b := fun b hb =>
      hi.ledger b hb hdocs
    rw [hdocs] at hok
    exact hok w rfl h hheld
  | cons doc docs =>
    simp only
    split
    · exact hfail _ (by decide)
    · rw [hdocs] at hok
      refine hok _ rfl ⟨⟨hi.inv, hi.disk, hi.mem, hi.unkeyed, fun b _ hnil => ?_, hi.busy⟩, h.keyed,
        h.ready, h.loaded, h.kek, h.macKey, h.version⟩ fun b hb => ?_
      · rw [show w.disk.ledger = [] from hnil] at hdocs
        cases hdocs
      · have hholds := hi.disk.ledger b hb
        rw [hdocs] at hholds
        exact hholds

/-- The end of `initialize` changes the service's own state alone. -/
theorem wp_finishInitialize {Q : ErrorCode → World → Prop} {C : Disk → Prop}
    (hQ : ∀ svc k, svc.providerReady = w.prov.ready →
      (svc.importReady = true → svc.providerReady = true) →
      Q .success { w with svc := svc, asked := k }) :
    Prog.wp (finishInitialize ω) Q C w := by
  refine hQ _ _ rfl fun hi => ?_
  simp only [Bool.and_eq_true] at hi
  exact hi.1.1

/-- When the daemon comes up, no record is pending. -/
def CleanStart (w : World) (s : KSys) : Prop :=
  w.svc.providerReady = true → ∀ r e, s.mem.entry r = some e → phaseStatus e.phase ≠ .pending

/-- **`initialize`**: the last document is read back, and pending records are settled. -/
theorem wp_serviceInitialize (h : Idle D M K w s)
    (hrecover : ∀ r e, (reloaded s).mem.entry r = some e → phaseStatus e.phase = .pending →
      e.generation = (reloaded s).mem.gen → 0 < (reloaded s).mem.gen → π.recover r e)
    (hsmudge : ¬ (∀ n, ω.put n = .ok) → π.smudge) :
    Prog.wp (serviceInitialize D ω)
      (fun _ w' => ∃ K' s', Steps (scheme D) π s s' ∧ SimAt D M K' w' s' ∧ CleanStart w' s')
      (fun d => ∃ K' s', Steps (scheme D) π s s' ∧ Inv (scheme D) s' ∧ DiskSim D M K' d s') w := by
  have hload : Steps (scheme D) π s (reloaded s) := .single (.load h.busy)
  have hdown : ∀ {K' : Bytes} {w' : World} {s' : KSys} (rc : ErrorCode),
      Steps (scheme D) π s s' → Idle D M K' w' s' →
      Prog.wp (notReady rc)
        (fun _ w' => ∃ K' s', Steps (scheme D) π s s' ∧ SimAt D M K' w' s' ∧ CleanStart w' s')
        (fun d => ∃ K' s', Steps (scheme D) π s s' ∧ Inv (scheme D) s' ∧ DiskSim D M K' d s')
        w' := by
    intro K' w' s' rc hpath hidle
    refine wp_notReady hidle rc fun w'' hsim hp => ⟨K', s', hpath, hsim, fun hp' => ?_⟩
    rw [hp] at hp'
    cases hp'
  unfold serviceInitialize
  split
  · exact hdown _ .refl h
  refine Prog.wp_bind.mpr (wp_providerInitialize h ?_ ?_ ?_)
  · intro K' w' rc hrc hidle _ _
    rw [if_pos hrc]
    exact hdown _ .refl hidle
  · intro K' w₁ hopen _ _ _
    rw [if_neg (by simp)]
    refine Prog.wp_bind.mpr (wp_ledgerLoad hopen ?_ ?_)
    · intro rc hrc
      rw [if_pos hrc]
      exact hdown _ hload hopen.idle
    · intro w₂ _ hopen₂ hledger
      rw [if_neg (by simp)]
      cases hready : w₂.prov.ready with
      | false =>
        -- without an HSM the provider is not ready, and recovery changes nothing
        refine Prog.wp_bind.mpr ((reads_recoverOnStartup_of_not_ready hready).wp fun _ k _ => ?_)
        refine wp_finishInitialize fun svc k' hp hi => ⟨K', reloaded s, hload, ?_, fun hp' => ?_⟩
        · have hidle := hopen₂.idle
          have hp' : svc.providerReady = false := hp.trans hready
          refine Idle.simAt ⟨hidle.inv, hidle.disk, hidle.mem, hidle.unkeyed, hidle.ledger,
            hidle.busy⟩ hp' ?_
          cases hib : svc.importReady with
          | false => rfl
          | true => rw [hi hib] at hp'; cases hp'
        · rw [show svc.providerReady = true from hp'] at hp
          rw [show w₂.prov.ready = true from hp.symm] at hready
          cases hready
      | true =>
        have hlive := hopen₂.live hready hledger
        refine Prog.wp_bind.mpr (Prog.wp_mono
          (recoverOnStartup_triple hlive hopen₂.idle.inv hopen₂.idle.busy hrecover hsmudge) ?_ ?_)
        · -- the last document is loaded, and recovery has settled every pending record
          rintro - w₃ ⟨s', hpath, hlive', -, hbusy, hclean⟩
          have hinv := inv_steps hpath hopen₂.idle.inv
          refine wp_finishInitialize fun svc k' hp hi => ⟨K', s', hload.trans hpath, ?_, ?_⟩
          · exact ((hlive'.svc svc).asked k').simAt hinv hbusy hi
          · exact fun _ => hclean
        · rintro d ⟨s', hpath, hdisk⟩
          exact ⟨K', s', hload.trans hpath, inv_steps hpath hopen₂.idle.inv, hdisk⟩
  · intro _ K' d hdisk
    exact ⟨K', s, .refl, h.inv, hdisk⟩

end TboxSec.Keyprov
