import TboxSec.Keyprov.KekFile
import TboxSec.Keyprov.System
import TboxSec.Keyprov.ProviderSpec
import TboxSec.Keyprov.WrapUnwrap

/-!
# Runs of the provider

The provider by itself, called in any order: the methods that change it, a new process, and a
store that becomes ready or stops being ready. Its queries change nothing.

As long as every new key-encryption key reaches its file, an initialized provider holds the key
of the file, every slot of every state document opens under it and holds a key the HSM unwrapped,
and no crash keeps a later process from the key (`ProviderKekHolds`).

* `SealedSlot`, `SealedState`: the key of a slot was sealed under the key-encryption key, and is a
  key that the HSM has unwrapped.
* `World.Keyed` and `Disk.Keyed` are the invariant, in a process and between two.
* `wp_…_kept`: an operation that writes slots or records keeps it; `wp_…_keyed`: so does one that
  loads or makes the key-encryption key.
-/

namespace TboxSec.Keyprov

open Canonical Crash

/-! ### The machine -/

/-- The calls that change the provider. -/
inductive ProviderCall where
  | boot (hsm : Bool)
  | init
  | unwrapToStaging (domain : String) (item : WrappedKeyItem) (params : EnvelopeParameters)
      (canonicalAad hkdfInfo : Bytes) (binding : BusinessKeyDeviceBinding) (generation : ℕ)
  | commitBatch (generation : ℕ)
  | rollbackStaging (generation : ℕ)
  | saveJournal (entry : BusinessKeyJournalEntry)
  | storeReady (ready : Bool)

/-- A call and what the environment answers during it. -/
structure ProviderLabel where
  call : ProviderCall
  oracle : Oracle

/-- The provider between calls. -/
structure ProviderSys where
  world : World
  /-- Ghost: `initialize` has returned `SUCCESS` in this process. No code reads it. -/
  initialized : Bool

/-- The state after a call that is not `initialize`. -/
def ProviderSys.settle {α : Type} (s : ProviderSys) (code : α → ErrorCode) :
    Outcome World Disk α → ProviderSys × Reply
  | .done a w => (⟨w, s.initialized⟩, .code (code a))
  | .crashed d => (⟨deadWorld d, false⟩, .crashed)

/-- One call. -/
def providerStep (P : Platform) (pc : ProviderConfig) (s : ProviderSys) (l : ProviderLabel) :
    ProviderSys × Reply :=
  let ω := l.oracle
  let w : World := { s.world with asked := {} }
  match l.call with
  | .boot hsm => (⟨bootWorld w.disk hsm 0, false⟩, .none)
  | .init =>
    match providerInitialize P ω w with
    | .done rc w' => (⟨w', s.initialized || rc == .success⟩, .code rc)
    | .crashed d => (⟨deadWorld d, false⟩, .crashed)
  | .unwrapToStaging domain item params canonicalAad hkdfInfo binding generation =>
    s.settle (·.1)
      (unwrapToStaging P pc ω domain item params canonicalAad hkdfInfo binding generation w)
  | .commitBatch generation => s.settle id (commitBatch P ω generation w)
  | .rollbackStaging generation => s.settle id (rollbackStaging ω generation w)
  | .saveJournal entry => s.settle id (saveJournal P ω entry w)
  | .storeReady ready =>
    (⟨{ w with prov.store := w.prov.store.map fun _ => ready }, s.initialized⟩, .none)

/-- The provider. -/
def provider (P : Platform) (pc : ProviderConfig) : Machine ProviderSys ProviderLabel Reply where
  step := providerStep P pc

/-- An empty disk and no process. -/
def ProviderSys.new : ProviderSys := ⟨{}, false⟩

variable {P : Platform} {pc : ProviderConfig} {ω : Oracle} {w : World} {s : ProviderSys}
  {H : String → String → Bytes → Prop} {st : State}

/-- A call of `initialize`. -/
theorem provider_step_init : (provider P pc).step s ⟨.init, ω⟩ =
    match providerInitialize P ω { s.world with asked := {} } with
    | .done rc w' => (⟨w', s.initialized || rc == .success⟩, .code rc)
    | .crashed d => (⟨deadWorld d, false⟩, .crashed) :=
  rfl

/-! ### Sealed slots -/

/-- The slot's key is sealed under `K`. `H` is what the slots of a domain and a purpose hold. -/
def SealedSlot (P : Platform) (H : String → String → Bytes → Prop) (K : Bytes) (p : String)
    (slot : Slot) : Prop :=
  ∃ domain, ∃ plain iv : Bytes, iv.length = 12 ∧ H domain p plain ∧
    slot.keyEncHex =
      toHex (P.crypto.gcmSeal K (textBytes (slotAad domain p slot)) iv plain)

/-- Every slot is sealed under the key of the file. -/
def SealedState (P : Platform) (H : String → String → Bytes → Prop) (file : Option Bytes)
    (st : State) : Prop :=
  ∀ p slot, st.active.find? p = some slot ∨ st.staging.find? p = some slot →
    ∃ K, file = some K ∧ SealedSlot P H K p slot

/-- The file holds a key, under which every slot of every document is sealed. -/
structure Disk.Keyed (P : Platform) (H : String → String → Bytes → Prop) (d : Disk) : Prop where
  file : KekFileOk d.kek
  docs : ∀ doc ∈ d.state, SealedState P H d.kek doc.state

/-- A ready provider holds the key of the file, and its slots are sealed under it. -/
structure World.Keyed (P : Platform) (H : String → String → Bytes → Prop) (w : World) :
    Prop where
  disk : w.disk.Keyed P H
  key : w.prov.ready = true → w.disk.kek = some w.prov.kek
  mem : SealedState P H w.disk.kek w.prov.state

/-- What a call that is not `initialize` leaves. -/
structure KeptKek (P : Platform) (H : String → String → Bytes → Prop) (w w' : World) : Prop where
  keyed : w'.Keyed P H
  kek : w'.prov.kek = w.prov.kek
  file : w'.disk.kek = w.disk.kek

/-- The counters take no part. -/
theorem World.Keyed.asked (h : w.Keyed P H) (k : Asked) :
    World.Keyed P H { w with asked := k } :=
  ⟨h.disk, h.key, h.mem⟩

theorem World.Keyed.kept (h : w.Keyed P H) (k : Asked) : KeptKek P H w { w with asked := k } :=
  ⟨h.asked k, rfl, rfl⟩

theorem World.Keyed.setState (h : w.Keyed P H) (hst : SealedState P H w.disk.kek st) :
    World.Keyed P H (w.setState st) :=
  ⟨h.disk, h.key, hst⟩

private theorem SealedState.of_slots {file : Option Bytes} (h : SealedState P H file st)
    {st' : State}
    (hactive : ∀ p slot, st'.active.find? p = some slot → st.active.find? p = some slot)
    (hstaging : ∀ p slot, st'.staging.find? p = some slot → st.staging.find? p = some slot) :
    SealedState P H file st' := fun p slot hslot =>
  h p slot (hslot.imp (hactive p slot) (hstaging p slot))

/-! ### Saving and rolling back -/

private theorem wp_saveState_kept (h : w.Keyed P H) :
    Prog.wp (saveState ω) (fun _ w' => KeptKek P H w w' ∧ w'.prov = w.prov) (Disk.Keyed P H)
      w := by
  refine wp_saveState h.disk ?_ fun rc k _ => ⟨h.kept k, rfl⟩
  refine ⟨⟨⟨⟨h.disk.file, fun doc hdoc => ?_⟩, h.key, h.mem⟩, rfl, rfl⟩, rfl⟩
  rcases List.mem_cons.mp hdoc with rfl | hdoc
  · exact h.mem
  · exact h.disk.docs doc hdoc

/-- A change of the stored fields, and its save. -/
private theorem wp_setState_save (h : w.Keyed P H) (hst : SealedState P H w.disk.kek st) :
    Prog.wp (saveState ω) (fun _ w' => KeptKek P H w w') (Disk.Keyed P H) (w.setState st) :=
  Prog.wp_mono (wp_saveState_kept (h.setState hst))
    (fun _ _ hw => ⟨hw.1.keyed, hw.1.kek, hw.1.file⟩) fun _ => id

theorem wp_rollbackStaging_kept (h : w.Keyed P H) (generation : ℕ) :
    Prog.wp (rollbackStaging ω generation) (fun _ w' => KeptKek P H w w') (Disk.Keyed P H) w := by
  refine Prog.wp_bind.mpr (Prog.wp_gets.mpr ?_)
  split
  · exact h.kept w.asked
  · split
    · exact h.kept w.asked
    · refine Prog.wp_bind.mpr (Prog.wp_modify.mpr (wp_setState_save h ?_))
      exact h.mem.of_slots (fun _ _ => id) fun _ _ hslot => nomatch hslot

theorem wp_saveJournal_kept (h : w.Keyed P H) (e : BusinessKeyJournalEntry) :
    Prog.wp (saveJournal P ω e) (fun _ w' => KeptKek P H w w') (Disk.Keyed P H) w := by
  refine Prog.wp_bind.mpr (Prog.wp_gets.mpr ?_)
  split
  · exact h.kept w.asked
  · exact Prog.wp_bind.mpr (Prog.wp_modify.mpr
      (wp_setState_save h (h.mem.of_slots (fun _ _ => id) fun _ _ => id)))

/-! ### Staging -/

section Staging

variable {domain : String} {item : WrappedKeyItem} {params : EnvelopeParameters}
  {aad info : Bytes} {binding : BusinessKeyDeviceBinding}

/-- **Staging** seals what the HSM answered. -/
theorem wp_unwrapToStaging_kept (h : w.Keyed P H) {generation : ℕ}
    (hiv : ∀ n b, ω.iv n = some b → b.length = 12)
    (hH : ∀ plain, P.unwrap (unwrapRequest item params aad info binding)
      (ω.unwrapSeed w.asked.unwraps) = (.success, plain) → H domain item.purpose plain) :
    Prog.wp (unwrapToStaging P pc ω domain item params aad info binding generation)
      (fun _ w' => KeptKek P H w w') (Disk.Keyed P H) w := by
  unfold unwrapToStaging
  refine Prog.wp_bind.mpr (Prog.wp_gets.mpr ?_)
  cases hchecks : firstReject (unwrapChecks pc w.prov item binding) with
  | some rc => exact h.kept w.asked
  | none =>
    have hready : w.prov.ready = true := by
      have hfirst := firstReject_eq_none_iff.mp hchecks _ (List.mem_cons_self ..)
      simp only [Bool.or_eq_false_iff, Bool.not_eq_false'] at hfirst
      exact hfirst.1
    dsimp only
    refine Prog.wp_bind.mpr (wp_unwrapKey (fun rc k _ => h.kept k) fun plain k hplain _ => ?_)
    dsimp only
    refine Prog.wp_bind.mpr ?_
    unfold Prog.wp encryptSlotKey
    dsimp only
    cases hrandom : ω.iv k.ivs with
    | none => exact h.kept _
    | some iv =>
      have hkek := h.key hready
      refine Prog.wp_bind.mpr (Prog.wp_modify.mpr (Prog.wp_bind.mpr
        (Prog.wp_mono (wp_setState_save (h.asked _) ?_) (fun _ _ hw => ?_) fun _ => id)))
      · -- the new slot is sealed under the key in memory, which is that of the file
        intro p slot hslot
        rcases hslot with hslot | hslot
        · exact h.mem p slot (.inl hslot)
        · by_cases hp : p = item.purpose
          · subst hp
            obtain rfl := Option.some.inj ((OrdMap.find?_insert_self ..).symm.trans hslot)
            exact ⟨w.prov.kek, hkek, domain, plain, iv, hiv _ iv hrandom, hH plain hplain, rfl⟩
          · exact h.mem p slot (.inr ((OrdMap.find?_insert_of_ne hp).symm.trans hslot))
      · exact ⟨hw.keyed, hw.kek, hw.file⟩

end Staging

/-! ### The commit -/

/-- A commit moves the staged slots as they are: they carry its generation already. -/
theorem SealedState.committed {file : Option Bytes} (h : SealedState P H file st)
    {macKey : Bytes} {generation : ℕ} (hboth : stagedBoth st generation = true) :
    SealedState P H file (committedState P macKey st generation) := by
  obtain ⟨up, down, hup, hdown⟩ := exists_of_stagedBoth hboth
  intro p slot hslot
  rcases hslot with hslot | hslot
  · rw [committedState_find hup hdown] at hslot
    split at hslot
    · rename_i hp
      obtain ⟨staged, hstaged, rfl⟩ := Option.map_eq_some_iff.mp hslot
      have hgeneration : staged.generation = generation := by
        have hp' := List.all_eq_true.mp hboth p hp
        simp only [hstaged, Bool.and_eq_true, beq_iff_eq] at hp'
        exact hp'.2
      rw [← hgeneration]
      exact h p staged (.inr hstaged)
    · exact h p slot (.inl hslot)
  · exact absurd hslot nofun

theorem wp_commitBatch_kept (h : w.Keyed P H) (generation : ℕ) :
    Prog.wp (commitBatch P ω generation) (fun _ w' => KeptKek P H w w') (Disk.Keyed P H) w := by
  unfold commitBatch
  refine Prog.wp_bind.mpr (Prog.wp_gets.mpr ?_)
  dsimp only
  split
  · exact h.kept w.asked
  · split
    · exact h.kept w.asked
    · split
      · exact h.kept w.asked
      · rename_i hstaged _
        have hboth : stagedBoth w.prov.state generation = true := by simpa using hstaged
        refine Prog.wp_bind.mpr (Prog.wp_modify.mpr (Prog.wp_bind.mpr (Prog.wp_mono
          (wp_saveState_kept (h.setState (h.mem.committed hboth))) (fun rc w' hw => ?_)
          fun _ => id)))
        obtain ⟨hkept, hprov⟩ := hw
        split
        · -- the old slots are put back
          refine Prog.wp_bind.mpr (Prog.wp_modify.mpr (Prog.wp_pure.mpr
            ⟨hkept.keyed.setState fun p slot hslot => ?_, hkept.kek, hkept.file⟩))
          rcases hslot with hslot | hslot
          · exact hkept.file ▸ h.mem p slot (.inl hslot)
          · exact hkept.keyed.mem p slot (.inr hslot)
        · exact Prog.wp_bind.mpr (Prog.wp_modify.mpr (Prog.wp_pure.mpr
            ⟨⟨⟨hkept.keyed.disk.file, hkept.keyed.disk.docs⟩, hkept.keyed.key, hkept.keyed.mem⟩,
              hkept.kek, hkept.file⟩))

/-! ### Starting -/

/-- A new key file: no slot was sealed under an old one. -/
theorem SealedState.new_file {file file' : Option Bytes} (h : SealedState P H file st)
    (hnone : file = none) : SealedState P H file' st := by
  intro p slot hslot
  obtain ⟨K, hK, -⟩ := h p slot hslot
  exact absurd (hnone.symm.trans hK) nofun

theorem Disk.Keyed.new_file {d : Disk} (h : d.Keyed P H) (hnone : d.kek = none) {b : Bytes}
    (hlen : b.length = kekSize) : Disk.Keyed P H { d with kek := some b } := by
  refine ⟨fun f hf => ?_, fun doc hdoc => (h.docs doc hdoc).new_file hnone⟩
  rw [← Option.some.inj hf]
  exact hlen

/-- **Loading or making the key**, when a new key reaches its file. -/
theorem wp_loadOrGenerateKek_keyed (h : w.Keyed P H) (hwhole : ω.kek.Whole w.disk.kek) :
    Prog.wp (loadOrGenerateKek ω w.disk.kek)
      (fun rc w' => World.Keyed P H w' ∧
        (w.disk.kek = some w.prov.kek → w'.disk.kek = some w'.prov.kek) ∧
        (rc = .success → w'.disk.kek = some w'.prov.kek) ∧
        (w.disk.kek ≠ none → w'.disk.kek = w.disk.kek))
      (Disk.Keyed P H) w := by
  unfold Prog.wp
  rw [loadOrGenerateKek_eq]
  cases ho : kekOutcome ω.kek w.prov.kek w.disk.kek with
  | failed rc m =>
    have hm : w.disk.kek = some w.prov.kek → w.disk.kek = some m := by
      intro hkey
      rw [mem_of_failed h.disk.file (Option.isSome_of_eq_some hkey) ho]
      exact hkey
    exact ⟨⟨h.disk, fun hready => hm (h.key hready), h.mem⟩, hm,
      fun hrc => absurd hrc (ne_success_of_failed ho), fun _ => rfl⟩
  | loaded key =>
    have hfile := file_of_loaded h.disk.file ho
    exact ⟨⟨h.disk, fun _ => hfile, h.mem⟩, fun _ => hfile, fun _ => hfile, fun _ => rfl⟩
  | created key b =>
    obtain ⟨rfl, hlen, hnone⟩ := key_of_created hwhole ho
    exact ⟨⟨h.disk.new_file hnone hlen, fun _ => rfl, h.mem.new_file hnone⟩, fun _ => rfl,
      fun _ => rfl, fun hne => absurd hnone hne⟩
  | cut b =>
    obtain ⟨hlen, hnone⟩ := length_of_cut hwhole ho
    exact h.disk.new_file hnone hlen

private theorem wp_loadState_kept (h : w.Keyed P H) :
    Prog.wp (loadState ω) (fun _ w' => KeptKek P H w w') (Disk.Keyed P H) w := by
  unfold Prog.wp loadState
  split
  · exact h.kept w.asked
  · dsimp only
    split
    · exact ⟨⟨h.disk, h.key, h.mem⟩, rfl, rfl⟩
    · rename_i doc rest hdocs
      split
      · exact ⟨⟨h.disk, h.key, h.mem⟩, rfl, rfl⟩
      · have hdoc : doc ∈ w.disk.state := hdocs ▸ List.mem_cons_self ..
        exact ⟨⟨h.disk, h.key, h.disk.docs doc hdoc⟩, rfl, rfl⟩

/-- **Initialization**, when a new key reaches its file. -/
theorem wp_providerInitialize_keyed (h : w.Keyed P H)
    (hwhole : ω.storeOpen = some true → ω.kek.Whole w.disk.kek) :
    Prog.wp (providerInitialize P ω)
      (fun rc w' => World.Keyed P H w' ∧
        (w.disk.kek = some w.prov.kek → w'.disk.kek = some w'.prov.kek) ∧
        (rc = .success → w'.disk.kek = some w'.prov.kek) ∧
        (w.disk.kek ≠ none → w'.disk.kek = w.disk.kek))
      (Disk.Keyed P H) w := by
  unfold providerInitialize
  split
  · exact ⟨h, id, nofun, fun _ => rfl⟩
  · rename_i ready hopen
    refine Prog.wp_bind.mpr (Prog.wp_modify.mpr ?_)
    have hopened : World.Keyed P H { w with prov.store := some ready } := ⟨h.disk, h.key, h.mem⟩
    split
    · exact ⟨hopened, id, nofun, fun _ => rfl⟩
    · rename_i hready
      obtain rfl : ready = true := by simpa using hready
      refine Prog.wp_bind.mpr (Prog.wp_gets.mpr (Prog.wp_bind.mpr (Prog.wp_mono
        (wp_loadOrGenerateKek_keyed hopened (hwhole hopen)) (fun rc w₁ h₁ => ?_) fun _ => id)))
      obtain ⟨hkeyed, hheld, hsuccess, hstays⟩ := h₁
      split
      · rename_i hrc
        exact ⟨hkeyed, hheld, fun h => absurd h hrc, hstays⟩
      · rename_i hrc
        have hkey := hsuccess (not_not.mp hrc)
        refine Prog.wp_bind.mpr (Prog.wp_modify.mpr (Prog.wp_bind.mpr (Prog.wp_mono
          (wp_loadState_kept ⟨hkeyed.disk, hkeyed.key, hkeyed.mem⟩) (fun rc w₂ h₂ => ?_)
          fun _ => id)))
        have hkey₂ : w₂.disk.kek = some w₂.prov.kek := by
          rw [h₂.file, h₂.kek]
          exact hkey
        have hstays₂ : w.disk.kek ≠ none → w₂.disk.kek = w.disk.kek := fun hne =>
          h₂.file.trans (hstays hne)
        split
        · exact ⟨h₂.keyed, fun _ => hkey₂, fun _ => hkey₂, hstays₂⟩
        · refine Prog.wp_bind.mpr (?_ : Prog.wp (checkCommitMarker P) _ _ w₂)
          -- dropping the ACTIVE slots leaves no slot unsealed
          refine ⟨⟨h₂.keyed.disk, fun _ => hkey₂, ?_⟩, fun _ => hkey₂, fun _ => hkey₂, hstays₂⟩
          refine h₂.keyed.mem.of_slots (fun p slot hslot => ?_) fun p slot hslot => ?_
          · dsimp only at hslot
            split at hslot
            · exact absurd hslot nofun
            · exact hslot
          · dsimp only at hslot
            split at hslot
            · exact hslot
            · exact hslot

end TboxSec.Keyprov
