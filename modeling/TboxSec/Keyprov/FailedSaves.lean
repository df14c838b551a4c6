import TboxSec.Keyprov.Bench
import TboxSec.Keyprov.ProviderSpec

/-!
# What a failed save leaves behind

Four operations of the provider write: `commitBatch`, `unwrapToStaging`, `rollbackStaging` and
`saveJournal`. Each changes the fields in memory **first** and saves the document last, so an
error leaves the fields alone in two cases only.

* The call was refused by one of its checks, before it touched anything.
* The change was no change: the staging area to be cleared was clear, the slot or the record to
  be put was already there.

`commitBatch` does put ACTIVE, the generation and the marker back when its save fails, but not
the staging area, which its checks have just found full: after a failed commit of a full batch
the batch is gone from memory, while the document on disk still has it.

`Harmless m w` is the property: if `m` returns an error from `w`, the fields are what they were,
and agree with the document if they did. One lemma for each operation says exactly when it holds.
-/

namespace TboxSec.Keyprov

open Canonical Crash

/-! ### Errors that change nothing -/

/-- The fields in memory agree with the newest state document. -/
def InSync (w : World) : Prop := ∃ doc ∈ w.disk.state.head?, doc.state = w.prov.state

/-- **An error changes nothing**: if `m` returns one, the fields of the provider are what they
were, and agree with the document on disk if they did before. -/
def Harmless {α : Type} (code : α → ErrorCode) (m : SecM α) (w : World) : Prop :=
  Prog.wp m
    (fun a w' => code a ≠ .success →
      w'.prov.state = w.prov.state ∧ (InSync w → InSync w'))
    (fun _ => True) w

/-- The next save returns an error. -/
def SaveFails (ω : Oracle) (w : World) : Prop :=
  w.prov.store ≠ some true ∨ ω.save w.asked.saves = .failed ∨ ω.save w.asked.saves = .notReady

section Saves

variable {α : Type} {code : α → ErrorCode} {m : SecM α} {ω : Oracle} {w w' : World}

/-- A save that fails changes no field and writes nothing. -/
theorem saveState_of_fails (h : SaveFails ω w) :
    ∃ rc k, rc ≠ .success ∧ saveState ω w = .done rc { w with asked := k } := by
  unfold saveState
  by_cases hstore : w.prov.store ≠ some true
  · exact ⟨.businessKeyNotReady, w.asked, by decide, by rw [if_pos hstore]⟩
  · rw [if_neg hstore]
    rcases h with h | h | h
    · exact absurd h hstore
    · exact ⟨.storageWriteFailed, _, by decide, by rw [h]; rfl⟩
    · exact ⟨.businessKeyNotReady, _, by decide, by rw [h]; rfl⟩

/-- A save that does not fail succeeds, if the process lives through it. -/
theorem wp_saveState_of_not_fails (h : ¬ SaveFails ω w) :
    Prog.wp (saveState ω) (fun rc _ => rc = .success) (fun _ => True) w := by
  unfold SaveFails at h
  push Not at h
  obtain ⟨hstore, hfailed, hready⟩ := h
  unfold Prog.wp saveState
  rw [if_neg (not_not.mpr hstore)]
  cases hans : ω.save w.asked.saves with
  | ok => exact rfl
  | failed => exact absurd hans hfailed
  | notReady => exact absurd hans hready
  | crash => trivial

/-- A refusal before the first change is harmless. -/
private theorem Harmless.of_unchanged {a : α} {k : Asked}
    (h : m w = .done a { w with asked := k }) :
    Harmless code m w := by
  unfold Harmless Prog.wp
  rw [h]
  exact fun _ => ⟨rfl, fun hsync => hsync⟩

/-- A run that returns no error is harmless. -/
private theorem Harmless.of_success
    (h : Prog.wp m (fun a _ => code a = .success) (fun _ => True) w) : Harmless code m w :=
  Prog.wp_mono h (fun _ _ hs herr => absurd hs herr) fun _ h => h

/-- Two programs with one run are harmless together. -/
private theorem harmless_congr {m' : SecM α} (h : m w = m' w') (hprov : w'.prov = w.prov)
    (hdisk : w'.disk = w.disk) : Harmless code m w ↔ Harmless code m' w' := by
  unfold Harmless Prog.wp InSync
  rw [h, hprov, hdisk]

/-- An error that leaves the fields `st` over an untouched disk is harmless exactly when `st` is
what they were. -/
private theorem harmless_iff_of_done {a : α} {st : State} (ha : code a ≠ .success)
    (h : m w = .done a w') (hdisk : w'.disk = w.disk) (hst : w'.prov.state = st) :
    Harmless code m w ↔ st = w.prov.state := by
  unfold Harmless Prog.wp
  rw [h, Outcome.meets_done, hst]
  constructor
  · exact fun hh => (hh ha).1
  · rintro heq -
    refine ⟨heq, ?_⟩
    rintro ⟨doc, hdoc, hsame⟩
    exact ⟨doc, hdisk ▸ hdoc, by rw [hsame, hst, heq]⟩

end Saves

/-! ### The change and its save -/

section Change

variable {ω : Oracle} {w : World}

/-- A change of the fields to `st`, then a save. -/
def changeAndSave (ω : Oracle) (st : State) : SecM ErrorCode := do
  Prog.modify fun w => w.setState st
  saveState ω

/-- **A change and its save** are harmless exactly when the save succeeds or the change is none. -/
theorem harmless_changeAndSave_iff {st : State} :
    Harmless id (changeAndSave ω st) w ↔ (SaveFails ω w → st = w.prov.state) := by
  by_cases hfail : SaveFails ω w
  · obtain ⟨rc, k, hrc, hsave⟩ :=
      saveState_of_fails (w := w.setState st) (ω := ω) hfail
    have hrun : changeAndSave ω st w = .done rc { w.setState st with asked := k } := hsave
    have hiff : Harmless id (changeAndSave ω st) w ↔ st = w.prov.state :=
      harmless_iff_of_done hrc hrun rfl rfl
    simp [hiff, hfail]
  · have hok : Prog.wp (changeAndSave ω st) (fun rc _ => id rc = .success) (fun _ => True) w :=
      wp_saveState_of_not_fails (w := w.setState st) hfail
    simp [hfail, Harmless.of_success hok]

end Change

/-! ### The four operations -/

section Operations

variable {P : Platform} {pc : ProviderConfig} {ω : Oracle} {w : World}

/-- The checks of `commitBatch` let a commit of `generation` through. -/
def CommitReaches (w : World) (generation : ℕ) : Prop :=
  w.prov.ready = true ∧ stagedBoth w.prov.state generation = true ∧
    w.prov.state.stagingGeneration = generation

/-- A staging area that holds both purposes is not empty. -/
private theorem staging_ne_empty_of_stagedBoth {st : State} {generation : ℕ}
    (h : stagedBoth st generation = true) : st.staging ≠ .empty := by
  intro hempty
  have hup := List.all_eq_true.mp h purposeUplink (by simp [providerPurposes])
  rw [hempty] at hup
  simp at hup

/-- A commit that does not reach its change touches nothing. -/
theorem commitBatch_of_refused {generation : ℕ} (h : ¬ CommitReaches w generation) :
    ∃ rc, commitBatch P ω generation w = .done rc w := by
  unfold commitBatch
  rw [Prog.gets_bind]
  dsimp only
  split_ifs with hready hboth hgen
  · exact ⟨_, rfl⟩
  · exact ⟨_, rfl⟩
  · exact ⟨_, rfl⟩
  · exact absurd ⟨by simpa using hready, by simpa using hboth, not_not.mp hgen⟩ h

/-- The part of `commitBatch` behind its checks, with the fields it found. -/
theorem commitBatch_of_reaches {generation : ℕ} (h : CommitReaches w generation) :
    commitBatch P ω generation w = (do
      let rc ← saveState ω
      if rc ≠ .success then
        Prog.modify fun w₁ => w₁.setState
          { w₁.prov.state with
            active := w.prov.state.active
            generation := w.prov.state.generation
            commitMarker := w.prov.state.commitMarker }
        pure rc
      else
        Prog.modify fun w₁ =>
          { w₁ with disk.commits := (w.prov.state, w₁.prov.state) :: w₁.disk.commits }
        pure .success : SecM ErrorCode)
      (w.setState (committedState P w.prov.macKey w.prov.state generation)) := by
  obtain ⟨hready, hboth, hgen⟩ := h
  unfold commitBatch
  rw [Prog.gets_bind]
  dsimp only
  rw [if_neg (by simp [hready]), if_neg (by simp [hboth]), if_neg (not_not.mpr hgen)]
  rfl

/-- **A commit** is harmless exactly when it is refused by a check or its save does not fail:
the staging area it clears is never empty. -/
theorem harmless_commitBatch_iff {generation : ℕ} :
    Harmless id (commitBatch P ω generation) w ↔
      ¬ (CommitReaches w generation ∧ SaveFails ω w) := by
  by_cases hreach : CommitReaches w generation
  swap
  · obtain ⟨rc, hrun⟩ := commitBatch_of_refused (P := P) (ω := ω) hreach
    have hkept : Harmless id (commitBatch P ω generation) w :=
      Harmless.of_unchanged (k := w.asked) hrun
    simp [hreach, hkept]
  have hrun := commitBatch_of_reaches (P := P) (ω := ω) hreach
  by_cases hfail : SaveFails ω w
  · obtain ⟨rc, k, hrc, hsave⟩ := saveState_of_fails (ω := ω)
      (w := w.setState (committedState P w.prov.macKey w.prov.state generation)) hfail
    rw [Prog.bind_of_done hsave, if_pos hrc] at hrun
    -- what is left behind is the old document without its staging area
    have hiff : Harmless id (commitBatch P ω generation) w ↔
        { w.prov.state with staging := .empty, stagingGeneration := 0 } = w.prov.state :=
      harmless_iff_of_done hrc hrun rfl rfl
    have hfull := staging_ne_empty_of_stagedBoth hreach.2.1
    have hne : ({ w.prov.state with staging := .empty, stagingGeneration := 0 } : State) ≠
        w.prov.state := fun heq => hfull (congrArg State.staging heq).symm
    simp [hiff, hne, hreach, hfail]
  · have hok : Prog.wp (commitBatch P ω generation) (fun rc _ => id rc = .success)
        (fun _ => True) w := by
      unfold Prog.wp
      rw [hrun]
      refine Prog.wp_bind.mpr (Prog.wp_mono (wp_saveState_of_not_fails hfail) ?_ fun _ h => h)
      rintro rc w₁ rfl
      rfl
    simp [hfail, Harmless.of_success hok]

/-- **A rollback** is harmless exactly when it is refused, its save does not fail, or the staging
area was clear already. -/
theorem harmless_rollbackStaging_iff {generation : ℕ} :
    Harmless id (rollbackStaging ω generation) w ↔
      ¬ (w.prov.ready = true ∧
        (w.prov.state.stagingGeneration = 0 ∨ w.prov.state.stagingGeneration = generation) ∧
        SaveFails ω w ∧
        ¬ (w.prov.state.staging = .empty ∧ w.prov.state.stagingGeneration = 0)) := by
  by_cases hready : w.prov.ready = true
  swap
  · have hrun : rollbackStaging ω generation w = .done .businessKeyNotReady w := by
      unfold rollbackStaging
      rw [Prog.gets_bind, if_pos (by simpa using hready)]
      rfl
    have hkept : Harmless id (rollbackStaging ω generation) w :=
      Harmless.of_unchanged (k := w.asked) hrun
    simp [hready, hkept]
  by_cases hgen : w.prov.state.stagingGeneration = 0 ∨ w.prov.state.stagingGeneration = generation
  swap
  · have hrun : rollbackStaging ω generation w = .done .businessKeyConflict w := by
      unfold rollbackStaging
      rw [Prog.gets_bind, if_neg (by simp [hready]), if_pos (not_or.mp hgen)]
      rfl
    have hkept : Harmless id (rollbackStaging ω generation) w :=
      Harmless.of_unchanged (k := w.asked) hrun
    simp [hgen, hkept]
  set st : State := { w.prov.state with staging := .empty, stagingGeneration := 0 } with hst
  have hrun : rollbackStaging ω generation w = changeAndSave ω st w := by
    unfold rollbackStaging
    rw [Prog.gets_bind, if_neg (by simp [hready]), if_neg (not_and_or.mpr (by simpa using hgen))]
    rfl
  have hclear : st = w.prov.state ↔
      w.prov.state.staging = .empty ∧ w.prov.state.stagingGeneration = 0 := by
    rw [hst]
    constructor
    · exact fun heq => ⟨(congrArg State.staging heq).symm,
        (congrArg State.stagingGeneration heq).symm⟩
    · rintro ⟨hstaging, hzero⟩
      rw [← hstaging, ← hzero]
  rw [harmless_congr hrun rfl rfl, harmless_changeAndSave_iff, hclear]
  tauto

/-- **A journal save** is harmless exactly when it is refused, its save does not fail, or the
very record was there already. -/
theorem harmless_saveJournal_iff {entry : BusinessKeyJournalEntry} :
    Harmless id (saveJournal P ω entry) w ↔
      ¬ (w.prov.ready = true ∧ SaveFails ω w ∧
        w.prov.state.journal.find? entry.requestIdDigest ≠
          some ⟨entry, journalMac P w.prov.macKey entry⟩) := by
  by_cases hready : w.prov.ready = true
  swap
  · have hrun : saveJournal P ω entry w = .done .businessKeyNotReady w := by
      unfold saveJournal
      rw [Prog.gets_bind, if_pos (by simpa using hready)]
      rfl
    have hkept : Harmless id (saveJournal P ω entry) w :=
      Harmless.of_unchanged (k := w.asked) hrun
    simp [hready, hkept]
  set st : State :=
    { w.prov.state with
      journal := w.prov.state.journal.insert entry.requestIdDigest
        ⟨entry, journalMac P w.prov.macKey entry⟩ } with hst
  have hrun : saveJournal P ω entry w = changeAndSave ω st w := by
    unfold saveJournal
    rw [Prog.gets_bind, if_neg (by simp [hready])]
    rfl
  have hsame : st = w.prov.state ↔ w.prov.state.journal.find? entry.requestIdDigest =
      some ⟨entry, journalMac P w.prov.macKey entry⟩ := by
    rw [hst, ← OrdMap.insert_eq_self_iff]
    constructor
    · exact fun heq => congrArg State.journal heq
    · exact fun heq => by rw [heq]
  rw [harmless_congr hrun rfl rfl, harmless_changeAndSave_iff, hsame]
  tauto

end Operations

/-! ### Staging an item -/

section Staging

variable (P : Platform) (pc : ProviderConfig) (ω : Oracle) (w : World) (domain : String)
  (item : WrappedKeyItem) (params : EnvelopeParameters) (aad info : Bytes)
  (binding : BusinessKeyDeviceBinding) (generation : ℕ)

/-- The HSM gives `plain` for the item, a key of its length and check value. -/
def GivesKey (plain : Bytes) : Prop :=
  P.unwrap (unwrapRequest item params aad info binding) (ω.unwrapSeed w.asked.unwraps) =
      (.success, plain) ∧
    plain.length = algorithmKeySize item.algorithm ∧
    (item.keyCheckValuePresent = true → computeKcv P.crypto plain = item.keyCheckValue)

/-- `unwrapToStaging` gets as far as its change, with `slot` for the item: the checks pass, the
HSM gives a key of the right length and check value, and there is an IV to encrypt it with. -/
structure Stages (slot : Slot) : Prop where
  admitted : firstReject (unwrapChecks pc w.prov item binding) = none
  key : ∃ plain iv,
    GivesKey P ω w item params aad info binding plain ∧ ω.iv w.asked.ivs = some iv ∧
      slot =
        { stagedSlot P item generation with
          keyEncHex := toHex (P.crypto.gcmSeal w.prov.kek
            (textBytes (slotAad domain item.purpose (stagedSlot P item generation))) iv plain) }

variable {P pc ω w domain item params aad info binding generation}

/-- The HSM call returns the key it gives. -/
private theorem unwrapKey_of_gives {plain : Bytes}
    (h : GivesKey P ω w item params aad info binding plain) :
    unwrapKey P ω item params aad info binding w =
      .done (.ok (plain, computeKcv P.crypto plain))
        { w with asked.unwraps := w.asked.unwraps + 1 } := by
  obtain ⟨hkey, hlen, hkcv⟩ := h
  unfold unwrapKey
  rw [Prog.bind_of_done (m := hsmUnwrap P ω _) (by unfold hsmUnwrap; rw [hkey])]
  dsimp only
  rw [if_neg (by simp), if_neg (not_not.mpr hlen), if_neg ?_]
  · rfl
  · rintro ⟨hpresent, hne⟩
    exact hne (hkcv hpresent)

/-- Without a key, the HSM call returns an error. -/
private theorem unwrapKey_of_gives_none
    (h : ∀ plain, ¬ GivesKey P ω w item params aad info binding plain) :
    ∃ rc, unwrapKey P ω item params aad info binding w =
      .done (.error rc) { w with asked.unwraps := w.asked.unwraps + 1 } := by
  generalize hans : P.unwrap (unwrapRequest item params aad info binding)
    (ω.unwrapSeed w.asked.unwraps) = ans
  obtain ⟨rc, plain⟩ := ans
  unfold unwrapKey
  rw [Prog.bind_of_done (m := hsmUnwrap P ω _) (by unfold hsmUnwrap; rw [hans])]
  dsimp only
  split_ifs with hrc himpl hlen hkcv
  · exact ⟨_, rfl⟩
  · exact ⟨_, rfl⟩
  · exact ⟨_, rfl⟩
  · exact ⟨_, rfl⟩
  · refine absurd ⟨?_, not_not.mp hlen, fun hpresent => ?_⟩ (h plain)
    · rw [hans, not_not.mp hrc]
    · by_contra hne
      exact hkcv ⟨hpresent, hne⟩

/-- There is at most one slot to stage. -/
theorem Stages.unique {slot slot' : Slot}
    (h : Stages P pc ω w domain item params aad info binding generation slot)
    (h' : Stages P pc ω w domain item params aad info binding generation slot') :
    slot = slot' := by
  obtain ⟨-, plain, iv, hplain, hiv, rfl⟩ := h
  obtain ⟨-, plain', iv', hplain', hiv', rfl⟩ := h'
  have hkey : plain = plain' := by simpa using hplain.1.symm.trans hplain'.1
  have hivs : iv = iv' := by simpa using hiv.symm.trans hiv'
  rw [hkey, hivs]

/-- Without a slot to stage, nothing is touched. -/
theorem unwrapToStaging_of_refused
    (h : ∀ slot, ¬ Stages P pc ω w domain item params aad info binding generation slot) :
    ∃ r k, unwrapToStaging P pc ω domain item params aad info binding generation w =
      .done r { w with asked := k } := by
  unfold unwrapToStaging
  rw [Prog.gets_bind]
  cases hchecks : firstReject (unwrapChecks pc w.prov item binding) with
  | some rc => exact ⟨(rc, {}), w.asked, rfl⟩
  | none =>
    dsimp only
    by_cases hgives : ∃ plain, GivesKey P ω w item params aad info binding plain
    · obtain ⟨plain, hplain⟩ := hgives
      rw [Prog.bind_of_done (unwrapKey_of_gives hplain)]
      dsimp only
      cases hiv : ω.iv w.asked.ivs with
      | none =>
        rw [Prog.bind_of_done (m := encryptSlotKey P ω _ _ _ _)
          (by unfold encryptSlotKey; dsimp only; rw [hiv])]
        exact ⟨_, _, rfl⟩
      | some iv => exact absurd ⟨hchecks, plain, iv, hplain, hiv, rfl⟩ (h _)
    · obtain ⟨rc, hrun⟩ := unwrapKey_of_gives_none (not_exists.mp hgives)
      rw [Prog.bind_of_done hrun]
      exact ⟨_, _, rfl⟩

/-- With a slot to stage, the change and its save are made. -/
theorem unwrapToStaging_of_stages {slot : Slot}
    (h : Stages P pc ω w domain item params aad info binding generation slot) :
    ∃ kcv k, k.saves = w.asked.saves ∧
      unwrapToStaging P pc ω domain item params aad info binding generation w =
        (changeAndSave ω
          { w.prov.state with
            staging := w.prov.state.staging.insert item.purpose slot
            stagingGeneration := generation } >>= fun rc => pure (rc, kcv))
          { w with asked := k } := by
  obtain ⟨hadmitted, plain, iv, hplain, hiv, rfl⟩ := h
  refine ⟨computeKcv P.crypto plain,
    { w.asked with unwraps := w.asked.unwraps + 1, ivs := w.asked.ivs + 1 }, rfl, ?_⟩
  unfold unwrapToStaging
  rw [Prog.gets_bind]
  dsimp only
  rw [hadmitted]
  dsimp only
  rw [Prog.bind_of_done (unwrapKey_of_gives hplain)]
  dsimp only
  rw [Prog.bind_of_done (m := encryptSlotKey P ω _ _ _ _)
    (by unfold encryptSlotKey; dsimp only; rw [hiv])]
  rfl

/-- **Staging an item** is harmless exactly when no slot comes to be staged, the save does not
fail, or the very slot was staged already. -/
theorem harmless_unwrapToStaging_iff :
    Harmless Prod.fst
        (unwrapToStaging P pc ω domain item params aad info binding generation) w ↔
      ¬ ∃ slot, Stages P pc ω w domain item params aad info binding generation slot ∧
        SaveFails ω w ∧
        ¬ (w.prov.state.staging.find? item.purpose = some slot ∧
          w.prov.state.stagingGeneration = generation) := by
  by_cases hstages : ∃ slot, Stages P pc ω w domain item params aad info binding generation slot
  swap
  · obtain ⟨r, k, hrun⟩ := unwrapToStaging_of_refused (not_exists.mp hstages)
    refine iff_of_true (Harmless.of_unchanged hrun) ?_
    rintro ⟨slot, hslot, -⟩
    exact hstages ⟨slot, hslot⟩
  obtain ⟨slot, hslot⟩ := hstages
  obtain ⟨kcv, k, hk, hrun⟩ := unwrapToStaging_of_stages hslot
  set st : State :=
    { w.prov.state with
      staging := w.prov.state.staging.insert item.purpose slot
      stagingGeneration := generation } with hst
  -- the reply carries the check value besides the code of the save
  have hpair : Harmless Prod.fst (changeAndSave ω st >>= fun rc => pure (rc, kcv))
        { w with asked := k } ↔
      Harmless id (changeAndSave ω st) { w with asked := k } := by
    unfold Harmless
    rw [Prog.wp_bind]
    exact Iff.rfl
  have hfails : SaveFails ω { w with asked := k } ↔ SaveFails ω w := by
    unfold SaveFails
    rw [hk]
  have hsame : st = w.prov.state ↔ w.prov.state.staging.find? item.purpose = some slot ∧
      w.prov.state.stagingGeneration = generation := by
    rw [hst, ← OrdMap.insert_eq_self_iff]
    constructor
    · exact fun heq => ⟨congrArg State.staging heq, (congrArg State.stagingGeneration heq).symm⟩
    · rintro ⟨hstaging, hgen⟩
      rw [hstaging, ← hgen]
  rw [harmless_congr hrun rfl rfl, hpair, harmless_changeAndSave_iff, hfails, hsame]
  constructor
  · rintro h ⟨slot', hslot', hfail, hne⟩
    rw [hslot'.unique hslot] at hne
    exact hne (h hfail)
  · intro h hfail
    by_contra hne
    exact h ⟨slot, hslot, hfail, hne⟩

end Staging

/-! ### All four -/

/-- What a journal save never touches: everything but the journal. -/
def withoutJournal (st : State) : State := { st with journal := .empty }

/-- A journal save changes the journal alone, whatever becomes of the save. -/
private theorem saveJournal_keeps {P : Platform} {ω : Oracle} (entry : BusinessKeyJournalEntry) :
    Prog.Keeps (fun w => withoutJournal w.prov.state) (saveJournal P ω entry) := by
  have hsave : Prog.Keeps (fun w => withoutJournal w.prov.state) (saveState ω) := fun w =>
    wp_saveState trivial rfl fun _ _ _ => rfl
  refine Prog.Keeps.bind (Prog.keeps_gets _) fun prov => ?_
  split
  · exact Prog.keeps_pure _
  · exact Prog.Keeps.bind (Prog.keeps_modify fun _ => rfl) fun _ => hsave

/-- **When an error changes nothing.** Each of the four operations that write leaves the fields of
the provider alone on an error, and in agreement with the document, exactly when it was refused
by a check of its own, or its save does not fail, or the change was none:

* for `commitBatch` it is always a change, since the batch to be cleared is there;
* for `unwrapToStaging` it is none if the very slot is staged already under the generation;
* for `rollbackStaging` it is none if the staging area is clear already;
* for `saveJournal` it is none if the very record is there already, and it never touches any
  field but the journal. -/
theorem failed_save_changes_nothing_iff (P : Platform) (pc : ProviderConfig) (ω : Oracle)
    (w : World) (generation : ℕ) :
    (Harmless id (commitBatch P ω generation) w ↔
      ¬ (CommitReaches w generation ∧ SaveFails ω w)) ∧
    (∀ domain item params aad info binding,
      Harmless Prod.fst
          (unwrapToStaging P pc ω domain item params aad info binding generation) w ↔
        ¬ ∃ slot, Stages P pc ω w domain item params aad info binding generation slot ∧
          SaveFails ω w ∧
          ¬ (w.prov.state.staging.find? item.purpose = some slot ∧
            w.prov.state.stagingGeneration = generation)) ∧
    (Harmless id (rollbackStaging ω generation) w ↔
      ¬ (w.prov.ready = true ∧
        (w.prov.state.stagingGeneration = 0 ∨ w.prov.state.stagingGeneration = generation) ∧
        SaveFails ω w ∧
        ¬ (w.prov.state.staging = .empty ∧ w.prov.state.stagingGeneration = 0))) ∧
    ∀ entry,
      (Harmless id (saveJournal P ω entry) w ↔
        ¬ (w.prov.ready = true ∧ SaveFails ω w ∧
          w.prov.state.journal.find? entry.requestIdDigest ≠
            some ⟨entry, journalMac P w.prov.macKey entry⟩)) ∧
      Prog.Keeps (fun w => withoutJournal w.prov.state) (saveJournal P ω entry) := by
  refine ⟨harmless_commitBatch_iff, ?_, harmless_rollbackStaging_iff, ?_⟩
  · intro domain item params aad info binding
    exact harmless_unwrapToStaging_iff
  · intro entry
    exact ⟨harmless_saveJournal_iff, saveJournal_keeps entry⟩

/-! ### The batch that is lost -/

namespace Bench

/-- The slot the bench daemon stages under generation 1 for a purpose. -/
def batchSlot (purpose : String) : Slot :=
  let slot := stagedSlot platform (bareItem purpose purpose 1 0xaa) 1
  { slot with
    keyEncHex := toHex (gcmSeal (List.replicate 32 0x77)
      (textBytes (slotAad businessDomainV2c purpose slot)) (List.replicate 12 0x55)
      (keyBytes 0xaa)) }

/-- The fields with a full batch in the staging area, ready to be committed. -/
def batchState : State where
  staging := (OrdMap.empty.insert purposeUplink (batchSlot purposeUplink)).insert purposeDownlink
    (batchSlot purposeDownlink)
  stagingGeneration := 1

/-- A daemon with a full batch, in memory and on disk. -/
def fullBatch : World where
  disk := { state := [⟨1, batchState⟩] }
  prov :=
    { hsm := true, store := some true, kek := List.replicate 32 0x77
      macKey := deriveMacKey platform (List.replicate 32 0x77), state := batchState
      ready := true }

/-- The commit of the full batch passes its checks. -/
private theorem commitReaches_fullBatch : CommitReaches fullBatch 1 := by
  refine ⟨rfl, ?_, rfl⟩
  have hup : batchState.staging.find? purposeUplink = some (batchSlot purposeUplink) := by
    unfold batchState
    rw [OrdMap.find?_insert_of_ne (by decide), OrdMap.find?_insert_self]
  have hdown : batchState.staging.find? purposeDownlink = some (batchSlot purposeDownlink) :=
    OrdMap.find?_insert_self ..
  change stagedBoth batchState 1 = true
  simp [stagedBoth, providerPurposes, hup, hdown, batchSlot, stagedSlot]

/-- **The lost batch.** The full batch is in memory and on disk, its commit fails to be saved,
and the batch is gone from memory. -/
theorem failed_commit_loses_batch :
    InSync fullBatch ∧ ¬ Harmless id (commitBatch platform failingSaves 1) fullBatch := by
  refine ⟨⟨⟨1, batchState⟩, rfl, rfl⟩, ?_⟩
  rw [harmless_commitBatch_iff, not_not]
  exact ⟨commitReaches_fullBatch, .inr (.inl rfl)⟩

end Bench

end TboxSec.Keyprov
