import TboxSec.Canonical.Injective
import TboxSec.Keyprov.FailedSaves
import TboxSec.Keyprov.ProviderRuns
import TboxSec.Lib.Separated

/-!
# What the commit marker says

The text under the commit marker lists, for each ACTIVE slot, its purpose, version, digest of the
key id, algorithm and generation, joined by `:`, each slot behind a `|`. The validity of a key is
not in it, nor the encrypted key.

**The slots of the provider have no separators** (`plain_run`): a slot is staged with a hex digest
and with an algorithm whose key size is known, and only the two purposes become ACTIVE. So what
the marker of a document the provider wrote says of a slot can be read off the text. Two documents
of one text agree on every slot that has no separators in either (`exists_slot_of_text_eq`); a
slot that somebody else wrote may have them, and then it may swallow its neighbours.
-/

namespace TboxSec.Keyprov

open Canonical Crash

/-! ### The text -/

/-- What the marker says of one slot. -/
def slotEntry (p : String) (s : Slot) : String :=
  p ++ ":" ++ toString s.version ++ ":" ++ s.keyIdDigest ++ ":" ++ s.algorithm ++ ":" ++
    toString s.generation

/-- The separators of the text. -/
def markerSeparators : List Char := ['|', ':']

/-- The text contains no separator. -/
def SeparatorFree (t : String) : Prop := ∀ c ∈ markerSeparators, c ∉ t.toList

/-- The slot has no separator in its texts. -/
structure SlotSeparated (p : String) (s : Slot) : Prop where
  purpose : SeparatorFree p
  keyIdDigest : SeparatorFree s.keyIdDigest
  algorithm : SeparatorFree s.algorithm

/-- The marker says the same of both slots. -/
structure SameMarked (s s' : Slot) : Prop where
  version : s.version = s'.version
  keyIdDigest : s.keyIdDigest = s'.keyIdDigest
  algorithm : s.algorithm = s'.algorithm
  generation : s.generation = s'.generation

/-- Being shown alike by the marker is symmetric. -/
theorem SameMarked.symm {s s' : Slot} (h : SameMarked s s') : SameMarked s' s :=
  ⟨h.version.symm, h.keyIdDigest.symm, h.algorithm.symm, h.generation.symm⟩

/-- It is transitive as well. -/
theorem SameMarked.trans {s s' s'' : Slot} (h : SameMarked s s') (h' : SameMarked s' s'') :
    SameMarked s s'' :=
  ⟨h.version.trans h'.version, h.keyIdDigest.trans h'.keyIdDigest,
    h.algorithm.trans h'.algorithm, h.generation.trans h'.generation⟩

/-- A text without separators is recognised by looking for each of them. -/
private theorem separatorFree_of_all {t : String}
    (h : (markerSeparators.all fun c => !t.toList.contains c) = true) : SeparatorFree t := by
  intro c hc
  simpa using List.all_eq_true.mp h c hc

/-- Decimal numbers hold no separator. -/
private theorem separatorFree_toString (n : ℕ) : SeparatorFree (toString n) := by
  intro c hc
  refine notMem_toString ?_ n
  simp only [markerSeparators, List.mem_cons, List.not_mem_nil, or_false] at hc
  rcases hc with rfl | rfl
  · decide
  · decide

/-- Nor do hexadecimal digests. -/
private theorem separatorFree_toHex (b : Bytes) : SeparatorFree (toHex b) := by
  intro c hc
  refine notMem_toHex ?_ b
  simp only [markerSeparators, List.mem_cons, List.not_mem_nil, or_false] at hc
  rcases hc with rfl | rfl
  · decide
  · decide

/-- The entry of a slot, spelled out as its five parts with a colon between them. -/
private theorem toList_slotEntry (p : String) (s : Slot) :
    (slotEntry p s).toList =
      p.toList ++ ':' :: ((toString s.version).toList ++ ':' :: (s.keyIdDigest.toList ++
        ':' :: (s.algorithm.toList ++ ':' :: (toString s.generation).toList))) := by
  have hcolon : (":" : String).toList = [':'] := by decide
  simp only [slotEntry, String.toList_append, hcolon, List.append_assoc, List.cons_append,
    List.nil_append]

/-- **An entry is read back**, if neither slot has separators. -/
theorem slotEntry_inj {p p' : String} {s s' : Slot} (hs : SlotSeparated p s)
    (hs' : SlotSeparated p' s') (h : slotEntry p s = slotEntry p' s') :
    p = p' ∧ SameMarked s s' := by
  have hcolon : ':' ∈ markerSeparators := by simp [markerSeparators]
  have hlist : (slotEntry p s).toList = (slotEntry p' s').toList := by rw [h]
  rw [toList_slotEntry, toList_slotEntry] at hlist
  obtain ⟨hp, hlist⟩ := sep_inj_left (hs.purpose _ hcolon) (hs'.purpose _ hcolon) hlist
  obtain ⟨hversion, hlist⟩ :=
    sep_inj_left (separatorFree_toString _ _ hcolon) (separatorFree_toString _ _ hcolon) hlist
  obtain ⟨hdigest, hlist⟩ :=
    sep_inj_left (hs.keyIdDigest _ hcolon) (hs'.keyIdDigest _ hcolon) hlist
  obtain ⟨halgorithm, hgeneration⟩ :=
    sep_inj_left (hs.algorithm _ hcolon) (hs'.algorithm _ hcolon) hlist
  exact ⟨String.toList_inj.mp hp, toString_injective (String.toList_inj.mp hversion),
    String.toList_inj.mp hdigest, String.toList_inj.mp halgorithm,
    toString_injective (String.toList_inj.mp hgeneration)⟩

/-- An entry of a slot without separators does not contain the one between slots. -/
private theorem bar_notMem_slotEntry {p : String} {s : Slot} (hs : SlotSeparated p s) :
    '|' ∉ (slotEntry p s).toList := by
  have hbar : '|' ∈ markerSeparators := by simp [markerSeparators]
  have hversion := separatorFree_toString s.version _ hbar
  have hgeneration := separatorFree_toString s.generation _ hbar
  rw [toList_slotEntry]
  generalize (toString s.version).toList = version at hversion ⊢
  generalize (toString s.generation).toList = generation at hgeneration ⊢
  simp [hs.purpose _ hbar, hs.keyIdDigest _ hbar, hs.algorithm _ hbar, hversion, hgeneration]

/-- The text is a list of parts, each behind a `|`. -/
theorem toList_commitMarkerText (generation : ℕ) (active : OrdMap String Slot) :
    (commitMarkerText generation active).toList =
      "commit".toList ++
        ((toString generation).toList ::
          active.toList.map fun b => (slotEntry b.1 b.2).toList).flatMap ('|' :: ·) := by
  have hfold : ∀ (l : List (String × Slot)) (front : String),
      (l.foldl (fun canon b => canon ++ "|" ++ b.1 ++ ":" ++ toString b.2.version ++ ":" ++
        b.2.keyIdDigest ++ ":" ++ b.2.algorithm ++ ":" ++ toString b.2.generation) front).toList =
      front.toList ++ (l.map fun b => (slotEntry b.1 b.2).toList).flatMap ('|' :: ·) := by
    intro l
    induction l with
    | nil => simp
    | cons b l ih =>
      intro front
      have hbar : ("|" : String).toList = ['|'] := by decide
      rw [List.foldl_cons, ih, List.map_cons, List.flatMap_cons]
      simp only [slotEntry, String.toList_append, hbar, List.append_assoc, List.cons_append,
        List.nil_append]
  have hfront : ("commit|" ++ toString generation).toList =
      "commit".toList ++ '|' :: (toString generation).toList := by
    have hcommit : ("commit|" : String).toList = "commit".toList ++ ['|'] := by decide
    rw [String.toList_append, hcommit, List.append_assoc]
    rfl
  rw [commitMarkerText, hfold, hfront, List.flatMap_cons, List.append_assoc, List.cons_append]

/-- **Two documents of one text** agree on a slot without separators, if the other document has
none at all. -/
theorem exists_slot_of_text_eq {g g' : ℕ} {active active' : OrdMap String Slot} {p : String}
    {s : Slot} (h : commitMarkerText g active = commitMarkerText g' active')
    (hfind : active.find? p = some s) (hs : SlotSeparated p s)
    (hall : ∀ p' s', active'.find? p' = some s' → SlotSeparated p' s') :
    ∃ s', active'.find? p = some s' ∧ SameMarked s s' := by
  have hbar : '|' ∈ markerSeparators := by simp [markerSeparators]
  have hlist : (commitMarkerText g active).toList = (commitMarkerText g' active').toList := by
    rw [h]
  rw [toList_commitMarkerText, toList_commitMarkerText] at hlist
  -- the entry of the slot is a part of the one text, so it is a part of the other
  obtain ⟨before, after, hsplit⟩ := List.append_of_mem (OrdMap.mem_toList_iff.mpr hfind)
  have hmem : (slotEntry p s).toList ∈ (toString g').toList ::
      active'.toList.map fun b => (slotEntry b.1 b.2).toList := by
    have hhead : '|' ∉ "commit".toList := by decide
    refine mem_of_part
      (a := "commit".toList ++ ((toString g).toList ::
        before.map fun b => (slotEntry b.1 b.2).toList).flatMap ('|' :: ·))
      (b := (after.map fun b => (slotEntry b.1 b.2).toList).flatMap ('|' :: ·))
      hhead ?_ (bar_notMem_slotEntry hs) ?_ ?_
    · intro e he
      rcases List.mem_cons.mp he with rfl | he
      · exact separatorFree_toString _ _ hbar
      · obtain ⟨b, hb, rfl⟩ := List.mem_map.mp he
        exact bar_notMem_slotEntry (hall b.1 b.2 (OrdMap.mem_toList_iff.mp hb))
    · cases after with
      | nil => exact .inl rfl
      | cons b after => exact .inr ⟨_, rfl⟩
    · rw [← hlist, hsplit]
      simp
  rcases List.mem_cons.mp hmem with hnumber | hmem
  · -- an entry has a `:`, a number has none
    exfalso
    have hcolon : ':' ∈ (slotEntry p s).toList := by
      rw [toList_slotEntry]
      simp
    rw [hnumber] at hcolon
    exact separatorFree_toString g' ':' (by simp [markerSeparators]) hcolon
  · obtain ⟨b, hb, hentry⟩ := List.mem_map.mp hmem
    have hb' := OrdMap.mem_toList_iff.mp hb
    obtain ⟨rfl, hsame⟩ := slotEntry_inj hs (hall b.1 b.2 hb')
      (String.toList_inj.mp hentry.symm)
    exact ⟨b.2, hb', hsame⟩

/-! ### The slots of the provider -/

/-- A slot that the provider has staged. -/
structure PlainSlot (s : Slot) : Prop where
  keyIdDigest : ∃ b, s.keyIdDigest = toHex b
  algorithm : algorithmKeySize s.algorithm ≠ 0

/-- The slots are the provider's own, and the ACTIVE ones are of its two purposes. -/
structure PlainState (st : State) : Prop where
  active : ∀ p s, st.active.find? p = some s → p ∈ providerPurposes ∧ PlainSlot s
  staging : ∀ p s, st.staging.find? p = some s → PlainSlot s

/-- The fields and every document are the provider's own. -/
structure PlainWorld (w : World) : Prop where
  mem : PlainState w.prov.state
  docs : ∀ doc ∈ w.disk.state, PlainState doc.state

/-- Every document is the provider's own. -/
def PlainDisk (d : Disk) : Prop := ∀ doc ∈ d.state, PlainState doc.state

/-- An algorithm whose key size is known has a name without separators. -/
private theorem separatorFree_algorithm {alg : String} (h : algorithmKeySize alg ≠ 0) :
    SeparatorFree alg := by
  have hknown : alg = defaultKeyAlgorithm ∨ alg = "AES-256-GCM" ∨ alg = "AES-128-GCM" := by
    unfold algorithmKeySize at h
    split_ifs at h with h₁ h₂ h₃
    · exact .inl h₁
    · exact .inr (.inl h₂)
    · exact .inr (.inr h₃)
    · exact absurd rfl h
  rcases hknown with rfl | rfl | rfl
  · exact separatorFree_of_all (by decide)
  · exact separatorFree_of_all (by decide)
  · exact separatorFree_of_all (by decide)

/-- The ACTIVE slots of a plain document have no separators. -/
theorem PlainState.separated {st : State} (h : PlainState st) {p : String} {s : Slot}
    (hfind : st.active.find? p = some s) : SlotSeparated p s := by
  obtain ⟨hp, ⟨b, hb⟩, halg⟩ := h.active p s hfind
  refine ⟨?_, hb ▸ separatorFree_toHex b, separatorFree_algorithm halg⟩
  rcases mem_providerPurposes.mp hp with rfl | rfl
  · exact separatorFree_of_all (by decide)
  · exact separatorFree_of_all (by decide)

section Runs

variable {P : Platform} {pc : ProviderConfig} {ω : Oracle} {w : World} {st : State}
  {s : ProviderSys}

/-- A plain document may replace the document in memory. -/
theorem PlainWorld.setState (h : PlainWorld w) (hst : PlainState st) :
    PlainWorld (w.setState st) :=
  ⟨hst, h.docs⟩

/-- Counting the answers of the environment keeps a world plain. -/
theorem PlainWorld.asked (h : PlainWorld w) (k : Asked) : PlainWorld { w with asked := k } :=
  ⟨h.mem, h.docs⟩

/-- A staging area may be cleared. -/
theorem PlainState.clear (h : PlainState st) (stagingGeneration : ℕ) :
    PlainState { st with staging := .empty, stagingGeneration } :=
  ⟨h.active, nofun⟩

/-- ACTIVE slots may be dropped. -/
theorem PlainState.drop (h : PlainState st) : PlainState { st with active := .empty } :=
  ⟨nofun, h.staging⟩

/-- A slot of the provider may be staged. -/
theorem PlainState.stage (h : PlainState st) {p : String} {slot : Slot} (hslot : PlainSlot slot)
    (stagingGeneration : ℕ) :
    PlainState { st with staging := st.staging.insert p slot, stagingGeneration } := by
  refine ⟨h.active, fun p' s' hfind => ?_⟩
  rw [OrdMap.find?_insert] at hfind
  split_ifs at hfind with hp
  · exact Option.some.inj hfind ▸ hslot
  · exact h.staging p' s' hfind

/-- A commit moves staged slots. -/
theorem PlainState.committed (h : PlainState st) (macKey : Bytes) {generation : ℕ}
    (hboth : stagedBoth st generation = true) :
    PlainState (committedState P macKey st generation) := by
  obtain ⟨up, down, hup, hdown⟩ := exists_of_stagedBoth hboth
  refine ⟨fun p slot hfind => ?_, nofun⟩
  rw [committedState_find hup hdown] at hfind
  split_ifs at hfind with hp
  · obtain ⟨staged, hstaged, rfl⟩ := Option.map_eq_some_iff.mp hfind
    have hplain := h.staging p staged hstaged
    exact ⟨hp, hplain.keyIdDigest, hplain.algorithm⟩
  · exact h.active p slot hfind

/-- A save writes the fields. -/
private theorem wp_saveState_plain (h : PlainWorld w) :
    Prog.wp (saveState ω) (fun _ w' => PlainWorld w' ∧ w'.prov = w.prov) PlainDisk w := by
  refine wp_saveState h.docs ⟨⟨h.mem, fun doc hdoc => ?_⟩, rfl⟩ fun _ k _ => ⟨h.asked k, rfl⟩
  rcases List.mem_cons.mp hdoc with rfl | hdoc
  · exact h.mem
  · exact h.docs doc hdoc

/-- A change of the fields and its save. -/
private theorem wp_setState_plain (h : PlainWorld w) (hst : PlainState st) :
    Prog.wp (saveState ω) (fun _ w' => PlainWorld w') PlainDisk (w.setState st) :=
  Prog.wp_mono (wp_saveState_plain (h.setState hst)) (fun _ _ h' => h'.1) fun _ => id

/-- Staging a key keeps the world plain: the slot gets a digest and an algorithm of known size. -/
private theorem wp_unwrapToStaging_plain (h : PlainWorld w) (domain : String)
    (item : WrappedKeyItem)
    (params : EnvelopeParameters) (aad info : Bytes) (binding : BusinessKeyDeviceBinding)
    (generation : ℕ) :
    Prog.wp (unwrapToStaging P pc ω domain item params aad info binding generation)
      (fun _ w' => PlainWorld w') PlainDisk w := by
  by_cases hstages : ∃ slot, Stages P pc ω w domain item params aad info binding generation slot
  swap
  · obtain ⟨r, k, hrun⟩ := unwrapToStaging_of_refused (not_exists.mp hstages)
    unfold Prog.wp
    rw [hrun]
    exact h.asked k
  obtain ⟨slot, hslot⟩ := hstages
  obtain ⟨kcv, k, -, hrun⟩ := unwrapToStaging_of_stages hslot
  have hplain : PlainSlot slot := by
    obtain ⟨hadmitted, plain, iv, -, -, rfl⟩ := hslot
    have hchecks := firstReject_eq_none_iff.mp hadmitted
    simp only [unwrapChecks, List.forall_mem_cons, beq_eq_false_iff_ne] at hchecks
    exact ⟨⟨_, rfl⟩, hchecks.2.2.2.2.2.2.2.1⟩
  unfold Prog.wp
  rw [hrun]
  exact Prog.wp_bind.mpr (Prog.wp_bind.mpr (Prog.wp_modify.mpr
    (wp_setState_plain (h.asked k) (h.mem.stage hplain generation))))

/-- A commit keeps it plain, because it only moves staged slots. -/
private theorem wp_commitBatch_plain (h : PlainWorld w) (generation : ℕ) :
    Prog.wp (commitBatch P ω generation) (fun _ w' => PlainWorld w') PlainDisk w := by
  by_cases hreach : CommitReaches w generation
  swap
  · obtain ⟨rc, hrun⟩ := commitBatch_of_refused (P := P) (ω := ω) hreach
    unfold Prog.wp
    rw [hrun]
    exact h
  unfold Prog.wp
  rw [commitBatch_of_reaches hreach]
  refine Prog.wp_bind.mpr (Prog.wp_mono
    (wp_saveState_plain (h.setState (h.mem.committed w.prov.macKey hreach.2.1))) ?_ fun _ => id)
  rintro rc w₁ ⟨h₁, hprov⟩
  split_ifs
  · -- the old ACTIVE slots are put back over a clear staging area
    refine h₁.setState ⟨h.mem.active, ?_⟩
    exact h₁.mem.staging
  · exact ⟨h₁.mem, h₁.docs⟩

/-- A rollback keeps it plain. -/
private theorem wp_rollbackStaging_plain (h : PlainWorld w) (generation : ℕ) :
    Prog.wp (rollbackStaging ω generation) (fun _ w' => PlainWorld w') PlainDisk w := by
  unfold rollbackStaging
  refine Prog.wp_bind.mpr (Prog.wp_gets.mpr ?_)
  split_ifs
  · exact h
  · exact h
  · exact Prog.wp_bind.mpr (Prog.wp_modify.mpr (wp_setState_plain h (h.mem.clear 0)))

/-- Saving a journal entry keeps it plain. -/
private theorem wp_saveJournal_plain (h : PlainWorld w) (e : BusinessKeyJournalEntry) :
    Prog.wp (saveJournal P ω e) (fun _ w' => PlainWorld w') PlainDisk w := by
  unfold saveJournal
  refine Prog.wp_bind.mpr (Prog.wp_gets.mpr ?_)
  split_ifs
  · exact h
  · exact Prog.wp_bind.mpr (Prog.wp_modify.mpr
      (wp_setState_plain h ⟨h.mem.active, h.mem.staging⟩))

/-- Loading the key-encryption key keeps it plain. -/
private theorem wp_loadOrGenerateKek_plain (h : PlainWorld w) (file : Option Bytes) :
    Prog.wp (loadOrGenerateKek ω file) (fun _ w' => PlainWorld w') PlainDisk w := by
  unfold Prog.wp
  cases file with
  | some b =>
    simp only [loadOrGenerateKek, loadKek]
    split_ifs
    · exact h
    · exact ⟨h.mem, h.docs⟩
    · exact ⟨h.mem, h.docs⟩
  | none =>
    simp only [loadOrGenerateKek, generateKek]
    cases ω.kek.random with
    | none => exact ⟨h.mem, h.docs⟩
    | some key =>
      dsimp only
      split_ifs
      · exact ⟨h.mem, h.docs⟩
      · exact h.docs
      · exact ⟨h.mem, h.docs⟩

/-- **A start** loads a document of the provider, or drops its ACTIVE slots. -/
theorem wp_providerInitialize_plain (h : PlainWorld w) :
    Prog.wp (providerInitialize P ω) (fun _ w' => PlainWorld w') PlainDisk w := by
  unfold providerInitialize
  split
  · exact h
  · rename_i ready _
    have hopened : PlainWorld { w with prov.store := some ready } := ⟨h.mem, h.docs⟩
    refine Prog.wp_bind.mpr (Prog.wp_modify.mpr ?_)
    split
    · exact hopened
    · refine Prog.wp_bind.mpr (Prog.wp_gets.mpr (Prog.wp_bind.mpr (Prog.wp_mono
        (wp_loadOrGenerateKek_plain hopened _) (fun rc w₁ h₁ => ?_) fun _ => id)))
      split
      · exact h₁
      · have hload : Prog.wp (loadState ω) (fun _ w' => PlainWorld w') PlainDisk
            { w₁ with prov.macKey := deriveMacKey P w₁.prov.kek } := by
          unfold Prog.wp loadState
          split
          · exact ⟨h₁.mem, h₁.docs⟩
          · dsimp only
            split
            · exact ⟨h₁.mem, h₁.docs⟩
            · rename_i doc rest hdocs
              split
              · exact ⟨h₁.mem, h₁.docs⟩
              · exact ⟨h₁.docs doc (hdocs ▸ List.mem_cons_self ..), h₁.docs⟩
        refine Prog.wp_bind.mpr (Prog.wp_modify.mpr (Prog.wp_bind.mpr (Prog.wp_mono hload
          (fun rc w₂ h₂ => ?_) fun _ => id)))
        split
        · exact h₂
        · refine Prog.wp_bind.mpr (?_ : Prog.wp (checkCommitMarker P) _ _ w₂)
          refine ⟨?_, h₂.docs⟩
          dsimp only
          split
          · exact h₂.mem.drop
          · exact h₂.mem

/-- A process that starts, or has died. -/
theorem PlainDisk.start {d : Disk} (h : PlainDisk d) (hsm : Bool) (bootNonce : ℕ) :
    PlainWorld (bootWorld d hsm bootNonce) :=
  ⟨⟨nofun, nofun⟩, h⟩

/-- A call that is not `init`. -/
private theorem plainWorld_settle {α : Type} {m : SecM α} (code : α → ErrorCode)
    (hm : Prog.wp m (fun _ w' => PlainWorld w') PlainDisk w) :
    PlainWorld (s.settle code (m w)).1.world := by
  unfold Prog.wp at hm
  cases hrun : m w with
  | done a w' =>
    rw [hrun] at hm
    exact hm
  | crashed d =>
    rw [hrun] at hm
    exact PlainDisk.start hm false 0

/-- **One step.** -/
theorem plainWorld_step (h : PlainWorld s.world) (l : ProviderLabel) :
    PlainWorld ((provider P pc).step s l).1.world := by
  have hw := h.asked {}
  obtain ⟨call, ω⟩ := l
  cases call with
  | boot hsm => exact PlainDisk.start hw.docs hsm 0
  | init =>
    have hrun := wp_providerInitialize_plain (P := P) (ω := ω) hw
    rw [provider_step_init]
    cases hm : providerInitialize P ω { s.world with asked := {} } with
    | done rc w' => exact Prog.wp_done (Q := fun _ w' => PlainWorld w') hrun hm
    | crashed d => exact PlainDisk.start (Prog.wp_crashed hrun hm) false 0
  | unwrapToStaging domain item params aad info binding generation =>
    exact plainWorld_settle (·.1) (wp_unwrapToStaging_plain hw _ _ _ _ _ _ _)
  | commitBatch generation => exact plainWorld_settle id (wp_commitBatch_plain hw generation)
  | rollbackStaging generation =>
    exact plainWorld_settle id (wp_rollbackStaging_plain hw generation)
  | saveJournal entry => exact plainWorld_settle id (wp_saveJournal_plain hw entry)
  | storeReady ready => exact ⟨hw.mem, hw.docs⟩

/-- **Runs.** Whatever is called and whatever fails, every slot in memory and on disk is the
provider's own. -/
theorem plain_run (P : Platform) (pc : ProviderConfig) (ls : List ProviderLabel) :
    PlainWorld ((provider P pc).run ProviderSys.new ls).world := by
  refine Machine.run_invariant (M := provider P pc) (c := fun _ _ => True)
    (I := fun s => PlainWorld s.world) (fun s l h _ => plainWorld_step h l) ?_
    (Machine.along_true _ _ _)
  exact ⟨⟨nofun, nofun⟩, nofun⟩

end Runs

end TboxSec.Keyprov
