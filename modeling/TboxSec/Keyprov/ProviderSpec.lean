import TboxSec.Keyprov.Abstraction

/-!
# The provider's operations over the protocol

One simulation triple for each operation of the provider that writes. Staging, verification
and rollback do not move the document of the protocol at all; a journal save moves it by the
record it writes; a commit that takes effect is the protocol's commit, and a commit whose save
fails is nothing.

* `SameDoc` and `SameStage` say what an operation has left alone of the document and of the
  staging area.
* `saveJournal_triple`, `rollbackStaging_triple`, `unwrapToStaging_triple` and
  `commitBatch_triple` are the simulation triples. Each covers a crash at every write, too.
* `StagedFor` is what the stage of a pipeline knows of its batch; a commit turns it into the
  ACTIVE slots of the document.
-/

namespace TboxSec.Keyprov

open Canonical Crash Journal Crash.Simulation

variable {D : Deployment} {M : Set ImportRequest} {π : KPolicy} {K : Bytes} {ω : Oracle}
  {w : World} {s : KSys}

/-! ### Saving -/

/-- What a save can do: nothing durable, the write, or a refusal. -/
theorem wp_saveState {Q : ErrorCode → World → Prop} {C : Disk → Prop} (hcrash : C w.disk)
    (hok : Q .success w.saved) (hfail : ∀ rc k, rc ≠ .success → Q rc { w with asked := k }) :
    Prog.wp (saveState ω) Q C w := by
  unfold Prog.wp saveState
  split
  · exact hfail _ w.asked (by decide)
  · split
    · exact hok
    · exact hfail _ _ (by decide)
    · exact hfail _ _ (by decide)
    · exact hcrash

/-- A step that leaves the document, the work in progress and the posting alone. -/
structure SameDoc (s s' : KSys) : Prop where
  mem : s'.mem = s.mem
  busy : s'.busy = s.busy
  posted : s'.posted = s.posted

theorem SameDoc.refl (s : KSys) : SameDoc s s := ⟨rfl, rfl, rfl⟩

/-- What the writing of the journal leaves alone. -/
structure SameStage (w w' : World) : Prop where
  svc : w'.svc = w.svc
  hsm : w'.prov.hsm = w.prov.hsm
  staging : w'.prov.state.staging = w.prov.state.staging
  stagingGeneration : w'.prov.state.stagingGeneration = w.prov.state.stagingGeneration

theorem SameStage.trans {w₁ w₂ w₃ : World} (h : SameStage w₁ w₂) (h' : SameStage w₂ w₃) :
    SameStage w₁ w₃ :=
  ⟨h'.svc.trans h.svc, h'.hsm.trans h.hsm, h'.staging.trans h.staging,
    h'.stagingGeneration.trans h.stagingGeneration⟩

/-- A save of a live daemon: the document may be written, nothing else happens. -/
private theorem saveState_triple (h : Live D M K w s) :
    (simulation D M π K).Triple s w (saveState ω)
      (fun _ w' s' => SameDoc s s' ∧ w'.prov = w.prov ∧ w'.svc = w.svc) := by
  refine wp_saveState ⟨s, .refl, h.disk⟩ ?_ fun rc k _ => ?_
  · exact ⟨s.flush, .single (.flush h.loaded), h.saved, ⟨rfl, rfl, rfl⟩, rfl, rfl⟩
  · exact ⟨s, .refl, h.asked k, .refl s, rfl, rfl⟩

/-! ### The journal -/

/-- A record may be set if a pending record of the next generation stays one. -/
theorem HasOpen.put {m : KDoc} (h : HasOpen m) {r : String} {e : BusinessKeyJournalEntry}
    (he : ∀ e₀, m.entry r = some e₀ → phaseStatus e₀.phase = .pending →
      e₀.generation = m.gen + 1 → phaseStatus e.phase = .pending ∧ e.generation = m.gen + 1) :
    HasOpen (m.put r e) := by
  obtain ⟨x, e₀, he₀, hp₀, hg₀⟩ := h
  by_cases hx : x = r
  · subst hx
    exact ⟨x, e, Doc.put_entry_self .., he e₀ he₀ hp₀ hg₀⟩
  · exact ⟨x, e₀, by rw [Doc.put_entry_of_ne _ _ hx]; exact he₀, hp₀, hg₀⟩

/-- Setting an authentic record. -/
theorem StateSim.journal {st : State} {m : KDoc} (h : StateSim D M K st m)
    {e : BusinessKeyJournalEntry} (hitems : (e.items.map (·.purpose)).Nodup)
    (hphase : e.phase ≠ .rollingBack)
    (hopen : ∀ p slot, st.staging.find? p = some slot → HasOpen (m.put e.requestIdDigest e)) :
    StateSim D M K
      { st with
        journal := st.journal.insert e.requestIdDigest
          ⟨e, journalMac D.platform (macKeyOf D K) e⟩ }
      (m.put e.requestIdDigest e) where
  gen := h.gen
  entry r := by
    by_cases hr : r = e.requestIdDigest
    · subst hr
      rw [OrdMap.find?_insert_self, Doc.put_entry_self]
      rfl
    · rw [OrdMap.find?_insert_of_ne hr, Doc.put_entry_of_ne _ _ hr]
      exact h.entry r
  stored r js hjs := by
    by_cases hr : r = e.requestIdDigest
    · subst hr
      rw [OrdMap.find?_insert_self] at hjs
      rw [← Option.some.inj hjs]
      exact ⟨rfl, rfl, hitems, hphase⟩
    · rw [OrdMap.find?_insert_of_ne hr] at hjs
      exact h.stored r js hjs
  slot := h.slot
  noSlot := h.noSlot
  unmarked := h.unmarked
  marked := h.marked
  both := h.both
  staging := h.staging
  opened p slot hp := ⟨(h.opened p slot hp).1, hopen p slot hp⟩
  source := h.source

/-- **A journal save** moves the document in memory by its record, whatever becomes of the
write. The ghost steps that license the record are the caller's. -/
theorem saveJournal_triple (h : Live D M K w s) {e : BusinessKeyJournalEntry}
    (hitems : (e.items.map (·.purpose)).Nodup) (hphase : e.phase ≠ .rollingBack)
    (hopen : ∀ p slot, w.prov.state.staging.find? p = some slot →
      HasOpen (s.mem.put e.requestIdDigest e)) {s₁ : KSys}
    (hpath : (simulation D M π K).Path s s₁) (hmem : s₁.mem = s.mem.put e.requestIdDigest e)
    (hlog : s₁.log = s.log) (hposted : s₁.posted = s.posted) (hloaded : s₁.loaded = s.loaded) :
    (simulation D M π K).Triple s w (saveJournal D.platform ω e)
      (fun _ w' s' => SameDoc s₁ s' ∧ SameStage w w') := by
  unfold saveJournal
  refine Triple.gets_bind ?_
  rw [if_neg (by simp [h.ready])]
  refine Triple.modify_bind ?_
  have hlive : Live D M K (w.setState
      { w.prov.state with
        journal := w.prov.state.journal.insert e.requestIdDigest
          ⟨e, journalMac D.platform w.prov.macKey e⟩ }) s₁ := by
    refine h.setState ?_ hlog hposted hloaded
    rw [hmem, h.macKey]
    exact h.mem.journal hitems hphase hopen
  refine (Triple.ghost hpath (saveState_triple hlive)).mono ?_
  rintro rc w' s' - - ⟨hsame, hprov, hsvc⟩
  refine ⟨hsame, hsvc, ?_, ?_, ?_⟩
  · rw [hprov]; rfl
  · rw [hprov]; rfl
  · rw [hprov]; rfl

/-! ### Staging -/

/-- The staging area takes no part in the document, as long as it holds required purposes of
an open record. -/
theorem StateSim.setStaging {st : State} {m : KDoc} (h : StateSim D M K st m)
    {staging : OrdMap String Slot} (gen : ℕ)
    (hstaging : ∀ p slot, staging.find? p = some slot → p ∈ D.service.requiredPurposes)
    (hopen : ∀ p slot, staging.find? p = some slot → gen = m.gen + 1 ∧ HasOpen m) :
    StateSim D M K { st with staging, stagingGeneration := gen } m :=
  ⟨h.gen, h.entry, h.stored, h.slot, h.noSlot, h.unmarked, h.marked, h.both, hstaging, hopen,
    h.source⟩

/-- An empty staging area is always right. -/
private theorem StateSim.clearStaging {st : State} {m : KDoc} (h : StateSim D M K st m) :
    StateSim D M K { st with staging := .empty, stagingGeneration := 0 } m :=
  h.setStaging 0 (fun p slot hp => (by cases hp)) fun p slot hp => (by cases hp)

/-- **A rollback** does not move the document, and under the next generation it leaves nothing
in the staging area. -/
theorem rollbackStaging_triple (h : Live D M K w s) (generation : ℕ) :
    (simulation D M π K).Triple s w (rollbackStaging ω generation)
      (fun _ w' s' => SameDoc s s' ∧ w'.svc = w.svc ∧ w'.prov.hsm = w.prov.hsm ∧
        (generation = s.mem.gen + 1 → ∀ p, w'.prov.state.staging.find? p = none)) := by
  unfold rollbackStaging
  refine Triple.gets_bind ?_
  rw [if_neg (by simp [h.ready])]
  split
  · rename_i hother
    refine Triple.pure h ⟨.refl s, rfl, rfl, fun hgen p => ?_⟩
    cases hp : w.prov.state.staging.find? p with
    | none => rfl
    | some slot => exact absurd (((h.mem.opened p slot hp).1).trans hgen.symm) hother.2
  · refine Triple.modify_bind ?_
    have hlive : Live D M K (w.setState
        { w.prov.state with staging := .empty, stagingGeneration := 0 }) s :=
      h.setState h.mem.clearStaging rfl rfl rfl
    refine (saveState_triple hlive).mono ?_
    rintro rc w' s' - - ⟨hsame, hprov, hsvc⟩
    refine ⟨hsame, hsvc, by rw [hprov]; rfl, fun _ p => ?_⟩
    rw [hprov]
    rfl

/-- The check value of a key the HSM unwrapped with this HKDF info. -/
def KcvOf (D : Deployment) (hkdfInfo : Bytes) (kcv : Kcv) : Prop :=
  ∃ req seed plain, D.platform.unwrap req seed = (.success, plain) ∧ req.hkdfInfo = hkdfInfo ∧
    kcv = computeKcv D.platform.crypto plain

theorem Unwrapped.kcvOf {item : WrappedKeyItem} {params : EnvelopeParameters} {aad info : Bytes}
    {binding : BusinessKeyDeviceBinding} {plain : Bytes}
    (h : Unwrapped D.platform item params aad info binding plain) :
    KcvOf D info (computeKcv D.platform.crypto plain) := by
  obtain ⟨seed, hseed⟩ := h.hsm
  exact ⟨_, seed, plain, hseed, rfl, rfl⟩

/-- The HSM call changes nothing, and an accepted key is what the HSM gave for the item. -/
theorem wp_unwrapKey {P : Platform} {item : WrappedKeyItem} {params : EnvelopeParameters}
    {aad info : Bytes} {binding : BusinessKeyDeviceBinding}
    {Q : Except ErrorCode (Bytes × Kcv) → World → Prop} {C : Disk → Prop}
    (herr : ∀ rc k, rc ≠ .success → Q (.error rc) { w with asked := k })
    (hok : ∀ plain k,
      P.unwrap (unwrapRequest item params aad info binding) (ω.unwrapSeed w.asked.unwraps) =
        (.success, plain) →
      Unwrapped P item params aad info binding plain →
      Q (.ok (plain, computeKcv P.crypto plain)) { w with asked := k }) :
    Prog.wp (unwrapKey P ω item params aad info binding) Q C w := by
  unfold unwrapKey
  rw [Prog.wp_bind]
  unfold Prog.wp hsmUnwrap
  simp only [Outcome.meets_done]
  generalize hans : P.unwrap _ _ = ans
  obtain ⟨rc, plain⟩ := ans
  change Prog.wp (if _ then _ else _) Q C _
  by_cases hrc : rc ≠ .success
  · rw [if_pos hrc]
    exact herr _ _ (by split_ifs <;> decide)
  rw [if_neg hrc]
  by_cases hlen : plain.length ≠ algorithmKeySize item.algorithm
  · rw [if_pos hlen]
    exact herr _ _ (by decide)
  rw [if_neg hlen]
  by_cases hkcv : item.keyCheckValuePresent = true ∧
      computeKcv P.crypto plain ≠ item.keyCheckValue
  · rw [if_pos hkcv]
    exact herr _ _ (by decide)
  rw [if_neg hkcv]
  rw [not_not.mp hrc] at hans
  exact hok plain _ hans ⟨⟨_, hans⟩, not_not.mp hlen, fun hp => by_contra fun hne => hkcv ⟨hp, hne⟩⟩

/-- The encryption of a slot key takes an IV and changes nothing. -/
private theorem wp_encryptSlotKey {domain purpose : String} {slot : Slot} {plain : Bytes}
    {Q : Except ErrorCode String → World → Prop} {C : Disk → Prop}
    (herr : ∀ rc k, rc ≠ .success → Q (.error rc) { w with asked := k })
    (hok : ∀ iv k, Q (.ok (toHex (D.platform.crypto.gcmSeal w.prov.kek
      (textBytes (slotAad domain purpose slot)) iv plain))) { w with asked := k }) :
    Prog.wp (encryptSlotKey D.platform ω domain purpose slot plain) Q C w := by
  unfold Prog.wp encryptSlotKey
  simp only
  split
  · exact herr _ _ (by decide)
  · exact hok _ _

private theorem ne_success_of_unwrapChecks {prov : Provider} {item : WrappedKeyItem}
    {binding : BusinessKeyDeviceBinding} {rc : ErrorCode}
    (h : firstReject (unwrapChecks D.provider prov item binding) = some rc) : rc ≠ .success := by
  have hmem := exists_of_firstReject_eq_some h
  rintro rfl
  simp [unwrapChecks] at hmem

/-- **Staging an item** does not move the document; a success leaves the item's slot in the
staging area, with the key the HSM gave for the item. -/
theorem unwrapToStaging_triple (h : Live D M K w s) {domain : String} {item : WrappedKeyItem}
    {params : EnvelopeParameters} {aad info : Bytes} {binding : BusinessKeyDeviceBinding}
    {generation : ℕ} (hp : item.purpose ∈ D.service.requiredPurposes)
    (hgen : generation = s.mem.gen + 1) (hopen : HasOpen s.mem) :
    (simulation D M π K).Triple s w
      (unwrapToStaging D.platform D.provider ω domain item params aad info binding generation)
      (fun r w' s' => SameDoc s s' ∧ w'.svc = w.svc ∧ w'.prov.hsm = w.prov.hsm ∧
        (r.1 = .success → ∃ plain iv, Unwrapped D.platform item params aad info binding plain ∧
          r.2 = computeKcv D.platform.crypto plain ∧
          w'.prov.state.stagingGeneration = generation ∧
          w'.prov.state.staging = w.prov.state.staging.insert item.purpose
            { stagedSlot D.platform item generation with
              keyEncHex := toHex (D.platform.crypto.gcmSeal K (textBytes
                (slotAad domain item.purpose (stagedSlot D.platform item generation))) iv
                plain) })) := by
  unfold unwrapToStaging
  refine Triple.gets_bind ?_
  split
  · rename_i rc hrc
    refine Triple.pure h ⟨.refl s, rfl, rfl, fun hs => ?_⟩
    exact absurd hs (ne_success_of_unwrapChecks hrc)
  · refine Prog.wp_bind.mpr (wp_unwrapKey ?_ ?_)
    · intro rc k hrc
      exact Triple.pure (h.asked k) ⟨.refl s, rfl, rfl, fun hs => absurd hs hrc⟩
    · rintro plain k - hplain
      refine Prog.wp_bind.mpr (wp_encryptSlotKey ?_ ?_)
      · intro rc k' hrc
        exact Triple.pure ((h.asked k).asked k') ⟨.refl s, rfl, rfl, fun hs => absurd hs hrc⟩
      · intro iv k'
        refine Triple.modify_bind ?_
        have hkek := h.kek
        subst hkek
        -- only required purposes are ever staged
        have hstaging : ∀ slot p slot',
            (w.prov.state.staging.insert item.purpose slot).find? p = some slot' →
            p ∈ D.service.requiredPurposes := by
          intro slot p slot' hfind
          by_cases hpi : p = item.purpose
          · exact hpi ▸ hp
          · rw [OrdMap.find?_insert_of_ne hpi] at hfind
            exact h.mem.staging p slot' hfind
        refine Triple.bind (saveState_triple (((h.asked k).asked k').setState
          (h.mem.setStaging generation (hstaging _) fun _ _ _ => ⟨hgen, hopen⟩) rfl rfl rfl)) ?_
        rintro rc w' s' - hlive' ⟨hsame, hprov, hsvc⟩
        refine Triple.pure hlive' ⟨hsame, hsvc, by rw [hprov]; rfl, fun _ =>
          ⟨plain, iv, hplain, rfl, ?_, ?_⟩⟩
        · rw [hprov]; rfl
        · rw [hprov]; rfl

/-! ### The commit -/

private theorem purposeUplink_ne_purposeDownlink : purposeUplink ≠ purposeDownlink := by decide

theorem mem_providerPurposes {p : String} :
    p ∈ providerPurposes ↔ p = purposeUplink ∨ p = purposeDownlink := by
  simp [providerPurposes]

/-- Both purposes are staged when the commit goes ahead. -/
theorem exists_of_stagedBoth {st : State} {generation : ℕ} (h : stagedBoth st generation = true) :
    ∃ up down, st.staging.find? purposeUplink = some up ∧
      st.staging.find? purposeDownlink = some down := by
  simp only [stagedBoth, providerPurposes, List.all_cons, List.all_nil, Bool.and_true,
    Bool.and_eq_true] at h
  obtain ⟨hup, hdown⟩ := h
  cases hu : st.staging.find? purposeUplink with
  | none => rw [hu] at hup; cases hup
  | some up =>
    cases hd : st.staging.find? purposeDownlink with
    | none => rw [hd] at hdown; cases hdown
    | some down => exact ⟨up, down, rfl, rfl⟩

/-- The slots after a commit: the staged ones for the two purposes, the old ones otherwise. -/
theorem committedState_find {P : Platform} {macKey : Bytes} {st : State} {generation : ℕ}
    {up down : Slot} (hup : st.staging.find? purposeUplink = some up)
    (hdown : st.staging.find? purposeDownlink = some down) (p : String) :
    (committedState P macKey st generation).active.find? p =
      if p ∈ providerPurposes then
        (st.staging.find? p).map fun slot => { slot with generation }
      else st.active.find? p := by
  have hactive : (committedState P macKey st generation).active =
      (st.active.insert purposeUplink { up with generation }).insert purposeDownlink
        { down with generation } := by
    simp [committedState, providerPurposes, hup, hdown]
  rw [hactive, OrdMap.find?_insert, OrdMap.find?_insert]
  by_cases hd : p = purposeDownlink
  · subst hd
    simp [mem_providerPurposes, hdown]
  · by_cases hu : p = purposeUplink
    · subst hu
      simp [mem_providerPurposes, hup, purposeUplink_ne_purposeDownlink]
    · simp [mem_providerPurposes, hd, hu]

/-- What a pending record must have in the staging area when its batch is committed: the keys
of the request `q` it was made for. -/
structure StagedFor (D : Deployment) (K : Bytes) (st : State) (q : ImportRequest)
    (e : BusinessKeyJournalEntry) : Prop where
  slots : ∀ p i, batchOf e.items p = some i →
    ∃ slot, st.staging.find? p = some slot ∧ SlotSim D K e.generation p slot i ∧
      ∃ it ∈ q.items, it.purpose = p ∧ SlotOf D K q it slot
  shaped : (scheme D).Shaped (batchOf e.items)
  purposes : ∀ p ∈ D.service.requiredPurposes, p ∈ providerPurposes

/-- The fields after a commit stand for the document after it. -/
theorem StateSim.committed {st : State} {m : KDoc} (h : StateSim D M K st m)
    (hm : DocInv (scheme D) m) {e : BusinessKeyJournalEntry} {q : ImportRequest} (hq : q ∈ M)
    (hstaged : StagedFor D K st q e) (hboth : stagedBoth st e.generation = true)
    (hpos : 0 < e.generation) :
    StateSim D M K (committedState D.platform (macKeyOf D K) st e.generation)
      (m.committed (scheme D) e) := by
  obtain ⟨up, down, hup, hdown⟩ := exists_of_stagedBoth hboth
  -- both purposes were staged, and nothing else can be, so they are the required ones
  have hiff : ∀ p, p ∈ D.service.requiredPurposes ↔ p ∈ providerPurposes := by
    intro p
    refine ⟨hstaged.purposes p, fun hp => ?_⟩
    rcases mem_providerPurposes.mp hp with rfl | rfl
    · exact h.staging _ _ hup
    · exact h.staging _ _ hdown
  -- a staged slot carries the generation of the commit already, so it is moved as it is
  have hmoved : ∀ p i, batchOf e.items p = some i → ∃ slot,
      (committedState D.platform (macKeyOf D K) st e.generation).active.find? p = some slot ∧
      SlotSim D K e.generation p slot i ∧
        ∃ it ∈ q.items, it.purpose = p ∧ SlotOf D K q it slot := by
    intro p i hi
    have hp : p ∈ providerPurposes := (hiff p).mp ((hstaged.shaped p).mp (by rw [hi]; rfl))
    obtain ⟨slot, hslot, hsim, hof⟩ := hstaged.slots p i hi
    refine ⟨slot, ?_, hsim, hof⟩
    rw [committedState_find hup hdown, if_pos hp, hslot, ← hsim.gen]
    rfl
  have hempty : ∀ p, batchOf e.items p = none →
      (committedState D.platform (macKeyOf D K) st e.generation).active.find? p = none := by
    intro p hp
    have hnot : p ∉ D.service.requiredPurposes := by
      intro hreq
      have := (hstaged.shaped p).mpr hreq
      rw [show batchOf e.items p = none from hp] at this
      cases this
    rw [committedState_find hup hdown, if_neg (fun hp' => hnot ((hiff p).mpr hp'))]
    refine h.noSlot p ?_
    rcases Nat.eq_zero_or_pos m.gen with h0 | h0
    · rw [hm.blank h0]
    · rw [← Option.not_isSome_iff_eq_none]
      exact fun hs => hnot ((hm.shaped h0 p).mp hs)
  refine ⟨rfl, h.entry, h.stored, fun p i hi => ?_, hempty, fun h0 => ?_, fun _ => rfl,
    fun _ => hiff, fun p slot hp => (by cases hp), fun p slot hp => (by cases hp),
    fun _ => ⟨q, hq, fun p slot hslot => ?_⟩⟩
  · obtain ⟨slot, hslot, hsim, -⟩ := hmoved p i hi
    exact ⟨slot, hslot, hsim⟩
  · change e.generation = 0 at h0
    omega
  · cases hi : batchOf e.items p with
    | none =>
      rw [hempty p hi] at hslot
      cases hslot
    | some i =>
      obtain ⟨slot', hslot', -, hof⟩ := hmoved p i hi
      rw [hslot] at hslot'
      rwa [Option.some.inj hslot']

/-- A commit of a newer batch is a commit that grows. -/
private theorem grown_of_committed {old new : State} {m : KDoc} {e : BusinessKeyJournalEntry}
    (hold : StateSim D M K old m) (hnew : StateSim D M K new (m.committed (scheme D) e))
    (hshaped : (scheme D).Shaped (batchOf e.items))
    (hnewer : (scheme D).Newer (batchOf e.items) m.active) (hg : e.generation = m.gen + 1) :
    Grown old new := by
  have hgen : new.generation = e.generation := hnew.gen
  refine ⟨by rw [hold.gen, hgen]; omega, fun p hp => ?_⟩
  have hpos : 0 < (m.committed (scheme D) e).gen := by
    change 0 < e.generation
    omega
  obtain ⟨i, hi⟩ := Option.isSome_iff_exists.mp ((hshaped p).mpr ((hnew.both hpos p).mpr hp))
  obtain ⟨slot, hslot, hsim⟩ := hnew.slot p i hi
  refine ⟨slot, hslot, fun slot₀ hslot₀ => ?_⟩
  obtain ⟨j, hj, hsim₀⟩ := hold.slot_of_find hslot₀
  rw [hsim₀.version, hsim.version]
  exact hnewer p i j hi hj

/-- **The commit.** A success is the protocol's commit of the record being worked on; an error
leaves the document as it was. -/
theorem commitBatch_triple (h : Live D M K w s) (hinv : Inv (scheme D) s)
    {e : BusinessKeyJournalEntry} (hb : s.busy = some e.requestIdDigest)
    (he : s.mem.entry e.requestIdDigest = some e) (hp : phaseStatus e.phase = .pending)
    (hg : e.generation = s.mem.gen + 1) {q : ImportRequest} (hq : q ∈ M)
    (hstaged : StagedFor D K w.prov.state q e) :
    (simulation D M π K).Triple s w (commitBatch D.platform ω e.generation)
      (fun rc w' s' => w'.svc = w.svc ∧ w'.prov.hsm = w.prov.hsm ∧ s'.busy = s.busy ∧
        s'.posted = s.posted ∧
        (rc = .success → s'.mem = s.mem.committed (scheme D) e) ∧
        (rc ≠ .success → s'.mem = s.mem)) := by
  unfold commitBatch
  refine Triple.gets_bind ?_
  rw [if_neg (by simp [h.ready])]
  split
  · exact Triple.pure h ⟨rfl, rfl, rfl, rfl, fun hs => (by cases hs), fun _ => rfl⟩
  · rename_i hboth
    split
    · exact Triple.pure h ⟨rfl, rfl, rfl, rfl, fun hs => (by cases hs), fun _ => rfl⟩
    · refine Triple.modify_bind ?_
      have hsim := h.mem.committed hinv.mem hq hstaged (by simpa using hboth) (by omega)
      have hcommit : Step (scheme D) π s
          (s.withMem (s.mem.committed (scheme D) e)).flush := .commit h.loaded hb he hp hg
      have hlive : Live D M K (w.setState
          (committedState D.platform w.prov.macKey w.prov.state e.generation))
          (s.withMem (s.mem.committed (scheme D) e)) := by
        refine h.setState ?_ rfl rfl rfl
        rw [h.macKey]
        exact hsim
      refine Prog.wp_bind.mpr (wp_saveState ⟨s, .refl, h.disk⟩ ?_ fun rc k hrc => ?_)
      · -- the save took effect: this is the step of the protocol
        have hgrown := grown_of_committed h.mem hlive.mem hstaged.shaped
          (hinv.busy _ e hb he hp hg) hg
        rw [if_neg (by simp)]
        refine Triple.ghost (.single hcommit) (Triple.modify_bind (Triple.pure ?_
          ⟨rfl, rfl, rfl, rfl, fun _ => rfl, fun hs => absurd rfl hs⟩))
        have hsaved := hlive.saved
        refine ⟨⟨hsaved.disk.docs, hsaved.disk.key, hsaved.disk.kek, hsaved.disk.unkeyed,
          hsaved.disk.ledger, fun c hc => ?_⟩, hsaved.mem, hsaved.keyed, hsaved.ready,
          hsaved.loaded, hsaved.kek, hsaved.macKey, hsaved.version, hsaved.ledger⟩
        rcases List.mem_cons.mp hc with rfl | hc
        · exact ⟨hgrown, _, List.mem_cons_self .., rfl⟩
        · exact hsaved.disk.commits c hc
      · -- the save failed, and the old slots are put back
        rw [if_pos hrc]
        refine Triple.modify_bind ?_
        refine Triple.pure ?_ ⟨rfl, rfl, rfl, rfl, fun hs => absurd hs hrc, fun _ => rfl⟩
        exact (h.asked k).setState h.mem.clearStaging rfl rfl rfl

end TboxSec.Keyprov
