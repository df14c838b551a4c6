import TboxSec.Keyprov.CommitMarker

/-!
# Tampered ACTIVE slots

Somebody without the key-encryption key edits the state document. What protects an ACTIVE slot is
split in two: the commit marker is over its version, the digest of its key id, its algorithm and
its generation; the tag of its encrypted key is over the domain, the purpose, the version and the
generation. **Nothing is over its validity**, and the two halves hang together only by the version
and the generation.

`active_tamper_evidence_iff` says which edits `initialize` and `querySlot` do not see through:

* an edit of `valid_from_ms` or `valid_to_ms`;
* an encrypted key of an earlier batch for the same domain, purpose, version and generation (a
  batch that was rolled back);
* the ACTIVE slots of an earlier commit under its marker;
* texts with separators, so that one slot reads like two.

The forger is a symbolic one (`Unforged`): a marker that verifies is over a text that the provider
has put under one, and an encrypted key that opens was sealed by the provider for the same text.
-/

namespace TboxSec.Keyprov

open Canonical Crash

/-! ### Evidence -/

/-- What `querySlot` reports of a slot whose key opens. -/
def activeReport (s : Slot) : BusinessKeySlotInfo :=
  { present := true
    businessKeyVersion := s.version
    keyIdDigest := s.keyIdDigest
    algorithm := s.algorithm
    validFromMs := s.validFromMs
    validToMs := s.validToMs
    activeGeneration := s.generation
    state := .active }

/-- The key of an ACTIVE slot, as the provider decrypts it. -/
def activeKey (P : Platform) (prov : Provider) (domain p : String) :
    Option (Except ErrorCode Bytes) :=
  (prov.state.active.find? p).map (decryptSlotKey P prov.kek domain p)

/-- **Tamper evidence**: whatever is reported ACTIVE, in whatever domain it is asked for, is
reported with the fields of the slot in `committed`, and has its key. -/
def TamperEvident (P : Platform) (committed : State) (prov : Provider) : Prop :=
  ∀ domain p, (querySlot P prov domain p).2.state = .active →
    ∃ s₀, committed.active.find? p = some s₀ ∧
      (querySlot P prov domain p).2 = activeReport s₀ ∧
      activeKey P prov domain p = some (decryptSlotKey P prov.kek domain p s₀)

/-- The marker of a document verifies. -/
def MarkerVerifies (P : Platform) (macKey : Bytes) (st : State) : Prop :=
  st.commitMarker = computeCommitMarker P macKey st.generation st.active

/-- A slot of one of the documents, ACTIVE or staged. -/
def Disk.HasSlot (d : Disk) (p : String) (s : Slot) : Prop :=
  ∃ doc ∈ d.state, doc.state.active.find? p = some s ∨ doc.state.staging.find? p = some s

/-- Both slots have the same encrypted key for the same domain, purpose, version and
generation. -/
def SameSealed (domain p : String) (s : Slot) (domain' p' : String) (s' : Slot) : Prop :=
  hexToBytes s'.keyEncHex = hexToBytes s.keyEncHex ∧ slotAad domain' p' s' = slotAad domain p s

/-- **An edit made without the keys.** The writer has seen every document on the disk, and what
verifies under the keys was made by the provider:

* the MAC key is used for markers and for records of the journal, so a marker that verifies is
  over a text of a document or over a record;
* the key-encryption key is used for slots, so what opens was sealed for the same text. -/
structure Unforged (P : Platform) (d : Disk) (prov : Provider) (st : State) : Prop where
  marker : MarkerVerifies P prov.macKey st →
    (∃ doc ∈ d.state, commitMarkerText doc.state.generation doc.state.active =
      commitMarkerText st.generation st.active) ∨
    ∃ e, P.dump (journalEntryJson e) = textBytes (commitMarkerText st.generation st.active)
  keys : ∀ domain p s plain, st.active.find? p = some s →
    decryptSlotKey P prov.kek domain p s = .ok plain →
      ∃ domain' p' s', d.HasSlot p' s' ∧ SameSealed domain p s domain' p' s'

/-- A written JSON object begins with a brace. -/
def DumpsObjects (P : Platform) : Prop :=
  ∀ fields, (P.dump (.obj fields)).head? = some 0x7b

/-- What an edit has left alone around the slot `s` of the purpose `p`. -/
structure SlotUntampered (P : Platform) (d : Disk) (committed st : State) (kek : Bytes)
    (domain p : String) (s : Slot) : Prop where
  /-- No separator was put into a text of the slot. -/
  separated : SlotSeparated p s
  /-- The marker is not that of an earlier commit that had other data under the purpose. -/
  marked : ∀ doc ∈ d.state, commitMarkerText doc.state.generation doc.state.active =
      commitMarkerText st.generation st.active →
    ∃ s₁ s₀, doc.state.active.find? p = some s₁ ∧ committed.active.find? p = some s₀ ∧
      SameMarked s₁ s₀
  /-- The validity is as it was committed. -/
  validity : ∀ s₀, committed.active.find? p = some s₀ →
    s.validFromMs = s₀.validFromMs ∧ s.validToMs = s₀.validToMs
  /-- The encrypted key is not that of another key, sealed before for the same text. -/
  sealed : ∀ domain' p' s', d.HasSlot p' s' → SameSealed domain p s domain' p' s' →
    ∀ s₀, committed.active.find? p = some s₀ →
      decryptSlotKey P kek domain' p' s' = decryptSlotKey P kek domain p s₀

/-- **What an edit must leave alone**: it breaks the marker, or around every slot whose key still
opens it has left alone what nothing protects. -/
def Untampered (P : Platform) (d : Disk) (committed st : State) (prov : Provider) : Prop :=
  MarkerVerifies P prov.macKey st →
    ∀ domain p s plain, st.active.find? p = some s → s.present = true →
      decryptSlotKey P prov.kek domain p s = .ok plain →
        SlotUntampered P d committed st prov.kek domain p s

variable {P : Platform} {pc : ProviderConfig} {ω : Oracle} {w : World} {d : Disk}
  {prov : Provider} {st committed : State} {domain p : String}

/-! ### Reading a slot -/

/-- What opens depends on the ciphertext and the text it was sealed for. -/
private theorem SameSealed.decrypt {kek : Bytes} {s s' : Slot} {domain' p' : String}
    (h : SameSealed domain p s domain' p' s') :
    decryptSlotKey P kek domain' p' s' = decryptSlotKey P kek domain p s := by
  obtain ⟨hhex, haad⟩ := h
  unfold decryptSlotKey
  rw [hhex, haad]

/-- What is reported ACTIVE is a slot whose key opens. -/
private theorem exists_of_active (h : (querySlot P prov domain p).2.state = .active) :
    ∃ s plain, prov.state.active.find? p = some s ∧ s.present = true ∧
      decryptSlotKey P prov.kek domain p s = .ok plain := by
  unfold querySlot at h
  split_ifs at h with hready
  cases hfind : prov.state.active.find? p with
  | none => simp [hfind] at h
  | some s =>
    rw [hfind] at h
    dsimp only at h
    split_ifs at h with hpresent
    cases hkey : decryptSlotKey P prov.kek domain p s with
    | error rc => simp [hkey] at h
    | ok plain => exact ⟨s, plain, rfl, by simpa using hpresent, hkey⟩

/-- A slot whose key opens is reported ACTIVE, with its fields. -/
private theorem querySlot_of_opens {s : Slot} {plain : Bytes} (hready : prov.ready = true)
    (hfind : prov.state.active.find? p = some s) (hpresent : s.present = true)
    (hkey : decryptSlotKey P prov.kek domain p s = .ok plain) :
    (querySlot P prov domain p).2 = activeReport s := by
  unfold querySlot
  rw [if_neg (by simp [hready]), hfind]
  dsimp only
  rw [if_neg (by simp [hpresent]), hkey]
  rfl

/-- A report tells the fields. -/
private theorem fields_of_activeReport_eq {s s₀ : Slot} (h : activeReport s = activeReport s₀) :
    SameMarked s s₀ ∧ s.validFromMs = s₀.validFromMs ∧ s.validToMs = s₀.validToMs := by
  simp only [activeReport, BusinessKeySlotInfo.mk.injEq] at h
  obtain ⟨-, -, hversion, hdigest, halgorithm, hfrom, hto, hgeneration⟩ := h
  exact ⟨⟨hversion, hdigest, halgorithm, hgeneration⟩, hfrom, hto⟩

private theorem activeReport_eq {s s₀ : Slot} (h : SameMarked s s₀)
    (hfrom : s.validFromMs = s₀.validFromMs) (hto : s.validToMs = s₀.validToMs) :
    activeReport s = activeReport s₀ := by
  unfold activeReport
  rw [h.version, h.keyIdDigest, h.algorithm, h.generation, hfrom, hto]

/-! ### What a start loads -/

/-- The ACTIVE slots that `initialize` keeps of a document. -/
def keptActive (P : Platform) (macKey : Bytes) (st : State) : OrdMap String Slot :=
  if !st.active.isEmpty &&
      st.commitMarker != computeCommitMarker P macKey st.generation st.active then .empty
  else st.active

/-- What has been loaded from the document `doc`. -/
structure LoadedFrom (P : Platform) (doc : StateDoc) (hsm : Bool) (w : World) : Prop where
  ready : w.prov.ready = hsm
  active : w.prov.state.active = keptActive P w.prov.macKey doc.state

private theorem wp_loadOrGenerateKek_docs (file : Option Bytes) :
    Prog.wp (loadOrGenerateKek ω file)
      (fun _ w' => w'.disk.state = w.disk.state ∧ w'.prov.hsm = w.prov.hsm ∧
        w'.prov.store = w.prov.store)
      (fun _ => True) w := by
  unfold Prog.wp
  cases file with
  | some b =>
    simp only [loadOrGenerateKek, loadKek]
    split_ifs
    · exact ⟨rfl, rfl, rfl⟩
    · exact ⟨rfl, rfl, rfl⟩
    · exact ⟨rfl, rfl, rfl⟩
  | none =>
    simp only [loadOrGenerateKek, generateKek]
    cases ω.kek.random with
    | none => exact ⟨rfl, rfl, rfl⟩
    | some key =>
      dsimp only
      split_ifs
      · exact ⟨rfl, rfl, rfl⟩
      · trivial
      · exact ⟨rfl, rfl, rfl⟩

private theorem wp_loadState_from {doc : StateDoc} {rest : List StateDoc}
    (hdocs : w.disk.state = doc :: rest) (hstore : w.prov.store = some true) :
    Prog.wp (loadState ω)
      (fun rc w' => rc = .success → w'.prov.state = doc.state ∧ w'.prov.hsm = w.prov.hsm)
      (fun _ => True) w := by
  unfold Prog.wp loadState
  rw [if_neg (by simp [hstore])]
  dsimp only
  rw [hdocs]
  dsimp only
  split_ifs
  · exact nofun
  · exact fun _ => ⟨rfl, rfl⟩

/-- **A start that succeeds** has loaded the newest document. -/
theorem wp_providerInitialize_loadedFrom {doc : StateDoc} {rest : List StateDoc}
    (hdocs : w.disk.state = doc :: rest) :
    Prog.wp (providerInitialize P ω)
      (fun rc w' => rc = .success → LoadedFrom P doc w.prov.hsm w') (fun _ => True) w := by
  unfold providerInitialize
  split
  · exact nofun
  · rename_i ready _
    refine Prog.wp_bind.mpr (Prog.wp_modify.mpr ?_)
    split
    · exact nofun
    · rename_i hready
      obtain rfl : ready = true := by simpa using hready
      refine Prog.wp_bind.mpr (Prog.wp_gets.mpr (Prog.wp_bind.mpr (Prog.wp_mono
        (wp_loadOrGenerateKek_docs _) (fun rc w₁ h₁ => ?_) fun _ => id)))
      obtain ⟨hdisk, hhsm, hstore⟩ := h₁
      split
      · rename_i hrc
        exact fun hs => absurd hs hrc
      · refine Prog.wp_bind.mpr (Prog.wp_modify.mpr (Prog.wp_bind.mpr (Prog.wp_mono
          (wp_loadState_from (hdisk.trans hdocs) hstore) (fun rc w₂ h₂ => ?_) fun _ => id)))
        split
        · rename_i hrc
          exact fun hs => absurd hs hrc
        · rename_i hrc
          obtain ⟨hstate, hhsm₂⟩ := h₂ (not_not.mp hrc)
          refine Prog.wp_bind.mpr (?_ : Prog.wp (checkCommitMarker P) _ _ w₂)
          rintro -
          refine ⟨hhsm₂.trans hhsm, ?_⟩
          unfold keptActive
          dsimp only
          rw [hstate]
          split_ifs
          · rfl
          · rfl

/-! ### The iff -/

/-- The text under a marker begins with a letter. -/
private theorem head?_textBytes_commitMarkerText (generation : ℕ) (active : OrdMap String Slot) :
    (textBytes (commitMarkerText generation active)).head? = some 0x63 := by
  obtain ⟨rest, hrest⟩ : ∃ rest : String,
      commitMarkerText generation active = "commit" ++ rest := by
    refine ⟨String.ofList ((((toString generation).toList ::
      active.toList.map fun b => (slotEntry b.1 b.2).toList)).flatMap ('|' :: ·)), ?_⟩
    refine String.toList_inj.mp ?_
    simp only [toList_commitMarkerText, String.toList_append, String.toList_ofList]
  have hbytes : textBytes ("commit" ++ rest) = textBytes "commit" ++ textBytes rest := by
    simp [textBytes]
  rw [hrest, hbytes, List.head?_append]
  rfl

/-- A marker that verifies is over the text of a document. -/
theorem Unforged.exists_doc (h : Unforged P d prov st) (hdump : DumpsObjects P)
    (hmarker : MarkerVerifies P prov.macKey st) :
    ∃ doc ∈ d.state, commitMarkerText doc.state.generation doc.state.active =
      commitMarkerText st.generation st.active := by
  rcases h.marker hmarker with hdoc | ⟨e, he⟩
  · exact hdoc
  · -- a record begins with a brace, a text with a letter
    exfalso
    have hbrace : (P.dump (journalEntryJson e)).head? = some 0x7b := hdump _
    rw [he, head?_textBytes_commitMarkerText] at hbrace
    cases hbrace

/-- **An edit that leaves alone what nothing protects** is seen through. -/
theorem tamperEvident_of_untampered {doc : StateDoc} (hloaded : LoadedFrom P doc true w)
    (hforged : Unforged P d w.prov doc.state) (hdump : DumpsObjects P) (hplain : PlainDisk d)
    (h : Untampered P d committed doc.state w.prov) : TamperEvident P committed w.prov := by
  intro domain p hactive
  obtain ⟨s, plain, hfind, hpresent, hkey⟩ := exists_of_active hactive
  have hkept := hfind
  rw [hloaded.active, keptActive] at hkept
  split_ifs at hkept with hbroken
  · cases hkept
  -- the ACTIVE slots were kept, and they are not none, so the marker verifies
  have hmarker : MarkerVerifies P w.prov.macKey doc.state := by
    by_contra hne
    have hempty : doc.state.active.isEmpty = false := by
      rw [Bool.eq_false_iff]
      intro hempty
      rw [OrdMap.isEmpty_iff_find?.mp hempty p] at hkept
      cases hkept
    exact hbroken (by simpa [hempty, MarkerVerifies] using hne)
  have hslot := h hmarker domain p s plain hkept hpresent hkey
  obtain ⟨doc₁, hdoc₁, htext⟩ := hforged.exists_doc hdump hmarker
  obtain ⟨s₁, s₀, hfind₁, hfind₀, hmarked⟩ := hslot.marked doc₁ hdoc₁ htext
  obtain ⟨s₁', hfind₁', hsame⟩ := exists_slot_of_text_eq htext.symm hkept hslot.separated
    fun p' s' hs' => (hplain doc₁ hdoc₁).separated hs'
  obtain rfl : s₁ = s₁' := Option.some.inj (hfind₁.symm.trans hfind₁')
  obtain ⟨hfrom, hto⟩ := hslot.validity s₀ hfind₀
  obtain ⟨domain', p', s', hold, hsealed⟩ := hforged.keys domain p s plain hkept hkey
  refine ⟨s₀, hfind₀, ?_, ?_⟩
  · rw [querySlot_of_opens hloaded.ready hfind hpresent hkey]
    exact activeReport_eq (hsame.trans hmarked) hfrom hto
  · rw [activeKey, hfind, Option.map_some, ← hsealed.decrypt,
      hslot.sealed domain' p' s' hold hsealed s₀ hfind₀]

/-- **An edit that is seen through** has left alone what nothing protects. -/
theorem untampered_of_tamperEvident {doc : StateDoc} (hloaded : LoadedFrom P doc true w)
    (hplain : PlainDisk d) (hcommitted : PlainState committed)
    (h : TamperEvident P committed w.prov) : Untampered P d committed doc.state w.prov := by
  intro hmarker domain p s plain hfind hpresent hkey
  have hkept : w.prov.state.active.find? p = some s := by
    rw [hloaded.active, keptActive, if_neg (by simp [show _ = _ from hmarker])]
    exact hfind
  have hquery := querySlot_of_opens hloaded.ready hkept hpresent hkey
  obtain ⟨s₀, hfind₀, hreport, hsameKey⟩ := h domain p (by rw [hquery]; rfl)
  rw [hquery] at hreport
  rw [activeKey, hkept, Option.map_some, Option.some_inj] at hsameKey
  obtain ⟨hmarked, hfrom, hto⟩ := fields_of_activeReport_eq hreport
  have hunique : ∀ s₀', committed.active.find? p = some s₀' → s₀' = s₀ := fun s₀' hs₀' =>
    Option.some.inj (hs₀'.symm.trans hfind₀)
  -- the slot says what a slot of the provider says, so it has no separators
  have hseparated : SlotSeparated p s := by
    have hseparated₀ := hcommitted.separated hfind₀
    exact ⟨hseparated₀.purpose, hmarked.keyIdDigest ▸ hseparated₀.keyIdDigest,
      hmarked.algorithm ▸ hseparated₀.algorithm⟩
  refine ⟨hseparated, fun doc₁ hdoc₁ htext => ?_, fun s₀' hs₀' => ?_,
    fun domain' p' s' _ hsealed s₀' hs₀' => ?_⟩
  · obtain ⟨s₁, hfind₁, hsame⟩ := exists_slot_of_text_eq htext.symm hfind hseparated
      fun p' s' hs' => (hplain doc₁ hdoc₁).separated hs'
    exact ⟨s₁, s₀, hfind₁, hfind₀, hsame.symm.trans hmarked⟩
  · rw [hunique s₀' hs₀']
    exact ⟨hfrom, hto⟩
  · rw [hunique s₀' hs₀', hsealed.decrypt, hsameKey]

/-- **Which edits are seen through.** After any run of the provider, the newest state document
holds the ACTIVE slots of the last commit. Somebody without the keys replaces it by `edited`, and
`initialize` succeeds: every slot that `querySlot` then reports ACTIVE has the reported fields and
the key of the last commit **if and only if** the edit broke the marker or left alone what nothing
protects. -/
theorem active_tamper_evidence_iff (P : Platform) (pc : ProviderConfig)
    (ls : List ProviderLabel) (newest edited : StateDoc) (rest : List StateDoc) (ω : Oracle)
    (bootNonce : ℕ) (w : World) (hdump : DumpsObjects P)
    (hdocs : ((provider P pc).run ProviderSys.new ls).world.disk.state = newest :: rest)
    (hstart : providerInitialize P ω
      (bootWorld { ((provider P pc).run ProviderSys.new ls).world.disk with
        state := edited :: newest :: rest } true bootNonce) = .done .success w)
    (hforged : Unforged P ((provider P pc).run ProviderSys.new ls).world.disk w.prov
      edited.state) :
    TamperEvident P newest.state w.prov ↔
      Untampered P ((provider P pc).run ProviderSys.new ls).world.disk newest.state edited.state
        w.prov := by
  have hplain := (plain_run P pc ls).docs
  have hnewest : PlainState newest.state := hplain newest (hdocs ▸ List.mem_cons_self ..)
  have hboot : (bootWorld { ((provider P pc).run ProviderSys.new ls).world.disk with
      state := edited :: newest :: rest } true bootNonce).disk.state =
        edited :: newest :: rest := rfl
  have hloaded : LoadedFrom P edited true w :=
    Prog.wp_done (wp_providerInitialize_loadedFrom hboot) hstart rfl
  exact ⟨untampered_of_tamperEvident hloaded hplain hnewest,
    tamperEvident_of_untampered hloaded hforged hdump hplain⟩

/-! ### A key that outlives its validity -/

/-- An edit that keeps the text under the marker and, of each slot, what its key was sealed for,
needs no key. -/
private theorem unforged_of_kept {newest : StateDoc} (hnewest : newest ∈ d.state)
    (htext : commitMarkerText newest.state.generation newest.state.active =
      commitMarkerText st.generation st.active)
    (hslots : ∀ p s, st.active.find? p = some s → ∃ s', newest.state.active.find? p = some s' ∧
      s'.keyEncHex = s.keyEncHex ∧ s'.version = s.version ∧ s'.generation = s.generation) :
    Unforged P d prov st := by
  refine ⟨fun _ => .inl ⟨newest, hnewest, htext⟩, fun domain p s plain hfind _ => ?_⟩
  obtain ⟨s', hfind', hhex, hversion, hgeneration⟩ := hslots p s hfind
  refine ⟨domain, p, s', ⟨newest, hnewest, .inl hfind'⟩, by rw [hhex], ?_⟩
  unfold slotAad
  rw [hversion, hgeneration]

namespace Bench

/-- A provider that starts, stages both purposes and commits them. -/
def rotation : List ProviderLabel :=
  [⟨.boot true, calm⟩, ⟨.init, calm⟩,
   ⟨.unwrapToStaging businessDomainV2c (bareItem purposeUplink "up" 1 0xaa) bareParameters [] []
     binding 1, calm⟩,
   ⟨.unwrapToStaging businessDomainV2c (bareItem purposeDownlink "down" 1 0xaa) bareParameters []
     [] binding 1, calm⟩,
   ⟨.commitBatch 1, calm⟩]

/-- The disk after it. -/
def rotatedDisk : Disk :=
  ((provider platform daemonD.provider).run ProviderSys.new rotation).world.disk

/-- The newest document on it. -/
def rotatedDoc : StateDoc := rotatedDisk.state.headD ⟨1, {}⟩

/-- The uplink slot of this document. -/
def rotatedSlot : Slot := (rotatedDoc.state.active.find? purposeUplink).getD {}

/-- The document with the uplink key valid for ever. -/
def prolongedDoc : StateDoc :=
  { rotatedDoc with
    state.active := rotatedDoc.state.active.insert purposeUplink
      { rotatedSlot with validToMs := 2 ^ 62 } }

/-- How a provider starts from this document. -/
def prolongedStart : Outcome World Disk ErrorCode :=
  providerInitialize platform calm
    (bootWorld { rotatedDisk with state := prolongedDoc :: rotatedDisk.state } true 0)

/-- The world after a start that succeeds. -/
def worldOf : Outcome World Disk ErrorCode → World
  | .done _ w => w
  | .crashed d => { disk := d }

/-- The start succeeds. -/
def succeeds : Outcome World Disk ErrorCode → Bool
  | .done rc _ => rc == .success
  | .crashed _ => false

private theorem eq_done_of_succeeds {o : Outcome World Disk ErrorCode} (h : succeeds o = true) :
    o = .done .success (worldOf o) := by
  cases o with
  | done rc w =>
    obtain rfl : rc = .success := by simpa [succeeds] using h
    rfl
  | crashed d => cases h

private theorem dumpsObjects_platform : DumpsObjects platform := fun _ => rfl

set_option maxRecDepth 10000 in
private theorem rotatedDisk_state : rotatedDisk.state = rotatedDoc :: rotatedDisk.state.tail := by
  have hne : rotatedDisk.state ≠ [] := by decide
  cases hstate : rotatedDisk.state with
  | nil => exact absurd hstate hne
  | cons doc rest => simp [rotatedDoc, hstate]

set_option maxRecDepth 10000 in
private theorem prolongedStart_eq : prolongedStart = .done .success (worldOf prolongedStart) :=
  eq_done_of_succeeds (by decide)

set_option maxRecDepth 10000 in
/-- Nothing protects the validity, so the edit needs no key. -/
private theorem unforged_prolongedDoc (prov : Provider) :
    Unforged platform rotatedDisk prov prolongedDoc.state := by
  have hmem : rotatedDoc ∈ rotatedDisk.state := by
    rw [rotatedDisk_state]
    exact List.mem_cons_self ..
  refine unforged_of_kept hmem (by decide) fun p s hfind => ?_
  have hfind' : (rotatedDoc.state.active.insert purposeUplink
      { rotatedSlot with validToMs := 2 ^ 62 }).find? p = some s := hfind
  rw [OrdMap.find?_insert] at hfind'
  split_ifs at hfind' with hp
  · have hslot : rotatedDoc.state.active.find? purposeUplink = some rotatedSlot := by
      decide
    obtain rfl := Option.some.inj hfind'
    exact ⟨rotatedSlot, hp ▸ hslot, rfl, rfl, rfl⟩
  · exact ⟨s, hfind', rfl, rfl, rfl⟩

/-- The theorem at this edit. -/
theorem active_tamper_evidence_iff_prolonged :
    TamperEvident platform rotatedDoc.state (worldOf prolongedStart).prov ↔
      Untampered platform rotatedDisk rotatedDoc.state prolongedDoc.state
        (worldOf prolongedStart).prov := by
  refine active_tamper_evidence_iff platform daemonD.provider rotation rotatedDoc prolongedDoc
    rotatedDisk.state.tail calm 0 (worldOf prolongedStart) dumpsObjects_platform rotatedDisk_state
    ?_ (unforged_prolongedDoc _)
  rw [← rotatedDisk_state]
  exact prolongedStart_eq

set_option maxRecDepth 10000 in
/-- **A key made valid for ever.** The edit needs no key and is no old document; the slot is
reported ACTIVE with the validity of the edit. -/
theorem prolonged_key_reported :
    Unforged platform rotatedDisk (worldOf prolongedStart).prov prolongedDoc.state ∧
      prolongedDoc ∉ rotatedDisk.state ∧
      prolongedStart = .done .success (worldOf prolongedStart) ∧
      ¬ TamperEvident platform rotatedDoc.state (worldOf prolongedStart).prov := by
  refine ⟨unforged_prolongedDoc _, by decide +kernel, prolongedStart_eq, fun h => ?_⟩
  have hquery : (querySlot platform (worldOf prolongedStart).prov businessDomainV2c
      purposeUplink).2.state = .active := by decide +kernel
  have hvalid : (querySlot platform (worldOf prolongedStart).prov businessDomainV2c
      purposeUplink).2.validToMs = 2 ^ 62 := by decide +kernel
  have hcommitted : (rotatedDoc.state.active.find? purposeUplink).map (·.validToMs) =
      some 1000000 := by decide +kernel
  obtain ⟨s₀, hfind, hreport, -⟩ := h businessDomainV2c purposeUplink hquery
  rw [hreport] at hvalid
  rw [hfind] at hcommitted
  have hto : s₀.validToMs = 1000000 := by simpa using hcommitted
  exact absurd (hto.symm.trans hvalid) (by decide)

end Bench

end TboxSec.Keyprov
