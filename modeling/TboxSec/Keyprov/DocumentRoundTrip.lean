import TboxSec.Keyprov.FailedSaves
import TboxSec.Keyprov.StateDocument

/-!
# What a reload restores

**The state document reads back** (`stateFromJson_of_same`): what `load_state` takes from the
document of `save_state` is what was in memory. The reader sees the document up to the order of
its fields. One lemma for each of the writers: a slot, an item, a record, a map of either.

What is checked after a reload depends on the fields alone, so it is as good as before: the MAC
of a record, and the commit marker of the ACTIVE slots.

* `StateWellTyped` is that the numbers of the fields fit their C++ types; texts and byte strings
  need nothing.
* `Reloads` is a save and a load, and `eq_of_reloads` that nothing comes of it.
* `Accepted` is what `initialize` accepts, and `KeepsAccepted` that an operation keeps it, so that
  after every run a document is written that the next start will not refuse.
-/

namespace TboxSec.Keyprov

open Canonical Crash Ipc

/-! ### What the types of the fields hold -/

/-- The numbers of a slot fit their types. -/
structure SlotWellTyped (s : Slot) : Prop where
  version : s.version < 2 ^ 64
  validFrom : IsInt64 s.validFromMs
  validTo : IsInt64 s.validToMs
  generation : s.generation < 2 ^ 64

/-- The numbers of an item of a record fit their types. -/
structure JournalItemWellTyped (it : BusinessKeyStatus) : Prop where
  version : it.businessKeyVersion < 2 ^ 64
  validFrom : IsInt64 it.validFromMs
  validTo : IsInt64 it.validToMs

/-- The numbers of a record fit their types. -/
structure EntryWellTyped (e : BusinessKeyJournalEntry) : Prop where
  generation : e.generation < 2 ^ 64
  createdAt : IsInt64 e.createdAtMs
  committedAt : IsInt64 e.committedAtMs
  items : ∀ it ∈ e.items, JournalItemWellTyped it

/-- The numbers of the provider's fields fit their types. -/
structure StateWellTyped (st : State) : Prop where
  generation : st.generation < 2 ^ 64
  stagingGeneration : st.stagingGeneration < 2 ^ 64
  active : ∀ b ∈ st.active.toList, SlotWellTyped b.2
  staging : ∀ b ∈ st.staging.toList, SlotWellTyped b.2
  journal : ∀ b ∈ st.journal.toList, EntryWellTyped b.2.entry

/-! ### One value at a time -/

@[simp]
theorem fromHex_toHex (b : Bytes) : fromHex (toHex b) = b := by
  rw [fromHex, hexToBytes_toHex, Option.getD_some]

section Readers

variable {d j : TboxSec.Json String} {key : String}

private theorem textField_of_same {s : String} (h : d.Same j) (hd : d.field? key = some (.str s)) :
    textField key j = some s :=
  textField_of_field (h.field?_str hd)

private theorem uint64Field_of_same {n : ℕ} (hn : n < 2 ^ 64) (h : d.Same j)
    (hd : d.field? key = some (.int n)) : uint64Field key j = some n :=
  uint64Field_of_field hn (h.field?_int hd)

private theorem int64Field_of_same {n : ℤ} (hn : IsInt64 n) (h : d.Same j)
    (hd : d.field? key = some (.int n)) : int64Field key j = some n :=
  int64Field_of_field hn (h.field?_int hd)

private theorem boolField_of_same {b : Bool} (h : d.Same j) (hd : d.field? key = some (.bool b)) :
    boolField key j = some b :=
  boolField_of_field (h.field?_bool hd)

/-- A text with another default than the empty one. -/
private theorem value_text_of_same {s default : String} (h : d.Same j)
    (hd : d.field? key = some (.str s)) :
    j.value key TboxSec.Json.text default = some s :=
  TboxSec.Json.value_of_field (h.field?_str hd) rfl

end Readers

section Values

variable {j : TboxSec.Json String}

/-- **A slot reads back.** -/
theorem slotFromJson_of_same {s : Slot} (hs : SlotWellTyped s)
    (h : (slotJson s).toDocument.Same j) : slotFromJson j = some s := by
  have hpresent : boolField "present" j = some s.present :=
    boolField_of_same h (by simp [slotJson])
  have hversion : uint64Field "version" j = some s.version :=
    uint64Field_of_same hs.version h (by simp [slotJson])
  have hdigest : textField "key_id_digest" j = some s.keyIdDigest :=
    textField_of_same h (by simp [slotJson])
  have halgorithm : textField "algorithm" j = some s.algorithm :=
    textField_of_same h (by simp [slotJson])
  have hfrom : int64Field "valid_from_ms" j = some s.validFromMs :=
    int64Field_of_same hs.validFrom h (by simp [slotJson])
  have hto : int64Field "valid_to_ms" j = some s.validToMs :=
    int64Field_of_same hs.validTo h (by simp [slotJson])
  have hgeneration : uint64Field "generation" j = some s.generation :=
    uint64Field_of_same hs.generation h (by simp [slotJson])
  have hkey : textField "key_enc" j = some s.keyEncHex :=
    textField_of_same h (by simp [slotJson])
  simp only [slotFromJson, hpresent, hversion, hdigest, halgorithm, hfrom, hto, hgeneration, hkey,
    Option.bind_eq_bind, Option.bind_some]

/-- **An item of a record reads back.** -/
theorem journalItemFromJson_of_same {it : BusinessKeyStatus} (hit : JournalItemWellTyped it)
    (h : (journalItemJson it).toDocument.Same j) : journalItemFromJson j = some it := by
  have hdomain : textField "business_domain" j = some it.businessDomain :=
    textField_of_same h (by simp [journalItemJson])
  have hpurpose : textField "purpose" j = some it.purpose :=
    textField_of_same h (by simp [journalItemJson])
  have hversion : uint64Field "business_key_version" j = some it.businessKeyVersion :=
    uint64Field_of_same hit.version h (by simp [journalItemJson])
  have hstate : j.value "state" TboxSec.Json.text "UNKNOWN" = some it.state.toText :=
    value_text_of_same h (by simp [journalItemJson])
  have hkeyId : textField "key_id" j = some it.keyId :=
    textField_of_same h (by simp [journalItemJson])
  have hdigest : textField "key_id_digest" j = some it.keyIdDigest :=
    textField_of_same h (by simp [journalItemJson])
  have halgorithm : textField "algorithm" j = some it.algorithm :=
    textField_of_same h (by simp [journalItemJson])
  have hfrom : int64Field "valid_from_ms" j = some it.validFromMs :=
    int64Field_of_same hit.validFrom h (by simp [journalItemJson])
  have hto : int64Field "valid_to_ms" j = some it.validToMs :=
    int64Field_of_same hit.validTo h (by simp [journalItemJson])
  have hformat : j.value "envelope_format" TboxSec.Json.text "UNSPECIFIED" =
      some it.envelopeFormat.toText :=
    value_text_of_same h (by simp [journalItemJson])
  have henvelope : textField "envelope_digest" j = some (toHex it.envelopeDigest) :=
    textField_of_same h (by simp [journalItemJson])
  have hkcv : textField "key_check_value" j = some (toHex it.keyCheckValue.toBytes) :=
    textField_of_same h (by simp [journalItemJson])
  have hpresent : boolField "key_check_value_present" j = some it.keyCheckValuePresent :=
    boolField_of_same h (by simp [journalItemJson])
  have hproof : textField "import_proof" j = some (toHex it.importProof) :=
    textField_of_same h (by simp [journalItemJson])
  have hproofAlgorithm : textField "proof_algorithm" j = some it.proofAlgorithm :=
    textField_of_same h (by simp [journalItemJson])
  have hrecipient : textField "recipient_certificate_digest" j =
      some (toHex it.recipientCertificateDigest) :=
    textField_of_same h (by simp [journalItemJson])
  simp only [journalItemFromJson, hdomain, hpurpose, hversion, hstate, hkeyId, hdigest,
    halgorithm, hfrom, hto, hformat, henvelope, hkcv, hpresent, hproof, hproofAlgorithm, hrecipient,
    Option.bind_eq_bind, Option.bind_some, fromHex_toHex, hexToBytes_toHex, kcv?_toBytes,
    Option.getD_some, BusinessKeyState.ofText_toText, KeyEnvelopeFormat.ofText_toText]

/-- The items of a record read back. -/
private theorem mapM_journalItemFromJson {items : List BusinessKeyStatus}
    {l : List (TboxSec.Json String)} (hitems : ∀ it ∈ items, JournalItemWellTyped it)
    (h : List.Forall₂ TboxSec.Json.Same
      (items.map fun it => (journalItemJson it).toDocument) l) :
    l.mapM journalItemFromJson = some items := by
  induction items generalizing l with
  | nil =>
    cases h
    rfl
  | cons it items ih =>
    obtain ⟨a, rest, hsame, hrest, rfl⟩ := List.forall₂_cons_left_iff.mp h
    have hhead := journalItemFromJson_of_same (hitems it List.mem_cons_self) hsame
    have htail := ih (fun it' hit' => hitems it' (List.mem_cons_of_mem it hit')) hrest
    rw [List.mapM_cons, hhead, htail]
    rfl

/-- **A record reads back.** -/
theorem journalEntryFromJson_of_same {e : BusinessKeyJournalEntry} (he : EntryWellTyped e)
    (h : (journalEntryJson e).toDocument.Same j) : journalEntryFromJson j = some e := by
  have hrequestId : textField "request_id_digest" j = some e.requestIdDigest :=
    textField_of_same h (by simp [journalEntryJson])
  have hrequest : textField "request_digest" j = some e.requestDigest :=
    textField_of_same h (by simp [journalEntryJson])
  have hphase : j.value "phase" TboxSec.Json.text "UNKNOWN" = some e.phase.toText :=
    value_text_of_same h (by simp [journalEntryJson])
  have hgeneration : uint64Field "generation" j = some e.generation :=
    uint64Field_of_same he.generation h (by simp [journalEntryJson])
  have hcreated : int64Field "created_at_ms" j = some e.createdAtMs :=
    int64Field_of_same he.createdAt h (by simp [journalEntryJson])
  have hcommitted : int64Field "committed_at_ms" j = some e.committedAtMs :=
    int64Field_of_same he.committedAt h (by simp [journalEntryJson])
  have hprovider : textField "provider_version_digest" j = some e.providerVersionDigest :=
    textField_of_same h (by simp [journalEntryJson])
  have herror : textField "last_error" j = some e.lastError :=
    textField_of_same h (by simp [journalEntryJson])
  have hproofAlgorithm : textField "proof_algorithm" j = some e.proofAlgorithm :=
    textField_of_same h (by simp [journalEntryJson])
  have hproof : textField "import_proof" j = some (toHex e.importProof) :=
    textField_of_same h (by simp [journalEntryJson])
  have hbinding : textField "binding_certificate_digest" j =
      some (toHex e.bindingCertificateDigest) :=
    textField_of_same h (by simp [journalEntryJson])
  obtain ⟨l, hl, hitems⟩ : ∃ l, j.field? "items" = some (.arr l) ∧
      List.Forall₂ TboxSec.Json.Same (e.items.map fun it => (journalItemJson it).toDocument) l := by
    obtain ⟨v, hv, hsame⟩ := h.field? (k := "items")
      (v := .arr (e.items.map fun it => (journalItemJson it).toDocument))
      (by simp [journalEntryJson])
    obtain ⟨l, rfl, hl⟩ := hsame.exists_arr
    exact ⟨l, hv, hl⟩
  simp only [journalEntryFromJson, hrequestId, hrequest, hphase, hgeneration, hcreated, hcommitted,
    hprovider, herror, hproofAlgorithm, hproof, hbinding, hl,
    mapM_journalItemFromJson he.items hitems, Option.bind_eq_bind, Option.bind_some,
    fromHex_toHex, BusinessKeyImportPhase.ofText_toText]

/-- **A record and its MAC read back.** -/
theorem journalStoredFromJson_of_same {js : JournalStored} (hjs : EntryWellTyped js.entry)
    (h : (journalStoredJson js).toDocument.Same j) : journalStoredFromJson j = some js := by
  obtain ⟨v, hv, hsame⟩ := h.field? (k := "entry") (v := (journalEntryJson js.entry).toDocument)
    (by simp [journalStoredJson])
  have hentry : j.value "entry" some (.obj []) = some v := TboxSec.Json.value_of_field hv rfl
  have hmac : textField "mac" j = some js.macHex :=
    textField_of_same h (by simp [journalStoredJson])
  simp only [journalStoredFromJson, hentry, hmac, journalEntryFromJson_of_same hjs hsame,
    Option.bind_eq_bind, Option.bind_some]

/-- **A map reads back**, if its values do. -/
theorem mapFromJson_of_same {α : Type} {encode : α → Json}
    {decode : TboxSec.Json String → Option α} {m : OrdMap String α}
    (hdecode : ∀ b ∈ m.toList, ∀ v, (encode b.2).toDocument.Same v → decode v = some b.2)
    (h : (mapJson encode m).toDocument.Same j) : mapFromJson decode j = some m := by
  have hdoc : (mapJson encode m).toDocument =
      .obj (m.toList.map fun b => (b.1, (encode b.2).toDocument)) := by
    simp [mapJson, Json.toDocumentFields_eq_map]
  have hkeys : (m.toList.map fun b => (b.1, (encode b.2).toDocument)).map Prod.fst =
      m.toList.map Prod.fst := by
    rw [List.map_map]
    rfl
  rw [hdoc] at h
  obtain ⟨fields, rfl, hsame, hvalues⟩ := h.exists_obj (hkeys ▸ m.nodup_keys)
  rw [hkeys] at hsame
  refine OrdMap.foldlM_insert (fun b hb => ?_) fun k hk => ?_
  · -- a field that is read stands for the binding of its key
    obtain ⟨⟨k, a⟩, hmem, hk⟩ := List.mem_map.mp
      ((hsame b.1).mpr (List.mem_map.mpr ⟨b, hb, rfl⟩))
    obtain rfl : k = b.1 := hk
    have hencoded : (b.1, (encode a).toDocument) ∈
        m.toList.map fun b => (b.1, (encode b.2).toDocument) :=
      List.mem_map.mpr ⟨(b.1, a), hmem, rfl⟩
    exact ⟨a, hdecode (b.1, a) hmem b.2 (hvalues b.1 _ b.2 hencoded hb),
      OrdMap.mem_toList_iff.mp hmem⟩
  · rw [OrdMap.find?_empty, OrdMap.find?_of_not_mem_keys fun hmem => hk ((hsame k).mp hmem)]

/-- A map that is a field reads back. -/
private theorem mapField_of_same {α : Type} (encode : α → Json)
    {decode : TboxSec.Json String → Option α} {m : OrdMap String α} {d : TboxSec.Json String}
    {key : String} (h : d.Same j) (hd : d.field? key = some (mapJson encode m).toDocument)
    (hdecode : ∀ b ∈ m.toList, ∀ v, (encode b.2).toDocument.Same v → decode v = some b.2) :
    mapField decode key j = some m := by
  obtain ⟨v, hv, hsame⟩ := h.field? hd
  rw [mapField, hv]
  exact mapFromJson_of_same hdecode hsame

/-- **The state document reads back.** -/
theorem stateFromJson_of_same {st : State} (hst : StateWellTyped st)
    (h : (stateJson st).toDocument.Same j) : stateFromJson j = some ⟨1, st⟩ := by
  have hv : j.value "v" TboxSec.Json.arithmetic supportedStateVersion = some 1 :=
    TboxSec.Json.value_of_field (h.field?_int (n := 1) (by simp [stateJson])) rfl
  have hgeneration : uint64Field "generation" j = some st.generation :=
    uint64Field_of_same hst.generation h (by simp [stateJson])
  have hmarker : textField "commit_marker" j = some st.commitMarker :=
    textField_of_same h (by simp [stateJson])
  have hstagingGeneration : uint64Field "staging_generation" j = some st.stagingGeneration :=
    uint64Field_of_same hst.stagingGeneration h (by simp [stateJson])
  have hactive : mapField slotFromJson "active" j = some st.active :=
    mapField_of_same slotJson h (by simp [stateJson])
      fun b hb v hsame => slotFromJson_of_same (hst.active b hb) hsame
  have hstaging : mapField slotFromJson "staging" j = some st.staging :=
    mapField_of_same slotJson h (by simp [stateJson])
      fun b hb v hsame => slotFromJson_of_same (hst.staging b hb) hsame
  have hjournal : mapField journalStoredFromJson "journal" j = some st.journal :=
    mapField_of_same journalStoredJson h (by simp [stateJson])
      fun b hb v hsame => journalStoredFromJson_of_same (hst.journal b hb) hsame
  have hone : wrapUnsigned32 1 = 1 := wrapUnsigned32_of_lt (n := 1) (by decide)
  simp only [stateFromJson, hv, hgeneration, hmarker, hstagingGeneration, hactive, hstaging,
    hjournal, hone, Option.bind_eq_bind, Option.bind_some]

end Values

/-! ### Cycles of saving and loading -/

/-- The fields `st` are saved, and `st'` are loaded from what the library gives back. -/
def Reloads (st st' : State) : Prop :=
  ∃ j v, (stateJson st).toDocument.Same j ∧ stateFromJson j = some ⟨v, st'⟩

/-- **Cycles change nothing.** -/
theorem eq_of_reloads {st st' : State} (hst : StateWellTyped st)
    (h : Relation.ReflTransGen Reloads st st') : st' = st := by
  induction h with
  | refl => rfl
  | tail _ hstep ih =>
    obtain ⟨j, v, hsame, hload⟩ := hstep
    rw [ih] at hsame
    rw [stateFromJson_of_same hst hsame] at hload
    simp only [Option.some.injEq, StateDoc.mk.injEq] at hload
    exact hload.2.symm

/-! ### What the checks of a start find -/

section Checks

variable (P : Platform)

/-- What `initialize` and the readers of the journal check: the marker of the ACTIVE slots and
the MAC of every record. -/
structure Accepted (prov : Provider) : Prop where
  marker : prov.state.active.isEmpty = true ∨ prov.state.commitMarker =
    computeCommitMarker P prov.macKey prov.state.generation prov.state.active
  macs : ∀ rid js, prov.state.journal.find? rid = some js →
    js.macHex = journalMac P prov.macKey js.entry

variable {P} {pc : ProviderConfig} {ω : Oracle} {w w' : World}

/-- The check of `initialize` leaves accepted fields as they are. -/
private theorem checkCommitMarker_of_accepted (h : Accepted P w.prov) :
    checkCommitMarker P w = .done () { w with prov.ready := w.prov.hsm } := by
  unfold checkCommitMarker
  dsimp only
  rw [if_neg]
  rcases h.marker with hempty | hmarker
  · simp [hempty]
  · simp [hmarker]

/-- A change of the staging area takes no part in the checks. -/
theorem Accepted.setStaging {prov : Provider} (h : Accepted P prov)
    (staging : OrdMap String Slot) (stagingGeneration : ℕ) :
    Accepted P { prov with state := { prov.state with staging, stagingGeneration } } :=
  ⟨h.marker, h.macs⟩

/-- A record that is put with its own MAC is accepted. -/
theorem Accepted.putRecord {prov : Provider} (h : Accepted P prov)
    (e : BusinessKeyJournalEntry) :
    Accepted P { prov with
      state := { prov.state with
        journal := prov.state.journal.insert e.requestIdDigest
          ⟨e, journalMac P prov.macKey e⟩ } } := by
  refine ⟨h.marker, fun rid js hfind => ?_⟩
  rw [OrdMap.find?_insert] at hfind
  split_ifs at hfind with hrid
  · obtain rfl := Option.some.inj hfind
    rfl
  · exact h.macs rid js hfind

/-- A commit writes its own marker. -/
theorem Accepted.committed {prov : Provider} (h : Accepted P prov) (generation : ℕ) :
    Accepted P { prov with
      state := committedState P prov.macKey prov.state generation } :=
  ⟨.inr rfl, h.macs⟩

/-- What an operation of a provider keeps: its MAC key, and accepted fields. -/
def KeepsAccepted (P : Platform) (w w' : World) : Prop :=
  w'.prov.macKey = w.prov.macKey ∧ (Accepted P w.prov → Accepted P w'.prov)

private theorem KeepsAccepted.of_prov_eq (h : w'.prov = w.prov) : KeepsAccepted P w w' := by
  unfold KeepsAccepted
  rw [h]
  exact ⟨rfl, id⟩

/-- A save keeps what its change has kept. -/
private theorem wp_saveState_keepsAccepted {st : State}
    (h : Accepted P w.prov → Accepted P { w.prov with state := st }) :
    Prog.wp (saveState ω) (fun _ w' => KeepsAccepted P w w') (fun _ => True) (w.setState st) :=
  wp_saveState trivial ⟨rfl, h⟩ fun _ _ _ => ⟨rfl, h⟩

/-- **Staging an item** keeps accepted fields. -/
theorem unwrapToStaging_keepsAccepted (domain : String) (item : WrappedKeyItem)
    (params : EnvelopeParameters) (aad info : Bytes) (binding : BusinessKeyDeviceBinding)
    (generation : ℕ) :
    Prog.wp (unwrapToStaging P pc ω domain item params aad info binding generation)
      (fun _ w' => KeepsAccepted P w w') (fun _ => True) w := by
  by_cases hstages : ∃ slot, Stages P pc ω w domain item params aad info binding generation slot
  · obtain ⟨slot, hslot⟩ := hstages
    obtain ⟨kcv, k, -, hrun⟩ := unwrapToStaging_of_stages hslot
    unfold Prog.wp
    rw [hrun]
    exact Prog.wp_bind.mpr
      (wp_saveState_keepsAccepted (w := { w with asked := k }) fun h => h.setStaging _ _)
  · obtain ⟨r, k, hrun⟩ := unwrapToStaging_of_refused (not_exists.mp hstages)
    unfold Prog.wp
    rw [hrun]
    exact KeepsAccepted.of_prov_eq rfl

/-- **A commit** keeps accepted fields, whatever becomes of its save. -/
theorem commitBatch_keepsAccepted (generation : ℕ) :
    Prog.wp (commitBatch P ω generation) (fun _ w' => KeepsAccepted P w w') (fun _ => True) w := by
  by_cases hreach : CommitReaches w generation
  swap
  · obtain ⟨rc, hrun⟩ := commitBatch_of_refused (P := P) (ω := ω) hreach
    unfold Prog.wp
    rw [hrun]
    exact KeepsAccepted.of_prov_eq rfl
  unfold Prog.wp
  rw [commitBatch_of_reaches hreach]
  by_cases hfail : SaveFails ω w
  · obtain ⟨rc, k, hrc, hsave⟩ := saveState_of_fails (ω := ω)
      (w := w.setState (committedState P w.prov.macKey w.prov.state generation)) hfail
    rw [Prog.bind_of_done hsave, if_pos hrc]
    -- the old slots are back under their old marker
    exact ⟨rfl, fun h => h.setStaging _ _⟩
  · refine Prog.wp_bind.mpr (Prog.wp_mono (Prog.wp_and (wp_saveState_of_not_fails hfail)
      (wp_saveState_keepsAccepted fun h => h.committed generation)) ?_ fun _ _ => trivial)
    rintro rc w₁ ⟨rfl, hkeeps⟩
    exact hkeeps

/-- **A rollback** keeps accepted fields. -/
theorem rollbackStaging_keepsAccepted (generation : ℕ) :
    Prog.wp (rollbackStaging ω generation) (fun _ w' => KeepsAccepted P w w') (fun _ => True)
      w := by
  unfold rollbackStaging
  refine Prog.wp_bind.mpr ?_
  rw [Prog.wp_gets]
  split_ifs
  · exact KeepsAccepted.of_prov_eq rfl
  · exact KeepsAccepted.of_prov_eq rfl
  · exact Prog.wp_bind.mpr (wp_saveState_keepsAccepted fun h => h.setStaging _ _)

/-- **A journal save** keeps accepted fields. -/
theorem saveJournal_keepsAccepted (e : BusinessKeyJournalEntry) :
    Prog.wp (saveJournal P ω e) (fun _ w' => KeepsAccepted P w w') (fun _ => True) w := by
  unfold saveJournal
  refine Prog.wp_bind.mpr ?_
  rw [Prog.wp_gets]
  split_ifs
  · exact KeepsAccepted.of_prov_eq rfl
  · exact Prog.wp_bind.mpr (wp_saveState_keepsAccepted fun h => h.putRecord e)

/-- A record that is saved is in the journal with its MAC, and the store works. -/
private theorem saveJournal_stores {e : BusinessKeyJournalEntry}
    (h : saveJournal P ω e w = .done .success w') :
    w'.prov.ready = true ∧ w'.prov.store = some true ∧
      w'.prov.state.journal.find? e.requestIdDigest =
        some ⟨e, journalMac P w'.prov.macKey e⟩ := by
  unfold saveJournal at h
  rw [Prog.gets_bind] at h
  split_ifs at h with hready
  · cases h
  have hsave : saveState ω (w.setState
      { w.prov.state with
        journal := w.prov.state.journal.insert e.requestIdDigest
          ⟨e, journalMac P w.prov.macKey e⟩ }) = .done .success w' := h
  have hkept := Prog.wp_done (wp_saveState (ω := ω) (C := fun _ => True)
    (Q := fun _ w₁ => w₁.prov = { w.prov with
      state := { w.prov.state with
        journal := w.prov.state.journal.insert e.requestIdDigest
          ⟨e, journalMac P w.prov.macKey e⟩ } }) trivial rfl fun _ _ _ => rfl) hsave
  have hstore : w.prov.store = some true := by
    by_contra hstore
    obtain ⟨rc, k, hrc, hfails⟩ := saveState_of_fails (ω := ω) (w := w.setState
      { w.prov.state with
        journal := w.prov.state.journal.insert e.requestIdDigest
          ⟨e, journalMac P w.prov.macKey e⟩ }) (.inl hstore)
    rw [hsave] at hfails
    cases hfails
    exact hrc rfl
  rw [hkept]
  exact ⟨by simpa using hready, hstore, OrdMap.find?_insert_self ..⟩

/-- **A saved record is found after a reload**: its MAC verifies. -/
theorem loadJournalEx_of_find? {prov : Provider} {e : BusinessKeyJournalEntry}
    (hready : prov.ready = true) (hstore : prov.store = some true)
    (hversion : prov.stateVersionUnknown = false)
    (hfind : prov.state.journal.find? e.requestIdDigest =
      some ⟨e, journalMac P prov.macKey e⟩) :
    loadJournalEx P prov e.requestIdDigest = { status := .found, entry := some e } := by
  simp [loadJournalEx, Provider.readable, hready, hstore, hversion, hfind]

end Checks

/-! ### Runs -/

/-- One step of a provider: an operation that writes, with whatever becomes of its save, or a
cycle of saving and loading. -/
inductive ProviderStep (P : Platform) (pc : ProviderConfig) : World → World → Prop
  | stage {ω domain item params aad info binding generation r w w'}
      (h : unwrapToStaging P pc ω domain item params aad info binding generation w = .done r w') :
      ProviderStep P pc w w'
  | commit {ω generation rc w w'} (h : commitBatch P ω generation w = .done rc w') :
      ProviderStep P pc w w'
  | rollback {ω generation rc w w'} (h : rollbackStaging ω generation w = .done rc w') :
      ProviderStep P pc w w'
  | journal {ω e rc w w'} (h : saveJournal P ω e w = .done rc w') : ProviderStep P pc w w'
  | reload {w st} (htyped : StateWellTyped w.prov.state) (h : Reloads w.prov.state st) :
      ProviderStep P pc w (w.setState st)

section Runs

variable {P : Platform} {pc : ProviderConfig} {w w' : World}

private theorem ProviderStep.keepsAccepted (h : ProviderStep P pc w w') : KeepsAccepted P w w' := by
  have hdone : ∀ {α : Type} {m : SecM α} {a : α},
      Prog.wp m (fun _ w' => KeepsAccepted P w w') (fun _ => True) w → m w = .done a w' →
        KeepsAccepted P w w' :=
    fun hwp hrun => Prog.wp_done (Q := fun _ w' => KeepsAccepted P w w') hwp hrun
  cases h with
  | stage h => exact hdone (unwrapToStaging_keepsAccepted _ _ _ _ _ _ _) h
  | commit h => exact hdone (commitBatch_keepsAccepted _) h
  | rollback h => exact hdone (rollbackStaging_keepsAccepted _) h
  | journal h => exact hdone (saveJournal_keepsAccepted _) h
  | reload htyped h =>
    rw [eq_of_reloads htyped (.single h)]
    exact ⟨rfl, id⟩

/-- **In every run** of a provider, accepted fields stay accepted. -/
theorem keepsAccepted_of_run (h : Relation.ReflTransGen (ProviderStep P pc) w w') :
    KeepsAccepted P w w' := by
  induction h with
  | refl => exact ⟨rfl, id⟩
  | tail _ hstep ih =>
    have hkeeps := hstep.keepsAccepted
    exact ⟨hkeeps.1.trans ih.1, fun h => hkeeps.2 (ih.2 h)⟩

end Runs

/-- **The state document makes the round trip.** For fields whose numbers fit their types,

* `load_state` restores all of them from the document of `save_state`, in whatever order the
  library lists its fields, and `journal_entry_from_json` inverts `journal_entry_json`;
* after any number of cycles of saving and loading, the fields are the same, a record that was
  saved last is found and its MAC verifies;
* in every run of the operations that write and of such cycles, from fields that `initialize`
  accepts, every record of the journal keeps a MAC that verifies, and the commit marker check of
  `initialize` takes nothing away. -/
theorem state_document_round_trip (P : Platform) (pc : ProviderConfig) (st : State)
    (hst : StateWellTyped st) :
    (∀ j, (stateJson st).toDocument.Same j → stateFromJson j = some ⟨1, st⟩) ∧
    (∀ e, EntryWellTyped e → ∀ j, (journalEntryJson e).toDocument.Same j →
      journalEntryFromJson j = some e) ∧
    (∀ st', Relation.ReflTransGen Reloads st st' → st' = st ∧
      ∀ ω w e w', saveJournal P ω e w = .done .success w' → w'.prov.state = st →
        loadJournalEx P { w'.prov with state := st', stateVersionUnknown := false }
            e.requestIdDigest =
          { status := .found, entry := some e }) ∧
    ∀ w w', Accepted P w.prov →
      Relation.ReflTransGen (ProviderStep P pc) w w' →
        Accepted P w'.prov ∧
          checkCommitMarker P w' = .done () { w' with prov.ready := w'.prov.hsm } := by
  refine ⟨fun j hj => stateFromJson_of_same hst hj,
    fun e he j hj => journalEntryFromJson_of_same he hj, fun st' hcycles => ⟨?_, ?_⟩, ?_⟩
  · exact eq_of_reloads hst hcycles
  · rintro ω w e w' hsave hstate
    obtain ⟨hready, hstore, hfind⟩ := saveJournal_stores hsave
    rw [eq_of_reloads hst hcycles, ← hstate]
    exact loadJournalEx_of_find? hready hstore rfl hfind
  · rintro w w' haccepted hrun
    have haccepted' := (keepsAccepted_of_run hrun).2 haccepted
    exact ⟨haccepted', checkCommitMarker_of_accepted haccepted'⟩

/-- A record of one item. -/
def sampleEntry : BusinessKeyJournalEntry where
  requestIdDigest := "r"
  phase := .outcomeUnknown
  generation := 4
  createdAtMs := 5
  items := [{ purpose := purposeDownlink, state := .staged, businessKeyVersion := 8
              envelopeFormat := .ecdhEsP256V1, envelopeDigest := [1, 255]
              keyCheckValue := ⟨1, 2, 3⟩, keyCheckValuePresent := true }]
  importProof := [0, 16]

/-- An ACTIVE slot. -/
def sampleActive : OrdMap String Slot :=
  OrdMap.empty.insert purposeUplink
    { present := true, version := 7, keyIdDigest := "d", algorithm := defaultKeyAlgorithm
      validFromMs := -1, validToMs := 1000, generation := 3, keyEncHex := "00ff" }

/-- Fields with an ACTIVE slot under its marker, a staged one and the records of `journal`. -/
def sampleFields (journal : OrdMap String JournalStored) : State where
  generation := 3
  commitMarker := computeCommitMarker Bench.platform [7] 3 sampleActive
  active := sampleActive
  staging := OrdMap.empty.insert purposeDownlink { present := true, version := 8, generation := 4 }
  stagingGeneration := 4
  journal

/-- The fields with the record and its MAC. -/
def sampleState : State :=
  sampleFields (OrdMap.empty.insert "r" ⟨sampleEntry, journalMac Bench.platform [7] sampleEntry⟩)

/-- A provider that is ready, before the record is saved. -/
def sampleWorld : World where
  prov :=
    { hsm := true
      store := some true
      macKey := [7]
      state := sampleFields .empty
      ready := true }

private theorem stateWellTyped_sample : StateWellTyped sampleState := by
  refine ⟨by decide, by decide, ?_, ?_, ?_⟩
  · rintro b hb
    obtain rfl := List.mem_singleton.mp hb
    exact ⟨by decide, by decide, by decide, by decide⟩
  · rintro b hb
    obtain rfl := List.mem_singleton.mp hb
    exact ⟨by decide, by decide, by decide, by decide⟩
  · rintro b hb
    obtain rfl := List.mem_singleton.mp hb
    refine ⟨by decide, by decide, by decide, fun it hit => ?_⟩
    obtain rfl := List.mem_singleton.mp hit
    exact ⟨by decide, by decide, by decide⟩

/-- The record is saved, the fields are written and loaded again: the record is found, and the
check of a start finds nothing to take away. -/
theorem state_document_round_trip_sample :
    stateFromJson (stateJson sampleState).toDocument = some ⟨1, sampleState⟩ ∧
      journalEntryFromJson (journalEntryJson sampleEntry).toDocument = some sampleEntry ∧
      ∃ w, saveJournal Bench.platform Bench.calm sampleEntry sampleWorld = .done .success w ∧
        w.prov.state = sampleState ∧ Reloads w.prov.state sampleState ∧
        loadJournalEx Bench.platform
            { w.prov with state := sampleState, stateVersionUnknown := false } "r" =
          { status := .found, entry := some sampleEntry } ∧
        Accepted Bench.platform (w.setState sampleState).prov ∧
        checkCommitMarker Bench.platform (w.setState sampleState) =
          .done () { w.setState sampleState with prov.ready := w.prov.hsm } := by
  obtain ⟨hdocument, hentry, hcycles, hruns⟩ :=
    state_document_round_trip Bench.platform Bench.daemonD.provider sampleState
      stateWellTyped_sample
  have hwritten := hdocument _ (.refl _)
  have hreload : Reloads sampleState sampleState := ⟨_, 1, .refl _, hwritten⟩
  have hsaved : saveJournal Bench.platform Bench.calm sampleEntry sampleWorld =
      .done .success (sampleWorld.setState sampleState).saved := rfl
  have hstart : Accepted Bench.platform sampleWorld.prov :=
    ⟨.inr rfl, fun rid js hfind => absurd hfind (by simp [sampleWorld, sampleFields])⟩
  have hrun : Relation.ReflTransGen (ProviderStep Bench.platform Bench.daemonD.provider)
      sampleWorld ((sampleWorld.setState sampleState).saved.setState sampleState) :=
    .tail (.single (.journal hsaved)) (.reload stateWellTyped_sample hreload)
  obtain ⟨haccepted, hcheck⟩ := hruns _ _ hstart hrun
  refine ⟨hwritten, hentry sampleEntry ?_ _ (.refl _), _, hsaved, rfl, hreload,
    (hcycles sampleState (.single hreload)).2 _ _ sampleEntry _ hsaved rfl, haccepted, hcheck⟩
  exact stateWellTyped_sample.journal ("r", ⟨sampleEntry, _⟩) (List.mem_singleton_self _)

end TboxSec.Keyprov
