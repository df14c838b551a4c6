import TboxSec.Keyprov.PipelineSpec

/-!
# What the checks of an import establish

The deciding part of both imports only reads: it ends in the world it started from, up to the
count of the environment's answers (`Reads`). A request that gets through its checks is
`AdmittedOk`, and a decision is one of four things (`Decided`):

* a **refusal**, which says nothing about the request's record;
* a **replay** of a settled record;
* the **recovery** of an unfinished record;
* the **start** of a new operation, with a batch newer than the active one.
-/

namespace TboxSec.Keyprov

open Canonical Crash Journal Crash.Simulation

variable {D : Deployment} {M : Set ImportRequest} {K : Bytes} {ω : Oracle} {w : World} {s : KSys}

/-! ### Programs that read -/

/-- The program ends with a value that meets `P` and changes nothing. -/
def Reads {α : Type} (m : SecM α) (w : World) (P : α → Prop) : Prop :=
  ∃ r k, m w = .done r { w with asked := k } ∧ P r

namespace Reads

variable {α β : Type} {m : SecM α} {f : α → SecM β} {P : α → Prop} {Q : β → Prop}

/-- A value that has the property is read without a look at the world. -/
theorem pure {r : α} (h : P r) : Reads (Pure.pure r) w P := ⟨r, w.asked, rfl, h⟩

/-- What a reading call establishes may be weakened. -/
theorem mono (h : Reads m w P) {P' : α → Prop} (hP : ∀ r, P r → P' r) : Reads m w P' := by
  obtain ⟨r, k, hm, hr⟩ := h
  exact ⟨r, k, hm, hP r hr⟩

/-- Reading calls follow each other; the second starts from the count of answers that the first has
left. -/
theorem bind (h : Reads m w P) (hf : ∀ r k, P r → Reads (f r) { w with asked := k } Q) :
    Reads (m >>= f) w Q := by
  obtain ⟨r, k, hm, hr⟩ := h
  obtain ⟨r', k', hm', hr'⟩ := hf r k hr
  refine ⟨r', k', ?_, hr'⟩
  change Prog.bind m f w = _
  unfold Prog.bind
  rw [hm]
  exact hm'

/-- A call that continues with a value of the world reads when its continuation does. -/
theorem gets_bind {g : World → α} (h : Reads (f (g w)) w Q) : Reads (Prog.gets g >>= f) w Q := h

/-- What a reading program establishes, as a precondition. -/
theorem wp (h : Reads m w P) {R : α → World → Prop} {C : Disk → Prop}
    (hR : ∀ r k, P r → R r { w with asked := k }) : Prog.wp m R C w := by
  obtain ⟨r, k, hm, hr⟩ := h
  unfold Prog.wp
  rw [hm]
  exact hR r k hr

end Reads

/-- Asking for the time only reads. -/
theorem reads_trustedNowMs : Reads (trustedNowMs ω) w fun _ => True := ⟨_, _, rfl, trivial⟩

/-- Asking for the device binding only reads. -/
private theorem reads_probeBinding : Reads (probeBinding ω) w fun _ => True := ⟨_, _, rfl, trivial⟩

/-- So does asking for the latest time that it can be. -/
private theorem reads_kl1TrustedUpperNow : Reads (kl1TrustedUpperNow ω) w fun _ => True :=
  ⟨_, _, rfl, trivial⟩

/-! ### Codes of refusal -/

/-- The code refuses a call, without a word on the request's record. -/
def Refuses (rc : ErrorCode) : Prop :=
  rc ≠ .success ∧ rc ≠ .businessKeyPartialRollback ∧ rc ≠ .businessKeyImportUnknown

instance (rc : ErrorCode) : Decidable (Refuses rc) := inferInstanceAs (Decidable (_ ∧ _ ∧ _))

/-- `BUSINESS_KEY_NOT_READY` is a code of refusal. -/
theorem refuses_notReady : Refuses .businessKeyNotReady := by decide

/-- So is `BUSINESS_KEY_CONFLICT`. -/
theorem refuses_conflict : Refuses .businessKeyConflict := by decide

/-- A list of checks that refuse. -/
theorem refuses_of_firstReject {l : List (Bool × ErrorCode)} {rc : ErrorCode}
    (hl : (l.all fun c => decide (Refuses c.2)) = true) (h : firstReject l = some rc) :
    Refuses rc := by
  have hrc := List.all_eq_true.mp hl _ (exists_of_firstReject_eq_some h)
  exact of_decide_eq_true hrc

/-- Every error of the check of the items is a code of refusal, by induction on the items. -/
theorem refuses_of_validateItems {cfg : ServiceConfig} {seenP seenK : List String}
    {items : List WrappedKeyItem} {rc : ErrorCode}
    (h : validateItems cfg seenP seenK items = .error rc) : Refuses rc := by
  induction items generalizing seenP seenK with
  | nil => cases h
  | cons item items ih =>
    unfold validateItems at h
    split at h
    · rename_i rc' hrej
      cases h
      exact refuses_of_firstReject rfl hrej
    · exact ih h

/-- So is every error of the check of a request. -/
private theorem refuses_of_validateStructure {cfg : ServiceConfig} {requestId domain : String}
    {items : List WrappedKeyItem} (h : validateStructure cfg requestId domain items ≠ .success) :
    Refuses (validateStructure cfg requestId domain items) := by
  unfold validateStructure at h ⊢
  split
  · rename_i rc hrej
    exact refuses_of_firstReject rfl hrej
  · rename_i hrej
    rw [hrej] at h
    split
    · rename_i rc hitems
      exact refuses_of_validateItems hitems
    · rename_i seen hitems
      rw [hitems] at h
      simp only at h
      split
      · rename_i hall
        rw [if_pos hall] at h
        exact absurd rfl h
      · decide

/-- So is every error of the check of one envelope. -/
private theorem refuses_of_validateEnvelope {X : Crypto} {L : EnvelopeLib} {item : WrappedKeyItem}
    {ctx : EnvelopeContext} {limits : EnvelopeLimits} {rc : ErrorCode}
    (h : validateEnvelope X L item ctx limits = .error rc) : Refuses rc := by
  unfold validateEnvelope at h
  split at h
  · rename_i rc' hrej
    cases h
    exact refuses_of_firstReject rfl hrej
  split at h
  · rename_i rc' hparse
    cases h
    unfold parseEcdhEsP256Parameters at hparse
    split at hparse
    · cases hparse; decide
    split at hparse
    · cases hparse; decide
    split at hparse
    · cases hparse; decide
    split at hparse
    · cases hparse; decide
    · cases hparse
  split at h
  · rename_i rc' hrej
    cases h
    exact refuses_of_firstReject rfl hrej
  · cases h

/-! ### The structure of a request -/

/-- What the item loop establishes, after the purposes `seen`. -/
structure ItemsOk (cfg : ServiceConfig) (seen : List String) (items : List WrappedKeyItem) :
    Prop where
  nodup : (items.map (·.purpose)).Nodup
  required : ∀ it ∈ items, it.purpose ∈ cfg.requiredPurposes
  fresh : ∀ it ∈ items, it.purpose ∉ seen
  version : ∀ it ∈ items, 0 < it.businessKeyVersion ∧ it.businessKeyVersion < 2 ^ 63

/-- Items that get through are well formed, and the list of purposes grows by theirs: no purpose
appears twice. -/
private theorem itemsOk_of_validateItems {cfg : ServiceConfig} {seenP seenK seen : List String}
    {items : List WrappedKeyItem} (h : validateItems cfg seenP seenK items = .ok seen) :
    ItemsOk cfg seenP items ∧ ∀ p, p ∈ seen ↔ p ∈ seenP ∨ p ∈ items.map (·.purpose) := by
  induction items generalizing seenP seenK with
  | nil =>
    cases h
    refine ⟨⟨List.nodup_nil, ?_, ?_, ?_⟩, fun p => by simp⟩
    all_goals exact fun it hit => (by cases hit)
  | cons item items ih =>
    unfold validateItems at h
    split at h
    · cases h
    · rename_i hrej
      have hchecks := firstReject_eq_none_iff.mp hrej
      obtain ⟨hok, hmem⟩ := ih h
      simp only [itemChecks, List.forall_mem_cons] at hchecks
      obtain ⟨hreq, hfresh, -, -, -, -, -, hver, -⟩ := hchecks
      simp only [Bool.not_eq_false', List.contains_iff_mem] at hreq
      simp only [List.contains_eq_mem, decide_eq_false_iff_not] at hfresh
      obtain ⟨hzero, hmax⟩ := Bool.or_eq_false_iff.mp hver
      have hzero := beq_eq_false_iff_ne.mp hzero
      have hmax := of_decide_eq_false hmax
      unfold maxBusinessKeyVersion at hmax
      refine ⟨⟨?_, ?_, ?_, ?_⟩, fun p => ?_⟩
      · rw [List.map_cons, List.nodup_cons]
        refine ⟨fun hin => ?_, hok.nodup⟩
        -- the items after this one were checked against its purpose
        obtain ⟨it, hit, hp⟩ := List.mem_map.mp hin
        exact hok.fresh it hit (by rw [hp]; exact List.mem_cons_self ..)
      · intro it hit
        rcases List.mem_cons.mp hit with rfl | hit
        · exact hreq
        · exact hok.required it hit
      · intro it hit
        rcases List.mem_cons.mp hit with rfl | hit
        · exact hfresh
        · exact fun hin => hok.fresh it hit (List.mem_cons_of_mem _ hin)
      · intro it hit
        rcases List.mem_cons.mp hit with rfl | hit
        · omega
        · exact hok.version it hit
      · rw [hmem, List.map_cons, List.mem_cons, List.mem_cons]
        tauto

/-- A request of the right structure lists the required purposes, each once. -/
theorem itemsOk_of_validateStructure {cfg : ServiceConfig} {requestId domain : String}
    {items : List WrappedKeyItem} (h : validateStructure cfg requestId domain items = .success) :
    ItemsOk cfg [] items ∧
      ∀ p, p ∈ cfg.requiredPurposes ↔ p ∈ items.map (·.purpose) := by
  unfold validateStructure at h
  split at h
  · rename_i rc hrej
    have hrefuse : Refuses rc := by
      exact refuses_of_firstReject rfl hrej
    exact absurd h hrefuse.1
  split at h
  · rename_i rc hitems
    exact absurd h (refuses_of_validateItems hitems).1
  · rename_i seen hitems
    obtain ⟨hok, hmem⟩ := itemsOk_of_validateItems hitems
    split at h
    · rename_i hall
      refine ⟨hok, fun p => ⟨fun hp => ?_, fun hp => ?_⟩⟩
      · have hseen := List.all_eq_true.mp hall p hp
        rw [List.contains_iff_mem, hmem] at hseen
        rcases hseen with hseen | hseen
        · cases hseen
        · exact hseen
      · obtain ⟨it, hit, rfl⟩ := List.mem_map.mp hp
        exact hok.required it hit
    · cases h

/-- A request of the right structure is for an allowed domain. -/
theorem allowed_of_validateStructure {cfg : ServiceConfig} {requestId domain : String}
    {items : List WrappedKeyItem} (h : validateStructure cfg requestId domain items = .success) :
    cfg.allowedDomains.contains domain = true := by
  unfold validateStructure at h
  split at h
  · rename_i rc hrej
    have hrefuse : Refuses rc := refuses_of_firstReject rfl hrej
    exact absurd h hrefuse.1
  · rename_i hrej
    have hchecks := firstReject_eq_none_iff.mp hrej
    simp only [headChecks, List.forall_mem_cons, Bool.not_eq_false'] at hchecks
    exact hchecks.2.2.1

/-- What the envelope loop establishes of a row. -/
structure RowChecked (D : Deployment) (requestId domain : String) (r : Row) : Prop where
  purpose : r.1.purpose ∈ providerPurposes
  parsed : parseEcdhEsP256Parameters D.platform.envelope r.1.parameters = .ok r.2.params
  additional : r.2.canonicalAad = rebuildEnvelopeAad requestId domain r.1 r.2.params

/-- The envelope loop keeps the items and accepts each envelope. -/
theorem checkRows_ok {requestId domain : String} {b : BusinessKeyDeviceBinding}
    {items : List WrappedKeyItem} {rows : List Row}
    (h : checkRows D requestId domain b items = .ok rows) :
    rows.map Prod.fst = items ∧ ∀ r ∈ rows, RowChecked D requestId domain r := by
  induction items generalizing rows with
  | nil =>
    cases h
    exact ⟨rfl, fun r hr => (by cases hr)⟩
  | cons item items ih =>
    unfold checkRows at h
    split at h
    · cases h
    rename_i v hv
    split at h
    · cases h
    rename_i rows' hrows
    cases h
    obtain ⟨hmap, hchecked⟩ := ih hrows
    refine ⟨by rw [List.map_cons, hmap], fun r hr => ?_⟩
    rcases List.mem_cons.mp hr with rfl | hr
    · obtain ⟨hparsed, -, -, -⟩ := validateEnvelope_ok hv
      have haad := canonicalAad_of_validateEnvelope hv
      exact ⟨mem_providerPurposes.mpr (purpose_of_validateEnvelope hv), hparsed, haad⟩
    · exact hchecked r hr

/-- The check of all envelopes fails with a code of refusal. -/
private theorem refuses_of_checkRows {requestId domain : String} {b : BusinessKeyDeviceBinding}
    {items : List WrappedKeyItem} {rc : ErrorCode}
    (h : checkRows D requestId domain b items = .error rc) : Refuses rc := by
  induction items with
  | nil => cases h
  | cons item items ih =>
    unfold checkRows at h
    split at h
    · rename_i rc' hv
      cases h
      exact refuses_of_validateEnvelope hv
    split at h
    · rename_i rc' hrows
      cases h
      exact ih hrows
    · cases h

/-- The admitted request is the one that was made: its structure and its envelopes were
accepted, and its digest is that of the request. -/
structure AdmittedFor (D : Deployment) (requestId domain : String)
    (items : List WrappedKeyItem) (a : Admitted) : Prop extends AdmittedOk D a where
  structural : validateStructure D.service requestId domain items = .success
  envelopes : checkRows D requestId domain a.binding items = .ok a.rows
  digest : a.digest = buildRequestDigest D requestId domain a.rows
  requestId : a.requestId = requestId
  domain : a.businessDomain = domain
  items : a.rows.map Prod.fst = items
  allowed : D.service.allowedDomains.contains a.businessDomain = true

/-- The request that was admitted is the one that was made. -/
theorem AdmittedFor.request_eq {q : ImportRequest} {a : Admitted}
    (h : AdmittedFor D q.requestId q.domain q.items a) : a.request = q := by
  rw [Admitted.request, h.requestId, h.domain, h.items]

/-- A record with the request digest `d` is taken for the request `q`: the digest is the one
computed for `q`, or empty. -/
def OwnDigest (D : Deployment) (q : ImportRequest) (d : String) : Prop :=
  ∃ a, AdmittedFor D q.requestId q.domain q.items a ∧ (d = "" ∨ d = a.digest)

/-- **The checks on a request.** -/
theorem reads_checkRequest {requestId domain : String} {items : List WrappedKeyItem} :
    Reads (checkRequest D ω requestId domain items) w fun r =>
      (∀ a, r = .ok a → AdmittedFor D requestId domain items a) ∧
        ∀ rc, r = .error rc → Refuses rc := by
  have herror : ∀ {w : World} {rc : ErrorCode}, Refuses rc →
      Reads (Pure.pure (.error rc) : SecM (Except ErrorCode Admitted)) w fun r =>
        (∀ a, r = .ok a → AdmittedFor D requestId domain items a) ∧
          ∀ rc, r = .error rc → Refuses rc := by
    intro w rc hrc
    exact .pure ⟨fun a ha => (by cases ha), fun rc' h' => (by cases h'; exact hrc)⟩
  unfold checkRequest
  by_cases hstruct : validateStructure D.service requestId domain items ≠ .success
  · rw [if_pos hstruct]
    exact herror (refuses_of_validateStructure hstruct)
  rw [if_neg hstruct]
  obtain ⟨hitems, hrequired⟩ := itemsOk_of_validateStructure (not_not.mp hstruct)
  refine reads_probeBinding.bind fun b k _ => ?_
  split
  · exact herror (by decide)
  rename_i hbinding
  split
  · rename_i rc hrows
    exact herror (refuses_of_checkRows hrows)
  rename_i rows hrows
  obtain ⟨hmap, hchecked⟩ := checkRows_ok hrows
  have hpurposes : rows.map (·.1.purpose) = items.map (·.purpose) := by
    rw [← hmap, List.map_map]
    rfl
  have hmem : ∀ r ∈ rows, r.1 ∈ items := by
    intro r hr
    rw [← hmap]
    exact List.mem_map_of_mem hr
  refine .pure ⟨fun a ha => ?_, fun rc hrc => (by cases hrc)⟩
  cases ha
  refine { rid := rfl, rows_ne := ?_, nodup := ?_, required := fun p => ?_,
           purpose := fun r hr => (hchecked r hr).purpose,
           version := fun r hr => hitems.version r.1 (hmem r hr),
           parsed := fun r hr => (hchecked r hr).parsed,
           additional := fun r hr => (hchecked r hr).additional, certificate := ?_,
           structural := not_not.mp hstruct, envelopes := hrows, digest := rfl,
           requestId := rfl, domain := rfl, items := hmap,
           allowed := allowed_of_validateStructure (not_not.mp hstruct) }
  · rintro rfl
    obtain ⟨p, hp⟩ := List.exists_mem_of_ne_nil _ D.service.requiredPurposes_ne
    rw [hrequired, ← hmap] at hp
    cases hp
  · exact hpurposes ▸ hitems.nodup
  · rw [hrequired, hpurposes]
  · intro hcert
    have hcert' : b.activeCertDigest = [] := hcert
    simp [bindingAgreementOk, hcert'] at hbinding

/-! ### The slots of a live provider -/

section Slots

variable {prov : Provider} {m : KDoc} (h : StateSim D M K prov.state m) (hready : prov.ready = true)

include h hready

/-- A slot in use, as `querySlot` shows it. Only in the domain of its key does it open. -/
theorem querySlot_of_active {p : String} {i : KeyInfo} (hi : m.active p = some i)
    (domain : String) :
    ∃ info, querySlot D.platform prov domain p = (.success, info) ∧ info.present = true ∧
      info.businessKeyVersion = i.version ∧ info.keyIdDigest = i.keyIdDigest ∧
      info.algorithm = i.algorithm ∧ info.activeGeneration = m.gen ∧
      (prov.kek = K → domain = i.domain → info.state = .active) := by
  obtain ⟨slot, hslot, hsim⟩ := h.slot p i hi
  unfold querySlot
  rw [hready, hslot]
  simp only [Bool.not_true, Bool.false_eq_true, if_false, hsim.present]
  refine ⟨_, rfl, rfl, hsim.version, hsim.keyIdDigest, hsim.algorithm, hsim.gen, ?_⟩
  intro hkek hdomain
  obtain ⟨plain, hplain⟩ := hsim.opens
  simp only [hkek, hdomain, hplain]

/-- A slot not in use, as `querySlot` shows it. -/
theorem querySlot_of_inactive {p : String} (hp : m.active p = none) (domain : String) :
    querySlot D.platform prov domain p = (.success, { state := .missing }) := by
  unfold querySlot
  rw [hready, h.noSlot p hp]
  rfl

/-- Every required slot shows the active generation. -/
theorem querySlot_generation (hm : DocInv (scheme D) m) {p : String}
    (hp : p ∈ D.service.requiredPurposes) (domain : String) :
    (querySlot D.platform prov domain p).1 = .success ∧
      (querySlot D.platform prov domain p).2.activeGeneration = m.gen := by
  cases hi : m.active p with
  | some i =>
    obtain ⟨info, hq, -, -, -, -, hgen, -⟩ := querySlot_of_active h hready hi domain
    rw [hq]
    exact ⟨rfl, hgen⟩
  | none =>
    rw [querySlot_of_inactive h hready hi domain]
    refine ⟨rfl, ?_⟩
    -- a batch covers every required purpose, so there is none yet
    change 0 = m.gen
    by_contra hne
    have hsome := (hm.shaped (by omega) p).mpr hp
    rw [hi] at hsome
    cases hsome

/-- **`next_generation`** is the generation after the active one. -/
theorem nextGeneration_eq (hm : DocInv (scheme D) m) : nextGeneration D prov = m.gen + 1 := by
  -- every slot shows the active generation, so the maximum is reached at the first one
  have hfold : ∀ l : List String, (∀ p ∈ l, p ∈ D.service.requiredPurposes) → ∀ g, g ≤ m.gen →
      l.foldl (fun g p =>
        let q := querySlot D.platform prov businessDomainV2c p
        if q.1 = .success then max g q.2.activeGeneration else g) g =
        if l = [] then g else m.gen := by
    intro l
    induction l with
    | nil => exact fun _ g _ => rfl
    | cons p l ih =>
      intro hl g hg
      obtain ⟨hok, hgen⟩ := querySlot_generation h hready hm (hl p (List.mem_cons_self ..))
        businessDomainV2c
      rw [List.foldl_cons, if_neg (List.cons_ne_nil _ _)]
      simp only [hok, if_true, hgen]
      rw [max_eq_right hg, ih (fun q hq => hl q (List.mem_cons_of_mem _ hq)) _ le_rfl]
      split <;> rfl
  -- versions grow with the generation, so the counter does not wrap
  have hlt : m.gen < 2 ^ 63 := by
    rcases Nat.eq_zero_or_pos m.gen with h0 | hpos
    · rw [h0]; norm_num
    · obtain ⟨p, hp⟩ := List.exists_mem_of_ne_nil _ D.service.requiredPurposes_ne
      obtain ⟨i, hi⟩ := Option.isSome_iff_exists.mp ((hm.shaped hpos p).mpr hp)
      exact lt_of_le_of_lt (hm.ver p i hi).1 (hm.ver p i hi).2
  unfold nextGeneration
  rw [hfold _ (fun p hp => hp) 0 (Nat.zero_le _), if_neg D.service.requiredPurposes_ne]
  exact Nat.mod_eq_of_lt (by omega)

/-- The version check makes the batch newer than the active one. -/
theorem newer_of_versionTimeCheck {domain : String} {now : ℤ} {items : List WrappedKeyItem}
    {rows : List Row} (hitems : rows.map Prod.fst = items)
    (hcheck : versionTimeCheck D prov domain now items = .success) (domain' : String) :
    (scheme D).Newer (batchOf (rows.map (stagedItem D domain'))) m.active := by
  have hall : ∀ it ∈ items, ∀ j, m.active it.purpose = some j →
      j.version < it.businessKeyVersion := by
    clear hitems
    induction items with
    | nil => exact fun it hit => (by cases hit)
    | cons item items ih =>
      unfold versionTimeCheck at hcheck
      simp only at hcheck
      split at hcheck
      · cases hcheck
      rename_i hversion
      split at hcheck
      · cases hcheck
      intro it hit j hj
      rcases List.mem_cons.mp hit with rfl | hit
      · obtain ⟨info, hq, hpresent, hver, -⟩ := querySlot_of_active h hready hj domain
        rw [hq] at hversion
        -- the slot shows the version of the active key, and the check rejects one not above it
        by_contra hle
        refine hversion ⟨rfl, hpresent, ?_⟩
        rw [hver]
        omega
      · exact ih hcheck it hit j hj
  intro p i j hi hj
  obtain ⟨it, hit, rfl, rfl⟩ := exists_item_of_batchOf hi
  obtain ⟨r, hr, rfl⟩ := List.mem_map.mp hit
  refine hall r.1 ?_ j hj
  rw [← hitems]
  exact List.mem_map_of_mem hr

end Slots

/-! ### Decisions -/

/-- A record of the same request id belongs to another request. -/
def Conflicts (a : Admitted) (e : BusinessKeyJournalEntry) : Prop :=
  e.requestDigest ≠ "" ∧ e.requestDigest ≠ a.digest

instance (a : Admitted) (e : BusinessKeyJournalEntry) : Decidable (Conflicts a e) :=
  inferInstanceAs (Decidable (_ ∧ _))

/-- A record that does not conflict is taken for the request. -/
theorem AdmittedFor.ownDigest {q : ImportRequest} {a : Admitted} {e : BusinessKeyJournalEntry}
    (ha : AdmittedFor D q.requestId q.domain q.items a) (h : ¬ Conflicts a e) :
    OwnDigest D q e.requestDigest :=
  ⟨a, ha, by by_contra hc; exact h (not_or.mp hc)⟩

/-- A request whose record has the digest of another request is answered with the conflict, and with
nothing of the record. -/
theorem existingDecision_of_conflict {a : Admitted} {e : BusinessKeyJournalEntry}
    (h : Conflicts a e) :
    existingDecision a e =
      .reply .businessKeyConflict (refusal a.requestId a.businessDomain .failed) :=
  if_pos h

/-- What is done with a record that does not conflict goes by its phase. -/
theorem existingDecision_cases {a : Admitted} {e : BusinessKeyJournalEntry}
    (h : ¬ Conflicts a e) :
    (e.phase = .succeeded ∧
      existingDecision a e = .reply .success (buildCommittedResult a.requestId e)) ∨
    (e.phase = .failed ∧ existingDecision a e = .reply .businessKeyImportUnknown
      { refusal a.requestId a.businessDomain .failed with items := e.items }) ∨
    (e.phase.terminal = false ∧ existingDecision a e = .recover a e) := by
  have heq : existingDecision a e = _ := if_neg h
  rw [heq]
  cases hphase : e.phase with
  | succeeded => exact .inl ⟨rfl, rfl⟩
  | failed => exact .inr (.inl ⟨rfl, rfl⟩)
  | _ => exact .inr (.inr ⟨rfl, rfl⟩)

/-- What the deciding part of an import can decide, in the world `w`. -/
inductive Decided (D : Deployment) (w : World) (requestId domain : String)
    (items : List WrappedKeyItem) : Decision → Prop
  /-- The call is turned away. -/
  | refuse {rc : ErrorCode} {out : ImportResult} (hstate : out.state ≠ .committed)
      (hrc : Refuses rc ∨ rc = .businessKeyImportUnknown ∧ out.state = .unknown) :
      Decided D w requestId domain items (.reply rc out)
  /-- The journal has a record of the request. -/
  | known {a : Admitted} {e : BusinessKeyJournalEntry}
      (ha : AdmittedFor D requestId domain items a) (hready : w.svc.importReady = true)
      (he : loadJournal D.platform w.prov a.ridDigest = some e) :
      Decided D w requestId domain items (existingDecision a e)
  /-- The journal has no record of the request, or does not show it. -/
  | start {a : Admitted} (ha : AdmittedFor D requestId domain items a)
      (hready : w.svc.importReady = true)
      (he : loadJournal D.platform w.prov a.ridDigest = none)
      (htime : ∃ now, versionTimeCheck D w.prov domain now items = .success) :
      Decided D w requestId domain items (.start a)

section Decisions

variable {requestId domain : String} {items : List WrappedKeyItem}

/-- The gates of either import let an admitted request through, or refuse. -/
def Gated (D : Deployment) (w : World) (requestId domain : String) (items : List WrappedKeyItem) :
    Except (ErrorCode × ImportResult) Admitted → Prop
  | .ok a => AdmittedFor D requestId domain items a ∧ w.svc.importReady = true
  | .error r => Refuses r.1 ∧ r.2.state ≠ .committed

/-- The last gate of both imports. -/
private theorem gated_checkRequest (hready : w.svc.importReady = true) :
    Reads (checkRequest D ω requestId domain items >>= fun r =>
        match r with
        | .error rc => Pure.pure (.error (rc, refusal requestId domain .failed))
        | .ok a => Pure.pure (.ok a)) w
      (Gated D w requestId domain items) := by
  refine reads_checkRequest.bind fun r k hr => ?_
  cases r with
  | error rc => exact .pure ⟨hr.2 rc rfl, by simp [refusal]⟩
  | ok a => exact .pure ⟨hr.1 a rfl, hready⟩

/-- The gates of the legacy import establish that the service is ready, the request well formed and
each envelope valid. -/
theorem reads_importGates :
    Reads (importGates D ω requestId domain items) w (Gated D w requestId domain items) := by
  unfold importGates
  refine Reads.gets_bind ?_
  split
  · exact .pure ⟨refuses_notReady, by simp [refusal]⟩
  split
  · exact .pure ⟨refuses_notReady, by simp [refusal]⟩
  · rename_i hready
    exact gated_checkRequest (by simpa using hready)

/-- The gates of the KL1 import establish the same of its request. -/
theorem reads_importKl1Gates {context : KeyprovImportContext} :
    Reads (importKl1Gates D ω requestId domain items context) w
      (Gated D w requestId domain items) := by
  unfold importKl1Gates
  refine Reads.gets_bind ?_
  split
  · exact .pure ⟨refuses_notReady, by simp [refusal]⟩
  split
  · exact .pure ⟨refuses_notReady, by simp [refusal]⟩
  · rename_i hready
    simp only [Bool.or_eq_true, not_or] at hready
    exact gated_checkRequest (by simpa using hready.1.1.1)

/-- The check of versions and validity windows fails with a code of refusal. -/
private theorem refuses_versionTimeCheck {prov : Provider} {now : ℤ}
    (h : versionTimeCheck D prov domain now items ≠ .success) :
    Refuses (versionTimeCheck D prov domain now items) := by
  induction items with
  | nil => exact absurd rfl h
  | cons item items ih =>
    unfold versionTimeCheck at h ⊢
    simp only at h ⊢
    split
    · decide
    rename_i hversion
    rw [if_neg hversion] at h
    split
    · decide
    rename_i htime
    rw [if_neg htime] at h
    exact ih h

/-- The version and time check refuses, or has found the versions newer. -/
private theorem reads_validateVersionAndTime :
    Reads (validateVersionAndTime D ω domain items) w fun rc =>
      (rc ≠ .success → Refuses rc) ∧
        (rc = .success → ∃ now, versionTimeCheck D w.prov domain now items = .success) := by
  unfold validateVersionAndTime
  refine Reads.gets_bind (reads_trustedNowMs.bind fun t k _ => ?_)
  cases t with
  | none => exact .pure ⟨fun _ => (by decide), fun h => (by cases h)⟩
  | some now => exact .pure ⟨refuses_versionTimeCheck, fun h => ⟨now, h⟩⟩

/-- **The legacy import decides.** -/
theorem reads_importDecide :
    Reads (importDecide D ω requestId domain items) w (Decided D w requestId domain items) := by
  unfold importDecide
  refine reads_importGates.bind fun r k hr => ?_
  cases r with
  | error r => exact .pure (.refuse hr.2 (.inl hr.1))
  | ok a =>
    refine Reads.gets_bind ?_
    dsimp only
    cases he : loadJournal D.platform w.prov a.ridDigest with
    | some e => exact .pure (.known hr.1 hr.2 he)
    | none =>
      refine reads_validateVersionAndTime.bind fun rc k' hrc => ?_
      split
      · rename_i hne
        exact .pure (.refuse (by simp [refusal]) (.inl (hrc.1 hne)))
      · rename_i hok
        exact .pure (.start hr.1 hr.2 he (hrc.2 (not_not.mp hok)))

/-- So does the check of the time lease of a KL1 request. -/
private theorem refuses_leaseCheck {svc : Service} {context : KeyprovImportContext} {u : Option ℤ}
    (h : leaseCheck D svc context u ≠ .success) : Refuses (leaseCheck D svc context u) := by
  unfold leaseCheck at h ⊢
  split
  · decide
  · rename_i u
    simp only at h
    split
    · decide
    rename_i hepoch
    rw [if_neg hepoch] at h
    split
    · decide
    rename_i hlease
    rw [if_neg hlease] at h
    exact absurd rfl h

/-- The admission of `importKl1` refuses, or has found the versions newer. -/
theorem reads_kl1Admission {a : Admitted} {context : KeyprovImportContext} :
    Reads (kl1Admission D ω a context) w fun rc =>
      (rc ≠ .success → Refuses rc) ∧
        (rc = .success → ∃ now,
          versionTimeCheck D w.prov a.businessDomain now (a.rows.map Prod.fst) = .success) := by
  unfold kl1Admission
  refine Reads.gets_bind (reads_kl1TrustedUpperNow.bind fun u k _ => ?_)
  simp only
  split
  · rename_i hne
    exact .pure ⟨fun _ => refuses_leaseCheck hne, fun h => absurd h hne⟩
  split
  · exact .pure ⟨fun _ => (by decide), fun h => (by cases h)⟩
  refine reads_validateVersionAndTime.bind fun rc k' hrc => ?_
  split
  · rename_i hne
    exact .pure ⟨fun _ => hrc.1 hne, fun h => absurd h hne⟩
  · rename_i hok
    refine reads_kl1TrustedUpperNow.bind fun u' k'' _ => ?_
    exact .pure ⟨refuses_leaseCheck, fun _ => hrc.2 (not_not.mp hok)⟩

/-- **The KL1 import decides.** -/
theorem reads_importKl1Decide {context : KeyprovImportContext} :
    Reads (importKl1Decide D ω requestId domain items context) w
      (fun r => Decided D w requestId domain items r.1) := by
  unfold importKl1Decide
  refine reads_importKl1Gates.bind fun r k hr => ?_
  cases r with
  | error r => exact .pure (.refuse hr.2 (.inl hr.1))
  | ok a =>
    refine Reads.gets_bind ?_
    simp only [id]
    split
    · rename_i e hstatus hentry
      refine .pure (.known hr.1 hr.2 ?_)
      unfold loadJournal
      simp only [hstatus, hentry]
    · rename_i hstatus
      split
      · exact .pure (.refuse (by simp [refusal]) (.inr ⟨rfl, rfl⟩))
      refine reads_kl1Admission.bind fun rc k' hrc => ?_
      split
      · rename_i hne
        exact .pure (.refuse (by simp [refusal]) (.inl (hrc.1 hne)))
      · rename_i hok
        refine .pure (.start hr.1 hr.2 ?_ ?_)
        · unfold loadJournal
          simp only [hstatus]
        · obtain ⟨now, hnow⟩ := hrc.2 (not_not.mp hok)
          rw [hr.1.domain, hr.1.items] at hnow
          exact ⟨now, hnow⟩
    · exact .pure (.refuse (by simp [refusal]) (.inl (by decide)))
    · exact .pure (.refuse (by simp [refusal]) (.inr ⟨rfl, rfl⟩))

end Decisions

end TboxSec.Keyprov
