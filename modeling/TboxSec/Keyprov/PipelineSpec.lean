import TboxSec.Keyprov.LedgerSpec

/-!
# The pipeline over the protocol

`run_pipeline` as a path of the protocol: it takes a request up, updates its pending record,
commits its batch and settles the record, or gives the record up at any point before the
commit. Each part of the pipeline has a simulation triple; they are assembled at the end in
`runPipeline_triple`, whose `Verdict` says what the journal holds when the pipeline answers
COMMITTED or FAILED.

While the pipeline runs, the record it works on is **in memory and pending** (`Working`). Up to
the commit its generation is the next one, after the commit it is the active one.
-/

namespace TboxSec.Keyprov

open Canonical Crash Journal Crash.Simulation

variable {D : Deployment} {M : Set ImportRequest} {π : KPolicy} {K : Bytes} {ω : Oracle}
  {w : World} {s : KSys}
variable {a : Admitted} {e : BusinessKeyJournalEntry}

/-! ### Admitted requests -/

/-- What the checks of both imports have established of an admitted request. -/
structure AdmittedOk (D : Deployment) (a : Admitted) : Prop where
  rid : a.ridDigest = textDigest D.platform.crypto a.requestId
  rows_ne : a.rows ≠ []
  nodup : (a.rows.map (·.1.purpose)).Nodup
  required : ∀ p, p ∈ D.service.requiredPurposes ↔ p ∈ a.rows.map (·.1.purpose)
  purpose : ∀ r ∈ a.rows, r.1.purpose ∈ providerPurposes
  version : ∀ r ∈ a.rows, 0 < r.1.businessKeyVersion ∧ r.1.businessKeyVersion < 2 ^ 63
  parsed : ∀ r ∈ a.rows,
    parseEcdhEsP256Parameters D.platform.envelope r.1.parameters = .ok r.2.params
  additional : ∀ r ∈ a.rows,
    r.2.canonicalAad = rebuildEnvelopeAad a.requestId a.businessDomain r.1 r.2.params
  certificate : a.binding.activeCertDigest ≠ []

/-- The request that was admitted. -/
def Admitted.request (a : Admitted) : ImportRequest :=
  ⟨a.requestId, a.businessDomain, a.rows.map Prod.fst⟩

/-- The record of an admitted request in phase `ph`, up to the commit. -/
def recordAt (D : Deployment) (a : Admitted) (generation : ℕ) (now : ℤ)
    (ph : BusinessKeyImportPhase) : BusinessKeyJournalEntry :=
  { initialEntry D a generation now with phase := ph }

/-- The purposes of the items of a new record. -/
private theorem map_purpose_stagedItem (domain : String) (rows : List Row) :
    (rows.map (stagedItem D domain)).map (·.purpose) = rows.map (·.1.purpose) := by
  rw [List.map_map]
  rfl

/-- A batch has a key for each purpose its items list. -/
private theorem isSome_batchOf {items : List BusinessKeyStatus} {p : String} :
    (batchOf items p).isSome ↔ p ∈ items.map (·.purpose) := by
  simp [batchOf, List.find?_isSome]

/-- The batch depends on the purposes and the keys of the items alone. -/
theorem batchOf_congr {items items' : List BusinessKeyStatus}
    (h : List.Forall₂ (fun it it' => it'.purpose = it.purpose ∧ infoOf it' = infoOf it)
      items items') : batchOf items' = batchOf items := by
  funext p
  induction h with
  | nil => rfl
  | cons hit _ ih =>
    unfold batchOf at ih ⊢
    rw [List.find?_cons, List.find?_cons, hit.1]
    split
    · exact congrArg some hit.2
    · exact ih

theorem map_purpose_congr {items items' : List BusinessKeyStatus}
    (h : List.Forall₂ (fun it it' => it'.purpose = it.purpose ∧ infoOf it' = infoOf it)
      items items') : items'.map (·.purpose) = items.map (·.purpose) := by
  induction h with
  | nil => rfl
  | cons hit _ ih => rw [List.map_cons, List.map_cons, hit.1, ih]

section Shape

variable (ok : AdmittedOk D a)

include ok

theorem AdmittedOk.shaped :
    (scheme D).Shaped (batchOf (a.rows.map (stagedItem D a.businessDomain))) := by
  intro p
  rw [isSome_batchOf, map_purpose_stagedItem]
  exact (ok.required p).symm

theorem AdmittedOk.bounded :
    (scheme D).Bounded (batchOf (a.rows.map (stagedItem D a.businessDomain))) := by
  intro p i hi
  obtain ⟨it, hit, -, rfl⟩ := exists_item_of_batchOf hi
  obtain ⟨r, hr, rfl⟩ := List.mem_map.mp hit
  exact ok.version r hr

private theorem AdmittedOk.items_nodup :
    ((a.rows.map (stagedItem D a.businessDomain)).map (·.purpose)).Nodup := by
  rw [map_purpose_stagedItem]
  exact ok.nodup

theorem AdmittedOk.purposes : ∀ p ∈ D.service.requiredPurposes, p ∈ providerPurposes := by
  intro p hp
  obtain ⟨r, hr, rfl⟩ := List.mem_map.mp ((ok.required p).mp hp)
  exact ok.purpose r hr

end Shape

/-! ### The record being worked on -/

/-- The protocol works on the record `e`, which is pending. -/
structure Working (D : Deployment) (s : KSys) (e : BusinessKeyJournalEntry) : Prop where
  inv : Inv (scheme D) s
  busy : s.busy = some e.requestIdDigest
  entry : s.mem.entry e.requestIdDigest = some e
  pending : phaseStatus e.phase = .pending
  nodup : (e.items.map (·.purpose)).Nodup

/-- Steps that leave the document and the work in progress alone. -/
theorem Working.same {s' : KSys} (h : Working D s e) (hpath : (simulation D M π K).Path s s')
    (hsame : SameDoc s s') : Working D s' e where
  inv := inv_steps hpath h.inv
  busy := hsame.busy.trans h.busy
  entry := by rw [hsame.mem]; exact h.entry
  pending := h.pending
  nodup := h.nodup

/-- **A save of the record in another pending form.** -/
theorem Working.save (h : Working D s e) (hlive : Live D M K w s) (e' : BusinessKeyJournalEntry)
    (hrid : e'.requestIdDigest = e.requestIdDigest) (hgen : e'.generation = e.generation)
    (hbatch : batchOf e'.items = batchOf e.items) (hdigest : e'.requestDigest = e.requestDigest)
    (hnodup : (e'.items.map (·.purpose)).Nodup)
    (hpending : phaseStatus e'.phase = .pending) (hphase : e'.phase ≠ .rollingBack) :
    (simulation D M π K).Triple s w (saveJournal D.platform ω e')
      (fun _ w' s' => Working D s' e' ∧ s'.mem.gen = s.mem.gen ∧ SameStage w w') := by
  have hstep : Step (scheme D) π s (s.withMem (s.mem.put e'.requestIdDigest e')) := by
    rw [hrid]
    exact .update hlive.loaded h.busy h.entry h.pending ⟨hgen, hbatch, hdigest⟩ hpending
  -- what is staged belongs to the record being worked on, which stays pending
  have hopen : ∀ p slot, w.prov.state.staging.find? p = some slot →
      HasOpen (s.mem.put e'.requestIdDigest e') := by
    intro p slot hp
    refine (hlive.mem.opened p slot hp).2.put fun e₀ he₀ _ hg₀ => ⟨hpending, ?_⟩
    rw [hrid, h.entry] at he₀
    rw [hgen, Option.some.inj he₀]
    exact hg₀
  refine (saveJournal_triple hlive hnodup hphase hopen (.single hstep) rfl rfl rfl rfl).mono ?_
  rintro rc w' s' hpath - ⟨hsame, hstage⟩
  refine ⟨⟨inv_steps hpath h.inv, ?_, ?_, hpending, hnodup⟩, ?_, hstage⟩
  · rw [hsame.busy, hrid]
    exact h.busy
  · rw [hsame.mem]
    exact Doc.put_entry_self ..
  · rw [hsame.mem]
    rfl

/-! ### Verdicts -/

/-- The answer declares the request failed. A refusal of the call itself, such as NOT_READY or
CONFLICT, says nothing about the request, whatever state it carries. -/
def DeclaresFailed (rc : ErrorCode) (out : ImportResult) : Prop :=
  rc = .businessKeyPartialRollback ∨
    (rc = .success ∨ rc = .businessKeyImportUnknown) ∧ out.state = .failed

instance (rc : ErrorCode) (out : ImportResult) : Decidable (DeclaresFailed rc out) :=
  inferInstanceAs (Decidable (_ ∨ _ ∧ _))

/-- What the journal holds of a request when a call answers COMMITTED or FAILED. The record a
COMMITTED answer is read off has a request digest that is the caller's `Own`. -/
structure Verdict (m : KDoc) (Own : String → Prop) (requestId ridDigest : String)
    (rc : ErrorCode) (out : ImportResult) : Prop where
  committed : out.state = .committed → ∃ e, m.entry ridDigest = some e ∧
    e.phase = .succeeded ∧ out = buildCommittedResult requestId e
  own : out.state = .committed → ∀ e, m.entry ridDigest = some e → Own e.requestDigest
  failed : DeclaresFailed rc out → ∃ e, m.entry ridDigest = some e ∧ e.phase = .failed

theorem Verdict.mono {m : KDoc} {Own Own' : String → Prop} {requestId ridDigest : String}
    {rc : ErrorCode} {out : ImportResult} (h : Verdict m Own requestId ridDigest rc out)
    (hown : ∀ d, Own d → Own' d) : Verdict m Own' requestId ridDigest rc out where
  committed := h.committed
  own hs e he := hown _ (h.own hs e he)
  failed := h.failed

/-- A succeeded record gives a COMMITTED answer. -/
theorem verdict_of_succeeded {m : KDoc} {Own : String → Prop} {requestId ridDigest : String}
    {e : BusinessKeyJournalEntry} (he : m.entry ridDigest = some e) (hs : e.phase = .succeeded)
    (hown : Own e.requestDigest) :
    Verdict m Own requestId ridDigest .success (buildCommittedResult requestId e) where
  committed _ := ⟨e, he, hs, rfl⟩
  own _ e' he' := by
    obtain rfl := Option.some.inj (he.symm.trans he')
    exact hown
  failed h := by rcases h with h | ⟨-, h⟩ <;> cases h

/-- A failed record gives any answer but a COMMITTED one. -/
theorem verdict_of_failed {m : KDoc} {Own : String → Prop} {requestId ridDigest : String}
    {e : BusinessKeyJournalEntry} (he : m.entry ridDigest = some e) (hf : e.phase = .failed)
    {rc : ErrorCode} {out : ImportResult} (hstate : out.state ≠ .committed) :
    Verdict m Own requestId ridDigest rc out where
  committed h := absurd h hstate
  own h := absurd h hstate
  failed _ := ⟨e, he, hf⟩

/-- The pipeline on `a` has ended: the service is as it was, and the answer agrees with the
journal, whose record has the digest of `a`. -/
structure Ended (a : Admitted) (w : World) (r : ErrorCode × ImportResult) (w' : World)
    (s' : KSys) : Prop where
  svc : w'.svc = w.svc
  verdict : Verdict s'.mem (· = a.digest) a.requestId a.ridDigest r.1 r.2

/-- A pipeline that ends as a later part of it does. -/
theorem Ended.after {w₀ w' : World} {s' : KSys} {r : ErrorCode × ImportResult}
    (h : Ended a w r w' s') (hsvc : w.svc = w₀.svc) : Ended a w₀ r w' s' :=
  ⟨h.svc.trans hsvc, h.verdict⟩

/-- **The undecided end.** -/
theorem endUnknown_triple (h : Working D s e) (hlive : Live D M K w s)
    (e' : BusinessKeyJournalEntry) (hrid : e'.requestIdDigest = e.requestIdDigest)
    (hgen : e'.generation = e.generation) (hbatch : batchOf e'.items = batchOf e.items)
    (hdigest : e'.requestDigest = e.requestDigest)
    (hnodup : (e'.items.map (·.purpose)).Nodup) (text : String) :
    (simulation D M π K).Triple s w (endUnknown D ω a e' text)
      (Ended a w) := by
  unfold endUnknown
  refine Triple.bind
    (h.save hlive { e' with phase := .outcomeUnknown, lastError := text } hrid hgen
      hbatch hdigest hnodup rfl (by simp)) ?_
  rintro rc w' s' - hlive' ⟨-, -, hstage⟩
  refine Triple.pure hlive' ⟨hstage.svc, ?_, ?_, ?_⟩
  · exact fun hs => (by cases hs)
  · exact fun hs => (by cases hs)
  · rintro (hs | ⟨hs | hs, -⟩) <;> cases hs

/-- **The failed end**, possible as long as the batch is not the active one. -/
theorem endFailed_triple (h : Working D s e) (hlive : Live D M K w s)
    (hgen : e.generation = s.mem.gen + 1) (hrid : a.ridDigest = e.requestIdDigest)
    (rc : ErrorCode) :
    (simulation D M π K).Triple s w (endFailed D ω a e rc)
      (Ended a w) := by
  unfold endFailed
  refine Triple.bind (rollbackStaging_triple hlive e.generation) ?_
  rintro - w₁ s₁ hpath₁ hlive₁ ⟨hsame₁, hsvc₁, -, hempty₁⟩
  have h₁ := h.same hpath₁ hsame₁
  have hstep : Step (scheme D) π s₁ (s₁.withMem (s₁.mem.put e.requestIdDigest
      { e with phase := .failed, lastError := rc.toText })) := by
    refine .fail hlive₁.loaded (.inr h₁.busy) h₁.entry h₁.pending ⟨rfl, rfl, rfl⟩ rfl ?_
    -- the record has the next generation, so it is not the active one that is given up
    intro hactive
    change e.generation = s₁.mem.gen at hactive
    rw [hsame₁.mem] at hactive
    omega
  refine Triple.bind (saveJournal_triple
    (e := { e with phase := .failed, lastError := rc.toText }) hlive₁ h.nodup (by simp)
    (fun p slot hp => (by rw [hempty₁ hgen p] at hp; cases hp)) (.single hstep) rfl rfl rfl rfl) ?_
  rintro - w₂ s₂ - hlive₂ ⟨hsame₂, hstage₂⟩
  refine Triple.pure hlive₂ ⟨hstage₂.svc.trans hsvc₁, verdict_of_failed
    (e := { e with phase := .failed, lastError := rc.toText }) ?_ rfl (by simp)⟩
  rw [hsame₂.mem, hrid]
  exact Doc.put_entry_self ..

/-- **The end after a failing unwrap or commit.** -/
theorem endAfter_triple (h : Working D s e) (hlive : Live D M K w s)
    (hgen : e.generation = s.mem.gen + 1) (hrid : a.ridDigest = e.requestIdDigest)
    (rc : ErrorCode) :
    (simulation D M π K).Triple s w (endAfter D ω a e rc)
      (Ended a w) := by
  unfold endAfter
  split
  · exact endUnknown_triple h hlive e rfl rfl rfl rfl h.nodup _
  · exact endFailed_triple h hlive hgen hrid rc

/-! ### Staging and verification -/

/-- The item of a row is staged under `generation`, with the key that was unwrapped for it. -/
def Staged (D : Deployment) (K : Bytes) (a : Admitted) (generation : ℕ) (st : State) (r : Row) :
    Prop :=
  ∃ slot, st.staging.find? r.1.purpose = some slot ∧ slot.present = true ∧
    slot.generation = generation ∧ SlotOf D K a.request r.1 slot

/-- A key unwrapped for a row of an admitted request is the key of its item. -/
private theorem AdmittedOk.keyOf (ok : AdmittedOk D a) {r : Row} (hr : r ∈ a.rows) {plain : Bytes}
    (h : Unwrapped D.platform r.1 r.2.params r.2.canonicalAad (hkdfInfoOf a r.1) a.binding plain) :
    KeyOf D a.request r.1 plain := by
  refine ⟨r.2.params, a.binding, ok.parsed r hr, ?_⟩
  rw [ok.additional r hr] at h
  exact h

/-- What the staging loop leaves: all rows staged and a check value for each, and nothing else
in the staging area changed. -/
structure StagedRows (D : Deployment) (K : Bytes) (a : Admitted) (generation : ℕ)
    (rows : List Row) (old new : State) (kcvs : List Kcv) : Prop where
  kcvs : List.Forall₂ (fun r kcv => KcvOf D (hkdfInfoOf a r.1) kcv) rows kcvs
  staged : ∀ r ∈ rows, Staged D K a generation new r
  others : ∀ p, p ∉ rows.map (·.1.purpose) → new.staging.find? p = old.staging.find? p

private theorem uplinkMark_recordAt (g : ℕ) (now : ℤ) {ph : BusinessKeyImportPhase}
    (item : WrappedKeyItem) (hph : phaseStatus ph = .pending) (hroll : ph ≠ .rollingBack) :
    ∃ ph', phaseStatus ph' = .pending ∧ ph' ≠ .rollingBack ∧
      uplinkMark (recordAt D a g now ph) item = recordAt D a g now ph' := by
  unfold uplinkMark
  split
  · exact ⟨.uplinkStaged, rfl, by decide, rfl⟩
  · exact ⟨ph, hph, hroll, rfl⟩

/-- **The staging loop.** -/
theorem stageLoop_triple (ok : AdmittedOk D a) {g : ℕ} {now : ℤ} {rows : List Row}
    {ph : BusinessKeyImportPhase} (hrows : ∀ r ∈ rows, r ∈ a.rows)
    (hsub : ∀ r ∈ rows, r.1.purpose ∈ D.service.requiredPurposes)
    (hnodup : (rows.map (·.1.purpose)).Nodup) (h : Working D s (recordAt D a g now ph))
    (hroll : ph ≠ .rollingBack) (hlive : Live D M K w s) (hgen : g = s.mem.gen + 1) :
    (simulation D M π K).Triple s w (stageLoop D ω a (recordAt D a g now ph) rows)
      (fun r w' s' => w'.svc = w.svc ∧ s'.mem.gen = s.mem.gen ∧
        (∃ ph', ph' ≠ .rollingBack ∧ r.1 = recordAt D a g now ph' ∧ Working D s' r.1) ∧
        ∀ kcvs, r.2 = .ok kcvs →
          StagedRows D K a g rows w.prov.state w'.prov.state kcvs) := by
  induction rows generalizing w s ph with
  | nil =>
    refine Triple.pure hlive ⟨rfl, rfl, ⟨ph, hroll, rfl, h⟩, fun kcvs hk => ?_⟩
    cases hk
    exact ⟨.nil, fun r hr => (by cases hr), fun _ _ => rfl⟩
  | cons row rows ih =>
    obtain ⟨item, v⟩ := row
    rw [List.map_cons, List.nodup_cons] at hnodup
    refine Triple.bind
      (unwrapToStaging_triple hlive (hsub (item, v) (List.mem_cons_self ..)) hgen
        ⟨_, _, h.entry, h.pending, hgen⟩) ?_
    rintro ⟨rc, kcv⟩ w₁ s₁ hpath₁ hlive₁ ⟨hsame₁, hsvc₁, -, hok⟩
    have h₁ := h.same hpath₁ hsame₁
    change (simulation D M π K).Triple s₁ w₁ (if rc ≠ .success then _ else _) _
    by_cases hrc : rc ≠ .success
    · -- a failing unwrap ends the loop, with the record as it was
      rw [if_pos hrc]
      refine Triple.pure hlive₁ ⟨hsvc₁, by rw [hsame₁.mem], ⟨ph, hroll, rfl, h₁⟩, ?_⟩
      intro kcvs hk
      cases hk
    · rw [if_neg hrc]
      obtain ⟨plain, iv, hplain, rfl, -, hstaging⟩ := hok (not_not.mp hrc)
      have hpending : phaseStatus ph = .pending := h.pending
      obtain ⟨ph', hph', hroll', hmark⟩ :=
        uplinkMark_recordAt (D := D) (a := a) g now item hpending hroll
      rw [hmark]
      refine Triple.bind
        (h₁.save hlive₁ (recordAt D a g now ph') rfl rfl rfl rfl h.nodup hph' hroll') ?_
      rintro - w₂ s₂ - hlive₂ ⟨h₂, hgen₂, hstage₂⟩
      refine Triple.bind
        (ih (fun r hr => hrows r (List.mem_cons_of_mem _ hr))
          (fun r hr => hsub r (List.mem_cons_of_mem _ hr)) hnodup.2 h₂ hroll' hlive₂
          (by rw [hgen₂, hsame₁.mem]; exact hgen)) ?_
      rintro ⟨e₃, r₃⟩ w₃ s₃ - hlive₃ ⟨hsvc₃, hgen₃, hrec₃, hok₃⟩
      refine Triple.pure hlive₃ ⟨?_, ?_, hrec₃, fun kcvs hk => ?_⟩
      · rw [hsvc₃, hstage₂.svc, hsvc₁]
      · rw [hgen₃, hgen₂, hsame₁.mem]
      · cases r₃ with
        | error rc' => cases hk
        | ok kcvs' =>
          cases hk
          -- later rows have other purposes, so this slot is still staged
          have hrest := hok₃ kcvs' rfl
          refine ⟨.cons hplain.kcvOf hrest.kcvs, fun r hr => ?_, fun p hp => ?_⟩
          · rcases List.mem_cons.mp hr with rfl | hr
            · have hfound := (hrest.others _ hnodup.1).trans
                ((congrArg (·.find? item.purpose) (hstage₂.staging.trans hstaging)).trans
                  (OrdMap.find?_insert_self ..))
              exact ⟨_, hfound, rfl, rfl, rfl, rfl, rfl, rfl, rfl, plain, iv,
                ok.keyOf (hrows _ (List.mem_cons_self ..)) hplain, rfl⟩
            · exact hrest.staged r hr
          · rw [List.map_cons, List.mem_cons, not_or] at hp
            rw [hrest.others p hp.2, hstage₂.staging, hstaging, OrdMap.find?_insert_of_ne hp.1]

/-- A verified slot can be opened in the domain it was verified for. -/
private theorem exists_of_verifyStaging {prov : Provider} {domain purpose : String}
    (h : verifyStaging D.platform prov domain purpose = .success) {slot : Slot}
    (hslot : prov.state.staging.find? purpose = some slot) :
    ∃ plain, decryptSlotKey D.platform prov.kek domain purpose slot = .ok plain := by
  unfold verifyStaging at h
  rw [hslot] at h
  simp only at h
  split_ifs at h
  cases hopen : decryptSlotKey D.platform prov.kek domain purpose slot with
  | error rc =>
    exfalso
    rw [hopen] at h
    simp only at h
    subst h
    unfold decryptSlotKey at hopen
    split at hopen
    · cases hopen
    · split at hopen <;> cases hopen
  | ok plain => exact ⟨plain, rfl⟩

private theorem verifyStaging_of_verifyLoop {prov : Provider} {domain : String}
    {items : List WrappedKeyItem} (h : verifyLoop D prov domain items = .success) :
    ∀ it ∈ items, verifyStaging D.platform prov domain it.purpose = .success := by
  induction items with
  | nil => exact fun it hit => (by cases hit)
  | cons item items ih =>
    unfold verifyLoop at h
    simp only at h
    by_cases hrc : verifyStaging D.platform prov domain item.purpose = .success
    · rw [if_neg (not_not.mpr hrc)] at h
      intro it hit
      rcases List.mem_cons.mp hit with rfl | hit
      · exact hrc
      · exact ih h it hit
    · rw [if_pos hrc] at h
      exact absurd h hrc

/-- Staged and verified rows are what a commit needs. -/
private theorem stagedFor_of_verifyLoop (ok : AdmittedOk D a) {g : ℕ} {now : ℤ}
    {ph : BusinessKeyImportPhase} (hkek : w.prov.kek = K)
    (hstaged : ∀ r ∈ a.rows, Staged D K a g w.prov.state r)
    (hverify : verifyLoop D w.prov a.businessDomain (a.rows.map Prod.fst) = .success) :
    StagedFor D K w.prov.state a.request (recordAt D a g now ph) where
  slots p i hi := by
    obtain ⟨it, hit, rfl, rfl⟩ := exists_item_of_batchOf hi
    obtain ⟨r, hr, rfl⟩ := List.mem_map.mp hit
    obtain ⟨slot, hslot, hpresent, hgen, hof⟩ := hstaged r hr
    refine ⟨slot, hslot, ⟨hpresent, hof.version, hof.keyIdDigest, hof.algorithm, hof.validFromMs,
      hof.validToMs, hgen, ?_⟩, r.1, List.mem_map_of_mem hr, rfl, hof⟩
    rw [← hkek]
    exact exists_of_verifyStaging
      (verifyStaging_of_verifyLoop hverify r.1 (List.mem_map_of_mem hr)) hslot
  shaped := ok.shaped
  purposes := ok.purposes

/-! ### Attestation -/

/-- The reading of the clock changes nothing. -/
theorem wp_trustedNowMs {Q : Option ℤ → World → Prop} {C : Disk → Prop}
    (hQ : ∀ t k, Q t { w with asked := k }) : Prog.wp (trustedNowMs ω) Q C w :=
  hQ _ _

/-- The HSM signed the proof input made of these values. -/
def Signed (D : Deployment) (requestId domain purpose keyId : String) (version : ℕ)
    (envelopeDigest keyCheckValue proof : Bytes) : Prop :=
  ∃ value deviceKey seed, purposeEnumValue purpose = some value ∧
    D.platform.sign deviceKey
      (D.platform.crypto.sha256 (buildProofInput D.platform.crypto
        { requestId, businessDomain := domain, purpose := value, keyId
          businessKeyVersion := version, envelopeDigest, keyCheckValue })) seed = (.success, proof)

/-- **`generateProof`** changes nothing, and a proof it gives is a signature. -/
theorem wp_generateProof {domain purpose requestId keyId : String} {version : ℕ}
    {envelopeDigest keyCheckValue : Bytes} {Q : ErrorCode × Bytes → World → Prop}
    {C : Disk → Prop}
    (hQ : ∀ r k, (r.1 = .success →
      Signed D requestId domain purpose keyId version envelopeDigest keyCheckValue r.2) →
      Q r { w with asked := k }) :
    Prog.wp (generateProof D.platform ω domain purpose version requestId keyId envelopeDigest
      keyCheckValue) Q C w := by
  have herr : ∀ rc k, rc ≠ .success → Q (rc, []) { w with asked := k } :=
    fun rc k hrc => hQ _ k fun hs => absurd hs hrc
  unfold generateProof
  refine Prog.wp_bind.mpr ?_
  rw [Prog.wp_gets]
  split
  · exact herr _ w.asked (by decide)
  split
  · exact herr _ w.asked (by decide)
  split
  · exact herr _ w.asked (by decide)
  split
  · exact herr _ w.asked (by decide)
  split
  · exact herr _ w.asked (by decide)
  rename_i value hvalue
  refine Prog.wp_bind.mpr ?_
  unfold Prog.wp probeBinding
  simp only [Outcome.meets_done]
  change Prog.wp (if _ then _ else _) Q C _
  split
  · exact herr _ _ (by decide)
  refine Prog.wp_bind.mpr ?_
  unfold Prog.wp hsmSign
  simp only [Outcome.meets_done]
  -- the answer of the HSM is the only way to a proof
  generalize hans : D.platform.sign _ _ _ = ans
  obtain ⟨rc, proof⟩ := ans
  change Prog.wp (if rc ≠ .success then _ else if _ then _ else _) Q C _
  by_cases hrc : rc ≠ .success
  · rw [if_pos hrc]
    refine herr _ _ ?_
    split
    · decide
    · exact hrc
  rw [if_neg hrc]
  split
  · exact herr _ _ (by decide)
  refine hQ _ _ fun _ => ⟨value, _, _, hvalue, hans.trans ?_⟩
  rw [not_not.mp hrc]

/-- What the attestation loop makes of an item and its check value. -/
structure AttestedItem (D : Deployment) (a : Admitted) (failed : Bool)
    (x : BusinessKeyStatus × Kcv) (it : BusinessKeyStatus) : Prop where
  purpose : it.purpose = x.1.purpose
  info : infoOf it = infoOf x.1
  attested : failed = false → ItemAttested D a.requestId a.binding.activeCertDigest it

/-- **The attestation loop** changes nothing, and gives every item its proof unless it says
otherwise. -/
theorem wp_attestLoop {l : List (BusinessKeyStatus × Kcv)}
    (hl : ∀ x ∈ l, x.1.businessDomain = a.businessDomain ∧
      KcvOf D (textBytes (buildHkdfInfoV1 a.requestId a.businessDomain x.1.purpose x.1.keyId
        x.1.businessKeyVersion (toHex a.binding.activeCertDigest))) x.2)
    {Q : List BusinessKeyStatus × Bool → World → Prop} {C : Disk → Prop}
    (hQ : ∀ r k, List.Forall₂ (AttestedItem D a r.2) l r.1 → Q r { w with asked := k }) :
    Prog.wp (attestLoop D ω a l) Q C w := by
  induction l generalizing w Q with
  | nil => exact hQ ([], false) w.asked .nil
  | cons x l ih =>
    obtain ⟨st₀, kcv⟩ := x
    obtain ⟨hdomain, req, seed, plain, hunwrap, hinfo, hkcv⟩ := hl _ (List.mem_cons_self ..)
    refine Prog.wp_bind.mpr (wp_generateProof fun r k hsigned => ?_)
    obtain ⟨rc, proof⟩ := r
    refine Prog.wp_bind.mpr (ih (fun y hy => hl y (List.mem_cons_of_mem _ hy)) ?_)
    rintro ⟨sts, failed⟩ k' hrest
    refine hQ _ _ (.cons ⟨?_, ?_, ?_⟩ ?_)
    · simp only
      split <;> rfl
    · simp only
      split <;> rfl
    · intro hfailed
      simp only [Bool.or_eq_false_iff, Bool.not_eq_false'] at hfailed
      obtain ⟨hgood, -⟩ := hfailed
      rw [if_pos hgood]
      simp only [Bool.and_eq_true, beq_iff_eq] at hgood
      obtain ⟨value, deviceKey, signSeed, hvalue, hsign⟩ := hsigned hgood.1
      refine ⟨hgood.2, rfl, rfl, ⟨value, deviceKey, signSeed, hvalue, ?_⟩,
        ⟨req, seed, plain, hunwrap, ?_, hkcv⟩⟩
      · simp only at hdomain
        simp only [activeItem, hdomain]
        exact hsign
      · simp only at hdomain
        simp only [activeItem, hdomain]
        exact hinfo
    · -- one failing item fails the list, but says nothing about the others
      refine hrest.imp fun y it hy => ⟨hy.purpose, hy.info, fun hfailed => hy.attested ?_⟩
      simp only [Bool.or_eq_false_iff] at hfailed
      exact hfailed.2

/-- Every element on the right has a partner on the left. -/
theorem exists_left_of_mem_right {α β : Type} {R : α → β → Prop} {l : List α} {m : List β}
    (h : List.Forall₂ R l m) : ∀ y ∈ m, ∃ x ∈ l, R x y := by
  induction h with
  | nil => exact fun y hy => (by cases hy)
  | @cons x y l m hxy _ ih =>
    intro z hz
    rcases List.mem_cons.mp hz with rfl | hz
    · exact ⟨x, List.mem_cons_self .., hxy⟩
    · obtain ⟨x', hx', hR⟩ := ih z hz
      exact ⟨x', List.mem_cons_of_mem _ hx', hR⟩

section Rows

variable {kcvs : List Kcv}
    (hkcvs : List.Forall₂ (fun r kcv => KcvOf D (hkdfInfoOf a r.1) kcv) a.rows kcvs)

include hkcvs

/-- The staged items and their check values are fit for the attestation loop. -/
private theorem attestable_of_kcvs :
    ∀ x ∈ (a.rows.map (stagedItem D a.businessDomain)).zip kcvs,
      x.1.businessDomain = a.businessDomain ∧
      KcvOf D (textBytes (buildHkdfInfoV1 a.requestId a.businessDomain x.1.purpose x.1.keyId
        x.1.businessKeyVersion (toHex a.binding.activeCertDigest))) x.2 := by
  intro x hx
  rw [List.zip_map_left] at hx
  obtain ⟨⟨r, kcv⟩, hmem, rfl⟩ := List.mem_map.mp hx
  exact ⟨rfl, List.forall₂_zip hkcvs hmem⟩

/-- The attested items describe the batch of the staged ones. -/
private theorem forall₂_of_attested {failed : Bool} {items : List BusinessKeyStatus}
    (h : List.Forall₂ (AttestedItem D a failed)
      ((a.rows.map (stagedItem D a.businessDomain)).zip kcvs) items) :
    List.Forall₂ (fun it it' => it'.purpose = it.purpose ∧ infoOf it' = infoOf it)
      (a.rows.map (stagedItem D a.businessDomain)) items := by
  have hfst : ((a.rows.map (stagedItem D a.businessDomain)).zip kcvs).map Prod.fst =
      a.rows.map (stagedItem D a.businessDomain) := by
    refine List.map_fst_zip ?_
    rw [List.length_map, hkcvs.length_eq]
  rw [← hfst, List.forall₂_map_left_iff]
  exact h.imp fun x it hx => ⟨hx.purpose, hx.info⟩

/-- **After the commit**: the record is settled with its proofs, or left undecided. -/
theorem finishPipeline_triple (ok : AdmittedOk D a) {g : ℕ} {now : ℤ}
    (h : Working D s (recordAt D a g now .committing)) (hlive : Live D M K w s)
    (hgen : s.mem.gen = g) (hpos : 0 < g)
    (hcertify : ∀ e, EntryAttested D a.requestId e → π.certify a.ridDigest e)
    (hsmudge : ¬ ((∀ n, ω.put n = .ok) ∧ a.businessDomain = businessDomainV2c) → π.smudge) :
    (simulation D M π K).Triple s w
      (finishPipeline D ω a (recordAt D a g now .committing) kcvs now)
      (Ended a w) := by
  unfold finishPipeline
  refine Prog.wp_bind.mpr (wp_trustedNowMs fun t k => ?_)
  refine Prog.wp_bind.mpr (wp_attestLoop (attestable_of_kcvs hkcvs) ?_)
  rintro ⟨items, failed⟩ k' hitems
  have hsame := forall₂_of_attested hkcvs hitems
  have hbatch := batchOf_congr hsame
  have hnodup : (items.map (·.purpose)).Nodup := by
    rw [map_purpose_congr hsame]
    exact ok.items_nodup
  have hlive' := (hlive.asked k).asked k'
  cases failed with
  | true =>
    -- the batch is active but not attested, so the record is left undecided
    refine Triple.mono (endUnknown_triple h hlive'
      (attestedEntry D a (recordAt D a g now .committing) (t.getD now) items) rfl rfl hbatch
      rfl hnodup _) ?_
    exact fun r w' s' _ _ hend => hend.after rfl
  | false =>
    have hne : items ≠ [] := by
      rintro rfl
      have := ok.rows_ne
      rw [List.forall₂_nil_right_iff, List.map_eq_nil_iff] at hsame
      exact this hsame
    have hattested : EntryAttested D a.requestId
        (attestedEntry D a (recordAt D a g now .committing) (t.getD now) items) := by
      refine ⟨hne, ok.certificate, rfl, fun it hit => ?_⟩
      obtain ⟨x, -, hx⟩ := exists_left_of_mem_right hitems it hit
      exact hx.attested rfl
    have hshaped : (scheme D).Shaped (batchOf items) := hbatch ▸ ok.shaped
    refine settle_triple _ hlive' (.inr h.busy) h.entry rfl ⟨rfl, hbatch, rfl⟩ rfl hgen.symm
      (hgen ▸ hpos) (.inl (hcertify _ hattested)) hsmudge hnodup hne hshaped ?_
    rintro w' s' - hlive₁ hsvc - hmem -
    refine Triple.pure hlive₁ ⟨hsvc, verdict_of_succeeded ?_ rfl rfl⟩
    rw [hmem]
    exact Doc.put_entry_self ..

/-- **From the verified staging area on.** -/
theorem commitPipeline_triple (ok : AdmittedOk D a) {g : ℕ} {now : ℤ}
    {ph : BusinessKeyImportPhase} (h : Working D s (recordAt D a g now ph))
    (hlive : Live D M K w s) (hgen : g = s.mem.gen + 1)
    (hmade : a.request ∈ M) (hstaged : ∀ r ∈ a.rows, Staged D K a g w.prov.state r)
    (hverify : verifyLoop D w.prov a.businessDomain (a.rows.map Prod.fst) = .success)
    (hcertify : ∀ e, EntryAttested D a.requestId e → π.certify a.ridDigest e)
    (hsmudge : ¬ ((∀ n, ω.put n = .ok) ∧ a.businessDomain = businessDomainV2c) → π.smudge) :
    (simulation D M π K).Triple s w
      (commitPipeline D ω a (recordAt D a g now ph) kcvs now)
      (Ended a w) := by
  unfold commitPipeline
  have hfor : StagedFor D K w.prov.state a.request (recordAt D a g now .committing) :=
    stagedFor_of_verifyLoop ok hlive.kek hstaged hverify
  refine Triple.bind (h.save hlive (recordAt D a g now .committing) rfl rfl rfl rfl h.nodup rfl
    (by simp [recordAt])) ?_
  rintro - w₁ s₁ - hlive₁ ⟨h₁, hgen₁, hstage₁⟩
  have hfor₁ : StagedFor D K w₁.prov.state a.request (recordAt D a g now .committing) := by
    refine ⟨fun p i hi => ?_, hfor.shaped, hfor.purposes⟩
    rw [hstage₁.staging]
    exact hfor.slots p i hi
  have hgen' : g = s₁.mem.gen + 1 := by rw [hgen₁]; exact hgen
  refine Triple.bind (commitBatch_triple hlive₁ h₁.inv h₁.busy h₁.entry rfl hgen' hmade hfor₁) ?_
  rintro rc w₂ s₂ hpath₂ hlive₂ ⟨hsvc₂, -, hbusy₂, -, hok₂, hfail₂⟩
  have hinv₂ := inv_steps hpath₂ h₁.inv
  have hsvc : w₂.svc = w.svc := hsvc₂.trans hstage₁.svc
  by_cases hrc : rc ≠ .success
  · rw [if_pos hrc]
    -- a failing commit leaves the document as it was, and the record can fail
    have hmem := hfail₂ hrc
    have h₂ : Working D s₂ (recordAt D a g now .committing) :=
      ⟨hinv₂, hbusy₂.trans h₁.busy, by rw [hmem]; exact h₁.entry, rfl, h₁.nodup⟩
    refine (endAfter_triple h₂ hlive₂ (by rw [hmem]; exact hgen') rfl rc).mono ?_
    exact fun r w' s' _ _ hend => hend.after hsvc
  · rw [if_neg hrc]
    -- the batch is active now; whatever happens next, the record cannot fail any more
    have hmem := hok₂ (not_not.mp hrc)
    have h₂ : Working D s₂ (recordAt D a g now .committing) :=
      ⟨hinv₂, hbusy₂.trans h₁.busy, by rw [hmem]; exact h₁.entry, rfl, h₁.nodup⟩
    refine (finishPipeline_triple hkcvs ok h₂ hlive₂ (by rw [hmem]; rfl) (by omega)
      hcertify hsmudge).mono ?_
    exact fun r w' s' _ _ hend => hend.after hsvc

end Rows

/-! ### The whole pipeline -/

/-- **`run_pipeline`** on an admitted request whose batch is newer than the active one. -/
theorem runPipeline_triple (ok : AdmittedOk D a) (hmade : a.request ∈ M) (hlive : Live D M K w s)
    (hinv : Inv (scheme D) s) (hb : s.busy = none) {g : ℕ} {now : ℤ} (hgen : g = s.mem.gen + 1)
    (hnewer : (scheme D).Newer (batchOf (a.rows.map (stagedItem D a.businessDomain)))
      s.mem.active)
    (hstart : π.start s.mem a.ridDigest (initialEntry D a g now))
    (hcertify : ∀ e, EntryAttested D a.requestId e → π.certify a.ridDigest e)
    (hsmudge : ¬ ((∀ n, ω.put n = .ok) ∧ a.businessDomain = businessDomainV2c) → π.smudge) :
    (simulation D M π K).Triple s w (runPipeline D ω a g now)
      (Ended a w) := by
  have hstep : Step (scheme D) π s
      { s with
        mem := s.mem.put a.ridDigest (initialEntry D a g now)
        busy := some a.ridDigest } :=
    .start hlive.loaded hb rfl hgen ok.shaped ok.bounded hnewer hstart
  unfold runPipeline
  refine Triple.bind (saveJournal_triple (e := initialEntry D a g now) hlive ok.items_nodup
    (by simp [initialEntry]) (fun _ _ _ => ⟨_, _, Doc.put_entry_self .., rfl, hgen⟩)
    (.single hstep) rfl rfl rfl rfl) ?_
  rintro - w₁ s₁ hpath₁ hlive₁ ⟨hsame₁, hstage₁⟩
  have h₁ : Working D s₁ (recordAt D a g now .processing) := by
    refine ⟨inv_steps hpath₁ hinv, hsame₁.busy, ?_, rfl, ok.items_nodup⟩
    rw [hsame₁.mem]
    exact Doc.put_entry_self ..
  have hgen₁ : s₁.mem.gen = s.mem.gen := by rw [hsame₁.mem]; rfl
  have hrows : ∀ r ∈ a.rows, r.1.purpose ∈ D.service.requiredPurposes := fun r hr =>
    (ok.required _).mpr (List.mem_map_of_mem hr)
  refine Triple.bind
    (stageLoop_triple ok (fun _ => id) hrows ok.nodup h₁ (by decide) hlive₁
      (by rw [hgen₁]; exact hgen)) ?_
  rintro ⟨e₂, r₂⟩ w₂ s₂ - hlive₂ ⟨hsvc₂, hgen₂, ⟨ph, hroll, rfl, h₂⟩, hok₂⟩
  have hsvc : w₂.svc = w.svc := hsvc₂.trans hstage₁.svc
  have hgen₂' : g = s₂.mem.gen + 1 := by rw [hgen₂, hgen₁]; exact hgen
  cases r₂ with
  | error rc =>
    refine (endAfter_triple h₂ hlive₂ hgen₂' rfl rc).mono ?_
    exact fun r w' s' _ _ hend => hend.after hsvc
  | ok kcvs =>
    have hstaged := hok₂ kcvs rfl
    refine Triple.bind (h₂.save hlive₂ (recordAt D a g now .bothStaged) rfl rfl rfl rfl h₂.nodup
      rfl (by simp [recordAt])) ?_
    rintro - w₃ s₃ - hlive₃ ⟨h₃, hgen₃, hstage₃⟩
    have hsvc₃ : w₃.svc = w.svc := hstage₃.svc.trans hsvc
    have hgen₃' : g = s₃.mem.gen + 1 := by rw [hgen₃]; exact hgen₂'
    refine Triple.gets_bind ?_
    change (simulation D M π K).Triple s₃ w₃ (if _ then _ else _) _
    split
    · refine (endFailed_triple h₃ hlive₃ hgen₃' rfl _).mono ?_
      exact fun r w' s' _ _ hend => hend.after hsvc₃
    · rename_i hverify
      refine (commitPipeline_triple hstaged.kcvs ok h₃ hlive₃ hgen₃' hmade ?_
        (not_not.mp hverify) hcertify hsmudge).mono ?_
      · intro r hr
        obtain ⟨slot, hslot, hof⟩ := hstaged.staged r hr
        exact ⟨slot, by rw [hstage₃.staging]; exact hslot, hof⟩
      · exact fun r w' s' _ _ hend => hend.after hsvc₃

end TboxSec.Keyprov
