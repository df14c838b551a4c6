import TboxSec.Keyprov.ProviderSpec

/-!
# Settling a record: journal and ledger

A record is settled as succeeded in two parts that the code does not tie together: the journal
save, which may fail, and the ledger puts, each of which may fail or be cut short. For the
protocol they are one step. If every put takes effect, the ledger then holds the record's
batch; if not, what it holds is unknown.

* `wp_ledgerPuts`: whatever becomes of the puts, they change the ledger and nothing else.
* `ledgerHolds_puts`: when all of them take effect the ledger holds the batch; a later put of one
  key does not disturb an earlier put of another, because the keys of the ledger are injective.
* `settle_triple`: a record is settled as one step of the protocol.
-/

namespace TboxSec.Keyprov

open Canonical Crash Journal Crash.Simulation

variable {D : Deployment} {M : Set ImportRequest} {π : KPolicy} {K : Bytes} {ω : Oracle}
  {w : World} {s : KSys}

/-! ### A loop of puts -/

/-- Nothing but the ledger changes. -/
structure OnlyLedger (w w' : World) : Prop where
  prov : w'.prov = w.prov
  svc : w'.svc = w.svc
  state : w'.disk.state = w.disk.state
  kek : w'.disk.kek = w.disk.kek
  commits : w'.disk.commits = w.disk.commits

/-- Whatever the puts do, they touch the ledger alone. -/
theorem wp_ledgerPuts (ms : List BusinessKeyMetadata) {Q : Unit → World → Prop}
    {C : Disk → Prop} (hQ : ∀ w', OnlyLedger w w' → Q () w')
    (hC : ∀ d : Disk, d.state = w.disk.state → d.kek = w.disk.kek →
      d.commits = w.disk.commits → C d) :
    Prog.wp (ledgerPuts ω ms) Q C w := by
  induction ms generalizing w with
  | nil => exact hQ w ⟨rfl, rfl, rfl, rfl, rfl⟩
  | cons m ms ih =>
    refine Prog.wp_bind.mpr ?_
    have hrest : ∀ w₁, OnlyLedger w w₁ → Prog.wp (ledgerPuts ω ms) Q C w₁ := by
      intro w₁ h₁
      refine ih (fun w' h' => hQ w' ?_) fun d hd hk hc =>
        hC d (hd.trans h₁.state) (hk.trans h₁.kek) (hc.trans h₁.commits)
      exact ⟨h'.prov.trans h₁.prov, h'.svc.trans h₁.svc, h'.state.trans h₁.state,
        h'.kek.trans h₁.kek, h'.commits.trans h₁.commits⟩
    unfold Prog.wp ledgerPut
    simp only
    split
    · exact hrest _ ⟨rfl, rfl, rfl, rfl, rfl⟩
    · exact hrest _ ⟨rfl, rfl, rfl, rfl, rfl⟩
    · exact hrest _ ⟨rfl, rfl, rfl, rfl, rfl⟩
    · exact hC _ rfl rfl rfl

/-- If every put takes effect, the ledger ends with all records, in memory and on disk. -/
private theorem wp_ledgerPuts_ok (hok : ∀ n, ω.put n = .ok) (ms : List BusinessKeyMetadata)
    {Q : Unit → World → Prop} {C : Disk → Prop}
    (hdisk : ms = [] → w.disk.ledger.headD .empty = w.ledger)
    (hQ : ∀ w', OnlyLedger w w' → w'.ledger = ms.foldl putRecord w.ledger →
      w'.disk.ledger.headD .empty = w'.ledger → Q () w') :
    Prog.wp (ledgerPuts ω ms) Q C w := by
  induction ms generalizing w with
  | nil => exact hQ w ⟨rfl, rfl, rfl, rfl, rfl⟩ rfl (hdisk rfl)
  | cons m ms ih =>
    refine Prog.wp_bind.mpr ?_
    unfold Prog.wp ledgerPut
    simp only [hok]
    refine ih (fun _ => rfl) fun w' h' hl hd => hQ w' ?_ hl hd
    exact ⟨h'.prov, h'.svc, h'.state, h'.kek, h'.commits⟩

/-- A put under another key is not seen. -/
private theorem find_foldl_putRecord_of_notMem {ms : List BusinessKeyMetadata} {l : Ledger}
    {key : String}
    (h : key ∉ ms.map fun m => ledgerKey m.businessDomain m.purpose) :
    (ms.foldl putRecord l).find? key = l.find? key := by
  induction ms generalizing l with
  | nil => rfl
  | cons m ms ih =>
    rw [List.map_cons, List.mem_cons, not_or] at h
    rw [List.foldl_cons, ih h.2, putRecord, OrdMap.find?_insert_of_ne h.1]

/-- Records under different keys are all found. -/
private theorem find_foldl_putRecord {ms : List BusinessKeyMetadata} {l : Ledger}
    {m : BusinessKeyMetadata} (hm : m ∈ ms)
    (h : (ms.map fun m => ledgerKey m.businessDomain m.purpose).Nodup) :
    (ms.foldl putRecord l).find? (ledgerKey m.businessDomain m.purpose) = some m := by
  induction ms generalizing l with
  | nil => cases hm
  | cons m' ms ih =>
    rw [List.map_cons, List.nodup_cons] at h
    rw [List.foldl_cons]
    rcases List.mem_cons.mp hm with rfl | hm
    · rw [find_foldl_putRecord_of_notMem h.1, putRecord, OrdMap.find?_insert_self]
    · exact ih hm h.2

private theorem ledgerKey_injective (domain : String) : Function.Injective (ledgerKey domain) := by
  intro p q h
  simpa [ledgerKey] using h

/-- An item of a batch and its place in the list. -/
theorem exists_item_of_batchOf {items : List BusinessKeyStatus} {p : String} {i : KeyInfo}
    (h : batchOf items p = some i) : ∃ it ∈ items, it.purpose = p ∧ infoOf it = i := by
  obtain ⟨it, hfind, hinfo⟩ := Option.map_eq_some_iff.mp h
  have hp := List.find?_some hfind
  exact ⟨it, List.mem_of_find?_eq_some hfind, by simpa using hp, hinfo⟩

/-- After the puts of all items, the ledger holds the batch. -/
private theorem ledgerHolds_puts {e : BusinessKeyJournalEntry} {generation : ℕ} {l : Ledger}
    (hitems : (e.items.map (·.purpose)).Nodup)
    (hshaped : (scheme D).Shaped (batchOf e.items)) :
    LedgerHolds D ((e.items.map (ledgerRecord businessDomainV2c e generation)).foldl putRecord l)
      (batchOf e.items) where
  none p hp hnone := by
    have hsome := (hshaped p).mpr hp
    rw [hnone] at hsome
    cases hsome
  some p _ i hi := by
    obtain ⟨it, hit, rfl, rfl⟩ := exists_item_of_batchOf hi
    refine ⟨ledgerRecord businessDomainV2c e generation it, ?_, rfl, rfl, rfl⟩
    refine find_foldl_putRecord (m := ledgerRecord businessDomainV2c e generation it)
      (List.mem_map_of_mem hit) ?_
    rw [List.map_map]
    have hcomp : ((fun m : BusinessKeyMetadata => ledgerKey m.businessDomain m.purpose) ∘
        ledgerRecord businessDomainV2c e generation) =
        ledgerKey businessDomainV2c ∘ fun it => it.purpose := rfl
    rw [hcomp, ← List.map_map]
    exact hitems.map (ledgerKey_injective businessDomainV2c)

/-! ### Settling -/

/-- The posting of a batch changes nothing but the ledger. -/
private theorem Live.onlyLedger {w' : World} {p : Option (String → Option KeyInfo)}
    (h : Live D M K w s)
    (hw : OnlyLedger w w')
    (hholds : ∀ b, p = some b → LedgerHolds D w'.ledger b ∧
      LedgerHolds D (w'.disk.ledger.headD .empty) b) :
    Live D M K w' { s with posted := p } := by
  have hdisk : DiskSim D M K w'.disk { s with posted := p } := by
    refine ⟨?_, h.disk.key, ?_, ?_, fun b hb => (hholds b hb).2, ?_⟩
    · rw [hw.state]; exact h.disk.docs
    · rw [hw.kek]; exact h.disk.kek
    · rw [hw.kek, hw.state]; exact h.disk.unkeyed
    · rw [hw.commits, hw.state]; exact h.disk.commits
  refine ⟨hdisk, ?_, ?_, ?_, h.loaded, ?_, ?_, ?_, fun b hb => (hholds b hb).1⟩
  · rw [hw.prov]; exact h.mem
  · rw [hw.kek]; exact h.keyed
  · rw [hw.prov]; exact h.ready
  · rw [hw.prov]; exact h.kek
  · rw [hw.prov]; exact h.macKey
  · rw [hw.prov]; exact h.version

/-- **A record is settled as succeeded**: one step of the protocol, whatever becomes of the
journal save and the puts. A posting that goes wrong is the policy's to allow. -/
theorem settle_triple {α : Type} {k : SecM α} {R : α → World → KSys → Prop} {domain : String}
    {generation : ℕ} {e : BusinessKeyJournalEntry} (e' : BusinessKeyJournalEntry)
    (h : Live D M K w s) (hb : s.busy = none ∨ s.busy = some e'.requestIdDigest)
    (he : s.mem.entry e'.requestIdDigest = some e) (hp : phaseStatus e.phase = .pending)
    (ha : (scheme D).Alike e e') (hs : e'.phase = .succeeded) (hg : e.generation = s.mem.gen)
    (hpos : 0 < s.mem.gen) (hπ : π.certify e'.requestIdDigest e' ∨ π.recover e'.requestIdDigest e)
    (hsmudge : ¬ ((∀ n, ω.put n = .ok) ∧ domain = businessDomainV2c) → π.smudge)
    (hitems : (e'.items.map (·.purpose)).Nodup) (hne : e'.items ≠ [])
    (hshaped : (scheme D).Shaped (batchOf e'.items))
    (hk : ∀ w' s', (simulation D M π K).Path s s' → Live D M K w' s' → w'.svc = w.svc →
      w'.prov.hsm = w.prov.hsm → s'.mem = s.mem.put e'.requestIdDigest e' → s'.busy = s.busy →
      (simulation D M π K).Triple s' w' k R) :
    (simulation D M π K).Triple s w
      (saveJournal D.platform ω e' >>= fun _ => updateLedger ω domain e' generation >>= fun _ => k)
      R := by
  have hstep : ∀ (written : Bool) (p : Option (String → Option KeyInfo)),
      (p = some (batchOf e'.items) ∨ p = none ∧ π.smudge) →
      Step (scheme D) π s
        { s with
          mem := s.mem.put e'.requestIdDigest e'
          log := if written then s.mem.put e'.requestIdDigest e' :: s.log else s.log
          posted := p } := fun written p hp' =>
    .succeed h.loaded hb he hp ha (phaseStatus_succeeded.mpr hs) hg hpos hπ hp'
  have hmem : StateSim D M K
      { w.prov.state with
        journal := w.prov.state.journal.insert e'.requestIdDigest
          ⟨e', journalMac D.platform w.prov.macKey e'⟩ }
      (s.mem.put e'.requestIdDigest e') := by
    rw [h.macKey]
    refine h.mem.journal hitems (by rw [hs]; decide) fun p slot hp => ?_
    -- the record settled is not one of the next generation
    refine (h.mem.opened p slot hp).2.put fun e₀ he₀ _ hg₀ => ?_
    obtain rfl := Option.some.inj (he.symm.trans he₀)
    omega
  -- the ledger part, after a journal save that took effect or not
  have hledger : ∀ (written : Bool) (w₁ : World),
      Live D M K w₁ { s with
        mem := s.mem.put e'.requestIdDigest e'
        log := if written then s.mem.put e'.requestIdDigest e' :: s.log else s.log } →
      w₁.svc = w.svc → w₁.prov.hsm = w.prov.hsm →
      (simulation D M π K).Triple s w₁ (updateLedger ω domain e' generation >>= fun _ => k) R := by
    intro written w₁ h₁ hsvc hhsm
    -- either every put of the right domain takes effect, or the policy allows the smudge
    by_cases hall : (∀ n, ω.put n = .ok) ∧ domain = businessDomainV2c
    · obtain ⟨hok, rfl⟩ := hall
      have hpath : (simulation D M π K).Path s _ :=
        .single (hstep written (some (batchOf e'.items)) (.inl rfl))
      refine Prog.wp_bind.mpr (wp_ledgerPuts_ok hok _ (fun hnil => ?_) fun w' hw hl hd => ?_)
      · rw [List.map_eq_nil_iff] at hnil
        exact absurd hnil hne
      · have hholds : LedgerHolds D w'.ledger (batchOf e'.items) := by
          rw [hl]
          exact ledgerHolds_puts hitems hshaped
        refine Triple.ghost hpath (hk w' _ hpath (h₁.onlyLedger hw fun b hb' => ?_)
          (hw.svc.trans hsvc) ?_ rfl rfl)
        · rw [hd, ← Option.some.inj hb']
          exact ⟨hholds, hholds⟩
        · rw [hw.prov]; exact hhsm
    · have hpath : (simulation D M π K).Path s _ :=
        .single (hstep written none (.inr ⟨rfl, hsmudge hall⟩))
      refine Prog.wp_bind.mpr (wp_ledgerPuts _ (fun w' hw => ?_) fun d hd hkek hcommits => ?_)
      · refine Triple.ghost hpath (hk w' _ hpath (h₁.onlyLedger hw fun b hb' => (by cases hb'))
          (hw.svc.trans hsvc) ?_ rfl rfl)
        rw [hw.prov]; exact hhsm
      · refine ⟨_, hpath, ?_, h₁.disk.key, ?_, ?_, fun b hb' => (by cases hb'), ?_⟩
        · rw [hd]; exact h₁.disk.docs
        · rw [hkek]; exact h₁.disk.kek
        · rw [hkek, hd]; exact h₁.disk.unkeyed
        · rw [hcommits, hd]; exact h₁.disk.commits
  have hlive : Live D M K (w.setState
      { w.prov.state with
        journal := w.prov.state.journal.insert e'.requestIdDigest
          ⟨e', journalMac D.platform w.prov.macKey e'⟩ })
      (s.withMem (s.mem.put e'.requestIdDigest e')) := h.setState hmem rfl rfl rfl
  refine Prog.wp_bind.mpr ?_
  unfold saveJournal
  refine Prog.wp_bind.mpr ?_
  rw [Prog.wp_gets, if_neg (by simp [h.ready])]
  refine Prog.wp_bind.mpr ?_
  rw [Prog.wp_modify]
  refine wp_saveState ⟨s, .refl, h.disk⟩ ?_ fun rc k' _ => ?_
  · exact hledger true _ hlive.saved rfl rfl
  · exact hledger false _ (hlive.asked k') rfl rfl

end TboxSec.Keyprov
