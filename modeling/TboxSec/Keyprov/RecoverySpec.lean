import TboxSec.Keyprov.AdmissionSpec

/-!
# Recovery and initialisation over the protocol

`recover_entry` settles a pending record by its generation: as succeeded if that is the
generation of the ACTIVE slots **and** the slots open in the domain `V2C_COMM`, as failed
otherwise. `recover_on_startup` does so for every pending record of the journal and leaves
none.

`initialize` reads the last document written, if there is one. The first start also makes the
key-encryption key, so the ghost key of the relation is chosen there.

* `recoverEntry_triple`: one record is settled as the protocol settles it.
* `recoverEntries_triple`: by induction, the loop settles all that it is given.
* `recoverOnStartup_triple`: so a start that finds a readable store leaves no pending record;
  where the store cannot be read, recovery only reads.
-/

namespace TboxSec.Keyprov

open Canonical Crash Journal Crash.Simulation

variable {D : Deployment} {M : Set ImportRequest} {π : KPolicy} {K : Bytes} {ω : Oracle}
  {w : World} {s : KSys}
variable {e : BusinessKeyJournalEntry}

/-! ### The test of recovery -/

section Test

variable {prov : Provider} {m : KDoc} (h : StateSim D M K prov.state m)
  (hm : DocInv (scheme D) m) (hready : prov.ready = true)

include h hm hready

/-- The slots carry the active generation, so the test passes for that generation alone. -/
private theorem generation_of_bothActive {g : ℕ} (hboth : bothActive D prov g = true) :
    g = m.gen ∧ 0 < m.gen := by
  obtain ⟨p, hp⟩ := List.exists_mem_of_ne_nil _ D.service.requiredPurposes_ne
  have hslot := List.all_eq_true.mp hboth p hp
  simp only [Bool.and_eq_true, beq_iff_eq] at hslot
  obtain ⟨⟨hpresent, -⟩, hgen⟩ := hslot
  rw [(querySlot_generation h hready hm hp businessDomainV2c).2] at hgen
  refine ⟨hgen.symm, Nat.pos_of_ne_zero fun h0 => ?_⟩
  have hnone : m.active p = none := by rw [hm.blank h0]
  rw [querySlot_of_inactive h hready hnone] at hpresent
  cases hpresent

/-- For the active generation the test fails only if a key is of another domain. -/
private theorem exists_of_not_bothActive (hkek : prov.kek = K) (hpos : 0 < m.gen)
    (hboth : bothActive D prov m.gen = false) :
    ∃ p i, m.active p = some i ∧ ¬ (scheme D).steady i := by
  by_contra hnone
  push Not at hnone
  have htrue : bothActive D prov m.gen = true := by
    refine List.all_eq_true.mpr fun p hp => ?_
    obtain ⟨i, hi⟩ := Option.isSome_iff_exists.mp ((hm.shaped hpos p).mpr hp)
    obtain ⟨info, hq, hpresent, -, -, -, hgen, hstate⟩ :=
      querySlot_of_active h hready hi businessDomainV2c
    have hactive := hstate hkek (hnone p i hi).symm
    simp [hq, hpresent, hactive, hgen]
  rw [htrue] at hboth
  cases hboth

end Test

/-! ### One record -/

/-- Marking the items active does not change the batch. -/
private theorem batchOf_recovered (items : List BusinessKeyStatus) :
    List.Forall₂ (fun it it' => it'.purpose = it.purpose ∧ infoOf it' = infoOf it) items
      (items.map fun it => { it with state := .active }) := by
  rw [List.forall₂_map_right_iff, List.forall₂_same]
  exact fun it _ => ⟨rfl, rfl⟩

/-- A record that covers the required purposes lists some item. -/
private theorem items_ne_of_shaped {items : List BusinessKeyStatus}
    (h : (scheme D).Shaped (batchOf items)) : items ≠ [] := by
  rintro rfl
  obtain ⟨p, hp⟩ := List.exists_mem_of_ne_nil _ D.service.requiredPurposes_ne
  have hsome := (h p).mpr hp
  cases hsome

/-- What recovery leaves of a record. -/
structure Settles (s s' : KSys) (e e' : BusinessKeyJournalEntry) : Prop where
  rid : e'.requestIdDigest = e.requestIdDigest
  digest : e'.requestDigest = e.requestDigest
  terminal : e'.phase = .succeeded ∨ e'.phase = .failed
  mem : s'.mem = s.mem.put e.requestIdDigest e'
  busy : s'.busy = s.busy

/-- **`recover_entry`** settles a pending record. -/
theorem recoverEntry_triple (hlive : Live D M K w s) (hinv : Inv (scheme D) s)
    (hb : s.busy = none) (he : s.mem.entry e.requestIdDigest = some e)
    (hp : phaseStatus e.phase = .pending) (hnodup : (e.items.map (·.purpose)).Nodup)
    (hrecover : bothActive D w.prov e.generation = true → π.recover e.requestIdDigest e)
    (hsmudge : ¬ (∀ n, ω.put n = .ok) → π.smudge) :
    (simulation D M π K).Triple s w (recoverEntry D ω e)
      (fun e' w' s' => w'.svc = w.svc ∧ Settles s s' e e') := by
  have hshaped : (scheme D).Shaped (batchOf e.items) := (hinv.mem.entry _ _ he).1
  unfold recoverEntry
  refine Prog.wp_bind.mpr (wp_trustedNowMs fun t k => ?_)
  have hlive' := hlive.asked k
  refine Triple.gets_bind ?_
  change (simulation D M π K).Triple s _
    (if bothActive D w.prov e.generation = true then _ else _) _
  by_cases hboth : bothActive D w.prov e.generation = true
  · rw [if_pos hboth]
    obtain ⟨hgen, hpos⟩ := generation_of_bothActive hlive.mem hinv.mem hlive.ready hboth
    -- both slots carry the generation of the record: it is settled as succeeded
    have hsame := batchOf_recovered e.items
    have hbatch := batchOf_congr hsame
    refine settle_triple (recoveredEntry D e (t.getD 0)) hlive' (.inl hb) he hp
      ⟨rfl, hbatch, rfl⟩ rfl hgen hpos (.inr (hrecover hboth))
      (fun hn => hsmudge fun hok => hn ⟨hok, rfl⟩) ?_ ?_ (hbatch ▸ hshaped) ?_
    · exact (map_purpose_congr hsame).symm ▸ hnodup
    · intro hnil
      exact items_ne_of_shaped hshaped (List.map_eq_nil_iff.mp hnil)
    · rintro w' s' - hlive₁ hsvc - hmem hbusy
      exact Triple.pure hlive₁ ⟨hsvc, rfl, rfl, .inl rfl, hmem, hbusy⟩
  · rw [if_neg hboth]
    refine Triple.bind (rollbackStaging_triple hlive' e.generation) ?_
    rintro - w₁ s₁ hpath₁ hlive₁ ⟨hsame₁, hsvc₁, -, hempty₁⟩
    have hstep : Step (scheme D) π s₁
        (s₁.withMem (s₁.mem.put e.requestIdDigest (abandonedEntry e))) := by
      refine .fail hlive₁.loaded (.inl (hsame₁.busy.trans hb)) (by rw [hsame₁.mem]; exact he) hp
        ⟨rfl, rfl, rfl⟩ rfl ?_
      rw [hsame₁.mem]
      -- a record of the active generation is given up only if some slot is missing or not active
      intro hgen hpos
      refine exists_of_not_bothActive hlive.mem hinv.mem hlive.ready hlive.kek hpos ?_
      change e.generation = s.mem.gen at hgen
      rw [← hgen]
      simpa using hboth
    -- the record given up is the open one only if the rollback has emptied the staging area
    have hopen₁ : ∀ p slot, w₁.prov.state.staging.find? p = some slot →
        HasOpen (s₁.mem.put e.requestIdDigest (abandonedEntry e)) := by
      intro p slot hslot
      refine (hlive₁.mem.opened p slot hslot).2.put fun e₀ he₀ _ hg₀ => ?_
      rw [hsame₁.mem, he] at he₀
      rw [← Option.some.inj he₀, hsame₁.mem] at hg₀
      rw [hempty₁ hg₀ p] at hslot
      cases hslot
    refine Triple.bind (saveJournal_triple (e := abandonedEntry e) hlive₁ hnodup
      (by simp [abandonedEntry]) hopen₁ (.single hstep) rfl rfl rfl rfl) ?_
    rintro - w₂ s₂ - hlive₂ ⟨hsame₂, hstage₂⟩
    refine Triple.pure hlive₂ ⟨hstage₂.svc.trans hsvc₁, rfl, rfl, .inr rfl, ?_, ?_⟩
    · rw [hsame₂.mem, ← hsame₁.mem]
      rfl
    · exact hsame₂.busy.trans hsame₁.busy

/-! ### All records -/

/-- What the loop of recovery leaves: the active batch as it was, and no pending record of a
request it was given. -/
structure Recovered (s s' : KSys) (es : List BusinessKeyJournalEntry) : Prop where
  gen : s'.mem.gen = s.mem.gen
  active : s'.mem.active = s.mem.active
  busy : s'.busy = s.busy
  pending : ∀ r e, s'.mem.entry r = some e → phaseStatus e.phase = .pending →
    s.mem.entry r = some e ∧ r ∉ es.map (·.requestIdDigest)

/-- **The recovery loop.** -/
theorem recoverEntries_triple {es : List BusinessKeyJournalEntry} (hlive : Live D M K w s)
    (hinv : Inv (scheme D) s) (hb : s.busy = none)
    (hes : ∀ e ∈ es, s.mem.entry e.requestIdDigest = some e)
    (hrids : (es.map (·.requestIdDigest)).Nodup)
    (hnodup : ∀ e ∈ es, (e.items.map (·.purpose)).Nodup)
    (hrecover : ∀ e ∈ es, phaseStatus e.phase = .pending → e.generation = s.mem.gen →
      0 < s.mem.gen → π.recover e.requestIdDigest e)
    (hsmudge : ¬ (∀ n, ω.put n = .ok) → π.smudge) :
    (simulation D M π K).Triple s w (recoverEntries D ω es)
      (fun _ w' s' => w'.svc = w.svc ∧ Recovered s s' es) := by
  induction es generalizing w s with
  | nil =>
    exact Triple.pure hlive ⟨rfl, rfl, rfl, rfl, fun r e he _ => ⟨he, by simp⟩⟩
  | cons e es ih =>
    rw [List.map_cons, List.nodup_cons] at hrids
    have hmem := hes e (List.mem_cons_self ..)
    have hes' : ∀ x ∈ es, s.mem.entry x.requestIdDigest = some x := fun x hx =>
      hes x (List.mem_cons_of_mem _ hx)
    have hnodup' : ∀ x ∈ es, (x.items.map (·.purpose)).Nodup := fun x hx =>
      hnodup x (List.mem_cons_of_mem _ hx)
    have hrecover' : ∀ x ∈ es, phaseStatus x.phase = .pending → x.generation = s.mem.gen →
        0 < s.mem.gen → π.recover x.requestIdDigest x := fun x hx =>
      hrecover x (List.mem_cons_of_mem _ hx)
    unfold recoverEntries
    by_cases hterm : e.phase.terminal = true
    · rw [if_pos hterm]
      refine (ih hlive hinv hb hes' hrids.2 hnodup' hrecover').mono ?_
      rintro - w' s' - - ⟨hsvc, hrec⟩
      refine ⟨hsvc, hrec.gen, hrec.active, hrec.busy, fun r x hx hpx => ?_⟩
      obtain ⟨hold, hnot⟩ := hrec.pending r x hx hpx
      refine ⟨hold, fun hin => ?_⟩
      rcases List.mem_cons.mp hin with rfl | hin
      · -- the record skipped is terminal, so it cannot be the pending one
        obtain rfl := Option.some.inj (hmem.symm.trans hold)
        rw [phaseStatus_pending.mp hpx] at hterm
        cases hterm
      · exact hnot hin
    · rw [if_neg hterm]
      have hpend : phaseStatus e.phase = .pending := phaseStatus_pending.mpr (by simpa using hterm)
      refine Triple.bind (recoverEntry_triple hlive hinv hb hmem hpend
        (hnodup e (List.mem_cons_self ..)) (fun hboth => ?_) hsmudge) ?_
      · obtain ⟨hgen, hpos⟩ := generation_of_bothActive hlive.mem hinv.mem hlive.ready hboth
        exact hrecover e (List.mem_cons_self ..) hpend hgen hpos
      rintro e' w₁ s₁ hpath₁ hlive₁ ⟨hsvc₁, hset⟩
      have hgen₁ : s₁.mem.gen = s.mem.gen := by rw [hset.mem]; rfl
      -- the records still to come have other request ids, so they are unchanged
      have hes₁ : ∀ x ∈ es, s₁.mem.entry x.requestIdDigest = some x := by
        intro x hx
        have hne : x.requestIdDigest ≠ e.requestIdDigest := by
          intro heq
          exact hrids.1 (heq ▸ List.mem_map_of_mem hx)
        rw [hset.mem, Doc.put_entry_of_ne _ _ hne]
        exact hes' x hx
      refine (ih hlive₁ (inv_steps hpath₁ hinv) (hset.busy.trans hb) hes₁ hrids.2 hnodup'
        (by rw [hgen₁]; exact hrecover')).mono ?_
      rintro - w' s' - - ⟨hsvc, hrec⟩
      refine ⟨hsvc.trans hsvc₁, hrec.gen.trans hgen₁, ?_, hrec.busy.trans hset.busy, ?_⟩
      · rw [hrec.active, hset.mem]
        rfl
      · intro r x hx hpx
        obtain ⟨hold, hnot⟩ := hrec.pending r x hx hpx
        rw [hset.mem] at hold
        rcases Doc.put_entry_eq_some hold with ⟨-, rfl⟩ | ⟨hne, hold⟩
        · exfalso
          rcases hset.terminal with hph | hph <;> rw [hph] at hpx <;> cases hpx
        · refine ⟨hold, fun hin => ?_⟩
          rcases List.mem_cons.mp hin with heq | hin
          · exact hne heq
          · exact hnot hin

/-- The journal of a live provider lists the records as they are stored. -/
theorem listJournal_eq {prov : Provider} {m : KDoc} (h : StateSim D M K prov.state m)
    (hversion : prov.stateVersionUnknown = false) (hmac : prov.macKey = macKeyOf D K) :
    listJournal D.platform prov = prov.state.journal.toList.map fun b => b.2.entry := by
  unfold listJournal
  rw [hversion, if_neg (by simp)]
  refine List.map_congr_left fun b hb => ?_
  have hauth := h.stored b.1 b.2 (OrdMap.mem_toList_iff.mp hb)
  unfold listedEntry
  rw [if_pos (by rw [hmac]; exact hauth.mac)]

/-- **`recover_on_startup`** leaves no pending record. -/
theorem recoverOnStartup_triple (hlive : Live D M K w s) (hinv : Inv (scheme D) s)
    (hb : s.busy = none)
    (hrecover : ∀ r e, s.mem.entry r = some e → phaseStatus e.phase = .pending →
      e.generation = s.mem.gen → 0 < s.mem.gen → π.recover r e)
    (hsmudge : ¬ (∀ n, ω.put n = .ok) → π.smudge) :
    (simulation D M π K).Triple s w (recoverOnStartup D ω)
      (fun _ w' s' => w'.svc = w.svc ∧ s'.busy = none ∧
        ∀ r e, s'.mem.entry r = some e → phaseStatus e.phase ≠ .pending) := by
  unfold recoverOnStartup
  refine Triple.gets_bind ?_
  rw [listJournal_eq hlive.mem hlive.version hlive.macKey]
  have hstored : ∀ b ∈ w.prov.state.journal.toList,
      w.prov.state.journal.find? b.1 = some b.2 ∧ b.2.entry.requestIdDigest = b.1 := by
    intro b hb
    have hfind := OrdMap.mem_toList_iff.mp hb
    exact ⟨hfind, (hlive.mem.stored _ _ hfind).rid⟩
  -- the journal is a map, so every request id is listed once
  have hrids : (w.prov.state.journal.toList.map fun b => b.2.entry).map (·.requestIdDigest) =
      w.prov.state.journal.toList.map Prod.fst := by
    rw [List.map_map]
    exact List.map_congr_left fun b hb => (hstored b hb).2
  have hes : ∀ e ∈ w.prov.state.journal.toList.map (fun b => b.2.entry),
      s.mem.entry e.requestIdDigest = some e ∧ (e.items.map (·.purpose)).Nodup := by
    intro e he
    obtain ⟨b, hbmem, rfl⟩ := List.mem_map.mp he
    obtain ⟨hfind, hrid⟩ := hstored b hbmem
    rw [hrid]
    exact ⟨hlive.mem.entry_of_find hfind, (hlive.mem.stored _ _ hfind).items⟩
  refine (recoverEntries_triple hlive hinv hb (fun e he => (hes e he).1) ?_
    (fun e he => (hes e he).2) (fun e he => hrecover _ e (hes e he).1) hsmudge).mono ?_
  · rw [hrids]
    exact w.prov.state.journal.sorted.imp fun hlt => ne_of_lt hlt
  rintro - w' s' - - ⟨hsvc, hrec⟩
  refine ⟨hsvc, hrec.busy.trans hb, fun r e he hp => ?_⟩
  obtain ⟨hold, hnot⟩ := hrec.pending r e he hp
  obtain ⟨js, hjs, -, -⟩ := hlive.mem.find_of_entry hold
  refine hnot ?_
  rw [hrids]
  exact List.mem_map_of_mem (f := Prod.fst) (OrdMap.mem_toList_iff.mpr hjs)

/-- Without an HSM the provider is not ready and recovery changes nothing. -/
private theorem reads_recoverEntry_of_not_ready (hready : w.prov.ready = false) :
    Reads (recoverEntry D ω e) w fun _ => True := by
  unfold recoverEntry
  refine reads_trustedNowMs.bind fun t k _ => Reads.gets_bind ?_
  have hboth : bothActive D w.prov e.generation = false := by
    obtain ⟨p, hp⟩ := List.exists_mem_of_ne_nil _ D.service.requiredPurposes_ne
    unfold bothActive
    rw [List.all_eq_false]
    refine ⟨p, hp, ?_⟩
    simp [querySlot, hready]
  rw [if_neg (by simp [hboth])]
  have hroll : Reads (rollbackStaging ω e.generation) { w with asked := k } fun _ => True := by
    unfold rollbackStaging
    refine Reads.gets_bind ?_
    rw [if_pos (by simp [hready])]
    exact .pure trivial
  refine hroll.bind fun _ k' _ => ?_
  have hsave : Reads (saveJournal D.platform ω (abandonedEntry e))
      { w with asked := k' } fun _ => True := by
    unfold saveJournal
    refine Reads.gets_bind ?_
    rw [if_pos (by simp [hready])]
    exact .pure trivial
  exact hsave.bind fun _ _ _ => .pure trivial

theorem reads_recoverOnStartup_of_not_ready (hready : w.prov.ready = false) :
    Reads (recoverOnStartup D ω) w fun _ => True := by
  have hloop : ∀ (es : List BusinessKeyJournalEntry) (w : World), w.prov.ready = false →
      Reads (recoverEntries D ω es) w fun _ => True := by
    intro es
    induction es with
    | nil => exact fun w _ => .pure trivial
    | cons e es ih =>
      intro w hw
      unfold recoverEntries
      split
      · exact ih w hw
      · exact (reads_recoverEntry_of_not_ready hw).bind fun _ k _ => ih _ hw
  exact Reads.gets_bind (hloop _ w hready)

end TboxSec.Keyprov
