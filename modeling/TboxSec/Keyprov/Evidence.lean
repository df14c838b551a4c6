import TboxSec.Keyprov.Verdicts

/-!
# What the journal remembers

NOT_FOUND is answered only while the commit marker is empty, so it is answered **only before the
first commit**, whatever request it is about.

The pipeline ignores the result of its first journal save; still, the commit saves the whole
document, and the record goes with it. Every later document with the slots of that commit keeps
the record (`not_found_sound`), if a new operation is admitted only when the journal says
NOT_FOUND. The legacy import takes a lookup that **fails** for NOT_FOUND, and then overwrites
the record of a committed request.

* `Answers` and `uncommitted_of_notFound`: what NOT_FOUND says about the state of the protocol.
* `stamped_of_persists`: the document that a commit writes has the record of its request.
* `not_found_unsound` is a run in which the condition fails, and the record of a committed request
  is overwritten.
-/

namespace TboxSec.Keyprov

open Canonical Crash Journal

variable {D : Deployment} {M : Set ImportRequest} {K : Bytes} {w : World} {s : KSys} {l : Label}

/-- The call persisted `doc`, the first document of its generation: a commit took effect. -/
def Persists (D : Deployment) (w : World) (l : Label) (doc : StateDoc) : Prop :=
  doc ∈ (callStep D w l).1.disk.state ∧ 0 < doc.state.generation ∧
    ∀ old ∈ w.disk.state, old.state.generation < doc.state.generation

instance (D : Deployment) (w : World) (l : Label) (doc : StateDoc) :
    Decidable (Persists D w l doc) :=
  inferInstanceAs (Decidable (_ ∧ _ ∧ ∀ old ∈ _, _))

/-- The document has a record of the admitted request, with its request digest. -/
def Remembers (doc : StateDoc) (a : Admitted) : Prop :=
  ∃ js ∈ doc.state.journal.find? a.ridDigest, js.entry.requestDigest = a.digest

instance (doc : StateDoc) (a : Admitted) : Decidable (Remembers doc a) :=
  inferInstanceAs (Decidable (∃ js ∈ _, _))

/-- NOT_FOUND means that no commit ever took effect, and the slots of a commit are never without
the record of its request. -/
structure NotFoundSound (D : Deployment) (past : List Label) (l : Label) : Prop where
  reply : ∀ rid rc out, l.call = .getImportResult rid ∨ l.call = .getImportResultKl1 rid →
    (lastCall D past l).2.importResult = some (rc, out) → out.state = .notFound →
    (lastCall D past l).1.disk.commits = [] ∧
      ∀ doc ∈ (lastCall D past l).1.disk.state, doc.state.active.isEmpty = true
  record : ∀ pre l₁ post, past ++ [l] = pre ++ l₁ :: post →
    ∀ a ∈ l₁.starts D ((daemon D).run {} pre), ∀ doc₁,
      Persists D ((daemon D).run {} pre) l₁ doc₁ →
      ∀ doc ∈ (lastCall D past l).1.disk.state, doc.state.active = doc₁.state.active →
        Remembers doc a

/-! ### NOT_FOUND -/

theorem commitMarker_ne {st : State} {m : KDoc} (h : StateSim D M K st m) (hpos : 0 < m.gen) :
    st.commitMarker ≠ "" := by
  rw [h.marked hpos]
  exact toHex_ne_empty (List.ne_nil_of_length_eq_add_one
    (D.platform.crypto.hmacSha256_length (macKeyOf D K) _))

/-- A query of a live daemon says NOT_FOUND only before the first commit. -/
private theorem gen_of_queryJournal (h : Live D M K w s) {requestId : String}
    (hstate : (queryJournal D w requestId).2.1.state = .notFound) : s.mem.gen = 0 := by
  cases hread : w.prov.readable with
  | false =>
    rw [queryJournal_of_not_readable h hread] at hstate
    cases hstate
  | true =>
    cases hentry : s.mem.entry (textDigest D.platform.crypto requestId) with
    | some e =>
      rw [queryJournal_of_some h hread hentry] at hstate
      split at hstate
      · cases hstate
      · have hphase : importStateFromPhase e.phase = .notFound := hstate
        cases hph : e.phase <;> rw [hph] at hphase <;> cases hphase
    | none =>
      rw [queryJournal_of_none h hread hentry] at hstate
      split at hstate
      · cases hstate
      · rename_i hresidue
        by_contra hpos
        have hmarker := commitMarker_ne h.mem (Nat.pos_of_ne_zero hpos)
        simp [transactionResidue, hasTransactionResidue, hmarker] at hresidue

/-- Before the first commit, there is no commit and no document with ACTIVE slots. -/
private theorem uncommitted_of_gen (h : Live D M K w s) (hinv : Inv (scheme D) s)
    (h0 : s.mem.gen = 0) :
    w.disk.commits = [] ∧ ∀ doc ∈ w.disk.state, doc.state.active.isEmpty = true := by
  have hdocs : ∀ doc ∈ w.disk.state, ∃ m ∈ s.log, m.gen = 0 ∧ StateSim D M K doc.state m := by
    intro doc hdoc
    obtain ⟨m, hm, hsim⟩ := h.disk.exists_doc hdoc
    refine ⟨m, hm, ?_, hsim⟩
    rcases hinv.mem_advances h.loaded m hm with ⟨hgen, -⟩ | ⟨hgen, -⟩ <;> omega
  constructor
  · refine List.eq_nil_iff_forall_not_mem.mpr fun c hc => ?_
    obtain ⟨hgrown, doc, hdoc, hstate⟩ := h.disk.commits c hc
    obtain ⟨m, -, hgen, hsim⟩ := hdocs doc hdoc
    have hpos := hgrown.generation
    rw [← hstate, hsim.gen] at hpos
    omega
  · intro doc hdoc
    obtain ⟨m, hm, hgen, hsim⟩ := hdocs doc hdoc
    rw [OrdMap.isEmpty_iff_find?]
    intro p
    exact hsim.noSlot p (by rw [(hinv.docs m (List.mem_cons_of_mem _ hm)).blank hgen])

/-- The answer of a query is UNKNOWN, or it is read off the journal. -/
def Answers (D : Deployment) (w : World) (rid : String) (out : ImportResult) : Prop :=
  out.state = .unknown ∨
    w.svc.providerReady = true ∧ out = (queryJournal D w rid).2.1

private theorem reads_getImportResult_answers (rid : String) :
    Reads (getImportResult D rid) w fun r => Answers D w rid r.2 := by
  unfold getImportResult
  refine Reads.gets_bind ?_
  simp only [id]
  split
  · exact .pure (.inl rfl)
  · rename_i hrej
    exact .pure (.inr ⟨providerReady_of_queryChecks hrej, rfl⟩)

private theorem reads_getImportResultKl1_answers {ω : Oracle} (rid : String) :
    Reads (getImportResultKl1 D ω rid) w fun r => Answers D w rid r.2.1 := by
  unfold getImportResultKl1
  refine Reads.gets_bind ?_
  simp only [id]
  split
  · exact .pure (.inl rfl)
  · rename_i hrej
    refine reads_trustedNowMs.bind fun t k _ => ?_
    exact .pure (.inr ⟨providerReady_of_queryChecks hrej, rfl⟩)

/-- What a query replies, and that it leaves everything but the counters alone. -/
private theorem query_reply {rid : String}
    (hcall : l.call = .getImportResult rid ∨ l.call = .getImportResultKl1 rid) :
    (∃ k, (callStep D w l).1 = { w with asked := k }) ∧
      ∀ rc out, (callStep D w l).2.importResult = some (rc, out) → Answers D w rid out := by
  rcases hcall with hcall | hcall
  · have hreads : Reads (getImportResult D rid) { w with asked := {} }
        fun r => Answers D w rid r.2 := reads_getImportResult_answers rid
    obtain ⟨r, k, hrun, hr⟩ := hreads
    simp only [callStep, hcall, hrun, settle]
    refine ⟨⟨k, rfl⟩, fun rc out hreply => ?_⟩
    cases hreply
    exact hr
  · have hreads : Reads (getImportResultKl1 D l.oracle rid) { w with asked := {} }
        fun r => Answers D w rid r.2.1 := reads_getImportResultKl1_answers rid
    obtain ⟨r, k, hrun, hr⟩ := hreads
    simp only [callStep, hcall, hrun, settle]
    refine ⟨⟨k, rfl⟩, fun rc out hreply => ?_⟩
    cases hreply
    exact hr

/-- **NOT_FOUND is sound.** -/
theorem uncommitted_of_notFound (hsim : Sim D M w s) {rid : String} {rc : ErrorCode}
    {out : ImportResult} (hcall : l.call = .getImportResult rid ∨ l.call = .getImportResultKl1 rid)
    (hreply : (callStep D w l).2.importResult = some (rc, out)) (hstate : out.state = .notFound) :
    (callStep D w l).1.disk.commits = [] ∧
      ∀ doc ∈ (callStep D w l).1.disk.state, doc.state.active.isEmpty = true := by
  obtain ⟨K, hsim⟩ := hsim
  obtain ⟨⟨k, hw⟩, hanswers⟩ := query_reply (D := D) (w := w) hcall
  rw [hw]
  rcases hanswers rc out hreply with hunknown | ⟨hready, rfl⟩
  · rw [hstate] at hunknown
    cases hunknown
  · have hlive := hsim.live hready
    exact uncommitted_of_gen (hlive.asked k) hsim.inv (gen_of_queryJournal hlive hstate)

/-! ### The record of a commit -/

/-- A digest of the request is kept with its record. -/
private theorem digest_of_alike (t : String) (e e' : BusinessKeyJournalEntry)
    (h : (scheme D).Alike e e') (he : e.requestDigest = t) : e'.requestDigest = t :=
  Eq.trans h.kin he

/-- Two documents with the same slots in use have the same generation. -/
private theorem gen_eq_of_active_eq {K' : Bytes} {st st' : State} {m m' : KDoc}
    (h : StateSim D M K st m)
    (h' : StateSim D M K' st' m') (hm : DocInv (scheme D) m) (hpos : 0 < m.gen)
    (hactive : st'.active = st.active) : m'.gen = m.gen := by
  obtain ⟨p, hp⟩ := List.exists_mem_of_ne_nil _ D.service.requiredPurposes_ne
  obtain ⟨i, hi⟩ := Option.isSome_iff_exists.mp ((hm.shaped hpos p).mpr hp)
  obtain ⟨slot, hslot, hsim⟩ := h.slot p i hi
  rw [← hactive] at hslot
  obtain ⟨i', -, hsim'⟩ := h'.slot_of_find hslot
  exact hsim'.gen.symm.trans hsim.gen

/-- **A commit leaves its record** in every document of its generation. -/
theorem stamped_of_persists (hsim : Sim D .univ w s) {a : Admitted} (hstart : l.starts D w = some a)
    {doc : StateDoc} (hdoc : Persists D w l doc) :
    ∃ s' K m, Sim D .univ (callStep D w l).1 s' ∧ StateSim D .univ K doc.state m ∧
      DocInv (scheme D) m ∧
      0 < m.gen ∧ Stamped a.ridDigest (fun e => e.requestDigest = a.digest) m.gen s' := by
  obtain ⟨K, hsim⟩ := hsim
  have hdec : l.decision D w = some (.start a) := by
    unfold Label.starts at hstart
    split at hstart
    · rename_i a' ha'
      rw [ha', Option.some.inj hstart]
    · cases hstart
  have hlive := hsim.live_of_start hdec
  obtain ⟨s', hpost⟩ := callStep_refines ⟨K, hsim⟩ l fun _ _ => Set.mem_univ _
  have hstamping : Stamping a.ridDigest (fun e => e.requestDigest = a.digest) s.mem.gen s' := by
    refine stamping_steps (digest_of_alike a.digest) ?_ hpost.steps hsim.inv
      (stamping_of_loaded hsim.inv hlive.loaded hsim.busy)
    rintro m x e ⟨-, a', now, hdec', rfl, rfl⟩
    obtain rfl : a = a' := by
      rw [hdec] at hdec'
      injection hdec' with hdec'
      injection hdec'
    exact ⟨rfl, rfl⟩
  obtain ⟨K', hsim'⟩ := hpost.sim
  obtain ⟨hmem, hpos, hnew⟩ := hdoc
  obtain ⟨m, hm, hdocSim⟩ := hsim'.disk.exists_doc hmem
  have hinv := hsim'.inv.docs m (List.mem_cons_of_mem _ hm)
  rw [hdocSim.gen] at hpos
  -- the document is above the active generation before the call
  have habove : s.mem.gen < m.gen := by
    rw [(hsim.inv.sync hlive.loaded).1, Sys.latest]
    have hall := hsim.disk.docs
    cases hdocs : w.disk.state with
    | nil =>
      rw [hdocs] at hall
      rw [List.forall₂_nil_left_iff.mp hall]
      exact hpos
    | cons old docs =>
      rw [hdocs] at hnew
      have hold : StateSim D .univ K old.state s.latest := hsim.disk.latest (by rw [hdocs]; rfl)
      change s.latest.gen < m.gen
      rw [← hold.gen, ← hdocSim.gen]
      exact hnew old (List.mem_cons_self ..)
  exact ⟨s', K', m, ⟨K', hsim'⟩, hdocSim, hinv, hpos,
    fun m' hm' hgen => hstamping.docs m' hm' (by rw [hgen]; exact habove), m, hm, rfl⟩

/-- The stamp stays, in every run in which the journal is consulted. -/
private theorem stamped_run {r t : String} {n : ℕ} (hpos : 0 < n) {ls : List Label}
    (h : ∃ s, Sim D .univ w s ∧ Stamped r (fun e => e.requestDigest = t) n s)
    (hc : (daemon D).Along (LookedUp D) w ls) :
    ∃ s, Sim D .univ ((daemon D).run w ls) s ∧ Stamped r (fun e => e.requestDigest = t) n s := by
  refine Machine.run_invariant (M := daemon D)
    (I := fun w => ∃ s, Sim D .univ w s ∧ Stamped r (fun e => e.requestDigest = t) n s) ?_ h hc
  rintro w l ⟨s, hsim, hstamped⟩ hl
  obtain ⟨s', hpost⟩ := callStep_refines hsim l fun _ _ => Set.mem_univ _
  exact ⟨s', hpost.sim, stamped_steps (digest_of_alike t) (unknown_policyAt hsim hl) hpos
    hpost.steps hsim.inv hstamped⟩

/-- **NOT_FOUND is sound and every commit leaves its evidence**, in every run in which a new
operation is admitted only when the journal says NOT_FOUND. The answer is given before the first
commit only, and every document with the slots of a commit has the record of its request, although
the pipeline ignores whether its own first save of the record succeeds. -/
theorem not_found_sound (D : Deployment) (past : List Label) (l : Label)
    (hc : (daemon D).Along (LookedUp D) {} (past ++ [l])) : NotFoundSound D past l where
  reply := by
    intro rid rc out hcall hreply hstate
    obtain ⟨s, hsim, -⟩ := exists_traced D past
    exact uncommitted_of_notFound hsim hcall hreply hstate
  record := by
    intro pre l₁ post hsplit a ha doc₁ hdoc₁ doc hdoc hactive
    have hfinal : (lastCall D past l).1 = (daemon D).run {} (pre ++ l₁ :: post) := by
      rw [← hsplit, Machine.run_append]
      rfl
    rw [hfinal, Machine.run_append, Machine.run_cons] at hdoc
    rw [hsplit, Machine.along_append] at hc
    obtain ⟨s, hsim, -⟩ := exists_traced D pre
    obtain ⟨s₁, K₁, m₁, hsim₁, hdocSim₁, hinv₁, hpos, hstamped⟩ :=
      stamped_of_persists hsim ha hdoc₁
    obtain ⟨s', ⟨K', hsim'⟩, hstamped'⟩ := stamped_run hpos ⟨s₁, hsim₁, hstamped⟩ hc.2.2
    obtain ⟨m, hm, hdocSim⟩ := hsim'.disk.exists_doc hdoc
    have hgen := gen_eq_of_active_eq hdocSim₁ hdocSim hinv₁ hpos hactive
    obtain ⟨e, he, hdigest⟩ := hstamped'.docs m (List.mem_cons_of_mem _ hm) hgen
    obtain ⟨js, hjs, rfl, -⟩ := hdocSim.find_of_entry he
    exact ⟨js, hjs, hdigest⟩

section Runs

open Bench

/-- Request A is committed; while the store cannot be read, A is made again with other keys. -/
def overwrittenRun : List Label :=
  startUp ++ [⟨importOf "A" 1, calm⟩, ⟨.storeReady false, calm⟩, ⟨importOf "A" 2, calm⟩,
    ⟨.storeReady true, calm⟩]

set_option maxRecDepth 10000 in
/-- **The record of a committed request is overwritten** by an import whose lookup failed: the
next document saved has the slots of A's commit and a record with another request digest. -/
theorem not_found_unsound :
    ¬ NotFoundSound daemonD overwrittenRun ⟨importOf "B" 2, dyingSave 1⟩ := by
  intro h
  have hrun : ∃ a ∈ (⟨importOf "A" 1, calm⟩ : Label).starts daemonD
        ((daemon daemonD).run {} startUp),
      ∃ doc₁ ∈ (callStep daemonD ((daemon daemonD).run {} startUp)
          ⟨importOf "A" 1, calm⟩).1.disk.state,
        Persists daemonD ((daemon daemonD).run {} startUp) ⟨importOf "A" 1, calm⟩ doc₁ ∧
        ∃ doc ∈ (lastCall daemonD overwrittenRun ⟨importOf "B" 2, dyingSave 1⟩).1.disk.state,
          doc.state.active = doc₁.state.active ∧ ¬ Remembers doc a := by decide +kernel
  obtain ⟨a, ha, doc₁, -, hpersists, doc, hdoc, hactive, hnot⟩ := hrun
  exact hnot (h.record startUp _ _ rfl a ha doc₁ hpersists doc hdoc hactive)

/-- A query of request A. -/
def queryA : Label := ⟨.getImportResult "A", calm⟩

set_option maxRecDepth 10000 in
/-- On a fresh device a query is answered NOT_FOUND, and that is sound. -/
theorem not_found_sound_fresh :
    (lastCall daemonD startUp queryA).2.importResult.map (·.2.state) = some .notFound ∧
      NotFoundSound daemonD startUp queryA :=
  ⟨by decide +kernel, not_found_sound daemonD startUp queryA (by decide +kernel)⟩

end Runs

end TboxSec.Keyprov
