import TboxSec.Keyprov.Runs

/-!
# Atomic and monotone key rotation

What holds of the ACTIVE slots over every run of the daemon, whatever fails and wherever the
process dies:

* `active_dual_purpose`: they are empty, or the two purposes of **one** request under one
  generation, each with the key unwrapped for its item, in memory and in every state document
  written;
* `active_versions_advance`: their versions and their generation never go back, and every
  commit that takes effect makes them grow.

`SlotsOf` says what it is for slots to be those of the items of a request: version, digest of the
key id, algorithm, validity and generation, and the key that was unwrapped for the item, sealed
under the key-encryption key of the device. `DualPurpose` asks it of both purposes at once, with
one request for both.
-/

namespace TboxSec.Keyprov

open Canonical Crash Journal

variable {D : Deployment} {M : Set ImportRequest} {K : Bytes} {w : World} {s : KSys}
  {ls : List Label}

/-! ### One batch -/

/-- The slots are exactly those of the two purposes, under the generation `g`, and hold the
keys of the items of `q`, sealed under `K`. -/
structure SlotsOf (D : Deployment) (K : Bytes) (q : ImportRequest) (g : ℕ)
    (active : OrdMap String Slot) : Prop where
  both : ∀ p ∈ [purposeUplink, purposeDownlink], ∃ slot it, active.find? p = some slot ∧
    slot.generation = g ∧ it ∈ q.items ∧ it.purpose = p ∧ SlotOf D K q it slot
  only : ∀ p, p ∉ [purposeUplink, purposeDownlink] → active.find? p = none

/-- No slot is active, or the slots of one request of the run are. -/
def DualPurpose (D : Deployment) (K : Bytes) (ls : List Label) (active : OrdMap String Slot) :
    Prop :=
  active.isEmpty = true ∨ ∃ q ∈ requests ls, ∃ g, SlotsOf D K q g active

/-- `K` is the key-encryption key of the device: the key file holds it, or as much of it as was
written, and an initialised provider holds it. -/
structure KeyEncryptionKey (w : World) (K : Bytes) : Prop where
  length : K.length = kekSize
  file : ∀ file ∈ w.disk.kek, file <+: K
  memory : w.svc.providerReady = true → w.prov.kek = K

/-- Fields that stand for a document are dual-purpose. -/
private theorem dualPurpose_of_stateSim {st : State} {m : KDoc} (h : StateSim D M K st m)
    (hm : DocInv (scheme D) m) (hM : ∀ q ∈ M, q ∈ requests ls) :
    DualPurpose D K ls st.active := by
  rcases Nat.eq_zero_or_pos m.gen with h0 | hpos
  · left
    rw [OrdMap.isEmpty_iff_find?]
    intro p
    refine h.noSlot p ?_
    rw [hm.blank h0]
  · right
    obtain ⟨q, hq, hfrom⟩ := h.source hpos
    refine ⟨q, hM q hq, m.gen, fun p hp => ?_, fun p hp => ?_⟩
    · obtain ⟨i, hi⟩ := Option.isSome_iff_exists.mp
        ((hm.shaped hpos p).mpr ((h.both hpos p).mpr hp))
      obtain ⟨slot, hslot, hsim⟩ := h.slot p i hi
      obtain ⟨it, hit, hpurpose, hof⟩ := hfrom p slot hslot
      exact ⟨slot, it, hslot, hsim.gen, hit, hpurpose, hof⟩
    · refine h.noSlot p ?_
      rw [← Option.not_isSome_iff_eq_none]
      exact fun hsome => hp ((h.both hpos p).mp ((hm.shaped hpos p).mp hsome))

/-- A state document stands for a document of the log. -/
theorem DiskSim.exists_doc {d : Disk} (h : DiskSim D M K d s) {doc : StateDoc}
    (hdoc : doc ∈ d.state) : ∃ m ∈ s.log, StateSim D M K doc.state m := by
  obtain ⟨m, hm, -, hsim⟩ := exists_left_of_mem_right (List.Forall₂.flip (R := fun m doc =>
    doc.v = supportedStateVersion ∧ StateSim D M K doc.state m) h.docs) doc hdoc
  exact ⟨m, hm, hsim⟩

/-- The newest state document stands for the newest document of the log. -/
private theorem DiskSim.exists_newest {d : Disk} (h : DiskSim D M K d s) {doc : StateDoc}
    (hdoc : doc ∈ d.state.head?) : ∃ m log, s.log = m :: log ∧ StateSim D M K doc.state m := by
  have hdocs := h.docs
  cases hstate : d.state with
  | nil =>
    rw [hstate] at hdoc
    cases hdoc
  | cons newest docs =>
    rw [hstate] at hdoc hdocs
    obtain rfl : newest = doc := Option.some.inj hdoc
    obtain ⟨m, log, ⟨-, hsim⟩, -, hlog⟩ := List.forall₂_cons_left_iff.mp hdocs
    exact ⟨m, log, hlog, hsim⟩

theorem DiskSim.latest {d : Disk} (h : DiskSim D M K d s) {doc : StateDoc}
    (hdoc : doc ∈ d.state.head?) : StateSim D M K doc.state s.latest := by
  obtain ⟨m, log, hlog, hsim⟩ := h.exists_newest hdoc
  rw [Sys.latest, hlog]
  exact hsim

/-- **Dual-purpose atomicity.** After every run, the ACTIVE slots in memory and in every state
document ever written are empty or those of the items of one request, each with the key that
was unwrapped for its item, sealed under the key-encryption key of the device. -/
theorem active_dual_purpose (D : Deployment) (ls : List Label) :
    let w := (daemon D).run {} ls
    ∃ K, KeyEncryptionKey w K ∧ DualPurpose D K ls w.prov.state.active ∧
      ∀ doc ∈ w.disk.state, DualPurpose D K ls doc.state.active := by
  intro w
  obtain ⟨s, ⟨K, hsim⟩, -⟩ := run_refines_in (M := {q | q ∈ requests ls}) (c := fun _ _ => True)
    (I := fun _ _ => True) (fun _ => id) trivial (fun _ _ _ _ _ _ _ _ _ => trivial)
    (Machine.along_true _ _ ls)
  have hdoc : ∀ {st : State} {m : KDoc}, StateSim D _ K st m → m ∈ s.mem :: s.log →
      DualPurpose D K ls st.active := fun hstate hm =>
    dualPurpose_of_stateSim hstate (hsim.inv.docs _ hm) fun _ => id
  refine ⟨K, ⟨hsim.disk.key, hsim.disk.kek, fun hready => (hsim.live hready).kek⟩,
    hdoc hsim.mem (List.mem_cons_self ..), fun doc hmem => ?_⟩
  obtain ⟨m, hm, hstate⟩ := hsim.disk.exists_doc hmem
  exact hdoc hstate (List.mem_cons_of_mem _ hm)

/-! ### Growth -/

/-- Neither the generation nor the version of any slot goes back from `old` to `new`. -/
structure NotBelow (old new : State) : Prop where
  generation : old.generation ≤ new.generation
  slots : ∀ p slot, old.active.find? p = some slot →
    ∃ slot', new.active.find? p = some slot' ∧ slot.version ≤ slot'.version

private theorem notBelow_of_advances {K₀ : Bytes} {old new : State} {m₀ m : KDoc}
    (hold : StateSim D M K₀ old m₀)
    (hnew : StateSim D M K new m) (hm₀ : DocInv (scheme D) m₀) (hm : DocInv (scheme D) m)
    (h : Advances (scheme D) m m₀) : NotBelow old new := by
  refine ⟨?_, fun p slot hslot => ?_⟩
  · rw [hold.gen, hnew.gen]
    rcases h with ⟨hgen, -⟩ | ⟨hgen, -⟩ <;> omega
  · obtain ⟨j, hj, hsim₀⟩ := hold.slot_of_find hslot
    rcases h with ⟨-, hact⟩ | ⟨hgen, hnewer⟩
    · obtain ⟨slot', hslot', hsim⟩ := hnew.slot p j (hact ▸ hj)
      exact ⟨slot', hslot', by rw [hsim₀.version, hsim.version]⟩
    · -- the older batch covers the required purposes, so the newer one does too
      have hpos : 0 < m₀.gen := by
        by_contra h0
        rw [hm₀.blank (by omega)] at hj
        cases hj
      have hkey : p ∈ D.service.requiredPurposes := (hm₀.shaped hpos p).mp (by rw [hj]; rfl)
      obtain ⟨i, hi⟩ := Option.isSome_iff_exists.mp ((hm.shaped (by omega) p).mpr hkey)
      obtain ⟨slot', hslot', hsim⟩ := hnew.slot p i hi
      refine ⟨slot', hslot', ?_⟩
      rw [hsim₀.version, hsim.version]
      exact le_of_lt (hnewer p i j hi hj)

/-- The documents written are in order. -/
private theorem DiskSim.pairwise_notBelow {d : Disk} (h : DiskSim D M K d s)
    (hinv : Inv (scheme D) s) :
    d.state.Pairwise fun new old => NotBelow old.state new.state := by
  have hdocs : ∀ m ∈ s.log, DocInv (scheme D) m := fun m hm =>
    hinv.docs m (List.mem_cons_of_mem _ hm)
  have horder := hinv.order
  have hall := h.docs
  clear hinv
  generalize d.state = docs at hall
  generalize s.log = log at hall hdocs horder
  induction hall with
  | nil => exact .nil
  | @cons doc m docs log hdoc hall ih =>
    rw [List.pairwise_cons] at horder ⊢
    refine ⟨fun doc' hdoc' => ?_, ih (fun m' hm' => hdocs m' (List.mem_cons_of_mem _ hm')) horder.2⟩
    obtain ⟨m', hm', -, hsim'⟩ := exists_left_of_mem_right (List.Forall₂.flip (R := fun m doc =>
      doc.v = supportedStateVersion ∧ StateSim D M K doc.state m) hall) doc' hdoc'
    exact notBelow_of_advances hsim' hdoc.2 (hdocs m' (List.mem_cons_of_mem _ hm'))
      (hdocs m (List.mem_cons_self ..)) (horder.1 m' hm')

/-- The document in memory is not behind any document written. -/
private theorem Live.notBelow (h : Live D M K w s) (hinv : Inv (scheme D) s) {K₀ : Bytes}
    {old : State}
    {m₀ : KDoc} (hm₀ : m₀ ∈ s.log) (hold : StateSim D M K₀ old m₀) : NotBelow old w.prov.state :=
  notBelow_of_advances hold h.mem (hinv.docs m₀ (List.mem_cons_of_mem _ hm₀)) hinv.mem
    (hinv.mem_advances h.loaded m₀ hm₀)

/-- What was in memory of a live daemon is in the last document written, or is blank. -/
private theorem Live.exists_written (h : Live D M K w s) (hinv : Inv (scheme D) s) :
    (s.mem.gen = 0 ∧ s.mem.active = fun _ => none) ∨
      ∃ m ∈ s.log, m.gen = s.mem.gen ∧ m.active = s.mem.active := by
  obtain ⟨hgen, hact⟩ := hinv.sync h.loaded
  unfold Sys.latest at hgen hact
  cases hlog : s.log with
  | nil =>
    rw [hlog] at hgen hact
    exact .inl ⟨hgen, hact⟩
  | cons m log =>
    rw [hlog] at hgen hact
    exact .inr ⟨m, List.mem_cons_self .., hgen.symm, hact.symm⟩

/-- A later state of a run has every document of the earlier one in its log. -/
private theorem exists_later (h : Sim D .univ w s) (ls : List Label) :
    ∃ s', Sim D .univ ((daemon D).run w ls) s' ∧ s.log <:+ s'.log := by
  refine Machine.run_invariant (M := daemon D) (c := fun _ _ => True)
    (I := fun w' => ∃ s', Sim D .univ w' s' ∧ s.log <:+ s'.log) ?_ ⟨s, h, List.suffix_rfl⟩
    (Machine.along_true _ _ _)
  rintro w' l ⟨s', hsim, hlog⟩ -
  obtain ⟨s'', hpost⟩ := callStep_refines hsim l fun _ _ => Set.mem_univ _
  exact ⟨s'', hpost.sim, hlog.trans (Steps.log_suffix hpost.steps)⟩

/-- **Key-version monotonicity.** Let `w` be the daemon after a run and `w'` after any
continuation of it. Every commit that took effect has raised the generation and the version
under both purposes; the state documents written, newest first, never go back; and from `w` to
`w'` neither the last document nor the fields of an initialised provider go back. -/
theorem active_versions_advance (D : Deployment) (ls ls' : List Label) :
    let w := (daemon D).run {} ls
    let w' := (daemon D).run {} (ls ++ ls')
    (∀ c ∈ w'.disk.commits, Grown c.1 c.2) ∧
    (w'.disk.state.Pairwise fun new old => NotBelow old.state new.state) ∧
    (∀ doc ∈ w.disk.state, ∀ doc' ∈ w'.disk.state.head?, NotBelow doc.state doc'.state) ∧
    (w'.svc.providerReady = true → ∀ doc ∈ w'.disk.state, NotBelow doc.state w'.prov.state) ∧
    (w.svc.providerReady = true → w'.svc.providerReady = true →
      NotBelow w.prov.state w'.prov.state) := by
  intro w w'
  obtain ⟨s, ⟨K, hsim⟩, -⟩ := exists_traced D ls
  obtain ⟨s', ⟨K', hsim'⟩, hlog⟩ := exists_later ⟨K, hsim⟩ ls'
  rw [← Machine.run_append] at hsim'
  refine ⟨fun c hc => (hsim'.disk.commits c hc).1, hsim'.disk.pairwise_notBelow hsim'.inv,
    ?_, ?_, ?_⟩
  · intro doc hdoc doc' hdoc'
    obtain ⟨m, hm, hdocSim⟩ := hsim.disk.exists_doc hdoc
    have hm' : m ∈ s'.log := hlog.subset hm
    obtain ⟨m', log', hlog', hnewest⟩ := hsim'.disk.exists_newest hdoc'
    -- the documents written before are still there, behind the newest one
    have hadv : Advances (scheme D) m' m := by
      rw [hlog'] at hm'
      rcases List.mem_cons.mp hm' with rfl | hm'
      · exact .inl ⟨rfl, rfl⟩
      · have horder := hsim'.inv.order
        rw [hlog', List.pairwise_cons] at horder
        exact horder.1 m hm'
    have hdocInv : ∀ m ∈ s'.log, DocInv (scheme D) m := fun m hm =>
      hsim'.inv.docs m (List.mem_cons_of_mem _ hm)
    exact notBelow_of_advances hdocSim hnewest (hdocInv m hm')
      (hdocInv m' (by rw [hlog']; exact List.mem_cons_self ..)) hadv
  · intro hready doc hdoc
    obtain ⟨m, hm, hdocSim⟩ := hsim'.disk.exists_doc hdoc
    exact (hsim'.live hready).notBelow hsim'.inv hm hdocSim
  · intro hready hready'
    have hlive := hsim.live hready
    have hlive' := hsim'.live hready'
    have hinv := hsim.inv
    refine notBelow_of_advances hlive.mem hlive'.mem hinv.mem hsim'.inv.mem ?_
    -- the batch in memory was written before, if there is one, and the log only grows
    rcases hlive.exists_written hinv with ⟨h0, hnone⟩ | ⟨m, hm, hgen, hact⟩
    · rcases Nat.eq_zero_or_pos s'.mem.gen with h0' | hpos
      · exact .inl ⟨h0'.trans h0.symm, by rw [hsim'.inv.mem.blank h0', hnone]⟩
      · refine .inr ⟨by omega, fun p i j _ hj => ?_⟩
        rw [hnone] at hj
        cases hj
    · have hadv := hsim'.inv.mem_advances hlive'.loaded m (hlog.subset hm)
      unfold Advances at hadv ⊢
      rwa [hgen, hact] at hadv

end TboxSec.Keyprov
