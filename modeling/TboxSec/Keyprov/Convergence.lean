import TboxSec.Keyprov.Verdicts

/-!
# Slots and ledger

The ledger is a copy of the ACTIVE slots' metadata in a store of its own, and `getStatus`
reports INVALID when the two differ. A commit, its SUCCEEDED record and the two ledger puts are
four writes; recovery repeats the puts of a record that is **not yet** SUCCEEDED, and of no
other.

`ledger_converges`: after every `initialize` that brings the daemon up the ledger agrees with
the slots, if no put of the run goes wrong, and if a new operation is admitted only for a new
request and beside no unfinished record of its generation. Without the first condition a crash
between the SUCCEEDED record and the puts is never repaired.
-/

namespace TboxSec.Keyprov

open Canonical Crash Journal

variable {D : Deployment} {M : Set ImportRequest} {K : Bytes} {w : World} {s : KSys} {l : Label}
  {past : List Label}

/-! ### Agreement -/

/-- The slot and the ledger's record of its purpose agree. -/
def SlotAgrees (w : World) (p : String) (slot : Slot) : Prop :=
  ∃ m, ledgerGet w.ledger businessDomainV2c p = some m ∧ m.keyIdDigest = slot.keyIdDigest ∧
    m.businessKeyVersion = slot.version ∧ m.algorithm = slot.algorithm

/-- A batch has been committed: some state document saved has ACTIVE slots. -/
def HasCommitted (d : Disk) : Prop := ∃ doc ∈ d.state, doc.state.active.isEmpty = false

instance (d : Disk) : Decidable (HasCommitted d) := inferInstanceAs (Decidable (∃ doc ∈ _, _))

/-- Slots and ledger agree, and `getStatus` shows it. -/
structure Converged (D : Deployment) (w : World) : Prop where
  agrees : ∀ p slot, w.prov.state.active.find? p = some slot → SlotAgrees w p slot
  absent : ∀ p ∈ D.service.requiredPurposes, w.prov.state.active.find? p = none →
    ledgerGet w.ledger businessDomainV2c p = none
  active : HasCommitted w.disk → w.svc.shuttingDown = false → ∀ ω, ∃ up down,
    (callStep D w ⟨.getStatus businessDomainV2c [purposeUplink, purposeDownlink], ω⟩).2 =
      .statuses .success [up, down] ∧ up.state = .active ∧ down.state = .active
  valid : ∀ purposes ω rc sts,
    (callStep D w ⟨.getStatus businessDomainV2c purposes, ω⟩).2 = .statuses rc sts →
      ∀ st ∈ sts, st.state ≠ .invalid

/-- Every ledger put succeeds, a new operation is admitted only for a new request, and beside
no unfinished record of the generation it will get. -/
structure LedgerSafe (D : Deployment) (w : World) (l : Label) : Prop where
  puts : ∀ n, l.oracle.put n = .ok
  newRequest : NewRequest D w l
  unrivalled : Unrivalled D w l

/-! ### Statuses -/

private theorem enrichAckFields_state (prov : Provider) (purpose : String)
    (out : BusinessKeyStatus) :
    (enrichAckFields D prov purpose out).state = out.state := by
  unfold enrichAckFields
  split <;> rfl

section Status

variable (hlive : Live D M K w s) (hledger : LedgerHolds D w.ledger s.mem.active)

include hlive hledger

/-- The status of a purpose in use is ACTIVE. -/
private theorem fillStatus_of_active {p : String} (hp : p ∈ D.service.requiredPurposes)
    {i : KeyInfo}
    (hi : s.mem.active p = some i) (hdomain : i.domain = businessDomainV2c) :
    ∃ st, fillStatus D w businessDomainV2c p = (.success, st) ∧ st.state = .active := by
  obtain ⟨m, hm, hversion, hdigest, halg⟩ := hledger.some p hp i hi
  obtain ⟨info, hq, hpresent, hv, hd, ha, -, hstate⟩ :=
    querySlot_of_active hlive.mem hlive.ready hi businessDomainV2c
  have hactive : info.state = .active := hstate hlive.kek hdomain.symm
  have hagrees : ledgerAgrees m info = true := by
    simp [ledgerAgrees, hversion, hdigest, halg, hv, hd, ha]
  have hfill : (fillStatus D w businessDomainV2c p).1 = .success ∧
      (fillStatus D w businessDomainV2c p).2.state = .active := by
    unfold fillStatus
    simp only [hq, hm, hpresent, hactive, hagrees, ne_eq, not_true_eq_false, if_false,
      beq_self_eq_true, Bool.and_self, if_true]
    exact ⟨trivial, enrichAckFields_state ..⟩
  exact ⟨_, Prod.ext hfill.1 rfl, hfill.2⟩

/-- The status of a purpose not in use is MISSING. -/
private theorem fillStatus_of_inactive {p : String} (hp : p ∈ D.service.requiredPurposes)
    (hi : s.mem.active p = none) :
    ∃ st, fillStatus D w businessDomainV2c p = (.success, st) ∧ st.state = .missing := by
  have hnone := hledger.none p hp hi
  have hq := querySlot_of_inactive hlive.mem hlive.ready hi businessDomainV2c
  have hfill : (fillStatus D w businessDomainV2c p).1 = .success ∧
      (fillStatus D w businessDomainV2c p).2.state = .missing := by
    unfold fillStatus
    simp only [hq, hnone, ne_eq, not_true_eq_false, if_false, Bool.false_eq_true, and_self]
  exact ⟨_, Prod.ext hfill.1 rfl, hfill.2⟩

variable (hdomain : ∀ p i, s.mem.active p = some i → i.domain = businessDomainV2c)

include hdomain

/-- No status is INVALID. -/
private theorem valid_of_statusLoop (purposes : List String) :
    ∀ st ∈ (statusLoop D w businessDomainV2c purposes).2, st.state ≠ .invalid := by
  induction purposes with
  | nil => exact fun st hst => (by cases hst)
  | cons p purposes ih =>
    intro st hst
    unfold statusLoop at hst
    split at hst
    · cases hst
    rename_i hp
    have hrequired : p ∈ D.service.requiredPurposes := by simpa using hp
    have hfill : ∃ st, fillStatus D w businessDomainV2c p = (.success, st) ∧
        st.state ≠ .invalid := by
      cases hi : s.mem.active p with
      | some i =>
        obtain ⟨st, heq, hst⟩ := fillStatus_of_active hlive hledger hrequired hi (hdomain p i hi)
        exact ⟨st, heq, by simp [hst]⟩
      | none =>
        obtain ⟨st, heq, hst⟩ := fillStatus_of_inactive hlive hledger hrequired hi
        exact ⟨st, heq, by simp [hst]⟩
    obtain ⟨st₀, heq, hst₀⟩ := hfill
    simp only [heq, ne_eq, not_true_eq_false, if_false] at hst
    rcases List.mem_cons.mp hst with rfl | hst
    · exact hst₀
    · exact ih st hst

/-- Once a batch is committed, both purposes are ACTIVE. -/
private theorem active_of_statusLoop (hinv : DocInv (scheme D) s.mem) (hpos : 0 < s.mem.gen) :
    ∃ up down, statusLoop D w businessDomainV2c [purposeUplink, purposeDownlink] =
      (.success, [up, down]) ∧ up.state = .active ∧ down.state = .active := by
  have hfill : ∀ p ∈ providerPurposes, D.service.requiredPurposes.contains p = true ∧
      ∃ st, fillStatus D w businessDomainV2c p = (.success, st) ∧ st.state = .active := by
    intro p hp
    have hrequired := (hlive.mem.both hpos p).mpr hp
    obtain ⟨i, hi⟩ := Option.isSome_iff_exists.mp ((hinv.shaped hpos p).mpr hrequired)
    exact ⟨List.contains_iff_mem.mpr hrequired,
      fillStatus_of_active hlive hledger hrequired hi (hdomain p i hi)⟩
  obtain ⟨hup, up, hupEq, hupActive⟩ := hfill purposeUplink (by simp [providerPurposes])
  obtain ⟨hdown, down, hdownEq, hdownActive⟩ := hfill purposeDownlink (by simp [providerPurposes])
  refine ⟨up, down, ?_, hupActive, hdownActive⟩
  simp only [statusLoop, hup, hdown, hupEq, hdownEq, Bool.not_true, Bool.false_eq_true, if_false,
    ne_eq, not_true_eq_false]

end Status

/-- The answer of `getStatus`. -/
def statusAnswer (D : Deployment) (w : World) (domain : String) (purposes : List String) :
    ErrorCode × List BusinessKeyStatus :=
  if w.svc.shuttingDown || !D.service.enabled || !w.svc.providerReady then
    (.businessKeyNotReady, [])
  else if !D.service.allowedDomains.contains domain then (.businessKeyUnsupported, [])
  else if purposes.isEmpty then (.invalidParameter, [])
  else statusLoop D w domain purposes

private theorem getStatus_eq (w : World) (domain : String) (purposes : List String) :
    getStatus D domain purposes w = .done (statusAnswer D w domain purposes) w := by
  simp only [getStatus, statusAnswer, bind, Prog.bind, Prog.gets, id]
  split_ifs <;> rfl

private theorem callStep_getStatus (w : World) (domain : String) (purposes : List String)
    (ω : Oracle) :
    (callStep D w ⟨.getStatus domain purposes, ω⟩).2 =
      .statuses (statusAnswer D { w with asked := {} } domain purposes).1
        (statusAnswer D { w with asked := {} } domain purposes).2 := by
  change (settle _ (getStatus D domain purposes { w with asked := {} })).2 = _
  rw [getStatus_eq]
  rfl

/-- Only an enabled service comes up. -/
private theorem enabled_of_init (hinit : l.call = .init)
    (hup : (callStep D w l).1.svc.providerReady = true) :
    D.service.enabled = true := by
  by_contra hdisabled
  have hrun : serviceInitialize D l.oracle = notReady .success := by
    unfold serviceInitialize
    rw [if_pos (by simpa using hdisabled)]
  simp only [callStep, hinit, hrun] at hup
  cases hup

/-- A batch that was committed once leaves a batch active. -/
theorem pos_of_hasCommitted (hlive : Live D M K w s) (hinv : Inv (scheme D) s)
    (h : HasCommitted w.disk) : 0 < s.mem.gen := by
  obtain ⟨doc, hdoc, hactive⟩ := h
  obtain ⟨m, hm, hsim⟩ := hlive.disk.exists_doc hdoc
  have hpos : 0 < m.gen := by
    by_contra h0
    have hblank := (hinv.docs m (List.mem_cons_of_mem _ hm)).blank (by omega)
    have hempty : doc.state.active.isEmpty = true := by
      rw [OrdMap.isEmpty_iff_find?]
      exact fun p => hsim.noSlot p (by rw [hblank])
    rw [hempty] at hactive
    cases hactive
  rcases hinv.mem_advances hlive.loaded m hm with ⟨hgen, -⟩ | ⟨hgen, -⟩ <;> omega

/-! ### Convergence -/

section Policies

variable (h : LedgerSafe D w l)

include h

private theorem not_smudge_policyAt : ¬ (policyAt D w l s).smudge := by
  intro hsm
  exact hsm ⟨h.puts, fun a hdec => (h.newRequest a (starts_of_decision hdec)).2⟩

private theorem allowed_policyAt {m : KDoc} {r : String} {e : BusinessKeyJournalEntry}
    (hstart : (policyAt D w l s).start m r e) :
    D.service.allowedDomains.contains businessDomainV2c = true := by
  obtain ⟨-, a, now, hdec, -, -⟩ := hstart
  obtain ⟨q, -, ha, -⟩ := admitted_of_start hdec
  rw [← (h.newRequest a (starts_of_decision hdec)).2]
  exact ha.allowed

end Policies

/-- The protocol's state between two calls of a run that is safe for the ledger. -/
structure LedgerInv (D : Deployment) (s : KSys) : Prop where
  landed : Landed (scheme D) s
  steady : Traced (scheme D) (fun _ b => ∀ k i, b k = some i → (scheme D).steady i) s
  allowed : Traced (scheme D)
    (fun _ _ => D.service.allowedDomains.contains businessDomainV2c = true) s
  posts : Posts (scheme D) s

private theorem ledgerInv_call {s' : KSys} (hsim : Sim D M w s) (h : LedgerInv D s)
    (hsafe : LedgerSafe D w l)
    (hsteps : Steps (scheme D) (policyAt D w l s) s s') : LedgerInv D s' where
  landed := landed_steps (unrivalled_policyAt hsim hsafe.unrivalled) hsteps hsim.inv h.landed
  steady := traced_steps (fun m r e => steady_policyAt hsafe.newRequest m r e) hsteps hsim.inv
    h.steady
  allowed := traced_steps (fun _ _ _ => allowed_policyAt hsafe) hsteps hsim.inv h.allowed
  posts := posts_steps (unrivalled_policyAt hsim hsafe.unrivalled)
    (unknown_policyAt hsim hsafe.newRequest.lookedUp) (steady_policyAt hsafe.newRequest)
    (not_smudge_policyAt hsafe) hsteps hsim.inv h.landed h.steady h.posts

/-- After a start that settled every record, the batch posted is the active one. -/
private theorem LedgerInv.posted_active (h : LedgerInv D s) (hloaded : s.loaded = true)
    (hclean : ∀ r e, s.mem.entry r = some e → phaseStatus e.phase ≠ .pending) :
    s.posted = some s.mem.active := by
  obtain ⟨p, hp, hall⟩ := h.posts
  rcases hall s.mem (.inl ⟨hloaded, rfl⟩) with rfl | ⟨r, e, he, hpend, -⟩
  · exact hp
  · exact absurd hpend (hclean r e he)

/-- **Slots and ledger converge**: after every `initialize` that brings the daemon up, in every run
that is safe for the ledger. The puts into the ledger come behind the commit and its SUCCEEDED
record, and recovery repeats those of a record that is not yet SUCCEEDED; a put that is lost behind
that record is never made up. -/
theorem ledger_converges (D : Deployment) (past : List Label) (l : Label)
    (hinit : l.call = .init) (hc : (daemon D).Along (LedgerSafe D) {} (past ++ [l]))
    (hup : (lastCall D past l).1.svc.providerReady = true) :
    Converged D (lastCall D past l).1 := by
  obtain ⟨s, s', -, -, hpost, hI⟩ := call_refines (I := fun _ s => LedgerInv D s)
    ⟨landed_fresh, traced_fresh, traced_fresh, posts_fresh⟩
    (fun _ _ _ _ _ hsim hI hcl hsteps => ledgerInv_call hsim hI hcl hsteps) hc
  obtain ⟨K, hsim⟩ := hpost.sim
  have hlive := hsim.live hup
  -- recovery left nothing pending, so the batch last posted is the active one
  have hposted := hI.posted_active hlive.loaded (hpost.clean hinit hup)
  have hledger := hlive.ledger _ hposted
  have hdomain : ∀ p i, s'.mem.active p = some i → i.domain = businessDomainV2c :=
    fun p i hi => hI.steady.steady_active hsim.inv hi
  have henabled := enabled_of_init hinit hup
  change (callStep D ((daemon D).run {} past) l).1.svc.providerReady = true at hup
  change Converged D (callStep D ((daemon D).run {} past) l).1
  generalize hw : (callStep D ((daemon D).run {} past) l).1 = w at hlive hledger hup
  constructor
  · intro p slot hslot
    obtain ⟨i, hi, hslotSim⟩ := hlive.mem.slot_of_find hslot
    have hpos : 0 < s'.mem.gen := by
      by_contra h0
      rw [hsim.inv.mem.blank (by omega)] at hi
      cases hi
    have hrequired := (hsim.inv.mem.shaped hpos p).mp (by rw [hi]; rfl)
    obtain ⟨m, hm, hversion, hdigest, halg⟩ := hledger.some p hrequired i hi
    exact ⟨m, hm, hdigest.trans hslotSim.keyIdDigest.symm,
      hversion.trans hslotSim.version.symm, halg.trans hslotSim.algorithm.symm⟩
  · intro p hp hnone
    refine hledger.none p hp ?_
    cases hi : s'.mem.active p with
    | none => rfl
    | some i =>
      obtain ⟨slot, hslot, -⟩ := hlive.mem.slot p i hi
      rw [hnone] at hslot
      cases hslot
  · intro hcommitted hshut ω
    have hpos := pos_of_hasCommitted hlive hsim.inv hcommitted
    obtain ⟨-, hallowed⟩ := hI.allowed s'.mem (List.mem_cons_self ..)
    obtain ⟨-, hallowed⟩ := hallowed hpos
    obtain ⟨up, down, hloop, hstates⟩ :=
      active_of_statusLoop (hlive.asked {}) hledger hdomain hsim.inv.mem hpos
    refine ⟨up, down, ?_, hstates⟩
    rw [callStep_getStatus]
    simp only [statusAnswer, hshut, henabled, hup, hallowed, hloop, Bool.not_true, Bool.or_self,
      Bool.false_eq_true, if_false, List.isEmpty_cons]
  · intro purposes ω rc sts hreply
    rw [callStep_getStatus] at hreply
    obtain ⟨-, rfl⟩ := Reply.statuses.inj hreply
    unfold statusAnswer
    split
    · exact fun st hst => (by cases hst)
    split
    · exact fun st hst => (by cases hst)
    split
    · exact fun st hst => (by cases hst)
    · exact valid_of_statusLoop (hlive.asked {}) hledger hdomain purposes

section Runs

open Bench

/-- The process is started again after an import of request A under `ω`. -/
def restartRun (ω : Oracle) : List Label :=
  startUp ++ [⟨importOf "A" 1, ω⟩, ⟨.boot true 9, calm⟩]

/-- The daemon is initialised. -/
def initialise : Label := ⟨.init, calm⟩

/-- What `getStatus` says of both purposes. -/
def statesOf (w : World) : List BusinessKeyState :=
  match (callStep daemonD w
    ⟨.getStatus businessDomainV2c [purposeUplink, purposeDownlink], calm⟩).2 with
  | .statuses _ sts => sts.map (·.state)
  | _ => []

set_option maxRecDepth 10000 in
/-- **A crash before the ledger puts is not repaired**: after the next start both purposes are
INVALID. -/
theorem ledger_diverges :
    (lastCall daemonD (restartRun dyingPut) initialise).1.svc.providerReady = true ∧
      ¬ Converged daemonD (lastCall daemonD (restartRun dyingPut) initialise).1 := by
  have hrun : (lastCall daemonD (restartRun dyingPut) initialise).1.svc.providerReady = true ∧
      statesOf (lastCall daemonD (restartRun dyingPut) initialise).1 = [.invalid, .invalid] := by
    decide +kernel
  obtain ⟨hup, hstates⟩ := hrun
  refine ⟨hup, fun h => ?_⟩
  unfold statesOf at hstates
  split at hstates
  · rename_i rc sts hreply
    obtain ⟨st, rest, rfl, hst, -⟩ := List.map_eq_cons_iff.mp hstates
    exact h.valid _ _ _ _ hreply st (List.mem_cons_self ..) hst
  · cases hstates

set_option maxRecDepth 10000 in
/-- A restart after a commit finds slots and ledger in agreement. -/
theorem ledger_converges_restart :
    HasCommitted (lastCall daemonD (restartRun calm) initialise).1.disk ∧
      Converged daemonD (lastCall daemonD (restartRun calm) initialise).1 := by
  have hrun : (HasCommitted (lastCall daemonD (restartRun calm) initialise).1.disk ∧
        (lastCall daemonD (restartRun calm) initialise).1.svc.providerReady = true) ∧
      (daemon daemonD).Along (fun w l => NewRequest daemonD w l ∧ Unrivalled daemonD w l) {}
        (restartRun calm ++ [initialise]) := by decide +kernel
  obtain ⟨⟨hcommitted, hup⟩, halong⟩ := hrun
  refine ⟨hcommitted, ledger_converges daemonD _ _ rfl (Machine.along_mono _ ?_ halong) hup⟩
  rintro w l hl ⟨hnew, hriv⟩
  refine ⟨fun n => ?_, hnew, hriv⟩
  simp only [restartRun, startUp, initialise, List.cons_append, List.nil_append, List.mem_cons,
    List.not_mem_nil, or_false] at hl
  rcases hl with rfl | rfl | rfl | rfl | rfl <;> rfl

end Runs

end TboxSec.Keyprov
