import TboxSec.Keyprov.Verdicts

/-!
# What a start leaves behind

`initialize` settles every unfinished record it reads back. Whatever its own writes do, it
leaves **no open transaction in memory**: every record is terminal, the staging area is empty
and the ACTIVE slots are those of the last document saved.

The results of its writes are ignored, though, so this need not be so **on disk**, and a second
`initialize` starts from the disk. `restart_clean` says that a second one changes nothing if the
first had nothing to settle, or none of its writes failed.

* `Recovering`, `Recovers`: what a recovery keeps, and the rules for programs that are one.
* `wp_serviceInitialize_restart` is the first start, `wp_serviceInitialize_again` the second.
* `restart_not_clean` is a run in which a write of the first start fails and the second one has
  something to do.
-/

namespace TboxSec.Keyprov

open Canonical Crash Journal

variable {D : Deployment} {M : Set ImportRequest} {K : Bytes} {ω : Oracle} {w w' : World}
  {s : KSys} {l : Label}

/-! ### What recovery keeps -/

/-- What is in memory is what was saved last. -/
structure Flushed (w : World) : Prop where
  state : loadedState w = w.prov.state
  ledger : w.disk.ledger.headD w.ledger = w.ledger

/-- Every write of a call takes effect. -/
structure WritesOk (ω : Oracle) : Prop where
  saves : ∀ n, ω.save n = .ok
  puts : ∀ n, ω.put n = .ok

/-- Recovery leaves the ACTIVE slots alone, and saves what it changes if its writes take
effect. -/
structure Recovering (ω : Oracle) (w w' : World) : Prop where
  active : w'.prov.state.active = w.prov.state.active
  store : w'.prov.store = w.prov.store
  flushed : WritesOk ω → w.prov.store = some true → Flushed w → Flushed w'

/-- Every finished run of the program is a recovery. -/
def Recovers (ω : Oracle) {α : Type} (m : SecM α) : Prop :=
  ∀ w, Prog.wp m (fun _ w' => Recovering ω w w') (fun _ => True) w

namespace Recovers

variable {α β : Type}

theorem pure (a : α) : Recovers ω (Pure.pure a) := fun _ => ⟨rfl, rfl, fun _ _ h => h⟩

theorem gets (f : World → α) : Recovers ω (Prog.gets f) := fun _ => ⟨rfl, rfl, fun _ _ h => h⟩

theorem bind {m : SecM α} {f : α → SecM β} (hm : Recovers ω m) (hf : ∀ a, Recovers ω (f a)) :
    Recovers ω (m >>= f) := by
  intro w
  refine Prog.wp_bind.mpr (Prog.wp_mono (hm w) (fun a w₁ h₁ => ?_) fun _ h => h)
  refine Prog.wp_mono (hf a w₁) (fun b w₂ h₂ => ?_) fun _ h => h
  exact ⟨h₂.active.trans h₁.active, h₂.store.trans h₁.store,
    fun hok hstore h => h₂.flushed hok (h₁.store.trans hstore) (h₁.flushed hok hstore h)⟩

/-- A change of the fields that leaves the slots alone, and its save. -/
theorem change {g : World → State} (hg : ∀ w, (g w).active = w.prov.state.active) :
    Recovers ω (Prog.modify (fun w => w.setState (g w)) >>= fun _ => saveState ω) := by
  intro w
  refine Prog.wp_bind.mpr (Prog.wp_modify.mpr ?_)
  unfold Prog.wp saveState
  split
  · rename_i hstore
    exact ⟨hg w, rfl, fun _ hok _ => absurd hok hstore⟩
  split
  · exact ⟨hg w, rfl, fun _ _ h => ⟨rfl, h.ledger⟩⟩
  · rename_i hsave
    exact ⟨hg w, rfl, fun hok _ _ => (by rw [hok.saves] at hsave; cases hsave)⟩
  · rename_i hsave
    exact ⟨hg w, rfl, fun hok _ _ => (by rw [hok.saves] at hsave; cases hsave)⟩
  · trivial

end Recovers

private theorem recovers_trustedNowMs : Recovers ω (trustedNowMs ω) :=
  fun _ => ⟨rfl, rfl, fun _ _ h => ⟨h.state, h.ledger⟩⟩

private theorem recovers_saveJournal (e : BusinessKeyJournalEntry) :
    Recovers ω (saveJournal D.platform ω e) := by
  unfold saveJournal
  refine Recovers.bind (.gets _) fun prov => ?_
  split
  · exact .pure _
  · exact .change fun _ => rfl

private theorem recovers_rollbackStaging (generation : ℕ) :
    Recovers ω (rollbackStaging ω generation) := by
  unfold rollbackStaging
  refine Recovers.bind (.gets _) fun prov => ?_
  split
  · exact .pure _
  split
  · exact .pure _
  · exact .change fun _ => rfl

private theorem recovers_ledgerPuts (ms : List BusinessKeyMetadata) :
    Recovers ω (ledgerPuts ω ms) := by
  induction ms with
  | nil => exact .pure ()
  | cons m ms ih =>
    refine Recovers.bind (fun w => ?_) fun _ => ih
    unfold Prog.wp ledgerPut
    simp only
    split
    · exact ⟨rfl, rfl, fun _ _ h => ⟨h.state, rfl⟩⟩
    · rename_i hput
      exact ⟨rfl, rfl, fun hok _ _ => (by rw [hok.puts] at hput; cases hput)⟩
    · rename_i hput
      exact ⟨rfl, rfl, fun hok _ _ => (by rw [hok.puts] at hput; cases hput)⟩
    · trivial

private theorem recovers_recoverEntry (e : BusinessKeyJournalEntry) :
    Recovers ω (recoverEntry D ω e) := by
  unfold recoverEntry
  refine recovers_trustedNowMs.bind fun now => Recovers.bind (.gets _) fun prov => ?_
  split
  · exact (recovers_saveJournal _).bind fun _ => (recovers_ledgerPuts _).bind fun _ => .pure _
  · exact (recovers_rollbackStaging _).bind fun _ => (recovers_saveJournal _).bind fun _ => .pure _

/-- **Recovery** leaves the ACTIVE slots alone and saves what it changes. -/
theorem recovers_recoverOnStartup : Recovers ω (recoverOnStartup D ω) := by
  have hloop : ∀ es, Recovers ω (recoverEntries D ω es) := by
    intro es
    induction es with
    | nil => exact .pure ()
    | cons e es ih =>
      unfold recoverEntries
      split
      · exact ih
      · exact (recovers_recoverEntry e).bind fun _ => ih
  exact Recovers.bind (.gets _) fun prov => hloop _

/-- Recovery does nothing for records that are settled. -/
private theorem recoverEntries_of_terminal {es : List BusinessKeyJournalEntry}
    (h : ∀ e ∈ es, e.phase.terminal = true) : recoverEntries D ω es = pure () := by
  induction es with
  | nil => rfl
  | cons e es ih =>
    unfold recoverEntries
    rw [if_pos (h e (List.mem_cons_self ..))]
    exact ih fun x hx => h x (List.mem_cons_of_mem _ hx)

private theorem wp_recoverOnStartup_of_settled {m : KDoc} (h : StateSim D M K w.prov.state m)
    (hversion : w.prov.stateVersionUnknown = false) (hmac : w.prov.macKey = macKeyOf D K)
    (hnone : unfinished w.prov.state = []) {Q : Unit → World → Prop} {C : Disk → Prop}
    (hQ : Q () w) : Prog.wp (recoverOnStartup D ω) Q C w := by
  have hterminal : ∀ e ∈ listJournal D.platform w.prov, e.phase.terminal = true := by
    intro e he
    rw [listJournal_eq h hversion hmac] at he
    by_contra hopen
    have hmem : e ∈ unfinished w.prov.state := List.mem_filter.mpr ⟨he, by simpa using hopen⟩
    rw [hnone] at hmem
    cases hmem
  change Prog.wp (recoverEntries D ω (listJournal D.platform w.prov)) Q C w
  rw [recoverEntries_of_terminal hterminal]
  exact hQ

/-! ### The first start -/

private theorem flushed_of_loaded (hdocs : w'.disk.state = w.disk.state)
    (hstate : w'.prov.state = loadedState w)
    (hledger : w'.ledger = w'.disk.ledger.headD w.ledger) : Flushed w' where
  state := by
    unfold loadedState at hstate ⊢
    rw [hdocs, hstate]
    cases w.disk.state <;> rfl
  ledger := by
    rw [hledger]
    cases w'.disk.ledger <;> rfl

/-- **`initialize`** keeps the slots of the last document, and saves what it changes unless a
write fails. -/
theorem wp_serviceInitialize_restart (h : Idle D M K w s) :
    Prog.wp (serviceInitialize D ω)
      (fun _ w' => w'.svc.providerReady = true →
        w'.prov.state.active = (loadedState w).active ∧
          (unfinished (loadedState w) = [] ∨ WritesOk ω → Flushed w'))
      (fun _ => True) w := by
  have hdown : ∀ rc (w₁ : World), Prog.wp (notReady rc)
      (fun _ w' => w'.svc.providerReady = true →
        w'.prov.state.active = (loadedState w).active ∧
          (unfinished (loadedState w) = [] ∨ WritesOk ω → Flushed w'))
      (fun _ => True) w₁ := fun rc w₁ hup => (by cases hup)
  unfold serviceInitialize
  split
  · exact hdown _ _
  refine Prog.wp_bind.mpr (wp_providerInitialize h ?_ ?_ fun _ _ _ _ => trivial)
  · intro K' w₁ rc hrc _ _ _
    rw [if_pos hrc]
    exact hdown _ _
  · intro K' w₁ hopen hsame hstate hstore
    rw [if_neg (by simp)]
    refine Prog.wp_bind.mpr (wp_ledgerLoad hopen ?_ ?_)
    · intro rc hrc
      rw [if_pos hrc]
      exact hdown _ _
    · rintro w₂ rfl hopen₂ _
      rw [if_neg (by simp)]
      have hflushed : Flushed { w₁ with ledger := w₁.disk.ledger.headD w₁.ledger } :=
        flushed_of_loaded hsame.docs hstate (by rw [← hsame.ledger])
      have hmem := hopen₂.idle.mem
      -- with nothing to settle no write is made at all
      by_cases hnone : unfinished (loadedState w) = []
      · rw [← hstate] at hnone
        refine Prog.wp_bind.mpr
          (wp_recoverOnStartup_of_settled hmem hopen₂.version hopen₂.macKey hnone ?_)
        refine wp_finishInitialize fun svc k _ _ _ => ⟨congrArg State.active hstate, fun _ => ?_⟩
        exact ⟨hflushed.state, hflushed.ledger⟩
      · refine Prog.wp_bind.mpr
          (Prog.wp_mono (recovers_recoverOnStartup _) (fun _ w₃ h₃ => ?_) fun _ h => h)
        refine wp_finishInitialize fun svc k _ _ _ =>
          ⟨h₃.active.trans (congrArg State.active hstate), fun hok => ?_⟩
        have hflushed₃ := h₃.flushed (hok.resolve_left hnone) hstore hflushed
        exact ⟨hflushed₃.state, hflushed₃.ledger⟩

/-! ### The second start -/

/-- **A second `initialize`** of a settled and saved daemon changes no field, no ledger and no
file. -/
theorem wp_serviceInitialize_again (hlive : Live D M K w s) (h : Idle D M K w s)
    (hflushed : Flushed w)
    (hnone : unfinished w.prov.state = []) :
    Prog.wp (serviceInitialize D ω)
      (fun _ w' => w'.disk = w.disk ∧ w'.prov.state = w.prov.state ∧ w'.ledger = w.ledger)
      (fun _ => False) w := by
  unfold serviceInitialize
  split
  · exact ⟨rfl, rfl, rfl⟩
  refine Prog.wp_bind.mpr (wp_providerInitialize h ?_ ?_ fun hk => absurd hk hlive.keyed)
  · intro K' w₁ rc hrc _ hsame hstate
    rw [if_pos hrc]
    exact ⟨hsame.disk hlive.keyed, hstate, hsame.ledger⟩
  · intro K' w₁ hopen hsame hstate _
    rw [hflushed.state] at hstate
    rw [if_neg (by simp)]
    refine Prog.wp_bind.mpr (wp_ledgerLoad hopen ?_ ?_)
    · intro rc hrc
      rw [if_pos hrc]
      exact ⟨hsame.disk hlive.keyed, hstate, hsame.ledger⟩
    · rintro w₂ rfl hopen₂ _
      rw [if_neg (by simp)]
      rw [← hstate] at hnone
      refine Prog.wp_bind.mpr (wp_recoverOnStartup_of_settled hopen₂.idle.mem hopen₂.version
        hopen₂.macKey hnone ?_)
      refine wp_finishInitialize fun svc k _ _ => ⟨hsame.disk hlive.keyed, hstate, ?_⟩
      change w₁.disk.ledger.headD w₁.ledger = w.ledger
      rw [hsame.ledgers, hsame.ledger]
      exact hflushed.ledger

/-! ### A clean restart -/

/-- The slot of a purpose in the last state document saved. -/
def persistedSlot (d : Disk) (p : String) : Option Slot :=
  d.state.head?.bind fun doc => doc.state.active.find? p

/-- No transaction is open after a start, and starting once more changes nothing. -/
structure CleanRestart (D : Deployment) (w w' : World) : Prop where
  terminal : ∀ r e, (loadJournalEx D.platform w'.prov r).entry = some e → e.phase.terminal = true
  staging : w'.prov.state.staging.isEmpty = true
  active : ∀ p, w'.prov.state.active.find? p = persistedSlot w.disk p
  again : ∀ ω, (callStep D w' ⟨.init, ω⟩).1.disk = w'.disk ∧
    (callStep D w' ⟨.init, ω⟩).1.prov.state = w'.prov.state ∧
    (callStep D w' ⟨.init, ω⟩).1.ledger = w'.ledger

/-- Without a document on disk no slot is in use. -/
theorem SimAt.persistedSlot (h : SimAt D M K w s) (p : String) :
    (loadedState w).active.find? p = Keyprov.persistedSlot w.disk p := by
  unfold loadedState Keyprov.persistedSlot
  cases hdocs : w.disk.state with
  | cons doc docs => rfl
  | nil =>
    have hall := h.disk.docs
    rw [hdocs] at hall
    have hlog := List.forall₂_nil_left_iff.mp hall
    -- nothing was ever written, so no batch was ever active
    have hgen : s.mem.gen = 0 := by
      cases hloaded : s.loaded with
      | false =>
        rw [(h.inv.unloaded hloaded).1]
        rfl
      | true =>
        rw [(h.inv.sync hloaded).1, Sys.latest, hlog]
        rfl
    exact h.mem.noSlot p (by rw [h.inv.mem.blank hgen])

private theorem unfinished_eq_nil {st : State} {m : KDoc} (h : StateSim D M K st m)
    (hclean : ∀ r e, m.entry r = some e → phaseStatus e.phase ≠ .pending) : unfinished st = [] := by
  refine List.filter_eq_nil_iff.mpr fun e he hopen => ?_
  obtain ⟨b, hb, rfl⟩ := List.mem_map.mp he
  refine hclean b.1 b.2.entry (h.entry_of_find (OrdMap.mem_toList_iff.mp hb)) ?_
  exact phaseStatus_pending.mpr (by simpa using hopen)

/-- **A start leaves no open transaction, and a second one changes nothing**, if the first had
nothing to settle or none of its writes failed. In memory every record is terminal after every
start, the staging area is clear, and the ACTIVE slots are those of the last document; the second
start begins with what is on the disk, and the results of the writes of the first are ignored. -/
theorem restart_clean (D : Deployment) (past : List Label) (l : Label) (hinit : l.call = .init)
    (hup : (lastCall D past l).1.svc.providerReady = true)
    (hwrites : unfinished (loadedState ((daemon D).run {} past)) = [] ∨ WritesOk l.oracle) :
    CleanRestart D ((daemon D).run {} past) (lastCall D past l).1 := by
  obtain ⟨s, s', ⟨K, hsim⟩, -, hpost, -⟩ := call_refines (c := fun _ _ => True)
    (I := fun _ _ => True) trivial (fun _ _ _ _ _ _ _ _ _ => trivial)
    (Machine.along_true (daemon D) {} (past ++ [l]))
  obtain ⟨K', hsim'⟩ := hpost.sim
  unfold lastCall at hup ⊢
  generalize (daemon D).run {} past = w at hsim hwrites hpost hsim' hup ⊢
  have hstep : callStep D w l =
      settle .code (serviceInitialize D l.oracle { w with asked := {} }) := by
    simp only [callStep, hinit]
  have hrestart : (callStep D w l).1.svc.providerReady = true →
      (callStep D w l).1.prov.state.active = (loadedState w).active ∧
        (unfinished (loadedState w) = [] ∨ WritesOk l.oracle → Flushed (callStep D w l).1) := by
    rw [hstep]
    refine settle_of_wp (P := fun r => r.1.svc.providerReady = true →
      r.1.prov.state.active = (loadedState w).active ∧
        (unfinished (loadedState w) = [] ∨ WritesOk l.oracle → Flushed r.1))
      (wp_serviceInitialize_restart (hsim.asked {}).idle) (fun _ _ h => h) fun d _ hdead => ?_
    cases hdead
  obtain ⟨hactive, hflushed⟩ := hrestart hup
  have hflushed := hflushed hwrites
  have hlive := hsim'.live hup
  have hclean := hpost.clean hinit hup
  generalize (callStep D w l).1 = w' at hsim' hup hactive hflushed hlive ⊢
  constructor
  · intro r e he
    rw [loadJournalEx_of_live hlive] at he
    split at he
    · split at he
      · cases he
      · rename_i e' hentry
        obtain rfl := Option.some.inj he
        by_contra hopen
        exact hclean r e' hentry (phaseStatus_pending.mpr (by simpa using hopen))
    · cases he
  · rw [OrdMap.isEmpty_iff_find?]
    intro p
    cases hp : w'.prov.state.staging.find? p with
    | none => rfl
    | some slot =>
      obtain ⟨-, r, e, he, hpend, -⟩ := hlive.mem.opened p slot hp
      exact absurd hpend (hclean r e he)
  · intro p
    rw [hactive]
    exact hsim.persistedSlot p
  · intro ω
    change (settle .code (serviceInitialize D ω { w' with asked := {} })).1.disk = w'.disk ∧
      (settle .code (serviceInitialize D ω { w' with asked := {} })).1.prov.state = w'.prov.state ∧
      (settle .code (serviceInitialize D ω { w' with asked := {} })).1.ledger = w'.ledger
    refine settle_of_wp (P := fun r => r.1.disk = w'.disk ∧ r.1.prov.state = w'.prov.state ∧
      r.1.ledger = w'.ledger) (wp_serviceInitialize_again (hlive.asked {}) (hsim'.asked {}).idle
      ⟨hflushed.state, hflushed.ledger⟩ (unfinished_eq_nil hlive.mem hclean)) (fun _ _ h => h)
      fun _ h => h.elim

section Runs

open Bench

/-- The process dies at a save of an import, and a new one is started. -/
def brokenOffRun : List Label :=
  startUp ++ [⟨importOf "A" 1, dyingSave 3⟩, ⟨.boot true 9, calm⟩]

set_option maxRecDepth 10000 in
/-- **A start whose saves fail is repeated by the next one**: the record it settled in memory is
still open on disk. -/
theorem restart_not_clean :
    (lastCall daemonD brokenOffRun ⟨.init, failingSaves⟩).1.svc.providerReady = true ∧
      ¬ CleanRestart daemonD ((daemon daemonD).run {} brokenOffRun)
        (lastCall daemonD brokenOffRun ⟨.init, failingSaves⟩).1 := by
  have hrun : (lastCall daemonD brokenOffRun ⟨.init, failingSaves⟩).1.svc.providerReady = true ∧
      (callStep daemonD (lastCall daemonD brokenOffRun ⟨.init, failingSaves⟩).1
        ⟨.init, calm⟩).1.disk ≠ (lastCall daemonD brokenOffRun ⟨.init, failingSaves⟩).1.disk := by
    decide +kernel
  exact ⟨hrun.1, fun h => hrun.2 (h.again calm).1⟩

set_option maxRecDepth 10000 in
/-- A start after a crash in the middle of an import. -/
theorem restart_clean_after_crash :
    unfinished (loadedState ((daemon daemonD).run {} brokenOffRun)) ≠ [] ∧
      CleanRestart daemonD ((daemon daemonD).run {} brokenOffRun)
        (lastCall daemonD brokenOffRun ⟨.init, calm⟩).1 := by
  have hrun : unfinished (loadedState ((daemon daemonD).run {} brokenOffRun)) ≠ [] ∧
      (lastCall daemonD brokenOffRun ⟨.init, calm⟩).1.svc.providerReady = true := by
    decide +kernel
  exact ⟨hrun.1, restart_clean daemonD brokenOffRun ⟨.init, calm⟩ rfl hrun.2
    (.inr ⟨fun _ => rfl, fun _ => rfl⟩)⟩

end Runs

end TboxSec.Keyprov
