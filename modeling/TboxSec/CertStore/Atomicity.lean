import TboxSec.CertStore.Bench
import TboxSec.Lib.Machine

/-!
# Commits are atomic

The store as a machine: `openAndRecover` and `commit` calls in any order, each with whatever
happens to its system calls, and new processes. A killed process leaves the disk, and the
next call is made on a new store.

* `Platform.stands_step`: a step leaves the disk standing where it stood, or a commit has moved
  it to its own generation; a commit that returns `SUCCESS` has.
* `Platform.recovery_atomic`: after every run an undisturbed `openAndRecover` succeeds, and what
  it finds differs over a step only by the whole of the step's commit.

`Fresh`: the id that a commit draws is not in use. `Recovers` is what every undisturbed opening
finds, and `Commits` that a generation is what a commit makes of its input. The induction over the
run is `stands_run`, with `stands_step` for one step.
-/

namespace TboxSec.CertStore

open FileSystem

/-- A step of the system. -/
inductive Op where
  | recover (e : Env)
  | commit (e : Env) (c : CertificateCommit)
  /-- A new process, with a new store. -/
  | restart

/-- The disk and the store of the process. -/
structure System where
  disk : Disk Bytes UInt8
  store : Store

/-- The answer to a step. -/
inductive Reply where
  | opened (o : Platform.Opened)
  /-- What `commit` returned; `none` is an exception. -/
  | committed (r : Option ErrorCode)
  | killed
  | restarted
  deriving DecidableEq

namespace Platform

variable {P : Platform}

/-- One step. -/
def step (P : Platform) (s : System) : Op → System × Reply
  | .recover e =>
    match P.openAndRecover e s.store ⟨s.disk, e.events⟩ with
    | .done (o, st) s' => (⟨s'.disk, st⟩, .opened o)
    | .crashed d => (⟨d, .fresh⟩, .killed)
  | .commit e c =>
    match P.commit e s.store c ⟨s.disk, e.events⟩ with
    | .done (r, st) s' => (⟨s'.disk, st⟩, .committed r)
    | .crashed d => (⟨d, .fresh⟩, .killed)
  | .restart => (⟨s.disk, .fresh⟩, .restarted)

/-- The system as a machine. -/
def machine (P : Platform) : Machine System Op Reply := ⟨P.step⟩

/-- The id that a commit draws is not in use. -/
def Fresh (P : Platform) (s : System) : Op → Prop
  | .commit e _ => (s.disk.tree.node (newGenerationId e :: P.generationsDir)).isNone
  | _ => True

instance (s : System) (op : Op) : Decidable (P.Fresh s op) :=
  match op with
  | .commit _ _ => inferInstanceAs (Decidable (_ = true))
  | .recover _ => .isTrue trivial
  | .restart => .isTrue trivial

/-- An undisturbed `openAndRecover`, on any store, succeeds and finds `v`. -/
def Recovers (P : Platform) (d : Disk Bytes UInt8) (v : Option Generation) : Prop :=
  ∀ e st, ∃ d', Calm (P.openAndRecover e st) d (.returned true, ⟨v, true⟩) d'

/-- The generation `g` is what `commit` makes of `c`. -/
def Commits (P : Platform) (e : Env) (st : Store) (c : CertificateCommit) (g : Generation) :
    Prop :=
  ∃ deviceCert, P.json.parse c.deviceCertJson = some deviceCert ∧
    g = newGeneration e st c deviceCert

theorem stands_of_switched {d : Disk Bytes UInt8} {g : Generation} {text : Bytes}
    {createdAt : Int64} {e : Env} (hP : P.Lawful) (h : P.Switched d g text createdAt)
    (hid : g.generationId = newGenerationId e) : P.Stands d.tree (some g) :=
  ⟨Tree.content_of_node h.current, ⟨e, hid⟩, text, createdAt, h.stored.written hP h.parsed,
    h.sound⟩

/-- **One step.** The disk stands where it stood, or at the generation of the step's commit. -/
theorem stands_step (hP : P.Lawful) {s : System} {op : Op} {v : Option Generation}
    (h : P.Stands s.disk.tree v) (hfresh : P.Fresh s op) :
    ∃ v', P.Stands (P.step s op).1.disk.tree v' ∧
      ((v' = v ∧ (P.step s op).2 ≠ .committed (some .success)) ∨
        ∃ e c g, op = .commit e c ∧ v' = some g ∧ P.Commits e s.store c g) := by
  cases op with
  | restart => exact ⟨v, h, .inl ⟨rfl, nofun⟩⟩
  | recover e =>
    refine ⟨v, ?_, .inl ⟨rfl, ?_⟩⟩
    · have hopen := ensures_openAndRecover hP h e s.store e.events
      rw [step]
      cases hrun : P.openAndRecover e s.store ⟨s.disk, e.events⟩ with
      | done a s' =>
        have hend := Crash.Prog.wp_done hopen hrun
        exact hend
      | crashed d =>
        have hend := Crash.Prog.wp_crashed hopen hrun
        exact hend
    · rw [step]
      cases P.openAndRecover e s.store ⟨s.disk, e.events⟩ <;> exact nofun
  | commit e c =>
    have hcommit := @ensures_commit s.disk P hP e s.store c e.events
    have hnone := Option.isNone_iff_eq_none.mp hfresh
    rw [step]
    cases hrun : P.commit e s.store c ⟨s.disk, e.events⟩ with
    | done a s' =>
      rcases Crash.Prog.wp_done hcommit hrun with ⟨hne, -, hd⟩ | ⟨deviceCert, text, hparse, hd, -⟩
      · refine ⟨v, h.of_unswitched hd hnone, .inl ⟨rfl, fun hreply => hne ?_⟩⟩
        injection hreply
      · exact ⟨_, stands_of_switched hP hd rfl,
          .inr ⟨e, c, _, rfl, rfl, deviceCert, hparse, rfl⟩⟩
    | crashed d =>
      rcases Crash.Prog.wp_crashed hcommit hrun with hd | ⟨deviceCert, text, hparse, hd⟩
      · exact ⟨v, h.of_unswitched hd hnone, .inl ⟨rfl, nofun⟩⟩
      · exact ⟨_, stands_of_switched hP hd rfl,
          .inr ⟨e, c, _, rfl, rfl, deviceCert, hparse, rfl⟩⟩

/-- After a run the disk stands somewhere, and at a generation once a commit has succeeded. -/
theorem stands_run (hP : P.Lawful) {d : Disk Bytes UInt8} {ops : List Op}
    (hvacant : P.Stands d.tree none) (hfresh : P.machine.Along P.Fresh ⟨d, .fresh⟩ ops) :
    ∃ v, P.Stands (P.machine.run ⟨d, .fresh⟩ ops).disk.tree v ∧
      (.committed (some .success) ∈ P.machine.replies ⟨d, .fresh⟩ ops → v ≠ none) := by
  refine P.machine.run_replies
    (I := fun rs s => ∃ v, P.Stands s.disk.tree v ∧ (.committed (some .success) ∈ rs → v ≠ none))
    ⟨none, hvacant, by simp⟩ ?_ hfresh
  rintro rs s op ⟨v, hstands, hsome⟩ hop
  obtain ⟨v', hstands', hcase⟩ := stands_step hP hstands hop
  refine ⟨v', hstands', fun hmem => ?_⟩
  rcases hcase with ⟨rfl, hne⟩ | ⟨e, c, g, -, rfl, -⟩
  · rcases List.mem_append.mp hmem with hmem | hmem
    · exact hsome hmem
    · exact absurd (List.mem_singleton.mp hmem).symm hne
  · exact nofun

/-- **Atomicity.** However the calls of a run were cut short, an undisturbed recovery succeeds
after it. Over one step what it finds stays the same, or becomes the whole generation of the
step's commit, as it must when that has returned `SUCCESS`; and it is not nothing once a commit
has succeeded. -/
theorem recovery_atomic (hP : P.Lawful) {d : Disk Bytes UInt8}
    (hcurrent : d.tree.node P.currentPath = none) (hclear : Clear d.tree P.generationsDir)
    {past : List Op} {op : Op}
    (hfresh : P.machine.Along P.Fresh ⟨d, .fresh⟩ (past ++ [op])) :
    ∃ v v', P.Recovers (P.machine.run ⟨d, .fresh⟩ past).disk v ∧
      P.Recovers (P.machine.run ⟨d, .fresh⟩ (past ++ [op])).disk v' ∧
      ((v' = v ∧ (P.step (P.machine.run ⟨d, .fresh⟩ past) op).2 ≠ .committed (some .success)) ∨
        ∃ e c g, op = .commit e c ∧ v' = some g ∧
          P.Commits e (P.machine.run ⟨d, .fresh⟩ past).store c g) ∧
      (.committed (some .success) ∈ P.machine.replies ⟨d, .fresh⟩ past → v ≠ none) := by
  rw [P.machine.along_append] at hfresh
  obtain ⟨v, hstands, hsome⟩ := stands_run hP ⟨hcurrent, hclear⟩ hfresh.1
  obtain ⟨v', hstands', hcase⟩ := stands_step hP hstands hfresh.2.1
  refine ⟨v, v', calm_openAndRecover hP hstands, ?_, hcase, hsome⟩
  rw [P.machine.run_append]
  exact calm_openAndRecover hP hstands'

open Bench in
/-- The second commit of the bench store is killed in the middle of its first file. -/
theorem recovery_atomic_killed :
    let start : System := ⟨emptyDisk, .fresh⟩
    let past : List Op := [.recover (env 0), .commit (env 1) certificate₁]
    let op : Op := .commit (envKilled 2 5) certificate₂
    (bench.machine.Along bench.Fresh start (past ++ [op]) ∧
      bench.machine.replies start (past ++ [op]) =
        [.opened (.returned true), .committed (some .success), .killed]) ∧
    ∃ v v', bench.Recovers (bench.machine.run start past).disk v ∧
      bench.Recovers (bench.machine.run start (past ++ [op])).disk v' ∧
      ((v' = v ∧ (bench.step (bench.machine.run start past) op).2 ≠ .committed (some .success)) ∨
        ∃ e c g, op = .commit e c ∧ v' = some g ∧
          bench.Commits e (bench.machine.run start past).store c g) ∧
      (.committed (some .success) ∈ bench.machine.replies start past → v ≠ none) := by
  have hfresh : bench.machine.Along bench.Fresh ⟨emptyDisk, .fresh⟩
      ([.recover (env 0), .commit (env 1) certificate₁] ++
        [.commit (envKilled 2 5) certificate₂]) := by decide +kernel
  exact ⟨⟨hfresh, by decide +kernel⟩,
    recovery_atomic lawful_bench emptyDisk_current emptyDisk_clear hfresh⟩

end Platform

end TboxSec.CertStore
