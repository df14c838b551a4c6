import TboxSec.CertStore.Atomicity

/-!
# What a commit survives

`commit` syncs every file of the new generation, the generation's directory and, after the
switch, the root; but no call syncs `generations`, and so the entry of the new directory in it
is not durable when `commit` returns `SUCCESS`.

* `Platform.durability_iff`: after a run that ends in such a commit, a power loss leaves a disk
  from which the committed generation is recovered if and only if it spares the way to the
  generation's directory.
* `Platform.exists_loss`: a power loss that does not is always possible.
-/

namespace TboxSec.CertStore

open FileSystem Disk

namespace Platform

variable {P : Platform}

/-! ### The entry of the new directory -/

/-- An entry that can be lost still can be. -/
def StaysLosable (q : Path Bytes) (d d' : Disk Bytes UInt8) : Prop := Losable q d → Losable q d'

section Losable

variable {q : Path Bytes}

/-- An entry that can be lost still can after nothing was done. -/
theorem StaysLosable.refl (d : Disk Bytes UInt8) : StaysLosable q d d := id

/-- Steps that leave an entry losable may follow each other. -/
theorem StaysLosable.trans (d₁ d₂ d₃ : Disk Bytes UInt8) (h : StaysLosable q d₁ d₂)
    (h' : StaysLosable q d₂ d₃) : StaysLosable q d₁ d₃ := fun hq => h' (h hq)

/-- Programs that leave an entry losable may follow each other, because a kill between them leaves
it losable too. -/
private theorem losable_bind {α γ : Type} {m : Program Bytes UInt8 α}
    {f : α → Program Bytes UInt8 γ}
    (hm : Stays (StaysLosable q) m) (hf : ∀ a, Stays (StaysLosable q) (f a)) :
    Stays (StaysLosable q) (m >>= f) :=
  Stays.bind StaysLosable.trans hm hf

/-- A program that only returns leaves it losable. -/
private theorem losable_pure {α : Type} (a : α) :
    Stays (StaysLosable q) (pure a : Program Bytes UInt8 α) :=
  stays_pure StaysLosable.refl a

/-- So does a look at the files. -/
private theorem losable_look {α : Type} (f : Files → α) : Stays (StaysLosable q) (look f) :=
  stays_look StaysLosable.refl f

/-- So does a system call whose operation does not sync the directory of the entry. -/
private theorem losable_attempt {op : Disk Bytes UInt8 → Option (Disk Bytes UInt8)}
    (hop : ∀ d d', op d = some d' → Losable q d → Losable q d') :
    Stays (StaysLosable q) (attempt op) :=
  stays_attempt StaysLosable.refl hop

/-- Making directories syncs nothing. -/
private theorem losable_mkdirs (path : Path Bytes) :
    Stays (StaysLosable q) (makeDirs.mkdirs path) := by
  induction path with
  | nil => exact losable_pure ()
  | cons n p ih =>
    exact losable_bind ih fun _ => losable_bind (losable_attempt fun _ _ => losable_mkdir)
      fun _ => losable_pure ()

/-- So it leaves every entry losable. -/
private theorem losable_makeDirs (path : Path Bytes) : Stays (StaysLosable q) (makeDirs path) :=
  losable_bind (losable_mkdirs path) fun _ => losable_look _

/-- Writing to a file syncs nothing. -/
private theorem losable_writeAll (name : Bytes) (dir : Path Bytes) (content : Bytes) :
    Stays (StaysLosable q) (writeAll name dir content) := by
  have hwrite : ∀ data d d', Disk.write d name dir data = some d' → StaysLosable q d d' :=
    fun _ _ _ h => losable_alter h
  exact stays_writeAll StaysLosable.refl StaysLosable.trans hwrite content

/-- `writeFile` syncs the file, and never the directory that it stands in. -/
private theorem losable_writeFile (name : Bytes) (dir : Path Bytes) (content : Bytes) :
    Stays (StaysLosable q) (writeFile name dir content) := by
  refine losable_bind (losable_attempt fun _ _ => losable_create) fun b => ?_
  cases b with
  | false => exact losable_pure _
  | true =>
    refine losable_bind (losable_writeAll _ _ _) fun b => ?_
    cases b with
    | false => exact losable_pure _
    | true => exact losable_attempt fun _ _ => losable_alter

/-- An atomic write syncs the directory it writes to, and no other. -/
private theorem losable_writeFileAtomic (name : Bytes) {dir : Path Bytes} (content : Bytes)
    (hdir : q.tail ≠ dir) : Stays (StaysLosable q) (writeFileAtomic name dir content) := by
  refine losable_bind (losable_writeFile _ _ _) fun b => ?_
  cases b with
  | false => exact losable_pure _
  | true =>
    refine losable_bind (losable_attempt fun _ _ => losable_rename) fun b => ?_
    cases b with
    | false =>
      exact losable_bind (losable_attempt fun _ _ => losable_remove) fun _ => losable_pure _
    | true =>
      exact losable_bind (losable_attempt fun _ _ h => losable_fsyncDir h hdir)
        fun _ => losable_pure _

/-- Emptying a directory syncs nothing. -/
private theorem losable_removeAll (dir : Path Bytes) (names : List Bytes) :
    Stays (StaysLosable q) (removeAll dir names) := by
  induction names with
  | nil => exact losable_pure ()
  | cons name rest ih =>
    exact losable_bind (losable_attempt fun _ _ => losable_remove) fun _ => ih

/-- The clean-up syncs nothing. -/
private theorem losable_cleanupOrphans (e : Env) (keepA keepB : Bytes) :
    Stays (StaysLosable q) (P.cleanupOrphans e keepA keepB) := by
  refine losable_bind (losable_look _) fun names => ?_
  induction names with
  | nil => exact losable_pure ()
  | cons name rest ih =>
    rw [cleanupNames]
    split_ifs
    · refine losable_bind (losable_bind (losable_look _) fun b => ?_) fun _ => ih
      cases b with
      | false => exact losable_pure _
      | true =>
        exact losable_bind (losable_removeAll _ _) fun _ =>
          losable_bind (losable_attempt fun _ _ h => losable_remove (rmdir_eq_some h))
            fun _ => losable_pure _
    · exact ih

/-- Writing a generation syncs the directory of that generation and no other. -/
private theorem losable_writeGeneration {g : Generation} {createdAt : Int64}
    (hq : q.tail ≠ g.generationId :: P.generationsDir) :
    Stays (StaysLosable q) (P.writeGeneration g createdAt) := by
  refine losable_bind (losable_makeDirs _) fun b => ?_
  cases b with
  | false => exact losable_pure _
  | true =>
    refine losable_bind (losable_writeFileAtomic _ _ hq) fun b => ?_
    cases b with
    | false => exact losable_pure _
    | true =>
      simp only [Bool.not_true, Bool.false_eq_true, if_false]
      cases P.json.dump g.deviceCert with
      | none => exact losable_pure _
      | some text =>
        refine losable_bind (losable_writeFileAtomic _ _ hq) fun b => ?_
        cases b with
        | false => exact losable_pure _
        | true =>
          simp only [Bool.not_true, Bool.false_eq_true, if_false]
          cases P.json.dump (P.manifest g text createdAt) with
          | none => exact losable_pure _
          | some s =>
            refine losable_bind (losable_writeFileAtomic _ _ hq) fun b => ?_
            cases b with
            | false => exact losable_pure _
            | true =>
              exact losable_bind (losable_attempt fun _ _ h => losable_fsyncDir h hq)
                fun _ => losable_pure _

/-- Switching `CURRENT` syncs the root and no other directory. -/
private theorem losable_switchCurrent (gid : Bytes) (hq : q.tail ≠ P.root) :
    Stays (StaysLosable q) (P.switchCurrent gid) := by
  refine losable_bind (losable_writeFileAtomic _ _ hq) fun b => ?_
  cases b with
  | false => exact losable_pure _
  | true => exact losable_attempt fun _ _ h => losable_fsyncDir h hq

/-- **No commit syncs `generations`.** -/
theorem losable_commit (e : Env) (st : Store) (c : CertificateCommit) (gid : Bytes) :
    Stays (StaysLosable (gid :: P.generationsDir)) (P.commit e st c) := by
  have hroot : (gid :: P.generationsDir).tail ≠ P.root := by
    intro h
    have hlength := congrArg List.length h
    simp [generationsDir] at hlength
  have hgeneration : ∀ g : Generation,
      (gid :: P.generationsDir).tail ≠ g.generationId :: P.generationsDir := by
    intro g h
    have hlength := congrArg List.length h
    simp at hlength
  rw [commit]
  split_ifs
  · exact losable_pure _
  · exact losable_pure _
  cases P.json.parse c.deviceCertJson with
  | none => exact losable_pure _
  | some deviceCert =>
    refine losable_bind (losable_writeGeneration (hgeneration _)) fun r => ?_
    rcases r with _ | _ | _
    · exact losable_pure _
    · exact losable_bind (losable_removeAll _ _) fun _ =>
        losable_bind (losable_attempt fun _ _ h => losable_remove (rmdir_eq_some h))
          fun _ => losable_pure _
    · refine losable_bind (losable_look _) fun check => ?_
      rcases check with _ | _ | _
      · exact losable_pure _
      · exact losable_pure _
      · refine losable_bind (losable_switchCurrent _ hroot) fun b => ?_
        cases b with
        | false => exact losable_pure _
        | true => exact losable_bind (losable_cleanupOrphans _ _ _) fun _ => losable_pure _

end Losable

/-! ### Recovery after a power loss -/

/-- What `openAndRecover` adopts is on disk. -/
private theorem ensures_adopts (d : Disk Bytes UInt8) (e : Env) (st : Store) :
    Ensures (P.openAndRecover e st) d
      (fun a _ => a.1 = .returned true → ∀ g, a.2.current = some g →
        ∃ d₁, Grows (Made P.generationsDir) ∅ d d₁ ∧
          P.loadGeneration d₁.tree g.generationId = some (some g))
      (fun _ => True) := by
  refine ensures_bind (ensures_mono (ensures_makeDirs _) (fun b d₁ h₁ => ?_) fun _ _ => trivial)
  have hcleanup : ∀ {keepA keepB : Bytes} {a : Opened × Store},
      (a.1 = .returned true → ∀ g, a.2.current = some g →
        P.loadGeneration d₁.tree g.generationId = some (some g)) →
      Ensures (P.cleanupOrphans e keepA keepB >>= fun _ => pure a) d₁
        (fun a _ => a.1 = .returned true → ∀ g, a.2.current = some g →
          ∃ d₁, Grows (Made P.generationsDir) ∅ d d₁ ∧
            P.loadGeneration d₁.tree g.generationId = some (some g))
        (fun _ => True) := by
    intro keepA keepB a ha
    refine ensures_bind (ensures_mono (stays_cleanupOrphans e _ _ d₁) (fun _ d₂ _ => ?_)
      fun _ _ => trivial)
    exact ensures_pure.mpr fun hret g hg => ⟨d₁, h₁.1, ha hret g hg⟩
  cases b with
  | false => exact ensures_pure.mpr nofun
  | true =>
    refine ensures_bind (ensures_look.mpr ?_)
    match hpointer : P.readCurrentPointer d₁.tree with
    | none => exact ensures_pure.mpr nofun
    | some none => exact hcleanup nofun
    | some (some ptr) =>
      refine ensures_bind (ensures_look.mpr ?_)
      cases hsearch : P.search d₁.tree ptr with
      | found g =>
        refine hcleanup fun _ g' hg' => ?_
        rw [← Option.some.inj hg']
        exact search_found hsearch
      | exhausted => exact hcleanup nofun
      | threw => exact ensures_pure.mpr nofun
      | endless => exact ensures_pure.mpr nofun

/-- A generation with a plain id is adopted only from its directory. -/
private theorem dir_of_recovers {t : Files} {g : Generation} {e : Env}
    (hid : g.generationId = newGenerationId e) (h : P.Recovers ⟨t, []⟩ (some g)) :
    t.node (newGenerationId e :: P.generationsDir) = some .dir := by
  obtain ⟨d', hopen⟩ := h e .fresh
  obtain ⟨d₁, hgrows, hload⟩ := hopen.of_ensures (ensures_adopts _ e .fresh) rfl g rfl
  obtain ⟨-, s, hs, hne⟩ := load_eq_some hload
  rw [hid, readFile_plain (plain_newGenerationId e) plain_kManifestName] at hs
  have hsome : d₁.tree.node (kManifestName :: newGenerationId e :: P.generationsDir) ≠ none := by
    intro hnone
    rw [hnone] at hs
    exact hne (Option.some.inj hs).symm
  have hdir := d₁.tree.rooted _ _ (Option.isSome_iff_ne_none.mpr hsome)
  rw [hgrows.touches.node] at hdir
  · exact hdir
  · intro hmade
    have hlength := List.IsSuffix.length_le hmade
    simp at hlength

/-- A power loss that spares the directory of a committed generation leaves a disk that stands
at the generation. -/
private theorem stands_of_loss {d : Disk Bytes UInt8} {t : Files} {g : Generation} {text : Bytes}
    {createdAt : Int64} {e : Env} (hP : P.Lawful) (h : P.Switched d g text createdAt)
    (hid : g.generationId = newGenerationId e) (hold : ∀ u, (P.currentPath, u) ∉ d.old)
    (hloss : Loss d t) (hdir : t.node (g.generationId :: P.generationsDir) = some .dir) :
    P.Stands t (some g) := by
  have hgens := t.rooted _ _ (Option.isSome_of_eq_some hdir)
  have hroot := t.rooted _ _ (Option.isSome_of_eq_some hgens)
  obtain ⟨s, hdump, hs⟩ := h.stored.manifest
  have hwritten : Written P t g text createdAt :=
    ⟨Tree.content_of_node (hloss.node_eq hdir h.stored.chain (h.stored.synced _)),
      Tree.content_of_node (hloss.node_eq hdir h.stored.deviceCert (h.stored.synced _)),
      h.parsed, s, Tree.content_of_node (hloss.node_eq hdir hs (h.stored.synced _)),
      hP.parse_manifest _ _ _ _ hdump⟩
  exact ⟨Tree.content_of_node (hloss.node_eq hroot h.current hold), ⟨e, hid⟩, text, createdAt,
    hwritten, h.sound⟩

/-- What a commit leaves that has returned `SUCCESS`. -/
private theorem step_success (hP : P.Lawful) {s : System} {e : Env} {c : CertificateCommit}
    (h : (P.step s (.commit e c)).2 = .committed (some .success)) :
    ∃ deviceCert text,
      (P.step s (.commit e c)).1.store.current =
        some (newGeneration e s.store c deviceCert) ∧
      P.Switched (P.step s (.commit e c)).1.disk (newGeneration e s.store c deviceCert) text
        e.seconds ∧
      ∀ u, (P.currentPath, u) ∉ (P.step s (.commit e c)).1.disk.old := by
  have hcommit := @ensures_commit s.disk P hP e s.store c e.events
  rw [step] at h ⊢
  cases hrun : P.commit e s.store c ⟨s.disk, e.events⟩ with
  | crashed d =>
    rw [hrun] at h
    cases h
  | done a s' =>
    rw [hrun] at h
    have hsuccess : a.1 = some .success := Reply.committed.inj h
    rcases Crash.Prog.wp_done hcommit hrun with
      ⟨hne, -, -⟩ | ⟨deviceCert, text, -, hd, ⟨hne, -⟩ | ⟨rfl, hold⟩⟩
    · exact absurd hsuccess hne
    · exact absurd hsuccess hne
    · exact ⟨deviceCert, text, rfl, hd, hold⟩

/-- **Durability.** After a run that ends in a commit with `SUCCESS`, a power loss leaves a disk
from which just that commit's generation is recovered, if and only if it spares the directory
of the generation. -/
theorem durability_iff (hP : P.Lawful) {s : System} {ops : List Op} {e : Env}
    {c : CertificateCommit} {t : Files}
    (hsuccess : (P.step (P.machine.run s ops) (.commit e c)).2 = .committed (some .success))
    (hloss : Loss (P.machine.run s (ops ++ [.commit e c])).disk t) :
    P.Recovers ⟨t, []⟩ (P.machine.run s (ops ++ [.commit e c])).store.current ↔
      t.node (newGenerationId e :: P.generationsDir) = some .dir := by
  rw [P.machine.run_append] at hloss ⊢
  obtain ⟨deviceCert, text, hcurrent, hswitched, hold⟩ := step_success hP hsuccess
  change P.Recovers ⟨t, []⟩ (P.step _ (.commit e c)).1.store.current ↔ _
  rw [hcurrent]
  constructor
  · exact dir_of_recovers rfl
  · intro hdir
    exact calm_openAndRecover hP (stands_of_loss hP hswitched rfl hold hloss hdir)

open Bench in
/-- A power loss after the first commit of the bench store that takes away nothing. -/
theorem durability_kept :
    let start : System := ⟨emptyDisk, .fresh⟩
    ∃ t, Loss (bench.machine.run start ([.recover (env 0)] ++ [.commit (env 1) certificate₁])).disk
        t ∧
      (bench.Recovers ⟨t, []⟩ (bench.machine.run start
          ([.recover (env 0)] ++ [.commit (env 1) certificate₁])).store.current ↔
        t.node (newGenerationId (env 1) :: bench.generationsDir) = some .dir) := by
  have hsuccess : (bench.step (bench.machine.run ⟨emptyDisk, .fresh⟩ [.recover (env 0)])
      (.commit (env 1) certificate₁)).2 = .committed (some .success) := by decide +kernel
  have hlosable : Losable [textBytes "other"] (bench.machine.run ⟨emptyDisk, .fresh⟩
      ([.recover (env 0)] ++ [.commit (env 1) certificate₁])).disk :=
    .inl (Option.isNone_iff_eq_none.mp (by decide +kernel))
  exact ⟨_, loss_without hlosable, durability_iff lawful_bench hsuccess (loss_without hlosable)⟩

/-- **A loss that does not spare it.** If the id was fresh, the directory's entry in
`generations` can be lost. -/
theorem exists_loss {s : System} {e : Env} {c : CertificateCommit}
    (hfresh : P.Fresh s (.commit e c)) :
    ∃ t, Loss (P.step s (.commit e c)).1.disk t ∧
      t.node (newGenerationId e :: P.generationsDir) ≠ some .dir := by
  have hlosable : Losable (newGenerationId e :: P.generationsDir)
      (P.step s (.commit e c)).1.disk := by
    have hstart : Losable (newGenerationId e :: P.generationsDir) s.disk :=
      .inl (Option.isNone_iff_eq_none.mp hfresh)
    have hcommit := losable_commit (P := P) e s.store c (newGenerationId e) s.disk e.events
    rw [step]
    cases hrun : P.commit e s.store c ⟨s.disk, e.events⟩ with
    | done a s' => exact Crash.Prog.wp_done hcommit hrun hstart
    | crashed d => exact Crash.Prog.wp_crashed hcommit hrun hstart
  refine ⟨_, loss_without hlosable, ?_⟩
  simp [Tree.without]

/-- **No commit is durable**: after every run that ends in a commit with `SUCCESS` and a fresh
id, some power loss leaves a disk from which the generation is not recovered. -/
theorem not_durable (hP : P.Lawful) {s : System} {ops : List Op} {e : Env}
    {c : CertificateCommit}
    (hsuccess : (P.step (P.machine.run s ops) (.commit e c)).2 = .committed (some .success))
    (hfresh : P.Fresh (P.machine.run s ops) (.commit e c)) :
    ¬ ∀ t, Loss (P.machine.run s (ops ++ [.commit e c])).disk t →
      P.Recovers ⟨t, []⟩ (P.machine.run s (ops ++ [.commit e c])).store.current := by
  rw [P.machine.run_append]
  intro hdurable
  obtain ⟨t, hloss, hgone⟩ := exists_loss hfresh
  obtain ⟨deviceCert, text, hcurrent, -, -⟩ := step_success hP hsuccess
  have hrecovers := hdurable t hloss
  change P.Recovers ⟨t, []⟩ (P.step _ (.commit e c)).1.store.current at hrecovers
  rw [hcurrent] at hrecovers
  exact hgone (dir_of_recovers rfl hrecovers)

open Bench in
/-- The first commit of the bench store does not survive every power loss. -/
theorem not_durable_first :
    let start : System := ⟨emptyDisk, .fresh⟩
    let ops : List Op := [.recover (env 0)] ++ [.commit (env 1) certificate₁]
    bench.machine.replies start ops =
        [.opened (.returned true), .committed (some .success)] ∧
      ¬ ∀ t, Loss (bench.machine.run start ops).disk t →
        bench.Recovers ⟨t, []⟩ (bench.machine.run start ops).store.current := by
  have hfresh : bench.Fresh (bench.machine.run ⟨emptyDisk, .fresh⟩ [.recover (env 0)])
      (.commit (env 1) certificate₁) := by decide +kernel
  have hsuccess : (bench.step (bench.machine.run ⟨emptyDisk, .fresh⟩ [.recover (env 0)])
      (.commit (env 1) certificate₁)).2 = .committed (some .success) := by decide +kernel
  exact ⟨by decide +kernel, not_durable lawful_bench hsuccess hfresh⟩

end Platform

end TboxSec.CertStore
