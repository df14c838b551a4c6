import TboxSec.CertStore.Steps

/-!
# What a disk stands at

`Stands P t v`: the tree `t` **stands at** the generation `v`, or at none. `CURRENT` names the
generation and its files are as they were written, or there is no `CURRENT` and the way to
`generations` is free. An undisturbed `openAndRecover` finds just what the disk stands at, and
neither a disturbed one nor a commit that has not switched `CURRENT` changes it.

* `Clear`: nothing stands in the way to `generations`.
* `Stands.of_…`: what kinds of change leave a disk standing where it stands.
* `ensures_openAndRecover`: a recovery leaves it standing there, disturbed or not.
* `calm_openAndRecover`: an undisturbed one adopts what the disk stands at.
-/

namespace TboxSec.CertStore

open Ascii FileSystem Disk

/-- Nothing but directories stands on the path. -/
def Clear (t : Files) (path : Path Bytes) : Prop :=
  ∀ q, q <:+ path → t.node q = none ∨ t.node q = some .dir

/-- Above an entry there are only directories. -/
private theorem clear_of_isSome {t : Files} {n : Bytes} {p : Path Bytes}
    (h : t.node (n :: p) ≠ none) :
    Clear t p := by
  have hdir := t.rooted n p (Option.isSome_iff_ne_none.mpr h)
  clear h
  induction p generalizing n with
  | nil =>
    intro q hq
    rw [List.suffix_nil.mp hq]
    exact .inr hdir
  | cons m p ih =>
    intro q hq
    rcases List.suffix_cons_iff.mp hq with rfl | hq
    · exact .inr hdir
    · exact ih (n := m) (t.rooted m p (by simp [hdir])) q hq

theorem Clear.of_grows {S F : Set (Path Bytes)} {d d' : Disk Bytes UInt8} {path : Path Bytes}
    (h : Clear d.tree path) (hgrows : Grows S F d d') (hF : ∀ q, q <:+ path → q ∉ F) :
    Clear d'.tree path := by
  intro q hq
  rcases hgrows.node q (hF q hq) with heq | ⟨-, hdir⟩
  · rw [heq]
    exact h q hq
  · exact .inr hdir

/-- On a clear path, an undisturbed `makeDirs` makes the directory. -/
theorem calm_makeDirs {path : Path Bytes} {d : Disk Bytes UInt8} (h : Clear d.tree path) :
    ∃ d', Calm (makeDirs path) d true d' := by
  have hmkdirs : ∃ d', Calm (makeDirs.mkdirs path) d () d' ∧
      d'.tree.node path = some .dir := by
    induction path with
    | nil => exact ⟨d, calm_pure () d, d.tree.root⟩
    | cons n p ih =>
      obtain ⟨d₁, h₁, hdir⟩ := ih fun q hq => h q (hq.trans (List.suffix_cons n p))
      have hgrows := h₁.of_ensures (stays_mkdirs p d)
      have hclear : Clear d₁.tree (n :: p) := h.of_grows hgrows fun _ _ => id
      refine ⟨_, h₁.bind ((calm_attempt _ d₁).bind (calm_pure () _)), ?_⟩
      rcases hclear _ (List.suffix_refl _) with hnone | hsome
      · simp [Disk.mkdir, hdir, hnone, Tree.put]
      · simp [Disk.mkdir, hsome]
  obtain ⟨d', h', hdir⟩ := hmkdirs
  refine ⟨d', h'.bind ?_⟩
  have hlook := calm_look (fun t : Files => decide (t.node path = some .dir)) d'
  rwa [decide_eq_true hdir] at hlook

namespace Platform

variable {P : Platform} {v : Option Generation}

/-- The tree stands at a generation, or at none. -/
def Stands (P : Platform) (t : Files) : Option Generation → Prop
  | none => t.node P.currentPath = none ∧ Clear t P.generationsDir
  | some g => t.content P.currentPath = some (g.generationId ++ [newline]) ∧
    (∃ e, g.generationId = newGenerationId e) ∧
    ∃ text createdAt, Written P t g text createdAt ∧ Sound g text

private theorem finishes_mkdirs (path : Path Bytes) : Finishes (makeDirs.mkdirs path) := by
  induction path with
  | nil => exact finishes_pure ()
  | cons n p ih => exact ih.bind fun _ => (finishes_attempt _).bind fun _ => finishes_pure ()

theorem finishes_makeDirs (path : Path Bytes) : Finishes (makeDirs path) :=
  (finishes_mkdirs path).bind fun _ => finishes_look _

private theorem finishes_removeAll (dir : Path Bytes) (names : List Bytes) :
    Finishes (removeAll dir names) := by
  induction names with
  | nil => exact finishes_pure ()
  | cons name rest ih => exact (finishes_attempt _).bind fun _ => ih

theorem finishes_cleanupOrphans (e : Env) (keepA keepB : Bytes) :
    Finishes (P.cleanupOrphans e keepA keepB) := by
  refine (finishes_look _).bind fun names => ?_
  induction names with
  | nil => exact finishes_pure ()
  | cons name rest ih =>
    rw [cleanupNames]
    split_ifs
    · refine Finishes.bind ?_ fun _ => ih
      refine (finishes_look _).bind fun b => ?_
      cases b with
      | false => exact finishes_pure _
      | true =>
        exact (finishes_removeAll _ _).bind fun _ => (finishes_attempt _).bind fun _ =>
          finishes_pure _
    · exact ih

/-! ### Reading what a disk stands at -/

theorem readCurrentPointer_of_none {t : Files} (h : t.node P.currentPath = none) :
    P.readCurrentPointer t = some none := by
  rw [readCurrentPointer, h]
  rfl

theorem readCurrentPointer_of_content {t : Files} {e : Env}
    (h : t.content P.currentPath = some (newGenerationId e ++ [newline])) :
    P.readCurrentPointer t = some (some (newGenerationId e)) := by
  rw [readCurrentPointer, readNode_of_content h]
  simp only [Option.bind_eq_bind, Option.bind_some, pointer_newGenerationId,
    if_neg (plain_newGenerationId e).nonempty]
  rfl

theorem Stands.clear {t : Files} (h : P.Stands t v) : Clear t P.generationsDir := by
  cases v with
  | none => exact h.2
  | some g =>
    obtain ⟨-, -, text, createdAt, hwritten, -⟩ := h
    exact clear_of_isSome (n := g.generationId) (by simp [hwritten.dir])

/-! ### What keeps it -/

/-- What the disk stands at is kept by a change that leaves `CURRENT` and its generation. -/
theorem Stands.of_node {d d' : Disk Bytes UInt8} (h : P.Stands d.tree v)
    (hcurrent : d'.tree.node P.currentPath = d.tree.node P.currentPath)
    (hclear : v = none → Clear d'.tree P.generationsDir)
    (hnode : ∀ g, v = some g → ∀ n, d.tree.node (n :: g.generationId :: P.generationsDir) ≠ none →
      d'.tree.node (n :: g.generationId :: P.generationsDir) =
        d.tree.node (n :: g.generationId :: P.generationsDir)) : P.Stands d'.tree v := by
  cases v with
  | none => exact ⟨hcurrent.trans h.1, hclear rfl⟩
  | some g =>
    obtain ⟨hpointer, hid, text, createdAt, hwritten, hsound⟩ := h
    have hcontent : ∀ n a, d.tree.content (n :: g.generationId :: P.generationsDir) = some a →
        d'.tree.content (n :: g.generationId :: P.generationsDir) = some a := by
      intro n a ha
      rw [Tree.content, hnode g rfl n, ← Tree.content, ha]
      intro hnone
      rw [Tree.content, hnone] at ha
      cases ha
    obtain ⟨s, hs, hparse⟩ := hwritten.manifest
    refine ⟨?_, hid, text, createdAt, ⟨hcontent _ _ hwritten.chain,
      hcontent _ _ hwritten.deviceCert, hwritten.parsed, s, hcontent _ _ hs, hparse⟩, hsound⟩
    rw [Tree.content, hcurrent, ← Tree.content, hpointer]

/-- Neither `CURRENT` nor its temporary file is above or below `generations`. -/
theorem not_suffix_generationsDir {name : Bytes} (hname : name ≠ textBytes "generations") :
    ¬ name :: P.root <:+ P.generationsDir ∧ ¬ P.generationsDir <:+ name :: P.root := by
  constructor <;> intro h
  · exact hname (List.cons_eq_cons.mp (h.eq_of_length (by simp [generationsDir]))).1
  · exact hname (List.cons_eq_cons.mp (h.eq_of_length (by simp [generationsDir]))).1.symm

theorem Stands.of_grows {d d' : Disk Bytes UInt8} {path : Path Bytes} (h : P.Stands d.tree v)
    (hgrows : Grows (Made path) ∅ d d') (hpath : path <:+ P.generationsDir) :
    P.Stands d'.tree v := by
  refine h.of_node ?_ (fun hv => h.clear.of_grows hgrows fun _ _ => id)
    fun g _ n hn => hgrows.node_of_isSome id hn
  refine hgrows.touches.node _ fun hq => ?_
  exact (not_suffix_generationsDir (by decide)).1 (List.IsSuffix.trans hq hpath)

/-- The clean-up keeps it: it spares `CURRENT`, and the generation it is told to keep. -/
theorem Stands.of_cleanup {d d' : Disk Bytes UInt8} {keepA keepB : Bytes}
    (h : P.Stands d.tree v) (htouch : Touches (P.Orphans keepA keepB) d d')
    (hkeep : ∀ g, v = some g → g.generationId = keepA) : P.Stands d'.tree v := by
  refine h.of_node (htouch.node _ (not_mem_orphans_currentPath _ _))
    (fun hv q hq => ?_) fun g hg n _ => htouch.node _ ?_
  · rw [htouch.node q]
    · exact h.clear q hq
    · rintro ⟨m, -, -, heq | ⟨f, heq⟩⟩ <;>
      · have hlength := hq.length_le
        simp [heq] at hlength
  · rintro ⟨m, hm, -, heq | ⟨f, heq⟩⟩
    · have hlength := congrArg List.length heq
      simp at hlength
    · obtain ⟨-, htail⟩ := List.cons_eq_cons.mp heq
      exact hm ((List.cons_eq_cons.mp htail).1.symm.trans (hkeep g hg))

/-- A commit keeps it until it switches `CURRENT`, if its id is not in use. -/
theorem Stands.of_unswitched {d d' : Disk Bytes UInt8} {gid : Bytes} (h : P.Stands d.tree v)
    (hd : P.Unswitched gid d d') (hfresh : d.tree.node (gid :: P.generationsDir) = none) :
    P.Stands d'.tree v := by
  refine h.of_node hd.current (fun hv => h.clear.of_grows hd.grows fun q hq => ?_)
    fun g _ n hn => hd.grows.node_of_isSome ?_ hn
  · rintro (hbelow | hpointer)
    · have hlength := (List.IsSuffix.trans hbelow hq).length_le
      simp at hlength
    · rcases hpointer with rfl | rfl
      · exact (not_suffix_generationsDir (by decide)).1 hq
      · exact (not_suffix_generationsDir (by decide)).1 hq
  · rintro (hbelow | hpointer)
    · rcases List.suffix_cons_iff.mp hbelow with heq | hbelow
      · have hlength := congrArg List.length heq
        simp at hlength
      · have heq := hbelow.eq_of_length (by simp)
        rw [heq] at hfresh
        exact hn (Tree.node_cons_of_not_dir (by simp [hfresh]) n)
    · exact not_mem_pointers _ _ hpointer

/-! ### Opening -/

/-- Whatever happens to it, `openAndRecover` leaves the disk where it stands. -/
theorem ensures_openAndRecover (hP : P.Lawful) {d : Disk Bytes UInt8} (h : P.Stands d.tree v)
    (e : Env) (st : Store) :
    Ensures (P.openAndRecover e st) d (fun _ d' => P.Stands d'.tree v)
      (fun d' => P.Stands d'.tree v) := by
  refine ensures_bind (ensures_mono (ensures_makeDirs _) (fun b d₁ h₁ => ?_)
    fun d₁ h₁ => h.of_grows h₁ (List.suffix_refl _))
  have hd₁ := h.of_grows h₁.1 (List.suffix_refl _)
  cases b with
  | false => exact ensures_pure.mpr hd₁
  | true =>
    refine ensures_bind (ensures_look.mpr ?_)
    cases v with
    | none =>
      rw [readCurrentPointer_of_none hd₁.1]
      refine ensures_bind (ensures_mono (stays_cleanupOrphans e [] [] d₁)
        (fun _ d₂ h₂ => ensures_pure.mpr (hd₁.of_cleanup h₂ nofun))
        fun d₂ h₂ => hd₁.of_cleanup h₂ nofun)
    | some g =>
      obtain ⟨hpointer, ⟨e', hid⟩, text, createdAt, hwritten, hsound⟩ := id hd₁
      have hload := load_of_written hP (hid ▸ plain_newGenerationId e') hwritten
      rw [if_pos hsound] at hload
      rw [hid] at hpointer
      rw [readCurrentPointer_of_content hpointer, ← hid]
      refine ensures_bind (ensures_look.mpr ?_)
      rw [search, hload]
      refine ensures_bind (ensures_mono (stays_cleanupOrphans e _ _ d₁)
        (fun _ d₂ h₂ => ensures_pure.mpr (hd₁.of_cleanup h₂ ?_))
        fun d₂ h₂ => hd₁.of_cleanup h₂ ?_) <;>
      · intro g' hg'
        rw [Option.some.inj hg']

/-- **Recovery**: an undisturbed `openAndRecover` succeeds and finds what the disk stands at. -/
theorem calm_openAndRecover (hP : P.Lawful) {d : Disk Bytes UInt8} (h : P.Stands d.tree v)
    (e : Env) (st : Store) :
    ∃ d', Calm (P.openAndRecover e st) d (.returned true, ⟨v, true⟩) d' := by
  obtain ⟨d₁, h₁⟩ := calm_makeDirs h.clear
  have hd₁ := h.of_grows (h₁.of_ensures (ensures_makeDirs _)).1 (List.suffix_refl _)
  cases v with
  | none =>
    obtain ⟨_, d₂, h₂⟩ := finishes_cleanupOrphans (P := P) e [] [] d₁
    refine ⟨d₂, h₁.bind ?_⟩
    have hlook := calm_look P.readCurrentPointer d₁
    rw [readCurrentPointer_of_none hd₁.1] at hlook
    exact hlook.bind (h₂.bind (calm_pure _ _))
  | some g =>
    obtain ⟨_, d₂, h₂⟩ :=
      finishes_cleanupOrphans (P := P) e g.generationId g.previousGeneration d₁
    obtain ⟨hpointer, ⟨e', hid⟩, text, createdAt, hwritten, hsound⟩ := hd₁
    have hload := load_of_written hP (hid ▸ plain_newGenerationId e') hwritten
    rw [if_pos hsound] at hload
    rw [hid] at hpointer
    refine ⟨d₂, h₁.bind ?_⟩
    have hlook := calm_look P.readCurrentPointer d₁
    rw [readCurrentPointer_of_content hpointer, ← hid] at hlook
    have hsearch := calm_look (fun t => P.search t g.generationId) d₁
    rw [search, hload] at hsearch
    exact hlook.bind (hsearch.bind (h₂.bind (calm_pure _ _)))

end Platform

end TboxSec.CertStore
