import TboxSec.CertStore.Reading

/-!
# What each step of the store does to the disk

One lemma for each function, whatever the environment does meanwhile: what a finished run has
done and what a killed one may have left.

* `Touches`, `Grows` and `Drafts` bound the paths a step may change, create or fill. They compose,
  so a function's footprint is read off the footprints of its calls.
* `ensures_writeGeneration` and `ensures_switchCurrent` are the two halves of a commit: before the
  rename of `CURRENT` only the draft generation is touched (`Unswitched`), after it the new
  generation is complete and named (`Switched`).
* `ensures_commit` puts the halves together: an answer other than `SUCCESS` either left `CURRENT`
  alone or comes from the last directory sync.

An `Ensures m d Q C` has two parts: `Q` holds of the answer and the disk of every finished run,
`C` of the disk of a run that was killed at any system call.
-/

namespace TboxSec.CertStore

open Ascii FileSystem Disk

variable {d : Disk Bytes UInt8}

/-! ### The primitives -/

/-- Going from `d` to `d'`, no entry outside `S` changes, and an entry outside `F` only becomes
a directory if it was not there. -/
structure Grows (S F : Set (Path Bytes)) (d d' : Disk Bytes UInt8) : Prop where
  touches : Touches S d d'
  node : ∀ q ∉ F, d'.tree.node q = d.tree.node q ∨
    (d.tree.node q = none ∧ d'.tree.node q = some .dir)

namespace Grows

variable {S F : Set (Path Bytes)} {d₁ d₂ d₃ : Disk Bytes UInt8}

/-- A step that does nothing grows the disk, whatever the two sets of paths are. -/
theorem refl (S F : Set (Path Bytes)) (d : Disk Bytes UInt8) : Grows S F d d :=
  ⟨.refl _ _, fun _ _ => .inl rfl⟩

/-- Two growths within the same sets follow each other, so a footprint is bounded call by call. -/
theorem trans (h : Grows S F d₁ d₂) (h' : Grows S F d₂ d₃) : Grows S F d₁ d₃ := by
  refine ⟨h.touches.trans h'.touches, fun q hq => ?_⟩
  rcases h.node q hq with h₁ | ⟨hnone, hdir⟩
  · rw [← h₁]
    exact h'.node q hq
  · rcases h'.node q hq with h₂ | ⟨hnone', -⟩
    · exact .inr ⟨hnone, h₂.trans hdir⟩
    · rw [hdir] at hnone'
      cases hnone'

/-- A footprint may be widened: more paths that may appear and more files that may change. -/
theorem mono {S' F' : Set (Path Bytes)} (h : Grows S F d₁ d₂) (hS : S ⊆ S') (hF : F ⊆ F') :
    Grows S' F' d₁ d₂ :=
  ⟨h.touches.mono hS, fun q hq => h.node q fun hqF => hq (hF hqF)⟩

/-- A step that touches no path outside a set grows the disk within it. -/
theorem of_touches (h : Touches F d₁ d₂) : Grows F F d₁ d₂ := ⟨h, fun q hq => .inl (h.node q hq)⟩

/-- What is there outside `F` stays as it is. -/
theorem node_of_isSome (h : Grows S F d₁ d₂) {q : Path Bytes} (hq : q ∉ F)
    (hsome : d₁.tree.node q ≠ none) : d₂.tree.node q = d₁.tree.node q :=
  (h.node q hq).resolve_right fun hn => hsome hn.1

end Grows

/-- The directories that `makeDirs` may make. -/
abbrev Made (path : Path Bytes) : Set (Path Bytes) := {q | q <:+ path}

/-- Whatever happens while directories are made, only directories on the way to the path appear. -/
theorem stays_mkdirs (path : Path Bytes) :
    Stays (Grows (Made path) ∅) (makeDirs.mkdirs path) := by
  induction path with
  | nil => exact stays_pure (Grows.refl _ _) ()
  | cons n p ih =>
    have htrans : ∀ d₁ d₂ d₃, Grows (Made (n :: p)) ∅ d₁ d₂ → Grows (Made (n :: p)) ∅ d₂ d₃ →
        Grows (Made (n :: p)) ∅ d₁ d₃ := fun _ _ _ => Grows.trans
    have hmono : ∀ d d', Grows (Made p) ∅ d d' → Grows (Made (n :: p)) ∅ d d' := fun d d' h =>
      h.mono (fun q hq => List.IsSuffix.trans hq (List.suffix_cons n p)) subset_rfl
    rw [makeDirs.mkdirs]
    refine Stays.bind htrans (fun d => ?_) fun _ => Stays.bind htrans ?_ fun _ =>
      stays_pure (Grows.refl _ _) ()
    · exact ensures_mono (ih d) (fun _ d' h => hmono d d' h) fun d' h => hmono d d' h
    · refine stays_attempt (Grows.refl _ _) fun d d' h => ?_
      refine ⟨(touches_mkdir h).mono fun q hq => ?_, fun q _ => ?_⟩
      · rw [Set.mem_singleton_iff.mp hq]
        exact List.suffix_refl _
      · obtain ⟨hnone, hnode, -⟩ := mkdir_eq_some h
        rw [hnode]
        by_cases hq : q = n :: p
        · exact .inr ⟨hq ▸ hnone, by rw [hq, Function.update_self]⟩
        · exact .inl (Function.update_of_ne hq ..)

/-- `makeDirs` answers `true` exactly where the directory stands afterwards, and a killed call has
made no more than some of the directories on the way. -/
theorem ensures_makeDirs (path : Path Bytes) :
    Ensures (makeDirs path) d
      (fun b d' => Grows (Made path) ∅ d d' ∧ (b = true ↔ d'.tree.node path = some .dir))
      (Grows (Made path) ∅ d) := by
  refine ensures_bind (ensures_mono (stays_mkdirs path d) (fun _ d₁ h₁ => ?_) fun _ h => h)
  exact ensures_look.mpr ⟨h₁, decide_eq_true_iff⟩

/-- `writeFile` touches its own path only, and after the answer `true` the file is complete and
synced. -/
private theorem ensures_writeFile {name : Bytes} {dir : Path Bytes} {content : Bytes} :
    Ensures (writeFile name dir content) d
      (fun b d' => Touches {name :: dir} d d' ∧
        (b = true → d'.tree.node (name :: dir) = some (.file content true)))
      (Touches {name :: dir} d) := by
  refine ensures_bind (ensures_attempt (fun d₁ h₁ => ?_) ?_ (.refl _ _))
  · have htouch₁ := touches_create h₁
    have hcontent₁ : d₁.tree.content (name :: dir) = some [] := by
      have hnode : d₁.tree.node (name :: dir) = some (.file [] false) := by
        rw [(create_eq_some h₁).1, Function.update_self]
      exact Tree.content_of_node hnode
    refine ensures_bind (ensures_mono ensures_writeAll (fun b d₂ h₂ => ?_)
      fun d₂ h₂ => htouch₁.trans h₂)
    have htouch₂ := htouch₁.trans h₂.1
    cases b with
    | false => exact ensures_pure.mpr ⟨htouch₂, nofun⟩
    | true =>
      change Ensures (attempt (·.fsync name dir)) _ _ _
      refine ensures_attempt (fun d₃ h₃ => ?_) ⟨htouch₂, nofun⟩ htouch₂
      refine ⟨htouch₂.trans (touches_alter h₃), fun _ => ?_⟩
      obtain ⟨a, b, hnode, hnode₃, -⟩ := alter_eq_some h₃
      have ha := h₂.2 rfl [] hcontent₁
      rw [Tree.content_of_node hnode, List.nil_append] at ha
      rw [hnode₃, Function.update_self, id, Option.some.inj ha]
  · exact ensures_pure.mpr ⟨.refl _ _, nofun⟩

/-- **An atomic write** leaves the old entry or the new file, and the new file if it goes
through. -/
theorem ensures_writeFileAtomic {name : Bytes} {dir : Path Bytes} {content : Bytes}
    (htmp : tmpName name ≠ name) :
    Ensures (writeFileAtomic name dir content) d
      (fun b d' => Touches {tmpName name :: dir, name :: dir} d d' ∧
        if b = true then d'.tree.node (name :: dir) = some (.file content true)
        else d'.tree.node (name :: dir) = d.tree.node (name :: dir))
      (fun d' => Touches {tmpName name :: dir, name :: dir} d d' ∧
        (d'.tree.node (name :: dir) = d.tree.node (name :: dir) ∨
          d'.tree.node (name :: dir) = some (.file content true))) := by
  have hne : name :: dir ∉ ({tmpName name :: dir} : Set (Path Bytes)) := by
    simpa using htmp.symm
  have hmono : ∀ {d d' : Disk Bytes UInt8}, Touches {tmpName name :: dir} d d' →
      Touches {tmpName name :: dir, name :: dir} d d' := fun h => h.mono (by simp)
  refine ensures_bind (ensures_mono ensures_writeFile (fun b d₁ h₁ => ?_)
    fun d₁ h₁ => ⟨hmono h₁, .inl (h₁.node _ hne)⟩)
  have hkept₁ := h₁.1.node _ hne
  cases b with
  | false => exact ensures_pure.mpr ⟨hmono h₁.1, hkept₁⟩
  | true =>
    refine ensures_bind (ensures_attempt (fun d₂ h₂ => ?_) ?_ ⟨hmono h₁.1, .inl hkept₁⟩)
    · have htouch₂ := (hmono h₁.1).trans (touches_rename h₂)
      have hnode₂ : d₂.tree.node (name :: dir) = some (.file content true) := by
        obtain ⟨a, b, hnode, hnode₂, -⟩ := rename_eq_some h₂
        rw [h₁.2 rfl] at hnode
        rw [hnode₂, Function.update_self, ← hnode]
      refine ensures_bind (ensures_attempt (fun d₃ h₃ => ensures_pure.mpr ⟨?_, ?_⟩)
        (ensures_pure.mpr ⟨htouch₂, hnode₂⟩) ⟨htouch₂, .inr hnode₂⟩)
      · exact htouch₂.trans ((touches_fsyncDir h₃).mono (Set.empty_subset _))
      · rw [if_pos rfl, (fsyncDir_eq_some h₃).1]
        exact hnode₂
    · refine ensures_bind (ensures_attempt (fun d₂ h₂ => ensures_pure.mpr ⟨?_, ?_⟩)
        (ensures_pure.mpr ⟨hmono h₁.1, hkept₁⟩) ⟨hmono h₁.1, .inl hkept₁⟩)
      · exact (hmono h₁.1).trans (hmono (touches_remove h₂))
      · exact ((touches_remove h₂).node _ hne).trans hkept₁

/-- The entries of a directory. -/
abbrev Entries (dir : Path Bytes) : Set (Path Bytes) := {q | ∃ n, q = n :: dir}

/-- Emptying a directory touches the entries of that directory only. -/
private theorem stays_removeAll (dir : Path Bytes) (names : List Bytes) :
    Stays (Touches (Entries dir)) (Platform.removeAll dir names) := by
  induction names with
  | nil => exact stays_pure (.refl _) ()
  | cons name rest ih =>
    have htrans : ∀ d₁ d₂ d₃ : Disk Bytes UInt8, Touches (Entries dir) d₁ d₂ →
        Touches (Entries dir) d₂ d₃ → Touches (Entries dir) d₁ d₃ := fun _ _ _ => .trans
    refine Stays.bind htrans (stays_attempt (.refl _) fun d d' h => ?_) fun _ => ih
    exact (touches_remove h).mono (by simp [Entries])

namespace Platform

variable {P : Platform}

/-! ### Writing a generation -/

/-- The directory of a generation and all that is below it. -/
abbrev Below (dir : Path Bytes) : Set (Path Bytes) := {q | dir <:+ q}

/-- What writing a generation into the directory `dir` may have done. -/
abbrev Drafts (dir : Path Bytes) : Disk Bytes UInt8 → Disk Bytes UInt8 → Prop :=
  Grows (Made dir ∪ Below dir) (Below dir)

/-- Making the directory of a draft is part of drafting it. -/
private theorem drafts_of_grows {dir : Path Bytes} {d d' : Disk Bytes UInt8}
    (h : Grows (Made dir) ∅ d d') : Drafts dir d d' :=
  h.mono Set.subset_union_left (Set.empty_subset _)

/-- So is every step that touches only paths below that directory. -/
private theorem drafts_of_touches {dir : Path Bytes} {S : Set (Path Bytes)}
    {d d' : Disk Bytes UInt8}
    (h : Touches S d d') (hS : S ⊆ Below dir) : Drafts dir d d' :=
  (Grows.of_touches (h.mono hS)).mono Set.subset_union_right subset_rfl

/-- The files of the generation `g` are on disk, and durable in its directory. -/
structure Stored (P : Platform) (d : Disk Bytes UInt8) (g : Generation) (text : Bytes)
    (createdAt : Int64) : Prop where
  chain : d.tree.node (kChainFileName :: g.generationId :: P.generationsDir) =
    some (.file g.deviceCertChainPem true)
  deviceCert : d.tree.node (kDeviceCertFileName :: g.generationId :: P.generationsDir) =
    some (.file text true)
  manifest : ∃ s, P.json.dump (P.manifest g text createdAt) = some s ∧
    d.tree.node (kManifestName :: g.generationId :: P.generationsDir) = some (.file s true)
  synced : ∀ n u, (n :: g.generationId :: P.generationsDir, u) ∉ d.old

/-- A generation whose files were stored, and whose certificate document parses back, is written in
the sense of the readers. -/
theorem Stored.written {g : Generation} {text : Bytes} {createdAt : Int64} (hP : P.Lawful)
    (h : Stored P d g text createdAt) (hparse : P.json.parse text = some g.deviceCert) :
    Written P d.tree g text createdAt := by
  obtain ⟨s, hdump, hs⟩ := h.manifest
  exact ⟨Tree.content_of_node h.chain, Tree.content_of_node h.deviceCert, hparse,
    s, Tree.content_of_node hs, hP.parse_manifest _ _ _ _ hdump⟩

/-- Nothing that leaves the directory of a generation alone takes its files away. -/
theorem Stored.of_touches {g : Generation} {text : Bytes} {createdAt : Int64}
    {d d' : Disk Bytes UInt8} {S : Set (Path Bytes)} (h : Stored P d g text createdAt)
    (htouch : Touches S d d') (hS : ∀ n, n :: g.generationId :: P.generationsDir ∉ S) :
    Stored P d' g text createdAt := by
  obtain ⟨s, hdump, hs⟩ := h.manifest
  exact ⟨(htouch.node _ (hS _)).trans h.chain, (htouch.node _ (hS _)).trans h.deviceCert,
    ⟨s, hdump, (htouch.node _ (hS _)).trans hs⟩,
    fun n u hu => h.synced n u (htouch.old _ (hS n) u hu)⟩

/-- **The first half of a commit**: only the draft generation is touched, and after a success its
files are stored and synced. -/
private theorem ensures_writeGeneration {g : Generation} {createdAt : Int64} :
    Ensures (P.writeGeneration g createdAt) d
      (fun r d' => Drafts (g.generationId :: P.generationsDir) d d' ∧
        (r = some true → ∃ text, P.json.dump g.deviceCert = some text ∧
          Stored P d' g text createdAt))
      (Drafts (g.generationId :: P.generationsDir) d) := by
  have hbelow : ∀ m n : Bytes,
      ({m :: g.generationId :: P.generationsDir, n :: g.generationId :: P.generationsDir} :
        Set (Path Bytes)) ⊆ Below (g.generationId :: P.generationsDir) := by
    rintro m n q (rfl | rfl) <;> exact List.suffix_cons _ _
  refine ensures_bind (ensures_mono (ensures_makeDirs _) (fun b d₁ h₁ => ?_)
    fun d₁ h₁ => drafts_of_grows h₁)
  have hd₁ := drafts_of_grows h₁.1
  cases b with
  | false => exact ensures_pure.mpr ⟨hd₁, nofun⟩
  | true =>
    refine ensures_bind (ensures_mono (ensures_writeFileAtomic (by decide)) (fun b d₂ h₂ => ?_)
      fun d₂ h₂ => hd₁.trans (drafts_of_touches h₂.1 (hbelow _ _)))
    have hd₂ := hd₁.trans (drafts_of_touches h₂.1 (hbelow _ _))
    cases b with
    | false => exact ensures_pure.mpr ⟨hd₂, nofun⟩
    | true =>
      simp only [Bool.not_true, Bool.false_eq_true, if_false]
      cases hdump : P.json.dump g.deviceCert with
      | none => exact ensures_pure.mpr ⟨hd₂, nofun⟩
      | some text =>
        refine ensures_bind (ensures_mono (ensures_writeFileAtomic (by decide))
          (fun b d₃ h₃ => ?_)
          fun d₃ h₃ => hd₂.trans (drafts_of_touches h₃.1 (hbelow _ _)))
        have hd₃ := hd₂.trans (drafts_of_touches h₃.1 (hbelow _ _))
        cases b with
        | false => exact ensures_pure.mpr ⟨hd₃, nofun⟩
        | true =>
          simp only [Bool.not_true, Bool.false_eq_true, if_false]
          cases hmanifest : P.json.dump (P.manifest g text createdAt) with
          | none => exact ensures_pure.mpr ⟨hd₃, nofun⟩
          | some s =>
            refine ensures_bind (ensures_mono (ensures_writeFileAtomic (by decide))
              (fun b d₄ h₄ => ?_)
              fun d₄ h₄ => hd₃.trans (drafts_of_touches h₄.1 (hbelow _ _)))
            have hd₄ := hd₃.trans (drafts_of_touches h₄.1 (hbelow _ _))
            cases b with
            | false => exact ensures_pure.mpr ⟨hd₄, nofun⟩
            | true =>
              refine ensures_bind (ensures_attempt (fun d₅ h₅ => ensures_pure.mpr ⟨?_, ?_⟩)
                (ensures_pure.mpr ⟨hd₄, nofun⟩) hd₄)
              · exact hd₄.trans (drafts_of_touches (touches_fsyncDir h₅) (Set.empty_subset _))
              · intro _
                have hnode : d₅.tree = d₄.tree := (fsyncDir_eq_some h₅).1
                refine ⟨text, rfl, ?_, ?_, ⟨s, hmanifest, ?_⟩, not_mem_old_of_fsyncDir h₅⟩
                · rw [hnode, h₄.1.node _ (by simp; decide), h₃.1.node _ (by simp; decide)]
                  exact h₂.2
                · rw [hnode, h₄.1.node _ (by simp; decide)]
                  exact h₃.2
                · rw [hnode]
                  exact h₄.2

/-! ### Switching and cleaning up -/

/-- The temporary file of `CURRENT`. -/
abbrev currentTmp (P : Platform) : Path Bytes := tmpName (textBytes "CURRENT") :: P.root

/-- **The second half**: `CURRENT` is the old file or the new one at every moment, and after the
answer `true` the new one can no longer be undone by a power loss. -/
private theorem ensures_switchCurrent {gid : Bytes} :
    Ensures (P.switchCurrent gid) d
      (fun b d' => Touches {P.currentTmp, P.currentPath} d d' ∧
        (d'.tree.node P.currentPath = d.tree.node P.currentPath ∨
          d'.tree.node P.currentPath = some (.file (gid ++ [newline]) true)) ∧
        (b = true → d'.tree.node P.currentPath = some (.file (gid ++ [newline]) true) ∧
          ∀ u, (P.currentPath, u) ∉ d'.old))
      (fun d' => Touches {P.currentTmp, P.currentPath} d d' ∧
        (d'.tree.node P.currentPath = d.tree.node P.currentPath ∨
          d'.tree.node P.currentPath = some (.file (gid ++ [newline]) true))) := by
  refine ensures_bind (ensures_mono (ensures_writeFileAtomic (by decide)) (fun b d₁ h₁ => ?_)
    fun d₁ h₁ => h₁)
  cases b with
  | false => exact ensures_pure.mpr ⟨h₁.1, .inl h₁.2, nofun⟩
  | true =>
    change Ensures (attempt (·.fsyncDir P.root)) _ _ _
    refine ensures_attempt (fun d₂ h₂ => ?_) ⟨h₁.1, .inr h₁.2, nofun⟩ ⟨h₁.1, .inr h₁.2⟩
    have hnode : d₂.tree.node P.currentPath = some (.file (gid ++ [newline]) true) := by
      rw [(fsyncDir_eq_some h₂).1]
      exact h₁.2
    refine ⟨h₁.1.trans ((touches_fsyncDir h₂).mono (Set.empty_subset _)), .inr hnode,
      fun _ => ⟨hnode, not_mem_old_of_fsyncDir h₂ _⟩⟩

/-- The generations other than `keepA` and `keepB`, with what is in them. -/
abbrev Orphans (P : Platform) (keepA keepB : Bytes) : Set (Path Bytes) :=
  {q | ∃ n, n ≠ keepA ∧ n ≠ keepB ∧
    (q = n :: P.generationsDir ∨ ∃ f, q = f :: n :: P.generationsDir)}

/-- Removing a generation touches its directory and the entries of it. -/
private theorem stays_removeGeneration (name : Bytes) :
    Stays (Touches {q | q = name :: P.generationsDir ∨ ∃ f, q = f :: name :: P.generationsDir})
      (P.removeGeneration name) := by
  refine Stays.bind (fun _ _ _ => .trans) (stays_look (.refl _) _) fun b => ?_
  cases b with
  | false => exact stays_pure (.refl _) _
  | true =>
    refine Stays.bind (fun _ _ _ => .trans) (fun d => ?_) fun _ =>
      Stays.bind (fun _ _ _ => .trans) ?_ fun _ => stays_pure (.refl _) _
    · exact ensures_mono (stays_removeAll _ _ d) (fun _ d' h => h.mono fun q => .inr)
        fun d' h => h.mono fun q => .inr
    · refine stays_attempt (.refl _) fun d d' h => ?_
      exact (touches_remove (rmdir_eq_some h)).mono fun q => .inl

/-- The loop of the clean-up touches orphans only: it passes over both kept generations. -/
private theorem stays_cleanupNames (keepA keepB : Bytes) (names : List Bytes) :
    Stays (Touches (P.Orphans keepA keepB)) (P.cleanupNames keepA keepB names) := by
  induction names with
  | nil => exact stays_pure (.refl _) ()
  | cons n rest ih =>
    rw [cleanupNames]
    by_cases hkeep : n ≠ keepA ∧ n ≠ keepB
    · rw [if_pos hkeep]
      have hmono : ∀ d d' : Disk Bytes UInt8,
          Touches {q | q = n :: P.generationsDir ∨ ∃ f, q = f :: n :: P.generationsDir} d d' →
            Touches (P.Orphans keepA keepB) d d' := fun d d' h =>
        h.mono fun q hq => ⟨n, hkeep.1, hkeep.2, hq⟩
      refine Stays.bind (fun _ _ _ => .trans) (fun d => ?_) fun _ => ih
      exact ensures_mono (stays_removeGeneration n d) (fun _ => hmono d) (hmono d)
    · rw [if_neg hkeep]
      exact ih

/-- So does the whole clean-up, which lists the directory first and then runs the loop. -/
theorem stays_cleanupOrphans (e : Env) (keepA keepB : Bytes) :
    Stays (Touches (P.Orphans keepA keepB)) (P.cleanupOrphans e keepA keepB) :=
  Stays.bind (fun _ _ _ => .trans) (stays_look (.refl _) _) fun _ => stays_cleanupNames _ _ _

/-! ### A commit -/

/-- `CURRENT` names the generation `g`, whose files are on disk and read back. -/
structure Switched (P : Platform) (d : Disk Bytes UInt8) (g : Generation) (text : Bytes)
    (createdAt : Int64) : Prop where
  stored : Stored P d g text createdAt
  parsed : P.json.parse text = some g.deviceCert
  sound : Sound g text
  current : d.tree.node P.currentPath = some (.file (g.generationId ++ [newline]) true)

/-- `CURRENT` and its temporary file are neither above nor below a generation. -/
private theorem not_mem_generation {gid name : Bytes} (hname : name ≠ textBytes "generations") :
    name :: P.root ∉ Made (gid :: P.generationsDir) ∪ Below (gid :: P.generationsDir) := by
  rintro (h | h)
  · rcases List.suffix_cons_iff.mp h with heq | h
    · have hlength := congrArg List.length heq
      simp [generationsDir] at hlength
    · exact hname (List.cons_eq_cons.mp (h.eq_of_length (by simp [generationsDir]))).1
  · have hlength := h.length_le
    simp only [generationsDir, List.length_cons] at hlength
    omega

/-- What a commit that has not switched `CURRENT` may have done, on behalf of the generation
`gid`. -/
structure Unswitched (P : Platform) (gid : Bytes) (d d' : Disk Bytes UInt8) : Prop where
  grows : Grows (Made (gid :: P.generationsDir) ∪ Below (gid :: P.generationsDir) ∪
      {P.currentTmp, P.currentPath})
    (Below (gid :: P.generationsDir) ∪ {P.currentTmp, P.currentPath}) d d'
  current : d'.tree.node P.currentPath = d.tree.node P.currentPath

/-- Steps that left `CURRENT` alone may follow each other. -/
theorem Unswitched.trans {gid : Bytes} {d₁ d₂ d₃ : Disk Bytes UInt8}
    (h : P.Unswitched gid d₁ d₂) (h' : P.Unswitched gid d₂ d₃) : P.Unswitched gid d₁ d₃ :=
  ⟨h.grows.trans h'.grows, h'.current.trans h.current⟩

/-- Drafting a generation leaves `CURRENT` and its temporary file alone: both are above
`generations/`. -/
private theorem unswitched_of_drafts {gid : Bytes} {d d' : Disk Bytes UInt8}
    (h : Drafts (gid :: P.generationsDir) d d') : P.Unswitched gid d d' :=
  ⟨h.mono Set.subset_union_left Set.subset_union_left,
    h.touches.node _ (not_mem_generation (by decide))⟩

/-- A pointer switch that has left `CURRENT` as it was. -/
theorem unswitched_of_touches {gid : Bytes} {d d' : Disk Bytes UInt8}
    (h : Touches {P.currentTmp, P.currentPath} d d')
    (hcurrent : d'.tree.node P.currentPath = d.tree.node P.currentPath) :
    P.Unswitched gid d d' :=
  ⟨(Grows.of_touches h).mono Set.subset_union_right Set.subset_union_right, hcurrent⟩

/-- No file of a generation is one of the two pointer files. -/
theorem not_mem_pointers (n : Bytes) (gid : Bytes) :
    n :: gid :: P.generationsDir ∉ ({P.currentTmp, P.currentPath} : Set (Path Bytes)) := by
  rintro (h | h) <;>
  · have hlength := congrArg List.length h
    simp only [currentPath, generationsDir, List.length_cons] at hlength
    omega

/-- What a pointer switch leaves of a commit whose generation is on disk. -/
private theorem switch_cases {g : Generation} {text : Bytes} {createdAt : Int64}
    {d d₁ d₂ : Disk Bytes UInt8} (hd₁ : P.Unswitched g.generationId d d₁)
    (hstored : Stored P d₁ g text createdAt) (hparsed : P.json.parse text = some g.deviceCert)
    (hsound : Sound g text) (htouch : Touches {P.currentTmp, P.currentPath} d₁ d₂)
    (hcurrent : d₂.tree.node P.currentPath = d₁.tree.node P.currentPath ∨
      d₂.tree.node P.currentPath = some (.file (g.generationId ++ [newline]) true)) :
    P.Unswitched g.generationId d d₂ ∨ P.Switched d₂ g text createdAt := by
  rcases hcurrent with hcurrent | hcurrent
  · exact .inl (hd₁.trans (unswitched_of_touches htouch hcurrent))
  · exact .inr ⟨hstored.of_touches htouch fun n => not_mem_pointers n _, hparsed, hsound, hcurrent⟩

/-- `CURRENT` is no orphan, whatever the clean-up keeps. -/
theorem not_mem_orphans_currentPath (keepA keepB : Bytes) :
    P.currentPath ∉ P.Orphans keepA keepB := by
  rintro ⟨m, -, -, heq | ⟨f, heq⟩⟩ <;>
  · have hlength := congrArg List.length heq
    simp [currentPath, generationsDir] at hlength

/-- The clean-up leaves the generation it keeps, and `CURRENT`. -/
theorem Switched.of_cleanup {g : Generation} {text : Bytes} {createdAt : Int64}
    {d d' : Disk Bytes UInt8} {keepB : Bytes} (h : P.Switched d g text createdAt)
    (htouch : Touches (P.Orphans g.generationId keepB) d d') :
    P.Switched d' g text createdAt := by
  refine ⟨h.stored.of_touches htouch fun n => ?_, h.parsed, h.sound,
    (htouch.node _ (not_mem_orphans_currentPath _ _)).trans h.current⟩
  rintro ⟨m, hm, -, heq | ⟨f, heq⟩⟩
  · have hlength := congrArg List.length heq
    simp at hlength
  · exact hm (List.cons_eq_cons.mp (List.cons_eq_cons.mp heq).2).1.symm

/-- `commit` up to the switch of `CURRENT`: what it returns if it does not come to that, or else the
generation that is on disk and has been read back. -/
def staged (P : Platform) (e : Env) (st : Store) (c : CertificateCommit) :
    Program Bytes UInt8 (Option ErrorCode ⊕ Generation) := do
  if !st.recovered then return .inl (some .storageCorruption)
  if c.deviceCertChainPem = [] then return .inl (some .invalidParameter)
  match P.json.parse c.deviceCertJson with
  | none => return .inl (some .invalidParameter)
  | some deviceCert => do
    let g := newGeneration e st c deviceCert
    let dir := g.generationId :: P.generationsDir
    match ← P.writeGeneration g e.seconds with
    | none => return .inl none
    | some false => do
      removeAll dir [kManifestName, kChainFileName, kDeviceCertFileName]
      let _ ← attempt (·.rmdir g.generationId P.generationsDir)
      return .inl (some .storageWriteFailed)
    | some true => do
      match ← look fun t => P.loadGeneration t g.generationId with
      | none => return .inl none
      | some none => return .inl (some .storageWriteFailed)
      | some (some _) => return .inr g

/-- The rest of `commit`. -/
def switched (P : Platform) (e : Env) (st : Store) :
    Option ErrorCode ⊕ Generation → Program Bytes UInt8 (Option ErrorCode × Store)
  | .inl r => return (r, st)
  | .inr g => do
    if !(← P.switchCurrent g.generationId) then return (some .storageWriteFailed, st)
    P.cleanupOrphans e g.generationId g.previousGeneration
    return (some .success, { st with current := some g })

/-- A commit is its first half followed by its second. -/
theorem commit_eq (P : Platform) (e : Env) (st : Store) (c : CertificateCommit) :
    P.commit e st c = P.staged e st c >>= P.switched e st := by
  rw [commit, staged]
  split_ifs
  · rfl
  · rfl
  cases P.json.parse c.deviceCertJson with
  | none => rfl
  | some deviceCert =>
    dsimp only
    rw [bind_assoc]
    refine bind_congr fun r => ?_
    match r with
    | none => rfl
    | some false => simp only [bind_assoc, pure_bind, switched]
    | some true =>
      dsimp only
      rw [bind_assoc]
      refine bind_congr fun check => ?_
      match check with
      | none => rfl
      | some none => rfl
      | some (some _) => rfl

/-- The generation `g`, made of `c`, is staged: on disk and read back. -/
structure Staged (P : Platform) (e : Env) (st : Store) (c : CertificateCommit)
    (d : Disk Bytes UInt8) (g : Generation) (text : Bytes) : Prop where
  made : ∃ deviceCert, P.json.parse c.deviceCertJson = some deviceCert ∧
    g = newGeneration e st c deviceCert
  stored : Stored P d g text e.seconds
  parsed : P.json.parse text = some g.deviceCert
  sound : Sound g text

/-- A staged generation carries the identifier made from the clock at the call. -/
theorem Staged.id {e : Env} {st : Store} {c : CertificateCommit} {g : Generation} {text : Bytes}
    (h : P.Staged e st c d g text) : g.generationId = newGenerationId e := by
  obtain ⟨deviceCert, -, rfl⟩ := h.made
  rfl

/-- What the first half of a commit has done: nothing that the readers of `CURRENT` see, and the
complete generation where it goes on. -/
theorem ensures_staged (hP : P.Lawful) {e : Env} {st : Store} {c : CertificateCommit} :
    Ensures (P.staged e st c) d
      (fun r d' => P.Unswitched (newGenerationId e) d d' ∧
        match r with
        | .inl code => code ≠ some .success
        | .inr g => ∃ text, P.Staged e st c d' g text)
      (P.Unswitched (newGenerationId e) d) := by
  have hstart : P.Unswitched (newGenerationId e) d d := ⟨Grows.refl _ _ _, rfl⟩
  rw [staged]
  by_cases hrec : st.recovered = true
  swap
  · rw [if_pos (by simpa using hrec)]
    exact ensures_pure.mpr ⟨hstart, nofun⟩
  rw [if_neg (by simpa using hrec)]
  by_cases hchain : c.deviceCertChainPem = []
  · rw [if_pos hchain]
    exact ensures_pure.mpr ⟨hstart, nofun⟩
  rw [if_neg hchain]
  cases hparse : P.json.parse c.deviceCertJson with
  | none => exact ensures_pure.mpr ⟨hstart, nofun⟩
  | some deviceCert =>
    simp only
    generalize hg : newGeneration e st c deviceCert = g
    have hid : g.generationId = newGenerationId e := by
      rw [← hg]
      rfl
    refine ensures_bind (ensures_mono ensures_writeGeneration (fun r d₁ h₁ => ?_)
      fun d₁ h₁ => hid ▸ unswitched_of_drafts h₁)
    have hd₁ : P.Unswitched (newGenerationId e) d d₁ := hid ▸ unswitched_of_drafts h₁.1
    match r with
    | none => exact ensures_pure.mpr ⟨hd₁, nofun⟩
    | some false =>
      have hbelow : Entries (g.generationId :: P.generationsDir) ⊆
          Below (g.generationId :: P.generationsDir) := by
        rintro q ⟨n, rfl⟩
        exact List.suffix_cons _ _
      have hdrafts : ∀ {S d₂ d₃}, P.Unswitched (newGenerationId e) d d₂ →
          S ⊆ Below (g.generationId :: P.generationsDir) → Touches S d₂ d₃ →
          P.Unswitched (newGenerationId e) d d₃ := fun hd₂ hS h₃ =>
        hd₂.trans (hid ▸ unswitched_of_drafts (drafts_of_touches h₃ hS))
      refine ensures_bind (ensures_mono (stays_removeAll _ _ d₁) (fun _ d₂ h₂ => ?_)
        fun d₂ h₂ => hdrafts hd₁ hbelow h₂)
      have hd₂ := hdrafts hd₁ hbelow h₂
      refine ensures_bind (ensures_attempt (fun d₃ h₃ => ?_) ?_ hd₂)
      · have htouch := touches_remove (rmdir_eq_some h₃)
        refine ensures_pure.mpr ⟨hdrafts hd₂ ?_ htouch, nofun⟩
        rintro q rfl
        exact List.suffix_refl _
      · exact ensures_pure.mpr ⟨hd₂, nofun⟩
    | some true =>
      obtain ⟨text, hdump, hstored⟩ := h₁.2 rfl
      obtain ⟨text', hdump', hparsed⟩ := hP.reparse _ _ hparse
      have hcert : g.deviceCert = deviceCert := by
        rw [← hg]
        rfl
      rw [hcert, hdump'] at hdump
      obtain rfl := Option.some.inj hdump
      rw [← hcert] at hparsed
      have hload := load_of_written hP (hid ▸ plain_newGenerationId e)
        (hstored.written hP hparsed)
      refine ensures_bind (ensures_look.mpr ?_)
      rw [hload]
      by_cases hsound : Sound g text'
      · rw [if_pos hsound]
        exact ensures_pure.mpr ⟨hd₁, text', ⟨deviceCert, hparse, hg.symm⟩, hstored, hparsed, hsound⟩
      · rw [if_neg hsound]
        exact ensures_pure.mpr ⟨hd₁, nofun⟩

/-- **What a commit has done**: either it failed with `CURRENT` as it was, or the new generation is
complete and named by `CURRENT`, and then the answer fails only in the last directory sync. A killed
commit is in one of the two situations as well. -/
theorem ensures_commit (hP : P.Lawful) {e : Env} {st : Store} {c : CertificateCommit} :
    Ensures (P.commit e st c) d
      (fun a d' =>
        (a.1 ≠ some .success ∧ a.2 = st ∧ P.Unswitched (newGenerationId e) d d') ∨
        ∃ deviceCert text, P.json.parse c.deviceCertJson = some deviceCert ∧
          P.Switched d' (newGeneration e st c deviceCert) text e.seconds ∧
          ((a.1 ≠ some .success ∧ a.2 = st) ∨
            (a = (some .success,
                { st with current := some (newGeneration e st c deviceCert) }) ∧
              ∀ u, (P.currentPath, u) ∉ d'.old)))
      (fun d' => P.Unswitched (newGenerationId e) d d' ∨
        ∃ deviceCert text, P.json.parse c.deviceCertJson = some deviceCert ∧
          P.Switched d' (newGeneration e st c deviceCert) text e.seconds) := by
  rw [commit_eq]
  refine ensures_bind (ensures_mono (ensures_staged hP) (fun r d₁ h₁ => ?_) fun _ => .inl)
  obtain ⟨hd₁, hcase⟩ := h₁
  cases r with
  | inl code => exact ensures_pure.mpr (.inl ⟨hcase, rfl, hd₁⟩)
  | inr g =>
    obtain ⟨text, hstaged⟩ := hcase
    rw [← hstaged.id] at hd₁
    obtain ⟨deviceCert, hparse, hg⟩ := id hstaged.made
    refine ensures_bind (ensures_mono ensures_switchCurrent (fun b d₂ h₂ => ?_)
      fun d₂ h₂ => ?_)
    · have hcases := switch_cases hd₁ hstaged.stored hstaged.parsed hstaged.sound h₂.1 h₂.2.1
      rw [hstaged.id] at hcases
      cases b with
      | false =>
        refine ensures_pure.mpr ?_
        rcases hcases with hcase | hcase
        · exact .inl ⟨by simp, rfl, hcase⟩
        · exact .inr ⟨deviceCert, text, hparse, hg ▸ hcase, .inl ⟨by simp, rfl⟩⟩
      | true =>
        obtain ⟨hcurrent, hold⟩ := h₂.2.2 rfl
        have hswitched : P.Switched d₂ g text e.seconds :=
          ⟨hstaged.stored.of_touches h₂.1 fun n => not_mem_pointers n _, hstaged.parsed,
            hstaged.sound, hcurrent⟩
        refine ensures_bind (ensures_mono (stays_cleanupOrphans e _ _ d₂) (fun _ d₃ h₃ => ?_)
          fun d₃ h₃ => .inr ⟨deviceCert, text, hparse, hg ▸ hswitched.of_cleanup h₃⟩)
        refine ensures_pure.mpr (.inr ⟨deviceCert, text, hparse, hg ▸ hswitched.of_cleanup h₃,
          .inr ⟨by rw [hg], fun u hu => ?_⟩⟩)
        exact hold u (h₃.old _ (not_mem_orphans_currentPath _ _) u hu)
    · have hcases := switch_cases hd₁ hstaged.stored hstaged.parsed hstaged.sound h₂.1 h₂.2
      rw [hstaged.id] at hcases
      exact hcases.imp_right fun hcase => ⟨deviceCert, text, hparse, hg ▸ hcase⟩

end Platform

end TboxSec.CertStore
