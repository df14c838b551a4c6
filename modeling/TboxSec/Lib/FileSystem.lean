import Mathlib.Logic.Function.Basic
import Mathlib.Data.List.Dedup
import Mathlib.Data.Set.Insert

/-!
# Directory trees and what a power loss leaves of them

A `Tree N β` is a file system with names `N` and files of `β`. A path lists its names from
the entry up to the root, so the tail of a path is the directory the entry is in. Every entry
of a tree is in a directory; the structure carries this.

A `Disk` is the tree that programs see, with what is not yet durable: the data of a file that
was not synced, and the **old values** of the directory entries that changed since their
directory was synced. A disk operation answers `none` when it fails.

* `Touches S d d'`: going from `d` to `d'` changes no entry outside `S`, and leaves no new old
  value there.
* `Loss d t`: a power loss on `d` may leave the tree `t`. Each entry of a surviving directory
  has its present value or one of its old values, on its own; data that was not synced may be
  anything.
* `Disk.loss_without`: an entry whose making was not synced can be lost, with all below it.
-/

namespace TboxSec.FileSystem

variable {N β : Type} [DecidableEq N]

/-- A path, from the entry up to the root. -/
abbrev Path (N : Type) := List N

/-- A directory, or a file with its data and whether the data is synced. -/
inductive Node (β : Type) where
  | dir
  | file (data : List β) (synced : Bool)

instance (v : Option (Node β)) : Decidable (v = some .dir) :=
  match v with
  | none => .isFalse nofun
  | some .dir => .isTrue rfl
  | some (.file _ _) => .isFalse nofun

/-- A tree of directories and files. -/
structure Tree (N β : Type) where
  /-- The entry at a path. -/
  node : Path N → Option (Node β)
  /-- The paths that may have an entry. -/
  paths : List (Path N)
  covers : ∀ p, (node p).isSome → p ∈ paths
  root : node [] = some .dir
  /-- Every entry is in a directory. -/
  rooted : ∀ n p, (node (n :: p)).isSome → node p = some .dir

/-- One step of a walk through the directories. -/
inductive Hop (N : Type) where
  | stay
  | up
  | into (n : N)

/-- Where a step from the directory `p` leads. The root is above itself. -/
def Hop.dest (p : Path N) : Hop N → Path N
  | .stay => p
  | .up => p.tail
  | .into n => n :: p

namespace Tree

variable (t : Tree N β)

omit [DecidableEq N] in
/-- A tree is its entries and their finiteness. -/
@[ext]
theorem ext {t t' : Tree N β} (hnode : t.node = t'.node) (hpaths : t.paths = t'.paths) :
    t = t' := by
  cases t
  cases t'
  dsimp only at hnode hpaths
  subst hnode hpaths
  rfl

omit [DecidableEq N] in
/-- Only a directory has entries. -/
theorem node_cons_of_not_dir {t : Tree N β} {p : Path N} (h : t.node p ≠ some .dir) (n : N) :
    t.node (n :: p) = none := by
  by_contra hn
  exact h (t.rooted n p (Option.isSome_iff_ne_none.mpr hn))

/-- The data of the file at a path. -/
def content (p : Path N) : Option (List β) :=
  match t.node p with
  | some (.file a _) => some a
  | _ => none

omit [DecidableEq N] in
/-- The content of a file that is there. -/
theorem content_of_node {t : Tree N β} {p : Path N} {a : List β} {b : Bool}
    (h : t.node p = some (.file a b)) : t.content p = some a := by
  rw [content, h]

/-- The names in a directory. -/
def children (p : Path N) : List N :=
  (t.paths.filterMap fun q =>
    match q with
    | [] => none
    | n :: q' => if q' = p ∧ (t.node (n :: q')).isSome then some n else none).dedup

/-- The children of a directory are the names under which there is an entry. -/
theorem mem_children {p : Path N} {n : N} : n ∈ t.children p ↔ (t.node (n :: p)).isSome := by
  rw [children, List.mem_dedup, List.mem_filterMap]
  constructor
  · rintro ⟨q, -, hq⟩
    cases q with
    | nil => cases hq
    | cons m q' =>
      dsimp only at hq
      split_ifs at hq with h
      obtain ⟨rfl, hsome⟩ := h
      exact Option.some.inj hq ▸ hsome
  · intro h
    exact ⟨n :: p, t.covers _ h, by simp [h]⟩

/-- No name is listed twice. -/
theorem nodup_children (p : Path N) : (t.children p).Nodup := List.nodup_dedup _

/-- An empty listing is a directory without entries. -/
theorem children_eq_nil_iff {p : Path N} :
    t.children p = [] ↔ ∀ n, t.node (n :: p) = none := by
  simp [List.eq_nil_iff_forall_not_mem, mem_children]

/-! ### Changing one entry -/

/-- Give `n` in the directory `p` the value `v`; what was there is no directory. -/
def put (n : N) (p : Path N) (v : Node β) (hp : t.node p = some .dir)
    (hn : t.node (n :: p) ≠ some .dir) : Tree N β where
  node := Function.update t.node (n :: p) (some v)
  paths := (n :: p) :: t.paths
  covers q hq := by
    by_cases h : q = n :: p
    · simp [h]
    · rw [Function.update_of_ne h] at hq
      exact List.mem_cons_of_mem _ (t.covers q hq)
  root := by rw [Function.update_of_ne (by simp)]; exact t.root
  rooted m q hq := by
    by_cases h : m :: q = n :: p
    · obtain ⟨-, rfl⟩ := List.cons_eq_cons.mp h
      rwa [Function.update_of_ne (List.cons_ne_self _ _).symm]
    · rw [Function.update_of_ne h] at hq
      have hdir := t.rooted m q hq
      have hne : q ≠ n :: p := by
        rintro rfl
        exact hn hdir
      rwa [Function.update_of_ne hne]

/-- Take the entry `n` out of the directory `p`; it has no entries itself. -/
def cut (n : N) (p : Path N) (h : ∀ m, t.node (m :: n :: p) = none) : Tree N β where
  node := Function.update t.node (n :: p) none
  paths := t.paths
  covers q hq := by
    by_cases hqn : q = n :: p
    · simp [hqn] at hq
    · rw [Function.update_of_ne hqn] at hq
      exact t.covers q hq
  root := by rw [Function.update_of_ne (by simp)]; exact t.root
  rooted m q hq := by
    by_cases hqn : m :: q = n :: p
    · simp [hqn] at hq
    · rw [Function.update_of_ne hqn] at hq
      have hne : q ≠ n :: p := by
        rintro rfl
        simp [h m] at hq
      rw [Function.update_of_ne hne]
      exact t.rooted m q hq

/-! ### Finding one's way -/

/-- A walk from a path; every step starts in a directory. -/
def walk : Path N → List (Hop N) → Option (Path N)
  | p, [] => some p
  | p, h :: hs => if t.node p = some .dir then walk (h.dest p) hs else none

end Tree

/-! ### Disks -/

/-- A tree with the old values of the entries whose directory is not synced. -/
structure Disk (N β : Type) where
  tree : Tree N β
  old : List (Path N × Option (Node β))

namespace Disk

variable (d : Disk N β)

/-- Make a directory. -/
def mkdir (n : N) (p : Path N) : Option (Disk N β) :=
  if h : d.tree.node p = some .dir ∧ (d.tree.node (n :: p)).isNone then
    some ⟨d.tree.put n p .dir h.1 (by simp [Option.isNone_iff_eq_none.mp h.2]),
      (n :: p, none) :: d.old⟩
  else none

/-- Open a file for writing, made if it is missing and cut to nothing. -/
def create (n : N) (p : Path N) : Option (Disk N β) :=
  if h : d.tree.node p = some .dir ∧ ¬ d.tree.node (n :: p) = some .dir then
    some ⟨d.tree.put n p (.file [] false) h.1 h.2,
      match d.tree.node (n :: p) with
      | none => (n :: p, none) :: d.old
      | some _ => d.old⟩
  else none

/-- Change the data of a file to `f` of it, synced or not. -/
def alter (n : N) (p : Path N) (f : List β → List β) (synced : Bool) : Option (Disk N β) :=
  match h : d.tree.node (n :: p) with
  | some (.file a _) =>
    some ⟨d.tree.put n p (.file (f a) synced)
      (d.tree.rooted n p (by simp [h])) (by simp [h]), d.old⟩
  | _ => none

/-- Write at the end of a file. -/
def write (n : N) (p : Path N) (data : List β) : Option (Disk N β) :=
  d.alter n p (fun a => a ++ data) false

/-- Sync the data of a file. -/
def fsync (n : N) (p : Path N) : Option (Disk N β) := d.alter n p id true

/-- Sync the entries of a directory. -/
def fsyncDir (p : Path N) : Option (Disk N β) :=
  if d.tree.node p = some .dir then
    some ⟨d.tree, d.old.filter fun e => e.1 = [] ∨ e.1.tail ≠ p⟩
  else none

/-- Rename the file `m` in the directory `p` to `n`, which replaces a file of that name. -/
def rename (m n : N) (p : Path N) : Option (Disk N β) :=
  match h : d.tree.node (m :: p) with
  | some (.file a b) =>
    if hn : ¬ d.tree.node (n :: p) = some .dir then
      some ⟨(d.tree.cut m p (Tree.node_cons_of_not_dir (by simp [h]))).put n p (.file a b)
          (by
            change Function.update _ _ _ _ = _
            rw [Function.update_of_ne (List.cons_ne_self _ _).symm]
            exact d.tree.rooted m p (by simp [h]))
          (by
            change Function.update _ _ _ _ ≠ _
            by_cases hmn : n :: p = m :: p
            · simp [hmn]
            · rwa [Function.update_of_ne hmn]),
        (m :: p, some (.file a b)) :: (n :: p, d.tree.node (n :: p)) :: d.old⟩
    else none
  | _ => none

/-- Take out a file or an empty directory. -/
def remove (n : N) (p : Path N) : Option (Disk N β) :=
  if (d.tree.node (n :: p)).isSome then
    if h : d.tree.children (n :: p) = [] then
      some ⟨d.tree.cut n p ((Tree.children_eq_nil_iff _).mp h),
        (n :: p, d.tree.node (n :: p)) :: d.old⟩
    else none
  else none

/-- Take out an empty directory. -/
def rmdir (n : N) (p : Path N) : Option (Disk N β) :=
  if d.tree.node (n :: p) = some .dir then d.remove n p else none

/-! ### What an operation touches -/

/-- No entry outside `S` is changed, and no old value outside `S` is added. -/
structure Touches (S : Set (Path N)) (d d' : Disk N β) : Prop where
  node : ∀ p ∉ S, d'.tree.node p = d.tree.node p
  old : ∀ p ∉ S, ∀ u, (p, u) ∈ d'.old → (p, u) ∈ d.old

omit [DecidableEq N] in
/-- A disk is changed nowhere from itself. -/
theorem Touches.refl (S : Set (Path N)) (d : Disk N β) : Touches S d d :=
  ⟨fun _ _ => rfl, fun _ _ _ h => h⟩

omit [DecidableEq N] in
/-- Two changes in a row touch no more than each of them. -/
theorem Touches.trans {S : Set (Path N)} {d₁ d₂ d₃ : Disk N β} (h : Touches S d₁ d₂)
    (h' : Touches S d₂ d₃) : Touches S d₁ d₃ :=
  ⟨fun p hp => (h'.node p hp).trans (h.node p hp),
    fun p hp u hu => h.old p hp u (h'.old p hp u hu)⟩

omit [DecidableEq N] in
/-- What stays within a set of entries stays within a larger one. -/
theorem Touches.mono {S S' : Set (Path N)} {d d' : Disk N β} (h : Touches S d d')
    (hS : S ⊆ S') : Touches S' d d' :=
  ⟨fun p hp => h.node p fun hps => hp (hS hps), fun p hp => h.old p fun hps => hp (hS hps)⟩

omit [DecidableEq N] in
/-- A file that was not touched has its content. -/
theorem Touches.content {S : Set (Path N)} {d d' : Disk N β} (h : Touches S d d') {p : Path N}
    (hp : p ∉ S) : d'.tree.content p = d.tree.content p := by
  rw [Tree.content, Tree.content, h.node p hp]

section Operations

variable {d} {d' : Disk N β} {m n : N} {p : Path N}

/-- A directory is made where there was no entry. Until its directory is synced, the old value of
the entry, which is none, may come back. -/
theorem mkdir_eq_some (h : d.mkdir n p = some d') :
    d.tree.node (n :: p) = none ∧
      d'.tree.node = Function.update d.tree.node (n :: p) (some .dir) ∧
      d'.old = (n :: p, none) :: d.old := by
  unfold mkdir at h
  split_ifs at h with hc
  cases h
  exact ⟨Option.isNone_iff_eq_none.mp hc.2, rfl, rfl⟩

/-- A file is created or truncated, and its data is not synced. -/
theorem create_eq_some (h : d.create n p = some d') :
    d'.tree.node = Function.update d.tree.node (n :: p) (some (.file [] false)) ∧
      ∀ e ∈ d'.old, e.1 = n :: p ∨ e ∈ d.old := by
  unfold create at h
  split_ifs at h with hc
  cases h
  refine ⟨rfl, fun e he => ?_⟩
  dsimp only at he
  split at he
  · exact (List.mem_cons.mp he).imp_left fun heq => by rw [heq]
  · exact .inr he

/-- The data of a file that is there is replaced, with or without a sync. The entries of the
directory stay. -/
theorem alter_eq_some {f : List β → List β} {synced : Bool}
    (h : d.alter n p f synced = some d') :
    ∃ a b, d.tree.node (n :: p) = some (.file a b) ∧
      d'.tree.node = Function.update d.tree.node (n :: p) (some (.file (f a) synced)) ∧
      d'.old = d.old := by
  unfold alter at h
  split at h
  · rename_i a b hnode
    cases h
    exact ⟨a, b, hnode, rfl, rfl⟩
  · cases h

/-- Syncing a directory changes nothing that programs see. It forgets the old values of the entries
in it, and of no others. -/
theorem fsyncDir_eq_some (h : d.fsyncDir p = some d') :
    d'.tree = d.tree ∧ ∀ e, e ∈ d'.old ↔ e ∈ d.old ∧ (e.1 = [] ∨ e.1.tail ≠ p) := by
  unfold fsyncDir at h
  split_ifs at h
  cases h
  exact ⟨rfl, fun e => by simp⟩

/-- A file gets another name in its directory. Both entries change at once for programs, but each
has an old value of its own until the sync. -/
theorem rename_eq_some (h : d.rename m n p = some d') :
    ∃ a b, d.tree.node (m :: p) = some (.file a b) ∧
      d'.tree.node =
        Function.update (Function.update d.tree.node (m :: p) none) (n :: p)
          (some (.file a b)) ∧
      ∀ e ∈ d'.old, e.1 = m :: p ∨ e.1 = n :: p ∨ e ∈ d.old := by
  unfold rename at h
  split at h
  · rename_i a b hnode
    split_ifs at h
    cases h
    refine ⟨a, b, hnode, rfl, fun e he => ?_⟩
    simp only [List.mem_cons] at he
    rcases he with rfl | rfl | he
    · exact .inl rfl
    · exact .inr (.inl rfl)
    · exact .inr (.inr he)
  · cases h

/-- An entry is removed, and may come back as it was. -/
theorem remove_eq_some (h : d.remove n p = some d') :
    d'.tree.node = Function.update d.tree.node (n :: p) none ∧
      d'.old = (n :: p, d.tree.node (n :: p)) :: d.old := by
  unfold remove at h
  split_ifs at h
  cases h
  exact ⟨rfl, rfl⟩

/-- Removing a directory is removing its entry, if there is nothing in it. -/
theorem rmdir_eq_some (h : d.rmdir n p = some d') : d.remove n p = some d' := by
  unfold rmdir at h
  split_ifs at h
  exact h

/-- Making a directory touches its entry only. -/
theorem touches_mkdir (h : d.mkdir n p = some d') : Touches {n :: p} d d' := by
  obtain ⟨-, hnode, hold⟩ := mkdir_eq_some h
  refine ⟨fun q hq => ?_, fun q hq u hu => ?_⟩
  · rw [hnode, Function.update_of_ne hq]
  · rw [hold] at hu
    exact (List.mem_cons.mp hu).resolve_left fun he => hq (congrArg Prod.fst he)

/-- Creating a file touches its entry only. -/
theorem touches_create (h : d.create n p = some d') : Touches {n :: p} d d' := by
  obtain ⟨hnode, hold⟩ := create_eq_some h
  refine ⟨fun q hq => ?_, fun q hq u hu => (hold _ hu).resolve_left hq⟩
  rw [hnode, Function.update_of_ne hq]

/-- Changing the data of a file touches its entry only. -/
theorem touches_alter {f : List β → List β} {synced : Bool}
    (h : d.alter n p f synced = some d') : Touches {n :: p} d d' := by
  obtain ⟨a, b, -, hnode, hold⟩ := alter_eq_some h
  refine ⟨fun q hq => ?_, fun q hq u hu => hold ▸ hu⟩
  rw [hnode, Function.update_of_ne hq]

/-- A sync touches nothing. -/
theorem touches_fsyncDir (h : d.fsyncDir p = some d') : Touches ∅ d d' := by
  obtain ⟨htree, hold⟩ := fsyncDir_eq_some h
  exact ⟨fun q _ => by rw [htree], fun q _ u hu => ((hold _).mp hu).1⟩

/-- A rename touches two entries. -/
theorem touches_rename (h : d.rename m n p = some d') : Touches {m :: p, n :: p} d d' := by
  obtain ⟨a, b, -, hnode, hold⟩ := rename_eq_some h
  refine ⟨fun q hq => ?_, fun q hq u hu => ?_⟩
  · rw [Set.mem_insert_iff, Set.mem_singleton_iff, not_or] at hq
    rw [hnode, Function.update_of_ne hq.2, Function.update_of_ne hq.1]
  · rcases hold _ hu with he | he | he
    · exact absurd (Or.inl he) hq
    · exact absurd (Or.inr he) hq
    · exact he

/-- A removal touches one. -/
theorem touches_remove (h : d.remove n p = some d') : Touches {n :: p} d d' := by
  obtain ⟨hnode, hold⟩ := remove_eq_some h
  refine ⟨fun q hq => ?_, fun q hq u hu => ?_⟩
  · rw [hnode, Function.update_of_ne hq]
  · rw [hold] at hu
    exact (List.mem_cons.mp hu).resolve_left fun he => hq (congrArg Prod.fst he)

/-! ### Entries that can be lost -/

/-- The entry is not there, or it was not there when its directory was last synced. -/
def Losable (p : Path N) (d : Disk N β) : Prop :=
  d.tree.node p = none ∨ (p, none) ∈ d.old

variable {q : Path N}

/-- An entry that can be lost can still be lost after a directory was made. -/
theorem losable_mkdir (h : d.mkdir n p = some d') (hq : Losable q d) : Losable q d' := by
  obtain ⟨-, hnode, hold⟩ := mkdir_eq_some h
  rw [Losable, hnode, hold]
  by_cases hqn : q = n :: p
  · exact .inr (hqn ▸ List.mem_cons_self ..)
  · rw [Function.update_of_ne hqn]
    exact hq.imp_right (List.mem_cons_of_mem _)

/-- Creating a file keeps what can be lost. -/
theorem losable_create (h : d.create n p = some d') (hq : Losable q d) : Losable q d' := by
  unfold create at h
  split_ifs at h with hc
  cases h
  dsimp only [Losable, Tree.put]
  by_cases hqn : q = n :: p
  · subst hqn
    right
    rcases hq with hq | hq
    · simp [hq]
    · split
      · exact List.mem_cons_of_mem _ hq
      · exact hq
  · rw [Function.update_of_ne hqn]
    refine hq.imp_right fun hq => ?_
    split
    · exact List.mem_cons_of_mem _ hq
    · exact hq

/-- Writing to a file, with or without a sync of its data, keeps it as well: only a sync of the
directory makes an entry durable. -/
theorem losable_alter {f : List β → List β} {synced : Bool}
    (h : d.alter n p f synced = some d') (hq : Losable q d) : Losable q d' := by
  obtain ⟨a, b, hsome, hnode, hold⟩ := alter_eq_some h
  rw [Losable, hnode, hold]
  by_cases hqn : q = n :: p
  · subst hqn
    exact .inr (hq.resolve_left (by simp [hsome]))
  · rwa [Function.update_of_ne hqn]

/-- A sync of another directory does nothing for the entry. -/
theorem losable_fsyncDir (h : d.fsyncDir p = some d') (hne : q.tail ≠ p) (hq : Losable q d) :
    Losable q d' := by
  obtain ⟨htree, hold⟩ := fsyncDir_eq_some h
  rw [Losable, htree]
  exact hq.imp_right fun hq => (hold _).mpr ⟨hq, .inr hne⟩

/-- A rename keeps what can be lost, since it forgets no old value. -/
theorem losable_rename (h : d.rename m n p = some d') (hq : Losable q d) : Losable q d' := by
  unfold rename at h
  split at h
  · rename_i a b hnode
    split_ifs at h
    cases h
    dsimp only [Losable, Tree.put, Tree.cut]
    rcases hq with hq | hq
    · by_cases hqn : q = n :: p
      · subst hqn
        simp [hq]
      · rw [Function.update_of_ne hqn]
        by_cases hqm : q = m :: p
        · simp [hqm]
        · rw [Function.update_of_ne hqm]
          exact .inl hq
    · exact .inr (List.mem_cons_of_mem _ (List.mem_cons_of_mem _ hq))
  · cases h

/-- So does a removal. -/
theorem losable_remove (h : d.remove n p = some d') (hq : Losable q d) : Losable q d' := by
  obtain ⟨hnode, hold⟩ := remove_eq_some h
  rw [Losable, hnode, hold]
  by_cases hqn : q = n :: p
  · exact .inl (by rw [hqn, Function.update_self])
  · rw [Function.update_of_ne hqn]
    exact hq.imp_right (List.mem_cons_of_mem _)

/-- Syncing a directory makes its entries durable. -/
theorem not_mem_old_of_fsyncDir (h : d.fsyncDir p = some d') (n : N) (u : Option (Node β)) :
    (n :: p, u) ∉ d'.old := by
  rw [(fsyncDir_eq_some h).2]
  simp

end Operations

end Disk

/-! ### Power loss -/

/-- The value an entry may have after a power loss that leaves the entry itself. -/
def Fades : Option (Node β) → Option (Node β) → Prop
  | none, v => v = none
  | some .dir, v => v = some .dir
  | some (.file a true), v => v = some (.file a true)
  | some (.file _ false), v => ∃ a, v = some (.file a true)

/-- A power loss on `d` may leave the tree `t`: each entry of a directory that is still there
has its present value or an old one. -/
def Loss (d : Disk N β) (t : Tree N β) : Prop :=
  ∀ n p, t.node p = some .dir →
    ∃ u, (u = d.tree.node (n :: p) ∨ (n :: p, u) ∈ d.old) ∧ Fades u (t.node (n :: p))

omit [DecidableEq N] in
/-- A synced file with a synced entry is still there if its directory is. -/
theorem Loss.node_eq {d : Disk N β} {t : Tree N β} (h : Loss d t) {n : N} {p : Path N}
    {a : List β} (hp : t.node p = some .dir) (hnode : d.tree.node (n :: p) = some (.file a true))
    (hold : ∀ u, (n :: p, u) ∉ d.old) : t.node (n :: p) = some (.file a true) := by
  obtain ⟨u, hu | hu, hfades⟩ := h n p hp
  · rw [hu, hnode] at hfades
    exact hfades
  · exact absurd hu (hold u)

/-- The data of a node, taken as synced. -/
def Node.settled : Node β → Node β
  | .dir => .dir
  | .file a _ => .file a true

omit [DecidableEq N] in
/-- A value may be found as programs see it, with its data taken as synced. -/
private theorem fades_settled (v : Option (Node β)) : Fades v (v.map Node.settled) := by
  cases v with
  | none => rfl
  | some v =>
    cases v with
    | dir => rfl
    | file a b =>
      cases b with
      | true => rfl
      | false => exact ⟨a, rfl⟩

/-- The tree without one entry and what is below it. -/
def Tree.without (t : Tree N β) (n : N) (p : Path N) : Tree N β where
  node q := if n :: p <:+ q then none else (t.node q).map Node.settled
  paths := t.paths
  covers q hq := by
    split_ifs at hq with h
    · cases hq
    · exact t.covers q (by simpa using hq)
  root := by
    rw [if_neg (by simp), t.root]
    rfl
  rooted m q hq := by
    split_ifs at hq with h
    · cases hq
    · have hdir := t.rooted m q (by simpa using hq)
      rw [if_neg fun hs => h (hs.trans (List.suffix_cons m q)), hdir]
      rfl

/-- **An entry that is not durable can be lost**, with all that is below it. -/
theorem Disk.loss_without {d : Disk N β} {n : N} {p : Path N} (h : Losable (n :: p) d) :
    Loss d (d.tree.without n p) := by
  intro m q hq
  by_cases hmq : n :: p <:+ m :: q
  · rcases List.suffix_cons_iff.mp hmq with heq | hsuf
    · refine ⟨none, heq ▸ h.imp_left Eq.symm, ?_⟩
      simp [Tree.without, hmq, Fades]
    · simp [Tree.without, hsuf] at hq
  · refine ⟨_, .inl rfl, ?_⟩
    simp only [Tree.without, if_neg hmq]
    exact fades_settled _

end TboxSec.FileSystem
