import TboxSec.CertStore.Recovery

/-!
# What the clean-up leaves

`Platform.swept keepA keepB t` says in one formula what an undisturbed `cleanupOrphans` makes of
the tree `t`: in every directory of `generations` but the two that are kept, the store's own
files are gone, and so is the directory if it was left empty by that. Below the store's file
names nothing is removed, so a directory of that name that is not empty stays.

* `Platform.calm_cleanupOrphans`: the clean-up comes to just this tree.
* `Platform.calm_cleanupOrphans_swept`: cleaning up again changes nothing at all.
* `Platform.readFile_swept`: what is read of the swept tree is what was read before, or nothing.
-/

namespace TboxSec.CertStore

open FileSystem Disk

namespace Platform

variable {P : Platform} {t : Files} {d : Disk Bytes UInt8}

/-! ### The swept tree -/

/-- An entry of a generation that the clean-up can remove: one of the store's files, or an empty
directory of that name. -/
def SweptFile (t : Files) (dir : Path Bytes) (f : Bytes) : Prop :=
  f ∈ orphanFiles ∧ ∀ m, t.node (m :: f :: dir) = none

/-- The clean-up of the directory `dir` takes away the entry `q`. -/
def SweptFrom (t : Files) (dir q : Path Bytes) : Prop :=
  (∃ f, q = f :: dir ∧ SweptFile t dir f) ∨
    q = dir ∧ t.node dir = some .dir ∧ ∀ f, t.node (f :: dir) = none ∨ SweptFile t dir f

/-- The clean-up takes away the entry `q`. -/
def Swept (P : Platform) (keepA keepB : Bytes) (t : Files) (q : Path Bytes) : Prop :=
  ∃ n, (n ≠ keepA ∧ n ≠ keepB) ∧ SweptFrom t (n :: P.generationsDir) q

theorem SweptFrom.of_node {t' : Files} {dir q : Path Bytes}
    (hnode : ∀ q, dir <:+ q → t'.node q = t.node q) :
    SweptFrom t' dir q ↔ SweptFrom t dir q := by
  have hfile : ∀ f, SweptFile t' dir f ↔ SweptFile t dir f := by
    intro f
    have hbelow : ∀ m, dir <:+ m :: f :: dir := fun m =>
      (List.suffix_cons f dir).trans (List.suffix_cons m _)
    simp only [SweptFile, hnode _ (hbelow _)]
  simp only [SweptFrom, hfile, hnode _ (List.suffix_refl dir),
    hnode _ (List.suffix_cons _ dir)]

open Classical in
/-- The tree that the clean-up leaves. -/
noncomputable def swept (P : Platform) (keepA keepB : Bytes) (t : Files) : Files where
  node q := if P.Swept keepA keepB t q then none else t.node q
  paths := t.paths
  covers q hq := by
    split_ifs at hq
    · cases hq
    · exact t.covers q hq
  root := by
    rw [if_neg, t.root]
    rintro ⟨n, -, ⟨f, heq, -⟩ | ⟨heq, -⟩⟩ <;> cases heq
  rooted m q hq := by
    split_ifs at hq with h
    · cases hq
    · rw [if_neg, t.rooted m q hq]
      rintro ⟨n, hn, ⟨f, rfl, hf⟩ | ⟨rfl, -, hall⟩⟩
      · simp [hf.2 m] at hq
      · rcases hall m with hnone | hm
        · simp [hnone] at hq
        · exact h ⟨n, hn, .inl ⟨m, rfl, hm⟩⟩

theorem swept_node_of_not {keepA keepB : Bytes} {q : Path Bytes}
    (h : ¬ P.Swept keepA keepB t q) : (P.swept keepA keepB t).node q = t.node q := if_neg h

theorem swept_node_of_swept {keepA keepB : Bytes} {q : Path Bytes}
    (h : P.Swept keepA keepB t q) : (P.swept keepA keepB t).node q = none := if_pos h

private theorem swept_node (keepA keepB : Bytes) (q : Path Bytes) :
    (P.swept keepA keepB t).node q = t.node q ∨ (P.swept keepA keepB t).node q = none := by
  by_cases h : P.Swept keepA keepB t q
  · exact .inr (if_pos h)
  · exact .inl (if_neg h)

/-! ### An undisturbed clean-up -/

/-- Going from `d` to `d'`, just the entries in `R` are taken away. -/
structure Prunes (R : Set (Path Bytes)) (d d' : Disk Bytes UInt8) : Prop where
  paths : d'.tree.paths = d.tree.paths
  gone : ∀ q ∈ R, d'.tree.node q = none
  kept : ∀ q ∉ R, d'.tree.node q = d.tree.node q

namespace Prunes

variable {R R' : Set (Path Bytes)} {d₁ d₂ d₃ : Disk Bytes UInt8}

private theorem of_empty (hR : ∀ q ∈ R, d.tree.node q = none) : Prunes R d d :=
  ⟨rfl, hR, fun _ _ => rfl⟩

theorem trans (h : Prunes R d₁ d₂) (h' : Prunes R' d₂ d₃) : Prunes (R ∪ R') d₁ d₃ := by
  refine ⟨h'.paths.trans h.paths, fun q hq => ?_, fun q hq => ?_⟩
  · by_cases hq' : q ∈ R'
    · exact h'.gone q hq'
    · rw [h'.kept q hq']
      exact h.gone q (hq.resolve_right hq')
  · rw [Set.mem_union, not_or] at hq
    rw [h'.kept q hq.2, h.kept q hq.1]

/-- Only the entries that are there matter. -/
theorem congr (h : Prunes R d₁ d₂) (hR : ∀ q, d₁.tree.node q ≠ none → (q ∈ R ↔ q ∈ R')) :
    Prunes R' d₁ d₂ := by
  have hnone : ∀ q, d₁.tree.node q = none → d₂.tree.node q = none := by
    intro q hq
    by_cases hqR : q ∈ R
    · exact h.gone q hqR
    · rw [h.kept q hqR, hq]
  refine ⟨h.paths, fun q hq => ?_, fun q hq => ?_⟩
  · by_cases hnode : d₁.tree.node q = none
    · exact hnone q hnode
    · exact h.gone q ((hR q hnode).mpr hq)
  · by_cases hnode : d₁.tree.node q = none
    · rw [hnode, hnone q hnode]
    · exact h.kept q fun hqR => hq ((hR q hnode).mp hqR)

end Prunes

/-- One removal takes the entry away if there is nothing in it. -/
private theorem prunes_remove (name : Bytes) (dir : Path Bytes) (d : Disk Bytes UInt8) :
    Prunes {q | q = name :: dir ∧ ∀ m, d.tree.node (m :: q) = none} d
      ((d.remove name dir).getD d) := by
  cases h : d.remove name dir with
  | none =>
    refine .of_empty fun q hq => ?_
    obtain ⟨rfl, hchildren⟩ := hq
    by_contra hne
    rw [Disk.remove, if_pos (Option.isSome_iff_ne_none.mpr hne),
      dif_pos ((Tree.children_eq_nil_iff _).mpr hchildren)] at h
    cases h
  | some d' =>
    have hnode := (remove_eq_some h).1
    unfold Disk.remove at h
    split_ifs at h with hsome hchildren
    cases h
    have hempty := (Tree.children_eq_nil_iff _).mp hchildren
    refine ⟨rfl, fun q hq => ?_, fun q hq => ?_⟩
    · rw [Option.getD_some, hnode, hq.1, Function.update_self]
    · rw [Option.getD_some, hnode, Function.update_of_ne]
      rintro rfl
      exact hq ⟨rfl, hempty⟩

private theorem calm_removeAll (dir : Path Bytes) (names : List Bytes) (d : Disk Bytes UInt8) :
    ∃ d', Calm (removeAll dir names) d () d' ∧
      Prunes {q | ∃ f ∈ names, q = f :: dir ∧ ∀ m, d.tree.node (m :: q) = none} d d' := by
  induction names generalizing d with
  | nil => exact ⟨d, calm_pure () d, .of_empty (by simp)⟩
  | cons name rest ih =>
    have hfirst := prunes_remove name dir d
    obtain ⟨d', hcalm, hrest⟩ := ih ((d.remove name dir).getD d)
    refine ⟨d', (calm_attempt (·.remove name dir) d).bind hcalm, ?_⟩
    -- what is below an entry of the directory stays while its neighbours go
    have hbelow : ∀ f m, ((d.remove name dir).getD d).tree.node (m :: f :: dir) =
        d.tree.node (m :: f :: dir) := by
      intro f m
      refine hfirst.kept _ ?_
      rintro ⟨heq, -⟩
      have hlength := congrArg List.length heq
      simp at hlength
    refine (hfirst.trans hrest).congr fun q _ => ?_
    constructor
    · rintro (⟨rfl, hempty⟩ | ⟨f, hf, rfl, hempty⟩)
      · exact ⟨name, List.mem_cons_self .., rfl, hempty⟩
      · exact ⟨f, List.mem_cons_of_mem _ hf, rfl, fun m => (hbelow f m).symm.trans (hempty m)⟩
    · rintro ⟨f, hf, rfl, hempty⟩
      rcases List.mem_cons.mp hf with rfl | hf
      · exact .inl ⟨rfl, hempty⟩
      · exact .inr ⟨f, hf, rfl, fun m => (hbelow f m).trans (hempty m)⟩

private theorem calm_removeGeneration (n : Bytes) (d : Disk Bytes UInt8) :
    ∃ d', Calm (P.removeGeneration n) d () d' ∧
      Prunes {q | SweptFrom d.tree (n :: P.generationsDir) q} d d' := by
  have hlook := calm_look
    (fun t : Files => decide (t.node (n :: P.generationsDir) = some .dir)) d
  by_cases hdir : d.tree.node (n :: P.generationsDir) = some .dir
  · rw [decide_eq_true hdir] at hlook
    obtain ⟨d₁, hcalm, hfiles⟩ := calm_removeAll (n :: P.generationsDir) orphanFiles d
    refine ⟨_, hlook.bind (hcalm.bind ((calm_attempt (·.rmdir n P.generationsDir) d₁).bind
      (calm_pure () _))), ?_⟩
    have hdir₁ : d₁.tree.node (n :: P.generationsDir) = some .dir := by
      rw [hfiles.kept, hdir]
      rintro ⟨f, -, heq, -⟩
      exact List.cons_ne_self _ _ heq.symm
    have hrmdir : d₁.rmdir n P.generationsDir = d₁.remove n P.generationsDir := if_pos hdir₁
    rw [hrmdir]
    -- nothing is left in the directory just if all of it was the store's own
    have hempty : (∀ f, d₁.tree.node (f :: n :: P.generationsDir) = none) ↔
        ∀ f, d.tree.node (f :: n :: P.generationsDir) = none ∨
          SweptFile d.tree (n :: P.generationsDir) f := by
      refine forall_congr' fun f => ?_
      by_cases hf : SweptFile d.tree (n :: P.generationsDir) f
      · have hgone := hfiles.gone _ ⟨f, hf.1, rfl, hf.2⟩
        simp [hf, hgone]
      · rw [hfiles.kept]
        · simp [hf]
        · rintro ⟨f', hf', heq, hchildren⟩
          obtain ⟨rfl, -⟩ := List.cons_eq_cons.mp heq
          exact hf ⟨hf', hchildren⟩
    refine (hfiles.trans (prunes_remove n P.generationsDir d₁)).congr fun q _ => ?_
    constructor
    · rintro (⟨f, hf, rfl, hchildren⟩ | ⟨rfl, hchildren⟩)
      · exact .inl ⟨f, rfl, hf, hchildren⟩
      · exact .inr ⟨rfl, hdir, hempty.mp hchildren⟩
    · rintro (⟨f, rfl, hf⟩ | ⟨rfl, -, hall⟩)
      · exact .inl ⟨f, hf.1, rfl, hf.2⟩
      · exact .inr ⟨rfl, hempty.mpr hall⟩
  · rw [decide_eq_false hdir] at hlook
    refine ⟨d, hlook.bind (calm_pure () d), .of_empty ?_⟩
    rintro q (⟨f, rfl, -⟩ | ⟨-, hsome, -⟩)
    · exact Tree.node_cons_of_not_dir hdir f
    · exact absurd hsome hdir

private theorem calm_cleanupNames {keepA keepB : Bytes} {names : List Bytes} (hnodup : names.Nodup)
    (d : Disk Bytes UInt8) :
    ∃ d', Calm (P.cleanupNames keepA keepB names) d () d' ∧
      Prunes {q | ∃ n ∈ names, (n ≠ keepA ∧ n ≠ keepB) ∧
        SweptFrom d.tree (n :: P.generationsDir) q} d d' := by
  induction names generalizing d with
  | nil => exact ⟨d, calm_pure () d, .of_empty (by simp)⟩
  | cons n rest ih =>
    obtain ⟨hn, hrest⟩ := List.nodup_cons.mp hnodup
    rw [cleanupNames]
    by_cases hkeep : n ≠ keepA ∧ n ≠ keepB
    · rw [if_pos hkeep]
      obtain ⟨d₁, hcalm₁, hprune₁⟩ := calm_removeGeneration (P := P) n d
      obtain ⟨d₂, hcalm₂, hprune₂⟩ := ih hrest d₁
      refine ⟨d₂, hcalm₁.bind hcalm₂, ?_⟩
      -- the clean-up of one directory leaves the others
      have hother : ∀ m ∈ rest, ∀ q, SweptFrom d₁.tree (m :: P.generationsDir) q ↔
          SweptFrom d.tree (m :: P.generationsDir) q := by
        intro m hm q
        refine SweptFrom.of_node fun q hq => hprune₁.kept q fun hswept => ?_
        have hsuffix : n :: P.generationsDir <:+ q := by
          rcases hswept with ⟨f, rfl, -⟩ | ⟨rfl, -⟩
          · exact List.suffix_cons _ _
          · exact List.suffix_refl _
        have heq := (List.suffix_of_suffix_length_le hsuffix hq (by simp)).eq_of_length (by simp)
        exact hn ((List.cons_eq_cons.mp heq).1 ▸ hm)
      refine (hprune₁.trans hprune₂).congr fun q _ => ?_
      constructor
      · rintro (hswept | ⟨m, hm, hkeepm, hswept⟩)
        · exact ⟨n, List.mem_cons_self .., hkeep, hswept⟩
        · exact ⟨m, List.mem_cons_of_mem _ hm, hkeepm, (hother m hm q).mp hswept⟩
      · rintro ⟨m, hm, hkeepm, hswept⟩
        rcases List.mem_cons.mp hm with rfl | hm
        · exact .inl hswept
        · exact .inr ⟨m, hm, hkeepm, (hother m hm q).mpr hswept⟩
    · rw [if_neg hkeep]
      obtain ⟨d', hcalm, hprune⟩ := ih hrest d
      refine ⟨d', hcalm, hprune.congr fun q _ => ?_⟩
      constructor
      · rintro ⟨m, hm, hswept⟩
        exact ⟨m, List.mem_cons_of_mem _ hm, hswept⟩
      · rintro ⟨m, hm, hkeepm, hswept⟩
        rcases List.mem_cons.mp hm with rfl | hm
        · exact absurd hkeepm hkeep
        · exact ⟨m, hm, hkeepm, hswept⟩

/-- **The clean-up comes to the swept tree.** -/
theorem calm_cleanupOrphans (e : Env) (keepA keepB : Bytes) (d : Disk Bytes UInt8) :
    ∃ d', Calm (P.cleanupOrphans e keepA keepB) d () d' ∧
      d'.tree = P.swept keepA keepB d.tree := by
  have hperm := e.listing_perm (d.tree.children P.generationsDir)
  obtain ⟨d', hcalm, hprune⟩ := @calm_cleanupNames P keepA keepB _
    (hperm.nodup_iff.mpr (d.tree.nodup_children _)) d
  refine ⟨d', (calm_look _ d).bind hcalm, Tree.ext ?_ hprune.paths⟩
  have hswept : Prunes {q | P.Swept keepA keepB d.tree q} d d' := by
    refine hprune.congr fun q hq => ?_
    constructor
    · rintro ⟨n, -, hn⟩
      exact ⟨n, hn⟩
    · rintro ⟨n, hkeep, hn⟩
      refine ⟨n, ?_, hkeep, hn⟩
      rw [hperm.mem_iff, Tree.mem_children]
      rcases hn with ⟨f, rfl, -⟩ | ⟨rfl, hdir, -⟩
      · exact Option.isSome_of_eq_some (d.tree.rooted f _ (Option.isSome_iff_ne_none.mpr hq))
      · exact Option.isSome_of_eq_some hdir
  funext q
  by_cases hq : P.Swept keepA keepB d.tree q
  · rw [hswept.gone q hq]
    exact (if_pos hq).symm
  · rw [hswept.kept q hq, swept_node_of_not hq]

/-! ### Cleaning up again -/

private theorem remove_eq_none {n : Bytes} {p : Path Bytes}
    (h : d.tree.node (n :: p) ≠ none → ∃ m, d.tree.node (m :: n :: p) ≠ none) :
    d.remove n p = none := by
  unfold Disk.remove
  split_ifs with hsome hchildren
  · obtain ⟨m, hm⟩ := h (Option.isSome_iff_ne_none.mp hsome)
    exact absurd ((Tree.children_eq_nil_iff _).mp hchildren m) hm
  · rfl
  · rfl

theorem calm_attempt_none (op : Disk Bytes UInt8 → Option (Disk Bytes UInt8))
    (h : op d = none) : Calm (attempt op) d false d := by
  have hcalm := calm_attempt op d
  rwa [h] at hcalm

private theorem calm_removeAll_none {dir : Path Bytes} {names : List Bytes}
    (h : ∀ f ∈ names, d.remove f dir = none) : Calm (removeAll dir names) d () d := by
  induction names with
  | nil => exact calm_pure () d
  | cons name rest ih =>
    have hname : d.remove name dir = none := h name (List.mem_cons_self ..)
    refine Calm.bind (calm_attempt_none (·.remove name dir) hname) (ih fun f hf => ?_)
    exact h f (List.mem_cons_of_mem _ hf)

/-- Of a directory that was swept, nothing more is removed. -/
private theorem calm_removeGeneration_swept {keepA keepB n : Bytes} (hn : n ≠ keepA ∧ n ≠ keepB)
    (hd : d.tree = P.swept keepA keepB t) :
    Calm (P.removeGeneration n) d () d := by
  have hlook := calm_look
    (fun t : Files => decide (t.node (n :: P.generationsDir) = some .dir)) d
  by_cases hdir : d.tree.node (n :: P.generationsDir) = some .dir
  swap
  · rw [decide_eq_false hdir] at hlook
    exact hlook.bind (calm_pure () d)
  rw [decide_eq_true hdir] at hlook
  have hpresent : ∀ q, d.tree.node q ≠ none → ¬ P.Swept keepA keepB t q := by
    intro q hq hswept
    rw [hd] at hq
    exact hq (if_pos hswept)
  have hkept : ∀ q, ¬ P.Swept keepA keepB t q → d.tree.node q = t.node q := by
    intro q hq
    rw [hd, swept_node_of_not hq]
  have hfiles : ∀ f, d.tree.node (f :: n :: P.generationsDir) ≠ none →
      ¬ SweptFile t (n :: P.generationsDir) f := fun f hf hswept =>
    hpresent _ hf ⟨n, hn, .inl ⟨f, rfl, hswept⟩⟩
  -- what is below an entry of the directory is never swept
  have hbelow : ∀ m f, ¬ P.Swept keepA keepB t (m :: f :: n :: P.generationsDir) := by
    rintro m f ⟨n', -, ⟨f', heq, -⟩ | ⟨heq, -⟩⟩ <;>
    · have hlength := congrArg List.length heq
      simp only [List.length_cons] at hlength
      omega
  have hremove : ∀ f ∈ orphanFiles, d.remove f (n :: P.generationsDir) = none := by
    intro f hf
    refine remove_eq_none fun hnode => ?_
    by_contra hchildren
    push Not at hchildren
    refine hfiles f hnode ⟨hf, fun m => ?_⟩
    rw [← hkept _ (hbelow m f)]
    exact hchildren m
  have hrmdir : d.rmdir n P.generationsDir = none := by
    rw [Disk.rmdir, if_pos hdir]
    refine remove_eq_none fun hnode => ?_
    by_contra hchildren
    push Not at hchildren
    refine hpresent _ hnode ⟨n, hn, .inr ⟨rfl, ?_, fun f => ?_⟩⟩
    · rw [← hkept _ (hpresent _ hnode), hdir]
    · by_contra hf
      rw [not_or] at hf
      have hkeptf : ¬ P.Swept keepA keepB t (f :: n :: P.generationsDir) := by
        rintro ⟨n', hn', ⟨f', heq, hswept⟩ | ⟨heq, -⟩⟩
        · obtain ⟨rfl, htail⟩ := List.cons_eq_cons.mp heq
          obtain ⟨rfl, -⟩ := List.cons_eq_cons.mp htail
          exact hf.2 hswept
        · have hlength := congrArg List.length heq
          simp at hlength
      exact hf.1 ((hkept _ hkeptf).symm.trans (hchildren f))
  exact hlook.bind ((calm_removeAll_none hremove).bind
    ((calm_attempt_none (·.rmdir n P.generationsDir) hrmdir).bind (calm_pure () d)))

/-- **Cleaning up again changes nothing.** -/
theorem calm_cleanupOrphans_swept (e : Env) {keepA keepB : Bytes}
    (hd : d.tree = P.swept keepA keepB t) :
    Calm (P.cleanupOrphans e keepA keepB) d () d := by
  refine (calm_look (fun t => e.listing (t.children P.generationsDir)) d).bind ?_
  generalize e.listing (d.tree.children P.generationsDir) = names
  induction names with
  | nil => exact calm_pure () d
  | cons n rest ih =>
    rw [cleanupNames]
    split_ifs with hkeep
    · exact (calm_removeGeneration_swept hkeep hd).bind ih
    · exact ih

/-! ### Reading after the clean-up -/

private theorem walk_swept {keepA keepB : Bytes} (p : Path Bytes) (hs : List (Hop Bytes)) :
    (P.swept keepA keepB t).walk p hs = t.walk p hs ∨
      (P.swept keepA keepB t).walk p hs = none := by
  induction hs generalizing p with
  | nil => exact .inl rfl
  | cons h hs ih =>
    simp only [Tree.walk]
    rcases swept_node (P := P) (t := t) keepA keepB p with heq | hnone
    · rw [heq]
      by_cases hdir : t.node p = some .dir
      · simp only [if_pos hdir]
        exact ih _
      · exact .inr (if_neg hdir)
    · rw [hnone, if_neg (by simp)]
      exact .inr rfl

/-- What is read after the clean-up is what was read before it, or nothing. -/
theorem readFile_swept (keepA keepB text : Bytes) :
    P.readFile (P.swept keepA keepB t) text = P.readFile t text ∨
      P.readFile (P.swept keepA keepB t) text = some [] := by
  unfold readFile
  rcases @walk_swept P t keepA keepB P.generationsDir (hops text) with hwalk | hwalk
  · rw [hwalk]
    cases t.walk P.generationsDir (hops text) with
    | none => exact .inl rfl
    | some q =>
      rcases swept_node (P := P) (t := t) keepA keepB q with heq | hnone
      · exact .inl (congrArg readNode heq)
      · exact .inr (congrArg readNode hnone)
  · rw [hwalk]
    exact .inr rfl

end Platform

end TboxSec.CertStore
