import TboxSec.CertStore.Atomicity
import TboxSec.CertStore.Cleanup

/-!
# Recovering again

The fall-back of `openAndRecover` follows links that are stored in the generations it passes
over, and the clean-up at its end removes all generations but the one it has found and that
one's predecessor, while `CURRENT` stays as it was.

* `Platform.Walk`: the generations that a search passes over, and the one it finds.
* `Platform.Settled`: all that the walk needs is still there after the clean-up.
* `Platform.recovery_stable_iff`: later recoveries find the same generation if and only if the
  first one was settled. Among names such as the store writes, that is: `CURRENT` was followed
  directly, or the walk passed over one generation, the predecessor of the one it found.
-/

namespace TboxSec.CertStore

open FileSystem

namespace Platform

variable {P : Platform} {t : Files} {d d' : Disk Bytes UInt8} {g : Generation}

/-! ### The walk of a search -/

/-- From the id `p` on, the search passes over the generations `passed` and finds `g`. -/
inductive Walk (P : Platform) (t : Files) : Bytes → List Bytes → Generation → Prop
  | here {p : Bytes} {g : Generation} :
    P.loadGeneration t p = some (some g) → Walk P t p [] g
  | on {p q : Bytes} {passed : List Bytes} {g : Generation} :
    P.loadGeneration t p = some none → P.previousOf t p = some q → q ≠ [] →
      Walk P t q passed g → Walk P t p (p :: passed) g

/-- The generation at the end of a walk loads under its own id. -/
theorem Walk.load {p : Bytes} {passed : List Bytes} (h : P.Walk t p passed g) :
    P.loadGeneration t g.generationId = some (some g) := by
  induction h with
  | here hload =>
    rw [(load_eq_some hload).1]
    exact hload
  | on _ _ _ _ ih => exact ih

/-- What is passed over does not load. -/
private theorem Walk.load_of_mem {p q : Bytes} {passed : List Bytes} (h : P.Walk t p passed g)
    (hq : q ∈ passed) : P.loadGeneration t q = some none := by
  induction h with
  | here => cases hq
  | on hload _ _ _ ih =>
    rcases List.mem_cons.mp hq with rfl | hq
    · exact hload
    · exact ih hq

/-- There is one walk only. -/
theorem Walk.unique {p : Bytes} {passed passed' : List Bytes} {g' : Generation}
    (h : P.Walk t p passed g) (h' : P.Walk t p passed' g') : passed = passed' ∧ g = g' := by
  induction h generalizing passed' with
  | here hload =>
    cases h' with
    | here hload' =>
      rw [hload] at hload'
      exact ⟨rfl, Option.some.inj (Option.some.inj hload')⟩
    | on hload' =>
      rw [hload] at hload'
      cases hload'
  | on hload hprev _ _ ih =>
    cases h' with
    | here hload' =>
      rw [hload] at hload'
      cases hload'
    | on _ hprev' _ hwalk' =>
      rw [hprev] at hprev'
      obtain rfl := Option.some.inj hprev'
      obtain ⟨rfl, rfl⟩ := ih hwalk'
      exact ⟨rfl, rfl⟩

/-- The loop of the fall-back finds a generation exactly where a walk leads to it within the fuel.
-/
private theorem fallBack_eq_found_iff {fuel : ℕ} {p : Bytes} :
    P.fallBack t fuel p = .found g ↔
      p ≠ [] ∧ ∃ passed, P.Walk t p passed g ∧ passed.length < fuel := by
  induction fuel generalizing p with
  | zero =>
    rw [fallBack]
    split_ifs <;> simp
  | succ fuel ih =>
    rw [fallBack]
    by_cases hp : p = []
    · simp [hp]
    rw [if_neg hp]
    constructor
    · intro h
      refine ⟨hp, ?_⟩
      split at h
      · cases h
      · rename_i g' hload
        cases h
        exact ⟨[], .here hload, by simp⟩
      · rename_i hload
        split at h
        · cases h
        · rename_i next hprev
          obtain ⟨hnext, passed, hwalk, hlength⟩ := ih.mp h
          exact ⟨p :: passed, .on hload hprev hnext hwalk, by simpa using hlength⟩
    · rintro ⟨-, passed, hwalk, hlength⟩
      cases hwalk with
      | here hload => rw [hload]
      | on hload hprev hnext hwalk =>
        rw [hload, hprev]
        exact ih.mpr ⟨hnext, _, hwalk, by simpa using hlength⟩

/-- The search finds a generation exactly where a walk leads to it that is no longer than there are
files. -/
private theorem search_eq_found_iff {ptr : Bytes} :
    P.search t ptr = .found g ↔
      ∃ passed, P.Walk t ptr passed g ∧ passed.length ≤ t.paths.length := by
  rw [search]
  constructor
  · intro h
    split at h
    · cases h
    · rename_i g' hload
      cases h
      exact ⟨[], .here hload, by simp⟩
    · rename_i hload
      split at h
      · cases h
      · rename_i prev hprev
        obtain ⟨hne, passed, hwalk, hlength⟩ := fallBack_eq_found_iff.mp h
        exact ⟨ptr :: passed, .on hload hprev hne hwalk, by simpa using hlength⟩
  · rintro ⟨passed, hwalk, hlength⟩
    cases hwalk with
    | here hload => rw [hload]
    | on hload hprev hne hwalk =>
      rw [hload, hprev]
      exact fallBack_eq_found_iff.mpr ⟨hne, _, hwalk, by simpa using hlength⟩

/-! ### An undisturbed opening -/

/-- A directory that stands is not made again. -/
private theorem calm_makeDirs_of_dir {path : Path Bytes} (h : d.tree.node path = some .dir) :
    Calm (makeDirs path) d true d := by
  have hmkdirs : ∀ path : Path Bytes, d.tree.node path = some .dir →
      Calm (makeDirs.mkdirs path) d () d := by
    intro path
    induction path with
    | nil => exact fun _ => calm_pure () d
    | cons n p ih =>
      intro hdir
      have hnone : d.mkdir n p = none := by
        simp [Disk.mkdir, hdir]
      exact (ih (d.tree.rooted n p (Option.isSome_of_eq_some hdir))).bind
        ((calm_attempt_none (·.mkdir n p) hnone).bind (calm_pure () d))
  have hlook := calm_look (fun t : Files => decide (t.node path = some .dir)) d
  rw [decide_eq_true h] at hlook
  exact (hmkdirs path h).bind hlook

/-- Where the search finds a generation, recovery serves it and cleans up behind it. -/
private theorem calm_open_found {e : Env} {st : Store} {ptr : Bytes}
    (hgens : d.tree.node P.generationsDir = some .dir)
    (hptr : P.readCurrentPointer d.tree = some (some ptr))
    (hsearch : P.search d.tree ptr = .found g)
    (hclean : Calm (P.cleanupOrphans e g.generationId g.previousGeneration) d () d') :
    Calm (P.openAndRecover e st) d (.returned true, ⟨some g, true⟩) d' := by
  have hlook := calm_look P.readCurrentPointer d
  rw [hptr] at hlook
  have hfind := calm_look (fun t => P.search t ptr) d
  rw [hsearch] at hfind
  exact (calm_makeDirs_of_dir hgens).bind
    (hlook.bind (hfind.bind (hclean.bind (calm_pure _ _))))

/-- How an undisturbed opening has come to adopt a generation. -/
private theorem open_found_inv {e : Env} {st : Store}
    (hgens : d.tree.node P.generationsDir = some .dir)
    (hopen : Calm (P.openAndRecover e st) d (.returned true, ⟨some g, true⟩) d') :
    ∃ ptr, P.readCurrentPointer d.tree = some (some ptr) ∧ P.search d.tree ptr = .found g ∧
      Calm (P.cleanupOrphans e g.generationId g.previousGeneration) d () d' := by
  have hmake : Calm (makeDirs P.generationsDir) d true d := calm_makeDirs_of_dir hgens
  have hlook := calm_look P.readCurrentPointer d
  match hptr : P.readCurrentPointer d.tree with
  | none =>
    rw [hptr] at hlook
    have hother := (hmake.bind (hlook.bind (calm_pure (Opened.threw, st) d))).unique hopen
    cases hother.1
  | some none =>
    rw [hptr] at hlook
    obtain ⟨_, d₁, hclean⟩ := finishes_cleanupOrphans (P := P) e [] [] d
    have hother := (hmake.bind (hlook.bind (hclean.bind
      (calm_pure (Opened.returned true, (⟨none, true⟩ : Store)) d₁)))).unique hopen
    cases hother.1
  | some (some ptr) =>
    rw [hptr] at hlook
    have hfind := calm_look (fun t => P.search t ptr) d
    cases hsearch : P.search d.tree ptr with
    | found g' =>
      obtain ⟨_, d₁, hclean⟩ :=
        finishes_cleanupOrphans (P := P) e g'.generationId g'.previousGeneration d
      have hsame := (@calm_open_found P d d₁ g' e st ptr hgens hptr hsearch hclean).unique hopen
      obtain ⟨hvalue, rfl⟩ := hsame
      cases hvalue
      exact ⟨ptr, rfl, hsearch, hclean⟩
    | exhausted =>
      rw [hsearch] at hfind
      obtain ⟨_, d₁, hclean⟩ := finishes_cleanupOrphans (P := P) e [] [] d
      have hother := (hmake.bind (hlook.bind (hfind.bind (hclean.bind
        (calm_pure (Opened.returned false, { st with recovered := false }) d₁))))).unique hopen
      cases hother.1
    | threw =>
      rw [hsearch] at hfind
      have hother := (hmake.bind (hlook.bind (hfind.bind
        (calm_pure (Opened.threw, st) d)))).unique hopen
      cases hother.1
    | endless =>
      rw [hsearch] at hfind
      have hother := (hmake.bind (hlook.bind (hfind.bind
        (calm_pure (Opened.endless, st) d)))).unique hopen
      cases hother.1

/-! ### The walk after the clean-up -/

/-- The clean-up removes nothing above the generations. -/
private theorem not_swept_of_length {keepA keepB : Bytes} {q : Path Bytes}
    (h : q.length ≤ P.generationsDir.length) : ¬ P.Swept keepA keepB t q := by
  rintro ⟨n, -, ⟨f, rfl, -⟩ | ⟨rfl, -⟩⟩ <;>
  · simp only [List.length_cons] at h
    omega

/-- So it leaves the pointer alone. -/
private theorem readCurrentPointer_swept (keepA keepB : Bytes) :
    P.readCurrentPointer (P.swept keepA keepB t) = P.readCurrentPointer t := by
  rw [readCurrentPointer, readCurrentPointer, swept_node_of_not (not_swept_of_length (by rfl))]

/-- A walk through the swept tree is the walk through the tree, with its manifests spared. -/
private theorem Walk.of_swept {keepA keepB p : Bytes} {passed passed' : List Bytes}
    (h' : P.Walk (P.swept keepA keepB t) p passed' g) (h : P.Walk t p passed g) :
    passed' = passed ∧ ∀ q ∈ passed,
      P.readFile (P.swept keepA keepB t) (dirJoin q kManifestName) =
          P.readFile t (dirJoin q kManifestName) ∧
        P.loadGeneration (P.swept keepA keepB t) q = some none := by
  induction h' generalizing passed with
  | here hload' =>
    cases h with
    | here => exact ⟨rfl, by simp⟩
    | on hload _ _ hwalk =>
      have hid := (load_eq_some hload').1
      rw [← hid, hwalk.load] at hload
      cases hload
  | on hload' hprev' hne' hwalk' ih =>
    rename_i p q passed₁ g₁
    cases h with
    | here hload =>
      have hid := (load_eq_some hload).1
      rw [← hid, hwalk'.load] at hload'
      cases hload'
    | on hload hprev hne hwalk =>
      rename_i q' passed₂
      -- the link is still there, so the manifest is
      have hread : P.readFile (P.swept keepA keepB t) (dirJoin p kManifestName) =
          P.readFile t (dirJoin p kManifestName) := by
        refine (readFile_swept keepA keepB _).resolve_right fun hempty => hne' ?_
        rw [previousOf, hempty] at hprev'
        exact (Option.some.inj hprev').symm
      have hq : q = q' := by
        rw [previousOf, hread, ← previousOf, hprev] at hprev'
        exact (Option.some.inj hprev').symm
      subst hq
      obtain ⟨rfl, hall⟩ := ih hwalk
      refine ⟨rfl, fun r hr => ?_⟩
      rcases List.mem_cons.mp hr with rfl | hr
      · exact ⟨hread, hload'⟩
      · exact hall r hr

/-- The walk is still there if its manifests are and what was passed over still does not load. -/
theorem Walk.swept {keepA keepB p : Bytes} {passed : List Bytes} (h : P.Walk t p passed g)
    (hpassed : ∀ q ∈ passed,
      P.readFile (P.swept keepA keepB t) (dirJoin q kManifestName) =
          P.readFile t (dirJoin q kManifestName) ∧
        P.loadGeneration (P.swept keepA keepB t) q = some none)
    (hload : P.loadGeneration (P.swept keepA keepB t) g.generationId = some (some g)) :
    P.Walk (P.swept keepA keepB t) p passed g := by
  induction h with
  | here hfirst =>
    rw [(load_eq_some hfirst).1] at hload
    exact .here hload
  | on hfirst hprev hne hwalk ih =>
    rename_i p q passed g
    obtain ⟨hread, hnone⟩ := hpassed p (List.mem_cons_self ..)
    refine .on hnone ?_ hne (ih (fun r hr => hpassed r (List.mem_cons_of_mem _ hr)) hload)
    rw [previousOf, hread, ← previousOf, hprev]

/-! ### Stability -/

/-- The disk after an undisturbed opening by a new store. -/
def afterOpen (P : Platform) (d : Disk Bytes UInt8) (e : Env) : Disk Bytes UInt8 :=
  match P.openAndRecover e .fresh ⟨d, []⟩ with
  | .done _ s => s.disk
  | .crashed d => d

/-- Every later opening by a new store finds `g`, however many came before it. -/
def Stable (P : Platform) (d : Disk Bytes UInt8) (g : Generation) : Prop :=
  ∀ (es : List Env) (e : Env), ∃ d',
    Calm (P.openAndRecover e .fresh) (es.foldl P.afterOpen d) (.returned true, ⟨some g, true⟩) d'

/-- The recovery of `g` has left what it needs: with the store's files gone from all directories
but the one of `g` and the one of its predecessor, the manifests of the generations passed over
are the same, these still do not load, and `g` still does. -/
def Settled (P : Platform) (t : Files) (g : Generation) : Prop :=
  t.node P.generationsDir = some .dir →
    ∃ ptr passed, P.readCurrentPointer t = some (some ptr) ∧ P.Walk t ptr passed g ∧
      (∀ p ∈ passed,
        P.readFile (P.swept g.generationId g.previousGeneration t) (dirJoin p kManifestName) =
            P.readFile t (dirJoin p kManifestName) ∧
          P.loadGeneration (P.swept g.generationId g.previousGeneration t) p = some none) ∧
      P.loadGeneration (P.swept g.generationId g.previousGeneration t) g.generationId =
        some (some g)

/-- An opening that leaves the disk alone is stable. -/
private theorem stable_of_calm (h : ∀ e, Calm (P.openAndRecover e .fresh) d
    (.returned true, ⟨some g, true⟩) d) : P.Stable d g := by
  intro es e
  have hafter : es.foldl P.afterOpen d = d := by
    induction es with
    | nil => rfl
    | cons e' es ih =>
      have hfirst : P.afterOpen d e' = d := by
        rw [afterOpen, h e']
      rw [List.foldl_cons, hfirst, ih]
  rw [hafter]
  exact ⟨d, h e⟩

/-- The equivalence where the directory of the generations stands. -/
private theorem stable_iff_of_dir {e : Env} {st : Store}
    (hgens : d.tree.node P.generationsDir = some .dir)
    (hopen : Calm (P.openAndRecover e st) d (.returned true, ⟨some g, true⟩) d') :
    P.Stable d' g ↔ P.Settled d.tree g := by
  obtain ⟨ptr, hptr, hsearch, hclean⟩ := open_found_inv hgens hopen
  obtain ⟨passed, hwalk, hlength⟩ := search_eq_found_iff.mp hsearch
  have htree : d'.tree = P.swept g.generationId g.previousGeneration d.tree := by
    obtain ⟨d₁, hclean₁, htree⟩ :=
      calm_cleanupOrphans (P := P) e g.generationId g.previousGeneration d
    rw [(hclean.unique hclean₁).2, htree]
  have hgens' : d'.tree.node P.generationsDir = some .dir := by
    rw [htree, swept_node_of_not (not_swept_of_length le_rfl), hgens]
  have hptr' : P.readCurrentPointer d'.tree = some (some ptr) := by
    rw [htree, readCurrentPointer_swept, hptr]
  constructor
  · intro hstable _
    obtain ⟨d₂, hopen₂⟩ := hstable [] e
    obtain ⟨ptr₂, hptr₂, hsearch₂, -⟩ := open_found_inv hgens' hopen₂
    rw [hptr'] at hptr₂
    obtain rfl := Option.some.inj (Option.some.inj hptr₂)
    obtain ⟨passed₂, hwalk₂, -⟩ := search_eq_found_iff.mp hsearch₂
    rw [htree] at hwalk₂
    exact ⟨ptr, passed, hptr, hwalk, (hwalk₂.of_swept hwalk).2, hwalk₂.load⟩
  · intro hsettled
    obtain ⟨ptr₂, passed₂, hptr₂, hwalk₂, hpassed, hload⟩ := hsettled hgens
    rw [hptr] at hptr₂
    obtain rfl := Option.some.inj (Option.some.inj hptr₂)
    obtain ⟨rfl, -⟩ := hwalk₂.unique hwalk
    have hsearch' : P.search d'.tree ptr = .found g := by
      rw [htree]
      exact search_eq_found_iff.mpr ⟨passed₂, hwalk.swept hpassed hload, hlength⟩
    exact stable_of_calm fun e' =>
      calm_open_found hgens' hptr' hsearch' (calm_cleanupOrphans_swept e' htree)

/-- In a tree with nothing in `generations` the clean-up has nothing to do. -/
private theorem swept_eq_self {keepA keepB : Bytes}
    (h : ∀ n, t.node (n :: P.generationsDir) = none) : P.swept keepA keepB t = t := by
  refine Tree.ext (funext fun q => ?_) rfl
  by_cases hq : P.Swept keepA keepB t q
  · have hnone : t.node q = none := by
      obtain ⟨n, -, ⟨f, rfl, -⟩ | ⟨rfl, -⟩⟩ := hq
      · exact Tree.node_cons_of_not_dir (by simp [h n]) f
      · exact h n
    rw [hnone]
    exact if_pos hq
  · exact swept_node_of_not hq

/-- Later recoveries find the same generation if and only if the first was settled. -/
private theorem stable_iff_settled {e : Env} {st : Store}
    (hopen : Calm (P.openAndRecover e st) d (.returned true, ⟨some g, true⟩) d') :
    P.Stable d' g ↔ P.Settled d.tree g := by
  by_cases hgens : d.tree.node P.generationsDir = some .dir
  · exact stable_iff_of_dir hgens hopen
  refine iff_of_true ?_ fun h => absurd h hgens
  -- `generations` was made by this very call, and there is nothing in it
  obtain ⟨d₁, hmake, hgens₁⟩ : ∃ d₁, Calm (makeDirs P.generationsDir) d true d₁ ∧
      d₁.tree.node P.generationsDir = some .dir := by
    obtain ⟨b, d₁, hmake⟩ := finishes_makeDirs P.generationsDir d
    have hdir := (hmake.of_ensures (ensures_makeDirs _)).2
    cases b with
    | true => exact ⟨d₁, hmake, hdir.mp rfl⟩
    | false =>
      have hother := (hmake.bind (calm_pure (Opened.returned false, st) d₁)).unique hopen
      cases hother.1
  have hgrows := (hmake.of_ensures (ensures_makeDirs _)).1
  have hempty : ∀ n, d₁.tree.node (n :: P.generationsDir) = none := by
    intro n
    rw [hgrows.touches.node]
    · exact Tree.node_cons_of_not_dir hgens n
    · intro hmade
      have hlength := List.IsSuffix.length_le hmade
      simp at hlength
  have hopen₁ : Calm (P.openAndRecover e st) d₁ (.returned true, ⟨some g, true⟩) d' :=
    (calm_makeDirs_of_dir hgens₁).bind (hmake.rest hopen)
  obtain ⟨ptr, hptr, hsearch, -⟩ := open_found_inv hgens₁ hopen₁
  obtain ⟨passed, hwalk, -⟩ := search_eq_found_iff.mp hsearch
  refine (stable_iff_of_dir hgens₁ hopen₁).mpr fun _ => ⟨ptr, passed, hptr, hwalk, ?_⟩
  rw [swept_eq_self hempty]
  exact ⟨fun q hq => ⟨rfl, hwalk.load_of_mem hq⟩, hwalk.load⟩

/-! ### Names such as the store writes -/

/-- The generation `p`, and the files that it lists, have plain names. -/
structure Tidy (P : Platform) (t : Files) (p : Bytes) : Prop where
  name : Plain p
  files : ∀ s m fields, P.readFile t (dirJoin p kManifestName) = some s →
    P.json.parse s = some m → m.field? (textBytes "files") = some (.obj fields) →
      ∀ f ∈ fields.map Prod.fst, Plain f

/-- The check of the files of a generation depends on the files that its manifest lists. -/
private theorem checkFiles_congr {t' : Files} {dir : Bytes} {fields : List (Bytes × Json Bytes)}
    {chain : Bytes} {deviceCert : Json Bytes}
    (h : ∀ f ∈ fields.map Prod.fst,
      P.readFile t' (dirJoin dir f) = P.readFile t (dirJoin dir f)) :
    P.checkFiles t' dir fields chain deviceCert = P.checkFiles t dir fields chain deviceCert := by
  induction fields generalizing chain deviceCert with
  | nil => rfl
  | cons entry rest ih =>
    obtain ⟨name, recorded⟩ := entry
    simp only [List.map_cons, List.forall_mem_cons] at h
    simp only [checkFiles, h.1, ih h.2]

/-- Loading a generation depends on its manifest and on the files that the manifest lists. -/
theorem load_congr {t' : Files} {p : Bytes}
    (hmanifest : P.readFile t' (dirJoin p kManifestName) = P.readFile t (dirJoin p kManifestName))
    (hfiles : ∀ s m fields, P.readFile t (dirJoin p kManifestName) = some s →
      P.json.parse s = some m → m.field? (textBytes "files") = some (.obj fields) →
        ∀ f ∈ fields.map Prod.fst,
          P.readFile t' (dirJoin p f) = P.readFile t (dirJoin p f)) :
    P.loadGeneration t' p = P.loadGeneration t p := by
  rw [loadGeneration, loadGeneration, hmanifest]
  cases hread : P.readFile t (dirJoin p kManifestName) with
  | none => rfl
  | some s =>
    simp only [Option.bind_eq_bind, Option.bind_some]
    split_ifs
    · rfl
    cases hparse : P.json.parse s with
    | none => rfl
    | some m =>
      simp only
      cases hfield : m.field? (textBytes "files") with
      | none => rfl
      | some v =>
        cases v with
        | obj fields => simp only [checkFiles_congr (hfiles s m fields hread hparse hfield)]
        | _ => rfl

/-- The clean-up leaves a tidy generation that it keeps. -/
private theorem readFile_swept_of_kept {keepA keepB p f : Bytes} (hp : Plain p) (hf : Plain f)
    (hkept : p = keepA ∨ p = keepB) :
    P.readFile (P.swept keepA keepB t) (dirJoin p f) = P.readFile t (dirJoin p f) := by
  rw [readFile_plain hp hf, readFile_plain hp hf, swept_node_of_not]
  rintro ⟨n, hn, ⟨f', heq, -⟩ | ⟨heq, -⟩⟩
  · obtain ⟨-, htail⟩ := List.cons_eq_cons.mp heq
    obtain ⟨rfl, -⟩ := List.cons_eq_cons.mp htail
    exact hkept.elim hn.1 hn.2
  · have hlength := congrArg List.length heq
    simp at hlength

/-- A generation that the clean-up keeps loads afterwards as it did before. -/
private theorem load_swept_of_kept {keepA keepB p : Bytes} (h : P.Tidy t p)
    (hkept : p = keepA ∨ p = keepB) :
    P.loadGeneration (P.swept keepA keepB t) p = P.loadGeneration t p :=
  load_congr (readFile_swept_of_kept h.name plain_kManifestName hkept)
    fun s m fields hs hm hfields f hf =>
      readFile_swept_of_kept h.name (h.files s m fields hs hm hfields f hf) hkept

/-- The clean-up removes the manifest of a tidy generation that it does not keep. -/
private theorem readFile_swept_of_not_kept {keepA keepB p q : Bytes} (hp : Plain p)
    (hprev : P.previousOf t p = some q) (hq : q ≠ []) (hkept : p ≠ keepA ∧ p ≠ keepB) :
    P.readFile (P.swept keepA keepB t) (dirJoin p kManifestName) ≠
      P.readFile t (dirJoin p kManifestName) := by
  have hread : P.readFile t (dirJoin p kManifestName) ≠ some [] := by
    intro hempty
    rw [previousOf, hempty] at hprev
    exact hq (Option.some.inj hprev).symm
  have hswept : P.Swept keepA keepB t (kManifestName :: p :: P.generationsDir) := by
    refine ⟨p, hkept, .inl ⟨kManifestName, rfl, List.mem_cons_self .., fun m => ?_⟩⟩
    refine Tree.node_cons_of_not_dir (fun hdir => ?_) m
    rw [previousOf, readFile_plain hp plain_kManifestName, hdir] at hprev
    cases hprev
  intro heq
  rw [← heq, readFile_plain hp plain_kManifestName, swept_node_of_swept hswept] at hread
  exact hread rfl

/-- From each generation that it passed over, the rest of a walk is a walk. -/
private theorem Walk.exists_suffix {p q : Bytes} {passed : List Bytes} (h : P.Walk t p passed g)
    (hq : q ∈ passed) : ∃ rest, P.Walk t q (q :: rest) g ∧ q :: rest <:+ passed := by
  induction h with
  | here => cases hq
  | on hload hprev hne hwalk ih =>
    rcases List.mem_cons.mp hq with rfl | hq
    · exact ⟨_, .on hload hprev hne hwalk, List.suffix_refl _⟩
    · obtain ⟨rest, hrest, hsuffix⟩ := ih hq
      exact ⟨rest, hrest, hsuffix.trans (List.suffix_cons _ _)⟩

/-- A walk that ends passes over no generation twice. -/
theorem Walk.nodup {p : Bytes} {passed : List Bytes} (h : P.Walk t p passed g) :
    passed.Nodup := by
  induction h with
  | here => exact List.nodup_nil
  | on hload hprev hne hwalk ih =>
    refine List.nodup_cons.mpr ⟨fun hmem => ?_, ih⟩
    obtain ⟨rest, hrest, hsuffix⟩ := hwalk.exists_suffix hmem
    obtain ⟨heq, -⟩ := hrest.unique (.on hload hprev hne hwalk)
    have hlength := hsuffix.length_le
    rw [heq, List.length_cons] at hlength
    omega

/-- Each generation that a walk passes over names one before it. -/
private theorem Walk.previousOf_of_mem {p q : Bytes} {passed : List Bytes} (h : P.Walk t p passed g)
    (hq : q ∈ passed) : ∃ next, P.previousOf t q = some next ∧ next ≠ [] := by
  obtain ⟨rest, hwalk, -⟩ := h.exists_suffix hq
  cases hwalk with
  | on _ hprev hne _ => exact ⟨_, hprev, hne⟩

/-- Among tidy generations, recovery has left what it needs just if it passed over none, or
over the predecessor of the one it found. -/
private theorem settled_iff_of_tidy {ptr : Bytes} {passed : List Bytes}
    (hgens : t.node P.generationsDir = some .dir)
    (hptr : P.readCurrentPointer t = some (some ptr)) (hwalk : P.Walk t ptr passed g)
    (htidy : ∀ p ∈ g.generationId :: passed, P.Tidy t p) :
    P.Settled t g ↔ passed = [] ∨ passed = [g.previousGeneration] := by
  have hfirst : P.Tidy t g.generationId := htidy _ (List.mem_cons_self ..)
  have hpassed : ∀ p ∈ passed, P.Tidy t p := fun p hp => htidy p (List.mem_cons_of_mem _ hp)
  constructor
  · intro hsettled
    obtain ⟨ptr', passed', hptr', hwalk', hspared, -⟩ := hsettled hgens
    rw [hptr] at hptr'
    obtain rfl := Option.some.inj (Option.some.inj hptr')
    obtain ⟨rfl, -⟩ := hwalk'.unique hwalk
    have hprevious : ∀ p ∈ passed', p = g.previousGeneration := by
      intro p hp
      by_contra hne
      obtain ⟨next, hnext, hnonempty⟩ := hwalk.previousOf_of_mem hp
      refine readFile_swept_of_not_kept (hpassed p hp).name hnext hnonempty ⟨?_, hne⟩
        (hspared p hp).1
      rintro rfl
      have hload := hwalk.load_of_mem hp
      rw [hwalk.load] at hload
      cases hload
    have hnodup := hwalk.nodup
    match passed', hprevious, hnodup with
    | [], _, _ => exact .inl rfl
    | [p], hprevious, _ => exact .inr (by rw [hprevious p (by simp)])
    | p :: q :: rest, hprevious, hnodup =>
      have hp := hprevious p (by simp)
      have hq := hprevious q (by simp)
      simp [hp, hq] at hnodup
  · intro hcase _
    refine ⟨ptr, passed, hptr, hwalk, fun p hp => ?_, ?_⟩
    · have hkept : p = g.generationId ∨ p = g.previousGeneration := by
        rcases hcase with rfl | rfl
        · cases hp
        · exact .inr (List.mem_singleton.mp hp)
      refine ⟨readFile_swept_of_kept (hpassed p hp).name plain_kManifestName hkept, ?_⟩
      rw [load_swept_of_kept (hpassed p hp) hkept, hwalk.load_of_mem hp]
    · rw [load_swept_of_kept hfirst (.inl rfl), hwalk.load]

/-- A tidy generation that loads is in the directory of generations. -/
private theorem dir_of_load {p : Bytes} (hp : Plain p) (h : P.loadGeneration t p = some (some g)) :
    t.node P.generationsDir = some .dir := by
  obtain ⟨-, s, hs, hne⟩ := load_eq_some h
  rw [readFile_plain hp plain_kManifestName] at hs
  have hsome : t.node (kManifestName :: p :: P.generationsDir) ≠ none := by
    intro hnone
    rw [hnone] at hs
    exact hne (Option.some.inj hs).symm
  have hdir := t.rooted _ _ (Option.isSome_iff_ne_none.mpr hsome)
  exact t.rooted _ _ (Option.isSome_of_eq_some hdir)

/-- Recovery finishes when it is undisturbed, because its search is bounded by the number of files.
-/
theorem finishes_openAndRecover (e : Env) (st : Store) : Finishes (P.openAndRecover e st) := by
  refine (finishes_makeDirs _).bind fun b => ?_
  cases b with
  | false => exact finishes_pure _
  | true =>
    refine (finishes_look _).bind fun ptr => ?_
    match ptr with
    | none => exact finishes_pure _
    | some none => exact (finishes_cleanupOrphans e _ _).bind fun _ => finishes_pure _
    | some (some ptr) =>
      refine (finishes_look _).bind fun found => ?_
      cases found with
      | found g => exact (finishes_cleanupOrphans e _ _).bind fun _ => finishes_pure _
      | exhausted => exact (finishes_cleanupOrphans e _ _).bind fun _ => finishes_pure _
      | threw => exact finishes_pure _
      | endless => exact finishes_pure _

/-- The value of an undisturbed opening by a new store. -/
def openValue (P : Platform) (d : Disk Bytes UInt8) (e : Env) : Option (Opened × Store) :=
  match P.openAndRecover e .fresh ⟨d, []⟩ with
  | .done a _ => some a
  | .crashed _ => none

/-- The undisturbed recovery has the value and leaves the disk that the definitions name. -/
private theorem calm_afterOpen {e : Env} {a : Opened × Store} (h : P.openValue d e = some a) :
    Calm (P.openAndRecover e .fresh) d a (P.afterOpen d e) := by
  obtain ⟨a', d', hcalm⟩ := finishes_openAndRecover (P := P) e .fresh d
  have hvalue : P.openValue d e = some a' := by rw [openValue, hcalm]
  have hafter : P.afterOpen d e = d' := by rw [afterOpen, hcalm]
  rw [h] at hvalue
  rw [hafter, Option.some.inj hvalue]
  exact hcalm

/-- **Stability.** An undisturbed `openAndRecover` has adopted the generation `g`. All later ones
find it again if and only if the first one has left what it needs. Where the store's own names
are used, it has just if it followed `CURRENT` directly, or passed over one generation, the
predecessor of `g`. -/
theorem recovery_stable_iff {e : Env} {st : Store}
    (hopen : Calm (P.openAndRecover e st) d (.returned true, ⟨some g, true⟩) d') :
    (P.Stable d' g ↔ P.Settled d.tree g) ∧
      ∀ ptr passed, P.readCurrentPointer d.tree = some (some ptr) →
        P.Walk d.tree ptr passed g → (∀ p ∈ g.generationId :: passed, P.Tidy d.tree p) →
          (P.Stable d' g ↔ passed = [] ∨ passed = [g.previousGeneration]) := by
  refine ⟨stable_iff_settled hopen, fun ptr passed hptr hwalk htidy => ?_⟩
  have hgens := dir_of_load (htidy _ (List.mem_cons_self ..)).name hwalk.load
  rw [stable_iff_settled hopen]
  exact settled_iff_of_tidy hgens hptr hwalk htidy

open Bench in
/-- The bench store after both certificates: `CURRENT` is followed directly. -/
theorem recovery_stable_both :
    let d := (bench.machine.run ⟨emptyDisk, .fresh⟩
      [.recover (env 0), .commit (env 1) certificate₁, .commit (env 2) certificate₂]).disk
    ∃ d', (bench.Stable d' generation₂ ↔ bench.Settled d.tree generation₂) ∧
      ∀ ptr passed, bench.readCurrentPointer d.tree = some (some ptr) →
        bench.Walk d.tree ptr passed generation₂ →
          (∀ p ∈ generation₂.generationId :: passed, bench.Tidy d.tree p) →
            (bench.Stable d' generation₂ ↔
              passed = [] ∨ passed = [generation₂.previousGeneration]) := by
  have hvalue : bench.openValue (bench.machine.run ⟨emptyDisk, .fresh⟩
      [.recover (env 0), .commit (env 1) certificate₁, .commit (env 2) certificate₂]).disk
        (env 3) = some (.returned true, ⟨some generation₂, true⟩) := by decide +kernel
  exact ⟨_, recovery_stable_iff (calm_afterOpen hvalue)⟩

/-! ### A chain file that was damaged -/

/-- A recovery that ends otherwise is no stable one. -/
private theorem not_stable_of_value {e : Env} {a : Opened × Store} (h : P.openValue d e = some a)
    (hne : a ≠ (.returned true, ⟨some g, true⟩)) : ¬ P.Stable d g := by
  intro hstable
  obtain ⟨d', hopen⟩ := hstable [] e
  exact hne ((calm_afterOpen h).unique hopen).1

open Bench in
/-- The bench store with both certificates, the chain file of the second one cut short. -/
def damaged : Disk Bytes UInt8 :=
  let d := (bench.machine.run ⟨emptyDisk, .fresh⟩
    [.recover (env 0), .commit (env 1) certificate₁, .commit (env 2) certificate₂]).disk
  (d.create kChainFileName (generation₂.generationId :: bench.generationsDir)).getD d

open Bench in
/-- The store falls back to the first certificate, and later openings do not find it. -/
theorem not_stable_damaged :
    Calm (bench.openAndRecover (env 3) .fresh) damaged
        (.returned true, ⟨some generation₁, true⟩) (bench.afterOpen damaged (env 3)) ∧
      ¬ bench.Stable (bench.afterOpen damaged (env 3)) generation₁ := by
  have hfirst : bench.openValue damaged (env 3) =
      some (.returned true, ⟨some generation₁, true⟩) := by decide +kernel
  have hagain : bench.openValue (bench.afterOpen damaged (env 3)) (env 4) =
      some (.returned false, .fresh) := by decide +kernel
  exact ⟨calm_afterOpen hfirst, not_stable_of_value hagain (by simp)⟩

end Platform

end TboxSec.CertStore
