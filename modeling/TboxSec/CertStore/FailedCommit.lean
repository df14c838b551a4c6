import TboxSec.CertStore.Termination

/-!
# A commit that fails

A `commit` that returns an error leaves the store as it was. The disk is another matter: it has
been changed, and the question is whether a later opening notices.

* `Platform.SameRecovery`: all undisturbed openings of two disks come to the same end.
* `Platform.Novel`: the id that is drawn is new to the disk. It always is on the disks that the
  store leaves, unless it is the name of an entry: `Platform.novel_of_stands`.
* `Platform.failed_commit_iff`: a commit that fails changes nothing, unless the call that fails is
  the last sync: then `CURRENT` has been renamed already.

* `Off`: a path that a commit does not touch before the switch; `Past` and `Apart`: texts, and
  manifests with the files they list, that lead to such paths only.
* `sameRecovery_of_unswitched` and `not_sameRecovery_of_switched` are the two cases.
* `failed_commit_recovered` is a commit that fails in its last sync, and is recovered as if it had
  succeeded.
-/

namespace TboxSec.CertStore

open Ascii FileSystem Crash

namespace Platform

variable {P : Platform} {d d' d₁ d₁' : Disk Bytes UInt8} {t t' : Files} {gid : Bytes} {e : Env}
variable {st : Store} {c : CertificateCommit}

/-! ### Later openings -/

/-- Every undisturbed opening comes to the same end on both disks. -/
def SameRecovery (P : Platform) (d d' : Disk Bytes UInt8) : Prop :=
  ∀ e st a, (∃ d₁, Calm (P.openAndRecover e st) d a d₁) ↔
    ∃ d₁, Calm (P.openAndRecover e st) d' a d₁

/-- What an undisturbed opening comes to. -/
private theorem exists_calm_open_iff {b : Bool} {a : Opened × Store}
    (hmade : Calm (makeDirs P.generationsDir) d b d₁) :
    (∃ d₂, Calm (P.openAndRecover e st) d a d₂) ↔
      a = if b then P.openResult st d₁.tree else (.returned false, st) := by
  have hvalue : ∀ {a : Opened × Store} {d₂}, Calm (P.openAndRecover e st) d a d₂ →
      a = if b then P.openResult st d₁.tree else (.returned false, st) := by
    intro a d₂ hopen
    have hsame : ∀ {b'} {s : Session Bytes UInt8},
        makeDirs P.generationsDir ⟨d, []⟩ = .done b' s → b = b' ∧ d₁ = s.disk := by
      intro b' s hrun
      rw [Calm, hrun] at hmade
      injection hmade with hb hs
      exact ⟨hb.symm, (congrArg Session.disk hs).symm⟩
    rcases open_done hopen with ⟨⟨s, hrun⟩, rfl⟩ | ⟨s, hrun, rfl⟩
    · obtain ⟨rfl, -⟩ := hsame hrun
      rfl
    · obtain ⟨rfl, rfl⟩ := hsame hrun
      rfl
  constructor
  · rintro ⟨d₂, hopen⟩
    exact hvalue hopen
  · rintro rfl
    obtain ⟨a, d₂, hopen⟩ := finishes_openAndRecover (P := P) e st d
    rw [← hvalue hopen]
    exact ⟨d₂, hopen⟩

/-! ### Reading past a candidate -/

/-- The path is neither below the directory of the generation nor below the temporary file of
`CURRENT`. -/
def Off (P : Platform) (gid : Bytes) (q : Path Bytes) : Prop :=
  ¬ gid :: P.generationsDir <:+ q ∧ ¬ P.currentTmp <:+ q

private theorem off_generationsDir : P.Off gid P.generationsDir := by
  refine ⟨fun h => ?_, (not_suffix_generationsDir (by decide)).1⟩
  have hlength := h.length_le
  simp at hlength

private theorem off_currentPath : P.Off gid P.currentPath := by
  constructor <;> intro h
  · have hlength := h.length_le
    simp [generationsDir, currentPath] at hlength
  · have heq := h.eq_of_length (by simp [currentPath])
    exact absurd (List.cons_eq_cons.mp heq).1 (by decide)

/-- The text leads neither into a directory named as the generation nor through the temporary file
of `CURRENT`. -/
def Past (gid text : Bytes) : Prop :=
  .into gid ∉ hops text ∧ .into (tmpName (textBytes "CURRENT")) ∉ hops text

theorem Off.dest {q : Path Bytes} {h : Hop Bytes} (hq : P.Off gid q) (hgid : h ≠ .into gid)
    (htmp : h ≠ .into (tmpName (textBytes "CURRENT"))) : P.Off gid (h.dest q) := by
  cases h with
  | stay => exact hq
  | up => exact ⟨fun h => hq.1 (h.trans (List.tail_suffix q)),
      fun h => hq.2 (h.trans (List.tail_suffix q))⟩
  | into n =>
    constructor <;> intro h
    · rcases List.suffix_cons_iff.mp h with heq | h
      · rw [(List.cons_eq_cons.mp heq).1] at hgid
        exact hgid rfl
      · exact hq.1 h
    · rcases List.suffix_cons_iff.mp h with heq | h
      · rw [(List.cons_eq_cons.mp heq).1] at htmp
        exact htmp rfl
      · exact hq.2 h

/-- A text that leads past the candidate reads the same in two trees that differ only there. -/
private theorem readFile_congr {text : Bytes} (htree : ∀ q, P.Off gid q → t'.node q = t.node q)
    (htext : Past gid text) : P.readFile t' text = P.readFile t text := by
  have hwalk : ∀ (hs : List (Hop Bytes)) (q : Path Bytes), P.Off gid q →
      .into gid ∉ hs → .into (tmpName (textBytes "CURRENT")) ∉ hs →
      (t'.walk q hs).bind t'.node = (t.walk q hs).bind t.node := by
    intro hs
    induction hs with
    | nil => exact fun q hq _ _ => htree q hq
    | cons h hs ih =>
      intro q hq hgid htmp
      rw [List.mem_cons, not_or] at hgid htmp
      rw [Tree.walk, Tree.walk, htree q hq]
      split_ifs
      · exact ih _ (hq.dest (Ne.symm hgid.1) (Ne.symm htmp.1)) hgid.2 htmp.2
      · rfl
  rw [readFile, readFile, hwalk _ _ off_generationsDir htext.1 htext.2]

/-- The manifest of the id `p` and the files that it lists lead past the candidate. -/
structure Apart (P : Platform) (t : Files) (gid p : Bytes) : Prop where
  manifest : Past gid (dirJoin p kManifestName)
  files : ∀ s m files, P.readFile t (dirJoin p kManifestName) = some s →
    P.json.parse s = some m → m.field? (textBytes "files") = some (.obj files) →
      ∀ f ∈ files.map Prod.fst, Past gid (dirJoin p f)

private theorem openResult_congr (htree : ∀ q, P.Off gid q → t'.node q = t.node q)
    (hapart : ∀ ptr p, P.readCurrentPointer t = some (some ptr) → P.Reaches t ptr p →
      P.Apart t gid p) : P.openResult st t' = P.openResult st t := by
  have hpointer : P.readCurrentPointer t' = P.readCurrentPointer t := by
    rw [readCurrentPointer, readCurrentPointer, htree _ off_currentPath]
  rw [openResult, openResult, hpointer]
  rcases hptr : P.readCurrentPointer t with _ | _ | ptr
  · rfl
  · rfl
  · have hsearch : P.search t' ptr = P.search t ptr := by
      refine search_congr fun p hreach => ?_
      have hp := hapart ptr p hptr hreach
      have hmanifest := readFile_congr htree hp.manifest
      refine ⟨load_congr hmanifest fun s m files hs hm hfiles f hf =>
        readFile_congr htree (hp.files s m files hs hm hfiles f hf), ?_⟩
      rw [previousOf, previousOf, hmanifest]
    dsimp only
    rw [hsearch]

/-! ### A new id -/

/-- The id is new to the disk: it is not the name of an entry, and what `CURRENT` leads to, once
the directory of generations is there, leads neither to it nor to the temporary file of
`CURRENT`. -/
structure Novel (P : Platform) (d : Disk Bytes UInt8) (gid : Bytes) : Prop where
  unused : d.tree.node (gid :: P.generationsDir) = none
  apart : ∀ d₁, Calm (makeDirs P.generationsDir) d true d₁ → ∀ ptr p,
    P.readCurrentPointer d₁.tree = some (some ptr) → P.Reaches d₁.tree ptr p →
      P.Apart d₁.tree gid p

private theorem dir_of_suffix {q path : Path Bytes} (h : t.node path = some .dir)
    (hq : q <:+ path) :
    t.node q = some .dir := by
  induction path with
  | nil => rwa [List.suffix_nil.mp hq]
  | cons n p ih =>
    rcases List.suffix_cons_iff.mp hq with rfl | hq
    · exact h
    · exact ih (t.rooted n p (Option.isSome_of_eq_some h)) hq

private theorem clear_iff {path : Path Bytes} :
    Clear d.tree path ↔ ∃ d₁, Calm (makeDirs path) d true d₁ := by
  refine ⟨calm_makeDirs, fun ⟨d₁, hmade⟩ q hq => ?_⟩
  obtain ⟨hgrows, hdir⟩ := hmade.of_ensures (ensures_makeDirs path)
  have hq₁ := dir_of_suffix (hdir.mp rfl) hq
  rcases hgrows.node q (Set.notMem_empty q) with heq | ⟨hnone, -⟩
  · exact .inr (heq ▸ hq₁)
  · exact .inl hnone

/-- On the way to `generations` a commit only makes directories. -/
private theorem clear_iff_of_unswitched (hd : P.Unswitched gid d d') :
    Clear d'.tree P.generationsDir ↔ Clear d.tree P.generationsDir := by
  have hout : ∀ q, q <:+ P.generationsDir →
      q ∉ Below (gid :: P.generationsDir) ∪ {P.currentTmp, P.currentPath} := by
    rintro q hq (hbelow | rfl | rfl)
    · have hlength := (List.IsSuffix.trans hbelow hq).length_le
      simp at hlength
    · exact (not_suffix_generationsDir (by decide)).1 hq
    · exact (not_suffix_generationsDir (by decide)).1 hq
  refine ⟨fun h q hq => ?_, fun h => h.of_grows hd.grows hout⟩
  rcases hd.grows.node q (hout q hq) with heq | ⟨hnone, -⟩
  · exact heq ▸ h q hq
  · exact .inl hnone

/-- With the directory of generations made, the disks before and after a commit that has not
switched `CURRENT` differ only in the candidate and the temporary file. -/
private theorem node_eq_of_unswitched (hd : P.Unswitched gid d d')
    (hmade : Calm (makeDirs P.generationsDir) d true d₁)
    (hmade' : Calm (makeDirs P.generationsDir) d' true d₁') (q : Path Bytes) (hq : P.Off gid q) :
    d₁'.tree.node q = d₁.tree.node q := by
  obtain ⟨hgrows, hdir⟩ := hmade.of_ensures (ensures_makeDirs _)
  obtain ⟨hgrows', hdir'⟩ := hmade'.of_ensures (ensures_makeDirs _)
  by_cases hpath : q <:+ P.generationsDir
  · rw [dir_of_suffix (hdir.mp rfl) hpath, dir_of_suffix (hdir'.mp rfl) hpath]
  rw [hgrows.touches.node q hpath, hgrows'.touches.node q hpath]
  by_cases hcurrent : q = P.currentPath
  · rw [hcurrent]
    exact hd.current
  refine hd.grows.touches.node q ?_
  rintro ((hsuffix | hbelow) | rfl | rfl)
  · rcases List.suffix_cons_iff.mp hsuffix with rfl | hsuffix
    · exact hq.1 (List.suffix_refl _)
    · exact hpath hsuffix
  · exact hq.1 hbelow
  · exact hq.2 (List.suffix_refl _)
  · exact hcurrent rfl

/-- **Not switched**: later openings come to the same end. -/
theorem sameRecovery_of_unswitched (hd : P.Unswitched gid d d') (hnew : P.Novel d gid) :
    P.SameRecovery d d' := by
  obtain ⟨b, d₁, hmade⟩ := finishes_makeDirs P.generationsDir d
  obtain ⟨b', d₁', hmade'⟩ := finishes_makeDirs P.generationsDir d'
  have htrue : ∀ {d d₁ : Disk Bytes UInt8} {b : Bool}, Calm (makeDirs P.generationsDir) d b d₁ →
      (b = true ↔ Clear d.tree P.generationsDir) := by
    intro d d₁ b hmade
    rw [clear_iff]
    refine ⟨fun hb => ⟨d₁, hb ▸ hmade⟩, fun ⟨d₂, htrue⟩ => ?_⟩
    exact (hmade.unique htrue).1
  have hb : b' = b := by
    rw [Bool.eq_iff_iff, htrue hmade, htrue hmade']
    exact clear_iff_of_unswitched hd
  subst hb
  intro e st a
  rw [exists_calm_open_iff hmade, exists_calm_open_iff hmade']
  cases b' with
  | false => rfl
  | true =>
    rw [if_pos rfl, if_pos rfl, openResult_congr (node_eq_of_unswitched hd hmade hmade')
      (hnew.apart d₁ hmade)]

/-- **Switched**: later openings find what was not there before. -/
theorem not_sameRecovery_of_switched (hP : P.Lawful) {g : Generation} {text : Bytes}
    {createdAt : Int64} (hd : P.Switched d' g text createdAt)
    (hid : g.generationId = newGenerationId e) (hnew : P.Novel d (newGenerationId e)) :
    ¬ P.SameRecovery d d' := by
  intro hsame
  have hlater := (hsame e .fresh _).mpr
    (calm_openAndRecover hP (stands_of_switched hP hd hid) e .fresh)
  obtain ⟨b, d₁, hmade⟩ := finishes_makeDirs P.generationsDir d
  rw [exists_calm_open_iff hmade] at hlater
  cases b with
  | false => cases hlater
  | true =>
    rw [if_pos rfl] at hlater
    have hintact : P.Intact d₁.tree g :=
      intact_of_openResult (congrArg Prod.fst hlater).symm (by rw [← hlater])
    obtain ⟨s, m, files, hread, hparse, -⟩ := hintact
    have hne : s ≠ [] := by
      rintro rfl
      rw [hP.parse_nil] at hparse
      cases hparse
    rw [hid, readFile_plain (plain_newGenerationId e) plain_kManifestName] at hread
    have hsome : d₁.tree.node (kManifestName :: newGenerationId e :: P.generationsDir) ≠ none := by
      intro hnone
      rw [hnone] at hread
      exact hne (Option.some.inj hread).symm
    have hdir := d₁.tree.rooted _ _ (Option.isSome_iff_ne_none.mpr hsome)
    rw [(hmade.of_ensures (ensures_makeDirs _)).1.touches.node, hnew.unused] at hdir
    · cases hdir
    · intro hsuffix
      have hlength := List.IsSuffix.length_le hsuffix
      simp at hlength

/-! ### The call that fails -/

/-- The last call of the commit, the sync of the root, fails: the generation was staged, and
`CURRENT` was written and renamed. -/
def SyncFails (P : Platform) (s : System) (e : Env) (c : CertificateCommit) : Prop :=
  ∃ g s₁ s₂ es, P.staged e s.store c ⟨s.disk, e.events⟩ = .done (.inr g) s₁ ∧
    writeFileAtomic (textBytes "CURRENT") P.root (g.generationId ++ [newline]) s₁ =
      .done true s₂ ∧ s₂.events = .fails :: es

/-- A pointer switch that fails: the write failed, or the sync after it. -/
private theorem switchCurrent_eq_false {g : Generation} {s s' : Session Bytes UInt8}
    (h : P.switchCurrent g.generationId s = .done false s') :
    (writeFileAtomic (textBytes "CURRENT") P.root (g.generationId ++ [newline]) s =
        .done false s') ∨
      ∃ s₁ es, writeFileAtomic (textBytes "CURRENT") P.root (g.generationId ++ [newline]) s =
        .done true s₁ ∧ s₁.events = .fails :: es ∧ s'.disk = s₁.disk := by
  rw [switchCurrent] at h
  obtain ⟨b, s₁, hwrite, h⟩ := Prog.bind_eq_done.mp h
  cases b with
  | false =>
    cases h
    exact .inl hwrite
  | true =>
    refine .inr ⟨s₁, ?_⟩
    change attempt (·.fsyncDir P.root) s₁ = _ at h
    rcases attempt_eq_false h with ⟨es, hevents, rfl⟩ | ⟨hnone, -⟩
    · exact ⟨es, hwrite, hevents, rfl⟩
    · -- the root is a directory, since `CURRENT` is in it
      have hcurrent := (Prog.wp_done (ensures_writeFileAtomic (by decide) s.events) hwrite).2
      rw [if_pos rfl] at hcurrent
      have hroot := s₁.disk.tree.rooted _ _ (Option.isSome_of_eq_some hcurrent)
      rw [Disk.fsyncDir, if_pos hroot] at hnone
      cases hnone

/-- **A commit that fails** leaves the store, and `CURRENT` too unless the last sync has failed. -/
theorem commit_failed (hP : P.Lawful) {s : System} {a : Option ErrorCode × Store}
    {s' : Session Bytes UInt8} (h : P.commit e s.store c ⟨s.disk, e.events⟩ = .done a s')
    (hne : a.1 ≠ some .success) :
    a.2 = s.store ∧
      ((¬ P.SyncFails s e c ∧ P.Unswitched (newGenerationId e) s.disk s'.disk) ∨
        (P.SyncFails s e c ∧ ∃ g text, g.generationId = newGenerationId e ∧
          P.Switched s'.disk g text e.seconds)) := by
  rw [commit_eq] at h
  obtain ⟨r, s₁, hstaged, h⟩ := Prog.bind_eq_done.mp h
  obtain ⟨hd₁, hcase⟩ := Prog.wp_done (ensures_staged hP e.events) hstaged
  cases r with
  | inl code =>
    cases h
    refine ⟨rfl, .inl ⟨?_, hd₁⟩⟩
    rintro ⟨g, s₁, s₂, es, hstaged', -⟩
    rw [hstaged] at hstaged'
    cases hstaged'
  | inr g =>
    obtain ⟨text, hg⟩ := hcase
    obtain ⟨b, s₂, hswitch, h⟩ := Prog.bind_eq_done.mp h
    cases b with
    | true =>
      obtain ⟨-, s₃, -, h⟩ := Prog.bind_eq_done.mp h
      cases h
      exact absurd rfl hne
    | false =>
      cases h
      refine ⟨rfl, ?_⟩
      rcases switchCurrent_eq_false hswitch with hwrite | ⟨s₂, es, hwrite, hevents, hdisk⟩
      · obtain ⟨htouch, hnode⟩ :=
          Prog.wp_done (ensures_writeFileAtomic (by decide) s₁.events) hwrite
        refine .inl ⟨?_, hd₁.trans (unswitched_of_touches htouch hnode)⟩
        rintro ⟨g', s₁', s₂, es, hstaged', hwrite', -⟩
        rw [hstaged] at hstaged'
        cases hstaged'
        rw [hwrite] at hwrite'
        cases hwrite'
      · obtain ⟨htouch, hnode⟩ :=
          Prog.wp_done (ensures_writeFileAtomic (by decide) s₁.events) hwrite
        refine .inr ⟨⟨g, s₁, s₂, es, hstaged, hwrite, hevents⟩, g, text, hg.id, ?_⟩
        rw [hdisk]
        exact ⟨hg.stored.of_touches htouch fun n => not_mem_pointers n _, hg.parsed, hg.sound,
          hnode⟩

/-- If the last sync fails, so does the commit. -/
private theorem commit_of_syncFails {s : System} (h : P.SyncFails s e c) :
    ∃ s', P.commit e s.store c ⟨s.disk, e.events⟩ =
      .done (some .storageWriteFailed, s.store) s' := by
  obtain ⟨g, s₁, s₂, es, hstaged, hwrite, hevents⟩ := h
  refine ⟨⟨s₂.disk, es⟩, ?_⟩
  have hswitch : P.switchCurrent g.generationId s₁ = .done false ⟨s₂.disk, es⟩ := by
    rw [switchCurrent, Prog.bind_of_done hwrite]
    change attempt (·.fsyncDir P.root) s₂ = _
    exact attempt_of_fails hevents
  rw [commit_eq, Prog.bind_of_done hstaged, switched, Prog.bind_of_done hswitch]
  rfl

/-! ### The disks that the store leaves -/

private theorem ne_of_not_idByte {x : UInt8} {name : Bytes} (hx : x ∈ name) (hno : ¬ IdByte x)
    (e : Env) :
    newGenerationId e ≠ name := by
  rintro rfl
  exact hno (idByte_of_mem_newGenerationId hx)

/-- The files of the store have other names than a generation. -/
private theorem past_of_plain {name : Bytes} {e' : Env}
    (hne : newGenerationId e' ≠ newGenerationId e)
    (hname : Plain name) (hfile : newGenerationId e ≠ name)
    (htmp : name ≠ tmpName (textBytes "CURRENT")) :
    Past (newGenerationId e) (dirJoin (newGenerationId e') name) := by
  have hhops := hops_of_plain (plain_newGenerationId e') hname
  have hid : newGenerationId e' ≠ tmpName (textBytes "CURRENT") :=
    ne_of_not_idByte (x := 0x43) (by decide) (by decide) e'
  rw [Past, hhops]
  simp [hne.symm, hfile, hid.symm, htmp.symm]

/-- On a disk that stands anywhere, an id that is not the name of an entry is new. -/
private theorem novel_of_stands {v : Option Generation} (hP : P.Lawful) (h : P.Stands d.tree v)
    (hunused : d.tree.node (newGenerationId e :: P.generationsDir) = none) :
    P.Novel d (newGenerationId e) := by
  refine ⟨hunused, fun d₁ hmade ptr p hptr hreach => ?_⟩
  have hgrows := (hmade.of_ensures (ensures_makeDirs _)).1
  have hd₁ := h.of_grows hgrows (List.suffix_refl _)
  cases v with
  | none =>
    rw [readCurrentPointer_of_none hd₁.1] at hptr
    cases hptr
  | some g =>
    obtain ⟨hpointer, ⟨e', hid⟩, text, createdAt, hwritten, hsound⟩ := hd₁
    have hload := load_of_written hP (hid ▸ plain_newGenerationId e') hwritten
    rw [if_pos hsound, hid] at hload
    rw [hid] at hpointer
    rw [readCurrentPointer_of_content hpointer] at hptr
    obtain rfl := Option.some.inj (Option.some.inj hptr)
    -- the generation loads, so the search stops at it
    have hp : p = newGenerationId e' := by
      rcases Relation.ReflTransGen.cases_head hreach with heq | ⟨q, hlink, -⟩
      · exact heq.symm
      · rw [hlink.load] at hload
        cases hload
    subst hp
    have hne : newGenerationId e' ≠ newGenerationId e := by
      intro heq
      obtain ⟨-, -, _, _, hwritten₀, -⟩ := h
      have hdir := hwritten₀.dir
      rw [hid, heq, hunused] at hdir
      cases hdir
    refine ⟨past_of_plain hne plain_kManifestName
      (ne_of_not_idByte (x := 0x6D) (by decide) (by decide) e) (by decide), ?_⟩
    intro s m files hread hparse hfiles f hf
    obtain ⟨s', hs', hparse'⟩ := hwritten.manifest
    rw [hid] at hs'
    rw [readFile_plain (plain_newGenerationId e') plain_kManifestName,
      readNode_of_content hs'] at hread
    cases hread
    rw [hparse'] at hparse
    cases hparse
    rw [manifest_files] at hfiles
    cases hfiles
    simp only [List.map_cons, List.map_nil, List.mem_cons, List.not_mem_nil, or_false] at hf
    rcases hf with rfl | rfl
    · exact past_of_plain hne plain_kDeviceCertFileName
        (ne_of_not_idByte (x := 0x76) (by decide) (by decide) e) (by decide)
    · exact past_of_plain hne plain_kChainFileName
        (ne_of_not_idByte (x := 0x76) (by decide) (by decide) e) (by decide)

/-- On every disk that the store's own calls leave, whatever has been done to them, an id that is
not the name of an entry is new. -/
private theorem novel_of_run (hP : P.Lawful) {past : List Op}
    (hcurrent : d.tree.node P.currentPath = none)
    (hclear : Clear d.tree P.generationsDir)
    (hfresh : P.machine.Along P.Fresh ⟨d, .fresh⟩ (past ++ [.commit e c])) :
    P.Novel (P.machine.run ⟨d, .fresh⟩ past).disk (newGenerationId e) := by
  rw [P.machine.along_append] at hfresh
  obtain ⟨v, hstands, -⟩ := stands_run hP ⟨hcurrent, hclear⟩ hfresh.1
  exact novel_of_stands hP hstands (Option.isNone_iff_eq_none.mp hfresh.2.1)

/-! ### Commits that fail -/

/-- **A failed commit is no commit**, if and only if the call that fails is not the last sync. For
every disk to which the id is new and every store, a `commit` that returns an error leaves
snapshot and digest as they were, and later openings come to the same end as before it. -/
theorem failed_commit_iff (hP : P.Lawful) {s : System}
    (hnew : P.Novel s.disk (newGenerationId e)) :
    (∀ code, (P.step s (.commit e c)).2 = .committed (some code) → code ≠ .success →
      (P.step s (.commit e c)).1.store.currentSnapshot = s.store.currentSnapshot ∧
        P.currentChainDigest (P.step s (.commit e c)).1.store = P.currentChainDigest s.store ∧
        P.SameRecovery s.disk (P.step s (.commit e c)).1.disk) ↔
      ¬ P.SyncFails s e c := by
  constructor
  · intro h hfails
    obtain ⟨s', hrun⟩ := commit_of_syncFails hfails
    have hstep : P.step s (.commit e c) =
        (⟨s'.disk, s.store⟩, .committed (some .storageWriteFailed)) := by
      rw [step, hrun]
    rw [hstep] at h
    obtain ⟨-, -, hsame⟩ := h .storageWriteFailed rfl (by simp)
    rcases (commit_failed hP hrun (by simp)).2 with ⟨hno, -⟩ | ⟨-, g, text, hid, hd⟩
    · exact hno hfails
    · exact not_sameRecovery_of_switched hP hd hid hnew hsame
  · intro hno code hreply hne
    rw [step] at hreply ⊢
    cases hrun : P.commit e s.store c ⟨s.disk, e.events⟩ with
    | crashed d =>
      rw [hrun] at hreply
      cases hreply
    | done a s' =>
      rw [hrun] at hreply
      have hcode : a.1 = some code := Reply.committed.inj hreply
      have hfailed : a.1 ≠ some .success := by
        rw [hcode]
        exact fun heq => hne (Option.some.inj heq)
      obtain ⟨hstore, hdisk⟩ := commit_failed hP hrun hfailed
      rcases hdisk with ⟨-, hd⟩ | ⟨hyes, -⟩
      · dsimp only
        rw [hstore]
        exact ⟨rfl, rfl, sameRecovery_of_unswitched hd hnew⟩
      · exact absurd hyes hno

open Bench in
/-- Surroundings in which the call after the first `n` fails. -/
def envFailing (seconds : Int64) (n : ℕ) : Env :=
  { env seconds with events := List.replicate n .proceeds ++ [.fails] }

open Bench in
/-- The second commit of the bench store fails at its tenth call. -/
theorem failed_commit_iff_tenth :
    let s := bench.machine.run ⟨emptyDisk, .fresh⟩ [.recover (env 0), .commit (env 1) certificate₁]
    let op : Op := .commit (envFailing 2 9) certificate₂
    (bench.step s op).2 = .committed (some .storageWriteFailed) ∧
    ((∀ code, (bench.step s op).2 = .committed (some code) → code ≠ .success →
      (bench.step s op).1.store.currentSnapshot = s.store.currentSnapshot ∧
        bench.currentChainDigest (bench.step s op).1.store = bench.currentChainDigest s.store ∧
        bench.SameRecovery s.disk (bench.step s op).1.disk) ↔
      ¬ bench.SyncFails s (envFailing 2 9) certificate₂) := by
  have hfresh : bench.machine.Along bench.Fresh ⟨emptyDisk, .fresh⟩
      ([.recover (env 0), .commit (env 1) certificate₁] ++
        [.commit (envFailing 2 9) certificate₂]) := by decide +kernel
  exact ⟨by decide +kernel, failed_commit_iff lawful_bench
    (novel_of_run lawful_bench emptyDisk_current emptyDisk_clear hfresh)⟩

open Bench in
/-- The second commit of the bench store fails at its last sync. The store has the first
certificate, and later openings find the second. -/
theorem failed_commit_recovered :
    let s := bench.machine.run ⟨emptyDisk, .fresh⟩ [.recover (env 0), .commit (env 1) certificate₁]
    let op : Op := .commit (envFailing 2 24) certificate₂
    (bench.step s op).2 = .committed (some .storageWriteFailed) ∧
      (bench.step s op).1.store = ⟨some generation₁, true⟩ ∧
      bench.openValue s.disk (env 3) = some (.returned true, ⟨some generation₁, true⟩) ∧
      bench.openValue (bench.step s op).1.disk (env 3) =
        some (.returned true, ⟨some generation₂, true⟩) := by
  refine ⟨?_, ?_, ?_, ?_⟩ <;> decide +kernel

end Platform

end TboxSec.CertStore
