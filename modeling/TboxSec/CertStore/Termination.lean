import TboxSec.CertStore.Opening
import TboxSec.CertStore.Stability

/-!
# Does recovery end, and what does it adopt?

* `Platform.Typed`: as far as `loadGeneration` reads a manifest, it finds the types it asks for.
  It throws just where a manifest is not typed, `Platform.isSome_load_iff`.
* `Platform.Intact`: the manifest names the generation, every listed file has the recorded length
  and digest, and the chain is among them. All that loads is intact, `Platform.intact_of_load`.
* `Platform.recovery_ends_iff`: `openAndRecover` returns, having adopted at most an intact
  generation, if and only if the links from `CURRENT` do not come back to a generation and what
  they lead to is typed.
-/

namespace TboxSec.CertStore

open Ascii FileSystem Crash Relation

namespace Platform

variable {P : Platform} {t : Files} {p dir : Bytes} {file : Bytes × Json Bytes}

/-! ### Listed files -/

/-- The listed file is in `dir`, with the data `content`, as the manifest records it. -/
structure Matches (P : Platform) (t : Files) (dir : Bytes) (file : Bytes × Json Bytes)
    (content : Bytes) : Prop where
  read : P.readFile t (dirJoin dir file.1) = some content
  length : ∃ n, (file.2.field? (textBytes "length")).bind Json.number = some n ∧
    content.length = wrapUnsigned n
  digest : (file.2.field? (textBytes "sha256")).bind Json.text = some (P.sha256Hex content)

/-- The listed file passes: it is as recorded, and the device document is one. -/
def Passes (P : Platform) (t : Files) (dir : Bytes) (file : Bytes × Json Bytes) : Prop :=
  ∃ content, P.Matches t dir file content ∧
    (file.1 = kDeviceCertFileName → (P.json.parse content).isSome)

/-- What is recorded of the listed file, if anything, is a number and a text, and the file is no
directory. -/
def FileTyped (P : Platform) (t : Files) (dir : Bytes) (file : Bytes × Json Bytes) : Prop :=
  file.2.contains (textBytes "length") → file.2.contains (textBytes "sha256") →
    ((file.2.field? (textBytes "length")).bind Json.number).isSome ∧
      ((file.2.field? (textBytes "sha256")).bind Json.text).isSome ∧
      (P.readFile t (dirJoin dir file.1)).isSome

/-- The listed files are typed, up to the first that does not pass. -/
def FilesTyped (P : Platform) (t : Files) (dir : Bytes) : List (Bytes × Json Bytes) → Prop
  | [] => True
  | file :: rest => P.FileTyped t dir file ∧ (P.Passes t dir file → FilesTyped P t dir rest)

theorem Matches.contains {content : Bytes} (h : P.Matches t dir file content) :
    file.2.contains (textBytes "length") = true ∧
      file.2.contains (textBytes "sha256") = true := by
  obtain ⟨n, hn, -⟩ := h.length
  obtain ⟨v, hv, -⟩ := Option.bind_eq_some_iff.mp hn
  obtain ⟨w, hw, -⟩ := Option.bind_eq_some_iff.mp h.digest
  exact ⟨Option.isSome_of_eq_some hv, Option.isSome_of_eq_some hw⟩

section CheckFiles

variable {rest : List (Bytes × Json Bytes)} {chain : Bytes} {deviceCert : Json Bytes}

private theorem checkFiles_of_matches {content : Bytes} (h : P.Matches t dir file content) :
    P.checkFiles t dir (file :: rest) chain deviceCert =
      if file.1 = kChainFileName then P.checkFiles t dir rest content deviceCert
      else if file.1 = kDeviceCertFileName then
        match P.json.parse content with
        | none => some none
        | some document => P.checkFiles t dir rest chain document
      else P.checkFiles t dir rest chain deviceCert := by
  obtain ⟨name, entry⟩ := file
  obtain ⟨n, hn, hlength⟩ := h.length
  rw [checkFiles]
  simp only [h.contains.1, h.contains.2, Bool.and_self, Bool.not_true, Bool.false_eq_true,
    if_false, Option.bind_eq_bind, hn, h.digest, h.read, Option.bind_some, hlength, ne_eq,
    not_true_eq_false]
  rfl

private theorem checkFiles_of_not_typed (h : ¬ P.FileTyped t dir file) :
    P.checkFiles t dir (file :: rest) chain deviceCert = none := by
  obtain ⟨name, entry⟩ := file
  simp only [FileTyped, Classical.not_imp] at h
  obtain ⟨hlength, hsha, hsome⟩ := h
  rw [checkFiles]
  simp only [hlength, hsha, Bool.and_self, Bool.not_true, Bool.false_eq_true, if_false,
    Option.bind_eq_bind]
  cases hn : (entry.field? (textBytes "length")).bind Json.number with
  | none => rfl
  | some n =>
    cases hs : (entry.field? (textBytes "sha256")).bind Json.text with
    | none => rfl
    | some s =>
      cases hread : P.readFile t (dirJoin dir name) with
      | none => rfl
      | some content => simp [hn, hs, hread] at hsome

private theorem checkFiles_of_no_match (htyped : P.FileTyped t dir file)
    (h : ∀ content, ¬ P.Matches t dir file content) :
    P.checkFiles t dir (file :: rest) chain deviceCert = some none := by
  obtain ⟨name, entry⟩ := file
  rw [checkFiles]
  by_cases hlength : entry.contains (textBytes "length") = true
  swap
  · simp [hlength]
  by_cases hsha : entry.contains (textBytes "sha256") = true
  swap
  · simp [hsha]
  obtain ⟨hn, hs, hread⟩ := htyped hlength hsha
  obtain ⟨n, hn⟩ := Option.isSome_iff_exists.mp hn
  obtain ⟨s, hs⟩ := Option.isSome_iff_exists.mp hs
  obtain ⟨content, hread⟩ := Option.isSome_iff_exists.mp hread
  simp only [hlength, hsha, Bool.and_self, Bool.not_true, Bool.false_eq_true, if_false,
    Option.bind_eq_bind, hn, hs, hread, Option.bind_some]
  by_cases hcontent : content.length = wrapUnsigned n
  swap
  · rw [if_pos hcontent]
    rfl
  rw [if_neg (not_not.mpr hcontent)]
  by_cases hdigest : P.sha256Hex content = s
  swap
  · rw [if_pos hdigest]
    rfl
  refine absurd ⟨hread, ⟨n, hn, hcontent⟩, ?_⟩ (h content)
  rw [hdigest]
  exact hs

/-- **Reading the listed files** throws nothing just if they are typed as far as they are read. -/
theorem isSome_checkFiles_iff {files : List (Bytes × Json Bytes)} :
    (P.checkFiles t dir files chain deviceCert).isSome ↔ P.FilesTyped t dir files := by
  induction files generalizing chain deviceCert with
  | nil => exact iff_of_true rfl trivial
  | cons file rest ih =>
    rw [FilesTyped]
    by_cases htyped : P.FileTyped t dir file
    swap
    · rw [checkFiles_of_not_typed htyped]
      exact iff_of_false nofun fun h => htyped h.1
    rw [and_iff_right htyped]
    by_cases hmatch : ∃ content, P.Matches t dir file content
    swap
    · rw [checkFiles_of_no_match htyped (not_exists.mp hmatch)]
      exact iff_of_true rfl fun ⟨content, h, _⟩ => absurd ⟨content, h⟩ hmatch
    obtain ⟨content, hcontent⟩ := hmatch
    have hpasses : P.Passes t dir file ↔
        (file.1 = kDeviceCertFileName → (P.json.parse content).isSome) := by
      refine ⟨fun ⟨content', h, hdoc⟩ => ?_, fun h => ⟨content, hcontent, h⟩⟩
      have hread := h.read
      rw [hcontent.read] at hread
      rwa [Option.some.inj hread]
    rw [checkFiles_of_matches hcontent, hpasses]
    split_ifs with hchain hcert
    · have hne : file.1 ≠ kDeviceCertFileName := by
        rw [hchain]
        decide
      rw [ih]
      exact ⟨fun h _ => h, fun h => h fun heq => absurd heq hne⟩
    · cases hparse : P.json.parse content with
      | none => exact iff_of_true rfl fun h => by simpa using h hcert
      | some document =>
        dsimp only
        rw [ih]
        exact ⟨fun h _ => h, fun h => h fun _ => rfl⟩
    · rw [ih]
      exact ⟨fun h _ => h, fun h => h fun heq => absurd heq hcert⟩

/-- Files that were checked are as recorded, and the chain is one of them. -/
private theorem matches_of_checkFiles {files : List (Bytes × Json Bytes)} {chain' : Bytes}
    {deviceCert' : Json Bytes}
    (h : P.checkFiles t dir files chain deviceCert = some (some (chain', deviceCert'))) :
    (∀ f ∈ files, ∃ content, P.Matches t dir f content) ∧
      (chain' = chain ∨ ∃ f ∈ files, f.1 = kChainFileName ∧ P.Matches t dir f chain') := by
  induction files generalizing chain deviceCert with
  | nil =>
    rw [checkFiles] at h
    cases h
    exact ⟨by simp, .inl rfl⟩
  | cons file rest ih =>
    have htyped : P.FileTyped t dir file := by
      by_contra hno
      rw [checkFiles_of_not_typed hno] at h
      cases h
    obtain ⟨content, hcontent⟩ : ∃ content, P.Matches t dir file content := by
      by_contra hno
      rw [checkFiles_of_no_match htyped (not_exists.mp hno)] at h
      cases h
    have hlater : ∀ {chain₁ : Bytes} {cert₁ : Json Bytes},
        P.checkFiles t dir rest chain₁ cert₁ = some (some (chain', deviceCert')) →
        (∀ f ∈ file :: rest, ∃ content, P.Matches t dir f content) ∧
          (chain' = chain₁ ∨ ∃ f ∈ rest, f.1 = kChainFileName ∧ P.Matches t dir f chain') :=
      fun hrest => ⟨List.forall_mem_cons.mpr ⟨⟨content, hcontent⟩, (ih hrest).1⟩, (ih hrest).2⟩
    have hmore : (∃ f ∈ rest, f.1 = kChainFileName ∧ P.Matches t dir f chain') →
        ∃ f ∈ file :: rest, f.1 = kChainFileName ∧ P.Matches t dir f chain' :=
      Exists.imp fun _ hf => ⟨List.mem_cons_of_mem _ hf.1, hf.2⟩
    rw [checkFiles_of_matches hcontent] at h
    split_ifs at h with hchain hcert
    · refine ⟨(hlater h).1, .inr ?_⟩
      rcases (hlater h).2 with rfl | hrest
      · exact ⟨file, List.mem_cons_self .., hchain, hcontent⟩
      · exact hmore hrest
    · cases hparse : P.json.parse content with
      | none =>
        rw [hparse] at h
        cases h
      | some document =>
        rw [hparse] at h
        exact ⟨(hlater h).1, (hlater h).2.imp_right hmore⟩
    · exact ⟨(hlater h).1, (hlater h).2.imp_right hmore⟩

end CheckFiles

/-! ### Manifests -/

/-- The document `m`, the manifest of the id `p`, is typed as far as it is read: it is an object,
and its `gid` a text if it has one; and if that is `p`, the same goes for the other members, and
for the listed files. -/
def DocumentTyped (P : Platform) (t : Files) (p : Bytes) (m : Json Bytes) : Prop :=
  ∃ id, m.value (textBytes "gid") Json.text [] = some id ∧
    (id = p → (m.value (textBytes "previous_generation") Json.text []).isSome ∧
      (m.value (textBytes "version") Json.arithmetic 0).isSome ∧
      (m.value (textBytes "provision_state") Json.text []).isSome ∧
      ∀ files, m.field? (textBytes "files") = some (.obj files) → P.FilesTyped t p files)

/-- The manifest of the id `p` is no directory, and if it is a document, it is typed. -/
structure Typed (P : Platform) (t : Files) (p : Bytes) : Prop where
  readable : (P.readFile t (dirJoin p kManifestName)).isSome
  document : ∀ s m, P.readFile t (dirJoin p kManifestName) = some s → s ≠ [] →
    P.json.parse s = some m → P.DocumentTyped t p m

/-- **Loading** throws nothing just if the manifest is typed. -/
theorem isSome_load_iff : (P.loadGeneration t p).isSome ↔ P.Typed t p := by
  rw [loadGeneration]
  cases hread : P.readFile t (dirJoin p kManifestName) with
  | none => exact iff_of_false (by simp) fun h => by simpa [hread] using h.readable
  | some s =>
    rw [Option.bind_eq_bind, Option.bind_some]
    have htyped : P.Typed t p ↔ ∀ m, s ≠ [] → P.json.parse s = some m → P.DocumentTyped t p m := by
      refine ⟨fun h m => h.document s m hread, fun h => ⟨by rw [hread]; rfl, ?_⟩⟩
      intro s' m hs'
      rw [hread] at hs'
      cases hs'
      exact h m
    rw [htyped]
    by_cases hnil : s = []
    · rw [if_pos hnil]
      exact iff_of_true rfl fun m hne => absurd hnil hne
    rw [if_neg hnil]
    cases hparse : P.json.parse s with
    | none => exact iff_of_true rfl (by simp)
    | some m =>
      have hone : (∀ m', s ≠ [] → some m = some m' → P.DocumentTyped t p m') ↔
          P.DocumentTyped t p m :=
        ⟨fun h => h m hnil rfl, fun h m' _ heq => Option.some.inj heq ▸ h⟩
      rw [hone, DocumentTyped]
      dsimp only
      cases hid : m.value (textBytes "gid") Json.text [] with
      | none => exact iff_of_false (by simp) (by simp)
      | some id =>
        rw [Option.bind_some]
        by_cases hname : id = p
        swap
        · rw [if_pos hname]
          exact iff_of_true rfl ⟨id, rfl, fun heq => absurd heq hname⟩
        subst hname
        rw [if_neg (not_not.mpr rfl)]
        have hmembers : ∀ A : Prop, (∃ id', some id = some id' ∧ (id' = id → A)) ↔ A := fun A =>
          ⟨fun h => h.choose_spec.2 (Option.some.inj h.choose_spec.1).symm,
            fun hA => ⟨id, rfl, fun _ => hA⟩⟩
        rw [hmembers]
        cases m.value (textBytes "previous_generation") Json.text [] with
        | none => exact iff_of_false (by simp) (by simp)
        | some previous =>
        cases m.value (textBytes "version") Json.arithmetic 0 with
        | none => exact iff_of_false (by simp) (by simp)
        | some version =>
        cases m.value (textBytes "provision_state") Json.text [] with
        | none => exact iff_of_false (by simp) (by simp)
        | some provisionState =>
        simp only [Option.bind_eq_bind, Option.bind_some, Option.isSome_some, true_and]
        cases hfiles : m.field? (textBytes "files") with
        | none => exact iff_of_true rfl (by simp)
        | some v =>
          cases v with
          | obj files =>
            have hobj : (∀ files', some (Json.obj files) = some (.obj files') →
                P.FilesTyped t id files') ↔ P.FilesTyped t id files :=
              ⟨fun h => h files rfl, fun h files' heq => by cases heq; exact h⟩
            rw [hobj, ← isSome_checkFiles_iff]
            dsimp only
            cases P.checkFiles t id files [] .null with
            | none => exact Iff.rfl
            | some checked =>
              refine iff_of_true ?_ rfl
              cases checked with
              | none => rfl
              | some loaded =>
                rw [Option.bind_some]
                dsimp only
                split_ifs <;> rfl
          | _ => exact iff_of_true rfl (by simp)

/-! ### What is adopted -/

/-- The generation is in the tree as its manifest records it: the manifest names it, every file
that it lists has the recorded length and digest, and the chain is one of them and not empty. -/
def Intact (P : Platform) (t : Files) (g : Generation) : Prop :=
  ∃ s m files, P.readFile t (dirJoin g.generationId kManifestName) = some s ∧
    P.json.parse s = some m ∧ m.field? (textBytes "gid") = some (.str g.generationId) ∧
    m.field? (textBytes "files") = some (.obj files) ∧
    (∀ f ∈ files, ∃ content, P.Matches t g.generationId f content) ∧
    (∃ f ∈ files, f.1 = kChainFileName ∧
      P.Matches t g.generationId f g.deviceCertChainPem) ∧
    g.deviceCertChainPem ≠ []

private theorem field?_of_value {m : Json Bytes} {k a : Bytes}
    (h : m.value k Json.text [] = some a) (ha : a ≠ []) : m.field? k = some (.str a) := by
  rw [Json.value] at h
  split_ifs at h
  cases hfield : m.field? k with
  | none =>
    rw [hfield] at h
    exact absurd (Option.some.inj h).symm ha
  | some v =>
    rw [hfield] at h
    cases v with
    | str b => rw [show b = a from Option.some.inj h]
    | _ => cases h

/-- All that loads is intact. -/
private theorem intact_of_load {g : Generation} (h : P.loadGeneration t p = some (some g))
    (hp : p ≠ []) : P.Intact t g := by
  unfold loadGeneration at h
  obtain ⟨s, hs, h⟩ := Option.bind_eq_some_iff.mp h
  split_ifs at h with hnil
  · cases h
  cases hparse : P.json.parse s with
  | none =>
    rw [hparse] at h
    cases h
  | some m =>
    rw [hparse] at h
    obtain ⟨id, hid, h⟩ := Option.bind_eq_some_iff.mp h
    split_ifs at h with hname
    · cases h
    obtain rfl := not_not.mp hname
    obtain ⟨previous, -, h⟩ := Option.bind_eq_some_iff.mp h
    obtain ⟨version, -, h⟩ := Option.bind_eq_some_iff.mp h
    obtain ⟨provisionState, -, h⟩ := Option.bind_eq_some_iff.mp h
    split at h
    · rename_i files hfiles
      obtain ⟨checked, hchecked, h⟩ := Option.bind_eq_some_iff.mp h
      split at h
      · cases h
      · rename_i chain deviceCert
        split_ifs at h with hempty
        · cases h
        cases h
        have hchain : chain ≠ [] := by
          rintro rfl
          simp at hempty
        obtain ⟨hmatches, hlisted⟩ := matches_of_checkFiles hchecked
        exact ⟨s, m, files, hs, hparse, field?_of_value hid hp, hfiles, hmatches,
          hlisted.resolve_left hchain, hchain⟩
    · cases h

/-! ### Whether recovery ends -/

/-- What `CURRENT` leads to can be read to its end: `CURRENT` is no directory, the manifests that
the links lead to are typed, and the links do not come back to a generation. -/
structure Ends (P : Platform) (t : Files) : Prop where
  pointer : t.node P.currentPath ≠ some .dir
  typed : ∀ ptr p, P.readCurrentPointer t = some (some ptr) → P.Reaches t ptr p → P.Typed t p
  acyclic : ∀ ptr p, P.readCurrentPointer t = some (some ptr) → P.Reaches t ptr p →
    ¬ TransGen (P.Links t) p p

private theorem readCurrentPointer_eq_none_iff :
    P.readCurrentPointer t = none ↔ t.node P.currentPath = some .dir := by
  rw [readCurrentPointer]
  cases t.node P.currentPath with
  | none => simp [readNode]
  | some v => cases v <;> simp [readNode]

private theorem readCurrentPointer_ne_nil {ptr : Bytes}
    (h : P.readCurrentPointer t = some (some ptr)) : ptr ≠ [] := by
  rw [readCurrentPointer] at h
  obtain ⟨content, -, h⟩ := Option.bind_eq_some_iff.mp h
  dsimp only at h
  rintro rfl
  split_ifs at h with hnil
  · cases h
  · exact hnil (Option.some.inj (Option.some.inj h))

/-- A round throws just if the manifest is not typed. -/
private theorem round_eq_threw_iff : P.round t p = .inl .threw ↔ ¬ P.Typed t p := by
  rw [← isSome_load_iff, round]
  cases hload : P.loadGeneration t p with
  | none => exact iff_of_true rfl (by simp)
  | some r =>
    refine iff_of_false ?_ (by simp)
    cases r with
    | some g => simp
    | none =>
      -- the manifest was read once, so it is read again
      have hprev : P.previousOf t p ≠ none := by
        intro hnone
        rw [previousOf] at hnone
        cases hread : P.readFile t (dirJoin p kManifestName) with
        | none =>
          rw [loadGeneration, hread] at hload
          cases hload
        | some s =>
          rw [hread, Option.bind_eq_bind, Option.bind_some] at hnone
          split_ifs at hnone
      obtain ⟨next, hnext⟩ := Option.ne_none_iff_exists'.mp hprev
      rw [hnext]
      dsimp only
      split_ifs <;> simp

private theorem search_eq_threw_iff {ptr : Bytes} :
    P.search t ptr = .threw ↔ ∃ p, P.Reaches t ptr p ∧ ¬ P.Typed t p := by
  constructor
  · intro h
    obtain ⟨p, hreach, hround⟩ := exists_round_of_search (r := .threw) nofun h
    exact ⟨p, hreach, round_eq_threw_iff.mp hround⟩
  · rintro ⟨p, hreach, htyped⟩
    have hround := round_eq_threw_iff.mpr htyped
    rw [Reaches, ← goes_round] at hreach
    rw [search_eq_iff (r := .threw) nofun, loop_eq_of_reaches hreach]
    exact mem_loop_of_stop hround

/-- Over a tree, the opening returns just if what `CURRENT` leads to can be read to its end. -/
private theorem openResult_returned_iff {st : Store} :
    (∃ b, (P.openResult st t).1 = .returned b) ↔ P.Ends t := by
  rw [openResult]
  rcases hptr : P.readCurrentPointer t with _ | _ | ptr
  · refine iff_of_false (by simp) fun h => h.pointer ?_
    exact readCurrentPointer_eq_none_iff.mp hptr
  · have hnode : t.node P.currentPath ≠ some .dir := by
      rw [Ne, ← readCurrentPointer_eq_none_iff, hptr]
      exact Option.some_ne_none _
    exact iff_of_true ⟨true, rfl⟩ ⟨hnode, by simp [hptr], by simp [hptr]⟩
  · have hnode : t.node P.currentPath ≠ some .dir := by
      rw [Ne, ← readCurrentPointer_eq_none_iff, hptr]
      exact Option.some_ne_none _
    have hends : P.Ends t ↔ P.search t ptr ≠ .threw ∧ P.search t ptr ≠ .endless := by
      rw [Ne, Ne, search_eq_threw_iff, search_eq_endless_iff]
      constructor
      · intro h
        constructor
        · rintro ⟨p, hreach, hno⟩
          exact hno (h.typed ptr p hptr hreach)
        · rintro ⟨p, hreach, hcycle⟩
          exact h.acyclic ptr p hptr hreach hcycle
      · rintro ⟨htyped, hcycle⟩
        refine ⟨hnode, fun ptr' p hptr' hreach => ?_, fun ptr' p hptr' hreach hp => ?_⟩ <;>
        · rw [hptr] at hptr'
          cases hptr'
          first
          | exact not_not.mp fun hno => htyped ⟨p, hreach, hno⟩
          | exact hcycle ⟨p, hreach, hp⟩
    rw [hends]
    dsimp only
    cases P.search t ptr with
    | found g => exact iff_of_true ⟨true, rfl⟩ (by simp)
    | exhausted => exact iff_of_true ⟨false, rfl⟩ (by simp)
    | threw => exact iff_of_false (by simp) fun h => h.1 rfl
    | endless => exact iff_of_false (by simp) fun h => h.2 rfl

/-- What an opening that ends with `a` has adopted is intact in the tree that it has read, and
one that has not returned `true` has adopted nothing. -/
def Adopts (P : Platform) (d : Disk Bytes UInt8) (e : Env) (st : Store) (a : Opened × Store) :
    Prop :=
  (a.1 = .returned true → ∀ g, a.2.current = some g →
    ∃ d₁ es, makeDirs P.generationsDir ⟨d, e.events⟩ = .done true ⟨d₁, es⟩ ∧
      P.Intact d₁.tree g) ∧
  (a.1 ≠ .returned true → a.2.current = st.current)

theorem intact_of_openResult {st : Store} {g : Generation}
    (htrue : (P.openResult st t).1 = .returned true)
    (hcurrent : (P.openResult st t).2.current = some g) : P.Intact t g := by
  rw [openResult] at htrue hcurrent
  rcases hptr : P.readCurrentPointer t with _ | _ | ptr
  · simp [hptr] at htrue
  · simp [hptr] at hcurrent
  · simp only [hptr] at htrue hcurrent
    cases hsearch : P.search t ptr with
    | found g' =>
      rw [hsearch] at hcurrent
      obtain rfl := Option.some.inj hcurrent
      obtain ⟨p, hreach, hround⟩ :=
        exists_round_of_search (r := .found g') (fun hne => by cases hne) hsearch
      have hp : p ≠ [] := by
        rcases ReflTransGen.cases_tail hreach with rfl | ⟨q, -, hlink⟩
        · exact readCurrentPointer_ne_nil hptr
        · exact hlink.nonempty
      refine intact_of_load ?_ hp
      rw [round] at hround
      split at hround
      · cases hround
      · rename_i hload
        cases hround
        exact hload
      · split at hround
        · cases hround
        · split_ifs at hround
          cases hround
    | exhausted => simp [hsearch] at htrue
    | threw => simp [hsearch] at htrue
    | endless => simp [hsearch] at htrue

private theorem adopts_of_done {d : Disk Bytes UInt8} {e : Env} {st : Store} {a : Opened × Store}
    {s : Session Bytes UInt8} (h : P.openAndRecover e st ⟨d, e.events⟩ = .done a s) :
    P.Adopts d e st a := by
  rcases open_done h with ⟨-, rfl⟩ | ⟨⟨d₁, es⟩, hmade, rfl⟩
  · exact ⟨by simp, fun _ => rfl⟩
  refine ⟨fun htrue g hg => ⟨d₁, es, hmade, intact_of_openResult htrue hg⟩, fun hne => ?_⟩
  revert hne
  rw [openResult]
  rcases P.readCurrentPointer d₁.tree with _ | _ | ptr
  · exact fun _ => rfl
  · exact fun hne => absurd rfl hne
  · dsimp only
    cases P.search d₁.tree ptr with
    | found g => exact fun hne => absurd rfl hne
    | exhausted => exact fun _ => rfl
    | threw => exact fun _ => rfl
    | endless => exact fun _ => rfl

/-- **Recovery.** Whatever is on the disk and is done to its system calls, an `openAndRecover`
that is not killed returns, having adopted an intact generation or none, if and only if what
`CURRENT` leads to can be read to its end, once the directory of generations is there. -/
theorem recovery_ends_iff {d : Disk Bytes UInt8} {e : Env} {st : Store} :
    (∀ a s, P.openAndRecover e st ⟨d, e.events⟩ = .done a s →
      (∃ b, a.1 = .returned b) ∧ P.Adopts d e st a) ↔
    ∀ d₁ es, makeDirs P.generationsDir ⟨d, e.events⟩ = .done true ⟨d₁, es⟩ → P.Ends d₁.tree := by
  constructor
  · intro h d₁ es hmade
    have hreturned : ∃ b, (P.openResult st d₁.tree).1 = .returned b := by
      by_contra hno
      have hrun := open_of_not_returned (e := e) hmade (not_exists.mp hno)
      exact hno (h _ _ hrun).1
    exact openResult_returned_iff.mp hreturned
  · intro h a s hrun
    refine ⟨?_, adopts_of_done hrun⟩
    rcases open_done hrun with ⟨-, rfl⟩ | ⟨⟨d₁, es⟩, hmade, rfl⟩
    · exact ⟨false, rfl⟩
    · exact openResult_returned_iff.mpr (h d₁ es hmade)

/-! ### Manifests edited by hand -/

open Bench in
/-- A manifest that names its own generation as the one before. -/
def selfLinked : Json Bytes :=
  .obj [(textBytes "gid", .str (textBytes "a")),
    (textBytes "previous_generation", .str (textBytes "a"))]

open Bench in
/-- A store with the one generation `a`, whose manifest is the given document. -/
def edited (m : Json Bytes) : Disk Bytes UInt8 :=
  let dir := textBytes "a" :: bench.generationsDir
  let write : Program Bytes UInt8 Unit := do
    let _ ← makeDirs dir
    let _ ← writeFileAtomic kManifestName dir (render m)
    let _ ← writeFileAtomic (textBytes "CURRENT") bench.root (textBytes "a" ++ [newline])
  match write ⟨emptyDisk, []⟩ with
  | .done _ s => s.disk
  | .crashed d => d

open Bench in
/-- With a manifest that names itself the opening does not end, and with an array for a manifest it
throws. -/
theorem recovery_not_ending :
    (platform [selfLinked]).openValue (edited selfLinked) (env 0) = some (.endless, .fresh) ∧
      (platform [.arr []]).openValue (edited (.arr [])) (env 0) = some (.threw, .fresh) := by
  constructor <;> decide +kernel

end Platform

end TboxSec.CertStore
