import TboxSec.Hsm.Bench

/-!
# A device key that exists is usable

Existence is decided by the metadata record alone, which `delete_key` removes last. A deletion
that is cut short after its first removal leaves a key that exists and has no private key: it
never loads, and `generate_device_key` reports it as existing and fails.

* `existing_keys_usable`: while no deletion is cut there, every existing key loads with the
  key pair of one successful generation, and `generate_device_key` ends with a usable key or
  with an error that a later call repairs. A deletion that is cut there always breaks this.

* `Loads` and `Usable`: the key loads now, and in every later process.
* `Sys.Ok` is the invariant of the runs, and `step_ok` and `run_ok` keep it.
* `repaired`: from a good machine, a start and a generation in a calm environment end with a usable
  key.
* `not_existingUsable_of_cut`: a deletion that is cut between its removals breaks a key.
-/

namespace TboxSec.Hsm

open Canonical Crash

variable {L : Library} {ω : Oracle} {s : Sys}

/-! ### Usable keys -/

/-- The key loads with the key pair of `kd`, from the cache and from the store. -/
structure Loads (L : Library) (w : World) (keyId : String) (kd : KeyData) : Prop where
  fetched : ∀ ω : Oracle, ω.reads = true → ∃ c w',
    fetchKey L ω keyId w = .done (.ok c) w' ∧ c.pub = kd.pub ∧ c.priv = kd.priv
  stored : ∀ ω : Oracle, ω.reads = true → ∃ c,
    loadKeyFromStore L ω w.mem.encryptionKey w.disk.store keyId = .ok c ∧
      c.pub = kd.pub ∧ c.priv = kd.priv

/-- `kd` comes from a successful generation of the key, and the key loads with it: in this
process, once it is initialized, and in any later one. -/
structure Usable (L : Library) (s : Sys) (keyId : String) (kd : KeyData) : Prop where
  generated : (keyId, kd) ∈ s.log
  now : s.mem.initialized = true → Loads L s.world keyId kd
  later : ∀ ω : Oracle, ω.StoreOnly → ω.kek.opens = true → ∃ w,
    engineInitialize ω ⟨s.disk, Memory.fresh, 0⟩ = .done .success w ∧ Loads L w keyId kd

/-- Every existing key is usable. -/
def ExistingUsable (L : Library) (s : Sys) : Prop :=
  ∀ keyId (ω : Oracle), keyExists ω s.world keyId = true → ∃ kd, Usable L s keyId kd

/-- No deletion of an existing key is cut short after the private record is removed. -/
def DeletesWhole (s : Sys) (l : Label) : Prop :=
  ∀ vin ecuUid, l.call = .delete vin ecuUid → s.mem.initialized = true →
    isValidKeyId (makeKeyId vin ecuUid) = true →
      (s.disk.store (metadataRecord (makeKeyId vin ecuUid))).isSome = true →
        l.oracle.write 0 = .ok → l.oracle.write 1 = .ok

/-- The machine between calls is good. -/
def Sys.Ok (L : Library) (s : Sys) : Prop := World.Ok L s.log s.world

/-! ### Calls of the engine -/

/-- A property of the state and the reply after a program. -/
theorem settle_of_wp {α : Type} {m : HsmM α} {Q : α → World → Prop} {C : Disk → Prop}
    {P : Sys × Reply → Prop} (reply : α → Reply) (h : Prog.wp m Q C s.world)
    (hdone : ∀ a w, Q a w → P (⟨w.disk, w.mem, s.log⟩, reply a))
    (hcrash : ∀ d, C d → P (⟨d, Memory.fresh, s.log⟩, .died)) :
    P (s.settle (m s.world) reply) := by
  unfold Prog.wp at h
  unfold Sys.settle
  cases hm : m s.world with
  | done a w =>
    rw [hm] at h
    exact hdone a w h
  | crashed d =>
    rw [hm] at h
    exact hcrash d h

/-- **Initialization of the engine.** -/
theorem wp_engineInitialize {log : List (String × KeyData)} {w : World} (h : w.Ok L log)
    (hω : ω.StoreOnly) :
    Prog.wp (engineInitialize ω)
      (fun rc w' => World.Ok L log w' ∧ (w.disk.kek.isSome = true → w'.disk = w.disk) ∧
        (rc = .success → w'.mem.initialized = true) ∧
        (ω.kek.opens = true → w.disk.kek.isSome = true ∨ ω.kek.random.isSome = true →
          rc = .success))
      (fun _ => False) w := by
  unfold engineInitialize
  rw [Prog.wp_bind]
  refine Prog.wp_mono (wp_hsmInitialize h hω)
    (fun rc w' ⟨hok, hdisk, hkey, hsuccess⟩ => ?_) fun _ => id
  by_cases hrc : rc = .success
  · rw [if_pos hrc, Prog.wp_bind, Prog.wp_modify, Prog.wp_pure]
    refine ⟨⟨hok.disk, fun _ => hkey hrc, fun k c hc => ?_⟩, hdisk, fun _ => rfl, hsuccess⟩
    exact ⟨rfl, (hok.cached k c hc).2⟩
  · rw [if_neg hrc, Prog.wp_pure]
    exact ⟨hok, hdisk, fun hsuccess => absurd hsuccess hrc, hsuccess⟩

/-- A recorded key loads in an initialized process. -/
theorem World.Ok.loads (hL : L.Lawful) {log : List (String × KeyData)} {w : World}
    (h : w.Ok L log) (hinit : w.mem.initialized = true) {k : String} {kd : KeyData}
    (hkd : Recorded L log w.disk k kd) : Loads L w k kd := by
  have hkey := h.key hinit
  constructor
  · intro ω hreads
    have hfetch := wp_fetchKey (ω := ω) hL h hinit k
    cases hm : fetchKey L ω k w with
    | done r w' =>
      obtain ⟨c, rfl, hc⟩ := (Prog.wp_done hfetch hm).2.2 kd hkd hreads
      exact ⟨c, w', rfl, hc⟩
    | crashed d => exact absurd (Prog.wp_crashed hfetch hm) id
  · intro ω hreads
    exact ⟨kd.loaded, load_of_recorded hL hkd hkey (h.disk.kek _ hkey) hreads, rfl, rfl⟩

/-- **A recorded key is usable.** -/
theorem Sys.Ok.usable (hL : L.Lawful) (h : s.Ok L) {k : String} {kd : KeyData}
    (hkd : Recorded L s.log s.disk k kd) : Usable L s k kd := by
  refine ⟨hkd.1, fun hinit => h.loads hL hinit hkd, fun ω hω hopens => ?_⟩
  have hstart := wp_engineInitialize (h.disk.fresh 0) hω
  obtain ⟨-, -, key, -, hkek, -, -⟩ := id hkd
  have hkek : s.disk.kek.isSome = true := Option.isSome_of_eq_some hkek
  cases hm : engineInitialize ω ⟨s.disk, Memory.fresh, 0⟩ with
  | done rc w =>
    obtain ⟨hok, hdisk, hinit, hsuccess⟩ := Prog.wp_done hstart hm
    obtain rfl := hsuccess hopens (.inl hkek)
    refine ⟨w, rfl, hok.loads hL (hinit rfl) ?_⟩
    rw [hdisk hkek]
    exact hkd
  | crashed d => exact absurd (Prog.wp_crashed hstart hm) id

private theorem Sys.Ok.existingUsable (hL : L.Lawful) (h : s.Ok L) : ExistingUsable L s := by
  intro k ω hexists
  obtain ⟨kd, hkd, -⟩ := World.Ok.usable hL h hexists
  exact ⟨kd, h.usable hL hkd⟩

/-! ### Generation -/

private theorem generatedBy_of_exists {k : String} (h : keyExists ω s.world k = true) (r : Reply) :
    generatedBy L ω s k r = [] := by
  unfold generatedBy
  split
  · rw [h, Bool.not_true, Bool.and_false]
    rfl
  · rfl

private theorem generatedBy_of_failed {k : String} {rc : ErrorCode} (kp : KeyPair)
    (hrc : rc ≠ .success) :
    generatedBy L ω s k (.pair rc kp) = [] := by
  unfold generatedBy
  split
  · rename_i heq
    cases heq
    exact absurd rfl hrc
  · rfl

private theorem generatedBy_died (k : String) : generatedBy L ω s k .died = [] := by
  unfold generatedBy
  split
  · rename_i heq
    cases heq
  · rfl

private theorem generatedBy_of_success {k : String} {scalar : ℕ} (kp : KeyPair)
    (hscalar : ω.scalar = some scalar) (hinit : s.mem.initialized = true)
    (h : keyExists ω s.world k = false) :
    generatedBy L ω s k (.pair .success kp) =
      [(k, generatedKey L.curve keyAlgorithmEcdsaP256 ω.now scalar)] := by
  simp only [generatedBy, hscalar, hinit, h, Bool.not_false, Bool.and_self, if_true]

/-- What one call of `generate_device_key` does to a good machine. -/
structure Generated (L : Library) (ω : Oracle) (s : Sys) (k : String) (r : Sys × Reply) :
    Prop where
  ok : r.1.Ok L
  recorded : ∀ kp, r.2 = .pair .success kp → ∃ kd, Recorded L r.1.log r.1.disk k kd ∧
    kp.publicKey = kd.pub
  succeeds : ω.Calm → isValidKeyId k = true → s.mem.initialized = true →
    ∃ kp, r.2 = .pair .success kp

/-- **The generation step.** -/
theorem generate_step (hL : L.Lawful) (h : s.Ok L) (hreads : ω.reads = true)
    (vin ecuUid : String) :
    Generated L ω s (makeKeyId vin ecuUid) (stepCall L ω s (.generate vin ecuUid)) := by
  set k := makeKeyId vin ecuUid with hk
  have hstep : stepCall L ω s (.generate vin ecuUid) =
      (fun r : Sys × Reply => ({ r.1 with log := generatedBy L ω s k r.2 ++ r.1.log }, r.2))
        (s.settle (generateDeviceKey L ω vin ecuUid s.world) fun r => .pair r.1 r.2) := rfl
  rw [hstep]
  -- a reply that is not a success leaves the log alone
  have hfailed : ∀ (w : World) rc kp, rc ≠ .success → World.Ok L s.log w →
      (ω.Calm → isValidKeyId k = true → s.mem.initialized = true → rc = .success) →
      Generated L ω s k (⟨w.disk, w.mem, generatedBy L ω s k (.pair rc kp) ++ s.log⟩,
        .pair rc kp) := by
    intro w rc kp hrc hok hcalm
    rw [generatedBy_of_failed kp hrc]
    refine ⟨hok.writes 0, fun kp' hkp => ?_, fun hω hvalid hinit => ?_⟩
    · cases hkp
      exact absurd rfl hrc
    · exact absurd (hcalm hω hvalid hinit) hrc
  cases hinit : s.mem.initialized with
  | false =>
    have hrun : generateDeviceKey L ω vin ecuUid s.world =
        .done (.notInitialized, {}) s.world := by
      change (if (!s.mem.initialized) = true then _ else _ : HsmM (ErrorCode × KeyPair)) s.world = _
      rw [hinit]
      rfl
    rw [hrun]
    exact hfailed s.world .notInitialized {} (by decide) h fun _ _ hi => by
      rw [hinit] at hi
      cases hi
  | true =>
    cases hexists : keyExists ω s.world k with
    | true =>
      have hrun : generateDeviceKey L ω vin ecuUid s.world = existingPair L ω k 0 s.world := by
        change (if (!s.mem.initialized) = true then _ else
          if keyExists ω s.world k = true then _ else _ : HsmM (ErrorCode × KeyPair)) s.world = _
        rw [hinit, hexists]
        rfl
      obtain ⟨kd, hkd, -⟩ := World.Ok.usable hL h hexists
      have hvalid : isValidKeyId k = true := by
        rw [keyExists, Bool.and_eq_true] at hexists
        exact hexists.1
      have hspec : Prog.wp (existingPair L ω k 0)
          (fun r w => World.Ok L s.log w ∧ SameButCache s.world w ∧ r.1 = .success ∧
            r.2.publicKey = kd.pub) (fun _ => False) s.world := by
        unfold existingPair
        rw [Prog.wp_bind]
        refine Prog.wp_mono (wp_exportPublicKey hL h hinit k)
          (fun r w hpost => ?_) fun _ => id
        obtain ⟨hok, hsame, hpub⟩ := hpost
        rw [hpub kd hkd hreads hvalid]
        exact ⟨hok, hsame, rfl, rfl⟩
      rw [hrun]
      refine settle_of_wp (P := fun r => Generated L ω s k
        ({ r.1 with log := generatedBy L ω s k r.2 ++ r.1.log }, r.2)) _ hspec
        (fun r w hpost => ?_) fun _ => False.elim
      obtain ⟨hok, hsame, hrc, hpub⟩ := hpost
      obtain ⟨rc, kp₀⟩ := r
      obtain rfl : rc = .success := hrc
      dsimp only
      rw [generatedBy_of_exists hexists]
      refine ⟨hok.writes 0, fun kp hkp => ⟨kd, ?_, ?_⟩, fun _ _ _ => ⟨kp₀, rfl⟩⟩
      · exact hsame.disk ▸ hkd
      · cases hkp
        exact hpub
    | false =>
      have hrun : generateDeviceKey L ω vin ecuUid s.world =
          generateKeyPair L ω k keyAlgorithmEcdsaP256 s.world := by
        change (if (!s.mem.initialized) = true then _ else
          if keyExists ω s.world k = true then _ else _ : HsmM (ErrorCode × KeyPair)) s.world = _
        rw [hinit, hexists]
        rfl
      have hnone : isValidKeyId k = true → s.world.disk.store (metadataRecord k) = none := by
        intro hvalid
        rw [keyExists, hvalid, hreads] at hexists
        simpa using (Bool.or_eq_false_iff.mp hexists).2
      rw [hrun]
      refine settle_of_wp (P := fun r => Generated L ω s k
        ({ r.1 with log := generatedBy L ω s k r.2 ++ r.1.log }, r.2)) _
        (wp_generateKeyPair h hinit keyAlgorithmEcdsaP256 hnone)
        (fun r w hpost => ?_) fun d hd => ?_
      · obtain ⟨hnew, hold, hcalm⟩ := hpost
        obtain ⟨rc, kp⟩ := r
        by_cases hrc : rc = .success
        · subst hrc
          obtain ⟨scalar, hscalar, hok, hkd, hpub⟩ := hnew rfl
          dsimp only
          rw [generatedBy_of_success kp hscalar hinit hexists]
          refine ⟨hok.writes 0, fun kp' hkp => ⟨_, hkd, ?_⟩, fun _ _ _ => ⟨kp, rfl⟩⟩
          cases hkp
          exact hpub
        · exact hfailed w rc kp hrc (hold hrc) fun hω hvalid _ => hcalm hω hvalid
      · dsimp only
        rw [generatedBy_died]
        exact ⟨hd.1.fresh 0, by simp, fun hω _ _ => absurd hω hd.2⟩

/-! ### The step -/

/-- A look at a key keeps the machine good. -/
private theorem look_ok {α : Type} {m : HsmM α} {reply : α → Reply}
    (hm : Prog.wp m (fun _ w => World.Ok L s.log w) (fun _ => False) s.world) :
    (s.settle (m s.world) reply).1.Ok L :=
  settle_of_wp (P := fun r => r.1.Ok L) reply hm (fun _ _ hok => hok.writes 0) fun _ => False.elim

private theorem wp_getDeviceKey (hL : L.Lawful) (h : s.Ok L) (vin ecuUid : String) :
    Prog.wp (getDeviceKey L ω vin ecuUid) (fun _ w => World.Ok L s.log w) (fun _ => False)
      s.world := by
  unfold getDeviceKey
  rw [Prog.wp_bind, Prog.wp_gets]
  cases hinit : s.mem.initialized with
  | false =>
    rw [if_pos (by simp [Sys.world, hinit])]
    exact h
  | true =>
    rw [if_neg (by simp [Sys.world, hinit])]
    dsimp only
    split
    · exact h
    · unfold existingPair
      rw [Prog.wp_bind]
      exact Prog.wp_mono (wp_exportPublicKey hL h hinit _) (fun _ _ hr => hr.1) fun _ => id

private theorem wp_engineSign (hL : L.Lawful) (h : s.Ok L) (vin ecuUid : String) (data : Bytes) :
    Prog.wp (engineSign L ω vin ecuUid data) (fun _ w => World.Ok L s.log w) (fun _ => False)
      s.world := by
  unfold engineSign
  rw [Prog.wp_bind, Prog.wp_gets]
  cases hinit : s.mem.initialized with
  | false =>
    rw [if_pos (by simp [Sys.world, hinit])]
    exact h
  | true =>
    rw [if_neg (by simp [Sys.world, hinit])]
    dsimp only
    split
    · exact h
    · exact Prog.wp_mono (wp_sign hL h hinit _ data) (fun _ _ hr => hr.1) fun _ => id

private theorem wp_deleteDeviceKey (h : s.Ok L) {vin ecuUid : String}
    (hwhole : DeletesWhole s ⟨.delete vin ecuUid, ω⟩) :
    Prog.wp (deleteDeviceKey ω vin ecuUid) (fun _ w => World.Ok L s.log w) (Disk.Ok L s.log)
      s.world := by
  unfold deleteDeviceKey
  rw [Prog.wp_bind, Prog.wp_gets]
  cases hinit : s.mem.initialized with
  | false =>
    rw [if_pos (by simp [Sys.world, hinit])]
    exact h
  | true =>
    rw [if_neg (by simp [Sys.world, hinit])]
    exact wp_deleteKey h rfl fun hvalid hmeta => hwhole vin ecuUid rfl hinit hvalid hmeta

/-- **One step.** -/
theorem step_ok (hL : L.Lawful) (h : s.Ok L) {l : Label} (hω : l.oracle.StoreOnly)
    (hwhole : DeletesWhole s l) : ((system L).step s l).1.Ok L := by
  obtain ⟨call, ω⟩ := l
  cases call with
  | start =>
    exact settle_of_wp (P := fun r => r.1.Ok L) .code (wp_engineInitialize h hω)
      (fun _ _ hr => hr.1.writes 0) fun _ => False.elim
  | generate vin ecuUid => exact (generate_step hL h hω.reads vin ecuUid).ok
  | get vin ecuUid => exact look_ok (wp_getDeviceKey hL h vin ecuUid)
  | «exists» vin ecuUid => exact h
  | sign vin ecuUid data => exact look_ok (wp_engineSign hL h vin ecuUid data)
  | delete vin ecuUid =>
    exact settle_of_wp (P := fun r => r.1.Ok L) .code (wp_deleteDeviceKey h hwhole)
      (fun _ _ hr => hr.writes 0) fun _ hd => hd.fresh 0
  | restart => exact h.disk.fresh 0

private theorem new_ok : Sys.new.Ok L :=
  ⟨⟨nofun, fun _ hk => nomatch hk⟩, nofun, nofun⟩

/-- **Runs.** -/
theorem run_ok (hL : L.Lawful) {ls : List Label} (hscope : ∀ l ∈ ls, l.oracle.StoreOnly)
    (hwhole : (system L).Along DeletesWhole Sys.new ls) : ((system L).run Sys.new ls).Ok L := by
  have hsteps : (system L).Along (fun s l => l.oracle.StoreOnly ∧ DeletesWhole s l) Sys.new ls :=
    Machine.along_mono _ (fun _ l hl h => ⟨hscope l hl, h⟩) hwhole
  exact Machine.run_invariant _ (I := Sys.Ok L) (fun _ _ h hl => step_ok hL h hl.1 hl.2) new_ok
    hsteps

/-! ### A deletion that is cut short -/

/-- The start of the engine leaves the store alone. -/
private theorem wp_engineInitialize_store (w : World) :
    Prog.wp (engineInitialize ω) (fun _ w' => w'.disk.store = w.disk.store) (fun _ => True) w := by
  unfold engineInitialize
  rw [Prog.wp_bind]
  refine Prog.wp_mono (Q := fun _ w' => w'.disk.store = w.disk.store) (C := fun _ => True) ?_
    (fun rc w' hw => ?_) fun _ => id
  · unfold hsmInitialize
    rw [Prog.wp_bind, Prog.wp_gets]
    cases w.disk.kek with
    | some file =>
      unfold Prog.wp
      dsimp only
      unfold loadEncryptionKey
      split
      · rfl
      · split <;> rfl
    | none =>
      unfold Prog.wp
      dsimp only
      unfold generateEncryptionKey
      split
      · rfl
      · split
        · rfl
        · dsimp only
          split
          · trivial
          · rfl
  · split
    · exact hw
    · exact hw

/-- A key loads only with its private record. -/
private theorem private_of_load {key : Bytes} {store : String → Option String} {k : String}
    {c : KeyData}
    (h : loadKeyFromStore L ω key store k = .ok c) : (store (privateRecord k)).isSome = true := by
  by_contra hnone
  rw [Option.not_isSome_iff_eq_none] at hnone
  simp only [loadKeyFromStore, hnone] at h
  repeat' split at h
  all_goals cases h

/-- A deletion that is cut short after its first removal. -/
private theorem wp_deleteDeviceKey_cut {vin ecuUid : String} (hinit : s.mem.initialized = true)
    (hvalid : isValidKeyId (makeKeyId vin ecuUid) = true) (hfirst : ω.write 0 = .ok)
    (hsecond : ω.write 1 ≠ .ok) :
    let store := Function.update s.disk.store (privateRecord (makeKeyId vin ecuUid)) none
    Prog.wp (deleteDeviceKey ω vin ecuUid) (fun _ w => w.disk.store = store)
      (fun d => d.store = store) s.world := by
  unfold deleteDeviceKey deleteKey
  rw [Prog.wp_bind, Prog.wp_gets, if_neg (by simp [Sys.world, hinit])]
  rw [if_neg (by simp [hvalid]), Prog.wp_bind, Prog.wp_modify, Prog.wp_bind]
  have hzero : ω.write 0 ≠ .failed ∧ ω.write 0 ≠ .crash := by simp [hfirst]
  refine wp_change (fun _ => ?_) (fun hw => absurd hw hzero.1) fun hw => absurd hw hzero.2
  simp only [Bool.not_true, Bool.false_eq_true, if_false]
  rw [Prog.wp_bind]
  exact wp_change (fun hw => absurd hw hsecond) (fun _ => rfl) fun _ => rfl

/-- **A cut deletion** leaves a key that exists and does not load. -/
theorem not_existingUsable_of_cut {l : Label} (hreads : l.oracle.reads = true)
    (hcut : ¬ DeletesWhole s l) : ¬ ExistingUsable L ((system L).step s l).1 := by
  obtain ⟨call, ω⟩ := l
  replace hreads : ω.reads = true := hreads
  unfold DeletesWhole at hcut
  push Not at hcut
  obtain ⟨vin, ecuUid, rfl, hinit, hvalid, hmeta, hfirst, hsecond⟩ := hcut
  set k := makeKeyId vin ecuUid with hk
  set s' := ((system L).step s ⟨.delete vin ecuUid, ω⟩).1 with hs'
  have hdisk : s'.disk.store = Function.update s.disk.store (privateRecord k) none :=
    settle_of_wp (P := fun r => r.1.disk.store = _) .code
      (wp_deleteDeviceKey_cut hinit hvalid hfirst hsecond) (fun _ _ h => h) fun _ h => h
  intro husable
  have hexists : keyExists ω s'.world k = true := by
    have hmeta' : (s'.disk.store (metadataRecord k)).isSome = true := by
      rw [hdisk, update_private_metadata]
      exact hmeta
    simp only [keyExists, hvalid, hreads, Sys.world, hmeta', Bool.and_self, Bool.or_true]
  obtain ⟨kd, hkd⟩ := husable k ω hexists
  obtain ⟨w, hstart, hloads⟩ := hkd.later Bench.calm Bench.calm_calm.toStoreOnly rfl
  obtain ⟨c, hload, -⟩ := hloads.stored Bench.calm rfl
  have hkept := Prog.wp_done (wp_engineInitialize_store ⟨s'.disk, Memory.fresh, 0⟩) hstart
  have hsome := private_of_load hload
  rw [hkept, hdisk, Function.update_self] at hsome
  cases hsome

/-! ### The result -/

/-- A generation ends with a usable key. -/
def EndsUsable (L : Library) (k : String) (r : Sys × Reply) : Prop :=
  ∃ kp kd, r.2 = .pair .success kp ∧ kp.publicKey = kd.pub ∧ Usable L r.1 k kd

private theorem Generated.endsUsable (hL : L.Lawful) {k : String} {r : Sys × Reply}
    (h : Generated L ω s k r) {kp : KeyPair} (hr : r.2 = .pair .success kp) :
    EndsUsable L k r := by
  obtain ⟨kd, hkd, hpub⟩ := h.recorded kp hr
  exact ⟨kp, kd, hr, hpub, h.ok.usable hL hkd⟩

/-- **Repair.** From a good machine, starting and generating in a calm environment ends with a
usable key. -/
theorem repaired (hL : L.Lawful) (h : s.Ok L) {vin ecuUid : String}
    (hvalid : isValidKeyId (makeKeyId vin ecuUid) = true) {ω₁ ω₂ : Oracle} (h₁ : ω₁.Calm)
    (h₂ : ω₂.Calm) :
    EndsUsable L (makeKeyId vin ecuUid)
      ((system L).step ((system L).step s ⟨.start, ω₁⟩).1 ⟨.generate vin ecuUid, ω₂⟩) := by
  have hstart : ((system L).step s ⟨.start, ω₁⟩).1.Ok L ∧
      ((system L).step s ⟨.start, ω₁⟩).1.mem.initialized = true :=
    settle_of_wp (P := fun r => r.1.Ok L ∧ r.1.mem.initialized = true) .code
      (wp_engineInitialize h h₁.toStoreOnly)
      (fun _ _ hr => ⟨hr.1.writes 0, hr.2.2.1 (hr.2.2.2 h₁.opens (.inr h₁.random))⟩)
      fun _ => False.elim
  have hgenerate := generate_step hL hstart.1 h₂.reads vin ecuUid
  obtain ⟨kp, hkp⟩ := hgenerate.succeeds h₂ hvalid hstart.2
  exact hgenerate.endsUsable hL hkp

/-- **A device key that exists is usable**, as long as no deletion is cut short between its two
removals; and a deletion that is cut there breaks it. Existence is decided by the metadata record
alone, which is removed last, so such a deletion leaves a key that exists and has no private key. -/
theorem existing_keys_usable (hL : L.Lawful) {ls : List Label}
    (hscope : ∀ l ∈ ls, l.oracle.StoreOnly)
    (hwhole : (system L).Along DeletesWhole Sys.new ls) :
    let s := (system L).run Sys.new ls
    ExistingUsable L s ∧
    (∀ vin ecuUid (ω : Oracle), ω.StoreOnly → isValidKeyId (makeKeyId vin ecuUid) = true →
      let r := (system L).step s ⟨.generate vin ecuUid, ω⟩
      (∀ kp, r.2 = .pair .success kp → EndsUsable L (makeKeyId vin ecuUid) r) ∧
        ∀ ω₁ ω₂ : Oracle, ω₁.Calm → ω₂.Calm → EndsUsable L (makeKeyId vin ecuUid)
          ((system L).step ((system L).step r.1 ⟨.start, ω₁⟩).1 ⟨.generate vin ecuUid, ω₂⟩)) ∧
    ∀ l : Label, l.oracle.StoreOnly →
      (ExistingUsable L ((system L).step s l).1 ↔ DeletesWhole s l) := by
  intro s
  have hok : s.Ok L := run_ok hL hscope hwhole
  refine ⟨hok.existingUsable hL, fun vin ecuUid ω hω hvalid => ?_,
    fun l hl => ⟨fun husable => ?_, fun hl' => ?_⟩⟩
  · have hgenerate := generate_step hL hok hω.reads vin ecuUid
    exact ⟨fun kp hkp => hgenerate.endsUsable hL hkp,
      fun ω₁ ω₂ h₁ h₂ => repaired hL hgenerate.ok hvalid h₁ h₂⟩
  · by_contra hcut
    exact not_existingUsable_of_cut hl.reads hcut husable
  · exact (step_ok hL hok hl hl').existingUsable hL

/-- A run of the bench in which nothing fails, and then a deletion whose second removal fails. -/
def Bench.generated : List Label :=
  [⟨.start, Bench.calm⟩, ⟨.generate "VIN1" "ECU1", Bench.calm⟩]

def Bench.cutDeletion : Label :=
  ⟨.delete "VIN1" "ECU1", { Bench.calm with write := fun n => if n = 0 then .ok else .failed }⟩

theorem existing_keys_usable_bench :
    ExistingUsable Bench.library ((system Bench.library).run Sys.new Bench.generated) := by
  refine (existing_keys_usable Bench.library_lawful (fun l hl => ?_) ?_).1
  · rcases List.mem_cons.mp hl with rfl | hl
    · exact Bench.calm_calm.toStoreOnly
    · obtain rfl := List.mem_singleton.mp hl
      exact Bench.calm_calm.toStoreOnly
  · exact ⟨nofun, nofun, trivial⟩

/-- The key exists after the failed deletion, does not load, and `generate_device_key` answers
`KEY_NOT_FOUND` after a restart, in an environment in which nothing fails. -/
theorem cut_deletion_breaks_key :
    ¬ ExistingUsable Bench.library
        ((system Bench.library).run Sys.new (Bench.generated ++ [Bench.cutDeletion])) ∧
      ((system Bench.library).replies Sys.new (Bench.generated ++ [Bench.cutDeletion] ++
        [⟨.restart, Bench.calm⟩, ⟨.start, Bench.calm⟩,
          ⟨.generate "VIN1" "ECU1", Bench.calm⟩])).getLast? =
        some (.pair .keyNotFound
          { keyId := "VIN1+ECU1", algorithm := "ecdsa-p256", privateKeyExists := true }) := by
  constructor
  · rw [Machine.run_append]
    refine not_existingUsable_of_cut rfl fun hwhole => ?_
    have hsecond := hwhole "VIN1" "ECU1" rfl (by decide +kernel) (by decide +kernel)
      (by decide +kernel) rfl
    cases hsecond
  · decide +kernel

end TboxSec.Hsm
