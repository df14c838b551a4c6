import TboxSec.Hsm.KeyFile
import TboxSec.Keyprov.ProviderRuns

/-!
# The key-encryption keys survive

Neither the HSM nor the provider looks at whether a new key-encryption key reached its file: a
write that fails, is short or is cut by a crash leaves a file that no later process loads, and
a first process that runs on with a key that nobody else has.

`kek_survives`: while every new key reaches its file whole, both hold the key of their file,
what they sealed opens in every later process, and every later process starts; one write that
is not whole always breaks this.

* `ProviderKekInv` is the invariant of the provider, kept by one step (`providerKekInv_step`) and
  so by a run (`providerKekInv_run`); that of the HSM is in `Hsm.KeyFile`.
* `not_providerKekHolds_of_short` is the other direction, for one step.
* `short_kek_is_lost` is a run of each component with a write that is too short.
-/

namespace TboxSec.Keyprov

open Canonical Crash

variable {P : Platform} {pc : ProviderConfig} {ω : Oracle} {w : World} {s : ProviderSys}
  {past : List ProviderLabel}

/-! ### Runs of the provider -/

/-- The HSM gave the key in answer to a call of the run for this domain and purpose. -/
def UnwrappedIn (P : Platform) (past : List ProviderLabel) (domain p : String) (plain : Bytes) :
    Prop :=
  ∃ l ∈ past, ∃ item params aad info binding generation,
    l.call = .unwrapToStaging domain item params aad info binding generation ∧
      item.purpose = p ∧
      P.unwrap (unwrapRequest item params aad info binding) (l.oracle.unwrapSeed 0) =
        (.success, plain)

/-- A new key-encryption key reaches its file whole. -/
def ProviderKekWritten (s : ProviderSys) (l : ProviderLabel) : Prop :=
  l.call = .init → l.oracle.storeOpen = some true → l.oracle.kek.Whole s.world.disk.kek

/-- The IV of a slot encryption has 12 bytes. -/
def Oracle.IvSized (ω : Oracle) : Prop := ∀ n b, ω.iv n = some b → b.length = 12

/-- The key-encryption key and the slots, after the calls `past`. -/
structure ProviderKekInv (P : Platform) (past : List ProviderLabel) (s : ProviderSys) : Prop where
  keyed : s.world.Keyed P (UnwrappedIn P past)
  held : s.initialized = true → s.world.disk.kek = some s.world.prov.kek

theorem SealedState.mono {H H' : String → String → Bytes → Prop} {file : Option Bytes}
    {st : State} (h : SealedState P H file st) (hH : ∀ d p b, H d p b → H' d p b) :
    SealedState P H' file st := by
  intro p slot hslot
  obtain ⟨K, hK, domain, plain, iv, hiv, hplain, hex⟩ := h p slot hslot
  exact ⟨K, hK, domain, plain, iv, hiv, hH domain p plain hplain, hex⟩

theorem World.Keyed.mono {H H' : String → String → Bytes → Prop} (h : w.Keyed P H)
    (hH : ∀ d p b, H d p b → H' d p b) : w.Keyed P H' :=
  ⟨⟨h.disk.file, fun doc hdoc => (h.disk.docs doc hdoc).mono hH⟩, h.key, h.mem.mono hH⟩

/-- A process that starts, or has died. -/
theorem Disk.Keyed.start {H : String → String → Bytes → Prop} {d : Disk} (h : d.Keyed P H)
    (hsm : Bool) (bootNonce : ℕ) : (bootWorld d hsm bootNonce).Keyed P H :=
  ⟨h, nofun, fun _ _ hslot => hslot.elim nofun nofun⟩

/-- A call that is not `init`. -/
private theorem providerKekInv_settle {α : Type} {m : SecM α} (code : α → ErrorCode)
    (hheld : s.initialized = true → s.world.disk.kek = some s.world.prov.kek)
    (hm : Prog.wp m (fun _ w' => KeptKek P (UnwrappedIn P past) { s.world with asked := {} } w')
      (Disk.Keyed P (UnwrappedIn P past)) { s.world with asked := {} }) :
    ProviderKekInv P past (s.settle code (m { s.world with asked := {} })).1 := by
  unfold Prog.wp at hm
  cases hrun : m { s.world with asked := {} } with
  | done a w' =>
    rw [hrun] at hm
    refine ⟨hm.keyed, fun hinit => ?_⟩
    change w'.disk.kek = some w'.prov.kek
    rw [hm.file, hm.kek]
    exact hheld hinit
  | crashed d =>
    rw [hrun] at hm
    exact ⟨Disk.Keyed.start hm false 0, nofun⟩

/-- **One step.** -/
theorem providerKekInv_step {l : ProviderLabel} (h : ProviderKekInv P past s)
    (hiv : l.oracle.IvSized) (hwhole : ProviderKekWritten s l) :
    ProviderKekInv P (past ++ [l]) ((provider P pc).step s l).1 := by
  have hold : ({ s.world with asked := {} } : World).Keyed P (UnwrappedIn P (past ++ [l])) := by
    refine (h.keyed.asked {}).mono fun d p b hb => ?_
    obtain ⟨l', hl', hrest⟩ := hb
    exact ⟨l', List.mem_append_left _ hl', hrest⟩
  have hl : l ∈ past ++ [l] := List.mem_append_right _ (List.mem_singleton.mpr rfl)
  obtain ⟨call, ω⟩ := l
  cases call with
  | boot hsm => exact ⟨hold.disk.start hsm 0, fun hinit => by cases hinit⟩
  | init =>
    have hrun := wp_providerInitialize_keyed (ω := ω) hold (hwhole rfl)
    rw [provider_step_init]
    cases hm : providerInitialize P ω { s.world with asked := {} } with
    | done rc w' =>
      obtain ⟨hkeyed, hheld, hsuccess, -⟩ := Prog.wp_done hrun hm
      refine ⟨hkeyed, fun hinit => ?_⟩
      rcases Bool.or_eq_true_iff.mp hinit with hinit | hrc
      · exact hheld (h.held hinit)
      · exact hsuccess (beq_iff_eq.mp hrc)
    | crashed d =>
      exact ⟨Disk.Keyed.start (Prog.wp_crashed hrun hm) false 0, fun hinit => by cases hinit⟩
  | unwrapToStaging domain item params aad info binding generation =>
    exact providerKekInv_settle (·.1) h.held (wp_unwrapToStaging_kept hold hiv fun plain hplain =>
      ⟨_, hl, item, params, aad, info, binding, generation, rfl, rfl, hplain⟩)
  | commitBatch generation =>
    exact providerKekInv_settle id h.held (wp_commitBatch_kept hold generation)
  | rollbackStaging generation =>
    exact providerKekInv_settle id h.held (wp_rollbackStaging_kept hold generation)
  | saveJournal entry =>
    exact providerKekInv_settle id h.held (wp_saveJournal_kept hold entry)
  | storeReady ready => exact ⟨⟨hold.disk, hold.key, hold.mem⟩, h.held⟩

/-- **Runs.** -/
theorem providerKekInv_run {ls : List ProviderLabel} (hiv : ∀ l ∈ ls, l.oracle.IvSized)
    (hwhole : (provider P pc).Along ProviderKekWritten ProviderSys.new ls) :
    ProviderKekInv P ls ((provider P pc).run ProviderSys.new ls) := by
  have hsteps : (provider P pc).Along (fun s l => l.oracle.IvSized ∧ ProviderKekWritten s l)
      ProviderSys.new ls :=
    Machine.along_mono _ (fun _ l hl h => ⟨hiv l hl, h⟩) hwhole
  refine Machine.run_history _ (I := ProviderKekInv P) ?_
    (fun _ _ _ h hl => providerKekInv_step h hl.1 hl.2) hsteps
  exact ⟨⟨⟨nofun, nofun⟩, nofun, fun _ _ hslot => hslot.elim nofun nofun⟩, nofun⟩

/-! ### What survives -/

/-- What the provider promises of its key-encryption key after the calls `past`. -/
structure ProviderKekHolds (P : Platform) (past : List ProviderLabel) (s : ProviderSys) :
    Prop where
  /-- A process in which `initialize` has returned `SUCCESS` holds the key a later one loads. -/
  reloads : s.initialized = true → ∀ (ω : Oracle) hsm bootNonce, ω.storeOpen = some true →
    ω.stateLoads = true → ω.kek.opens = true → ∃ w,
      providerInitialize P ω (bootWorld s.world.disk hsm bootNonce) = .done .success w ∧
        w.prov.kek = s.world.prov.kek
  /-- Every slot of every state document opens in a later process, and holds a key the HSM
  unwrapped. -/
  opens : ∀ (ω : Oracle) hsm bootNonce w,
    providerInitialize P ω (bootWorld s.world.disk hsm bootNonce) = .done .success w →
      ∀ doc ∈ s.world.disk.state, ∀ p slot,
        doc.state.active.find? p = some slot ∨ doc.state.staging.find? p = some slot →
          ∃ domain plain, decryptSlotKey P w.prov.kek domain p slot = .ok plain ∧
            UnwrappedIn P past domain p plain
  /-- A later process starts. -/
  starts : ∀ (ω : Oracle) hsm bootNonce, ω.storeOpen = some true → ω.stateLoads = true →
    ω.kek.Calm → ∃ w,
      providerInitialize P ω (bootWorld s.world.disk hsm bootNonce) = .done .success w

/-- A program that is never cut and always meets `Q`. -/
private theorem exists_done_of_wp {α : Type} {m : SecM α} {Q : α → World → Prop}
    (h : Prog.wp m Q (fun _ => False) w) : ∃ a w', m w = .done a w' ∧ Q a w' := by
  cases hm : m w with
  | done a w' => exact ⟨a, w', rfl, Prog.wp_done h hm⟩
  | crashed d => exact absurd (Prog.wp_crashed h hm) id

/-- **Initialization with a key** succeeds, with that key in memory. -/
theorem wp_providerInitialize_of_key {key : Bytes} (hstore : ω.storeOpen = some true)
    (hloads : ω.stateLoads = true)
    (ho : kekOutcome ω.kek w.prov.kek w.disk.kek = .loaded key ∨
      ∃ file, kekOutcome ω.kek w.prov.kek w.disk.kek = .created key file) :
    Prog.wp (providerInitialize P ω) (fun rc w' => rc = .success ∧ w'.prov.kek = key)
      (fun _ => False) w := by
  have hload : Prog.wp (loadOrGenerateKek ω w.disk.kek)
      (fun rc w' => rc = .success ∧ w'.prov.kek = key ∧ w'.prov.store = some true)
      (fun _ => False) { w with prov.store := some true } := by
    unfold Prog.wp
    rw [loadOrGenerateKek_eq ω { w with prov.store := some true }]
    rcases ho with ho | ⟨file, ho⟩
    · rw [ho]
      exact ⟨rfl, rfl, rfl⟩
    · rw [ho]
      exact ⟨rfl, rfl, rfl⟩
  unfold providerInitialize
  rw [hstore]
  refine Prog.wp_bind.mpr (Prog.wp_modify.mpr ?_)
  rw [if_neg (by decide)]
  refine Prog.wp_bind.mpr (Prog.wp_gets.mpr (Prog.wp_bind.mpr (Prog.wp_mono hload ?_
    fun _ => id)))
  rintro rc w₁ ⟨rfl, hkek, hready⟩
  rw [if_neg (not_not.mpr rfl)]
  have hstate : Prog.wp (loadState ω) (fun rc w' => rc = .success ∧ w'.prov.kek = key)
      (fun _ => False) { w₁ with prov.macKey := deriveMacKey P w₁.prov.kek } := by
    unfold Prog.wp loadState
    rw [if_neg (not_not.mpr hready)]
    dsimp only
    split
    · exact ⟨rfl, hkek⟩
    · rw [hloads]
      exact ⟨rfl, hkek⟩
  refine Prog.wp_bind.mpr (Prog.wp_modify.mpr (Prog.wp_bind.mpr (Prog.wp_mono hstate ?_
    fun _ => id)))
  rintro rc w₂ ⟨rfl, hkek₂⟩
  rw [if_neg (not_not.mpr rfl)]
  exact Prog.wp_bind.mpr (show Prog.wp (checkCommitMarker P) _ _ w₂ from ⟨rfl, hkek₂⟩)

/-- **While every new key reaches its file, the promises hold.** -/
theorem providerKekHolds_of_inv (hX : GcmLawful P.crypto) (h : ProviderKekInv P past s) :
    ProviderKekHolds P past s := by
  have hfile := h.keyed.disk.file
  refine ⟨fun hinit ω hsm bootNonce hstore hloads hopens => ?_,
    fun ω hsm bootNonce w hstart doc hdoc p slot hslot => ?_,
    fun ω hsm bootNonce hstore hloads hω => ?_⟩
  · have hkey := h.held hinit
    have ho : kekOutcome ω.kek [] s.world.disk.kek = .loaded s.world.prov.kek := by
      rw [hkey]
      exact kekOutcome_of_key hopens (hfile _ hkey)
    obtain ⟨rc, w, hrun, rfl, hkek⟩ := exists_done_of_wp
      (wp_providerInitialize_of_key (P := P) (w := bootWorld s.world.disk hsm bootNonce) hstore
        hloads (.inl ho))
    exact ⟨w, hrun, hkek⟩
  · obtain ⟨K, hK, domain, plain, iv, hiv, hplain, hex⟩ := h.keyed.disk.docs doc hdoc p slot hslot
    have hne : s.world.disk.kek ≠ none := by simp [hK]
    obtain ⟨-, -, hsuccess, hstays⟩ := Prog.wp_done (wp_providerInitialize_keyed
      (h.keyed.disk.start hsm bootNonce) fun _ hnone => absurd hnone hne) hstart
    have hkey : w.prov.kek = K :=
      Option.some.inj ((hsuccess rfl).symm.trans ((hstays hne).trans hK))
    refine ⟨domain, plain, ?_, hplain⟩
    rw [decryptSlotKey, hex, hexToBytes_toHex, hkey]
    simp only [hX.opens K _ iv plain hiv]
  · cases hkek : s.world.disk.kek with
    | some key =>
      have ho : kekOutcome ω.kek [] s.world.disk.kek = .loaded key := by
        rw [hkek]
        exact kekOutcome_of_key hω.opens (hfile key hkek)
      obtain ⟨rc, w, hrun, rfl, -⟩ := exists_done_of_wp
        (wp_providerInitialize_of_key (P := P) (w := bootWorld s.world.disk hsm bootNonce) hstore
          hloads (.inl ho))
      exact ⟨w, hrun⟩
    | none =>
      obtain ⟨key, hkey⟩ := kekOutcome_of_calm [] hω
      have ho : kekOutcome ω.kek [] s.world.disk.kek = .created key.val key.val := by
        rw [hkek]
        exact hkey
      obtain ⟨rc, w, hrun, rfl, -⟩ := exists_done_of_wp
        (wp_providerInitialize_of_key (P := P) (w := bootWorld s.world.disk hsm bootNonce) hstore
          hloads (.inr ⟨_, ho⟩))
      exact ⟨w, hrun⟩

/-- Nothing after the key changes its file. -/
private theorem wp_loadState_file :
    Prog.wp (loadState ω) (fun _ w' => w'.disk = w.disk) (fun _ => False) w := by
  unfold Prog.wp loadState
  split
  · rfl
  · dsimp only
    split
    · rfl
    · split
      · rfl
      · rfl

/-- A new key of which only a part reaches the file. -/
private theorem wp_providerInitialize_short (hstore : ω.storeOpen = some true) {file : Bytes}
    {key : Bytes} (ho : kekOutcome ω.kek w.prov.kek w.disk.kek =
      if ω.kek.crash then .cut file else .created key file) :
    Prog.wp (providerInitialize P ω) (fun _ w' => w'.disk.kek = some file)
      (fun d => d.kek = some file) w := by
  have hload : Prog.wp (loadOrGenerateKek ω w.disk.kek) (fun _ w' => w'.disk.kek = some file)
      (fun d => d.kek = some file) { w with prov.store := some true } := by
    unfold Prog.wp
    rw [loadOrGenerateKek_eq ω { w with prov.store := some true }, ho]
    cases ω.kek.crash with
    | true => rfl
    | false => rfl
  unfold providerInitialize
  rw [hstore]
  refine Prog.wp_bind.mpr (Prog.wp_modify.mpr ?_)
  rw [if_neg (by decide)]
  refine Prog.wp_bind.mpr (Prog.wp_gets.mpr (Prog.wp_bind.mpr (Prog.wp_mono hload ?_
    fun _ => id)))
  intro rc w₁ hfile
  split
  · exact hfile
  · refine Prog.wp_bind.mpr (Prog.wp_modify.mpr (Prog.wp_bind.mpr (Prog.wp_mono wp_loadState_file
      (fun rc w₂ h₂ => ?_) fun _ => False.elim)))
    have hfile₂ : w₂.disk.kek = some file := by
      rw [h₂]
      exact hfile
    split
    · exact hfile₂
    · exact Prog.wp_bind.mpr (show Prog.wp (checkCommitMarker P) _ _ w₂ from hfile₂)

/-- A short file stops every process. -/
private theorem wp_providerInitialize_of_short {b : Bytes} (hkek : w.disk.kek = some b)
    (hlen : b.length < kekSize) :
    Prog.wp (providerInitialize P ω) (fun rc _ => rc ≠ .success) (fun _ => False) w := by
  obtain ⟨rc, m, hrc, ho⟩ := kekOutcome_of_short ω.kek w.prov.kek hlen
  unfold providerInitialize
  split
  · exact nofun
  · rename_i ready _
    refine Prog.wp_bind.mpr (Prog.wp_modify.mpr ?_)
    split
    · exact nofun
    · have hload : Prog.wp (loadOrGenerateKek ω w.disk.kek) (fun rc _ => rc ≠ .success)
          (fun _ => False) { w with prov.store := some ready } := by
        unfold Prog.wp
        rw [loadOrGenerateKek_eq ω { w with prov.store := some ready }]
        dsimp only
        rw [hkek, ho]
        exact hrc
      refine Prog.wp_bind.mpr (Prog.wp_gets.mpr (Prog.wp_bind.mpr (Prog.wp_mono hload ?_
        fun _ => id)))
      intro rc' w' hrc'
      rw [if_pos hrc']
      exact hrc'

/-- **A write that is not whole** keeps every later process from starting. -/
theorem not_providerKekHolds_of_short {l : ProviderLabel} (hshort : ¬ ProviderKekWritten s l) :
    ¬ ProviderKekHolds P past ((provider P pc).step s l).1 := by
  obtain ⟨call, ω⟩ := l
  unfold ProviderKekWritten at hshort
  push Not at hshort
  obtain ⟨rfl, hstore, hshort⟩ := hshort
  obtain ⟨key, -, hlen, ho⟩ := short_of_not_whole hshort
  have hrun := wp_providerInitialize_short (P := P) (w := { s.world with asked := {} }) hstore ho
  have hfile : ((provider P pc).step s ⟨.init, ω⟩).1.world.disk.kek =
      some (key.val.take ω.kek.written) := by
    rw [provider_step_init]
    cases hm : providerInitialize P ω { s.world with asked := {} } with
    | done rc w' =>
      have hdone := Prog.wp_done hrun hm
      exact hdone
    | crashed d =>
      have hcut := Prog.wp_crashed hrun hm
      exact hcut
  intro hholds
  obtain ⟨w, hstart⟩ := hholds.starts Bench.calm true 0 rfl rfl ⟨rfl, rfl, le_rfl, rfl⟩
  exact Prog.wp_done (wp_providerInitialize_of_short
    (w := bootWorld ((provider P pc).step s ⟨.init, ω⟩).1.world.disk true 0) hfile hlen) hstart rfl

/-! ### The result -/

/-- **The key-encryption keys survive**, in every run of the HSM and in every run of the provider in
which every new key reaches its file whole; and one step in which it does not breaks it. Both
components write a new key into its file and go on with the key in memory without a look at how much
of it was written. -/
theorem kek_survives {L : Hsm.Library} (hL : GcmLawful L.crypto) (hP : GcmLawful P.crypto)
    {hs : List Hsm.Label} {ls : List ProviderLabel} (hiv : ∀ l ∈ ls, l.oracle.IvSized)
    (hhsm : (Hsm.system L).Along Hsm.KekWritten Hsm.Sys.new hs)
    (hprovider : (provider P pc).Along ProviderKekWritten ProviderSys.new ls) :
    let h := (Hsm.system L).run Hsm.Sys.new hs
    let s := (provider P pc).run ProviderSys.new ls
    (Hsm.KekHolds L hs h ∧ ∀ l,
      (Hsm.KekHolds L (hs ++ [l]) ((Hsm.system L).step h l).1 ↔ Hsm.KekWritten h l)) ∧
    ProviderKekHolds P ls s ∧ ∀ l, l.oracle.IvSized →
      (ProviderKekHolds P (ls ++ [l]) ((provider P pc).step s l).1 ↔ ProviderKekWritten s l) := by
  intro h s
  have hinv : Hsm.KekInv L hs h := Hsm.kekInv_run hhsm
  have hinv' : ProviderKekInv P ls s := providerKekInv_run hiv hprovider
  refine ⟨⟨Hsm.kekHolds_of_inv hL hinv, fun l => ⟨fun hholds => ?_, fun hwhole => ?_⟩⟩,
    providerKekHolds_of_inv hP hinv', fun l hl => ⟨fun hholds => ?_, fun hwhole => ?_⟩⟩
  · by_contra hshort
    exact Hsm.not_kekHolds_of_short hshort hholds
  · exact Hsm.kekHolds_of_inv hL (Hsm.kekInv_step hinv hwhole)
  · by_contra hshort
    exact not_providerKekHolds_of_short hshort hholds
  · exact providerKekHolds_of_inv hP (providerKekInv_step hinv' hl hwhole)

/-- A provider, started in a calm environment. -/
def Bench.startedProvider : List ProviderLabel :=
  [⟨.boot true, Bench.calm⟩, ⟨.init, Bench.calm⟩]

theorem kek_survives_bench :
    Hsm.KekHolds Hsm.Bench.library Hsm.Bench.generated
        ((Hsm.system Hsm.Bench.library).run Hsm.Sys.new Hsm.Bench.generated) ∧
      ProviderKekHolds Bench.platform Bench.startedProvider
        ((provider Bench.platform Bench.daemonD.provider).run ProviderSys.new
          Bench.startedProvider) := by
  have hiv : ∀ l ∈ Bench.startedProvider, l.oracle.IvSized := by
    intro l hl n b hb
    have hcalm : l.oracle = Bench.calm := by
      rcases List.mem_cons.mp hl with rfl | hl
      · rfl
      · rw [List.mem_singleton.mp hl]
    rw [hcalm] at hb
    rw [← Option.some.inj hb]
    rfl
  obtain ⟨⟨hhsm, -⟩, hprovider, -⟩ := @kek_survives Bench.platform Bench.daemonD.provider
    Hsm.Bench.library (Hsm.Bench.library_crypto ▸ Bench.gcm_lawful) Bench.gcm_lawful
    Hsm.Bench.generated Bench.startedProvider hiv ⟨fun _ _ _ _ => le_rfl, nofun, trivial⟩
    ⟨nofun, fun _ _ _ _ _ => le_rfl, trivial⟩
  exact ⟨hhsm, hprovider⟩

/-- A start in which 31 of the 32 bytes of a new key reach the HSM's file. -/
def Hsm.Bench.shortStart : Hsm.Label :=
  ⟨.start, { Hsm.Bench.calm with
    kek := { Hsm.Bench.calm.kek with written := 31 } }⟩

/-- The same for the provider. -/
def Bench.shortInit : ProviderLabel :=
  ⟨.init, { Bench.calm with kek := { Bench.calm.kek with written := 31 } }⟩

/-- The first `initialize` of either returns `SUCCESS` though one byte of its key is missing in
the file; no later process starts. -/
theorem short_kek_is_lost :
    ((Hsm.system Hsm.Bench.library).replies Hsm.Sys.new
        [Hsm.Bench.shortStart, ⟨.restart, Hsm.Bench.calm⟩, ⟨.start, Hsm.Bench.calm⟩] =
      [.code .success, .restarted, .code .storageCorruption] ∧
    ¬ Hsm.KekHolds Hsm.Bench.library [Hsm.Bench.shortStart]
        ((Hsm.system Hsm.Bench.library).run Hsm.Sys.new [Hsm.Bench.shortStart])) ∧
    (provider Bench.platform Bench.daemonD.provider).replies ProviderSys.new
        [⟨.boot true, Bench.calm⟩, Bench.shortInit, ⟨.boot true, Bench.calm⟩,
          ⟨.init, Bench.calm⟩] =
      [.none, .code .success, .none, .code .storageCorruption] ∧
    ¬ ProviderKekHolds Bench.platform [⟨.boot true, Bench.calm⟩, Bench.shortInit]
        ((provider Bench.platform Bench.daemonD.provider).run ProviderSys.new
          [⟨.boot true, Bench.calm⟩, Bench.shortInit]) := by
  refine ⟨⟨by decide +kernel, ?_⟩, by decide +kernel, ?_⟩
  · exact Hsm.not_kekHolds_of_short fun hwhole =>
      absurd (hwhole rfl rfl rfl rfl) (by decide)
  · exact not_providerKekHolds_of_short (s := ⟨bootWorld {} true 0, false⟩) fun hwhole =>
      absurd (hwhole rfl rfl rfl rfl rfl) (by decide)

end TboxSec.Keyprov
