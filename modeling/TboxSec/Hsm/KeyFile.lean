import TboxSec.Hsm.Usable
import TboxSec.Keyprov.KekFile

/-!
# The HSM's key-encryption key

`initialize` answers `SUCCESS` with a new key in memory whether or not the key reached its file.
As long as every new key does, an initialized HSM holds the key of the file, every private
record of the store opens under it and gives a private key that was generated, and no crash
keeps a later process from starting (`KekHolds`).

* `World.Sealed`: what is sealed under the key of the file, and what it is known to be.
* `wp_…_sealed`: an operation that writes keeps it; `look_…`: an operation that looks changes the
  cache at most.
* `kekInv_step`, `kekInv_run`: one operation keeps the invariant if every new key reaches its
  file, and so does a run.
* `not_kekHolds_of_short`: a key that does not reach its file breaks it in the same step.
-/

namespace TboxSec.Hsm

open Canonical Crash
open Keyprov (kekOutcome KekFileOk kekSize)

variable {L : Library} {ω : Oracle} {P : String → Bytes → Prop} {w : World} {s : Sys}

/-! ### Sealed records -/

/-- The file holds a key, under which every private record is sealed. `P` is what the records
hold. -/
structure Disk.Sealed (L : Library) (P : String → Bytes → Prop) (d : Disk) : Prop where
  file : KekFileOk d.kek
  sealed : ∀ k t, d.store (privateRecord k) = some t → ∃ key iv plain : Bytes,
    d.kek = some key ∧ iv.length = 12 ∧ t = toHex (L.crypto.gcmSeal key [] iv plain) ∧ P k plain

/-- An initialized process holds the key of the file. -/
structure World.Sealed (L : Library) (P : String → Bytes → Prop) (w : World) : Prop where
  disk : w.disk.Sealed L P
  key : w.mem.initialized = true → w.disk.kek = some w.mem.encryptionKey

/-- Removing records keeps the others sealed. -/
private theorem Disk.Sealed.of_store {d : Disk} (h : d.Sealed L P) {store : String → Option String}
    (hstore : ∀ k t, store (privateRecord k) = some t → d.store (privateRecord k) = some t) :
    Disk.Sealed L P { d with store } :=
  ⟨h.file, fun k t ht => h.sealed k t (hstore k t ht)⟩

/-- A change of one record that is not the private record of a key. -/
private theorem Disk.Sealed.update_metadata {d : Disk} (h : d.Sealed L P) (k : String)
    (t : Option String) :
    Disk.Sealed L P { d with store := Function.update d.store (metadataRecord k) t } :=
  h.of_store fun k' _ ht => (update_metadata_private d.store k k' t).symm.trans ht

/-- The removal of a private record. -/
private theorem Disk.Sealed.remove_private {d : Disk} (h : d.Sealed L P) (k : String) :
    Disk.Sealed L P { d with store := Function.update d.store (privateRecord k) none } := by
  refine h.of_store fun k' t ht => ?_
  by_cases hk : k' = k
  · rw [hk, Function.update_self] at ht
    cases ht
  · rwa [update_private_of_ne d.store none hk] at ht

/-- A new private record. -/
private theorem Disk.Sealed.add_private {d : Disk} (h : d.Sealed L P) {k : String}
    {key iv plain : Bytes}
    (hkek : d.kek = some key) (hiv : iv.length = 12) (hP : P k plain) :
    Disk.Sealed L P
      { d with
        store := Function.update d.store (privateRecord k)
          (some (toHex (L.crypto.gcmSeal key [] iv plain))) } := by
  refine ⟨h.file, fun k' t ht => ?_⟩
  by_cases hk : k' = k
  · subst hk
    obtain rfl :=
      Option.some.inj ((Function.update_self (privateRecord k') _ d.store).symm.trans ht)
    exact ⟨key, iv, plain, hkek, hiv, rfl, hP⟩
  · exact h.sealed k' t ((update_private_of_ne d.store _ hk).symm.trans ht)

/-! ### Programs -/

/-- **Saving a key.** -/
theorem wp_saveKeyToStore_sealed (h : w.Sealed L P) (hinit : w.mem.initialized = true)
    {k : String} {kd : KeyData} (hP : P k kd.priv) :
    Prog.wp (saveKeyToStore L ω k kd) (fun _ w' => World.Sealed L P w') (Disk.Sealed L P) w := by
  have hkek := h.key hinit
  have hlen : w.mem.encryptionKey.length = 32 := h.disk.file _ hkek
  unfold saveKeyToStore
  rw [Prog.wp_bind, Prog.wp_gets]
  simp only [encryptPrivateKey, hlen, ne_eq, not_true_eq_false, if_false]
  cases ω.iv with
  | none => exact h
  | some iv =>
    dsimp only
    rw [Prog.wp_bind]
    have hprivate := h.disk.add_private hkek iv.property hP
    refine wp_change (fun _ => ?_) (fun _ => ⟨h.disk, h.key⟩) fun _ => h.disk
    simp only [Bool.not_true, Bool.false_eq_true, if_false]
    rw [Prog.wp_bind]
    refine wp_change (fun _ => ?_) (fun _ => ⟨hprivate, h.key⟩) fun _ => hprivate
    exact ⟨hprivate.update_metadata k _, h.key⟩

private theorem wp_generateKeyPair_sealed (h : w.Sealed L P) (hinit : w.mem.initialized = true)
    {k : String} (algorithm : String)
    (hP : ∀ scalar, ω.scalar = some scalar → P k (bn2bin scalar)) :
    Prog.wp (generateKeyPair L ω k algorithm) (fun _ w' => World.Sealed L P w')
      (Disk.Sealed L P) w := by
  unfold generateKeyPair
  rw [Prog.wp_bind, Prog.wp_gets]
  split
  · exact h
  · split
    · exact h
    · cases hscalar : ω.scalar with
      | none => exact h
      | some scalar =>
        dsimp only
        rw [Prog.wp_bind]
        refine Prog.wp_mono (wp_saveKeyToStore_sealed h hinit (hP scalar hscalar))
          (fun rc w' hw => ?_) fun _ => id
        split
        · exact hw
        · exact ⟨hw.disk, hw.key⟩

/-- **Deleting a key**, cut short or not. -/
theorem wp_deleteKey_sealed (h : w.Sealed L P) (k : String) :
    Prog.wp (deleteKey ω k) (fun _ w' => World.Sealed L P w') (Disk.Sealed L P) w := by
  unfold deleteKey
  split
  · exact h
  · rw [Prog.wp_bind, Prog.wp_modify, Prog.wp_bind]
    have hprivate := h.disk.remove_private k
    refine wp_change (fun _ => ?_) (fun _ => ⟨h.disk, h.key⟩) fun _ => h.disk
    simp only [Bool.not_true, Bool.false_eq_true, if_false]
    rw [Prog.wp_bind]
    refine wp_change (fun _ => ?_) (fun _ => ⟨hprivate, h.key⟩) fun _ => hprivate
    exact ⟨hprivate.update_metadata k none, h.key⟩

/-! ### Uses of a key leave the disk alone -/

private theorem look_fetchKey (k : String) (w : World) :
    Prog.wp (fetchKey L ω k) (fun _ w' => SameButCache w w') (fun _ => False) w := by
  unfold fetchKey
  rw [Prog.wp_bind, Prog.wp_gets]
  split
  · exact .refl w
  · rw [Prog.wp_bind, Prog.wp_gets]
    split
    · exact .refl w
    · exact ⟨rfl, rfl, rfl, rfl⟩

private theorem look_exportPublicKey (k : String) (w : World) :
    Prog.wp (exportPublicKey L ω k) (fun _ w' => SameButCache w w') (fun _ => False) w := by
  unfold exportPublicKey
  split
  · exact .refl w
  · rw [Prog.wp_bind]
    refine Prog.wp_mono (look_fetchKey k w) (fun r w' hw => ?_) fun _ => id
    cases r with
    | error rc => exact hw
    | ok kd => exact hw

private theorem look_sign (k : String) (data : Bytes) (w : World) :
    Prog.wp (sign L ω k data) (fun _ w' => SameButCache w w') (fun _ => False) w := by
  unfold sign
  split
  · exact .refl w
  · rw [Prog.wp_bind]
    refine Prog.wp_mono (look_fetchKey k w) (fun r w' hw => ?_) fun _ => id
    cases r with
    | error rc => exact hw
    | ok kd =>
      dsimp only
      split
      · exact hw
      · split
        · exact hw
        · exact hw

private theorem look_existingPair (k : String) (createdAt : ℤ) (w : World) :
    Prog.wp (existingPair L ω k createdAt) (fun _ w' => SameButCache w w') (fun _ => False) w := by
  unfold existingPair
  rw [Prog.wp_bind]
  exact Prog.wp_mono (look_exportPublicKey k w) (fun _ _ hw => hw) fun _ => id

private theorem look_getDeviceKey (vin ecuUid : String) (w : World) :
    Prog.wp (getDeviceKey L ω vin ecuUid) (fun _ w' => SameButCache w w') (fun _ => False) w := by
  unfold getDeviceKey
  rw [Prog.wp_bind, Prog.wp_gets]
  split
  · exact .refl w
  · dsimp only
    split
    · exact .refl w
    · exact look_existingPair _ _ w

private theorem look_engineSign (vin ecuUid : String) (data : Bytes) (w : World) :
    Prog.wp (engineSign L ω vin ecuUid data) (fun _ w' => SameButCache w w') (fun _ => False)
      w := by
  unfold engineSign
  rw [Prog.wp_bind, Prog.wp_gets]
  split
  · exact .refl w
  · dsimp only
    split
    · exact .refl w
    · exact look_sign _ data w

theorem World.Sealed.look {w' : World} (h : w.Sealed L P) (hsame : SameButCache w w') :
    World.Sealed L P w' := by
  refine ⟨hsame.disk ▸ h.disk, fun hinit => ?_⟩
  rw [hsame.disk, hsame.key]
  exact h.key (hsame.initialized ▸ hinit)

/-! ### Starting -/

/-- A new key file: there was no record under an old one. -/
theorem Disk.Sealed.new_file {d : Disk} (h : d.Sealed L P) (hnone : d.kek = none) {b : Bytes}
    (hlen : b.length = kekSize) : Disk.Sealed L P { d with kek := some b } := by
  refine ⟨fun f hf => ?_, fun k t ht => ?_⟩
  · rw [← Option.some.inj hf]
    exact hlen
  · obtain ⟨key, -, -, hkey, -⟩ := h.sealed k t ht
    exact absurd (hnone.symm.trans hkey) nofun

/-- **Initialization**, when a new key reaches its file. -/
theorem wp_hsmInitialize_sealed (h : w.Sealed L P) (hwhole : ω.kek.Whole w.disk.kek) :
    Prog.wp (hsmInitialize ω)
      (fun rc w' => World.Sealed L P w' ∧
        (rc = .success → w'.disk.kek = some w'.mem.encryptionKey))
      (Disk.Sealed L P) w := by
  unfold Prog.wp
  rw [Keyprov.hsmInitialize_eq]
  cases ho : kekOutcome ω.kek w.mem.encryptionKey w.disk.kek with
  | failed rc m =>
    refine ⟨⟨h.disk, fun hinit => ?_⟩, fun hrc => absurd hrc (Keyprov.ne_success_of_failed ho)⟩
    have hkey := h.key hinit
    have hm := Keyprov.mem_of_failed h.disk.file (Option.isSome_of_eq_some hkey) ho
    rw [hm]
    exact hkey
  | loaded key =>
    have hfile := Keyprov.file_of_loaded h.disk.file ho
    exact ⟨⟨h.disk, fun _ => hfile⟩, fun _ => hfile⟩
  | created key b =>
    obtain ⟨rfl, hlen, hnone⟩ := Keyprov.key_of_created hwhole ho
    exact ⟨⟨h.disk.new_file hnone hlen, fun _ => rfl⟩, fun _ => rfl⟩
  | cut b =>
    obtain ⟨hlen, hnone⟩ := Keyprov.length_of_cut hwhole ho
    exact h.disk.new_file hnone hlen

private theorem wp_engineInitialize_sealed (h : w.Sealed L P) (hwhole : ω.kek.Whole w.disk.kek) :
    Prog.wp (engineInitialize ω) (fun _ w' => World.Sealed L P w') (Disk.Sealed L P) w := by
  unfold engineInitialize
  rw [Prog.wp_bind]
  refine Prog.wp_mono (wp_hsmInitialize_sealed h hwhole) (fun rc w' ⟨hw, hkey⟩ => ?_) fun _ => id
  split
  · rename_i hrc
    exact ⟨hw.disk, fun _ => hkey hrc⟩
  · exact hw

/-! ### Runs -/

/-- The private key was made by a call of the run for this key. -/
def GeneratedIn (past : List Label) (keyId : String) (plain : Bytes) : Prop :=
  ∃ l ∈ past, ∃ vin ecuUid scalar, l.call = .generate vin ecuUid ∧
    makeKeyId vin ecuUid = keyId ∧ l.oracle.scalar = some scalar ∧ plain = bn2bin scalar

/-- A new key-encryption key reaches its file whole. -/
def KekWritten (s : Sys) (l : Label) : Prop := l.call = .start → l.oracle.kek.Whole s.disk.kek

/-- The key-encryption key and the private records, after the calls `past`. -/
def KekInv (L : Library) (past : List Label) (s : Sys) : Prop :=
  World.Sealed L (GeneratedIn past) s.world

theorem World.Sealed.mono {P' : String → Bytes → Prop} (h : w.Sealed L P)
    (hP : ∀ k plain, P k plain → P' k plain) : World.Sealed L P' w := by
  refine ⟨⟨h.disk.file, fun k t ht => ?_⟩, h.key⟩
  obtain ⟨key, iv, plain, hkey, hiv, ht, hplain⟩ := h.disk.sealed k t ht
  exact ⟨key, iv, plain, hkey, hiv, ht, hP k plain hplain⟩

theorem Disk.Sealed.fresh {d : Disk} (h : d.Sealed L P) (n : ℕ) :
    World.Sealed L P ⟨d, Memory.fresh, n⟩ :=
  ⟨h, nofun⟩

/-- A program that keeps the records sealed, as a call. -/
private theorem sealed_settle {α : Type} {m : HsmM α} (reply : α → Reply)
    (hm : Prog.wp m (fun _ w => World.Sealed L P w) (Disk.Sealed L P) s.world) :
    World.Sealed L P (s.settle (m s.world) reply).1.world :=
  settle_of_wp (P := fun r => World.Sealed L P r.1.world) reply hm
    (fun _ _ h => ⟨h.disk, h.key⟩) fun _ h => h.fresh 0

/-- A use of a key, as a call. -/
private theorem sealed_look {α : Type} {m : HsmM α} (reply : α → Reply)
    (h : World.Sealed L P s.world)
    (hm : Prog.wp m (fun _ w => SameButCache s.world w) (fun _ => False) s.world) :
    World.Sealed L P (s.settle (m s.world) reply).1.world :=
  sealed_settle reply (Prog.wp_mono hm (fun _ _ hw => h.look hw) fun _ => False.elim)

private theorem wp_generateDeviceKey_sealed {vin ecuUid : String} (h : World.Sealed L P s.world)
    (hP : ∀ scalar, ω.scalar = some scalar → P (makeKeyId vin ecuUid) (bn2bin scalar)) :
    Prog.wp (generateDeviceKey L ω vin ecuUid) (fun _ w => World.Sealed L P w)
      (Disk.Sealed L P) s.world := by
  unfold generateDeviceKey
  rw [Prog.wp_bind, Prog.wp_gets]
  cases hinit : s.mem.initialized with
  | false =>
    rw [if_pos (by simp [Sys.world, hinit])]
    exact h
  | true =>
    rw [if_neg (by simp [Sys.world, hinit])]
    dsimp only
    split
    · exact Prog.wp_mono (look_existingPair _ 0 s.world) (fun _ _ hw => h.look hw)
        fun _ => False.elim
    · exact wp_generateKeyPair_sealed h hinit _ hP

private theorem wp_deleteDeviceKey_sealed (h : World.Sealed L P s.world) (vin ecuUid : String) :
    Prog.wp (deleteDeviceKey ω vin ecuUid) (fun _ w => World.Sealed L P w) (Disk.Sealed L P)
      s.world := by
  unfold deleteDeviceKey
  rw [Prog.wp_bind, Prog.wp_gets]
  split
  · exact h
  · exact wp_deleteKey_sealed h _

/-- **One step.** -/
theorem kekInv_step {past : List Label} {l : Label} (h : KekInv L past s)
    (hwhole : KekWritten s l) : KekInv L (past ++ [l]) ((system L).step s l).1 := by
  have hold : World.Sealed L (GeneratedIn (past ++ [l])) s.world := by
    refine World.Sealed.mono h fun k plain hplain => ?_
    obtain ⟨l', hl', hrest⟩ := hplain
    exact ⟨l', List.mem_append_left _ hl', hrest⟩
  have hl : l ∈ past ++ [l] := List.mem_append_right _ (List.mem_singleton.mpr rfl)
  obtain ⟨call, ω⟩ := l
  cases call with
  | start => exact sealed_settle .code (wp_engineInitialize_sealed hold (hwhole rfl))
  | generate vin ecuUid =>
    exact sealed_settle (fun r => .pair r.1 r.2) (wp_generateDeviceKey_sealed hold
      fun scalar hscalar => ⟨_, hl, vin, ecuUid, scalar, rfl, rfl, hscalar, rfl⟩)
  | get vin ecuUid => exact sealed_look _ hold (look_getDeviceKey vin ecuUid s.world)
  | «exists» vin ecuUid => exact hold
  | sign vin ecuUid data => exact sealed_look _ hold (look_engineSign vin ecuUid data s.world)
  | delete vin ecuUid => exact sealed_settle .code (wp_deleteDeviceKey_sealed hold vin ecuUid)
  | restart => exact hold.disk.fresh 0

/-- **Runs.** -/
theorem kekInv_run {ls : List Label} (hwhole : (system L).Along KekWritten Sys.new ls) :
    KekInv L ls ((system L).run Sys.new ls) := by
  refine Machine.run_history _ (I := KekInv L) ?_ (fun _ _ _ h hl => kekInv_step h hl) hwhole
  exact ⟨⟨nofun, fun _ _ ht => nomatch ht⟩, nofun⟩

/-! ### What survives -/

/-- What the HSM promises of its key-encryption key after the calls `past`. -/
structure KekHolds (L : Library) (past : List Label) (s : Sys) : Prop where
  /-- An initialized process holds the key a later one loads. -/
  reloads : s.mem.initialized = true → ∀ (ω : Oracle) mem, ω.kek.opens = true →
    ∃ w, hsmInitialize ω ⟨s.disk, mem, 0⟩ = .done .success w ∧
      w.mem.encryptionKey = s.mem.encryptionKey
  /-- A private record in the store opens in a later process, and holds a private key that was
  generated. -/
  opens : ∀ (ω : Oracle) w k t, hsmInitialize ω ⟨s.disk, Memory.fresh, 0⟩ = .done .success w →
    s.disk.store (privateRecord k) = some t → ∃ enc plain, hexToBytes t = some enc ∧
      decryptPrivateKey L w.mem.encryptionKey enc = .ok plain ∧ GeneratedIn past k plain
  /-- A later process starts. -/
  starts : ∀ (ω : Oracle) mem, ω.kek.Calm → ∃ w,
    hsmInitialize ω ⟨s.disk, mem, 0⟩ = .done .success w

/-- With a key in the file, a process that opens it loads it. -/
private theorem hsmInitialize_of_key {d : Disk} {key : Bytes} (mem : Memory)
    (hkek : d.kek = some key)
    (hlen : key.length = kekSize) (hopens : ω.kek.opens = true) :
    hsmInitialize ω ⟨d, mem, 0⟩ = .done .success ⟨d, { mem with encryptionKey := key }, 0⟩ := by
  rw [Keyprov.hsmInitialize_eq]
  dsimp only
  rw [hkek, Keyprov.kekOutcome_of_key hopens hlen]

/-- A process that started from a key in the file holds it. -/
private theorem key_of_hsmInitialize {d : Disk} {key : Bytes} {mem : Memory}
    (hkek : d.kek = some key)
    (hlen : key.length = kekSize) (h : hsmInitialize ω ⟨d, mem, 0⟩ = .done .success w) :
    w.mem.encryptionKey = key := by
  have hok : KekFileOk (some key) := fun b hb => Option.some.inj hb ▸ hlen
  rw [Keyprov.hsmInitialize_eq] at h
  dsimp only at h
  rw [hkek] at h
  cases ho : kekOutcome ω.kek mem.encryptionKey (some key) with
  | failed rc m =>
    rw [ho] at h
    cases h
    exact absurd rfl (Keyprov.ne_success_of_failed ho)
  | loaded key' =>
    rw [ho] at h
    cases h
    exact (Option.some.inj (Keyprov.file_of_loaded hok ho)).symm
  | created key' b => exact absurd (Keyprov.of_made ho (.inl ⟨key', b, rfl⟩)).1 nofun
  | cut b => exact absurd (Keyprov.of_made ho (.inr ⟨b, rfl⟩)).1 nofun

/-- **While every new key reaches its file, the promises hold.** -/
theorem kekHolds_of_inv (hX : Keyprov.GcmLawful L.crypto) {past : List Label}
    (h : KekInv L past s) : KekHolds L past s := by
  refine ⟨fun hinit ω mem hopens => ?_, fun ω w k t hstart ht => ?_, fun ω mem hω => ?_⟩
  · have hkey := h.key hinit
    exact ⟨_, hsmInitialize_of_key mem hkey (h.disk.file _ hkey) hopens, rfl⟩
  · obtain ⟨key, iv, plain, hkey, hiv, rfl, hplain⟩ := h.disk.sealed k t ht
    have hlen : key.length = 32 := h.disk.file key hkey
    obtain ⟨ciphertext, tag, hsealed, -, htag⟩ := hX.parts key [] iv plain hiv
    have hlong : ¬ (L.crypto.gcmSeal key [] iv plain).length < 28 := by
      rw [hsealed, List.length_append, List.length_append, hiv, htag]
      omega
    refine ⟨_, plain, hexToBytes_toHex _, ?_, hplain⟩
    rw [key_of_hsmInitialize hkey hlen hstart]
    simp only [decryptPrivateKey, hlen, ne_eq, not_true_eq_false, if_false, hlong,
      hX.opens key [] iv plain hiv]
  · cases hkek : s.disk.kek with
    | some key =>
      exact ⟨_, hsmInitialize_of_key mem hkek (h.disk.file key hkek) hω.opens⟩
    | none =>
      obtain ⟨key, hkey⟩ := Keyprov.kekOutcome_of_calm mem.encryptionKey hω
      refine ⟨⟨{ s.disk with kek := some key.val }, { mem with encryptionKey := key.val }, 0⟩, ?_⟩
      rw [Keyprov.hsmInitialize_eq]
      dsimp only
      rw [hkek, hkey]

/-- **A write that is not whole** keeps every later process from starting. -/
theorem not_kekHolds_of_short {past : List Label} {l : Label} (hshort : ¬ KekWritten s l) :
    ¬ KekHolds L past ((system L).step s l).1 := by
  obtain ⟨call, ω⟩ := l
  unfold KekWritten at hshort
  push Not at hshort
  obtain ⟨rfl, hshort⟩ := hshort
  obtain ⟨key, -, hlen, ho⟩ := Keyprov.short_of_not_whole hshort
  -- whether the process dies or not, the file is short
  have hfile : ((system L).step s ⟨.start, ω⟩).1.disk.kek = some (key.val.take ω.kek.written) := by
    refine settle_of_wp (P := fun r => r.1.disk.kek = some (key.val.take ω.kek.written)) .code
      (Q := fun _ w => w.disk.kek = some (key.val.take ω.kek.written))
      (C := fun d => d.kek = some (key.val.take ω.kek.written)) ?_ (fun _ _ h => h) fun _ h => h
    unfold engineInitialize
    rw [Prog.wp_bind]
    unfold Prog.wp
    rw [Keyprov.hsmInitialize_eq]
    dsimp only [Sys.world]
    rw [ho]
    cases ω.kek.crash with
    | true => rfl
    | false => rfl
  intro hholds
  obtain ⟨w, hstart⟩ := hholds.starts Bench.calm Memory.fresh
    ⟨rfl, rfl, le_rfl, rfl⟩
  obtain ⟨rc, m, hrc, hfailed⟩ := Keyprov.kekOutcome_of_short Bench.calm.kek
    Memory.fresh.encryptionKey hlen
  rw [Keyprov.hsmInitialize_eq] at hstart
  replace hfailed : kekOutcome Bench.calm.kek Memory.fresh.encryptionKey
      (some (key.val.take ω.kek.written)) = .failed rc m := hfailed
  dsimp only at hstart
  rw [hfile, hfailed] at hstart
  cases hstart
  exact hrc rfl

end TboxSec.Hsm
