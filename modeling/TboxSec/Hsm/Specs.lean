import TboxSec.Hsm.Records

/-!
# The HSM keeps its keys recorded

A specification for each function of the HSM and the engine: from a good machine it ends in a
good machine, and a crash in it leaves a good disk. The deletion of a key alone has a
condition, as it removes the private key before the commit marker: it must not be cut short in
between.

* `Oracle.StoreOnly`: the store can be read, and a new key-encryption key reaches its file whole.
  In `Oracle.Calm` nothing fails at all.
* `World.Ok.…`: how a good machine stays good when a record is written, removed or cached.
* `SameButCache`: what the functions that only look may change.
* `wp_…`: the specifications, from `wp_fetchKey` to `wp_hsmInitialize`, each from those of its
  calls.
-/

namespace TboxSec.Hsm

open Canonical Crash

variable {L : Library} {ω : Oracle} {log : List (String × KeyData)} {w : World}

/-! ### The environment -/

/-- Nothing but the changes of the store fails on the way to the disk: the store is read, and a
new key-encryption key reaches its file. Random numbers may fail, and files may not open. -/
structure Oracle.StoreOnly (ω : Oracle) : Prop where
  reads : ω.reads = true
  written : 32 ≤ ω.kek.written
  survives : ω.kek.crash = false

/-- Nothing fails. -/
structure Oracle.Calm (ω : Oracle) : Prop extends ω.StoreOnly where
  write : ∀ n, ω.write n = .ok
  opens : ω.kek.opens = true
  random : ω.kek.random.isSome = true
  iv : ω.iv.isSome = true
  scalar : ω.scalar.isSome = true

/-! ### Changes of the store -/

theorem wp_change {f : (String → Option String) → String → Option String}
    {Q : Bool → World → Prop} {C : Disk → Prop}
    (hok : ω.write w.writes = .ok →
      Q true { w with disk.store := f w.disk.store, writes := w.writes + 1 })
    (hfailed : ω.write w.writes = .failed → Q false { w with writes := w.writes + 1 })
    (hcrash : ω.write w.writes = .crash → C w.disk) : Prog.wp (change ω f) Q C w := by
  unfold Prog.wp change
  cases hwrite : ω.write w.writes with
  | ok => exact hok hwrite
  | failed => exact hfailed hwrite
  | crash => exact hcrash hwrite

section Update

variable (store : String → Option String) (k k' : String) (t : Option String)

@[simp]
theorem update_private_metadata :
    Function.update store (privateRecord k) t (metadataRecord k') = store (metadataRecord k') :=
  Function.update_of_ne (metadataRecord_ne_privateRecord k' k) t store

@[simp]
theorem update_metadata_private :
    Function.update store (metadataRecord k) t (privateRecord k') = store (privateRecord k') :=
  Function.update_of_ne (metadataRecord_ne_privateRecord k k').symm t store

variable {k k'}

private theorem update_metadata_of_ne (hk : k' ≠ k) :
    Function.update store (metadataRecord k) t (metadataRecord k') = store (metadataRecord k') :=
  Function.update_of_ne (fun heq => hk (metadataRecord_injective heq)) t store

theorem update_private_of_ne (hk : k' ≠ k) :
    Function.update store (privateRecord k) t (privateRecord k') = store (privateRecord k') :=
  Function.update_of_ne (fun heq => hk (privateRecord_injective heq)) t store

end Update

/-- A key without a metadata record is not cached. -/
private theorem World.Ok.not_cached (h : w.Ok L log) {k : String}
    (hnone : w.disk.store (metadataRecord k) = none) : w.mem.keys k = none := by
  cases hcache : w.mem.keys k with
  | none => rfl
  | some c =>
    obtain ⟨-, kd, hkd, -⟩ := h.cached k c hcache
    exact absurd (hnone.symm.trans hkd.2.1) nofun

/-- A change of the disk that adds no metadata record and spares the recorded keys. -/
private theorem World.Ok.of_disk (h : w.Ok L log) {d : Disk} (hkek : d.kek = w.disk.kek)
    (hold : ∀ k, (d.store (metadataRecord k)).isSome = true →
      (w.disk.store (metadataRecord k)).isSome = true)
    (hkeep : ∀ k kd, (d.store (metadataRecord k)).isSome = true ∨ (w.mem.keys k).isSome = true →
      Recorded L log w.disk k kd → Recorded L log d k kd) :
    World.Ok L log { w with disk := d } := by
  refine ⟨⟨fun file hfile => h.disk.kek file (hkek.symm.trans hfile), fun k hk => ?_⟩,
    fun hinit => hkek.trans (h.key hinit), fun k c hc => ?_⟩
  · obtain ⟨kd, hkd⟩ := h.disk.recorded k (hold k hk)
    exact ⟨kd, hkeep k kd (.inl hk) hkd⟩
  · obtain ⟨hinit, kd, hkd, hc'⟩ := h.cached k c hc
    exact ⟨hinit, kd, hkeep k kd (.inr (Option.isSome_of_eq_some hc)) hkd, hc'⟩

/-- The private record of a key that has no metadata may be changed. -/
private theorem World.Ok.change_private (h : w.Ok L log) {k : String} (t : Option String)
    (hnone : w.disk.store (metadataRecord k) = none) :
    World.Ok L log { w with disk.store := Function.update w.disk.store (privateRecord k) t } := by
  refine h.of_disk rfl (fun k' hk' => ?_) fun k' kd _ hkd => ?_
  · dsimp only at hk'
    rwa [update_private_metadata] at hk'
  · have hk : k' ≠ k := by
      rintro rfl
      exact absurd (hnone.symm.trans hkd.2.1) nofun
    exact hkd.congr (update_private_metadata _ k k' t) (update_private_of_ne _ t hk) rfl

/-- A key that is dropped from the cache. -/
private theorem World.Ok.uncache (h : w.Ok L log) (k : String) :
    World.Ok L log { w with mem.keys := Function.update w.mem.keys k none } := by
  refine ⟨h.disk, h.key, fun k' c hc => ?_⟩
  by_cases hk : k' = k
  · rw [hk] at hc
    exact absurd ((Function.update_self k none w.mem.keys).symm.trans hc) nofun
  · exact h.cached k' c ((Function.update_of_ne hk none w.mem.keys).symm.trans hc)

/-- The removal of a metadata record, when the key is not cached. -/
private theorem World.Ok.remove_metadata (h : w.Ok L log) {k : String}
    (hcache : w.mem.keys k = none) :
    World.Ok L log
      { w with disk.store := Function.update w.disk.store (metadataRecord k) none } := by
  refine h.of_disk rfl (fun k' hk' => ?_) fun k' kd hk' hkd => ?_
  · dsimp only at hk'
    by_cases hk : k' = k
    · rw [hk, Function.update_self] at hk'
      cases hk'
    · rwa [update_metadata_of_ne _ _ hk] at hk'
  · have hk : k' ≠ k := by
      rintro rfl
      dsimp only at hk'
      rw [Function.update_self, hcache] at hk'
      rcases hk' with hk' | hk' <;> cases hk'
    exact hkd.congr (update_metadata_of_ne _ none hk) (update_metadata_private _ k k' none) rfl

/-! ### Loading -/

/-- The key pair of a recorded key is determined. -/
private theorem World.Ok.recorded_unique (hL : L.Lawful) (h : w.Ok L log) (ω : Oracle)
    (hreads : ω.reads = true) {k : String} {kd kd' : KeyData}
    (hkd : Recorded L log w.disk k kd) (hkd' : Recorded L log w.disk k kd') :
    kd.pub = kd'.pub ∧ kd.priv = kd'.priv := by
  obtain ⟨-, -, key, -, hkek, -, -⟩ := id hkd
  have hlen := h.disk.kek key hkek
  have hload := load_of_recorded hL hkd hkek hlen hreads
  have hload' := load_of_recorded hL hkd' hkek hlen hreads
  have hloaded : kd.loaded = kd'.loaded := Except.ok.inj (hload.symm.trans hload')
  exact ⟨(congrArg KeyData.pub hloaded :), (congrArg KeyData.priv hloaded :)⟩

/-- The caching of a recorded key. -/
theorem World.Ok.cache (h : w.Ok L log) (hinit : w.mem.initialized = true) {k : String}
    {c kd : KeyData} (hkd : Recorded L log w.disk k kd) (hpub : c.pub = kd.pub)
    (hpriv : c.priv = kd.priv) :
    World.Ok L log { w with mem.keys := Function.update w.mem.keys k (some c) } := by
  refine ⟨h.disk, h.key, fun k' c' hc' => ?_⟩
  by_cases hk : k' = k
  · subst hk
    obtain rfl : c = c' :=
      Option.some.inj ((Function.update_self k' (some c) w.mem.keys).symm.trans hc')
    exact ⟨hinit, kd, hkd, hpub, hpriv⟩
  · exact h.cached k' c' ((Function.update_of_ne hk (some c) w.mem.keys).symm.trans hc')

/-- What a use of a key keeps: everything but the cache. -/
structure SameButCache (w w' : World) : Prop where
  disk : w'.disk = w.disk
  key : w'.mem.encryptionKey = w.mem.encryptionKey
  initialized : w'.mem.initialized = w.mem.initialized
  writes : w'.writes = w.writes

theorem SameButCache.refl (w : World) : SameButCache w w := ⟨rfl, rfl, rfl, rfl⟩

/-- **Fetching a key.** A recorded key is found, in the cache or in the store. -/
theorem wp_fetchKey (hL : L.Lawful) (h : w.Ok L log) (hinit : w.mem.initialized = true)
    (k : String) :
    Prog.wp (fetchKey L ω k)
      (fun r w' => World.Ok L log w' ∧ SameButCache w w' ∧
        ∀ kd, Recorded L log w.disk k kd → ω.reads = true →
          ∃ c, r = .ok c ∧ c.pub = kd.pub ∧ c.priv = kd.priv)
      (fun _ => False) w := by
  unfold fetchKey
  rw [Prog.wp_bind, Prog.wp_gets]
  cases hcache : w.mem.keys k with
  | some c =>
    obtain ⟨-, kd₀, hkd₀, hpub, hpriv⟩ := h.cached k c hcache
    rw [Prog.wp_pure]
    refine ⟨h, .refl w, fun kd hkd hreads => ?_⟩
    obtain ⟨hpub', hpriv'⟩ := h.recorded_unique hL ω hreads hkd₀ hkd
    exact ⟨c, rfl, hpub.trans hpub', hpriv.trans hpriv'⟩
  | none =>
    dsimp only
    rw [Prog.wp_bind, Prog.wp_gets]
    have hkey := h.key hinit
    have hlen := h.disk.kek _ hkey
    cases hload : loadKeyFromStore L ω w.mem.encryptionKey w.disk.store k with
    | error rc =>
      rw [Prog.wp_pure]
      refine ⟨h, .refl w, fun kd hkd hreads => ?_⟩
      exact absurd ((load_of_recorded hL hkd hkey hlen hreads).symm.trans hload) nofun
    | ok c =>
      have hreads : ω.reads = true := by
        by_contra hreads
        rw [loadKeyFromStore, Bool.eq_false_of_not_eq_true hreads] at hload
        cases hload
      have hmeta : (w.disk.store (metadataRecord k)).isSome = true := by
        by_contra hmeta
        rw [Option.not_isSome_iff_eq_none] at hmeta
        rw [loadKeyFromStore, hreads, hmeta] at hload
        cases hload
      obtain ⟨kd₀, hkd₀⟩ := h.disk.recorded k hmeta
      have hc : c = kd₀.loaded :=
        Except.ok.inj (hload.symm.trans (load_of_recorded hL hkd₀ hkey hlen hreads))
      rw [Prog.wp_bind, Prog.wp_modify, Prog.wp_pure]
      refine ⟨h.cache hinit hkd₀ (by rw [hc]; rfl) (by rw [hc]; rfl), ⟨rfl, rfl, rfl, rfl⟩,
        fun kd hkd _ => ⟨c, rfl, ?_⟩⟩
      obtain ⟨hpub, hpriv⟩ := h.recorded_unique hL ω hreads hkd₀ hkd
      rw [hc]
      exact ⟨hpub, hpriv⟩

/-! ### Using a key -/

theorem wp_exportPublicKey (hL : L.Lawful) (h : w.Ok L log) (hinit : w.mem.initialized = true)
    (k : String) :
    Prog.wp (exportPublicKey L ω k)
      (fun r w' => World.Ok L log w' ∧ SameButCache w w' ∧
        ∀ kd, Recorded L log w.disk k kd → ω.reads = true → isValidKeyId k = true →
          r = (.success, kd.pub))
      (fun _ => False) w := by
  unfold exportPublicKey
  split
  · rename_i hinvalid
    exact ⟨h, .refl w, fun kd _ _ hvalid => by simp [hvalid] at hinvalid⟩
  · rw [Prog.wp_bind]
    refine Prog.wp_mono (wp_fetchKey hL h hinit k) (fun r w' ⟨hok, hsame, hfound⟩ => ?_)
      fun _ => id
    cases r with
    | error rc =>
      refine ⟨hok, hsame, fun kd hkd hreads _ => ?_⟩
      obtain ⟨c, hc, -⟩ := hfound kd hkd hreads
      cases hc
    | ok c =>
      refine ⟨hok, hsame, fun kd hkd hreads _ => ?_⟩
      obtain ⟨c', hc, hpub, -⟩ := hfound kd hkd hreads
      cases hc
      rw [hpub]

theorem wp_sign (hL : L.Lawful) (h : w.Ok L log) (hinit : w.mem.initialized = true)
    (k : String) (data : Bytes) :
    Prog.wp (sign L ω k data) (fun _ w' => World.Ok L log w' ∧ SameButCache w w')
      (fun _ => False) w := by
  unfold sign
  split
  · exact ⟨h, .refl w⟩
  · rw [Prog.wp_bind]
    refine Prog.wp_mono (wp_fetchKey hL h hinit k) (fun r w' ⟨hok, hsame, _⟩ => ?_) fun _ => id
    cases r with
    | error rc => exact ⟨hok, hsame⟩
    | ok c =>
      -- every branch returns without touching the state
      dsimp only
      split
      · exact ⟨hok, hsame⟩
      · split
        · exact ⟨hok, hsame⟩
        · exact ⟨hok, hsame⟩

/-! ### Saving a key -/

/-- The metadata record, written over the private record of the same generation, makes the key
recorded. -/
private theorem World.Ok.add_metadata (h : w.Ok L log) {k : String} {kd : KeyData} {key iv : Bytes}
    (hnone : w.disk.store (metadataRecord k) = none) (hkek : w.disk.kek = some key)
    (hiv : iv.length = 12)
    (hpriv : w.disk.store (privateRecord k) = some (toHex (L.crypto.gcmSeal key [] iv kd.priv)))
    {d : Disk} (hd : d = { w.disk with
      store := Function.update w.disk.store (metadataRecord k)
        (some (L.json.dump (metadataJson k kd))) }) :
    Recorded L ((k, kd) :: log) d k kd ∧ World.Ok L ((k, kd) :: log) { w with disk := d } := by
  have hself : d.store (metadataRecord k) = some (L.json.dump (metadataJson k kd)) := by
    rw [hd]
    exact Function.update_self _ _ _
  have hother : ∀ k', k' ≠ k → d.store (metadataRecord k') = w.disk.store (metadataRecord k') := by
    intro k' hk'
    rw [hd]
    exact update_metadata_of_ne _ _ hk'
  have hprivate : ∀ k', d.store (privateRecord k') = w.disk.store (privateRecord k') := by
    intro k'
    simp only [hd, update_metadata_private]
  have hfile : d.kek = w.disk.kek := by rw [hd]
  have hnew : Recorded L ((k, kd) :: log) d k kd :=
    ⟨List.mem_cons_self .., hself, key, iv, hfile.trans hkek, hiv, (hprivate k).trans hpriv⟩
  have hold : ∀ k' kd', k' ≠ k → Recorded L log w.disk k' kd' →
      Recorded L ((k, kd) :: log) d k' kd' := fun k' kd' hk' hkd' =>
    (hkd'.congr (hother k' hk') (hprivate k') hfile).mono fun _ => List.mem_cons_of_mem _
  refine ⟨hnew, ⟨fun file hf => h.disk.kek file (hfile.symm.trans hf), fun k' hk' => ?_⟩,
    fun hinit => hfile.trans (h.key hinit), fun k' c hc => ?_⟩
  · by_cases hk : k' = k
    · rw [hk]
      exact ⟨kd, hnew⟩
    · rw [hother k' hk] at hk'
      obtain ⟨kd', hkd'⟩ := h.disk.recorded k' hk'
      exact ⟨kd', hold k' kd' hk hkd'⟩
  · obtain ⟨hinit, kd', hkd', hc'⟩ := h.cached k' c hc
    have hk : k' ≠ k := by
      rintro rfl
      exact absurd (hnone.symm.trans hkd'.2.1) nofun
    exact ⟨hinit, kd', hold k' kd' hk hkd', hc'⟩

/-- **Saving a new key.** The private record alone is nothing; the metadata record makes the key
recorded. -/
theorem wp_saveKeyToStore (h : w.Ok L log) (hinit : w.mem.initialized = true) {k : String}
    (kd : KeyData) (hnone : w.disk.store (metadataRecord k) = none) :
    Prog.wp (saveKeyToStore L ω k kd)
      (fun rc w' => World.Ok L ((k, kd) :: log) w' ∧ w'.mem = w.mem ∧
        (rc ≠ .success → World.Ok L log w') ∧
        (rc = .success → Recorded L ((k, kd) :: log) w'.disk k kd) ∧
        (ω.Calm → rc = .success))
      (fun d => d.Ok L log ∧ ¬ ω.Calm) w := by
  have hmono : ∀ {w' : World}, World.Ok L log w' → World.Ok L ((k, kd) :: log) w' :=
    fun hok => hok.mono fun _ => List.mem_cons_of_mem _
  have hkek := h.key hinit
  have hlen : w.mem.encryptionKey.length = 32 := h.disk.kek _ hkek
  unfold saveKeyToStore
  rw [Prog.wp_bind, Prog.wp_gets]
  simp only [encryptPrivateKey, hlen, ne_eq, not_true_eq_false, if_false]
  cases hiv : ω.iv with
  | none =>
    refine ⟨hmono h, rfl, fun _ => h, nofun, fun hcalm => ?_⟩
    exact absurd hcalm.iv (by simp [hiv])
  | some iv =>
    dsimp only
    rw [Prog.wp_bind]
    have hcut : ∀ n, ω.write n = .crash → ¬ ω.Calm := fun n hcrash hcalm =>
      absurd ((hcalm.write n).symm.trans hcrash) nofun
    refine wp_change (fun _ => ?_) (fun hfailed => ?_) fun hcrash => ⟨h.disk, hcut _ hcrash⟩
    · -- the private key is written
      simp only [Bool.not_true, Bool.false_eq_true, if_false]
      set sealed := toHex (L.crypto.gcmSeal w.mem.encryptionKey [] iv.val kd.priv) with hsealed
      have hprivate := (h.change_private (some sealed) hnone).writes (w.writes + 1)
      have hnone' := (update_private_metadata w.disk.store k k (some sealed)).trans hnone
      have hself := Function.update_self (privateRecord k) (some sealed) w.disk.store
      rw [Prog.wp_bind]
      refine wp_change (fun _ => ?_) (fun hfailed => ?_)
        fun hcrash => ⟨hprivate.disk, hcut _ hcrash⟩
      · -- and the metadata over it
        obtain ⟨hnew, hok⟩ :=
          World.Ok.add_metadata hprivate hnone' hkek iv.property (hsealed ▸ hself) rfl
        exact ⟨hok.writes _, rfl, fun hne => absurd rfl hne, fun _ => hnew, fun _ => rfl⟩
      · exact ⟨hmono (hprivate.writes _), rfl, fun _ => hprivate.writes _, nofun,
          fun hcalm => absurd (hcalm.write _ |>.symm.trans hfailed) nofun⟩
    · exact ⟨hmono (h.writes _), rfl, fun _ => h.writes _, nofun,
        fun hcalm => absurd (hcalm.write _ |>.symm.trans hfailed) nofun⟩

/-! ### Making and deleting keys -/

/-- **Making a key** that has no metadata record. -/
theorem wp_generateKeyPair (h : w.Ok L log) (hinit : w.mem.initialized = true) {k : String}
    (algorithm : String)
    (hnone : isValidKeyId k = true → w.disk.store (metadataRecord k) = none) :
    Prog.wp (generateKeyPair L ω k algorithm)
      (fun r w' =>
        (r.1 = .success → ∃ scalar, ω.scalar = some scalar ∧
          World.Ok L ((k, generatedKey L.curve algorithm ω.now scalar) :: log) w' ∧
          Recorded L ((k, generatedKey L.curve algorithm ω.now scalar) :: log) w'.disk k
            (generatedKey L.curve algorithm ω.now scalar) ∧
          r.2.publicKey = (generatedKey L.curve algorithm ω.now scalar).pub) ∧
        (r.1 ≠ .success → World.Ok L log w') ∧
        (ω.Calm → isValidKeyId k = true → r.1 = .success))
      (fun d => d.Ok L log ∧ ¬ ω.Calm) w := by
  unfold generateKeyPair
  rw [Prog.wp_bind, Prog.wp_gets]
  split
  · rename_i hinvalid
    exact ⟨nofun, fun _ => h, fun _ hvalid => by simp [hvalid] at hinvalid⟩
  · rename_i hvalid
    have hnone := hnone (by simpa using hvalid)
    rw [h.not_cached hnone]
    simp only [Option.isSome_none, Bool.false_eq_true, if_false]
    cases hscalar : ω.scalar with
    | none => exact ⟨nofun, fun _ => h, fun hcalm _ => absurd hcalm.scalar (by simp [hscalar])⟩
    | some scalar =>
      dsimp only
      set kd := generatedKey L.curve algorithm ω.now scalar with hkd
      rw [Prog.wp_bind]
      refine Prog.wp_mono (wp_saveKeyToStore h hinit kd hnone)
        (fun rc w' ⟨hok, hmem, hfail, hsaved, hcalm⟩ => ?_) fun _ => id
      by_cases hrc : rc = .success
      · rw [if_neg (not_not.mpr hrc), Prog.wp_bind, Prog.wp_modify, Prog.wp_pure]
        have hcached := hok.cache (hmem ▸ hinit) (hsaved hrc) rfl rfl
        exact ⟨fun _ => ⟨scalar, rfl, hcached, hsaved hrc, rfl⟩, fun hne => absurd rfl hne,
          fun _ _ => rfl⟩
      · rw [if_pos hrc, Prog.wp_pure]
        exact ⟨fun hsuccess => absurd hsuccess hrc, fun _ => hfail hrc,
          fun hω _ => absurd (hcalm hω) hrc⟩

/-- **Deleting a key**, not cut short between the two records of an existing key. -/
theorem wp_deleteKey (h : w.Ok L log) {k : String} (hwrites : w.writes = 0)
    (hwhole : isValidKeyId k = true → (w.disk.store (metadataRecord k)).isSome = true →
      ω.write 0 = .ok → ω.write 1 = .ok) :
    Prog.wp (deleteKey ω k) (fun _ w' => World.Ok L log w') (Disk.Ok L log) w := by
  unfold deleteKey
  split
  · exact h
  · rename_i hvalid
    have huncached := h.uncache k
    rw [Prog.wp_bind, Prog.wp_modify, Prog.wp_bind]
    refine wp_change (fun hok => ?_) (fun _ => huncached.writes _) fun _ => h.disk
    simp only [Bool.not_true, Bool.false_eq_true, if_false]
    rw [Prog.wp_bind]
    have hcache : Function.update w.mem.keys k none k = none :=
      Function.update_self k none w.mem.keys
    have hnometa : ω.write (w.writes + 1) ≠ .ok → w.disk.store (metadataRecord k) = none := by
      intro hcut
      rw [hwrites] at hcut hok
      by_contra hmeta
      exact hcut (hwhole (by simpa using hvalid) (Option.isSome_iff_ne_none.mpr hmeta) hok)
    refine wp_change (fun _ => ?_) (fun hfailed => ?_) fun hcrash => ?_
    · -- with both records gone the order of the removals does not matter
      have hboth := (huncached.remove_metadata hcache).change_private none
        (Function.update_self (metadataRecord k) none w.disk.store)
      dsimp only at hboth
      rw [Function.update_comm (metadataRecord_ne_privateRecord k k)] at hboth
      exact hboth.writes _
    · have hprivate := huncached.change_private none (hnometa (by simp [hfailed]))
      exact hprivate.writes _
    · have hprivate := huncached.change_private none (hnometa (by simp [hcrash]))
      exact hprivate.disk

/-! ### Starting -/

/-- **Initialization**, when a new key-encryption key reaches its file. -/
theorem wp_hsmInitialize (h : w.Ok L log) (hω : ω.StoreOnly) :
    Prog.wp (hsmInitialize ω)
      (fun rc w' => World.Ok L log w' ∧ (w.disk.kek.isSome = true → w'.disk = w.disk) ∧
        (rc = .success → w'.disk.kek = some w'.mem.encryptionKey) ∧
        (ω.kek.opens = true → w.disk.kek.isSome = true ∨ ω.kek.random.isSome = true →
          rc = .success))
      (fun _ => False) w := by
  unfold hsmInitialize
  rw [Prog.wp_bind, Prog.wp_gets]
  cases hkek : w.disk.kek with
  | some file =>
    have hlen := h.disk.kek file hkek
    unfold Prog.wp loadEncryptionKey
    cases hopens : ω.kek.opens with
    | false => exact ⟨h, fun _ => rfl, by simp, by simp⟩
    | true =>
      simp only [Bool.not_true, Bool.false_eq_true, if_false, hlen, Nat.lt_irrefl,
        Outcome.meets_done]
      rw [List.take_of_length_le hlen.le]
      exact ⟨⟨h.disk, fun _ => hkek, h.cached⟩, fun _ => trivial, fun _ => hkek,
        fun _ _ => trivial⟩
  | none =>
    -- without the file no process is initialized and nothing is stored
    have hinit : ¬ w.mem.initialized = true := fun hinit => by
      have := h.key hinit
      rw [hkek] at this
      cases this
    have hcached : ∀ k, w.mem.keys k = none := by
      intro k
      by_contra hc
      obtain ⟨c, hc⟩ := Option.ne_none_iff_exists'.mp hc
      exact hinit (h.cached k c hc).1
    have hstore : ∀ k, w.disk.store (metadataRecord k) = none := by
      intro k
      by_contra hk
      obtain ⟨kd, -, -, key, iv, hkey, -⟩ :=
        h.disk.recorded k (Option.isSome_iff_ne_none.mpr hk)
      exact absurd (hkek.symm.trans hkey) (by simp)
    have hok : ∀ (m : Bytes) (file : Option Bytes) (n : ℕ),
        (∀ b, file = some b → b.length = 32) →
        World.Ok L log ⟨⟨w.disk.store, file⟩, { w.mem with encryptionKey := m }, n⟩ := by
      intro m file n hfile
      refine ⟨⟨hfile, fun k hk => ?_⟩, fun hi => absurd hi hinit, fun k c hc => ?_⟩
      · rw [hstore k] at hk
        cases hk
      · exact absurd ((hcached k).symm.trans hc) (by simp)
    have hnofile : ∀ b, w.disk.kek = some b → b.length = 32 := h.disk.kek
    unfold Prog.wp generateEncryptionKey
    cases hrandom : ω.kek.random with
    | none =>
      refine ⟨hok _ _ _ hnofile, fun _ => rfl, by simp, fun _ hr => ?_⟩
      rcases hr with hr | hr <;> cases hr
    | some key =>
      cases hopens : ω.kek.opens with
      | false => exact ⟨hok _ _ _ hnofile, fun _ => rfl, by simp, by simp⟩
      | true =>
        have htake : key.val.take ω.kek.written = key.val :=
          List.take_of_length_le (key.property.le.trans hω.written)
        simp only [Bool.not_true, Bool.false_eq_true, if_false, hω.survives, htake,
          Outcome.meets_done]
        refine ⟨hok key.val (some key.val) w.writes fun b hb => ?_, by simp,
          fun _ => trivial, fun _ _ => trivial⟩
        rw [← Option.some.inj hb]
        exact key.property

end TboxSec.Hsm
