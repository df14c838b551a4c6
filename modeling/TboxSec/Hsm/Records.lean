import TboxSec.Hsm.KeyEngine

/-!
# What the store holds of a key

A key is **recorded** when both its records are in the store and come from one generation. A
recorded key loads, and what is loaded is that generation's key pair. `World.Ok` says that every
metadata record belongs to a recorded key; the functions of the HSM are specified by what
they do to it.

* `metadataRecord` and `privateRecord` name the two records of a key, and no two records of a
  store have one name.
* `load_of_recorded`: a recorded key loads in every process whose key-encryption key is the one
  under which it was sealed.
* `World.Ok.usable`: in a good machine every key that exists can be loaded.
-/

namespace TboxSec.Hsm

open Canonical Crash

variable {L : Library} {ω : Oracle}

/-! ### What is taken from the libraries -/

/-- The library calls the store relies on: AES-256-GCM opens what it sealed, in at least 28
bytes, and a metadata document survives its text. -/
structure Library.Lawful (L : Library) : Prop where
  opens : ∀ key iv plain : Bytes, iv.length = 12 →
    L.crypto.gcmOpen key [] (L.crypto.gcmSeal key [] iv plain) = some plain
  sealedLength : ∀ key iv plain : Bytes, iv.length = 12 →
    28 ≤ (L.crypto.gcmSeal key [] iv plain).length
  parse_dump : ∀ keyId kd, L.json.parse (L.json.dump (metadataJson keyId kd)) =
    some (metadataJson keyId kd)

/-! ### Names and texts -/

theorem metadataRecord_injective : Function.Injective metadataRecord :=
  fun _ _ h => (String.append_right_inj _).mp h

theorem privateRecord_injective : Function.Injective privateRecord :=
  fun _ _ h => (String.append_right_inj _).mp h

/-- Equal texts have equal first characters. -/
private theorem head_eq_of_append_eq {p q k k' : String} (h : p ++ k = q ++ k') {c d : Char}
    (hp : p.toList.head? = some c) (hq : q.toList.head? = some d) : c = d := by
  have hhead := congrArg (fun s => s.toList.head?) h
  simp only [String.toList_append, List.head?_append, hp, hq, Option.some_or] at hhead
  exact Option.some.inj hhead

theorem metadataRecord_ne_privateRecord (k k' : String) : metadataRecord k ≠ privateRecord k' := by
  intro h
  have hchars : 'k' = 'e' := head_eq_of_append_eq h (by decide) (by decide)
  exact absurd hchars (by decide)

/-- A nibble survives its digit. -/
private theorem nibble_hexDigit {n : ℕ} (h : n < 16) : nibble (hexDigit n) = some n := by
  interval_cases n <;> decide

private theorem stoulHex_hexDigits {hi lo : ℕ} (hhi : hi < 16) (hlo : lo < 16) :
    stoulHex [hexDigit hi, hexDigit lo] = some (hi * 16 + lo) := by
  simp only [stoulHex, nibble_hexDigit hhi, nibble_hexDigit hlo]

/-- The HSM reads the hex texts it writes. -/
@[simp]
theorem hexToBytes_toHex (b : Bytes) : hexToBytes (toHex b) = some b := by
  rw [hexToBytes, toHex, String.toList_ofList]
  induction b with
  | nil => rfl
  | cons x b ih =>
    have hx : x.toNat < 256 := x.toNat_lt
    have hpair : stoulHex [hexDigit (x.toNat / 16), hexDigit (x.toNat % 16)] =
        some (x.toNat / 16 * 16 + x.toNat % 16) := stoulHex_hexDigits (by omega) (by omega)
    have hval : UInt8.ofNat (x.toNat / 16 * 16 + x.toNat % 16) = x := by
      rw [show x.toNat / 16 * 16 + x.toNat % 16 = x.toNat by omega]
      exact UInt8.ofNat_toNat
    simp only [List.flatMap_cons, List.cons_append, List.nil_append, hexLoop, hpair, ih,
      Option.bind_eq_bind, Option.bind_some, hval]
    rfl

/-! ### Recorded keys -/

/-- Both records of the key are those of one generation. -/
def Recorded (L : Library) (log : List (String × KeyData)) (d : Disk) (keyId : String)
    (kd : KeyData) : Prop :=
  (keyId, kd) ∈ log ∧
    d.store (metadataRecord keyId) = some (L.json.dump (metadataJson keyId kd)) ∧
    ∃ key iv : Bytes, d.kek = some key ∧ iv.length = 12 ∧
      d.store (privateRecord keyId) = some (toHex (L.crypto.gcmSeal key [] iv kd.priv))

/-- The key data that are loaded for a recorded key: the creation time is cut to seconds. -/
def KeyData.loaded (kd : KeyData) : KeyData :=
  { kd with createdAt := kd.createdAt.tdiv 1000000000 * 1000000000 }

/-- **A recorded key loads.** -/
theorem load_of_recorded (hL : L.Lawful) {log : List (String × KeyData)} {d : Disk}
    {keyId : String} {kd : KeyData} {key : Bytes} (h : Recorded L log d keyId kd)
    (hkek : d.kek = some key) (hlen : key.length = 32) (hreads : ω.reads = true) :
    loadKeyFromStore L ω key d.store keyId = .ok kd.loaded := by
  obtain ⟨-, hmeta, key', iv, hkek', hiv, hpriv⟩ := h
  obtain rfl : key = key' := Option.some.inj (hkek.symm.trans hkek')
  have halgorithm : textAt "algorithm" (metadataJson keyId kd) = some kd.algorithm := rfl
  have hpub : (textAt "public_key" (metadataJson keyId kd)).bind hexToBytes = some kd.pub := by
    show hexToBytes (toHex kd.pub) = _
    exact hexToBytes_toHex kd.pub
  have hcreated : ((metadataJson keyId kd).field? "created_at").bind Json.number =
      some (kd.createdAt.tdiv 1000000000) := rfl
  have hdecrypt : decryptPrivateKey L key (L.crypto.gcmSeal key [] iv kd.priv) = .ok kd.priv := by
    have hlong := hL.sealedLength key iv kd.priv hiv
    simp only [decryptPrivateKey, hlen, ne_eq, not_true_eq_false, if_false, Nat.not_lt.mpr hlong,
      hL.opens key iv kd.priv hiv]
  simp only [loadKeyFromStore, hreads, Bool.not_true, Bool.false_eq_true, if_false, hmeta,
    hL.parse_dump, halgorithm, hpub, hpriv, hexToBytes_toHex, hdecrypt, hcreated, KeyData.loaded]

theorem Recorded.mono {log log' : List (String × KeyData)} {d : Disk} {keyId : String}
    {kd : KeyData} (h : Recorded L log d keyId kd) (hsub : ∀ x ∈ log, x ∈ log') :
    Recorded L log' d keyId kd :=
  ⟨hsub _ h.1, h.2⟩

/-- A key stays recorded while its two records and the file stay. -/
theorem Recorded.congr {log : List (String × KeyData)} {d d' : Disk} {keyId : String}
    {kd : KeyData} (h : Recorded L log d keyId kd)
    (hmeta : d'.store (metadataRecord keyId) = d.store (metadataRecord keyId))
    (hpriv : d'.store (privateRecord keyId) = d.store (privateRecord keyId))
    (hkek : d'.kek = d.kek) : Recorded L log d' keyId kd := by
  obtain ⟨hlog, hm, key, iv, hk, hiv, hp⟩ := h
  exact ⟨hlog, hmeta.trans hm, key, iv, hkek.trans hk, hiv, hpriv.trans hp⟩

/-! ### The invariant -/

/-- Every metadata record belongs to a recorded key. -/
structure Disk.Ok (L : Library) (log : List (String × KeyData)) (d : Disk) : Prop where
  kek : ∀ file, d.kek = some file → file.length = 32
  recorded : ∀ k, (d.store (metadataRecord k)).isSome = true → ∃ kd, Recorded L log d k kd

/-- An initialized process holds the key of the file, and caches recorded keys only. -/
structure World.Ok (L : Library) (log : List (String × KeyData)) (w : World) : Prop where
  disk : w.disk.Ok L log
  key : w.mem.initialized = true → w.disk.kek = some w.mem.encryptionKey
  cached : ∀ k c, w.mem.keys k = some c → w.mem.initialized = true ∧
    ∃ kd, Recorded L log w.disk k kd ∧ c.pub = kd.pub ∧ c.priv = kd.priv

theorem Disk.Ok.mono {log log' : List (String × KeyData)} {d : Disk} (h : d.Ok L log)
    (hsub : ∀ x ∈ log, x ∈ log') : d.Ok L log' := by
  refine ⟨h.kek, fun k hk => ?_⟩
  obtain ⟨kd, hkd⟩ := h.recorded k hk
  exact ⟨kd, hkd.mono hsub⟩

theorem World.Ok.mono {log log' : List (String × KeyData)} {w : World} (h : w.Ok L log)
    (hsub : ∀ x ∈ log, x ∈ log') : w.Ok L log' := by
  refine ⟨h.disk.mono hsub, h.key, fun k c hc => ?_⟩
  obtain ⟨hinit, kd, hkd, hpub, hpriv⟩ := h.cached k c hc
  exact ⟨hinit, kd, hkd.mono hsub, hpub, hpriv⟩

/-- The count of changes does not matter. -/
theorem World.Ok.writes {log : List (String × KeyData)} {w : World} (h : w.Ok L log) (n : ℕ) :
    World.Ok L log { w with writes := n } :=
  ⟨h.disk, h.key, h.cached⟩

/-- A fresh process on a good disk. -/
theorem Disk.Ok.fresh {log : List (String × KeyData)} {d : Disk} (h : d.Ok L log) (n : ℕ) :
    World.Ok L log ⟨d, Memory.fresh, n⟩ :=
  ⟨h, fun hinit => (by cases hinit), fun _ _ hc => (by cases hc)⟩

/-- **An existing key is recorded**, and loads with the key in memory. -/
theorem World.Ok.usable (hL : L.Lawful) {log : List (String × KeyData)} {w : World}
    (h : w.Ok L log) {k : String} (hexists : keyExists ω w k = true) :
    ∃ kd, Recorded L log w.disk k kd ∧
      (∀ c, w.mem.keys k = some c → c.pub = kd.pub ∧ c.priv = kd.priv) ∧
      ∀ ω' : Oracle, ω'.reads = true → w.mem.initialized = true →
        loadKeyFromStore L ω' w.mem.encryptionKey w.disk.store k = .ok kd.loaded := by
  have hload : ∀ kd, Recorded L log w.disk k kd → ∀ ω' : Oracle, ω'.reads = true →
      w.mem.initialized = true →
        loadKeyFromStore L ω' w.mem.encryptionKey w.disk.store k = .ok kd.loaded :=
    fun kd hkd ω' hreads hinit =>
      load_of_recorded hL hkd (h.key hinit) (h.disk.kek _ (h.key hinit)) hreads
  rcases hcache : w.mem.keys k with - | c
  · have hmeta : (w.disk.store (metadataRecord k)).isSome = true := by
      simp only [keyExists, hcache, Option.isSome_none, Bool.false_or, Bool.and_eq_true] at hexists
      exact hexists.2.2
    obtain ⟨kd, hkd⟩ := h.disk.recorded k hmeta
    exact ⟨kd, hkd, fun _ hc => (by cases hc), hload kd hkd⟩
  · obtain ⟨-, kd, hkd, hpub, hpriv⟩ := h.cached k c hcache
    refine ⟨kd, hkd, fun c' hc' => ?_, hload kd hkd⟩
    cases hc'
    exact ⟨hpub, hpriv⟩

end TboxSec.Hsm
