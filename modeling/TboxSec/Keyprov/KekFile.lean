import TboxSec.Keyprov.Provider
import TboxSec.Hsm.SoftFile

/-!
# The file of a key-encryption key

The HSM and the business-key provider keep their key-encryption key the same way: it is loaded
if its file exists, and otherwise made, written and used, whether or not the write took effect.
`kekOutcome` is what this comes to; both programs are shown to be it, and the facts about it
are proved once.

* `KekOutcome`: the key of the file was loaded, a new key was created, the process died while it
  wrote one, or there is no key.
* `hsmInitialize_eq`, `loadOrGenerateKek_eq`: the two programs come to `kekOutcome`.
* `kekOutcome_of_key`, `kekOutcome_of_short`: with a whole key in the file that key is used; with
  a file that is too short there is no key, in this process or in any later one.
* `short_of_not_whole`: and such a file is what a write that was cut short leaves behind.
-/

namespace TboxSec.Keyprov

open Canonical Crash

/-- What loading or making the key comes to. -/
inductive KekOutcome where
  /-- It fails, and leaves `mem` in memory. -/
  | failed (rc : ErrorCode) (mem : Bytes)
  /-- The key of the file. -/
  | loaded (key : Bytes)
  /-- A new key, and what of it reached the file. -/
  | created (key file : Bytes)
  /-- The process dies and leaves the file. -/
  | cut (file : Bytes)

/-- Loading or making the key, with `mem` in memory before. -/
def kekOutcome (a : KekAnswer) (mem : Bytes) : Option Bytes → KekOutcome
  | some file =>
    if !a.opens then .failed .storageReadFailed mem
    else if file.length < kekSize then .failed .storageCorruption []
    else .loaded (file.take kekSize)
  | none =>
    match a.random with
    | none => .failed .internalError ((mem ++ List.replicate kekSize 0).take kekSize)
    | some key =>
      if !a.opens then .failed .storageWriteFailed key.val
      else if a.crash then .cut (key.val.take a.written)
      else .created key.val (key.val.take a.written)

/-- Where the key is made and its file opens, all of it reaches the file. -/
def KekAnswer.Whole (a : KekAnswer) (file : Option Bytes) : Prop :=
  file = none → a.random.isSome = true → a.opens = true → kekSize ≤ a.written

/-- Nothing fails on the way to the key. -/
structure KekAnswer.Calm (a : KekAnswer) : Prop where
  random : a.random.isSome = true
  opens : a.opens = true
  written : kekSize ≤ a.written
  survives : a.crash = false

/-- The file, if there is one, holds a key. -/
def KekFileOk (file : Option Bytes) : Prop := ∀ b, file = some b → b.length = kekSize

/-! ### Both programs are this one -/

theorem hsmInitialize_eq (ω : Hsm.Oracle) (w : Hsm.World) :
    Hsm.hsmInitialize ω w =
      match kekOutcome ω.kek w.mem.encryptionKey w.disk.kek with
      | .failed rc m => .done rc { w with mem.encryptionKey := m }
      | .loaded key => .done .success { w with mem.encryptionKey := key }
      | .created key file =>
        .done .success { w with mem.encryptionKey := key, disk.kek := some file }
      | .cut file => .crashed { w.disk with kek := some file } := by
  have hbind : Hsm.hsmInitialize ω w =
      (match w.disk.kek with
        | some file => Hsm.loadEncryptionKey ω file
        | none => Hsm.generateEncryptionKey ω) w := rfl
  rw [hbind]
  cases w.disk.kek with
  | some file =>
    simp only [Hsm.loadEncryptionKey, kekOutcome, kekSize]
    cases ω.kek.opens with
    | false => rfl
    | true =>
      by_cases hlen : file.length < 32
      · simp only [hlen, if_true]
        rfl
      · simp only [hlen, if_false]
        rfl
  | none =>
    simp only [Hsm.generateEncryptionKey, kekOutcome, kekSize]
    cases ω.kek.random with
    | none => rfl
    | some key =>
      cases ω.kek.opens with
      | false => rfl
      | true =>
        cases ω.kek.crash with
        | false => rfl
        | true => rfl

theorem loadOrGenerateKek_eq (ω : Oracle) (w : World) :
    loadOrGenerateKek ω w.disk.kek w =
      match kekOutcome ω.kek w.prov.kek w.disk.kek with
      | .failed rc m => .done rc { w with prov.kek := m }
      | .loaded key => .done .success { w with prov.kek := key }
      | .created key file => .done .success { w with prov.kek := key, disk.kek := some file }
      | .cut file => .crashed { w.disk with kek := some file } := by
  cases w.disk.kek with
  | some file =>
    simp only [loadOrGenerateKek, loadKek, kekOutcome]
    cases ω.kek.opens with
    | false => rfl
    | true =>
      by_cases hlen : file.length < kekSize
      · simp only [hlen, if_true]
        rfl
      · simp only [hlen, if_false]
        rfl
  | none =>
    simp only [loadOrGenerateKek, generateKek, kekOutcome]
    cases ω.kek.random with
    | none => rfl
    | some key =>
      cases ω.kek.opens with
      | false => rfl
      | true =>
        cases ω.kek.crash with
        | false => rfl
        | true => rfl

/-! ### What holds when the write is whole -/

section Outcome

variable {a : KekAnswer} {mem key b : Bytes} {file : Option Bytes} {rc : ErrorCode}

/-- A loaded key is the content of the file. -/
theorem file_of_loaded (hok : KekFileOk file) (h : kekOutcome a mem file = .loaded key) :
    file = some key := by
  cases file with
  | some f =>
    have hlen := hok f rfl
    simp only [kekOutcome, hlen, lt_irrefl, if_false, List.take_of_length_le hlen.le] at h
    split at h
    · cases h
    · rw [KekOutcome.loaded.inj h]
  | none =>
    simp only [kekOutcome] at h
    repeat' split at h
    all_goals cases h

/-- The cases in which a key is made. -/
theorem of_made {o : KekOutcome} (h : kekOutcome a mem file = o)
    (ho : (∃ key b, o = .created key b) ∨ ∃ b, o = .cut b) :
    file = none ∧ a.opens = true ∧ ∃ key, a.random = some key ∧
      o = if a.crash then .cut (key.val.take a.written)
        else .created key.val (key.val.take a.written) := by
  subst h
  cases file with
  | some f =>
    simp only [kekOutcome] at ho
    repeat' split at ho
    all_goals rcases ho with ⟨_, _, ho⟩ | ⟨_, ho⟩ <;> cases ho
  | none =>
    cases hrandom : a.random with
    | none =>
      simp only [kekOutcome, hrandom] at ho
      rcases ho with ⟨_, _, ho⟩ | ⟨_, ho⟩ <;> cases ho
    | some key =>
      cases hopens : a.opens with
      | false =>
        simp only [kekOutcome, hrandom, hopens] at ho
        rcases ho with ⟨_, _, ho⟩ | ⟨_, ho⟩ <;> cases ho
      | true =>
        refine ⟨rfl, rfl, key, rfl, ?_⟩
        simp only [kekOutcome, hrandom, hopens, Bool.not_true, Bool.false_eq_true, if_false]

/-- A whole write leaves the key in the file. -/
theorem key_of_created (hwhole : a.Whole file) (h : kekOutcome a mem file = .created key b) :
    b = key ∧ key.length = kekSize ∧ file = none := by
  obtain ⟨hnone, hopens, k, hrandom, ho⟩ := of_made h (.inl ⟨key, b, rfl⟩)
  have htake : k.val.take a.written = k.val :=
    List.take_of_length_le (k.property.le.trans
      (hwhole hnone (Option.isSome_of_eq_some hrandom) hopens))
  split at ho
  · cases ho
  · obtain ⟨rfl, rfl⟩ := KekOutcome.created.inj ho
    exact ⟨htake, k.property, hnone⟩

/-- A crash after a whole write leaves a key in the file. -/
theorem length_of_cut (hwhole : a.Whole file) (h : kekOutcome a mem file = .cut b) :
    b.length = kekSize ∧ file = none := by
  obtain ⟨hnone, hopens, k, hrandom, ho⟩ := of_made h (.inr ⟨b, rfl⟩)
  have htake : k.val.take a.written = k.val :=
    List.take_of_length_le (k.property.le.trans
      (hwhole hnone (Option.isSome_of_eq_some hrandom) hopens))
  split at ho
  · obtain rfl := KekOutcome.cut.inj ho
    exact ⟨(congrArg List.length htake).trans k.property, hnone⟩
  · cases ho

/-- A failure leaves the key in memory alone while there is a key in the file. -/
theorem mem_of_failed (hok : KekFileOk file) (hfile : file.isSome = true) {m : Bytes}
    (h : kekOutcome a mem file = .failed rc m) : m = mem := by
  obtain ⟨f, rfl⟩ := Option.isSome_iff_exists.mp hfile
  have hlen := hok f rfl
  simp only [kekOutcome, hlen, lt_irrefl, if_false] at h
  split at h
  · exact (KekOutcome.failed.inj h).2.symm
  · cases h

theorem ne_success_of_failed {m : Bytes} (h : kekOutcome a mem file = .failed rc m) :
    rc ≠ .success := by
  intro hrc
  subst hrc
  unfold kekOutcome at h
  repeat' split at h
  all_goals cases h

/-- A key in the file is loaded. -/
theorem kekOutcome_of_key (hopens : a.opens = true) (hlen : key.length = kekSize) :
    kekOutcome a mem (some key) = .loaded key := by
  simp only [kekOutcome, hopens, Bool.not_true, Bool.false_eq_true, if_false, hlen, lt_irrefl,
    List.take_of_length_le hlen.le]

/-- Without a file, a key is made. -/
theorem kekOutcome_of_calm (mem : Bytes) (ha : a.Calm) :
    ∃ key : Key256, kekOutcome a mem none = .created key.val key.val := by
  obtain ⟨key, hkey⟩ := Option.isSome_iff_exists.mp ha.random
  refine ⟨key, ?_⟩
  simp only [kekOutcome, hkey, ha.opens, ha.survives, Bool.not_true, Bool.false_eq_true, if_false,
    List.take_of_length_le (key.property.le.trans ha.written)]

/-- A short file is never loaded. -/
theorem kekOutcome_of_short (a : KekAnswer) (mem : Bytes) (hlen : b.length < kekSize) :
    ∃ rc m, rc ≠ .success ∧ kekOutcome a mem (some b) = .failed rc m := by
  cases hopens : a.opens with
  | false => exact ⟨.storageReadFailed, mem, by decide, by simp [kekOutcome, hopens]⟩
  | true => exact ⟨.storageCorruption, [], by decide, by simp [kekOutcome, hopens, hlen]⟩

/-- **A write that is not whole** leaves a short file. -/
theorem short_of_not_whole (h : ¬ a.Whole file) :
    ∃ key : Key256, file = none ∧ (key.val.take a.written).length < kekSize ∧
      kekOutcome a mem file = if a.crash then .cut (key.val.take a.written)
        else .created key.val (key.val.take a.written) := by
  unfold KekAnswer.Whole at h
  push Not at h
  obtain ⟨rfl, hrandom, hopens, hshort⟩ := h
  obtain ⟨key, hkey⟩ := Option.isSome_iff_exists.mp hrandom
  refine ⟨key, rfl, ?_, ?_⟩
  · rw [List.length_take]
    omega
  · simp only [kekOutcome, hkey, hopens, Bool.not_true, Bool.false_eq_true, if_false]

end Outcome

end TboxSec.Keyprov
